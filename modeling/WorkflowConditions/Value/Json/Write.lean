import WorkflowConditions.Decimal.Shortest
import WorkflowConditions.Value.Display

namespace WorkflowConditions.Json

/-!
# Writing JSON

Values are written in ASCII: every other character is escaped by its UTF-16 units.
On one line items are separated by a comma and a space; the indented form puts
every item on a line of its own.
-/

/-- A UTF-16 unit as an escape. -/
def unitEscape (unit : Nat) : List Char :=
  '\\' :: 'u' :: Text.hexadecimal 4 unit

/-- A character inside a string. -/
def escapeChar (c : Char) : List Char :=
  let code := c.toNat
  if c = '\x22' ∨ c = '\\' then ['\\', c]
  else if c = '\n' then ['\\', 'n']
  else if c = '\r' then ['\\', 'r']
  else if c = '\t' then ['\\', 't']
  else if code = 0x08 then ['\\', 'b']
  else if code = 0x0c then ['\\', 'f']
  else if 0x20 ≤ code ∧ code ≤ 0x7e then [c]
  else if code < 0x10000 then unitEscape code
  else
    let offset := code - 0x10000
    unitEscape (0xd800 + offset / 0x400) ++ unitEscape (0xdc00 + offset % 0x400)

/-- A string between its quotation marks. -/
def string (text : String) : String :=
  String.ofList ('\x22' :: text.toList.flatMap escapeChar ++ ['\x22'])

/-- A number with a fraction. -/
def float (x : Binary64) : String :=
  if x.isNaN then "NaN"
  else if !x.isFinite then (if x.isNegative then "-Infinity" else "Infinity")
  else x.text

mutual

/-- A value on one line. -/
def line : Value → String
  | .null => "null"
  | .boolean value => if value then "true" else "false"
  | .integer value => toString value
  | .float value => float value
  | .text value => string value
  | .list items => "[" ++ String.intercalate ", " (lineItems items) ++ "]"
  | .record fields => "\x7b" ++ String.intercalate ", " (lineFields fields) ++ "\x7d"

/-- Items of a list on one line. -/
def lineItems : List Value → List String
  | [] => []
  | item :: rest => line item :: lineItems rest

/-- Fields of a record on one line. -/
def lineFields : List (String × Value) → List String
  | [] => []
  | (key, value) :: rest => (string key ++ ": " ++ line value) :: lineFields rest

end

/-- A line break and the indentation of a depth, two spaces each. -/
def newline (depth : Nat) : String :=
  String.ofList ('\n' :: List.replicate (2 * depth) ' ')

/-- Entries between brackets on a line each; brackets without entries stay together. -/
def block
    (opening closing : String)
    (depth : Nat)
    (entries : List String) :
    String :=
  if entries.isEmpty then opening ++ closing
  else
    opening ++ newline (depth + 1) ++ String.intercalate ("," ++ newline (depth + 1)) entries ++
      newline depth ++ closing

mutual

/-- A value on several lines, at a depth. -/
def indented (depth : Nat) : Value → String
  | .list items => block "[" "]" depth (indentedItems (depth + 1) items)
  | .record fields => block "\x7b" "\x7d" depth (indentedFields (depth + 1) fields)
  | .null => "null"
  | .boolean value => if value then "true" else "false"
  | .integer value => toString value
  | .float value => float value
  | .text value => string value

/-- Items of a list, at a depth. -/
def indentedItems (depth : Nat) : List Value → List String
  | [] => []
  | item :: rest => indented depth item :: indentedItems depth rest

/-- Fields of a record, at a depth. -/
def indentedFields (depth : Nat) : List (String × Value) → List String
  | [] => []
  | (key, value) :: rest =>
      (string key ++ ": " ++ indented depth value) :: indentedFields depth rest

end

/-- A value as an indented document. -/
def document (value : Value) : String :=
  indented 0 value

end WorkflowConditions.Json
