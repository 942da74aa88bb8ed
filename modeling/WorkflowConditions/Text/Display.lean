import WorkflowConditions.Text.Printable

namespace WorkflowConditions.Text

/-!
# Showing text

Text that a report quotes stands between quotation marks, with escapes for what a
reader could not see.  Text that stands for itself is shown without a few control
characters.
-/

/-- Hexadecimal digits of a number, padded with zeros. -/
def hexadecimal
    (width : Nat)
    (n : Nat) :
    List Char :=
  let digits := Nat.toDigits 16 n
  List.replicate (width - digits.length) '0' ++ digits

/-- A character between quotation marks. -/
def showChar
    (mark : Char)
    (c : Char) :
    List Char :=
  let code := c.toNat
  if c = mark ∨ c = '\\' then ['\\', c]
  else if c = '\n' then ['\\', 'n']
  else if c = '\r' then ['\\', 'r']
  else if c = '\t' then ['\\', 't']
  else if isPrintable c then [c]
  else if code < 0x100 then '\\' :: 'x' :: hexadecimal 2 code
  else if code < 0x10000 then '\\' :: 'u' :: hexadecimal 4 code
  else '\\' :: 'U' :: hexadecimal 8 code

/-- The mark around a quoted text: double when the text has only single ones. -/
def showMark (text : List Char) : Char :=
  if text.contains '\x27' && !text.contains '\x22' then '\x22' else '\x27'

/-- Text between quotation marks. -/
def showQuoted (text : String) : String :=
  let mark := showMark text.toList
  String.ofList (mark :: text.toList.flatMap (showChar mark) ++ [mark])

/-- A list of texts, each between quotation marks. -/
def showList (texts : List String) : String :=
  "[" ++ String.intercalate ", " (texts.map showQuoted) ++ "]"

/-- Control characters that a display drops. -/
def isDropped (c : Char) : Bool :=
  let code := c.toNat
  code == 0x07 || code == 0x08 || code == 0x0b || code == 0x0c || code == 0x0d

/-- Text as a display shows it, without the control characters it drops. -/
def displayed (text : String) : String :=
  String.ofList (text.toList.filter (!isDropped ·))

end WorkflowConditions.Text
