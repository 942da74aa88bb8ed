import WorkflowConditions.Text.Occurrence
import WorkflowConditions.Value.Basic

namespace WorkflowConditions.Json

/-!
# Reading JSON

The reader takes the whole text or refuses it.  Numbers without fraction and
exponent are integers, of which overlong ones are refused; the names `NaN` and
`Infinity` stand for the floating-point numbers that have no digits.  A later field of
a record overrides an earlier one of its name.
-/

/-- White space between the parts of a document. -/
def isGap (c : Char) : Bool :=
  c == ' ' || c == '\t' || c == '\n' || c == '\r'

/-- The text after the white space at its front. -/
def skipGap (text : List Char) : List Char :=
  text.dropWhile isGap

/-- Value of a hexadecimal digit. -/
def hexDigit? (c : Char) : Option Nat :=
  if '0' ≤ c ∧ c ≤ '9' then some (c.toNat - 0x30)
  else if 'a' ≤ c ∧ c ≤ 'f' then some (c.toNat - 0x61 + 10)
  else if 'A' ≤ c ∧ c ≤ 'F' then some (c.toNat - 0x41 + 10)
  else none

/-- A UTF-16 unit of four hexadecimal digits and the text after it. -/
def unit? : List Char → Option (Nat × List Char)
  | a :: b :: c :: d :: rest => do
      let a ← hexDigit? a
      let b ← hexDigit? b
      let c ← hexDigit? c
      let d ← hexDigit? d
      return (a * 0x1000 + b * 0x100 + c * 0x10 + d, rest)
  | _ => none

/-- What an escape of one letter stands for. -/
def simpleEscape? : Char → Option Char
  | '\x22' => some '\x22'
  | '\\' => some '\\'
  | '/' => some '/'
  | 'b' => some '\x08'
  | 'f' => some '\x0c'
  | 'n' => some '\n'
  | 'r' => some '\r'
  | 't' => some '\t'
  | _ => none

/-- A part of a string: a character, or one UTF-16 unit of an escape. -/
inductive Part where
  | char (c : Char)
  | unit (code : Nat)
  deriving Repr

/-- Characters of the parts; two units of a surrogate pair are one character. -/
def joinParts : List Part → List Char
  | [] => []
  | .char c :: rest => c :: joinParts rest
  | .unit high :: .unit low :: rest =>
      if 0xd800 ≤ high ∧ high < 0xdc00 ∧ 0xdc00 ≤ low ∧ low < 0xe000 then
        Char.ofNat (0x10000 + (high - 0xd800) * 0x400 + (low - 0xdc00)) :: joinParts rest
      else Char.ofNat high :: joinParts (.unit low :: rest)
  | .unit code :: rest => Char.ofNat code :: joinParts rest

/-- Parts of a string up to its closing mark, and the text after it. -/
def parts? : (fuel : Nat) → List Char → Option (List Part × List Char)
  | 0, _ => none
  | _ + 1, [] => none
  | fuel + 1, c :: rest =>
      if c = '\x22' then some ([], rest)
      else if c = '\\' then
        match rest with
        | 'u' :: rest => do
            let (code, rest) ← unit? rest
            let (others, rest) ← parts? fuel rest
            return (.unit code :: others, rest)
        | letter :: rest => do
            let c ← simpleEscape? letter
            let (others, rest) ← parts? fuel rest
            return (.char c :: others, rest)
        | [] => none
      else if c.toNat < 0x20 then none
      else do
        let (others, rest) ← parts? fuel rest
        return (.char c :: others, rest)

/-- A string whose opening mark has been read, and the text after it. -/
def string? (text : List Char) : Option (String × List Char) := do
  let (parts, rest) ← parts? (text.length + 1) text
  return (String.ofList (joinParts parts), rest)

/-- Value of decimal digits. -/
def natural (digits : List Char) : Nat :=
  digits.foldl (fun total c => total * 10 + (c.toNat - 0x30)) 0

/-- The digits at the front of a text, and the text after them. -/
def digits (text : List Char) : List Char × List Char :=
  text.span Char.isDigit

/-- The whole part of a number: zero alone, or digits that do not start with it. -/
def whole? : List Char → Option (List Char × List Char)
  | '0' :: rest => some (['0'], rest)
  | text =>
      match digits text with
      | ([], _) => none
      | found => some found

/-- The digits after a point, and the text after them; no digits, no point. -/
def fraction : List Char → List Char × List Char
  | '.' :: rest =>
      match digits rest with
      | ([], _) => ([], '.' :: rest)
      | found => found
  | text => ([], text)

/-- The exponent after its letter, and the text after it. -/
def exponent (text : List Char) : Option Int × List Char :=
  match text with
  | letter :: rest =>
      if letter = 'e' ∨ letter = 'E' then
        let (negative, after) :=
          match rest with
          | '-' :: after => (true, after)
          | '+' :: after => (false, after)
          | after => (false, after)
        match digits after with
        | ([], _) => (none, text)
        | (found, after) =>
            let size : Int := natural found
            (some (if negative then -size else size), after)
      else (none, text)
  | [] => (none, [])

/-- A number without its sign, and the text after it. -/
def magnitude?
    (negative : Bool)
    (text : List Char) :
    Option (Value × List Char) := do
  let (wholeDigits, rest) ← whole? text
  let (fractionDigits, rest) := fraction rest
  let (power, rest) := exponent rest
  let isWhole := fractionDigits.isEmpty && power.isNone
  if isWhole then
    if Value.longestInteger < wholeDigits.length then none
    let size : Int := natural wholeDigits
    return (.integer (if negative then -size else size), rest)
  else
    let size := Binary64.ofDecimal (natural (wholeDigits ++ fractionDigits))
      (power.getD 0 - fractionDigits.length)
    return (.float (if negative then size.negate else size), rest)

/-- A word or a number at the front of a text, and the text after it. -/
def scalar? (text : List Char) : Option (Value × List Char) :=
  let words : List (String × Value) :=
    [("null", .null), ("true", .boolean true), ("false", .boolean false),
      ("NaN", .float .nan), ("Infinity", .float .infinity),
      ("-Infinity", .float Binary64.infinity.negate)]
  let word := words.findSome? fun (spelling, value) =>
    (Text.after? spelling.toList text).map fun rest => (value, rest)
  match word with
  | some found => some found
  | none =>
      match text with
      | '-' :: rest => magnitude? true rest
      | _ => magnitude? false text

mutual

/-- A value at the front of a text, and the text after it. -/
def value? : (fuel : Nat) → List Char → Option (Value × List Char)
  | 0, _ => none
  | fuel + 1, text =>
      match text with
      | '\x22' :: rest => (string? rest).map fun (found, rest) => (.text found, rest)
      | '[' :: rest =>
          match skipGap rest with
          | ']' :: rest => some (.list [], rest)
          | rest => do
              let (items, rest) ← items? fuel rest
              return (.list items, rest)
      | '\x7b' :: rest =>
          match skipGap rest with
          | '\x7d' :: rest => some (.record [], rest)
          | rest => do
              let (fields, rest) ← fields? fuel rest
              return (.record (Value.Fields.ofList fields), rest)
      | _ => scalar? text

/-- One item or more up to the closing bracket, and the text after it. -/
def items? : (fuel : Nat) → List Char → Option (List Value × List Char)
  | 0, _ => none
  | fuel + 1, text => do
      let (item, rest) ← value? fuel text
      match skipGap rest with
      | ']' :: rest => return ([item], rest)
      | ',' :: rest =>
          let (others, rest) ← items? fuel (skipGap rest)
          return (item :: others, rest)
      | _ => none

/-- One field or more up to the closing brace, and the text after it. -/
def fields? : (fuel : Nat) → List Char → Option (List (String × Value) × List Char)
  | 0, _ => none
  | fuel + 1, text => do
      match text with
      | '\x22' :: rest =>
          let (key, rest) ← string? rest
          match skipGap rest with
          | ':' :: rest =>
              let (value, rest) ← value? fuel (skipGap rest)
              match skipGap rest with
              | '\x7d' :: rest => return ([(key, value)], rest)
              | ',' :: rest =>
                  let (others, rest) ← fields? fuel (skipGap rest)
                  return ((key, value) :: others, rest)
              | _ => none
          | _ => none
      | _ => none

end

/-- The value that a whole document holds; a character allows for two steps of the reader. -/
def parse? (document : String) : Option Value := do
  let text := document.toList
  let (value, rest) ← value? (2 * text.length + 2) (skipGap text)
  if (skipGap rest).isEmpty then return value else none

end WorkflowConditions.Json
