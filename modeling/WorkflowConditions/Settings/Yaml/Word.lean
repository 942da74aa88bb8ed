import WorkflowConditions.Text.Lines
import WorkflowConditions.Value.Json.Read

namespace WorkflowConditions.Yaml

/-!
# Plain words

A word without quotation marks stands for the null value, for a truth value or for
a number if it is spelled like one, and for itself otherwise.  Dates and numbers to
the base of sixty with a point are not read.
-/

/-- A failure while a document is read, by its kind and what is known of it. -/
structure ReadFailure where
  kind : String
  message : String
  deriving Repr, DecidableEq

namespace ReadFailure

/-- An integer is spelled with too many digits. -/
def overlong (digits : Nat) : ReadFailure where
  kind := "ValueError"
  message :=
    "Exceeds the limit (" ++ toString Value.longestInteger ++
      " digits) for integer string conversion: value has " ++ toString digits ++
      " digits; use sys.set_int_max_str_digits() to increase the limit"

/-- An integer to a base is spelled without any digit. -/
def noDigits (base : Nat) : ReadFailure where
  kind := "ValueError"
  message := "invalid literal for int() with base " ++ toString base ++ ": ''"

end ReadFailure

/-- Why a document has no value. -/
inductive Problem where
  /-- The text is not well formed. -/
  | malformed
  /-- The text lies outside of the part of YAML that is read here. -/
  | uncovered
  /-- The document is a mapping, and some key of it is no text. -/
  | oddKey
  /-- Reading fails at one of the words. -/
  | failure (cause : ReadFailure)
  deriving Repr, DecidableEq

/-- Words for the null value. -/
def nullWords : List String :=
  ["", "~", "null", "Null", "NULL"]

/-- Words for truth. -/
def trueWords : List String :=
  ["true", "True", "TRUE", "yes", "Yes", "YES", "on", "On", "ON"]

/-- Words for falsehood. -/
def falseWords : List String :=
  ["false", "False", "FALSE", "no", "No", "NO", "off", "Off", "OFF"]

/-- Words that are set aside and have no value. -/
def reservedWords : List String :=
  ["=", "<<"]

/-- A sign and the text after it. -/
def sign : List Char → Bool × List Char
  | '-' :: rest => (true, rest)
  | '+' :: rest => (false, rest)
  | text => (false, text)

/-- A digit, or an underscore among digits. -/
def isDigitOrUnderscore (c : Char) : Bool :=
  c.isDigit || c == '_'

/-- Whether a text consists of digits of a base and underscores. -/
def isSpelledIn
    (base : Nat)
    (text : List Char) :
    Bool :=
  !text.isEmpty && text.all fun c => c == '_' || (Json.hexDigit? c).any (· < base)

/-- Value of digits of a base; underscores are passed over. -/
def inBase
    (base : Nat)
    (text : List Char) :
    Nat :=
  (text.filterMap Json.hexDigit?).foldl (fun total digit => total * base + digit) 0

/-- Value of digits of a base, if a text is spelled with them; underscores alone have none. -/
def inBase?
    (base : Nat)
    (text : List Char) :
    Option (Except Problem Nat) :=
  if !isSpelledIn base text then none
  else if text.all (· == '_') then some (.error (.failure (.noDigits base)))
  else some (.ok (inBase base text))

/-- Value of decimal digits, with underscores passed over, unless there are too many of them. -/
def decimal (text : List Char) : Except Problem Nat :=
  let digits := text.filter (· != '_')
  if Value.longestInteger < digits.length then .error (.failure (.overlong digits.length))
  else .ok (Json.natural digits)

/-- A part after the first one of a number to the base of sixty. -/
def sixtieth? (text : List Char) : Option Nat :=
  match text with
  | [c] => if c.isDigit then some (Json.natural [c]) else none
  | [c, d] => if c.isDigit ∧ c ≤ '5' ∧ d.isDigit then some (Json.natural [c, d]) else none
  | _ => none

/-- Size of an integer that does not start with zero: decimal, or parts to the base of sixty. -/
def positive? (text : List Char) : Option (Except Problem Nat) :=
  match Text.splitAtEach ':' text with
  | [] => none
  | first :: others =>
      if first.isEmpty || !first.all isDigitOrUnderscore then none
      else
        (others.mapM sixtieth?).map fun parts =>
          (decimal first).map fun size =>
            parts.foldl (fun total part => total * 60 + part) size

/-- Size of an integer in one of its notations. -/
def naturalWord? : List Char → Option (Except Problem Nat)
  | ['0'] => some (.ok 0)
  | '0' :: 'b' :: rest => inBase? 2 rest
  | '0' :: 'x' :: rest => inBase? 16 rest
  | '0' :: rest => inBase? 8 ('0' :: rest)
  | c :: rest => if c.isDigit then positive? (c :: rest) else none
  | [] => none

/-- The integer that a plain word stands for. -/
def integerWord? (text : List Char) : Option (Except Problem Int) :=
  let (negative, unsigned) := sign text
  (naturalWord? unsigned).map fun found =>
    found.map fun size => if negative then -(size : Int) else size

/-- The exponent at the end of a number, which always has a sign. -/
def exponent? : List Char → Option Int
  | [] => some 0
  | letter :: mark :: digits =>
      if (letter = 'e' ∨ letter = 'E') ∧ (mark = '+' ∨ mark = '-') ∧ !digits.isEmpty ∧
          digits.all Char.isDigit then
        let size : Int := Json.natural digits
        some (if mark = '-' then -size else size)
      else none
  | _ => none

/-- A number with a point: digits before it, digits after it and an exponent. -/
def pointed? (text : List Char) : Option Binary64 :=
  let whole := text.takeWhile isDigitOrUnderscore
  match text.drop whole.length with
  | '.' :: rest =>
      let fraction := rest.takeWhile isDigitOrUnderscore
      let places := fraction.filter (· != '_')
      (exponent? (rest.drop fraction.length)).map fun power =>
        .ofDecimal (Json.natural (whole.filter (· != '_') ++ places)) (power - places.length)
  | _ => none

/-- The number with a point that a plain word stands for; before the point stands a digit, or
nothing at all and then a digit after it. -/
def floatWord? (text : List Char) : Option Binary64 :=
  let (negative, unsigned) := sign text
  let signed (x : Binary64) : Binary64 := if negative then x.negate else x
  if [".inf", ".Inf", ".INF"].contains (String.ofList unsigned) then some (signed .infinity)
  else if [".nan", ".NaN", ".NAN"].contains (String.ofList text) then some .nan
  else
    match text, unsigned with
    | '.' :: first :: _, _ => if first.isDigit then pointed? text else none
    | _, first :: _ => if first.isDigit then (pointed? unsigned).map signed else none
    | _, [] => none

/-- Whether a word starts like a date, with numbers for a year, a month and a day. -/
def startsDate (text : List Char) : Bool :=
  match Text.splitAtEach '-' text with
  | year :: month :: day :: _ =>
      year.length == 4 && !month.isEmpty && (year ++ month ++ day.take 1).all Char.isDigit
  | _ => false

/-- Whether a word is spelled like a number to the base of sixty with a point. -/
def isSixtiethsWithPoint (text : List Char) : Bool :=
  let (_, unsigned) := sign text
  unsigned.head?.any Char.isDigit && unsigned.contains ':' && unsigned.contains '.' &&
    unsigned.all fun c => isDigitOrUnderscore c || c == ':' || c == '.'

/-- Whether a word may stand for a value of a kind that is not read here. -/
def isUncovered (text : List Char) : Bool :=
  startsDate text || isSixtiethsWithPoint text

/-- The value that a plain word stands for. -/
def resolve (text : List Char) : Except Problem Value :=
  let word := String.ofList text
  if nullWords.contains word then .ok .null
  else if trueWords.contains word then .ok (.boolean true)
  else if falseWords.contains word then .ok (.boolean false)
  else if reservedWords.contains word then .error .malformed
  else if isUncovered text then .error .uncovered
  else
    match integerWord? text with
    | some found => found.map .integer
    | none =>
        match floatWord? text with
        | some value => .ok (.float value)
        | none => .ok (.text word)

end WorkflowConditions.Yaml
