import WorkflowConditions.Text.Space
import WorkflowConditions.Value.Basic

namespace WorkflowConditions

/-!
# Integers in settings

An integer setting may be given as an integer, as a number without fraction, as a
truth value, or as text that spells an integer.
-/

/-- Why a value is no integer. -/
inductive IntegerProblem where
  /-- The value is of a kind that never is one. -/
  | wrongKind
  /-- The text spells none. -/
  | unreadable
  /-- The number has a fraction. -/
  | fractional
  /-- The number is infinite or undefined. -/
  | notFinite
  /-- The number has too many digits. -/
  | oversized
  deriving Repr, DecidableEq

namespace IntegerProblem

/-- What is reported. -/
def message : IntegerProblem → String
  | .wrongKind => "Input should be a valid integer"
  | .unreadable => "Input should be a valid integer, unable to parse string as an integer"
  | .fractional => "Input should be a valid integer, got a number with a fractional part"
  | .notFinite => "Input should be a finite number"
  | .oversized => "Unable to parse input string as an integer, exceeded maximum size"

end IntegerProblem

namespace Integer

/-- White space around a spelled integer; the information separators do not count. -/
def isMargin (c : Char) : Bool :=
  Text.isSpace c && !(0x1c ≤ c.toNat && c.toNat ≤ 0x1f)

/-- The text after a plus sign, which no minus sign may follow. -/
def withoutPlus? : List Char → Option (List Char)
  | '+' :: '-' :: _ => none
  | '+' :: rest => some rest
  | text => some text

/-- Whether a character can start the part of a spelling that counts. -/
def startsCount (c : Char) : Bool :=
  c == '-' || (c.isDigit && c != '0')

/-- What follows leading zeros, of which `last` is the latest; underscores may stand between them.
A sign may follow them too, and the last one stays before a point or at the end. -/
def afterZeros? (last : Char) : List Char → Option (List Char)
  | [] => some [last]
  | c :: rest =>
      if c = '0' ∨ c = '_' then afterZeros? c rest
      else if startsCount c then some (c :: rest)
      else if c = '.' then some (last :: c :: rest)
      else none

/-- A spelling without its leading zeros. -/
def withoutZeros? : List Char → Option (List Char)
  | [] => none
  | c :: rest =>
      if c = '0' then afterZeros? c rest
      else if startsCount c then some (c :: rest)
      else none

/-- The text before a point that only zeros follow, at least one of them. -/
def withoutFraction (text : List Char) : List Char :=
  let whole := text.takeWhile (· != '.')
  match text.drop whole.length with
  | '.' :: zero :: zeros => if (zero :: zeros).all (· == '0') then whole else text
  | _ => text

/-- Whether two underscores stand side by side. -/
def hasDoubleUnderscore : List Char → Bool
  | '_' :: '_' :: _ => true
  | _ :: rest => hasDoubleUnderscore rest
  | [] => false

/-- A spelling without its underscores; they stay if one is at an end or beside another. -/
def withoutUnderscores (text : List Char) : List Char :=
  if text.head? == some '_' || text.getLast? == some '_' || hasDoubleUnderscore text then text
  else text.filter (· != '_')

/-- The part of a spelling that counts. -/
def reduced? (text : List Char) : Option (List Char) := do
  let unsigned ← withoutPlus? (Text.trimBy isMargin text)
  let significant ← withoutZeros? unsigned
  return withoutUnderscores (withoutFraction significant)

/-- Most characters of a sign and its digits that are read. -/
def longestSpelling : Nat :=
  4300

/-- Size that digits spell, which are a lone zero or do not start with one.  A spelling that is too
long is reported as such whatever follows its digits. -/
def size (signLength : Nat) : List Char → Except IntegerProblem Nat
  | ['0'] => .ok 0
  | '0' :: _ => .error .unreadable
  | text =>
      let digits := text.takeWhile Char.isDigit
      if longestSpelling < signLength + digits.length then .error .oversized
      else if digits.isEmpty ∨ digits.length ≠ text.length then .error .unreadable
      else .ok (digits.foldl (fun total c => total * 10 + (c.toNat - 0x30)) 0)

/-- The integer that a text spells. -/
def ofText (text : String) : Except IntegerProblem Int :=
  match reduced? text.toList with
  | none => .error .unreadable
  | some ('-' :: digits) => (size 1 digits).map fun found => -(found : Int)
  | some digits => (size 0 digits).map fun found => (found : Int)

/-- Numbers of this size and beyond are not taken from floating point. -/
def floatLimit : Int :=
  0x8000000000000000

/-- The integer that a value stands for. -/
def ofValue : Value → Except IntegerProblem Int
  | .integer value => .ok value
  | .boolean value => .ok (if value then 1 else 0)
  | .float value =>
      if !value.isFinite then .error .notFinite
      else
        match value.toInt? with
        | none => .error .fractional
        | some whole =>
            if -floatLimit < whole ∧ whole < floatLimit then .ok whole else .error .oversized
  | .text value => ofText value
  | .null | .list _ | .record _ => .error .wrongKind

end Integer

end WorkflowConditions
