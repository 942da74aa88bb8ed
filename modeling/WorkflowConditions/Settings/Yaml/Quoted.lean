import WorkflowConditions.Value.Json.Read

namespace WorkflowConditions.Yaml

/-!
# Quoted text

In single quotation marks only the mark itself is written twice.  In double ones a
backslash starts an escape.  A line end inside of either counts as a space.  A text
with an escape for half a surrogate pair, or beyond all code points, is not read.
-/

/-- A character of quoted text; a line end is a space. -/
def unfolded (c : Char) : Char :=
  if c = '\n' then ' ' else c

/-- A text in single quotation marks, its opening mark read, and what is left after it. -/
def singleQuoted? : List Char → Option (List Char × List Char)
  | [] => none
  | '\x27' :: '\x27' :: rest =>
      (singleQuoted? rest).map fun (content, after) => ('\x27' :: content, after)
  | '\x27' :: rest => some ([], rest)
  | c :: rest => (singleQuoted? rest).map fun (content, after) => (unfolded c :: content, after)

/-- What an escape of one letter stands for. -/
def letterEscape? : Char → Option Char
  | '0' => some '\x00'
  | 'a' => some '\x07'
  | 'b' => some '\x08'
  | 't' => some '\t'
  | '\t' => some '\t'
  | 'n' => some '\n'
  | 'v' => some '\x0b'
  | 'f' => some '\x0c'
  | 'r' => some '\r'
  | 'e' => some '\x1b'
  | ' ' => some ' '
  | '\x22' => some '\x22'
  | '\\' => some '\\'
  | '/' => some '/'
  | 'N' => some '\u0085'
  | '_' => some '\u00a0'
  | 'L' => some '\u2028'
  | 'P' => some '\u2029'
  | _ => none

/-- Number of digits of an escape that gives a code point. -/
def codeLength? : Char → Option Nat
  | 'x' => some 2
  | 'u' => some 4
  | 'U' => some 8
  | _ => none

/-- Value of hexadecimal digits. -/
def hexadecimal? (digits : List Char) : Option Nat :=
  digits.foldlM (fun total c => (Json.hexDigit? c).map (total * 16 + ·)) 0

/-- The code point that some digits give, and what is left after them. -/
def code?
    (length : Nat)
    (text : List Char) :
    Option (Nat × List Char) :=
  if text.length < length then none
  else (hexadecimal? (text.take length)).map fun code => (code, text.drop length)

/-- A text in double quotation marks, its opening mark read, and what is left after it. -/
def doubleQuoted? : (fuel : Nat) → List Char → Option (List Json.Part × List Char)
  | 0, _ => none
  | _ + 1, [] => none
  | _ + 1, '\x22' :: rest => some ([], rest)
  | fuel + 1, '\\' :: '\n' :: rest => doubleQuoted? fuel rest
  | fuel + 1, '\\' :: letter :: rest =>
      match codeLength? letter with
      | some length => do
          let (code, rest) ← code? length rest
          let (others, rest) ← doubleQuoted? fuel rest
          return (.unit code :: others, rest)
      | none => do
          let c ← letterEscape? letter
          let (others, rest) ← doubleQuoted? fuel rest
          return (.char c :: others, rest)
  | fuel + 1, c :: rest =>
      (doubleQuoted? fuel rest).map fun (others, after) => (.char (unfolded c) :: others, after)

/-- Whether every code point is a character, alone or as half of a surrogate pair. -/
def areCharacters : List Json.Part → Bool
  | [] => true
  | .char _ :: rest => areCharacters rest
  | .unit high :: .unit low :: rest =>
      if 0xd800 ≤ high ∧ high < 0xdc00 ∧ 0xdc00 ≤ low ∧ low < 0xe000 then areCharacters rest
      else decide high.isValidChar && areCharacters (.unit low :: rest)
  | .unit code :: rest => decide code.isValidChar && areCharacters rest

/-- A quoted text and what is left after it. -/
def quoted? : List Char → Option (String × List Char)
  | '\x22' :: rest =>
      match doubleQuoted? (rest.length + 1) rest with
      | some (parts, after) =>
          if areCharacters parts then some (String.ofList (Json.joinParts parts), after) else none
      | none => none
  | '\x27' :: rest =>
      (singleQuoted? rest).map fun (content, after) => (String.ofList content, after)
  | _ => none

end WorkflowConditions.Yaml
