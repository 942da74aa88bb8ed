import WorkflowConditions.Settings.Yaml.Node
import WorkflowConditions.Settings.Yaml.Quoted
import WorkflowConditions.Text.Space

namespace WorkflowConditions.Yaml

/-!
# Values in brackets

Lists in square brackets and mappings in braces may be nested and go over several
lines; JSON is written like that.  A comma after the last item is allowed, an entry
without a value has the null value, and a list item with a colon is a mapping of one
entry.  A scalar that goes on after an empty line or a comment is left uncovered.
-/

/-- The text after the end of the line. -/
def afterLine (text : List Char) : List Char :=
  text.dropWhile (· != '\n')

/-- The text after spaces, line ends and comments, from inside a comment or outside of one. -/
def skipGap (inComment : Bool) : List Char → List Char
  | [] => []
  | c :: rest =>
      if inComment then skipGap (c != '\n') rest
      else if c = ' ' ∨ c = '\n' then skipGap false rest
      else if c = '#' then skipGap true rest
      else c :: rest

/-- The text after spaces, line ends and comments. -/
def afterGap (text : List Char) : List Char :=
  skipGap false text

/-- Whether a character separates the parts of a value in brackets. -/
def isFlowMark (c : Char) : Bool :=
  [',', '[', ']', '\x7b', '\x7d'].contains c

/-- Whether the text after a colon sets the colon apart from a word. -/
def endsKey
    (inFlow : Bool)
    (after : List Char) :
    Bool :=
  match after with
  | [] => true
  | c :: _ => c == ' ' || c == '\n' || c == '\t' || (inFlow && isFlowMark c)

/-- Whether a plain word can start here: no mark, or one of three that a blank does not follow. -/
def startsWord
    (inFlow : Bool)
    (text : List Char) :
    Bool :=
  match text with
  | [] => false
  | c :: rest =>
      if c = '-' ∨ (!inFlow ∧ (c = '?' ∨ c = ':')) then !endsKey false rest
      else !(" \t\n-?:,[]\x7b\x7d#&*!|>%@\x27\x22".toList.contains c || c == '\x60')

/-- The letters of a word inside brackets, and what is left after them; a tab has no place there. -/
def flowLetters? : List Char → Option (List Char × List Char)
  | [] => some ([], [])
  | c :: rest =>
      if c = '\t' then none
      else if isFlowMark c ∨ c = '?' then some ([], c :: rest)
      else if c = ':' ∧ endsKey true rest then some ([], c :: rest)
      else if (c = ' ' ∨ c = '\n') ∧ rest.head? = some '#' then some ([], rest)
      else (flowLetters? rest).map fun (letters, after) => (c :: letters, after)

/-- A word without the spaces around it. -/
def trimSpaces (text : List Char) : List Char :=
  Text.trimBy (· == ' ') text

/-- Whether a text has two line ends in a row: a line between them was left out. -/
def hasGap : List Char → Bool
  | '\n' :: '\n' :: _ => true
  | _ :: rest => hasGap rest
  | [] => false

/-- The word of some letters, unless it has a gap. -/
def wordOf (letters : List Char) : Node :=
  let trimmed := Text.trimBy (fun c => c == ' ' || c == '\n') letters
  if hasGap trimmed then .uncovered else .word (trimmed.map unfolded)

/-- A quoted text, unless it has a gap, and what is left after it. -/
def quotedOf? (text : List Char) : Option (Node × List Char) :=
  (quoted? text).map fun (content, after) =>
    let source := text.take (text.length - after.length)
    (if hasGap source then .uncovered else .quoted content, after)

/-- A scalar inside brackets, and what is left after it. -/
def flowScalar? (text : List Char) : Option (Node × List Char) :=
  match quotedOf? text with
  | some found => some found
  | none =>
      if startsWord true text then
        (flowLetters? text).map fun (letters, after) => (wordOf letters, after)
      else none

/-- A scalar as a key. -/
def Node.key? : Node → Option Key
  | .word letters => some (.word letters)
  | .quoted content => some (.quoted content)
  | _ => none

mutual

/-- A value inside brackets, and what is left after it. -/
def flow? : (fuel : Nat) → List Char → Option (Node × List Char)
  | 0, _ => none
  | fuel + 1, text =>
      match text with
      | '[' :: rest =>
          (flowItems? fuel (afterGap rest)).map fun (items, after) => (.list items, after)
      | '\x7b' :: rest =>
          (flowEntries? fuel (afterGap rest)).map fun (entries, after) => (.mapping entries, after)
      | _ => flowScalar? text

/-- The value after a key, if there is a colon, and what is left after it. -/
def flowField? : (fuel : Nat) → List Char → Option (Node × List Char)
  | 0, _ => none
  | fuel + 1, text =>
      match text with
      | ':' :: rest =>
          match afterGap rest with
          | [] => none
          | c :: rest =>
              if c = ',' ∨ c = ']' ∨ c = '\x7d' then some (.blank, c :: rest)
              else flow? fuel (c :: rest)
      | _ => some (.blank, text)

/-- An item of a list, and what is left after it and a gap. -/
def flowItem? : (fuel : Nat) → List Char → Option (Node × List Char)
  | 0, _ => none
  | fuel + 1, text => do
      let (first, rest) ← flow? fuel text
      match afterGap rest with
      | ':' :: rest =>
          let key ← first.key?
          let (value, rest) ← flowField? fuel (':' :: rest)
          return (.mapping [(key, value)], afterGap rest)
      | rest => return (first, rest)

/-- The items up to the closing bracket, and what is left after it. -/
def flowItems? : (fuel : Nat) → List Char → Option (List Node × List Char)
  | 0, _ => none
  | _ + 1, ']' :: rest => some ([], rest)
  | fuel + 1, text => do
      let (item, rest) ← flowItem? fuel text
      match rest with
      | ']' :: rest => return ([item], rest)
      | ',' :: rest =>
          let (others, rest) ← flowItems? fuel (afterGap rest)
          return (item :: others, rest)
      | _ => none

/-- The entries up to the closing brace, and what is left after it. -/
def flowEntries? : (fuel : Nat) → List Char → Option (List (Key × Node) × List Char)
  | 0, _ => none
  | _ + 1, '\x7d' :: rest => some ([], rest)
  | fuel + 1, text => do
      let (first, rest) ← flowScalar? text
      let key ← first.key?
      let (value, rest) ← flowField? fuel (afterGap rest)
      match afterGap rest with
      | '\x7d' :: rest => return ([(key, value)], rest)
      | ',' :: rest =>
          let (others, rest) ← flowEntries? fuel (afterGap rest)
          return ((key, value) :: others, rest)
      | _ => none

end

end WorkflowConditions.Yaml
