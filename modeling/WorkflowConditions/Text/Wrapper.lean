import WorkflowConditions.Text.Space

namespace WorkflowConditions.Text

/-!
# Expression wrapper

Platform text marks an expression by a wrapper of a dollar sign with two opening
braces, and two closing braces.
-/

/-- Opening of a wrapped expression. -/
def opening : List Char :=
  ['$', '\x7b', '\x7b']

/-- Closing of a wrapped expression. -/
def closing : List Char :=
  ['\x7d', '\x7d']

/--
Remove the wrapper around a text, if the text has both its ends, and the white
space around what is left.
-/
def unwrapChars (text : List Char) : List Char :=
  let trimmed := trimChars text
  if opening.isPrefixOf trimmed && closing.isSuffixOf trimmed then
    trimChars ((trimmed.take (trimmed.length - closing.length)).drop opening.length)
  else
    trimmed

/-- The expression inside a wrapper, or the trimmed text when it has none. -/
def unwrap (text : String) : String :=
  String.ofList (unwrapChars text.toList)

end WorkflowConditions.Text
