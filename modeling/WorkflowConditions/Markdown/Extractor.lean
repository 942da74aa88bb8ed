import WorkflowConditions.Digest.Sha256
import WorkflowConditions.Markdown.Expression
import WorkflowConditions.Text.Occurrence

namespace WorkflowConditions.Markdown

open Text (replaceAll)

/-!
# Extraction of expressions

Every distinct expression of a markdown text is given an environment variable, and
the text refers to the variable by a placeholder instead.
-/

/-- Whether a character can start a name. -/
def startsName (c : Char) : Bool :=
  c.isAlpha || c == '_'

/-- Whether a character can continue a name. -/
def continuesName (c : Char) : Bool :=
  c.isAlphanum || c == '_'

/-- Whether a text continues a chain of names joined by dots; `fresh` at the start of a name. -/
def continuesChain : (fresh : Bool) → List Char → Bool
  | fresh, [] => !fresh
  | true, c :: rest => startsName c && continuesChain false rest
  | false, c :: rest =>
      if c = '.' then continuesChain true rest
      else continuesName c && continuesChain false rest

/-- Whether a text is a chain of names joined by dots. -/
def isChain (text : List Char) : Bool :=
  continuesChain true text

/-- What the names of all variables start with. -/
def variableStart : String :=
  "GH_AW_"

/-- A chain of names in upper case, its dots replaced by underscores. -/
def chainName (chain : List Char) : String :=
  String.ofList (chain.map fun c => if c = '.' then '_' else c.toUpper)

/--
The variable of an expression: spelled after a chain of names, and after a
fingerprint for any other expression.
-/
def variableName (content : List Char) : String :=
  variableStart ++
    if isChain content then chainName content
    else "EXPR_" ++ Digest.fingerprint (String.ofList content)

/-- An expression and the variable that carries it. -/
structure Mapping where
  /-- The expression with its wrapper. -/
  source : String
  /-- The variable that carries the expression. -/
  envVar : String
  /-- The trimmed expression without its wrapper. -/
  content : String
  deriving Repr, DecidableEq

namespace Mapping

/-- The mapping of an expression, given what stands inside its wrapper. -/
def ofContent (inner : List Char) : Mapping :=
  let content := Text.trimChars inner
  ⟨String.ofList (Piece.wrap inner), variableName content, String.ofList content⟩

/-- What replaces the expression in a text. -/
def placeholder (mapping : Mapping) : String :=
  "__" ++ mapping.envVar ++ "__"

end Mapping

/-- The mappings recorded so far, in the order of recording. -/
structure Extractor where
  mappings : List Mapping
  deriving Repr, DecidableEq

namespace Extractor

/-- Nothing has been recorded. -/
def empty : Extractor :=
  ⟨[]⟩

/-- Record an expression unless it is known. -/
def record
    (extractor : Extractor)
    (mapping : Mapping) :
    Extractor :=
  if extractor.mappings.any (·.source == mapping.source) then extractor
  else ⟨extractor.mappings ++ [mapping]⟩

/-- Record the expressions of a markdown text. -/
def extract
    (extractor : Extractor)
    (markdown : String) :
    Extractor :=
  (contents markdown.toList).foldl
    (fun known content => known.record (.ofContent content)) extractor

/-- Recorded mappings by their source text. -/
def bySource (extractor : Extractor) : List Mapping :=
  extractor.mappings.mergeSort fun first second => !(second.source < first.source)

/-- Recorded mappings by their variable; equal ones keep the order of recording. -/
def byVariable (extractor : Extractor) : List Mapping :=
  extractor.mappings.mergeSort fun first second => !(second.envVar < first.envVar)

/-- Recorded mappings, the longest source first. -/
def byLength (extractor : Extractor) : List Mapping :=
  extractor.mappings.mergeSort fun first second =>
    second.source.length ≤ first.source.length

/-- Replace every recorded expression in a text by its placeholder, longest first. -/
def replace
    (extractor : Extractor)
    (markdown : String) :
    String :=
  String.ofList
    (extractor.byLength.foldl
      (fun text mapping =>
        replaceAll mapping.source.toList mapping.placeholder.toList text)
      markdown.toList)

end Extractor

end WorkflowConditions.Markdown
