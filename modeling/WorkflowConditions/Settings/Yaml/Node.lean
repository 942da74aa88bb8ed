import WorkflowConditions.Settings.Yaml.Word

namespace WorkflowConditions.Yaml

/-!
# The shape of a document

A document is read in two steps: its shape first, and then what its plain words
stand for.  So a text that is not well formed is reported as such whatever words it
holds.  The words are read level by level, from the outermost list or mapping to the
innermost ones.
-/

/-- The key of an entry: a word without quotation marks, or a text in them. -/
inductive Key where
  | word (letters : List Char)
  | quoted (content : String)
  deriving Repr

/-- The shape of a document or a part of it. -/
inductive Node where
  /-- A word without quotation marks. -/
  | word (letters : List Char)
  /-- A text in quotation marks. -/
  | quoted (content : String)
  | list (items : List Node)
  | mapping (entries : List (Key × Node))
  /-- A scalar that is not read. -/
  | uncovered
  deriving Repr

/-- The problem of a word, if it has one. -/
def problem? (letters : List Char) : Option Problem :=
  match resolve letters with
  | .ok _ => none
  | .error problem => some problem

namespace Key

/-- The name that a key gives, if it is a text. -/
def name : Key → String
  | .word letters => String.ofList letters
  | .quoted content => content

/-- The problem of a key, if it has one; an equals sign is a key, and two arrows merge mappings. -/
def problem? : Key → Option Problem
  | .quoted _ => none
  | .word ['='] => none
  | .word ['<', '<'] => some .uncovered
  | .word letters => Yaml.problem? letters

/-- Whether a key stands for a value of another kind than text. -/
def isOdd : Key → Bool
  | .quoted _ => false
  | .word letters =>
      match resolve letters with
      | .error _ => false
      | .ok (.text _) => false
      | .ok _ => true

end Key

namespace Node

/-- The shape of nothing at all. -/
def blank : Node :=
  .word []

/-- The problem of a node that is a scalar, if it has one. -/
def scalarProblem? : Node → Option Problem
  | .word letters => problem? letters
  | .uncovered => some .uncovered
  | _ => none

/-- The problems right at a node, in the order of its parts. -/
def problems : Node → List Problem
  | .list items => items.filterMap scalarProblem?
  | .mapping entries =>
      entries.flatMap fun (key, node) => key.problem?.toList ++ node.scalarProblem?.toList
  | scalar => scalar.scalarProblem?.toList

/-- Whether a node is a mapping with a key that is no text. -/
def hasOddKey : Node → Bool
  | .mapping entries => entries.any fun (key, _) => key.isOdd
  | _ => false

/-- The nodes right below a node. -/
def children : Node → List Node
  | .list items => items
  | .mapping entries => entries.map (·.2)
  | _ => []

/-- The nodes of a level and below it, level by level, unless there are too many levels. -/
def byLevel? : (levels : Nat) → List Node → Option (List Node)
  | _, [] => some []
  | 0, _ :: _ => none
  | levels + 1, node :: rest =>
      (byLevel? levels ((node :: rest).flatMap children)).map (node :: rest ++ ·)

/-- How many levels of lists and mappings are read. -/
def mostLevels : Nat :=
  100

mutual

/-- What a node stands for if nothing is wrong with it. -/
def content : Node → Value
  | .word letters => (resolve letters).toOption.getD .null
  | .quoted content => .text content
  | .list items => .list (itemContents items)
  | .mapping entries => .record (Value.Fields.ofList (entryContents entries))
  | .uncovered => .null

/-- What list items stand for. -/
def itemContents : List Node → List Value
  | [] => []
  | item :: rest => item.content :: itemContents rest

/-- What mapping entries stand for. -/
def entryContents : List (Key × Node) → List (String × Value)
  | [] => []
  | (key, entry) :: rest => (key.name, entry.content) :: entryContents rest

end

/-- The value of a node: nothing is said of a node with uncovered parts; otherwise its first problem
counts, and a mapping needs keys that are texts. -/
def value (node : Node) : Except Problem Value :=
  match byLevel? mostLevels [node] with
  | none => .error .uncovered
  | some nodes =>
      let found := nodes.flatMap problems
      let below := nodes.drop 1
      if found.contains .uncovered || below.any hasOddKey then .error .uncovered
      else
        match found with
        | problem :: _ => .error problem
        | [] => if node.hasOddKey then .error .oddKey else .ok node.content

end Node

end WorkflowConditions.Yaml
