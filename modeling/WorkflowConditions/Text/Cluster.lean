import WorkflowConditions.Text.Columns

namespace WorkflowConditions.Text

/-!
# Clusters of characters

A character without columns of its own belongs to the one before it.  A joiner takes
the character after it along, and a picture selector widens a character that is also
a picture.  What belongs together is a cluster and is never cut.
-/

/-- The mark that joins the next character to the one before. -/
def joiner : Char :=
  '\u200d'

/-- The mark that asks for the picture of a character. -/
def pictureSelector : Char :=
  '\ufe0f'

/-- Columns that a picture selector adds to the latest character with columns. -/
def widening : Option Char → Nat
  | some c => if inRanges pictorial c then 1 else 0
  | none => 0

/-- Number of columns of characters; `joined` says whether a joiner precedes them, and `latest` is
the latest character with columns. -/
def widthFrom
    (joined : Bool)
    (latest : Option Char) :
    List Char → Nat
  | [] => 0
  | c :: rest =>
      if joined then widthFrom false latest rest
      else if c = joiner then widthFrom true latest rest
      else if c = pictureSelector then widening latest + widthFrom false none rest
      else if columns c = 0 then widthFrom false latest rest
      else columns c + widthFrom false (some c) rest

/-- Number of columns of a text. -/
def width (text : List Char) : Nat :=
  widthFrom false none text

/-- Characters that belong together, and the columns they take. -/
structure Cluster where
  chars : List Char
  columns : Nat
  deriving Repr, DecidableEq

namespace Cluster

/-- A character by itself. -/
def single (c : Char) : Cluster :=
  ⟨[c], Text.columns c⟩

/-- A cluster with one more character, and with more columns. -/
def extend
    (cluster : Cluster)
    (c : Char)
    (more : Nat) :
    Cluster :=
  ⟨cluster.chars ++ [c], cluster.columns + more⟩

end Cluster

/-- Clusters of a text of which the first one has been begun. -/
def clustersFrom
    (current : Cluster)
    (joined : Bool)
    (latest : Option Char) :
    List Char → List Cluster
  | [] => [current]
  | c :: rest =>
      if joined then clustersFrom (current.extend c 0) false latest rest
      else if c = joiner then clustersFrom (current.extend c 0) true latest rest
      else if c = pictureSelector then
        clustersFrom (current.extend c (widening latest)) false
          (if widening latest = 0 then latest else none) rest
      else if columns c = 0 then clustersFrom (current.extend c 0) false latest rest
      else current :: clustersFrom (.single c) false (some c) rest

/-- The clusters of a text. -/
def clusters : List Char → List Cluster
  | [] => []
  | c :: rest => clustersFrom (.single c) false (if columns c = 0 then none else some c) rest

end WorkflowConditions.Text
