namespace WorkflowConditions.Text

/-!
# Similar words

Two words are similar when a large part of them matches: their longest common
block, and recursively what matches before and after it.
-/

/-- A common block of two words. -/
structure Match where
  first : Nat
  second : Nat
  size : Nat
  deriving Repr, DecidableEq

/-- Length of the common front of two words. -/
def commonFront : List Char → List Char → Nat
  | c :: first, d :: second => if c = d then 1 + commonFront first second else 0
  | _, _ => 0

/-- The longest common block; of several the earliest in the first word, then in the second. -/
def longestMatch (first second : List Char) : Match :=
  let candidates :=
    (List.range first.length).flatMap fun i =>
      (List.range second.length).map fun j =>
        ⟨i, j, commonFront (first.drop i) (second.drop j)⟩
  candidates.foldl
    (fun best (candidate : Match) => if best.size < candidate.size then candidate else best)
    ⟨0, 0, 0⟩

/-- Number of characters that match, cutting a word at most `cuts` times. -/
def matched : (cuts : Nat) → List Char → List Char → Nat
  | 0, _, _ => 0
  | cuts + 1, first, second =>
      let block := longestMatch first second
      if block.size = 0 then 0
      else
        matched cuts (first.take block.first) (second.take block.second) + block.size +
          matched cuts (first.drop (block.first + block.size))
            (second.drop (block.second + block.size))

/-- Number of characters that match in two words. -/
def matchCount (first second : String) : Nat :=
  matched (first.length + 1) first.toList second.toList

/-- Words are close when three in five of their characters match. -/
def isClose (first second : String) : Bool :=
  3 * (first.length + second.length) ≤ 10 * matchCount first second

/-- Whether `first` matches `word` better than `second` does; a later word wins a tie. -/
def matchesBetter (word first second : String) : Bool :=
  let left := matchCount first word * (second.length + word.length)
  let right := matchCount second word * (first.length + word.length)
  right < left || (left == right && !(first < second))

/-- The words that are close to a given one, the closest first, three at most. -/
def closeMatches
    (word : String)
    (words : List String) :
    List String :=
  ((words.filter (isClose · word)).mergeSort (matchesBetter word)).take 3

end WorkflowConditions.Text
