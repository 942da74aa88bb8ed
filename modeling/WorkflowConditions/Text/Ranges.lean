namespace WorkflowConditions.Text

/-!
# Character ranges

A property of characters is given by the ranges of code points that have it.
-/

/-- Whether a character lies in one of some ranges, both ends included. -/
def inRanges
    (ranges : List (Nat × Nat))
    (c : Char) :
    Bool :=
  ranges.any fun (first, last) => first ≤ c.toNat && c.toNat ≤ last

end WorkflowConditions.Text
