import WorkflowConditions.Text.Occurrence
import WorkflowConditions.Text.Space

namespace WorkflowConditions.Text

/-!
# Normal spacing

A condition that was broken into lines is compared with its one-line form after
line feeds and tabs have become spaces and runs of spaces have been collapsed.
-/

/-- Line feeds and tabs become spaces; other characters stay. -/
def spaced (c : Char) : Char :=
  if c = '\n' ∨ c = '\t' then ' ' else c

/-- Two spaces, one right behind the other. -/
def doubleSpace : List Char :=
  [' ', ' ']

/-- One round over a text: from left to right, two spaces become one. -/
def halveSpaces (text : List Char) : List Char :=
  replaceAll doubleSpace [' '] text

/-- Collapse every run of spaces into one space: halve the runs while two spaces stand together. -/
def collapse (text : List Char) : List Char :=
  if occursIn doubleSpace text then collapse (halveSpaces text) else text
termination_by text.length
decreasing_by
  exact length_replaceAll_lt (by decide) (occursIn_iff.mp ‹_›)

/-- Text on one line with single spaces and nothing around it. -/
def normalize (text : String) : String :=
  String.ofList (trimChars (collapse (text.toList.map spaced)))

end WorkflowConditions.Text
