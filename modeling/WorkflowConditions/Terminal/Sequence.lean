import WorkflowConditions.Text.Space

namespace WorkflowConditions.Terminal

/-!
# Control sequences

A control sequence is an escape character, a bracket, parameters and a letter.  It
sets colours on a terminal and is left out of output that goes elsewhere.
-/

/-- Whether a character may stand among the parameters of a control sequence. -/
def isParameter (c : Char) : Bool :=
  c.isDigit || c == ';' || c == '?'

/-- The text after a control sequence whose escape character and bracket have been read. -/
def afterSequence? (text : List Char) : Option (List Char) :=
  match text.dropWhile isParameter with
  | [] => none
  | c :: rest => if c.isAlpha then some rest else none

/-- What follows a control sequence is shorter than what its parameters start. -/
theorem length_lt_of_afterSequence?
    {text rest : List Char}
    (found : afterSequence? text = some rest) :
    rest.length < text.length := by
  unfold afterSequence? at found
  have shorter := (List.dropWhile_suffix (l := text) isParameter).length_le
  split at found
  · cases found
  · rename_i c after remaining
    split at found
    · cases found
      rw [remaining, List.length_cons] at shorter
      omega
    · cases found

/-- Text without its control sequences. -/
def withoutSequences (text : List Char) : List Char :=
  match text with
  | [] => []
  | '\x1b' :: '[' :: rest =>
      match _found : afterSequence? rest with
      | some after => withoutSequences after
      | none => '\x1b' :: withoutSequences ('[' :: rest)
  | c :: rest => c :: withoutSequences rest
termination_by text.length
decreasing_by
  · have shorter := length_lt_of_afterSequence? _found
    simp only [List.length_cons]
    omega
  · simp
  · simp

/-- What is printed of a text. -/
def printed (text : String) : String :=
  String.ofList (withoutSequences text.toList)

end WorkflowConditions.Terminal
