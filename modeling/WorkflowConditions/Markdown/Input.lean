import WorkflowConditions.Markdown.Expression
import WorkflowConditions.Value.Display

namespace WorkflowConditions.Markdown

/-!
# Import inputs

A text refers to an input of its import by a wrapped expression that names the
input's key.  References are filled in one pass, so an inserted value is never
read again.
-/

/-- Whether a character can be part of a key. -/
def isKeyChar (c : Char) : Bool :=
  c.isAlphanum || c == '_' || c == '-'

/-- What a reference says before its key. -/
def inputPath : List Char :=
  ['g', 'i', 't', 'h', 'u', 'b', '.', 'a', 'w', '.', 'i', 'n', 'p', 'u', 't', 's', '.']

/-- The key of the reference at the front of a text, and the text after the reference. -/
def reference? (text : List Char) : Option (List Char × List Char) :=
  match Text.after? Text.opening text with
  | none => none
  | some inner =>
      match Text.after? inputPath (inner.dropWhile Text.isSpace) with
      | none => none
      | some path =>
          let key := path.takeWhile isKeyChar
          match Text.after? Text.closing ((path.dropWhile isKeyChar).dropWhile Text.isSpace) with
          | none => none
          | some rest => if key.isEmpty then none else some (key, rest)

/-- A part of a text that refers to inputs. -/
inductive Passage where
  | plain (c : Char)
  /-- A reference to `key`, by its source text. -/
  | reference (key source : List Char)
  deriving Repr, DecidableEq

/-- What follows a reference is shorter than the text. -/
theorem length_lt_of_reference?
    {text key rest : List Char}
    (found : reference? text = some (key, rest)) :
    rest.length < text.length := by
  unfold reference? at found
  split at found
  · simp at found
  · next inner opened =>
      split at found
      · simp at found
      · next path named =>
          split at found
          · simp at found
          · next after closed =>
              have ending : after = rest := by
                simp only at found
                split at found
                · simp at found
                · simpa using (Prod.mk.inj (Option.some.inj found)).2
              have first := congrArg List.length (Text.after?_eq_some_iff.mp opened)
              have second := congrArg List.length (Text.after?_eq_some_iff.mp named)
              have third := congrArg List.length (Text.after?_eq_some_iff.mp closed)
              have blanks := (List.dropWhile_suffix (l := inner) Text.isSpace).length_le
              have keys := (List.dropWhile_suffix (l := path) isKeyChar).length_le
              have gap :=
                (List.dropWhile_suffix (l := path.dropWhile isKeyChar) Text.isSpace).length_le
              simp only [List.length_append, Text.opening, Text.closing, List.length_cons,
                List.length_nil] at first second third
              rw [← ending]
              omega

/-- The passages of a text, from left to right. -/
def passages (text : List Char) : List Passage :=
  match text with
  | [] => []
  | c :: rest =>
      match found : reference? (c :: rest) with
      | some (key, after) =>
          have _shorter := length_lt_of_reference? found
          .reference key ((c :: rest).take ((c :: rest).length - after.length)) :: passages after
      | none => .plain c :: passages rest
termination_by text.length
decreasing_by
  · assumption
  · simp

mutual

/-- An input as it reads in a workflow: lower-case booleans, and lists without commas. -/
def inputText : Value → String
  | .boolean value => if value then "true" else "false"
  | .list items => "[" ++ String.intercalate " " (inputTexts items) ++ "]"
  | value => value.display

/-- Items of a list as they read in a workflow. -/
def inputTexts : List Value → List String
  | [] => []
  | item :: rest => inputText item :: inputTexts rest

end

/-- What stands for a passage once the inputs are known; unknown keys stay as they are. -/
def fillPassage
    (inputs : Value.Fields) :
    Passage → List Char
  | .plain c => [c]
  | .reference key source =>
      match Value.Fields.get? inputs (String.ofList key) with
      | some value => (inputText value).toList
      | none => source

/-- Fill the inputs into a text. -/
def substitute
    (content : String)
    (inputs : Value.Fields) :
    String :=
  String.ofList ((passages content.toList).flatMap (fillPassage inputs))

end WorkflowConditions.Markdown
