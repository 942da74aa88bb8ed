import Mathlib.Control.Monad.Basic
import WorkflowConditions.CommandLine.Run
import WorkflowConditions.Proofs.Settings.Layers

namespace WorkflowConditions

open Value (Fields)

/-!
# Loading that breaks off

Loading ends with settings or with a report, except for four causes: a directory
stands in place of a file, the reader of documents fails, the variable for all widths
holds no JSON, or a file has a key that is no text.  Files are read before variables,
the project's first, and keys are looked at last.  All of this holds whatever readers
there are for documents and for JSON.
-/

/-! ## Variables -/

namespace Environment

/-- A variable of this name, in whatever case, that no later one replaces. -/
inductive SetsLast : Environment → String → String → Prop where
  | intro
      {before after : Environment}
      {name text : String}
      (unchanged : ∀ entry ∈ after, Text.lower entry.1 ≠ Text.lower name) :
      SetsLast (before ++ (name, text) :: after) (Text.lower name) text

/-- Looking up a name among the variables in lower case finds the first one of that name. -/
theorem get?_map_lower
    (environment : Environment)
    (key : String) :
    Fields.get? (environment.map fun (name, text) => (Text.lower name, .text text)) key =
      (environment.find? fun entry => Text.lower entry.1 == key).map
        fun entry => .text entry.2 := by
  induction environment with
  | nil =>
      rfl
  | cons entry rest inductionHypothesis =>
      obtain ⟨name, text⟩ := entry
      rw [List.map_cons, Fields.get?, inductionHypothesis, List.find?_cons]
      by_cases found : Text.lower name = key
      · simp [found]
      · simp [found, beq_false_of_ne found]

/-- The text of a variable is the one that is set last. -/
theorem lookup?_folded_eq_some_iff
    {environment : Environment}
    {key text : String} :
    lookup? (folded environment) key = some text ↔ environment.SetsLast key text := by
  -- A later variable replaces an earlier one: the last one is the first from behind.
  have found :
      lookup? (folded environment) key =
        (environment.reverse.find? fun entry => Text.lower entry.1 == key).map (·.2) := by
    rw [lookup?, folded, Fields.get?_ofList, ← List.map_reverse, get?_map_lower]
    cases environment.reverse.find? fun entry => Text.lower entry.1 == key <;>
      rfl
  rw [found]
  constructor
  · intro isFound
    obtain ⟨⟨name, held⟩, isFirst, rfl⟩ := Option.map_eq_some_iff.mp isFound
    obtain ⟨isKey, after, before, split, unchanged⟩ :=
      List.find?_eq_some_iff_append.mp isFirst
    obtain rfl := beq_iff_eq.mp isKey
    have whole : environment = before.reverse ++ (name, held) :: after.reverse := by
      rw [← environment.reverse_reverse, split]
      simp
    rw [whole]
    exact .intro (by simpa using unchanged)
  · intro isSet
    cases isSet with
    | @intro before after name _ unchanged =>
        rw [List.reverse_append, List.reverse_cons, List.append_assoc]
        refine Option.map_eq_some_iff.mpr ⟨(name, text), ?_, rfl⟩
        refine List.find?_eq_some_iff_append.mpr ⟨by simp, after.reverse, before.reverse, rfl, ?_⟩
        simpa using unchanged

/-- Variables cannot be read iff the one for all widths holds no JSON. -/
theorem fieldsBy_eq_error_iff
    {json? : String → Option Value}
    {environment : Environment}
    {error : Unreadable} :
    environment.fieldsBy json? = .error error ↔
      error = ⟨Settings.widthsKey⟩ ∧
        ∃ text,
          environment.SetsLast (start ++ Settings.widthsKey) text ∧
            json? text = none := by
  simp only [← lookup?_folded_eq_some_iff]
  unfold fieldsBy widths?
  dsimp only
  cases isSet : lookup? (folded environment) (start ++ Settings.widthsKey) with
  | none =>
      cases nestedWidths (folded environment) <;>
        simp
  | some document =>
      cases isJson : json? document with
      | none =>
          simp [isJson, eq_comm]
      | some value =>
          cases value <;>
            simp [isJson]

/-- Variables can be read iff the one for all widths, where it is set, holds JSON. -/
theorem exists_fieldsBy_eq_ok_iff
    {json? : String → Option Value}
    {environment : Environment} :
    (∃ fields, environment.fieldsBy json? = .ok fields) ↔
      ∀ text,
        environment.SetsLast (start ++ Settings.widthsKey) text →
        json? text ≠ none := by
  constructor
  · rintro ⟨fields, read⟩ text isSet noJson
    have refused := fieldsBy_eq_error_iff.mpr ⟨rfl, text, isSet, noJson⟩
    rw [read] at refused
    cases refused
  · intro isJson
    cases read : environment.fieldsBy json? with
    | error error =>
        obtain ⟨_, text, isSet, noJson⟩ := fieldsBy_eq_error_iff.mp read
        exact (isJson text isSet noJson).elim
    | ok fields =>
        exact ⟨fields, rfl⟩

end Environment

/-! ## Files -/

namespace Settings

/-- A file that the reader of documents covers. -/
def File.Covered
    (readers : Readers)
    (file : File) :
    Prop :=
  ∀ text, file.content = .document text → readers.document text ≠ .error .uncovered

/-- A file that cannot be read at all, and whose cause is not reported. -/
inductive File.BreaksOff
    (readers : Readers) :
    File → Breakdown → Prop where
  | directory
      (path : String) :
      BreaksOff readers ⟨path, .directory⟩ (.directory path)
  | reading
      (path : String)
      {text : String}
      {cause : Yaml.ReadFailure}
      (fails : readers.document text = .error (.failure cause)) :
      BreaksOff readers ⟨path, .document text⟩ (.reading cause)

/-- What is read from a file: nothing, a mapping, or one with a key that is no text. -/
inductive File.IsRead
    (readers : Readers) :
    File → Option Fields → Prop where
  | absent
      (path : String) :
      IsRead readers ⟨path, .absent⟩ (some [])
  | empty
      (path : String)
      {text : String}
      (isNull : readers.document text = .ok .null) :
      IsRead readers ⟨path, .document text⟩ (some [])
  | mapping
      (path : String)
      {text : String}
      {fields : Fields}
      (isRecord : readers.document text = .ok (.record fields)) :
      IsRead readers ⟨path, .document text⟩ (some fields)
  | oddKey
      (path : String)
      {text : String}
      (isOdd : readers.document text = .error .oddKey) :
      IsRead readers ⟨path, .document text⟩ none

/-- A covered file makes the program break off for the listed causes only. -/
theorem File.fieldsBy?_eq_breakdown_iff
    {readers : Readers}
    {file : File}
    (covered : file.Covered readers)
    {cause : Breakdown} :
    file.fieldsBy? readers = .error (.breakdown cause) ↔ file.BreaksOff readers cause := by
  obtain ⟨path, content⟩ := file
  constructor
  · intro refused
    cases content with
    | absent =>
        cases refused
    | directory =>
        cases refused
        exact .directory path
    | document text =>
        unfold File.fieldsBy? at refused
        dsimp only at refused
        split at refused
        · cases refused
        · next isUncovered =>
            exact (covered text rfl isUncovered).elim
        · cases refused
        · next cause fails =>
            cases refused
            exact .reading path fails
        · cases refused
        · cases refused
        · cases refused
  · intro breaks
    cases breaks with
    | directory =>
        rfl
    | reading _ fails =>
        simp [File.fieldsBy?, fails]

/-- A file gives fields, or shows that it has none, exactly when it is read. -/
theorem File.fieldsBy?_eq_ok_iff
    {readers : Readers}
    {file : File}
    {fields? : Option Fields} :
    file.fieldsBy? readers = .ok fields? ↔ file.IsRead readers fields? := by
  constructor
  · intro read
    obtain ⟨path, content⟩ := file
    cases content with
    | absent =>
        cases read
        exact .absent path
    | directory =>
        cases read
    | document text =>
        unfold File.fieldsBy? at read
        dsimp only at read
        split at read
        · cases read
        · cases read
        · next isOdd =>
            cases read
            exact .oddKey path isOdd
        · cases read
        · next isNull =>
            cases read
            exact .empty path isNull
        · next fields isRecord =>
            cases read
            exact .mapping path isRecord
        · cases read
  · intro isRead
    cases isRead with
    | absent =>
        rfl
    | empty _ isNull =>
        simp [File.fieldsBy?, isNull]
    | mapping _ isRecord =>
        simp [File.fieldsBy?, isRecord]
    | oddKey _ isOdd =>
        simp [File.fieldsBy?, isOdd]

/-! ## All sources -/

/-- Sources whose files the reader of documents covers. -/
structure Sources.Covered
    (readers : Readers)
    (sources : Sources) :
    Prop where
  project : sources.project.Covered readers
  user : sources.user.Covered readers

/-- Why loading breaks off; files are read before variables, the project's first, and keys are
looked at when all of them are read. -/
inductive Sources.BreaksOff
    (readers : Readers) :
    Sources → Breakdown → Prop where
  | project
      {sources : Sources}
      {cause : Breakdown}
      (breaks : sources.project.BreaksOff readers cause) :
      BreaksOff readers sources cause
  | user
      {sources : Sources}
      {cause : Breakdown}
      {project? : Option Fields}
      (isProject : sources.project.IsRead readers project?)
      (breaks : sources.user.BreaksOff readers cause) :
      BreaksOff readers sources cause
  | environment
      {sources : Sources}
      {project? user? : Option Fields}
      {text : String}
      (isProject : sources.project.IsRead readers project?)
      (isUser : sources.user.IsRead readers user?)
      (isSet : sources.environment.SetsLast "outrider_expressions" text)
      (noJson : readers.json? text = none) :
      BreaksOff readers sources (.environment ⟨"expressions"⟩)
  | oddKey
      {sources : Sources}
      {project? user? : Option Fields}
      (isProject : sources.project.IsRead readers project?)
      (isUser : sources.user.IsRead readers user?)
      (isJson :
        ∀ text,
          sources.environment.SetsLast "outrider_expressions" text →
          readers.json? text ≠ none)
      (isOdd : project? = none ∨ user? = none) :
      BreaksOff readers sources .oddKey

/-- Reading all sources breaks off for the listed causes only. -/
theorem Sources.fieldsBy_eq_breakdown_iff
    {readers : Readers}
    {sources : Sources}
    (covered : sources.Covered readers)
    {cause : Breakdown} :
    sources.fieldsBy readers = .error (.breakdown cause) ↔ sources.BreaksOff readers cause := by
  constructor
  · intro refused
    unfold Sources.fieldsBy at refused
    split at refused
    · next error isError =>
        cases refused
        exact .project ((File.fieldsBy?_eq_breakdown_iff covered.project).mp isError)
    · next project? isProject =>
        have isProject := File.fieldsBy?_eq_ok_iff.mp isProject
        split at refused
        · next error isError =>
            cases refused
            exact .user isProject ((File.fieldsBy?_eq_breakdown_iff covered.user).mp isError)
        · next user? isUser =>
            have isUser := File.fieldsBy?_eq_ok_iff.mp isUser
            split at refused
            · next error isError =>
                cases refused
                obtain ⟨rfl, text, isSet, noJson⟩ :=
                  Environment.fieldsBy_eq_error_iff.mp isError
                exact .environment isProject isUser isSet noJson
            · next environment isEnvironment =>
                have isJson :=
                  Environment.exists_fieldsBy_eq_ok_iff.mp ⟨environment, isEnvironment⟩
                cases project? with
                | none =>
                    cases user? <;>
                      cases refused <;>
                      exact .oddKey isProject isUser isJson (.inl rfl)
                | some project =>
                    cases user? with
                    | none =>
                        cases refused
                        exact .oddKey isProject isUser isJson (.inr rfl)
                    | some user =>
                        cases refused
  · intro breaks
    unfold Sources.fieldsBy
    cases breaks with
    | project breaks =>
        rw [(File.fieldsBy?_eq_breakdown_iff covered.project).mpr breaks]
    | user isProject breaks =>
        rw [File.fieldsBy?_eq_ok_iff.mpr isProject,
          (File.fieldsBy?_eq_breakdown_iff covered.user).mpr breaks]
    | environment isProject isUser isSet noJson =>
        rw [File.fieldsBy?_eq_ok_iff.mpr isProject, File.fieldsBy?_eq_ok_iff.mpr isUser,
          Environment.fieldsBy_eq_error_iff.mpr ⟨rfl, _, isSet, noJson⟩]
        rfl
    | oddKey isProject isUser isJson isOdd =>
        obtain ⟨environment, isEnvironment⟩ := Environment.exists_fieldsBy_eq_ok_iff.mpr isJson
        rw [File.fieldsBy?_eq_ok_iff.mpr isProject, File.fieldsBy?_eq_ok_iff.mpr isUser,
          isEnvironment]
        rcases isOdd with rfl | rfl
        · simp
        · simp

/-- Loading breaks off exactly where reading the sources does. -/
theorem loadBy_eq_breakdown_iff
    {readers : Readers}
    {sources : Sources}
    (covered : sources.Covered readers)
    {cause : Breakdown} :
    loadBy readers sources = .error (.breakdown cause) ↔ sources.BreaksOff readers cause := by
  rw [← Sources.fieldsBy_eq_breakdown_iff covered]
  unfold loadBy
  cases sources.fieldsBy readers with
  | error error =>
      simp
  | ok fields =>
      dsimp only
      cases ofFields fields <;>
        simp

/-- Settings are loaded, or a failure of theirs is reported. -/
def Reported (result : Except LoadError Settings) : Prop :=
  match result with
  | .ok _ => True
  | .error error =>
      ∃ failure : Failure,
        CommandLine.loadFailure error = .failure failure ∧ failure.kindName = "ConfigError"

/-- What is neither loaded nor reported is a breakdown. -/
theorem not_reported_iff
    {result : Except LoadError Settings} :
    ¬ Reported result ↔ ∃ cause, result = .error (.breakdown cause) := by
  cases result with
  | ok settings =>
      simp [Reported]
  | error error =>
      cases error with
      | file error =>
          have reported : Reported (.error (.file error)) :=
            ⟨error.failure, rfl, by cases error <;> rfl⟩
          simp [reported]
      | invalid issue =>
          have reported : Reported (.error (.invalid issue)) := ⟨issue.failure, rfl, rfl⟩
          simp [reported]
      | breakdown cause =>
          refine iff_of_true ?_ ⟨cause, rfl⟩
          rintro ⟨failure, same, _⟩
          cases congrArg CommandLine.Outcome.brokeOff same

/--
Whatever the readers are: with files that they cover, loading ends with settings or
with a report unless it breaks off, and it breaks off exactly for the causes that are
listed.
-/
theorem reported_loadBy_iff
    (readers : Readers)
    (sources : Sources)
    (covered : sources.Covered readers) :
    (Reported (loadBy readers sources) ↔ ∀ cause, ¬ sources.BreaksOff readers cause) ∧
      ∀ cause,
        loadBy readers sources = .error (.breakdown cause) ↔
          sources.BreaksOff readers cause := by
  refine ⟨?_, fun cause => loadBy_eq_breakdown_iff covered⟩
  rw [← not_iff_not, not_reported_iff]
  simp [loadBy_eq_breakdown_iff covered]

/-- A project's file with a key that is a truth value, and no other source. -/
def truthKeySources : Sources :=
  ⟨⟨"config.yaml", .absent⟩, ⟨"outrider.yaml", .document "on: push"⟩, []⟩

/-- The key is read without a problem, and then makes loading break off. -/
theorem reported_loadBy_iff_of_truth_key :
    truthKeySources.Covered readers ∧
      truthKeySources.BreaksOff readers .oddKey ∧
      ¬ Reported (load truthKeySources) := by
  have covered : truthKeySources.Covered readers := by
    constructor
    · intro text isText
      cases isText
      decide +kernel
    · intro text isText
      cases isText
  have breaks : truthKeySources.BreaksOff readers .oddKey :=
    ((reported_loadBy_iff readers truthKeySources covered).2 .oddKey).mp (by decide +kernel)
  refine ⟨covered, breaks, ?_⟩
  intro reported
  exact (reported_loadBy_iff readers truthKeySources covered).1.mp reported .oddKey breaks

/-- A brace that is not closed is no JSON, and no report says so. -/
theorem load_not_reported_of_open_brace :
    load ⟨⟨"config.yaml", .absent⟩, ⟨"outrider.yaml", .absent⟩,
          [("OUTRIDER_EXPRESSIONS", "\x7b")]⟩ =
        .error (.breakdown (.environment ⟨"expressions"⟩)) ∧
      ¬ Reported
        (load ⟨⟨"config.yaml", .absent⟩, ⟨"outrider.yaml", .absent⟩,
          [("OUTRIDER_EXPRESSIONS", "\x7b")]⟩) := by
  have breaks :
      load ⟨⟨"config.yaml", .absent⟩, ⟨"outrider.yaml", .absent⟩,
          [("OUTRIDER_EXPRESSIONS", "\x7b")]⟩ =
        .error (.breakdown (.environment ⟨"expressions"⟩)) := by
    decide +kernel
  exact ⟨breaks, not_reported_iff.mpr ⟨_, breaks⟩⟩

end Settings

end WorkflowConditions
