import Mathlib.Control.Monad.Basic
import WorkflowConditions.Proofs.Settings.Layers

namespace WorkflowConditions

open Value (Fields)

/-!
# Which settings are loaded

Each setting has the value that the first layer with that setting gives it, or its
fallback.  Settings are loaded exactly when all of these values are valid on their
own and the widths fit together; otherwise the first issue is reported.  Names that
stand for no setting do not matter.
-/

/-- What the verbosity is set to: its fallback, or the one that is named. -/
def Verbosity.Means
    (raw : Option Value)
    (verbosity : Verbosity) :
    Prop :=
  match raw with
  | none => verbosity = .warning
  | some value => value = .text verbosity.name

/-- A verbosity is found by its own name only. -/
theorem Verbosity.ofName?_eq_some_iff
    {text : String}
    {verbosity : Verbosity} :
    ofName? text = some verbosity ↔ text = verbosity.name := by
  constructor
  · intro found
    have named := List.find?_some found
    exact (beq_iff_eq.mp named).symm
  · rintro rfl
    exact ofName?_name verbosity

namespace Settings

/-- What a width is set to: its fallback, or an integer within its bounds. -/
def WidthField.Means
    (field : WidthField)
    (raw : Option Value)
    (size : Int) :
    Prop :=
  match raw with
  | none => size = field.fallback
  | some value =>
      Integer.ofValue value = .ok size ∧ field.least ≤ size ∧ size ≤ field.greatest

/-- A raw value means at most one width. -/
theorem WidthField.Means.unique
    {field : WidthField}
    {raw : Option Value}
    {size other : Int}
    (mean : field.Means raw size)
    (meansOther : field.Means raw other) :
    size = other := by
  cases raw with
  | none =>
      exact mean.trans meansOther.symm
  | some value =>
      exact Except.ok.inj (mean.1.symm.trans meansOther.1)

/-! ## Checking one value -/

/-- A value passes its check exactly when it is an integer within the bounds. -/
theorem WidthField.check_eq_ok_iff
    {field : WidthField}
    {value : Value}
    {size : Int} :
    field.check value = .ok size ↔
      Integer.ofValue value = .ok size ∧ field.least ≤ size ∧ size ≤ field.greatest := by
  unfold check
  cases Integer.ofValue value with
  | error problem =>
      simp
  | ok found =>
      simp only [Except.ok.injEq]
      split
      · next small =>
          simp only [reduceCtorEq, false_iff]
          omega
      · split
        · next large =>
            simp only [reduceCtorEq, false_iff]
            omega
        · simp only [Except.ok.injEq]
          omega

/-- A width is read exactly as what its raw value means. -/
theorem WidthField.read_eq_ok_iff
    {field : WidthField}
    {fields : Fields}
    {size : Int} :
    field.read fields = .ok size ↔ field.Means (fields.get? field.name) size := by
  unfold read Means
  cases fields.get? field.name with
  | none =>
      simp [eq_comm]
  | some value =>
      dsimp only
      rw [← check_eq_ok_iff]
      cases field.check value <;>
        simp

/-- A width that is refused is reported under its own name. -/
theorem WidthField.location_of_read
    {field : WidthField}
    {fields : Fields}
    {issues : Issues}
    (refused : field.read fields = .error issues) :
    issues.first.location = [field.name] := by
  unfold read at refused
  split at refused
  · cases refused
  · split at refused
    · cases refused
    · cases refused
      rfl

theorem readVerbosity_eq_some_iff
    {value : Value}
    {verbosity : Verbosity} :
    readVerbosity value = some verbosity ↔ value = .text verbosity.name := by
  cases value with
  | text text =>
      rw [readVerbosity, Verbosity.ofName?_eq_some_iff, Value.text.injEq]
  | _ =>
      simp [readVerbosity]

/-- The verbosity is read exactly as what its raw value means. -/
theorem verbosityOf_eq_ok_iff
    {fields : Fields}
    {verbosity : Verbosity} :
    verbosityOf fields = .ok verbosity ↔ verbosity.Means (rawVerbosity fields) := by
  unfold verbosityOf Verbosity.Means rawVerbosity
  cases fields.get? verbosityKey with
  | none =>
      simp [eq_comm]
  | some value =>
      dsimp only
      rw [← readVerbosity_eq_some_iff]
      cases readVerbosity value <;>
        simp

/-- A verbosity that is refused is reported under its own name. -/
theorem location_of_verbosityOf
    {fields : Fields}
    {issues : Issues}
    (refused : verbosityOf fields = .error issues) :
    issues.first.location = [verbosityKey] := by
  unfold verbosityOf at refused
  split at refused
  · cases refused
  · split at refused
    · cases refused
    · cases refused
      rfl

/-! ## Checking all values -/

/-- Two results are combined when both are there. -/
theorem both_eq_ok_iff
    {first : Except Issues α}
    {second : Except Issues β}
    {values : α × β} :
    both first second = .ok values ↔ first = .ok values.1 ∧ second = .ok values.2 := by
  cases first <;>
    cases second <;>
    simp [both, Prod.ext_iff]

/-- The first issue of two parts is that of the first part with an issue. -/
theorem first_of_both
    {first : Except Issues α}
    {second : Except Issues β}
    {issues : Issues}
    (refused : both first second = .error issues) :
    (∃ front, first = .error front ∧ issues.first = front.first) ∨
      ∃ value back,
        first = .ok value ∧ second = .error back ∧ issues.first = back.first := by
  cases first with
  | error front =>
      refine .inl ⟨front, rfl, ?_⟩
      cases second <;>
        cases refused <;>
        rfl
  | ok value =>
      cases second with
      | ok other =>
          cases refused
      | error back =>
          cases refused
          exact .inr ⟨value, _, rfl, rfl, rfl⟩

/-- All widths that can be set. -/
def widthFields : List WidthField :=
  [.line, .connective, .group]

/-- The three widths, each valid on its own. -/
structure WidthsMean
    (raw : WidthField → Option Value)
    (widths : Layout.Widths) :
    Prop where
  line : WidthField.line.Means (raw .line) widths.line
  connective : WidthField.connective.Means (raw .connective) widths.connective
  group : WidthField.group.Means (raw .group) widths.group

/-- Raw values mean at most one choice of widths. -/
theorem WidthsMean.unique
    {raw : WidthField → Option Value}
    {widths others : Layout.Widths}
    (mean : WidthsMean raw widths)
    (meanOthers : WidthsMean raw others) :
    widths = others := by
  cases widths
  cases others
  rw [Layout.Widths.mk.injEq]
  exact ⟨mean.line.unique meanOthers.line, mean.connective.unique meanOthers.connective,
    mean.group.unique meanOthers.group⟩

/-- The three widths as they are read, before they are compared. -/
def readAll (fields : Fields) : Except Issues (Int × Int × Int) :=
  both (WidthField.line.read fields)
    (both (WidthField.connective.read fields) (WidthField.group.read fields))

/-- All widths are read exactly when each of them is. -/
theorem readAll_eq_ok_iff
    {fields : Fields}
    {line connective group : Int} :
    readAll fields = .ok (line, connective, group) ↔
      WidthsMean (fun field => fields.get? field.name) ⟨line, connective, group⟩ := by
  rw [readAll, both_eq_ok_iff, both_eq_ok_iff, WidthField.read_eq_ok_iff,
    WidthField.read_eq_ok_iff, WidthField.read_eq_ok_iff]
  exact ⟨fun ⟨line, connective, group⟩ => ⟨line, connective, group⟩,
    fun mean => ⟨mean.line, mean.connective, mean.group⟩⟩

/-- The first issue is reported under the name of a width. -/
theorem location_of_readAll
    {fields : Fields}
    {issues : Issues}
    (refused : readAll fields = .error issues) :
    ∃ field ∈ widthFields, issues.first.location = [field.name] := by
  rcases first_of_both refused with ⟨_, line, isFirst⟩ | ⟨_, _, _, later, isLater⟩
  · exact ⟨.line, by simp [widthFields], isFirst ▸ WidthField.location_of_read line⟩
  · rcases first_of_both later with ⟨_, connective, isFirst⟩ | ⟨_, _, _, group, isFirst⟩
    · exact ⟨.connective, by simp [widthFields],
        isLater ▸ isFirst ▸ WidthField.location_of_read connective⟩
    · exact ⟨.group, by simp [widthFields],
        isLater ▸ isFirst ▸ WidthField.location_of_read group⟩

/-- The report that lines would end only beyond the longest line. -/
def thresholdIssue
    (location : List String)
    (widths : Layout.Widths)
    (fields : Fields) :
    Issue :=
  ⟨location, .threshold widths.connective widths.line, .record fields⟩

theorem readWidths_eq
    (fields : Fields) :
    readWidths fields =
      match readAll fields with
      | .error issues => .error issues
      | .ok (line, connective, group) =>
          if line < connective then
            .error (.single (thresholdIssue [] ⟨line, connective, group⟩ fields))
          else .ok ⟨line, connective, group⟩ :=
  rfl

/-- Widths are accepted exactly when each is valid and the threshold fits the line. -/
theorem readWidths_eq_ok_iff
    {fields : Fields}
    {widths : Layout.Widths} :
    readWidths fields = .ok widths ↔
      WidthsMean (fun field => fields.get? field.name) widths ∧
        widths.connective ≤ widths.line := by
  obtain ⟨line, connective, group⟩ := widths
  rw [readWidths_eq, ← readAll_eq_ok_iff]
  cases readAll fields with
  | error issues =>
      simp
  | ok sizes =>
      obtain ⟨first, second, third⟩ := sizes
      dsimp only
      split <;>
        simp <;>
        omega

/-- Widths are refused if one is not valid, or else if they do not fit together. -/
theorem readWidths_refused
    {fields : Fields}
    {issues : Issues}
    (refused : readWidths fields = .error issues) :
    (∃ widths,
        issues = .single (thresholdIssue [] widths fields) ∧
          WidthsMean (fun field => fields.get? field.name) widths ∧
          widths.line < widths.connective) ∨
      (∀ widths, ¬ WidthsMean (fun field => fields.get? field.name) widths) ∧
        ∃ field ∈ widthFields, issues.first.location = [field.name] := by
  rw [readWidths_eq] at refused
  cases read : readAll fields with
  | error found =>
      rw [read] at refused
      obtain rfl := Except.error.inj refused
      refine .inr ⟨?_, location_of_readAll read⟩
      intro widths mean
      rw [readAll_eq_ok_iff.mpr mean] at read
      cases read
  | ok sizes =>
      obtain ⟨line, connective, group⟩ := sizes
      rw [read] at refused
      dsimp only at refused
      split at refused
      · next tooLong =>
          obtain rfl := Except.error.inj refused
          exact .inl ⟨_, rfl, readAll_eq_ok_iff.mp read, tooLong⟩
      · cases refused

theorem widthsOf_eq
    {fields : Fields}
    (isLayer : IsLayer fields) :
    widthsOf fields =
      match readWidths (widthsIn fields) with
      | .ok widths => .ok widths
      | .error issues => .error (issues.within widthsKey) := by
  rcases isLayer.widths with absent | ⟨widths, found, _⟩
  · simp only [widthsOf, absent, widthsIn_of_none absent]
    rfl
  · cases read : readWidths widths <;>
      simp [widthsOf, found, widthsIn_of_record found, read]

/-- The widths of a layer are accepted exactly when its raw values mean widths that fit. -/
theorem widthsOf_eq_ok_iff
    {fields : Fields}
    (isLayer : IsLayer fields)
    {widths : Layout.Widths} :
    widthsOf fields = .ok widths ↔
      WidthsMean (fun field => rawWidth field fields) widths ∧
        widths.connective ≤ widths.line := by
  rw [widthsOf_eq isLayer]
  refine .trans ?_ readWidths_eq_ok_iff
  cases readWidths (widthsIn fields) <;>
    simp

/-- Where an issue can be, other than that widths do not fit together. -/
def settingLocations : List (List String) :=
  [verbosityKey] :: widthFields.map fun field => [widthsKey, field.name]

/-- Settings that mean what the raw values say, and whose widths fit together. -/
structure Mean
    (raw : (Fields → Option Value) → Option Value)
    (settings : Settings) :
    Prop where
  widths : WidthsMean (fun field => raw (rawWidth field)) settings.widths
  fit : settings.widths.connective ≤ settings.widths.line
  verbosity : settings.verbosity.Means (raw rawVerbosity)

/-- The settings of a layer are accepted exactly when its raw values mean them. -/
theorem ofFields_eq_ok_iff
    {fields : Fields}
    (isLayer : IsLayer fields)
    {settings : Settings} :
    ofFields fields = .ok settings ↔ Mean (fun raw => raw fields) settings := by
  obtain ⟨widths, verbosity⟩ := settings
  have checked :
      ofFields fields = .ok ⟨widths, verbosity⟩ ↔
        both (widthsOf fields) (verbosityOf fields) = .ok (widths, verbosity) := by
    unfold ofFields
    cases both (widthsOf fields) (verbosityOf fields) <;>
      simp [Prod.ext_iff]
  rw [checked, both_eq_ok_iff, widthsOf_eq_ok_iff isLayer, verbosityOf_eq_ok_iff]
  exact ⟨fun ⟨⟨widths, fit⟩, verbosity⟩ => ⟨widths, fit, verbosity⟩,
    fun mean => ⟨⟨mean.widths, mean.fit⟩, mean.verbosity⟩⟩

/-- What is reported first of settings that are refused. -/
theorem ofFields_refused
    {fields : Fields}
    (isLayer : IsLayer fields)
    {issues : Issues}
    (refused : ofFields fields = .error issues) :
    (∃ widths,
        issues.first = thresholdIssue [widthsKey] widths (widthsIn fields) ∧
          WidthsMean (fun field => rawWidth field fields) widths ∧
          widths.line < widths.connective) ∨
      (∀ widths,
          WidthsMean (fun field => rawWidth field fields) widths →
          widths.connective ≤ widths.line) ∧
        issues.first.location ∈ settingLocations := by
  have parts : both (widthsOf fields) (verbosityOf fields) = .error issues := by
    unfold ofFields at refused
    split at refused
    · cases refused
    · next found _ =>
        rwa [← Except.error.inj refused]
  -- The widths are checked first, so an issue of theirs hides one of the verbosity.
  rcases first_of_both parts with
    ⟨front, refusedWidths, isFirst⟩ | ⟨widths, _, isWidths, refusedVerbosity, isFirst⟩
  · rw [widthsOf_eq isLayer] at refusedWidths
    split at refusedWidths
    · cases refusedWidths
    · next inner read =>
        obtain rfl := Except.error.inj refusedWidths
        rw [isFirst]
        rcases readWidths_refused read with
          ⟨widths, rfl, mean, tooLong⟩ | ⟨invalid, field, member, location⟩
        · exact .inl ⟨widths, rfl, mean, tooLong⟩
        · refine .inr ⟨fun widths mean => (invalid widths mean).elim, ?_⟩
          refine List.mem_cons_of_mem _ (List.mem_map.mpr ⟨field, member, ?_⟩)
          exact congrArg (widthsKey :: ·) location.symm
  · refine .inr ⟨?_, ?_⟩
    · intro others mean
      obtain ⟨meanWidths, fit⟩ := (widthsOf_eq_ok_iff isLayer).mp isWidths
      exact mean.unique meanWidths ▸ fit
    · rw [isFirst, location_of_verbosityOf refusedVerbosity]
      exact List.mem_cons_self

/-! ## Names that stand for no setting -/

/-- What a layer says of each setting. -/
def knownSettings : List (Fields → Option Value) :=
  rawVerbosity :: widthFields.map rawWidth

/-- The value that a report shows, unless that is all fields of the widths together. -/
def Problem.shown
    (value : Value) :
    Problem → Value
  | .threshold _ _ => .null
  | _ => value

/-- An issue without the fields of the widths that it shows together. -/
def Issue.essential (issue : Issue) : Issue :=
  { issue with value := issue.problem.shown issue.value }

/-- What is reported first, without the fields of the widths that it shows together. -/
def reported : Except Issues α → Except Issue α
  | .ok value => .ok value
  | .error issues => .error issues.first.essential

/-- What is reported of two results depends on what is reported of each. -/
theorem reported_both
    {first first' : Except Issues α}
    {second second' : Except Issues β}
    (sameFirst : reported first = reported first')
    (sameSecond : reported second = reported second') :
    reported (both first second) = reported (both first' second') := by
  cases first <;>
    cases first' <;>
    cases second <;>
    cases second' <;>
    simp_all [reported, both, Issues.append]

section Same

variable
  {fields others : Fields}
  (isLayer : IsLayer fields)
  (isOther : IsLayer others)
  (same : ∀ raw ∈ knownSettings, raw fields = raw others)

include same

/-- Layers with the same raw widths are read alike. -/
theorem readAll_widthsIn_eq :
    readAll (widthsIn fields) = readAll (widthsIn others) := by
  have read :
      ∀ field ∈ widthFields,
        field.read (widthsIn fields) = field.read (widthsIn others) := by
    intro field member
    have found : (widthsIn fields).get? field.name = (widthsIn others).get? field.name :=
      same (rawWidth field) (List.mem_cons_of_mem _ (List.mem_map_of_mem member))
    rw [WidthField.read, WidthField.read, found]
  simp only [widthFields, List.forall_mem_cons] at read
  rw [readAll, readAll, read.1, read.2.1, read.2.2.1]

theorem verbosityOf_eq :
    verbosityOf fields = verbosityOf others := by
  have found : fields.get? verbosityKey = others.get? verbosityKey :=
    same rawVerbosity List.mem_cons_self
  rw [verbosityOf, verbosityOf, found]

include isLayer isOther

/-- Layers that agree on every setting come to the same. -/
theorem reported_ofFields :
    reported (ofFields fields) = reported (ofFields others) := by
  have widths : reported (widthsOf fields) = reported (widthsOf others) := by
    rw [widthsOf_eq isLayer, widthsOf_eq isOther, readWidths_eq, readWidths_eq,
      readAll_widthsIn_eq same]
    cases readAll (widthsIn others) with
    | error issues =>
        rfl
    | ok sizes =>
        -- Only the fields that the two reports show can differ here.
        obtain ⟨line, connective, group⟩ := sizes
        by_cases tooLong : line < connective
        · simp only [tooLong, if_true]
          rfl
        · simp only [tooLong, if_false]
  have assembled :
      ∀ layer,
        reported (ofFields layer) =
          (reported (both (widthsOf layer) (verbosityOf layer))).map
            fun (widths, verbosity) => ⟨widths, verbosity⟩ := by
    intro layer
    unfold ofFields
    cases both (widthsOf layer) (verbosityOf layer) <;>
      rfl
  rw [assembled, assembled,
    reported_both widths (congrArg reported (verbosityOf_eq same))]

end Same

/-! ## Layers that are laid over each other -/

/-- Records laid over each other are no width, as the topmost one is none. -/
theorem WidthField.means_laid_iff
    {field : WidthField}
    {layers : Layers}
    {raw : Fields → Option Value}
    {size : Int} :
    field.Means (layers.laid raw) size ↔ field.Means (layers.first raw) size := by
  rcases layers.laid_eq_first raw with same | ⟨fields, laidOver, isFirst, isLaid⟩
  · rw [same]
  · simp [isFirst, isLaid, Means, Integer.ofValue]

/-- A record laid over another still means no verbosity. -/
theorem means_laid_verbosity_iff
    {layers : Layers}
    {raw : Fields → Option Value}
    {verbosity : Verbosity} :
    verbosity.Means (layers.laid raw) ↔ verbosity.Means (layers.first raw) := by
  rcases layers.laid_eq_first raw with same | ⟨fields, laidOver, isFirst, isLaid⟩
  · rw [same]
  · simp [isFirst, isLaid, Verbosity.Means]

/-- A record laid over another still means no width. -/
theorem widthsMean_laid_iff
    {layers : Layers}
    {widths : Layout.Widths} :
    WidthsMean (fun field => layers.laid (rawWidth field)) widths ↔
      WidthsMean (fun field => layers.first (rawWidth field)) widths := by
  constructor
  · rintro ⟨line, connective, group⟩
    exact ⟨WidthField.means_laid_iff.mp line, WidthField.means_laid_iff.mp connective,
      WidthField.means_laid_iff.mp group⟩
  · rintro ⟨line, connective, group⟩
    exact ⟨WidthField.means_laid_iff.mpr line, WidthField.means_laid_iff.mpr connective,
      WidthField.means_laid_iff.mpr group⟩

/-- What is loaded, without the fields of the widths that a report shows together. -/
def essential : Except LoadError Settings → Except LoadError Settings
  | .error (.invalid issue) => .error (.invalid issue.essential)
  | result => result

section Hold

variable
  {sources : Sources}
  {layers : Layers}
  (hold : sources.Hold layers)

include hold

/-- The settings in all layers together. -/
theorem Sources.Hold.isLayer_merged :
    IsLayer layers.merged ∧ ∀ raw ∈ knownSettings, raw layers.merged = layers.laid raw := by
  obtain ⟨isLayer, widths, verbosity⟩ := Layers.isLayer_merged hold.fields_eq.2
  refine ⟨isLayer, ?_⟩
  intro raw member
  rcases List.mem_cons.mp member with rfl | inWidths
  · exact verbosity
  · obtain ⟨field, _, rfl⟩ := List.mem_map.mp inWidths
    exact widths field

/-- The merged layer means the widths that the first layers mean. -/
theorem Sources.Hold.widthsMean_iff
    {widths : Layout.Widths} :
    WidthsMean (fun field => rawWidth field layers.merged) widths ↔
      WidthsMean (fun field => layers.first (rawWidth field)) widths := by
  obtain ⟨_, merged, _⟩ := Layers.isLayer_merged hold.fields_eq.2
  rw [← widthsMean_laid_iff]
  simp only [merged]

/-- Loading checks the merged layer. -/
theorem Sources.Hold.load_eq :
    load sources =
      match ofFields layers.merged with
      | .ok settings => .ok settings
      | .error issues => .error (.invalid issues.first) := by
  have isMerged : sources.fieldsBy readers = .ok layers.merged := hold.fields_eq.1
  cases checked : ofFields layers.merged <;>
    simp [load, loadBy, isMerged, checked]

/-- Settings are loaded exactly when the first layers mean them. -/
theorem Sources.Hold.load_eq_ok_iff
    {settings : Settings} :
    load sources = .ok settings ↔ Mean layers.first settings := by
  obtain ⟨isLayer, _, verbosity⟩ := Layers.isLayer_merged hold.fields_eq.2
  have merged :
      Mean (fun raw => raw layers.merged) settings ↔ Mean layers.first settings := by
    constructor
    · rintro ⟨widths, fit, meansVerbosity⟩
      exact ⟨hold.widthsMean_iff.mp widths, fit,
        means_laid_verbosity_iff.mp (verbosity ▸ meansVerbosity)⟩
    · rintro ⟨widths, fit, meansVerbosity⟩
      exact ⟨hold.widthsMean_iff.mpr widths, fit,
        verbosity ▸ means_laid_verbosity_iff.mpr meansVerbosity⟩
  rw [hold.load_eq, ← merged, ← ofFields_eq_ok_iff isLayer]
  cases ofFields layers.merged <;>
    simp

/-- What is reported first when the settings of some layers are refused. -/
theorem Sources.Hold.load_refused
    (refused : ∀ settings, ¬ Mean layers.first settings) :
    ∃ issue,
      load sources = .error (.invalid issue) ∧
        ((∃ widths,
            issue = thresholdIssue [widthsKey] widths (widthsIn layers.merged) ∧
              WidthsMean (fun field => layers.first (rawWidth field)) widths ∧
              widths.line < widths.connective) ∨
          (∀ widths,
              WidthsMean (fun field => layers.first (rawWidth field)) widths →
              widths.connective ≤ widths.line) ∧
            issue.location ∈ settingLocations) := by
  have isLoaded := hold.load_eq
  cases checked : ofFields layers.merged with
  | ok settings =>
      rw [checked] at isLoaded
      exact (refused settings (hold.load_eq_ok_iff.mp isLoaded)).elim
  | error issues =>
      rw [checked] at isLoaded
      have first := ofFields_refused hold.isLayer_merged.1 checked
      simp only [hold.widthsMean_iff] at first
      exact ⟨issues.first, isLoaded, first⟩

/-- Names that stand for no setting do not change what is loaded. -/
theorem Sources.Hold.essential_load
    {others : Sources}
    {otherLayers : Layers}
    (otherHold : others.Hold otherLayers)
    (same : ∀ raw ∈ knownSettings, layers.toList.map raw = otherLayers.toList.map raw) :
    essential (load sources) = essential (load others) := by
  obtain ⟨isLayer, merged⟩ := hold.isLayer_merged
  obtain ⟨isOther, otherMerged⟩ := otherHold.isLayer_merged
  have sameMerged : ∀ raw ∈ knownSettings, raw layers.merged = raw otherLayers.merged := by
    intro raw member
    have values := same raw member
    simp only [Layers.toList, List.map_cons, List.cons.injEq] at values
    obtain ⟨environment, project, user, _⟩ := values
    rw [merged raw member, otherMerged raw member, Layers.laid, Layers.laid, environment,
      project, user]
  have reports := reported_ofFields isLayer isOther sameMerged
  rw [hold.load_eq, otherHold.load_eq]
  revert reports
  cases ofFields layers.merged <;>
    cases ofFields otherLayers.merged <;>
    simp [reported, essential]

end Hold

/-! ## Precedence -/

/-- No single setting is reported under the name of the widths. -/
theorem fieldName_ne_of_settingLocations :
    ∀ location ∈ settingLocations, String.intercalate "." location ≠ widthsKey := by
  decide

/--
The first layer that has a setting decides on it.  Only a record is laid over what
weaker layers give, and then the setting is refused.  Settings are loaded iff each is
valid and the widths fit together; a refusal is reported, at the widths as a whole iff
they are valid one by one but do not fit.  Names that stand for no setting show only
in the fields that this last report lists.
-/
theorem load_resolves_by_precedence
    {sources : Sources}
    {layers : Layers}
    (hold : sources.Hold layers) :
    (∃ merged,
        sources.fields = .ok merged ∧
          ∀ raw ∈ knownSettings,
            raw merged = layers.laid raw ∧
              ((∀ fields, layers.first raw ≠ some (.record fields)) →
                raw merged = layers.first raw)) ∧
      (∀ settings, load sources = .ok settings ↔ Mean layers.first settings) ∧
      ((∀ settings, ¬ Mean layers.first settings) →
        ∃ issue message field,
          load sources = .error (.invalid issue) ∧
            issue.failure = .setting message (some field) issue.value ∧
            issue.failure.kindName = "ConfigError" ∧
            (field = "expressions" ↔
              ∃ widths,
                WidthsMean (fun field => layers.first (rawWidth field)) widths ∧
                  widths.line < widths.connective)) ∧
      ∀ (others : Sources) (otherLayers : Layers),
        others.Hold otherLayers →
        (∀ raw ∈ knownSettings, layers.toList.map raw = otherLayers.toList.map raw) →
        essential (load sources) = essential (load others) := by
  refine ⟨⟨layers.merged, hold.fields_eq.1, ?_⟩, fun settings => hold.load_eq_ok_iff, ?_,
    fun others otherLayers => hold.essential_load⟩
  · intro raw member
    have isLaid := hold.isLayer_merged.2 raw member
    refine ⟨isLaid, ?_⟩
    intro plain
    rw [isLaid]
    rcases layers.laid_eq_first raw with same | ⟨fields, _, isRecord, _⟩
    · exact same
    · exact (plain fields isRecord).elim
  · intro refused
    obtain ⟨issue, isLoaded, cause⟩ := hold.load_refused refused
    refine ⟨issue, _, _, isLoaded, rfl, rfl, ?_⟩
    rcases cause with ⟨widths, rfl, mean, tooLong⟩ | ⟨fit, located⟩
    · exact ⟨fun _ => ⟨widths, mean, tooLong⟩, fun _ => rfl⟩
    · constructor
      · intro named
        exact (fieldName_ne_of_settingLocations _ located named).elim
      · rintro ⟨widths, mean, tooLong⟩
        have := fit widths mean
        omega

/-- Files and variables that each set some of the widths, one of them twice. -/
def scatteredSources : Sources where
  user :=
    ⟨"config.yaml", .document
      "verbosity: debug\nexpressions:\n  max_line_length: '200'\n  paren_break_threshold: '40'\n"⟩
  project := ⟨"outrider.yaml", .document "expressions:\n  max_line_length: 90\n  color: red\n"⟩
  environment := [("OUTRIDER_EXPRESSIONS__BREAK_THRESHOLD", "60")]

/-- The layers of these files and variables. -/
def scatteredLayers : Layers where
  user :=
    [("verbosity", .text "debug"),
      ("expressions",
        .record [("max_line_length", .text "200"), ("paren_break_threshold", .text "40")])]
  project :=
    [("expressions", .record [("max_line_length", .integer 90), ("color", .text "red")])]
  environment := [("expressions", .record [("break_threshold", .text "60")])]

/-- Each setting is found in the strongest layer that has it. -/
theorem load_resolves_by_precedence_of_scattered :
    scatteredSources.Hold scatteredLayers ∧
      load scatteredSources = .ok ⟨⟨90, 60, 40⟩, .debug⟩ := by
  have hold : scatteredSources.Hold scatteredLayers := by
    refine ⟨by decide +kernel, .mapping _ (by decide +kernel), .mapping _ (by decide +kernel), ?_⟩
    simp [scatteredLayers, Layers.toList, GivesRecord, Fields.get?, widthsKey]
  refine ⟨hold, ((load_resolves_by_precedence hold).2.1 _).mpr ?_⟩
  refine ⟨⟨?_, ?_, ?_⟩, by decide, rfl⟩
  all_goals
    exact ⟨by decide +kernel, by decide, by decide⟩

/-- A project's file and variables, with no file of the user. -/
def projectSources
    (document : String)
    (environment : Environment) :
    Sources :=
  ⟨⟨"config.yaml", .absent⟩, ⟨"outrider.yaml", .document document⟩, environment⟩

/--
A record that a variable gives for a width is used together with the record that the
project's file gives for it, and a name that stands for no setting is shown when widths
do not fit together.
-/
theorem load_uses_merged_record :
    (∃ layers : Layers,
        (projectSources "expressions:\n  max_line_length:\n    y: a\n"
            [("OUTRIDER_EXPRESSIONS__MAX_LINE_LENGTH__X", "3")]).Hold layers ∧
          layers.first (rawWidth .line) = some (.record [("x", .text "3")]) ∧
          load
              (projectSources "expressions:\n  max_line_length:\n    y: a\n"
                [("OUTRIDER_EXPRESSIONS__MAX_LINE_LENGTH__X", "3")]) =
            .error (.invalid
              ⟨["expressions", "max_line_length"], .integer .wrongKind,
                .record [("y", .text "a"), ("x", .text "3")]⟩)) ∧
      load
          (projectSources "expressions:\n  max_line_length: 30\n  break_threshold: 50\n"
            []) =
        .error (.invalid
          ⟨["expressions"], .threshold 50 30,
            .record [("max_line_length", .integer 30), ("break_threshold", .integer 50)]⟩) ∧
      load
          (projectSources
            "expressions:\n  max_line_length: 30\n  break_threshold: 50\n  x: a\n" []) =
        .error (.invalid
          ⟨["expressions"], .threshold 50 30,
            .record
              [("max_line_length", .integer 30), ("break_threshold", .integer 50),
                ("x", .text "a")]⟩) := by
  have hold :
      (projectSources "expressions:\n  max_line_length:\n    y: a\n"
          [("OUTRIDER_EXPRESSIONS__MAX_LINE_LENGTH__X", "3")]).Hold
        ⟨[("expressions", .record [("max_line_length", .record [("x", .text "3")])])],
          [("expressions", .record [("max_line_length", .record [("y", .text "a")])])], []⟩ := by
    refine ⟨by decide +kernel, .mapping _ (by decide +kernel), .absent _, ?_⟩
    simp [Layers.toList, GivesRecord, Fields.get?, widthsKey]
  refine ⟨⟨_, hold, rfl, ?_⟩, by decide +kernel, by decide +kernel⟩
  rw [hold.load_eq]
  rfl

end Settings

end WorkflowConditions
