import WorkflowConditions.Proofs.Value.Equality
import WorkflowConditions.Proofs.Value.Layering
import WorkflowConditions.Settings.Load

namespace WorkflowConditions

open Value (Fields overlay)

/-!
# Layers of settings

Every layer, whether a file or the environment holds it, names each of its settings
once, and so do the widths among them.  Therefore layers are looked up setting by
setting, each of them in the topmost layer that has it.
-/

/-! ## Records in documents -/

namespace Yaml

/-- A plain word never stands for a record. -/
theorem resolve_ne_record
    (letters : List Char)
    (fields : Fields) :
    resolve letters ≠ .ok (.record fields) := by
  intro resolved
  unfold resolve at resolved
  dsimp only at resolved
  split at resolved
  · cases resolved
  split at resolved
  · cases resolved
  split at resolved
  · cases resolved
  split at resolved
  · cases resolved
  split at resolved
  · cases resolved
  split at resolved
  · next found _ =>
      cases found <;>
        cases resolved
  split at resolved <;>
    cases resolved

/-- What an entry of a mapping holds is what some node stands for. -/
theorem Node.exists_of_mem_entryContents
    {entries : List (Key × Node)}
    {field : String × Value}
    (member : field ∈ Node.entryContents entries) :
    ∃ node : Node, node.content = field.2 := by
  induction entries with
  | nil =>
      rw [Node.entryContents] at member
      cases member
  | cons entry rest inductionHypothesis =>
      obtain ⟨key, node⟩ := entry
      rw [Node.entryContents] at member
      rcases List.mem_cons.mp member with rfl | inRest
      · exact ⟨node, rfl⟩
      · exact inductionHypothesis inRest

/-- The names of a mapping are distinct, and what it holds is what nodes stand for. -/
theorem Node.of_content_eq_record
    {node : Node}
    {fields : Fields}
    (isRecord : node.content = .record fields) :
    fields.Distinct ∧
      ∀ name value,
        fields.get? name = some value →
        ∃ inner : Node, inner.content = value := by
  cases node with
  | word letters =>
      rw [Node.content] at isRecord
      cases resolved : resolve letters with
      | error problem =>
          rw [resolved] at isRecord
          cases isRecord
      | ok value =>
          rw [resolved] at isRecord
          obtain rfl : value = .record fields := isRecord
          exact (resolve_ne_record letters fields resolved).elim
  | quoted content =>
      rw [Node.content] at isRecord
      cases isRecord
  | list items =>
      rw [Node.content] at isRecord
      cases isRecord
  | mapping entries =>
      rw [Node.content] at isRecord
      obtain rfl := Value.record.inj isRecord
      refine ⟨Fields.distinct_ofList _, ?_⟩
      intro name value found
      exact exists_of_mem_entryContents (Fields.mem_of_mem_ofList (Fields.mem_of_get? found))
  | uncovered =>
      rw [Node.content] at isRecord
      cases isRecord

/-- A node with a value has what it stands for as its value. -/
theorem Node.content_of_value
    {node : Node}
    {value : Value}
    (read : node.value = .ok value) :
    node.content = value := by
  unfold Node.value at read
  split at read
  · cases read
  · dsimp only at read
    split at read
    · cases read
    · split at read
      · cases read
      · split at read
        · cases read
        · exact Except.ok.inj read

/-- The value of a document is what some node stands for. -/
theorem exists_node_of_parse
    {document : String}
    {value : Value}
    (read : parse document = .ok value) :
    ∃ node : Node, node.content = value := by
  unfold parse at read
  dsimp only at read
  split at read
  · cases read
  · split at read
    · cases read
    · next node _ =>
        exact ⟨node, Node.content_of_value read⟩

end Yaml

namespace Settings

deriving instance DecidableEq for Issue, Breakdown, LoadError

/-- Settings and widths that are named once each. -/
structure NamedOnce (layer : Fields) : Prop where
  distinct : layer.Distinct
  widths :
    ∀ fields : Fields, layer.get? widthsKey = some (.record fields) → fields.Distinct

theorem namedOnce_nil : NamedOnce [] :=
  ⟨Fields.distinct_nil, by simp [Fields.get?]⟩

/-- A document names each of its settings once, and each of its widths. -/
theorem namedOnce_of_parse
    {document : String}
    {layer : Fields}
    (read : Yaml.parse document = .ok (.record layer)) :
    NamedOnce layer := by
  obtain ⟨node, isRecord⟩ := Yaml.exists_node_of_parse read
  obtain ⟨distinct, inner⟩ := Yaml.Node.of_content_eq_record isRecord
  refine ⟨distinct, ?_⟩
  intro fields found
  obtain ⟨node, isRecord⟩ := inner _ _ found
  exact (Yaml.Node.of_content_eq_record isRecord).1

/-! ## Records in the environment -/

/-- The widths that variables give are named once, in one spelling. -/
theorem distinct_of_widths?
    {json? : String → Option Value}
    {entries fields : Fields}
    (read : Environment.widths? json? entries = .ok (some (.record fields))) :
    fields.Distinct := by
  unfold Environment.widths? at read
  split at read
  · split at read
    · cases read
    · cases read
      exact Fields.distinct_ofList _
  · split at read
    · cases read
    · cases read
    · cases read
      exact Fields.distinct_ofList _
    · next other _ =>
        cases read
        exact (other _ rfl).elim

/-- The environment names each of its settings once. -/
theorem namedOnce_of_environment
    {environment : Environment}
    {layer : Fields}
    (read : environment.fields = .ok layer) :
    NamedOnce layer := by
  unfold Environment.fields Environment.fieldsBy at read
  dsimp only at read
  split at read
  · cases read
  · next widths isWidths =>
      obtain rfl := Except.ok.inj read
      generalize Environment.lookup? _ _ = verbosity
      constructor
      · cases widths <;>
          cases verbosity <;>
          simp [Fields.Distinct, Fields.names, widthsKey, verbosityKey]
      · intro fields found
        cases widths with
        | none =>
            cases verbosity <;>
              cases found
        | some value =>
            obtain rfl := Option.some.inj found
            exact distinct_of_widths? isWidths

/-! ## One layer over another -/

/-- The widths are given as a record, if they are given at all. -/
def GivesRecord (layer : Fields) : Prop :=
  ∀ value, layer.get? widthsKey = some value → ∃ fields, value = .record fields

/-- A layer: its settings are named once, and so are its widths, if it has any. -/
structure IsLayer (layer : Fields) : Prop where
  distinct : layer.Distinct
  widths :
    layer.get? widthsKey = none ∨
      ∃ fields : Fields, layer.get? widthsKey = some (.record fields) ∧ fields.Distinct

/-- Settings that are named once make a layer when the widths are a record. -/
theorem NamedOnce.isLayer
    {layer : Fields}
    (once : NamedOnce layer)
    (gives : GivesRecord layer) :
    IsLayer layer := by
  refine ⟨once.distinct, ?_⟩
  cases found : layer.get? widthsKey with
  | none =>
      exact .inl rfl
  | some value =>
      obtain ⟨fields, rfl⟩ := gives value found
      exact .inr ⟨fields, rfl, once.widths fields found⟩

/-- The widths that a layer sets. -/
def widthsIn (layer : Fields) : Fields :=
  match layer.get? widthsKey with
  | some (.record fields) => fields
  | _ => []

theorem widthsIn_of_none
    {layer : Fields}
    (absent : layer.get? widthsKey = none) :
    widthsIn layer = [] := by
  rw [widthsIn, absent]

theorem widthsIn_of_record
    {layer fields : Fields}
    (found : layer.get? widthsKey = some (.record fields)) :
    widthsIn layer = fields := by
  rw [widthsIn, found]

/-- Layers make up a layer, and a width is found where either of them has it. -/
theorem IsLayer.layer
    {lower upper : Fields}
    (isLower : IsLayer lower)
    (isUpper : IsLayer upper) :
    IsLayer (lower.layer upper) ∧
      ∀ name,
        (widthsIn (lower.layer upper)).get? name =
          overlay ((widthsIn lower).get? name) ((widthsIn upper).get? name) := by
  have distinct := isLower.distinct.layer upper
  have found := @Fields.get?_layer lower upper isUpper.distinct widthsKey
  rcases isUpper.widths with upperAbsent | ⟨upperWidths, upperFound, upperDistinct⟩
  · have kept : (lower.layer upper).get? widthsKey = lower.get? widthsKey := by
      rw [found, upperAbsent, Value.overlay_none]
    refine ⟨⟨distinct, kept ▸ isLower.widths⟩, ?_⟩
    intro name
    rw [widthsIn_of_none upperAbsent, widthsIn, kept]
    exact (Value.overlay_none _).symm
  · rw [widthsIn_of_record upperFound]
    rcases isLower.widths with lowerAbsent | ⟨lowerWidths, lowerFound, lowerDistinct⟩
    · rw [lowerAbsent, upperFound] at found
      refine ⟨⟨distinct, .inr ⟨upperWidths, found, upperDistinct⟩⟩, ?_⟩
      intro name
      rw [widthsIn_of_record found, widthsIn_of_none lowerAbsent]
      exact (Value.none_overlay _).symm
    · rw [lowerFound, upperFound, Value.overlay_records] at found
      refine ⟨⟨distinct, .inr ⟨_, found, lowerDistinct.layer upperWidths⟩⟩, ?_⟩
      intro name
      rw [widthsIn_of_record found, widthsIn_of_record lowerFound]
      exact Fields.get?_layer upperDistinct name

/-! ## All layers -/

/-- The raw value of a width in a layer. -/
def rawWidth
    (field : WidthField)
    (layer : Fields) :
    Option Value :=
  (widthsIn layer).get? field.name

/-- The raw value of the verbosity in a layer. -/
def rawVerbosity (layer : Fields) : Option Value :=
  layer.get? verbosityKey

/-- What the environment, the project's file and the user's file set. -/
structure Layers where
  environment : Fields
  project : Fields
  user : Fields
  deriving Repr

namespace Layers

/-- The layers, the strongest first. -/
def toList (layers : Layers) : List Fields :=
  [layers.environment, layers.project, layers.user]

/-- The raw value of a setting in the first layer that has it. -/
def first
    (layers : Layers)
    (raw : Fields → Option Value) :
    Option Value :=
  layers.toList.findSome? raw

/-- The raw values of a setting, each laid over those of weaker layers. -/
def laid
    (layers : Layers)
    (raw : Fields → Option Value) :
    Option Value :=
  overlay (raw layers.user) (overlay (raw layers.project) (raw layers.environment))

/-- All layers in one. -/
def merged (layers : Layers) : Fields :=
  layers.user.layer (layers.project.layer layers.environment)

/-- The first value is laid over nothing, unless it is a record. -/
theorem laid_eq_first
    (layers : Layers)
    (raw : Fields → Option Value) :
    layers.laid raw = layers.first raw ∨
      ∃ fields laidOver,
        layers.first raw = some (.record fields) ∧
          layers.laid raw = some (.record laidOver) := by
  have order :
      layers.first raw =
        ((raw layers.environment).or (raw layers.project)).or (raw layers.user) := by
    simp only [first, toList, List.findSome?]
    cases raw layers.environment <;>
      cases raw layers.project <;>
      cases raw layers.user <;>
      rfl
  rw [order, laid]
  rcases Value.overlay_eq_or (raw layers.project) (raw layers.environment) with
    upper | ⟨fields, laidOver, isEnvironment, upper⟩
  · rw [upper]
    rcases Value.overlay_eq_or (raw layers.user)
        ((raw layers.environment).or (raw layers.project)) with
      whole | ⟨fields, laidOver, isUpper, whole⟩
    · exact .inl whole
    · exact .inr ⟨fields, laidOver, by rw [isUpper, Option.some_or], whole⟩
  · rw [upper, isEnvironment]
    rcases Value.overlay_eq_or (raw layers.user) (some (.record laidOver)) with
      whole | ⟨_, overAll, _, whole⟩
    · exact .inr ⟨fields, laidOver, rfl, whole⟩
    · exact .inr ⟨fields, overAll, rfl, whole⟩

section Merged

variable
  {layers : Layers}
  (areLayers : ∀ layer ∈ layers.toList, IsLayer layer)

include areLayers

/-- Layers are laid over each other setting by setting. -/
theorem isLayer_merged :
    IsLayer layers.merged ∧
      (∀ field, rawWidth field layers.merged = layers.laid (rawWidth field)) ∧
      rawVerbosity layers.merged = layers.laid rawVerbosity := by
  have environment := areLayers layers.environment (by simp [toList])
  have project := areLayers layers.project (by simp [toList])
  have user := areLayers layers.user (by simp [toList])
  obtain ⟨upper, upperWidths⟩ := project.layer environment
  obtain ⟨whole, widths⟩ := user.layer upper
  refine ⟨whole, ?_, ?_⟩
  · intro field
    rw [rawWidth, merged, widths, upperWidths]
    rfl
  · rw [rawVerbosity, merged, Fields.get?_layer upper.distinct,
      Fields.get?_layer environment.distinct]
    rfl

end Merged

end Layers

/-! ## Sources of layers -/

/-- What a file sets: nothing if it is absent or empty, or else the mapping in it. -/
inductive File.Holds : File → Fields → Prop where
  | absent
      (path : String) :
      Holds ⟨path, .absent⟩ []
  | empty
      (path : String)
      {text : String}
      (isNull : Yaml.parse text = .ok .null) :
      Holds ⟨path, .document text⟩ []
  | mapping
      (path : String)
      {text : String}
      {fields : Fields}
      (isRecord : Yaml.parse text = .ok (.record fields)) :
      Holds ⟨path, .document text⟩ fields

/-- A file that holds a layer is read as that layer. -/
theorem File.Holds.namedOnce
    {file : File}
    {layer : Fields}
    (holds : file.Holds layer) :
    file.fieldsBy? readers = .ok (some layer) ∧ NamedOnce layer := by
  cases holds with
  | absent =>
      exact ⟨rfl, namedOnce_nil⟩
  | empty _ isNull =>
      simp [File.fieldsBy?, readers, isNull, namedOnce_nil]
  | mapping _ isRecord =>
      simp [File.fieldsBy?, readers, isRecord, namedOnce_of_parse isRecord]

/-- Sources of some layers, in each of which the widths are a record if they are given. -/
structure Sources.Hold
    (sources : Sources)
    (layers : Layers) :
    Prop where
  environment : sources.environment.fields = .ok layers.environment
  project : sources.project.Holds layers.project
  user : sources.user.Holds layers.user
  givesRecord : ∀ layer ∈ layers.toList, GivesRecord layer

/-- Sources that hold layers are read as these layers in one. -/
theorem Sources.Hold.fields_eq
    {sources : Sources}
    {layers : Layers}
    (hold : sources.Hold layers) :
    sources.fields = .ok layers.merged ∧ ∀ layer ∈ layers.toList, IsLayer layer := by
  obtain ⟨projectFields, projectOnce⟩ := hold.project.namedOnce
  obtain ⟨userFields, userOnce⟩ := hold.user.namedOnce
  constructor
  · have environmentFields :
        sources.environment.fieldsBy readers.json? = .ok layers.environment :=
      hold.environment
    rw [Sources.fields, Sources.fieldsBy, projectFields, userFields, environmentFields]
    rfl
  · intro layer member
    have gives := hold.givesRecord layer member
    simp only [Layers.toList, List.mem_cons, List.not_mem_nil, or_false] at member
    rcases member with rfl | rfl | rfl
    · exact (namedOnce_of_environment hold.environment).isLayer gives
    · exact projectOnce.isLayer gives
    · exact userOnce.isLayer gives

end Settings

end WorkflowConditions
