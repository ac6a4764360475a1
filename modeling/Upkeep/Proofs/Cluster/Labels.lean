import Upkeep.Cluster.Target
import Upkeep.Proofs.Json.Equality

/-! Labels of objects. Setting them succeeds on exactly the objects whose metadata and labels are
objects or are not there, and then writes them under `metadata.labels` and nothing else. -/
namespace Upkeep

/-- The metadata of a value that is stored is an object, if there is any. -/
def Cluster.Stampable (object : Json) : Prop :=
  ∀ found, object.get? "metadata" = some found → found.form = .obj

namespace Object

/-- The metadata of an object; none if it has none that is an object. -/
def metadata (object : Json) : Table String Json := ((object.get? "metadata").getD .null).members

/-- The metadata of the object is an object. -/
def HasMetadata (object : Json) : Prop :=
  ∃ members, object.get? "metadata" = some (.obj members)

theorem HasMetadata.get?_eq {object : Json} (has : HasMetadata object) :
    object.get? "metadata" = some (.obj (metadata object)) := by
  obtain ⟨members, held⟩ := has
  rw [metadata, held]
  rfl

theorem HasMetadata.stampable {object : Json} (has : HasMetadata object) :
    Cluster.Stampable object := by
  intro found held
  obtain ⟨members, there⟩ := has
  rw [there] at held
  cases held
  rfl

/-- The labels of an object; none if it has none that are an object. -/
def labels (object : Json) : Table String Json :=
  (((metadata object).get? "labels").getD .null).members

/-- The object with these labels in place of its own. -/
def withLabels (object : Json) (labels : Table String Json) : Json :=
  .obj (object.members.insert "metadata" (.obj ((metadata object).insert "labels" (.obj labels))))

/-- Labels as members. -/
def members (labels : List (String × String)) : Table String Json :=
  labels.map fun label => (label.1, .str label.2)

/-- Labels can be set: what stands in their way is an object or is not there. -/
structure TakesLabels (object : Json) : Prop where
  isObject : object.form = .obj
  metadataFree : Cluster.Stampable object
  labelsFree : ∀ found, (metadata object).get? "labels" = some found →
    found.form = .null ∨ found.form = .obj

theorem eq_obj_of_form {value : Json} (object : value.form = .obj) :
    value = .obj value.members := by
  cases value with
  | obj members => rfl
  | _ => cases object

@[simp] theorem metadata_withLabels (object : Json) (labels : Table String Json) :
    metadata (withLabels object labels) = (metadata object).insert "labels" (.obj labels) := by
  simp [metadata, withLabels, Json.get?, Json.members, Table.get?_insert]

@[simp] theorem labels_withLabels (object : Json) (labels : Table String Json) :
    Object.labels (withLabels object labels) = labels := by
  simp [Object.labels, Table.get?_insert, Json.members]

@[simp] theorem withLabels_withLabels (object : Json) (first second : Table String Json) :
    withLabels (withLabels object first) second = withLabels object second := by
  rw [withLabels, metadata_withLabels, Table.insert_insert]
  exact congrArg Json.obj (Table.insert_insert _ _ _ _)

theorem takesLabels_withLabels (object : Json) (labels : Table String Json) :
    TakesLabels (withLabels object labels) := by
  refine ⟨rfl, ?_, ?_⟩
  · intro found h
    have made : found = .obj ((metadata object).insert "labels" (.obj labels)) := by
      simpa [withLabels, Json.get?, Json.members, Table.get?_insert] using h.symm
    exact made ▸ rfl
  · intro found h
    have made : found = .obj labels := by simpa [Table.get?_insert] using h.symm
    exact .inr (made ▸ rfl)

theorem setIn_eq_ok_iff (held : Option Json) (key value : String) (result : Json) :
    setIn held key value = .ok result ↔
      (∀ found, held = some found → found.form = .null ∨ found.form = .obj) ∧
        result = .obj ((held.getD .null).members.insert key (.str value)) := by
  cases held with
  | none => simp [setIn, Json.members, Table.insert, eq_comm]
  | some found => cases found <;> simp [setIn, Json.members, Json.form, Table.insert, eq_comm]

theorem takesLabels_iff (members : Table String Json) :
    TakesLabels (.obj members) ↔
      (∀ found, members.get? "metadata" = some found → found.form = .obj) ∧
        ∀ found, (metadata (.obj members)).get? "labels" = some found →
          found.form = .null ∨ found.form = .obj :=
  ⟨fun takes => ⟨takes.metadataFree, takes.labelsFree⟩, fun free => ⟨rfl, free.1, free.2⟩⟩

theorem setLabel_eq_ok_iff (object : Json) (key value : String) (result : Json) :
    setLabel object key value = .ok result ↔
      TakesLabels object ∧
        result = withLabels object ((labels object).insert key (.str value)) := by
  rcases object.obj_or_form_ne with ⟨members, rfl⟩ | scalar
  · rw [takesLabels_iff, setLabel]
    cases found : Table.get? members "metadata" with
    | none =>
      have known : metadata (.obj members) = [] := by
        rw [metadata, show Json.get? (.obj members) "metadata" = none from found]
        rfl
      simp [withLabels, labels, known, Json.members, Table.insert, eq_comm]
    | some stored =>
      have held : Json.get? (.obj members) "metadata" = some stored := found
      rcases stored.obj_or_form_ne with ⟨inner, rfl⟩ | other
      · have known : metadata (.obj members) = inner := by rw [metadata, held]; rfl
        have set := setIn_eq_ok_iff (Table.get? inner "labels") key value
        simp only [withLabels, labels, known, Json.members, Option.some.injEq, forall_eq',
          Json.form, true_and]
        cases outcome : setIn (Table.get? inner "labels") key value with
        | ok made =>
          obtain ⟨free, rfl⟩ := (set made).mp outcome
          simp only [Except.ok.injEq]
          exact ⟨fun h => ⟨free, h.symm⟩, fun h => h.2.symm⟩
        | error bad =>
          simp only [reduceCtorEq, false_iff]
          rintro ⟨free, _⟩
          have made := (set _).mpr ⟨free, rfl⟩
          rw [outcome] at made
          cases made
      · constructor
        · intro h
          cases stored with
          | obj inner => exact absurd rfl other
          | _ => cases h
        · rintro ⟨⟨free, _⟩, _⟩
          exact absurd (free stored rfl) other
  · constructor
    · intro h
      cases object with
      | obj members => exact absurd rfl scalar
      | _ => cases h
    · intro h
      exact absurd h.1.isObject scalar

/-- Setting labels writes them all, the later ones over the earlier ones. -/
theorem setLabels_eq_ok_iff (object : Json) {wanted : List (String × String)} (some : wanted ≠ [])
    (result : Json) :
    setLabels object wanted = .ok result ↔
      TakesLabels object ∧
        result = withLabels object ((labels object).insertAll (members wanted)) := by
  induction wanted generalizing object with
  | nil => exact absurd rfl some
  | cons label rest ih =>
    obtain ⟨key, value⟩ := label
    have set := setLabel_eq_ok_iff object key value
    rw [setLabels]
    cases outcome : setLabel object key value with
    | error bad =>
      simp only [reduceCtorEq, false_iff]
      rintro ⟨takes, _⟩
      have made := (set _).mpr ⟨takes, rfl⟩
      rw [outcome] at made
      cases made
    | ok made =>
      obtain ⟨takes, rfl⟩ := (set made).mp outcome
      cases rest with
      | nil => simp [setLabels, takes, members, Table.insertAll, eq_comm]
      | cons next rest =>
        rw [ih _ (List.cons_ne_nil _ _), labels_withLabels, withLabels_withLabels]
        simp [takes, takesLabels_withLabels, members, Table.insertAll]

/-! ### Objects that take labels alike -/

/-- What stands where the labels are; null if nothing does. -/
def labelsMember (object : Json) : Json := ((metadata object).get? "labels").getD .null

/-- Two objects that no label can tell apart: metadata of the same form, if any, and the same where
the labels are. -/
structure Alike (a b : Json) : Prop where
  form : a.form = b.form
  metadata : (a.get? "metadata").map Json.form = (b.get? "metadata").map Json.form
  labels : labelsMember a = labelsMember b

theorem Alike.trans {a b c : Json} (first : Alike a b) (second : Alike b c) : Alike a c :=
  ⟨first.form.trans second.form, first.metadata.trans second.metadata,
    first.labels.trans second.labels⟩

theorem alike_of_metadata {a b : Json} (form : a.form = b.form)
    (same : a.get? "metadata" = b.get? "metadata") : Alike a b := by
  refine ⟨form, by rw [same], ?_⟩
  rw [labelsMember, Object.metadata, same, labelsMember, Object.metadata]

theorem takesLabels_iff_forms (object : Json) :
    TakesLabels object ↔ object.form = .obj ∧
      (∀ form, (object.get? "metadata").map Json.form = some form → form = .obj) ∧
        ((labelsMember object).form = .null ∨ (labelsMember object).form = .obj) := by
  constructor
  · rintro ⟨isObject, metadataFree, labelsFree⟩
    refine ⟨isObject, ?_, ?_⟩
    · intro form h
      obtain ⟨found, there, rfl⟩ := Option.map_eq_some_iff.mp h
      exact metadataFree found there
    · rw [labelsMember]
      cases there : (Object.metadata object).get? "labels" with
      | none => exact .inl rfl
      | some found => exact labelsFree found there
  · rintro ⟨isObject, metadataFree, labelsFree⟩
    refine ⟨isObject, ?_, ?_⟩
    · intro found there
      exact metadataFree _ (congrArg (Option.map Json.form) there)
    · intro found there
      rwa [labelsMember, there] at labelsFree

theorem Alike.takesLabels_iff {a b : Json} (alike : Alike a b) :
    TakesLabels a ↔ TakesLabels b := by
  rw [takesLabels_iff_forms, takesLabels_iff_forms, alike.form, alike.metadata, alike.labels]

/-! ### Objects that refuse labels -/

/-- Why labels cannot be set on an object: its metadata is no object, or there is something else
where its labels would be. -/
inductive Refuses (object : Json) : Malformed → Prop
  | metadata {found : Json} (held : object.get? "metadata" = some found)
      (scalar : found.form ≠ .obj) : Refuses object (.noObject found.form)
  | labels (notNull : (labelsMember object).form ≠ .null)
      (scalar : (labelsMember object).form ≠ .obj) :
      Refuses object (.notAssignable (labelsMember object).form)

theorem Alike.refuses {a b : Json} (alike : Alike a b) {bad : Malformed} (refuses : Refuses a bad) :
    Refuses b bad := by
  cases refuses with
  | metadata held scalar =>
    have same := alike.metadata
    rw [held, Option.map_some] at same
    obtain ⟨found, there, form⟩ := Option.map_eq_some_iff.mp same.symm
    rw [← form] at scalar ⊢
    exact .metadata there scalar
  | labels notNull scalar =>
    rw [alike.labels] at notNull scalar ⊢
    exact .labels notNull scalar

/-- There are no labels in metadata that is no object. -/
theorem labelsMember_of_scalar {object found : Json} (held : object.get? "metadata" = some found)
    (scalar : found.form ≠ .obj) : (labelsMember object).form = .null := by
  have none : Object.metadata object = [] := by
    cases found with
    | obj members => exact absurd rfl scalar
    | _ => rw [Object.metadata, held]; rfl
  rw [labelsMember, none]
  rfl

/-- There is one reason only. -/
theorem Refuses.unique {object : Json} {one other : Malformed} (first : Refuses object one)
    (second : Refuses object other) : one = other := by
  cases first with
  | metadata held scalar =>
    cases second with
    | metadata there _ =>
      rw [held] at there
      rw [Option.some.inj there]
    | labels notNull _ => exact absurd (labelsMember_of_scalar held scalar) notNull
  | labels notNull scalar =>
    cases second with
    | metadata held other => exact absurd (labelsMember_of_scalar held other) notNull
    | labels _ _ => rfl

theorem Refuses.not_takesLabels {object : Json} {bad : Malformed} (refuses : Refuses object bad) :
    ¬ TakesLabels object := by
  intro takes
  cases refuses with
  | metadata held scalar => exact scalar (takes.metadataFree _ held)
  | labels notNull scalar =>
    rcases ((takesLabels_iff_forms object).mp takes).2.2 with null | isObject
    · exact notNull null
    · exact scalar isObject

theorem of_setIn_eq_error {held : Option Json} {key value : String} {bad : Malformed}
    (failed : setIn held key value = .error bad) :
    (held.getD .null).form ≠ .null ∧ (held.getD .null).form ≠ .obj ∧
      bad = .notAssignable (held.getD .null).form := by
  cases held with
  | none => cases failed
  | some found =>
    cases found with
    | null | obj members => cases failed
    | _ =>
      cases failed
      exact ⟨nofun, nofun, rfl⟩

theorem refuses_of_setLabel {object : Json} (isObject : object.form = .obj) {key value : String}
    {bad : Malformed} (failed : setLabel object key value = .error bad) : Refuses object bad := by
  rw [eq_obj_of_form isObject, setLabel] at failed
  cases held : object.get? "metadata" with
  | none =>
    rw [show Table.get? object.members "metadata" = none from held] at failed
    cases failed
  | some found =>
    rw [show Table.get? object.members "metadata" = some found from held] at failed
    rcases found.obj_or_form_ne with ⟨inner, rfl⟩ | scalar
    · have known : metadata object = inner := by
        rw [metadata, held]
        rfl
      dsimp only at failed
      split at failed
      · cases failed
      · rename_i labels
        cases failed
        rw [← known] at labels
        obtain ⟨notNull, notObject, rfl⟩ := of_setIn_eq_error labels
        exact .labels notNull notObject
    · cases found with
      | obj inner => exact absurd rfl scalar
      | _ =>
        cases failed
        exact .metadata held scalar

/-- Once a label has been set, no other one is refused. -/
theorem refuses_of_setLabels {object : Json} (isObject : object.form = .obj)
    {wanted : List (String × String)} {bad : Malformed}
    (failed : setLabels object wanted = .error bad) : Refuses object bad := by
  cases wanted with
  | nil => cases failed
  | cons label rest =>
    obtain ⟨key, value⟩ := label
    rw [setLabels] at failed
    cases outcome : setLabel object key value with
    | error other =>
      rw [outcome] at failed
      cases failed
      exact refuses_of_setLabel isObject outcome
    | ok made =>
      obtain ⟨_, rfl⟩ := (setLabel_eq_ok_iff object key value made).mp outcome
      rw [outcome] at failed
      cases rest with
      | nil => cases failed
      | cons next rest =>
        dsimp only at failed
        rw [(setLabels_eq_ok_iff _ (List.cons_ne_nil next rest) _).mpr
          ⟨takesLabels_withLabels object _, rfl⟩] at failed
        cases failed

end Object
end Upkeep
