import Upkeep.Proofs.Cluster.Mutation
import Upkeep.Proofs.Json.Completeness

/-! Versions of an object: what a change may make of it that leaves alone what the object is called,
does not spoil its metadata, and makes no nulls, which no merge patch could say. A mutation makes
them if its members are its own. -/
namespace Upkeep

/-- A version of an object that goes by the same name, keeps its metadata an object if it was one, and
has no new nulls. -/
structure Object.Revises (after before : Json) : Prop where
  isObject : after.form = .obj
  wellFormed : after.WellFormed
  version : after.get? "apiVersion" = before.get? "apiVersion"
  kind : after.get? "kind" = before.get? "kind"
  name : (Object.metadata after).get? "name" = (Object.metadata before).get? "name"
  ns : (Object.metadata after).get? "namespace" = (Object.metadata before).get? "namespace"
  metadataKept : HasMetadata before → HasMetadata after
  nulls : ∀ path, after.part? path = some .null → before.part? path = some .null

/-- The members that are filled in on a read. -/
def Object.filledKeys : List String := ["apiVersion", "kind"]

/-- The members that a version has as the object has them, if no labels are set. -/
def Object.keptKeys : List String := "metadata" :: filledKeys

namespace Object.Revises
variable {object : Json} {members : Table String Json}

theorem refl (isObject : object.form = .obj) (wellFormed : object.WellFormed) :
    Revises object object :=
  ⟨isObject, wellFormed, rfl, rfl, rfl, rfl, id, fun _ => id⟩

theorem trans {first second third : Json} (later : Revises third second)
    (earlier : Revises second first) : Revises third first where
  isObject := later.isObject
  wellFormed := later.wellFormed
  version := later.version.trans earlier.version
  kind := later.kind.trans earlier.kind
  name := later.name.trans earlier.name
  ns := later.ns.trans earlier.ns
  metadataKept := fun has => later.metadataKept (earlier.metadataKept has)
  nulls := fun path reached => earlier.nulls path (later.nulls path reached)

/-- Objects with the same version, kind and metadata are versions of each other but for nulls. -/
theorem of_kept {after before : Json} (isObject : after.form = .obj)
    (wellFormed : after.WellFormed)
    (kept : ∀ key ∈ keptKeys, after.get? key = before.get? key)
    (nulls : ∀ path, after.part? path = some .null → before.part? path = some .null) :
    Revises after before := by
  have metadata := kept "metadata" List.mem_cons_self
  have same : Object.metadata after = Object.metadata before := by
    rw [Object.metadata, Object.metadata, metadata]
  refine ⟨isObject, wellFormed, kept _ (by decide), kept _ (by decide), ?_, ?_, ?_, nulls⟩
  · rw [same]
  · rw [same]
  · rw [HasMetadata, HasMetadata, metadata]
    exact id

theorem of_insert {key : String} {value : Json} (own : key ∉ keptKeys)
    (wellFormed : (Json.obj members).WellFormed) (good : value.WellFormed)
    (nulls : ∀ path, value.part? path ≠ some .null) :
    Revises (.obj (members.insert key value)) (.obj members) := by
  apply of_kept rfl (Json.wellFormed_insert wellFormed good)
  · rintro other member
    exact (Table.get?_insert _ _ _ _).trans (if_neg (by rintro rfl; exact own member))
  · intro path reached
    rcases Json.part?_of_insert reached with ⟨rest, _, null⟩ | there
    · exact absurd null (nulls rest)
    · exact there

theorem of_erase {key : String} (own : key ∉ keptKeys)
    (wellFormed : (Json.obj members).WellFormed) :
    Revises (.obj (members.erase key)) (.obj members) := by
  apply of_kept rfl (Json.wellFormed_erase wellFormed key)
  · rintro other member
    exact (Table.get?_erase _ _ _).trans (if_neg (by rintro rfl; exact own member))
  · exact fun _ => Json.part?_of_erase

theorem of_insertAll {fields : List (String × Json)} (own : ∀ field ∈ fields, field.1 ∉ keptKeys)
    (good : ∀ field ∈ fields, field.2.WellFormed)
    (nulls : ∀ field ∈ fields, ∀ path, field.2.part? path ≠ some .null)
    (wellFormed : (Json.obj members).WellFormed) :
    Revises (.obj (members.insertAll fields)) (.obj members) := by
  induction fields generalizing members with
  | nil => exact refl rfl wellFormed
  | cons field rest ih =>
    rw [List.forall_mem_cons] at own good nulls
    have step := of_insert own.1 wellFormed good.1 nulls.1
    exact (ih own.2 good.2 nulls.2 step.wellFormed).trans step

theorem of_eraseAll {keys : List String} (own : ∀ key ∈ keys, key ∉ keptKeys)
    (wellFormed : (Json.obj members).WellFormed) :
    Revises (.obj (members.eraseAll keys)) (.obj members) := by
  induction keys generalizing members with
  | nil => exact refl rfl wellFormed
  | cons key rest ih =>
    rw [List.forall_mem_cons] at own
    have step := of_erase own.1 wellFormed
    exact (ih own.2 step.wellFormed).trans step

/-- An object with another label is a version of it. -/
theorem of_setLabel {made : Json} {key value : String} (wellFormed : object.WellFormed)
    (set : setLabel object key value = .ok made) : Revises made object := by
  obtain ⟨takes, rfl⟩ := (setLabel_eq_ok_iff object key value made).mp set
  have version : ∀ {other : String}, other ≠ "metadata" →
      (withLabels object ((labels object).insert key (.str value))).get? other =
        object.get? other :=
    fun different => (Table.get?_insert _ _ _ _).trans (if_neg (Ne.symm different))
  refine ⟨rfl, ?_, version (by decide), version (by decide), ?_, ?_, ?_, ?_⟩
  · apply Json.wellFormed_insert (Json.wellFormed_members wellFormed)
    apply Json.wellFormed_insert (Mutation.wellFormed_metadata wellFormed)
    exact Json.wellFormed_insert (Mutation.wellFormed_labels wellFormed) trivial
  · rw [metadata_withLabels, Table.get?_insert, if_neg (by decide)]
  · rw [metadata_withLabels, Table.get?_insert, if_neg (by decide)]
  · exact fun _ => ⟨_, (Table.get?_insert _ _ _ _).trans (if_pos rfl)⟩
  · intro path reached
    rcases Json.part?_of_insert reached with ⟨inner, rfl, inside⟩ | there
    · rcases Json.part?_of_insert inside with ⟨below, rfl, named⟩ | there
      · rcases Json.part?_of_insert named with ⟨rest, _, null⟩ | there
        · exact absurd null (Json.part?_str_ne_null value rest)
        · have kept : (Json.obj (metadata object)).part? ("labels" :: below) = some .null :=
            Json.part?_of_inner there
          exact Json.part?_of_inner kept
      · exact Json.part?_of_inner there
    · exact Json.part?_of_members there

theorem of_setLabels {made : Json} {wanted : List (String × String)} (isObject : object.form = .obj)
    (wellFormed : object.WellFormed) (set : setLabels object wanted = .ok made) :
    Revises made object := by
  induction wanted generalizing object with
  | nil =>
    cases set
    exact refl isObject wellFormed
  | cons label rest ih =>
    rw [setLabels] at set
    split at set
    · rename_i first done
      have step := of_setLabel wellFormed done
      exact (ih step.isObject step.wellFormed set).trans step
    · cases set

end Object.Revises

/-- A mutation that writes and removes members of its own, without nulls. It may set labels or not. -/
structure Mutation.Careful (mutation : Mutation) : Prop where
  own : ∀ field ∈ mutation.fields, field.1 ∉ Object.keptKeys
  wellFormed : ∀ field ∈ mutation.fields, field.2.WellFormed
  nulls : ∀ field ∈ mutation.fields, ∀ path, field.2.part? path ≠ some .null
  dropped : ∀ key ∈ mutation.dropped, key ∉ Object.keptKeys

namespace Mutation
variable {mutation : Mutation} {field : String} {value : Json}

theorem Careful.revises (careful : mutation.Careful) {before after : Json}
    (isObject : before.form = .obj) (wellFormed : before.WellFormed)
    (made : mutation.apply before = .ok after) : Object.Revises after before := by
  rw [Mutation.apply] at made
  split at made
  · rename_i labelled set
    cases made
    have first := Object.Revises.of_setLabels isObject wellFormed set
    have second := Object.Revises.of_insertAll careful.own careful.wellFormed careful.nulls
      (Json.wellFormed_members first.wellFormed)
    have third := Object.Revises.of_eraseAll careful.dropped second.wellFormed
    rw [← Object.eq_obj_of_form first.isObject] at second
    exact (third.trans second).trans first
  · cases made

/-- The mutations of a pass are careful. -/
theorem Writes.careful (writes : mutation.Writes field value) : mutation.Careful := by
  obtain ⟨_, _, fields, dropped, notMetadata, notVersion, notKind, good, present, nulls, _⟩ := writes
  refine ⟨?_, ?_, ?_, ?_⟩
  · simp [fields, Object.keptKeys, Object.filledKeys, notMetadata, notVersion, notKind]
  · simpa [fields] using good
  · rw [fields, List.forall_mem_singleton]
    exact Json.part?_ne_null good present nulls
  · simp [dropped]

end Mutation

end Upkeep
