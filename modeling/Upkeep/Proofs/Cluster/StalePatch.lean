import Upkeep.Cluster.Store
import Upkeep.Proofs.Cluster.Mutation

/-! A patch that was computed from one object and is carried out on another. The other object is
only assumed to be near on what the mutation looks at. It then meets the mutation, also after the
store has stamped it, and from then on the same patch leaves it as it is. All that the mutation does
not set is left alone. -/
namespace Upkeep.Mutation
open Object (TakesLabels)

/-- The second object is near enough for the mutation of the first one to be carried over: under the
labels that are set and the members that are written the two are worth the same. A null is as good
as nothing. -/
structure Near (mutation : Mutation) (stored object : Json) : Prop where
  labels : ∀ label ∈ mutation.labels,
    (((Object.labels stored).get? label.1).getD .null).same
      (((Object.labels object).get? label.1).getD .null)
  fields : ∀ field ∈ mutation.fields,
    ((stored.get? field.1).getD .null).same ((object.get? field.1).getD .null)

/-- An object before and after, where all is as it was that is not the mutation's: the labels that it
does not set, the rest of the metadata, and the members other than the one that is written. -/
structure Leaves (mutation : Mutation) (field : String) (before after : Json) : Prop where
  labels : ∀ key, key ∉ mutation.labels.map Prod.fst →
    (Object.labels after).get? key = (Object.labels before).get? key
  metadata : ∀ key, key ≠ "labels" →
    (Object.metadata after).get? key = (Object.metadata before).get? key
  members : ∀ key, key ≠ "metadata" → key ≠ field → after.get? key = before.get? key

section
variable {mutation : Mutation} {field : String} {value : Json} {object stored : Json}

theorem Agree.near (agree : mutation.Agree object stored) (wellFormed : object.WellFormed) :
    mutation.Near stored object where
  labels := by
    intro label member
    rw [← agree.labels label member]
    exact Json.same_refl (Json.wellFormed_getD fun _ held => (wellFormed_labels wellFormed).get? held)
  fields := by
    intro entry member
    rw [← agree.fields entry member]
    exact Json.same_refl (Json.wellFormed_getD fun _ held => wellFormed.get? held)

theorem get?_apply_patch (writes : mutation.Writes field value) (wellFormed : object.WellFormed)
    (stored : Json) (key : String) :
    (Json.apply stored (.obj (mutation.patch object field value))).get? key =
      Json.patched (stored.get? key) ((mutation.patch object field value).get? key) := by
  have distinct : (mutation.patch object field value).Distinct :=
    (wellFormed_patch writes wellFormed).distinct
  rw [Json.apply_obj]
  exact Json.get?_applyMembers stored.members distinct key

theorem get?_metadata_apply (writes : mutation.Writes field value) (wellFormed : object.WellFormed)
    (takes : TakesLabels object) (stored : Json) :
    (Json.apply stored (.obj (mutation.patch object field value))).get? "metadata" =
      if mutation.labelChange object = [] then stored.get? "metadata"
      else some (.obj ((Object.metadata stored).insert "labels"
        (.obj (Json.applyMembers (Object.labels stored) (mutation.labelChange object))))) := by
  rw [get?_apply_patch writes wellFormed, get?_patch_metadata writes wellFormed takes]
  by_cases nothing : mutation.labelChange object = []
  · simp [nothing, Json.patched]
  · have present : Json.obj (mutation.labelChange object) ≠ .null := by simp
    have named : Json.obj [("labels", .obj (mutation.labelChange object))] ≠ .null := by simp
    have single : Json.applyMembers (Object.metadata stored)
        [("labels", .obj (mutation.labelChange object))] =
          (Object.metadata stored).insert "labels"
            (.obj (Json.applyMembers (Object.labels stored) (mutation.labelChange object))) := by
      rw [Json.applyMembers_value _ _ _ present, Json.applyMembers, Json.apply_obj]
      rfl
    rw [if_neg nothing, if_neg nothing, Json.patched_value _ named, Json.apply_obj, ← single]
    rfl

theorem labels_apply (writes : mutation.Writes field value) (wellFormed : object.WellFormed)
    (takes : TakesLabels object) (stored : Json) :
    Object.labels (Json.apply stored (.obj (mutation.patch object field value))) =
      Json.applyMembers (Object.labels stored) (mutation.labelChange object) := by
  have made := get?_metadata_apply writes wellFormed takes stored
  by_cases nothing : mutation.labelChange object = []
  · rw [if_pos nothing] at made
    rw [Object.labels, Object.metadata, made, nothing, Json.applyMembers]
    rfl
  · rw [if_neg nothing] at made
    rw [Object.labels, Object.metadata, made, Option.getD_some, Json.members, Table.get?_insert,
      if_pos rfl]
    rfl

theorem wellFormed_label {object : Json} (wellFormed : object.WellFormed) (key : String) :
    ∀ found, (Object.labels object).get? key = some found → found.WellFormed :=
  fun _ held => (wellFormed_labels wellFormed).get? held

/-- An object near the one the patch was computed from meets the mutation after it. -/
theorem met_apply_patch (writes : mutation.Writes field value) (wellFormed : object.WellFormed)
    (takes : TakesLabels object) (good : stored.WellFormed) (near : mutation.Near stored object) :
    mutation.Met (Json.apply stored (.obj (mutation.patch object field value))) := by
  rw [writes.met_iff]
  constructor
  · intro label member
    have text : (Json.str label.2).WellFormed := trivial
    have present : Json.str label.2 ≠ .null := by simp
    rw [labels_apply writes wellFormed takes,
      Json.get?_applyMembers _ (distinct_labelChange writes wellFormed),
      get?_labelChange writes wellFormed, writes.get?_members member, Option.bind_some]
    obtain ⟨outcome, found, worth⟩ := Json.same_patched_near text present trivial
      (wellFormed_label wellFormed label.1) (wellFormed_label good label.1)
      (near.labels label member)
    rw [found, Json.eq_str_of_same worth]
  · rw [get?_apply_patch writes wellFormed, get?_patch_field writes wellFormed]
    exact Json.same_patched_near writes.wellFormed writes.present writes.nulls
      (fun _ held => wellFormed.get? held) (fun _ held => good.get? held)
      (near.fields (field, value) (by simp [writes.fields]))

/-- Whatever the patch is carried out on, it leaves what the mutation does not set. -/
theorem leaves_apply_patch (writes : mutation.Writes field value) (wellFormed : object.WellFormed)
    (takes : TakesLabels object) (stored : Json) :
    mutation.Leaves field stored (stored.apply (.obj (mutation.patch object field value))) where
  labels := by
    intro key other
    have unset : (Object.members mutation.labels).get? key = none := by
      rw [Table.get?_eq_none_iff, Table.keys, Object.members, List.map_map]
      exact other
    rw [labels_apply writes wellFormed takes,
      Json.get?_applyMembers _ (distinct_labelChange writes wellFormed),
      get?_labelChange writes wellFormed, unset]
    rfl
  metadata := by
    intro key notLabels
    have made := get?_metadata_apply writes wellFormed takes stored
    split at made
    · rw [Object.metadata, made, Object.metadata]
    · rw [Object.metadata, made]
      exact (Table.get?_insert _ _ _ _).trans (if_neg (Ne.symm notLabels))
  members := by
    intro key notMetadata notField
    rw [get?_apply_patch writes wellFormed, get?_patch_other writes wellFormed notField notMetadata]
    rfl

theorem labelChange_eq_nil_iff (writes : mutation.Writes field value)
    (wellFormed : object.WellFormed) :
    mutation.labelChange object = [] ↔
      ∀ label ∈ mutation.labels, (Object.labels object).get? label.1 = some (.str label.2) := by
  have lookup := get?_labelChange writes wellFormed
  rw [Table.eq_nil_iff_get?]
  constructor
  · intro nothing label member
    have quiet := nothing label.1
    have parts := wellFormed_label wellFormed label.1
    have text : (Json.str label.2).WellFormed := trivial
    rw [lookup, writes.get?_members member, Option.bind_some,
      Json.change_eq_none_iff parts text] at quiet
    obtain ⟨current, held, worth⟩ := quiet
    rw [held, Json.eq_str_of_same worth]
  · intro labels key
    rw [lookup]
    cases given : (Object.members mutation.labels).get? key with
    | none => rfl
    | some set =>
      obtain ⟨text, rfl, member⟩ := str_of_get?_members given
      rw [Option.bind_some, labels _ member]
      exact Json.change_self trivial

/-- There is nothing to be sent exactly where the mutation is met. -/
theorem patch_eq_nil_iff (writes : mutation.Writes field value) (wellFormed : object.WellFormed)
    (takes : TakesLabels object) :
    mutation.patch object field value = [] ↔ mutation.Met object := by
  have named := get?_patch_metadata writes wellFormed takes
  have atField := get?_patch_field writes wellFormed
  have parts : ∀ current, object.get? field = some current → current.WellFormed :=
    fun current held => wellFormed.get? held
  rw [Table.eq_nil_iff_get?, writes.met_iff, ← labelChange_eq_nil_iff writes wellFormed,
    ← Json.change_eq_none_iff parts writes.wellFormed, ← atField]
  constructor
  · intro absent
    refine ⟨?_, absent field⟩
    by_contra some
    rw [absent, if_neg some] at named
    cases named
  · rintro ⟨nothing, same⟩ key
    by_cases isField : key = field
    · rw [isField, same]
    · by_cases isMetadata : key = "metadata"
      · rw [isMetadata, named, if_pos nothing]
      · exact get?_patch_other writes wellFormed isField isMetadata

/-! ### After the stamp -/

/-- The second object is the first one as the store stamps it: metadata apart, all is as it was, and
so are the labels. -/
structure Stamped (object stamped : Json) : Prop where
  isObject : stamped.form = .obj
  others : ∀ key, key ≠ "metadata" → stamped.get? key = object.get? key
  metadata : ∃ inner, stamped.get? "metadata" = some (.obj inner) ∧
    Table.get? inner "labels" = (Object.metadata object).get? "labels"

theorem Stamped.metadata_eq {stamped : Json} (same : Stamped object stamped) :
    stamped.get? "metadata" = some (.obj (Object.metadata stamped)) ∧
      (Object.metadata stamped).get? "labels" = (Object.metadata object).get? "labels" := by
  obtain ⟨inner, found, labels⟩ := same.metadata
  have known : Object.metadata stamped = inner := by rw [Object.metadata, found]; rfl
  exact ⟨known ▸ found, known ▸ labels⟩

theorem Stamped.labels {stamped : Json} (same : Stamped object stamped) :
    Object.labels stamped = Object.labels object := by
  rw [Object.labels, same.metadata_eq.2, Object.labels]

theorem Stamped.met (writes : mutation.Writes field value) {stamped : Json}
    (same : Stamped object stamped) (met : mutation.Met object) : mutation.Met stamped := by
  rw [writes.met_iff] at *
  rw [same.labels, same.others field writes.notMetadata]
  exact met

theorem apply_labels_eq_self_iff (metadata change : Table String Json) :
    Json.apply (.obj metadata) (.obj [("labels", .obj change)]) = .obj metadata ↔
      Json.Absorbed (metadata.get? "labels") (.obj change) := by
  rw [Json.apply_eq_self_iff (by simp [Table.Distinct, Table.keys])]
  constructor
  · intro absorbed
    exact absorbed "labels" _ (by simp [Table.get?])
  · intro absorbed key inner named
    by_cases here : "labels" = key <;> simp_all [Table.get?]

/-- A patch that leaves an object as it is leaves it so after the stamp. -/
theorem Stamped.apply_patch (writes : mutation.Writes field value)
    (wellFormed : object.WellFormed) (takes : TakesLabels object) {before stamped : Json}
    (same : Stamped before stamped)
    (fixed : Json.apply before (.obj (mutation.patch object field value)) = before) :
    Json.apply stamped (.obj (mutation.patch object field value)) = stamped := by
  have distinct : (mutation.patch object field value).Distinct :=
    (wellFormed_patch writes wellFormed).distinct
  have isObject : before.form = .obj := by rw [← fixed, Json.apply_obj]; rfl
  rw [Object.eq_obj_of_form isObject, Json.apply_eq_self_iff distinct] at fixed
  rw [Object.eq_obj_of_form same.isObject, Json.apply_eq_self_iff distinct]
  intro key change named
  have absorbed : Json.Absorbed (before.get? key) change := fixed key change named
  change Json.Absorbed (stamped.get? key) change
  by_cases isMetadata : key = "metadata"
  · subst isMetadata
    rw [get?_patch_metadata writes wellFormed takes] at named
    split at named
    · cases named
    · cases named
      obtain ⟨held, there, quiet⟩ := absorbed
      have known : held = .obj (Object.metadata before) := by
        have shape : held.form = .obj := by rw [← quiet, Json.apply_obj]; rfl
        rw [Object.metadata, there]
        exact Object.eq_obj_of_form shape
      obtain ⟨found, kept⟩ := same.metadata_eq
      refine ⟨_, found, ?_⟩
      rw [apply_labels_eq_self_iff, kept]
      rwa [known, apply_labels_eq_self_iff] at quiet
  · rw [same.others key isMetadata]
    exact absorbed

end
end Upkeep.Mutation
