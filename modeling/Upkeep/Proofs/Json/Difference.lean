import Upkeep.Json.MergePatch
import Upkeep.Proofs.Json.Equality

/-! The computed merge patch, seen through look-ups. Under each key it says what takes the old value
to the new one: nothing where the two are worth the same, null where the new object has no value. -/
namespace Upkeep.Json

/-- What a patch must say under a key that has an old value, or none, and a new one. -/
def change (old : Option Json) (new : Json) : Option Json :=
  match old with
  | none => some new
  | some current => patchTo current new

theorem patchTo_obj (old new : Table String Json) :
    patchTo (obj old) (obj new) =
      if diff old new = [] then none else some (obj (diff old new)) := by
  rw [patchTo, ← diff]
  cases diff old new <;> simp

theorem diff_nil (new : Table String Json) : diff [] new = new := by
  have whole : patchMembers [] new = new := by
    induction new with
    | nil => rfl
    | cons member rest ih => exact congrArg (member :: ·) ih
  rw [diff, whole]
  exact List.append_nil new

theorem patchTo_of_not_object {old : Json} (scalar : old.form ≠ .obj) (new : Table String Json) :
    patchTo old (obj new) = some (obj new) := by
  cases old with
  | obj members => exact absurd rfl scalar
  | _ => rfl

theorem patchTo_of_scalar (old new : Json) (scalar : new.form ≠ .obj) :
    patchTo old new = if old.same new then none else some new := by
  cases new with
  | obj members => exact absurd rfl scalar
  | _ => rfl

theorem patchMembers_cons (old : Table String Json) (key : String) (value : Json)
    (rest : List (String × Json)) :
    patchMembers old ((key, value) :: rest) =
      match change (old.get? key) value with
      | some change => (key, change) :: patchMembers old rest
      | none => patchMembers old rest := by
  rw [patchMembers]
  rfl

theorem get?_patchMembers (old : Table String Json) {new : Table String Json}
    (distinct : new.Distinct) (key : String) :
    (patchMembers old new).get? key = (new.get? key).bind (change (old.get? key)) := by
  induction new with
  | nil => rfl
  | cons e rest ih =>
    obtain ⟨k, v⟩ := e
    obtain ⟨absent, restDistinct⟩ := distinct.of_cons
    rw [patchMembers_cons]
    by_cases hk : k = key
    · subst hk
      cases h : change (old.get? k) v with
      | none => simp [ih restDistinct, absent, Table.get?, h]
      | some c => simp [Table.get?, h]
    · cases change (old.get? k) v <;> simp [Table.get?, hk, ih restDistinct]

theorem get?_removals (old new : Table String Json) (key : String) :
    (removals old new).get? key =
      if (new.get? key).isNone then (old.get? key).map fun _ => .null else none := by
  unfold removals
  rw [Table.get?_map (fun _ : Json => Json.null)]
  induction old with
  | nil => simp
  | cons e rest ih =>
    obtain ⟨k, v⟩ := e
    rw [List.filter_cons]
    by_cases hk : k = key
    · subst hk
      cases found : new.get? k <;> simp_all [Table.contains, Table.get?]
    · cases found : new.get? k <;> simp_all [Table.contains, Table.get?]

theorem get?_diff (old : Table String Json) {new : Table String Json} (distinct : new.Distinct)
    (key : String) :
    (diff old new).get? key =
      match new.get? key with
      | some value => change (old.get? key) value
      | none => (old.get? key).map fun _ => .null := by
  rw [diff, Table.get?_append, get?_patchMembers old distinct, get?_removals]
  cases new.get? key <;> simp

theorem patchMembers_keys_sublist (old : Table String Json) (new : List (String × Json)) :
    (Table.keys (patchMembers old new)).Sublist (Table.keys new) := by
  induction new with
  | nil => exact List.Sublist.slnil
  | cons e rest ih =>
    obtain ⟨k, v⟩ := e
    rw [patchMembers]
    split
    · exact ih.cons_cons k
    · exact ih.cons k

theorem distinct_diff {old new : Table String Json} (left : old.Distinct) (right : new.Distinct) :
    (diff old new).Distinct := by
  apply Table.Distinct.append
  · exact right.sublist (patchMembers_keys_sublist old new)
  · have kept : Table.Distinct (old.filter fun member => !new.contains member.1) :=
      left.sublist (List.filter_sublist.map Prod.fst)
    exact kept.map fun _ => Json.null
  · intro key present
    rw [get?_removals] at present
    rw [get?_patchMembers old right]
    cases found : new.get? key with
    | none => rfl
    | some value => simp [found] at present

/-- Nothing has to be said exactly where two values are worth the same. -/
theorem patchTo_eq_none_iff {old new : Json} (left : old.WellFormed) (right : new.WellFormed) :
    patchTo old new = none ↔ old.same new := by
  induction new using inductOnMembers generalizing old with
  | plain v notObj => simp [patchTo_of_scalar old v notObj]
  | obj members ih =>
    rcases old.obj_or_form_ne with ⟨held, rfl⟩ | scalar
    · have heldDistinct : Table.Distinct held := left.distinct
      have distinct : Table.Distinct members := right.distinct
      rw [patchTo_obj, ite_eq_left_iff, imp_iff_not (by simp), not_not, Table.eq_nil_iff_get?,
        same_obj_iff heldDistinct distinct]
      apply forall_congr'
      intro key
      rw [get?_diff held distinct]
      cases found : Table.get? members key with
      | none => cases Table.get? held key <;> simp
      | some value =>
        cases there : Table.get? held key with
        | none => simp [change]
        | some current =>
          have inner := ih _ (Table.mem_of_get? found) (left.get? there) (right.get? found)
          simpa [change] using inner
    · simp [patchTo_of_not_object scalar, not_same_obj scalar]

theorem diff_eq_nil_iff {old new : Table String Json} (left : (obj old).WellFormed)
    (right : (obj new).WellFormed) : diff old new = [] ↔ (obj old).same (obj new) := by
  rw [← patchTo_eq_none_iff left right, patchTo_obj]
  split <;> simp_all

theorem change_eq_none_iff {old : Option Json} {new : Json}
    (left : ∀ current, old = some current → current.WellFormed) (right : new.WellFormed) :
    change old new = none ↔ ∃ current, old = some current ∧ current.same new := by
  cases old with
  | none => simp [change]
  | some current => simp [change, patchTo_eq_none_iff (left current rfl) right]

theorem change_self {value : Json} (wellFormed : value.WellFormed) :
    change (some value) value = none :=
  (patchTo_eq_none_iff wellFormed wellFormed).mpr (same_refl wellFormed)

theorem wellFormed_patchTo {old new patch : Json} (left : old.WellFormed) (right : new.WellFormed)
    (computed : patchTo old new = some patch) : patch.WellFormed := by
  induction new using inductOnMembers generalizing old patch with
  | plain v notObj =>
    rw [patchTo_of_scalar old v notObj] at computed
    split at computed
    · cases computed
    · exact Option.some.inj computed ▸ right
  | obj members ih =>
    rcases old.obj_or_form_ne with ⟨held, rfl⟩ | scalar
    · have distinct : Table.Distinct members := right.distinct
      rw [patchTo_obj] at computed
      split at computed
      · cases computed
      · rw [← Option.some.inj computed, wellFormed_obj_iff]
        refine ⟨distinct_diff left.distinct distinct, ?_⟩
        intro key value h
        rw [get?_diff held distinct] at h
        cases found : Table.get? members key with
        | none =>
          rw [found] at h
          obtain ⟨_, _, rfl⟩ := Option.map_eq_some_iff.mp h
          trivial
        | some wanted =>
          rw [found] at h
          cases there : Table.get? held key with
          | none =>
            rw [there] at h
            exact Option.some.inj h ▸ right.get? found
          | some current =>
            rw [there] at h
            exact ih _ (Table.mem_of_get? found) (left.get? there) (right.get? found) h
    · rw [patchTo_of_not_object scalar] at computed
      exact Option.some.inj computed ▸ right

theorem wellFormed_diff {old new : Table String Json} (left : (obj old).WellFormed)
    (right : (obj new).WellFormed) : (obj (diff old new)).WellFormed := by
  by_cases nothing : diff old new = []
  · rw [nothing]
    exact ⟨List.nodup_nil, trivial⟩
  · apply wellFormed_patchTo left right
    rw [patchTo_obj, if_neg nothing]

theorem wellFormed_change {old : Option Json} {new patch : Json}
    (left : ∀ current, old = some current → current.WellFormed) (right : new.WellFormed)
    (computed : change old new = some patch) : patch.WellFormed := by
  cases old with
  | none => exact Option.some.inj computed ▸ right
  | some current => exact wellFormed_patchTo (left current rfl) right computed

end Upkeep.Json
