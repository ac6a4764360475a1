import Upkeep.Proofs.Json.Application

/-! When a merge patch can lead from one object to another, and that the computed one then does. A
patch removes members and writes values, but it cannot write a null. So nulls are the only obstacle:
each of them must have been there before, at the same place. -/
namespace Upkeep.Json

/-- The part of a value at the end of a path of keys. Lists have no parts here. -/
def part? (value : Json) : List String → Option Json
  | [] => some value
  | key :: rest => (value.get? key).bind fun part => part.part? rest

theorem part?_cons_eq_some_iff {value found : Json} {key : String} {rest : List String} :
    value.part? (key :: rest) = some found ↔
      ∃ part, value.get? key = some part ∧ part.part? rest = some found :=
  Option.bind_eq_some_iff

theorem part?_cons_of_not_object {value : Json} (scalar : value.form ≠ .obj) (key : String)
    (rest : List String) : value.part? (key :: rest) = none := by
  rw [part?, get?, members_of_not_object scalar]
  rfl

/-- Below a member that may be missing nothing is found that is not below the member. -/
theorem part?_getD {held : Option Json} {key : String} {rest : List String} {found : Json}
    (reached : (held.getD .null).part? (key :: rest) = some found) :
    ∃ part, held = some part ∧ part.part? (key :: rest) = some found := by
  cases held with
  | none =>
    rw [Option.getD_none, part?_cons_of_not_object (by decide)] at reached
    cases reached
  | some part => exact ⟨part, rfl, reached⟩

theorem part?_of_insert {members : Table String Json} {key : String} {value : Json}
    {path : List String} (reached : (obj (members.insert key value)).part? path = some .null) :
    (∃ rest, path = key :: rest ∧ value.part? rest = some .null) ∨
      (obj members).part? path = some .null := by
  cases path with
  | nil => cases reached
  | cons first rest =>
    obtain ⟨part, held, below⟩ := part?_cons_eq_some_iff.mp reached
    have found : (members.insert key value).get? first = some part := held
    rw [Table.get?_insert] at found
    split at found
    · rename_i here
      exact .inl ⟨rest, by rw [here], Option.some.inj found ▸ below⟩
    · exact .inr (part?_cons_eq_some_iff.mpr ⟨part, found, below⟩)

theorem part?_of_erase {members : Table String Json} {key : String} {path : List String}
    (reached : (obj (members.erase key)).part? path = some .null) :
    (obj members).part? path = some .null := by
  cases path with
  | nil => cases reached
  | cons first rest =>
    obtain ⟨part, held, below⟩ := part?_cons_eq_some_iff.mp reached
    have found : (members.erase key).get? first = some part := held
    rw [Table.get?_erase] at found
    split at found
    · cases found
    · exact part?_cons_eq_some_iff.mpr ⟨part, found, below⟩

theorem part?_of_members {object : Json} {path : List String}
    (reached : (obj object.members).part? path = some .null) : object.part? path = some .null := by
  cases path with
  | nil => cases reached
  | cons first rest => exact reached

/-- What is reached in an inner object is reached from the outer one. -/
theorem part?_of_inner {object : Json} {key : String} {path : List String}
    (reached : (obj ((object.get? key).getD .null).members).part? path = some .null) :
    object.part? (key :: path) = some .null := by
  have inside := part?_of_members reached
  cases path with
  | nil => cases reached
  | cons first rest => exact part?_cons_eq_some_iff.mpr (part?_getD inside)

theorem part?_str_ne_null (s : String) (path : List String) : (str s).part? path ≠ some .null := by
  cases path with
  | nil => simp [part?]
  | cons key rest => simp [part?_cons_of_not_object (show (str s).form ≠ .obj by simp [form])]

/-- Nulls come from the old value exactly if each path to one in the new value leads to one there.
-/
theorem nullsFrom_iff_part? {new : Json} (wellFormed : new.WellFormed) (old : Json) :
    NullsFrom old new ↔ ∀ key rest, new.part? (key :: rest) = some .null →
      old.part? (key :: rest) = some .null := by
  induction new using inductOnMembers generalizing old with
  | plain v notObj =>
    have nothing : NullsFrom old v := by cases v <;> first | exact trivial | exact absurd rfl notObj
    simp [nothing, part?_cons_of_not_object notObj]
  | obj members ih =>
    have distinct : Table.Distinct members := wellFormed.distinct
    rw [NullsFrom, nullsFromMembers_iff]
    constructor
    · intro nulls key rest reached
      obtain ⟨value, found, below⟩ := part?_cons_eq_some_iff.mp reached
      have member := Table.mem_of_get? found
      obtain ⟨here, inner⟩ := nulls _ member
      rw [part?_cons_eq_some_iff]
      cases rest with
      | nil => exact ⟨.null, here (Option.some.inj below), rfl⟩
      | cons next rest =>
        exact part?_getD ((ih _ member (wellFormed.get? found) _).mp inner next rest below)
    · intro nulls e member
      have found : (obj members).get? e.1 = some e.2 := distinct.get?_of_mem member
      constructor
      · intro null
        have reached := nulls e.1 [] (part?_cons_eq_some_iff.mpr ⟨e.2, found, by rw [null]; rfl⟩)
        obtain ⟨part, held, same⟩ := part?_cons_eq_some_iff.mp reached
        exact Option.some.inj same ▸ held
      · rw [ih e member (wellFormed.get? found)]
        intro key rest below
        have reached := nulls e.1 _ (part?_cons_eq_some_iff.mpr ⟨e.2, found, below⟩)
        obtain ⟨part, held, same⟩ := part?_cons_eq_some_iff.mp reached
        have there : Table.get? old.members e.1 = some part := held
        rwa [there]

/-- A value without nulls, at the top or below. -/
theorem part?_ne_null {value : Json} (wellFormed : value.WellFormed) (present : value ≠ .null)
    (nulls : NullsFrom .null value) (path : List String) : value.part? path ≠ some .null := by
  intro reached
  cases path with
  | nil => exact present (Option.some.inj reached)
  | cons key rest =>
    have none := (nullsFrom_iff_part? wellFormed .null).mp nulls key rest reached
    cases none

theorem eq_null_iff_of_same {a b : Json} (worth : a.same b) : a = .null ↔ b = .null := by
  constructor
  · rintro rfl
    cases b <;> first | rfl | cases worth
  · intro null
    by_contra present
    rw [null] at worth
    cases a <;> first | exact present rfl | cases worth

/-- Values of equal worth have their nulls at the same places. -/
theorem part?_eq_null_iff_of_same {a b : Json} (left : a.WellFormed) (right : b.WellFormed)
    (worth : a.same b) (path : List String) :
    a.part? path = some .null ↔ b.part? path = some .null := by
  induction path generalizing a b with
  | nil => simpa [part?] using eq_null_iff_of_same worth
  | cons key rest ih =>
    have related := rel_get?_of_same left right worth key
    rw [part?_cons_eq_some_iff, part?_cons_eq_some_iff]
    cases found : a.get? key with
    | none =>
      rw [found] at related
      generalize b.get? key = other at related ⊢
      cases related
      simp
    | some x =>
      rw [found] at related
      cases there : b.get? key with
      | none =>
        rw [there] at related
        cases related
      | some y =>
        rw [there] at related
        cases related with
        | some inner => simpa using ih (left.get? found) (right.get? there) inner

theorem apply_ne_null (target : Json) {patch : Json} (present : patch ≠ .null) :
    apply target patch ≠ .null := by
  cases patch with
  | null => exact absurd rfl present
  | obj members =>
    intro same
    rw [apply_obj] at same
    cases same
  | _ =>
    intro same
    cases same

theorem patched_eq_some_iff {held said : Option Json} {part : Json} :
    patched held said = some part ↔ (said = none ∧ held = some part) ∨
      ∃ change, said = some change ∧ change ≠ .null ∧
        apply (held.getD .null) change = part := by
  cases said with
  | none => simp [patched]
  | some change =>
    by_cases null : change = .null
    · simp [null, patched]
    · simp [patched_value held null, null]

/-- What is found in the result was there before, or is in what a part of the patch has made. -/
theorem part?_apply_cons {target patch found : Json} (wellFormed : patch.WellFormed) {key : String}
    {rest : List String} (reached : (apply target patch).part? (key :: rest) = some found) :
    target.part? (key :: rest) = some found ∨
      ∃ change, patch.get? key = some change ∧ change ≠ .null ∧
        (apply ((target.get? key).getD .null) change).part? rest = some found := by
  rcases patch.obj_or_form_ne with ⟨members, rfl⟩ | scalar
  · have distinct : Table.Distinct members := wellFormed.distinct
    obtain ⟨part, there, below⟩ := part?_cons_eq_some_iff.mp reached
    have made : patched (target.get? key) (Table.get? members key) = some part := by
      rw [← there, apply_obj]
      exact (get?_applyMembers target.members distinct key).symm
    rcases patched_eq_some_iff.mp made with ⟨_, held⟩ | ⟨change, named, present, rfl⟩
    · exact .inl (part?_cons_eq_some_iff.mpr ⟨part, held, below⟩)
    · exact .inr ⟨change, named, present, below⟩
  · rw [apply_of_scalar _ _ scalar, part?_cons_of_not_object scalar] at reached
    cases reached

/-- No patch makes a null: below the top, a null of the result was there before. -/
theorem part?_of_apply {target patch : Json} (wellFormed : patch.WellFormed) {key : String}
    {rest : List String} (reached : (apply target patch).part? (key :: rest) = some .null) :
    target.part? (key :: rest) = some .null := by
  induction rest generalizing target patch key with
  | nil =>
    rcases part?_apply_cons wellFormed reached with kept | ⟨change, _, present, below⟩
    · exact kept
    · exact absurd (Option.some.inj below) (apply_ne_null _ present)
  | cons next rest ih =>
    rcases part?_apply_cons wellFormed reached with kept | ⟨change, named, _, below⟩
    · exact kept
    · rw [part?_cons_eq_some_iff]
      exact part?_getD (ih (wellFormed.get? named) below)

/-- The computed patch leads to the new object if all nulls of it were there before. -/
theorem same_apply_diff {old new : Table String Json} (left : (obj old).WellFormed)
    (right : (obj new).WellFormed)
    (nulls : ∀ path, (obj new).part? path = some .null → (obj old).part? path = some .null) :
    (apply (obj old) (obj (diff old new))).same (obj new) := by
  rw [apply_obj, members, ← elim_patchTo_obj]
  apply same_apply_patchTo left right
  rw [nullsFrom_iff_part? right]
  exact fun key rest => nulls (key :: rest)

/-- Whatever patch leads to an object, its nulls were there before. -/
theorem part?_of_same_apply {target patch result : Json} (left : target.WellFormed)
    (right : result.WellFormed) (wellFormed : patch.WellFormed) (isObject : result.form = .obj)
    (worth : (apply target patch).same result) (path : List String)
    (reached : result.part? path = some .null) : target.part? path = some .null := by
  cases path with
  | nil =>
    have null : result = .null := Option.some.inj reached
    rw [null] at isObject
    cases isObject
  | cons key rest =>
    apply part?_of_apply wellFormed
    rwa [part?_eq_null_iff_of_same (wellFormed_apply left wellFormed) right worth]

/-! ### Results -/

/-- If any patch leads from one object to another, the computed one does; and one does exactly if
every null of the new object, lists apart, is a null of the old one at the same place. So the
computed patch leads to every object without such nulls, and to every object that a patch has made.
-/
theorem diff_complete {old new : Table String Json} (left : (obj old).WellFormed)
    (right : (obj new).WellFormed) :
    let reached := apply (obj old) (obj (diff old new))
    (reached.same (obj new) ↔ ∃ patch : Table String Json, (obj patch).WellFormed ∧
      (apply (obj old) (obj patch)).same (obj new)) ∧
    (reached.same (obj new) ↔
      ∀ path, (obj new).part? path = some .null → (obj old).part? path = some .null) ∧
    ((∀ path, (obj new).part? path ≠ some .null) → reached.same (obj new)) ∧
    ∀ patch : Json, patch.WellFormed → obj new = apply (obj old) patch →
      reached.same (obj new) := by
  intro reached
  have leads : (∀ path, (obj new).part? path = some .null → (obj old).part? path = some .null) →
      reached.same (obj new) := same_apply_diff left right
  have needs : ∀ patch : Json, patch.WellFormed → (apply (obj old) patch).same (obj new) →
      ∀ path, (obj new).part? path = some .null → (obj old).part? path = some .null :=
    fun _ wellFormed worth => part?_of_same_apply left right wellFormed rfl worth
  have computed : (obj (diff old new)).WellFormed := wellFormed_diff left right
  refine ⟨⟨?_, ?_⟩, ⟨needs _ computed, leads⟩, ?_, ?_⟩
  · exact fun worth => ⟨_, computed, worth⟩
  · rintro ⟨patch, wellFormed, worth⟩
    exact leads (needs _ wellFormed worth)
  · exact fun free => leads fun path null => absurd null (free path)
  · intro patch wellFormed made
    exact leads (needs _ wellFormed (made ▸ same_refl right))

/-- An object with nulls in a member, deeper, and in a list. -/
def withNulls : Table String Json :=
  [("a", .null), ("b", .obj [("c", .int 1), ("d", .null)]), ("e", .arr [.null])]

/-- The nulls of `withNulls` that are reached through objects, and others in a list. -/
def withSameNulls : Table String Json :=
  [("e", .obj [("f", .arr [.null, .null])]), ("b", .obj [("d", .null), ("c", .bool true)]),
    ("a", .null)]

theorem wellFormed_withNulls : (obj withNulls).WellFormed ∧ (obj withSameNulls).WellFormed := by
  simp [withNulls, withSameNulls, WellFormed, WellFormedMembers, WellFormedItems, Table.Distinct,
    Table.keys]

theorem diff_complete_withNulls :
    (obj withNulls).WellFormed ∧ (obj withSameNulls).WellFormed ∧
      (apply (obj withNulls) (obj (diff withNulls withSameNulls))).same (obj withSameNulls) ∧
      (obj withSameNulls).part? ["b", "d"] = some .null ∧
      (obj withNulls).part? ["b", "d"] = some .null := by
  have complete := diff_complete wellFormed_withNulls.1 wellFormed_withNulls.2
  have reached : (apply (obj withNulls) (obj (diff withNulls withSameNulls))).same
      (obj withSameNulls) := by decide +kernel
  have there : (obj withSameNulls).part? ["b", "d"] = some .null := rfl
  exact ⟨wellFormed_withNulls.1, wellFormed_withNulls.2, reached, there,
    complete.2.1.mp reached _ there⟩

end Upkeep.Json
