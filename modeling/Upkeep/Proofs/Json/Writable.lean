import Upkeep.Json.Written
import Upkeep.Proofs.Json.Difference

/-! Values that have a text: those in which no integer has too many digits. That is a property of
their parts, and a computed patch inherits it from the new object, whatever the old one was. -/
namespace Upkeep.Json

/-! ### The parts of a value -/

theorem mem_integersOfItems (n : Int) (items : List Json) :
    n ∈ integersOfItems items ↔ ∃ item ∈ items, n ∈ item.integers := by
  induction items with
  | nil => simp [integersOfItems]
  | cons item rest ih => simp [integersOfItems, ih]

theorem mem_integersOfMembers (n : Int) (members : List (String × Json)) :
    n ∈ integersOfMembers members ↔ ∃ e ∈ members, n ∈ e.2.integers := by
  induction members with
  | nil => simp [integersOfMembers]
  | cons e rest ih => simp [integersOfMembers, ih]

@[simp] theorem writable_arr_iff (items : List Json) :
    (arr items).Writable ↔ ∀ item ∈ items, item.Writable := by
  simp only [Writable, integers, mem_integersOfItems, forall_exists_index, and_imp]
  exact ⟨fun all item member n there => all n item member there,
    fun all n item member there => all item member n there⟩

@[simp] theorem writable_obj_iff (members : List (String × Json)) :
    (obj members).Writable ↔ ∀ e ∈ members, e.2.Writable := by
  simp only [Writable, integers, mem_integersOfMembers, forall_exists_index, and_imp]
  exact ⟨fun all e member n there => all n e member there,
    fun all n e member there => all e member n there⟩

theorem writable_perm {one other : List (String × Json)} (members : one.Perm other) :
    (obj one).Writable ↔ (obj other).Writable := by
  simp only [writable_obj_iff, members.mem_iff]

theorem writable_of_no_integers {value : Json} (none : value.integers = []) : value.Writable := by
  rw [Writable, none]
  exact List.forall_mem_nil _

@[simp] theorem writable_null : null.Writable := writable_of_no_integers rfl

@[simp] theorem writable_bool (b : Bool) : (bool b).Writable := writable_of_no_integers rfl

@[simp] theorem writable_float (x : Double) : (float x).Writable := writable_of_no_integers rfl

@[simp] theorem writable_str (s : String) : (str s).Writable := writable_of_no_integers rfl

@[simp] theorem writable_int_iff (n : Int) :
    (int n).Writable ↔ (Nat.toDigits 10 n.natAbs).length ≤ Overlong.limit := by
  simp [Writable, integers]

/-! ### Texts -/

theorem Writable.text_eq {value : Json} (writable : value.Writable) :
    value.text = .ok value.spelled :=
  if_pos writable

/-- A value without a text has an integer of too many digits. -/
theorem text_eq_error_iff (value : Json) (bad : Unwritable) :
    value.text = .error bad ↔ ¬ value.Writable := by
  cases bad
  rw [text]
  split <;> simp [*]

theorem text_eq_ok_iff (value : Json) (text : String) :
    value.text = .ok text ↔ value.Writable ∧ text = value.spelled := by
  rw [Json.text]
  split <;> simp [*, eq_comm]

/-! ### Patches -/

theorem exists_of_mem_patchMembers {old : Table String Json} {new : List (String × Json)}
    {e : String × Json} (member : e ∈ patchMembers old new) :
    ∃ value, (e.1, value) ∈ new ∧ change (old.get? e.1) value = some e.2 := by
  induction new with
  | nil => cases member
  | cons first rest ih =>
    obtain ⟨key, value⟩ := first
    rw [patchMembers_cons] at member
    cases changed : change (old.get? key) value with
    | none =>
      rw [changed] at member
      obtain ⟨found, there, same⟩ := ih member
      exact ⟨found, List.mem_cons_of_mem _ there, same⟩
    | some new =>
      rw [changed] at member
      rcases List.mem_cons.mp member with rfl | later
      · exact ⟨value, List.mem_cons_self, changed⟩
      · obtain ⟨found, there, same⟩ := ih later
        exact ⟨found, List.mem_cons_of_mem _ there, same⟩

theorem eq_null_of_mem_removals {old new : Table String Json} {e : String × Json}
    (member : e ∈ removals old new) : e.2 = .null := by
  obtain ⟨_, _, rfl⟩ := List.mem_map.mp member
  rfl

theorem Writable.patchTo {old new patch : Json} (writable : new.Writable)
    (computed : Json.patchTo old new = some patch) : patch.Writable := by
  induction new using inductOnMembers generalizing old patch with
  | plain v notObj =>
    rw [patchTo_of_scalar old v notObj] at computed
    split at computed
    · cases computed
    · exact Option.some.inj computed ▸ writable
  | obj members ih =>
    rcases old.obj_or_form_ne with ⟨held, rfl⟩ | scalar
    · rw [patchTo_obj] at computed
      split at computed
      · cases computed
      · rw [← Option.some.inj computed, writable_obj_iff, diff, List.forall_mem_append]
        constructor
        · intro e member
          obtain ⟨value, there, changed⟩ := exists_of_mem_patchMembers member
          have part := (writable_obj_iff members).mp writable _ there
          cases before : Table.get? held e.1 with
          | none =>
            rw [before] at changed
            exact Option.some.inj changed ▸ part
          | some current =>
            rw [before] at changed
            exact ih _ there part changed
        · intro e member
          rw [eq_null_of_mem_removals member]
          exact writable_null
    · rw [patchTo_of_not_object scalar] at computed
      exact Option.some.inj computed ▸ writable

theorem Writable.change {old : Option Json} {new patch : Json} (writable : new.Writable)
    (computed : Json.change old new = some patch) : patch.Writable := by
  cases old with
  | none => exact Option.some.inj computed ▸ writable
  | some current => exact writable.patchTo computed

end Upkeep.Json
