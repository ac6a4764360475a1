import Upkeep.Json.Value
import Upkeep.Proofs.Table

/-! Equality of worth on values whose objects name no key twice. For such objects it is a statement
about look-ups: the same keys, with values of equal worth under each of them. -/
namespace Upkeep.Json

/-- Induction on the parts of a value; all values without parts are one case. -/
@[elab_as_elim]
theorem inductOn {motive : Json → Prop} (value : Json)
    (scalar : ∀ v : Json, v.form ≠ .arr → v.form ≠ .obj → motive v)
    (arr : ∀ items : List Json, (∀ item ∈ items, motive item) → motive (.arr items))
    (obj : ∀ members : List (String × Json), (∀ e ∈ members, motive e.2) → motive (.obj members)) :
    motive value := by
  induction size : sizeOf value using Nat.strongRecOn generalizing value with
  | ind n ih =>
    cases value with
    | arr items =>
      apply arr
      intro item member
      have smaller := List.sizeOf_lt_of_mem member
      rw [Json.arr.sizeOf_spec] at size
      exact ih (sizeOf item) (by omega) item rfl
    | obj members =>
      apply obj
      intro e member
      have smaller := List.sizeOf_lt_of_mem member
      obtain ⟨key, part⟩ := e
      rw [Prod.mk.sizeOf_spec] at smaller
      rw [Json.obj.sizeOf_spec] at size
      exact ih (sizeOf part) (by omega) part rfl
    | _ => apply scalar <;> intro same <;> cases same

/-- Induction on the members of objects; all other values are one case. -/
@[elab_as_elim]
theorem inductOnMembers {motive : Json → Prop} (value : Json)
    (plain : ∀ v : Json, v.form ≠ .obj → motive v)
    (obj : ∀ members : List (String × Json), (∀ e ∈ members, motive e.2) → motive (.obj members)) :
    motive value := by
  induction value using inductOn with
  | scalar v _ notObj => exact plain v notObj
  | arr items _ =>
    apply plain
    intro same
    cases same
  | obj members ih => exact obj members ih

theorem wellFormedItems_iff (items : List Json) :
    WellFormedItems items ↔ ∀ item ∈ items, item.WellFormed := by
  induction items with
  | nil => simp [WellFormedItems]
  | cons item rest ih => simp [WellFormedItems, ih]

theorem wellFormedMembers_iff (members : List (String × Json)) :
    WellFormedMembers members ↔ ∀ e ∈ members, e.2.WellFormed := by
  induction members with
  | nil => simp [WellFormedMembers]
  | cons e rest ih => simp [WellFormedMembers, ih]

theorem wellFormed_obj_iff (members : Table String Json) :
    (obj members).WellFormed ↔
      members.Distinct ∧ ∀ key value, members.get? key = some value → value.WellFormed := by
  rw [WellFormed, wellFormedMembers_iff]
  constructor
  · rintro ⟨distinct, parts⟩
    exact ⟨distinct, fun key value found => parts _ (Table.mem_of_get? found)⟩
  · rintro ⟨distinct, parts⟩
    exact ⟨distinct, fun e member => parts e.1 e.2 (distinct.get?_of_mem member)⟩

theorem wellFormed_members {value : Json} (wellFormed : value.WellFormed) :
    (obj value.members).WellFormed := by
  cases value with
  | obj members => exact wellFormed
  | _ => exact ⟨List.nodup_nil, trivial⟩

theorem WellFormed.get? {value part : Json} {key : String} (wellFormed : value.WellFormed)
    (found : value.get? key = some part) : part.WellFormed :=
  ((wellFormed_obj_iff _).mp (wellFormed_members wellFormed)).2 key part found

theorem wellFormed_getD {held : Option Json}
    (parts : ∀ current, held = some current → current.WellFormed) : (held.getD .null).WellFormed := by
  cases held with
  | none => trivial
  | some current => exact parts current rfl

theorem WellFormed.distinct {value : Json} (wellFormed : value.WellFormed) :
    Table.Distinct value.members :=
  ((wellFormed_obj_iff _).mp (wellFormed_members wellFormed)).1

theorem wellFormed_insert {members : Table String Json} {key : String} {value : Json}
    (wellFormed : (obj members).WellFormed) (part : value.WellFormed) :
    (obj (members.insert key value)).WellFormed := by
  rw [wellFormed_obj_iff] at *
  refine ⟨wellFormed.1.insert key value, ?_⟩
  intro other found h
  rw [Table.get?_insert] at h
  split at h
  · exact Option.some.inj h ▸ part
  · exact wellFormed.2 other found h

theorem wellFormed_erase {members : Table String Json} (wellFormed : (obj members).WellFormed)
    (key : String) : (obj (members.erase key)).WellFormed := by
  rw [wellFormed_obj_iff] at wellFormed ⊢
  refine ⟨wellFormed.1.erase key, ?_⟩
  intro other value held
  rw [Table.get?_erase] at held
  split at held
  · cases held
  · exact wellFormed.2 other value held

theorem sameMembers_iff (members : List (String × Json)) (others : Table String Json) :
    sameMembers members others ↔
      ∀ e ∈ members, ∃ other, others.get? e.1 = some other ∧ e.2.same other := by
  induction members with
  | nil => simp [sameMembers]
  | cons e rest ih =>
    obtain ⟨key, value⟩ := e
    simp only [sameMembers, Bool.and_eq_true, ih, List.forall_mem_cons]
    cases others.get? key <;> simp

theorem same_refl {value : Json} (wellFormed : value.WellFormed) : value.same value := by
  induction value using inductOn with
  | scalar v notArr notObj => cases v <;> simp_all [same, form]
  | arr items ih =>
    rw [WellFormed, wellFormedItems_iff] at wellFormed
    rw [same]
    induction items with
    | nil => rfl
    | cons item rest rec =>
      rw [sameItems, Bool.and_eq_true]
      exact ⟨ih item List.mem_cons_self (wellFormed item List.mem_cons_self),
        rec (fun i hi => ih i (List.mem_cons_of_mem _ hi))
          fun i hi => wellFormed i (List.mem_cons_of_mem _ hi)⟩
  | obj members ih =>
    have parts := wellFormed
    rw [WellFormed, wellFormedMembers_iff] at parts
    rw [same, Bool.and_eq_true, beq_self_eq_true, sameMembers_iff]
    exact ⟨rfl, fun e member => ⟨e.2, wellFormed.distinct.get?_of_mem member,
      ih e member (parts.2 e member)⟩⟩

/-- Objects are worth the same if their look-ups are. -/
theorem same_obj_iff {a b : Table String Json} (left : a.Distinct) (right : b.Distinct) :
    (obj a).same (obj b) ↔
      ∀ key, Option.Rel (fun x y : Json => x.same y) (a.get? key) (b.get? key) := by
  rw [same, Bool.and_eq_true, beq_iff_eq, sameMembers_iff]
  constructor
  · rintro ⟨long, held⟩ key
    have included : ∀ key, a.get? key ≠ none → b.get? key ≠ none := by
      intro key present
      obtain ⟨x, found⟩ := Option.ne_none_iff_exists'.mp present
      obtain ⟨y, there, _⟩ := held _ (Table.mem_of_get? found)
      simp [there]
    have agree := left.keys_agree (Nat.le_of_eq long.symm) included key
    cases found : a.get? key with
    | none => rw [agree.mp found]; exact .none
    | some x =>
      obtain ⟨y, there, worth⟩ := held _ (Table.mem_of_get? found)
      rw [show b.get? key = some y from there]
      exact .some worth
  · intro agree
    have keysIff : ∀ key, key ∈ a.keys ↔ key ∈ b.keys := by
      intro key
      have related := agree key
      rw [← Table.get?_isSome_iff, ← Table.get?_isSome_iff]
      generalize a.get? key = x, b.get? key = y at related ⊢
      cases related <;> simp
    have perm : a.keys.Perm b.keys := (List.perm_ext_iff_of_nodup left right).mpr keysIff
    refine ⟨by simpa [Table.keys] using perm.length_eq, ?_⟩
    intro e member
    have related := agree e.1
    rw [left.get?_of_mem member] at related
    generalize b.get? e.1 = found at related ⊢
    cases related with
    | some worth => exact ⟨_, rfl, worth⟩

theorem eq_str_of_same {value : Json} {s : String} (worth : value.same (.str s)) :
    value = .str s := by
  cases value with
  | str t => simpa [same] using worth
  | _ => cases worth

theorem obj_or_form_ne (value : Json) :
    (∃ members, value = .obj members) ∨ value.form ≠ .obj := by
  cases value with
  | obj members => exact .inl ⟨members, rfl⟩
  | _ =>
    right
    intro same
    cases same

theorem not_same_obj {value : Json} (scalar : value.form ≠ .obj) (members : Table String Json) :
    ¬ value.same (.obj members) := by
  intro worth
  cases value with
  | obj held => exact scalar rfl
  | _ => cases worth

theorem ne_null_of_same {a b : Json} (worth : a.same b) (present : b ≠ .null) : a ≠ .null := by
  rintro rfl
  cases b with
  | null => exact present rfl
  | _ => cases worth

/-- Values of equal worth have members of equal worth under the same keys. -/
theorem rel_get?_of_same {a b : Json} (left : a.WellFormed) (right : b.WellFormed)
    (worth : a.same b) (key : String) :
    Option.Rel (fun x y : Json => x.same y) (a.get? key) (b.get? key) := by
  cases b with
  | obj members =>
    rcases a.obj_or_form_ne with ⟨held, rfl⟩ | scalar
    · exact (same_obj_iff (a := held) (b := members) left.distinct right.distinct).mp worth key
    · exact absurd worth (not_same_obj scalar members)
  | _ =>
    cases a with
    | obj held => simp [same] at worth
    | _ => exact .none

/-- The same one level deeper, where a value may be missing on both sides. -/
theorem rel_get?_of_rel {a b : Option Json} (left : ∀ x, a = some x → x.WellFormed)
    (right : ∀ y, b = some y → y.WellFormed)
    (related : Option.Rel (fun x y : Json => x.same y) a b) (key : String) :
    Option.Rel (fun x y : Json => x.same y) ((a.getD .null).get? key)
      ((b.getD .null).get? key) := by
  cases related with
  | none => exact .none
  | some worth => exact rel_get?_of_same (left _ rfl) (right _ rfl) worth key

theorem isSome_get?_of_same {a b : Json} (left : a.WellFormed) (right : b.WellFormed)
    (worth : a.same b) (key : String) : (a.get? key).isSome = (b.get? key).isSome := by
  have related := rel_get?_of_same left right worth key
  generalize a.get? key = x, b.get? key = y at related ⊢
  cases related <;> rfl

/-! ### Values worth the same as a third one -/

theorem some_of_rel {α β : Type} {r : α → β → Prop} {held : Option α} {other : Option β} {x : α}
    (related : Option.Rel r held other) (found : held = some x) :
    ∃ y, other = some y ∧ r x y := by
  cases related with
  | some inner => exact ⟨_, rfl, Option.some.inj found ▸ inner⟩
  | none => cases found

theorem none_of_rel {α β : Type} {r : α → β → Prop} {held : Option α} {other : Option β}
    (related : Option.Rel r held other) (absent : held = none) : other = none := by
  cases related with
  | some _ => cases absent
  | none => rfl

/-- Values without parts are worth the same if they are the same, or are numbers of one quantity. -/
theorem same_scalar_iff {a : Json} (notArr : a.form ≠ .arr) (notObj : a.form ≠ .obj) (b : Json) :
    a.same b ↔ b = a ∨ a.quantity? ≠ none ∧ a.quantity? = b.quantity? := by
  have number : a.quantity? ≠ none → a.same b = (a.quantity? == b.quantity?) := by
    intro counts
    cases a <;> first | rfl | exact absurd rfl counts
  by_cases counts : a.quantity? = none
  · rw [or_iff_left fun both => both.1 counts]
    cases a with
    | null => cases b <;> simp [same]
    | str s =>
      cases b with
      | str t => simpa [same] using eq_comm
      | _ => simp [same]
    | arr items => exact absurd rfl notArr
    | obj members => exact absurd rfl notObj
    | _ => cases counts
  · rw [number counts, beq_iff_eq]
    constructor
    · exact fun worth => .inr ⟨counts, worth⟩
    · rintro (rfl | ⟨_, worth⟩)
      · rfl
      · exact worth

theorem same_arr_iff (items : List Json) (other : Json) :
    (arr items).same other ↔
      ∃ others, other = .arr others ∧ List.Forall₂ (fun x y : Json => x.same y) items others := by
  have inside : ∀ others, sameItems items others ↔
      List.Forall₂ (fun x y : Json => x.same y) items others := by
    induction items with
    | nil => intro others; cases others <;> simp [sameItems]
    | cons item rest ih =>
      intro others
      cases others with
      | nil => simp [sameItems]
      | cons other others => simp [sameItems, ih]
  cases other <;> simp [same, inside]

theorem same_obj_iff_get? {a b : Json} (object : a.form = .obj) (left : a.WellFormed)
    (right : b.WellFormed) :
    a.same b ↔ b.form = .obj ∧
      ∀ key, Option.Rel (fun x y : Json => x.same y) (a.get? key) (b.get? key) := by
  cases a with
  | obj members =>
    have one : Table.Distinct members := left.distinct
    rcases b.obj_or_form_ne with ⟨others, rfl⟩ | scalar
    · have two : Table.Distinct others := right.distinct
      rw [same_obj_iff one two]
      exact (and_iff_right rfl).symm
    · have unlike : ¬ (obj members).same b := by
        cases b with
        | obj others => exact absurd rfl scalar
        | _ => simp [same]
      simp [unlike, scalar]
  | _ => cases object

/-- Worth is passed on from value to value. -/
theorem same_trans {a b c : Json} (left : a.WellFormed) (middle : b.WellFormed)
    (right : c.WellFormed) (first : a.same b) (second : b.same c) : a.same c := by
  induction a using inductOn generalizing b c with
  | scalar v notArr notObj =>
    rcases (same_scalar_iff notArr notObj b).mp first with rfl | ⟨counts, quantity⟩
    · exact second
    · have shape : b.form ≠ .arr ∧ b.form ≠ .obj := by
        rw [quantity] at counts
        cases b with
        | arr items => exact absurd rfl counts
        | obj members => exact absurd rfl counts
        | _ => simp [form]
      rcases (same_scalar_iff shape.1 shape.2 c).mp second with rfl | ⟨_, rest⟩
      · exact first
      · exact (same_scalar_iff notArr notObj c).mpr (.inr ⟨counts, quantity.trans rest⟩)
  | arr items ih =>
    obtain ⟨others, rfl, alike⟩ := (same_arr_iff items b).mp first
    obtain ⟨lasts, rfl, onward⟩ := (same_arr_iff others c).mp second
    rw [WellFormed, wellFormedItems_iff] at left middle right
    refine (same_arr_iff items _).mpr ⟨lasts, rfl, ?_⟩
    clear first second
    induction alike generalizing lasts with
    | nil => exact onward
    | cons here _ rec =>
      cases onward with
      | cons next onward =>
        rw [List.forall_mem_cons] at ih left middle right
        exact .cons (ih.1 left.1 middle.1 right.1 here next)
          (rec ih.2 left.2 middle.2 _ onward right.2)
  | obj members ih =>
    obtain ⟨isObject, alike⟩ := (same_obj_iff_get? rfl left middle).mp first
    obtain ⟨too, onward⟩ := (same_obj_iff_get? isObject middle right).mp second
    refine (same_obj_iff_get? rfl left right).mpr ⟨too, fun key => ?_⟩
    have here := alike key
    have next := onward key
    cases found : (obj members).get? key with
    | none =>
      rw [none_of_rel next (none_of_rel here found)]
      exact .none
    | some x =>
      obtain ⟨y, there, one⟩ := some_of_rel here found
      obtain ⟨z, last, two⟩ := some_of_rel next there
      rw [last]
      exact .some (ih _ (Table.mem_of_get? found) (left.get? found) (middle.get? there)
        (right.get? last) one two)

theorem same_symm {a b : Json} (left : a.WellFormed) (right : b.WellFormed) (worth : a.same b) :
    b.same a := by
  induction a using inductOn generalizing b with
  | scalar v notArr notObj =>
    rcases (same_scalar_iff notArr notObj b).mp worth with rfl | ⟨counts, quantity⟩
    · exact same_refl left
    · have shape : b.form ≠ .arr ∧ b.form ≠ .obj := by
        rw [quantity] at counts
        cases b with
        | arr items => exact absurd rfl counts
        | obj members => exact absurd rfl counts
        | _ => simp [form]
      exact (same_scalar_iff shape.1 shape.2 v).mpr (.inr ⟨quantity ▸ counts, quantity.symm⟩)
  | arr items ih =>
    obtain ⟨others, rfl, alike⟩ := (same_arr_iff items b).mp worth
    rw [WellFormed, wellFormedItems_iff] at left right
    refine (same_arr_iff others _).mpr ⟨items, rfl, ?_⟩
    clear worth
    induction alike with
    | nil => exact .nil
    | cons here _ rec =>
      rw [List.forall_mem_cons] at ih left right
      exact .cons (ih.1 left.1 right.1 here) (rec ih.2 left.2 right.2)
  | obj members ih =>
    obtain ⟨isObject, alike⟩ := (same_obj_iff_get? rfl left right).mp worth
    refine (same_obj_iff_get? isObject right left).mpr ⟨rfl, fun key => ?_⟩
    have here := alike key
    cases found : (obj members).get? key with
    | none =>
      rw [none_of_rel here found]
      exact .none
    | some x =>
      obtain ⟨y, there, one⟩ := some_of_rel here found
      rw [there]
      exact .some (ih _ (Table.mem_of_get? found) (left.get? found) (right.get? there) one)

end Upkeep.Json
