import Upkeep.Proofs.Json.Difference

/-! A merge patch that is carried out, seen through look-ups. The computed patch leads to the new
object, and a patch carried out twice is a patch carried out once. Null is both a value and the mark
of a removal; `NullsFrom` says when the two do not meet. -/
namespace Upkeep

namespace Json

/-- What a patch leaves under a key that it names, or does not name. -/
def patched (held : Option Json) : Option Json → Option Json
  | none => held
  | some .null => none
  | some change => some (apply (held.getD .null) change)

/-- What a patch says about a member it leaves alone, though it names it. -/
def Absorbed (held : Option Json) : Json → Prop
  | .null => held = none
  | change => ∃ value, held = some value ∧ apply value change = value

mutual

/-- Every null of the new value is a null of the old one at the same place. Nulls in lists do not
count, as lists are replaced whole. -/
def NullsFrom (old : Json) : Json → Prop
  | .obj new => NullsFromMembers old.members new
  | _ => True

def NullsFromMembers (old : Table String Json) : List (String × Json) → Prop
  | [] => True
  | (key, value) :: rest =>
    (value = .null → old.get? key = some .null) ∧
      NullsFrom ((old.get? key).getD .null) value ∧ NullsFromMembers old rest

end

theorem nullsFromMembers_iff (old : Table String Json) (new : List (String × Json)) :
    NullsFromMembers old new ↔ ∀ e ∈ new, (e.2 = .null → old.get? e.1 = some .null) ∧
      NullsFrom ((old.get? e.1).getD .null) e.2 := by
  induction new with
  | nil => simp [NullsFromMembers]
  | cons e rest ih => simp [NullsFromMembers, ih, and_assoc]

theorem nullsFrom_of_members {a b : Json} (alike : a.members = b.members) (new : Json) :
    NullsFrom a new ↔ NullsFrom b new := by
  cases new <;> simp [NullsFrom, alike]

/-- A value without nulls may be put in any place. -/
theorem NullsFrom.anywhere {new : Json} (free : NullsFrom .null new) (old : Json) :
    NullsFrom old new := by
  induction new using inductOnMembers generalizing old with
  | plain v notObj => cases v <;> first | exact trivial | exact absurd rfl notObj
  | obj members ih =>
    rw [NullsFrom, nullsFromMembers_iff] at *
    intro e member
    obtain ⟨notNull, inner⟩ := free e member
    refine ⟨?_, ih e member inner _⟩
    intro null
    cases notNull null

/-! ### Carrying out a patch -/

theorem apply_of_scalar (target patch : Json) (scalar : patch.form ≠ .obj) :
    apply target patch = patch := by
  cases patch with
  | obj members => exact absurd rfl scalar
  | _ => rfl

theorem apply_obj (target : Json) (patch : Table String Json) :
    apply target (obj patch) = obj (applyMembers target.members patch) := by
  rw [apply]

theorem applyMembers_null (target : Table String Json) (key : String)
    (rest : List (String × Json)) :
    applyMembers target ((key, .null) :: rest) = applyMembers (target.erase key) rest := by
  rw [applyMembers]

theorem applyMembers_value (target : Table String Json) (key : String) {value : Json}
    (rest : List (String × Json)) (present : value ≠ .null) :
    applyMembers target ((key, value) :: rest) =
      applyMembers (target.insert key (apply ((target.get? key).getD .null) value)) rest := by
  rw [applyMembers]
  intro null
  exact present null

theorem patched_value (held : Option Json) {change : Json} (present : change ≠ .null) :
    patched held (some change) = some (apply (held.getD .null) change) := by
  cases change with
  | null => exact absurd rfl present
  | _ => rfl

theorem get?_applyMembers (target : Table String Json) {patch : Table String Json}
    (distinct : patch.Distinct) (key : String) :
    (applyMembers target patch).get? key = patched (target.get? key) (patch.get? key) := by
  induction patch generalizing target with
  | nil => rw [applyMembers]; rfl
  | cons e rest ih =>
    obtain ⟨k, v⟩ := e
    obtain ⟨absent, restDistinct⟩ := distinct.of_cons
    by_cases null : v = .null
    · subst null
      rw [applyMembers_null, ih _ restDistinct, Table.get?_erase]
      by_cases hk : k = key
      · subst hk
        simp [absent, Table.get?, patched]
      · simp [Table.get?, hk]
    · rw [applyMembers_value _ _ _ null, ih _ restDistinct, Table.get?_insert]
      by_cases hk : k = key
      · subst hk
        simp [absent, Table.get?, patched]
      · simp [Table.get?, hk]

theorem distinct_applyMembers {target : Table String Json} (distinct : target.Distinct)
    (patch : List (String × Json)) : (applyMembers target patch).Distinct := by
  induction patch generalizing target with
  | nil => rw [applyMembers]; exact distinct
  | cons e rest ih =>
    obtain ⟨k, v⟩ := e
    by_cases null : v = .null
    · subst null
      rw [applyMembers_null]
      exact ih (distinct.erase k)
    · rw [applyMembers_value _ _ _ null]
      exact ih (distinct.insert k _)

theorem wellFormed_apply {target patch : Json} (left : target.WellFormed)
    (right : patch.WellFormed) : (apply target patch).WellFormed := by
  induction patch using inductOnMembers generalizing target with
  | plain v notObj => rwa [apply_of_scalar target v notObj]
  | obj members ih =>
    have distinct : Table.Distinct members := right.distinct
    rw [apply_obj, wellFormed_obj_iff]
    refine ⟨distinct_applyMembers left.distinct members, ?_⟩
    intro key value h
    rw [get?_applyMembers _ distinct] at h
    cases named : Table.get? members key with
    | none =>
      rw [named] at h
      exact left.get? h
    | some change =>
      rw [named] at h
      by_cases null : change = .null
      · subst null
        cases h
      · rw [patched_value _ null] at h
        have inner : (((target.members).get? key).getD .null).WellFormed := by
          cases held : target.members.get? key with
          | none => trivial
          | some current => exact left.get? held
        exact Option.some.inj h ▸ ih _ (Table.mem_of_get? named) inner (right.get? named)

/-- A patch takes values of equal worth to values of equal worth. -/
theorem same_apply {a b patch : Json} (left : a.WellFormed) (right : b.WellFormed)
    (change : patch.WellFormed) (worth : a.same b) : (apply a patch).same (apply b patch) := by
  induction patch using inductOnMembers generalizing a b with
  | plain v notObj =>
    rw [apply_of_scalar a v notObj, apply_of_scalar b v notObj]
    exact same_refl change
  | obj members ih =>
    have distinct : Table.Distinct members := change.distinct
    rw [apply_obj, apply_obj, same_obj_iff (distinct_applyMembers left.distinct members)
      (distinct_applyMembers right.distinct members)]
    intro key
    rw [get?_applyMembers _ distinct, get?_applyMembers _ distinct]
    have related : Option.Rel (fun x y : Json => x.same y) (a.members.get? key)
      (b.members.get? key) := rel_get?_of_same left right worth key
    cases named : Table.get? members key with
    | none => exact related
    | some part =>
      by_cases null : part = .null
      · subst null
        exact .none
      · rw [patched_value _ null, patched_value _ null]
        cases held : a.members.get? key with
        | none =>
          rw [none_of_rel related held]
          exact .some (same_refl (wellFormed_apply trivial (change.get? named)))
        | some x =>
          obtain ⟨y, there, alike⟩ := some_of_rel related held
          rw [there]
          exact .some (ih _ (Table.mem_of_get? named) (left.get? held) (right.get? there)
            (change.get? named) alike)

/-! ### Carrying out a patch twice -/

theorem applyMembers_eq_self {target : Table String Json} {patch : List (String × Json)}
    (absorbed : ∀ e ∈ patch, Absorbed (target.get? e.1) e.2) :
    applyMembers target patch = target := by
  induction patch with
  | nil => rw [applyMembers]
  | cons e rest ih =>
    obtain ⟨k, v⟩ := e
    have here : Absorbed (target.get? k) v := absorbed _ List.mem_cons_self
    have later := ih fun e member => absorbed e (List.mem_cons_of_mem _ member)
    by_cases null : v = .null
    · subst null
      rw [applyMembers_null, Table.erase_eq_self here, later]
    · have present : ∃ value, target.get? k = some value ∧ apply value v = value := by
        cases v with
        | null => exact absurd rfl null
        | _ => exact here
      obtain ⟨value, held, same⟩ := present
      rw [applyMembers_value _ _ _ null, held, Option.getD_some, same, Table.insert_eq_self held,
        later]

theorem absorbed_iff (held : Option Json) (change : Json) :
    Absorbed held change ↔ patched held (some change) = held := by
  by_cases null : change = .null
  · subst null
    exact eq_comm
  · rw [patched_value _ null]
    have unfolded :
        Absorbed held change ↔ ∃ value, held = some value ∧ apply value change = value := by
      cases change with
      | null => exact absurd rfl null
      | _ => rfl
    rw [unfolded]
    cases held with
    | none => simp
    | some value => simp

/-- A patch leaves an object as it is exactly if it leaves each member that it names. -/
theorem apply_eq_self_iff {target patch : Table String Json} (distinct : patch.Distinct) :
    apply (obj target) (obj patch) = obj target ↔
      ∀ key change, patch.get? key = some change → Absorbed (target.get? key) change := by
  rw [apply_obj, obj.injEq]
  constructor
  · intro same key change named
    have found := get?_applyMembers target distinct key
    rw [show (obj target).members = target from rfl] at same
    rw [same, named] at found
    exact (absorbed_iff _ _).mpr found.symm
  · intro absorbed
    exact applyMembers_eq_self fun e member => absorbed e.1 e.2 (distinct.get?_of_mem member)

/-- A patch carried out twice is a patch carried out once. -/
theorem apply_apply (target : Json) {patch : Json} (wellFormed : patch.WellFormed) :
    apply (apply target patch) patch = apply target patch := by
  induction patch using inductOnMembers generalizing target with
  | plain v notObj => rw [apply_of_scalar _ v notObj, apply_of_scalar _ v notObj]
  | obj members ih =>
    have distinct : Table.Distinct members := wellFormed.distinct
    rw [apply_obj target, apply_eq_self_iff distinct]
    intro key change named
    rw [absorbed_iff, get?_applyMembers _ distinct, named]
    by_cases null : change = .null
    · subst null
      rfl
    · rw [patched_value _ null, patched_value _ null, Option.getD_some,
        ih _ (Table.mem_of_get? named) _ (wellFormed.get? named)]

/-! ### Carrying out the computed patch -/

theorem applyMembers_append {target : Table String Json} {new : List (String × Json)}
    (apart : ∀ e ∈ new, target.get? e.1 = none) (distinct : Table.Distinct new)
    (same : ∀ e ∈ new, e.2 ≠ .null ∧ apply .null e.2 = e.2) :
    applyMembers target new = target ++ new := by
  induction new generalizing target with
  | nil => rw [applyMembers, List.append_nil]
  | cons e rest ih =>
    obtain ⟨k, v⟩ := e
    obtain ⟨present, made⟩ := same _ List.mem_cons_self
    obtain ⟨fresh, restDistinct⟩ := distinct.of_cons
    have absent : target.get? k = none := apart _ List.mem_cons_self
    rw [applyMembers_value _ _ _ present, absent, Option.getD_none, made,
      Table.insert_of_absent _ _ absent]
    rw [ih ?_ restDistinct fun e member => same e (List.mem_cons_of_mem _ member)]
    · simp
    · intro other member
      have different : k ≠ other.1 := by
        intro equal
        rw [equal, restDistinct.get?_of_mem member] at fresh
        cases fresh
      simp [Table.get?_append, Table.get?, different, apart other (List.mem_cons_of_mem _ member)]

/-- A value without nulls that is put where no object is comes out as it is. -/
theorem apply_fresh {target new : Json} (empty : target.members = []) (wellFormed : new.WellFormed)
    (free : NullsFrom .null new) : apply target new = new := by
  induction new using inductOnMembers generalizing target with
  | plain v notObj => exact apply_of_scalar _ v notObj
  | obj members ih =>
    have distinct : Table.Distinct members := wellFormed.distinct
    rw [NullsFrom, nullsFromMembers_iff] at free
    rw [apply_obj, empty, applyMembers_append (fun _ _ => rfl) distinct, List.nil_append]
    intro e member
    obtain ⟨notNull, inner⟩ := free e member
    have part := wellFormed.get? (distinct.get?_of_mem member)
    refine ⟨?_, ih e member rfl part inner⟩
    intro null
    cases notNull null

theorem change_ne_null (old : Option Json) {new patch : Json}
    (nulls : new = .null → old = some .null) (computed : change old new = some patch) :
    patch ≠ .null := by
  rintro rfl
  cases old with
  | none =>
    have null : new = .null := Option.some.inj computed
    cases nulls null
  | some current =>
    rcases new.obj_or_form_ne with ⟨members, rfl⟩ | scalar
    · rcases current.obj_or_form_ne with ⟨held, rfl⟩ | other
      · rw [change, patchTo_obj] at computed
        split at computed <;> cases computed
      · rw [change, patchTo_of_not_object other] at computed
        cases computed
    · rw [change, patchTo_of_scalar _ _ scalar] at computed
      split at computed
      · cases computed
      · rename_i differs
        have null : new = .null := Option.some.inj computed
        have held : current = .null := Option.some.inj (nulls null)
        subst null held
        exact differs rfl

/-- Under one key: the new value comes out, if it does where an old value is changed into it. -/
theorem same_patched_change (held : Option Json) {value : Json} (wellFormed : value.WellFormed)
    (nulls : value = .null → held = some .null)
    (fresh : held = none → apply .null value = value)
    (changed : ∀ current, held = some current →
      ((patchTo current value).elim current (apply current)).same value) :
    ∃ outcome, patched held (change held value) = some outcome ∧ outcome.same value := by
  cases held with
  | none =>
    have present : value ≠ .null := by
      intro null
      cases nulls null
    exact ⟨value, by rw [change, patched_value _ present, Option.getD_none, fresh rfl],
      same_refl wellFormed⟩
  | some current =>
    have worth := changed current rfl
    cases step : patchTo current value with
    | none =>
      rw [step] at worth
      exact ⟨current, by rw [change, step]; rfl, worth⟩
    | some patch =>
      rw [step] at worth
      have present : patch ≠ .null := change_ne_null (some current) nulls step
      exact ⟨apply current patch, by rw [change, step, patched_value _ present]; rfl, worth⟩

theorem elim_patchTo_obj (old new : Table String Json) :
    (patchTo (obj old) (obj new)).elim (obj old) (apply (obj old)) =
      obj (applyMembers old (diff old new)) := by
  rw [patchTo_obj]
  split
  · rename_i empty
    rw [empty, applyMembers]
    rfl
  · exact apply_obj _ _

theorem members_of_not_object {value : Json} (scalar : value.form ≠ .obj) : value.members = [] := by
  cases value with
  | obj held => exact absurd rfl scalar
  | _ => rfl

/-- The computed patch leads to the new value, if no null of it asks to be made. -/
theorem same_apply_patchTo {old new : Json} (left : old.WellFormed) (right : new.WellFormed)
    (nulls : NullsFrom old new) : ((patchTo old new).elim old (apply old)).same new := by
  induction new using inductOnMembers generalizing old with
  | plain v notObj =>
    rw [patchTo_of_scalar old v notObj]
    split
    · assumption
    · rw [Option.elim_some, apply_of_scalar old v notObj]
      exact same_refl right
  | obj members ih =>
    have distinct : Table.Distinct members := right.distinct
    rcases old.obj_or_form_ne with ⟨held, rfl⟩ | scalar
    · have heldDistinct : Table.Distinct held := left.distinct
      rw [NullsFrom, nullsFromMembers_iff] at nulls
      rw [elim_patchTo_obj, same_obj_iff (distinct_applyMembers heldDistinct _) distinct]
      intro key
      rw [get?_applyMembers _ (distinct_diff heldDistinct distinct), get?_diff held distinct]
      cases found : Table.get? members key with
      | none => cases Table.get? held key <;> exact .none
      | some value =>
        obtain ⟨notNull, inner⟩ := nulls _ (Table.mem_of_get? found)
        have part := right.get? found
        change NullsFrom ((Table.get? held key).getD .null) value at inner
        obtain ⟨outcome, made, worth⟩ := same_patched_change (Table.get? held key) part notNull
          (fun absent => apply_fresh rfl part (by rwa [absent] at inner))
          (fun current there => ih _ (Table.mem_of_get? found) (left.get? there) part
            (by rwa [there] at inner))
        exact made ▸ .some worth
    · have empty := members_of_not_object scalar
      rw [patchTo_of_not_object scalar, Option.elim_some,
        apply_fresh empty right ((nullsFrom_of_members (b := .null) empty _).mp nulls)]
      exact same_refl right

/-- Under one key, where the change was computed from another value of equal worth; a null is as
good as no value. -/
theorem same_patched_near {held stored : Option Json} {value : Json} (wellFormed : value.WellFormed)
    (present : value ≠ .null) (nulls : NullsFrom .null value)
    (left : ∀ x, held = some x → x.WellFormed) (right : ∀ y, stored = some y → y.WellFormed)
    (near : (stored.getD .null).same (held.getD .null)) :
    ∃ outcome, patched stored (change held value) = some outcome ∧ outcome.same value := by
  have notNull : value = .null → held = some .null := fun null => absurd null present
  obtain ⟨outcome, made, worth⟩ := same_patched_change held wellFormed notNull
    (fun _ => apply_fresh rfl wellFormed nulls)
    (fun current there => same_apply_patchTo (left current there) wellFormed
      (nulls.anywhere current))
  have heldGood := wellFormed_getD left
  have storedGood := wellFormed_getD right
  cases step : change held value with
  | some patch =>
    have named : patch ≠ .null := change_ne_null held notNull step
    have good : patch.WellFormed := wellFormed_change left wellFormed step
    rw [step, patched_value _ named] at made
    refine ⟨_, patched_value _ named, ?_⟩
    have moved := same_apply storedGood heldGood good near
    rw [Option.some.inj made] at moved
    exact same_trans (wellFormed_apply storedGood good)
      (Option.some.inj made ▸ wellFormed_apply heldGood good) wellFormed moved worth
  | none =>
    rw [step] at made
    rw [show held = some outcome from made, Option.getD_some] at near heldGood
    have kept := ne_null_of_same near (ne_null_of_same worth present)
    cases there : stored with
    | none => exact absurd (there ▸ rfl) kept
    | some current =>
      rw [there, Option.getD_some] at near storedGood
      exact ⟨current, rfl, same_trans storedGood heldGood wellFormed near worth⟩

end Json
end Upkeep
