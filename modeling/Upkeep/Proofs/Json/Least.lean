import Upkeep.Proofs.Json.Completeness

/-! The computed merge patch is the least one. A member that it names is one where the old and the
new object differ, and a patch that does not name such a member leaves the difference as it is. So
every patch that leads to the new object names at least the members that the computed one names, at
every depth. -/
namespace Upkeep.Json

/-- A patch says something at the end of a path of keys. -/
def Names (patch : Json) (path : List String) : Prop := patch.part? path ≠ none

theorem names_nil (patch : Json) : patch.Names [] := Option.some_ne_none patch

theorem names_cons_iff {patch : Json} {key : String} {rest : List String} :
    patch.Names (key :: rest) ↔ ∃ part, patch.get? key = some part ∧ part.Names rest := by
  rw [Names, part?]
  cases patch.get? key <;> simp [Names]

theorem not_names_of_scalar {patch : Json} (scalar : patch.form ≠ .obj) (key : String)
    (rest : List String) : ¬ patch.Names (key :: rest) := fun named =>
  named (part?_cons_of_not_object scalar key rest)

/-- An object that has to be sent is sent as the patch from what was there, which is nothing where
no object was. -/
theorem change_obj {held : Option Json} {new : Table String Json} {change : Json}
    (computed : Json.change held (obj new) = some change) :
    change = obj (diff (held.getD .null).members new) := by
  cases held with
  | none => exact (Option.some.inj computed).symm.trans (congrArg obj (diff_nil new).symm)
  | some current =>
    rcases current.obj_or_form_ne with ⟨members, rfl⟩ | scalar
    · rw [Json.change, patchTo_obj] at computed
      split at computed
      · cases computed
      · exact (Option.some.inj computed).symm
    · rw [Json.change, patchTo_of_not_object scalar] at computed
      rw [Option.getD_some, members_of_not_object scalar, diff_nil]
      exact (Option.some.inj computed).symm

theorem change_of_scalar {held : Option Json} {new change : Json} (scalar : new.form ≠ .obj)
    (computed : Json.change held new = some change) : change = new := by
  cases held with
  | none => exact (Option.some.inj computed).symm
  | some current =>
    rw [Json.change, patchTo_of_scalar _ _ scalar] at computed
    split at computed
    · cases computed
    · exact (Option.some.inj computed).symm

/-- Only a patch that is an object leads to an object; it then does so member by member. -/
theorem rel_patched_of_same_obj {target patch : Json} {new : Table String Json}
    (left : target.WellFormed) (wellFormed : patch.WellFormed) (right : (obj new).WellFormed)
    (worth : (apply target patch).same (obj new)) (key : String) :
    Option.Rel (fun x y : Json => x.same y) (patched (target.get? key) (patch.get? key))
      (new.get? key) := by
  have related := rel_get?_of_same (wellFormed_apply left wellFormed) right worth key
  rcases patch.obj_or_form_ne with ⟨others, rfl⟩ | scalar
  · have distinct : Table.Distinct others := wellFormed.distinct
    rw [apply_obj] at related
    exact get?_applyMembers target.members distinct key ▸ related
  · rw [apply_of_scalar _ _ scalar] at worth
    exact absurd worth (not_same_obj scalar new)

section
variable {held said : Option Json} {value outcome change : Json}

/-- A patch that leads to a value worth the new one says something where something has to be said. -/
theorem said_of_patched (left : ∀ current, held = some current → current.WellFormed)
    (right : value.WellFormed) (made : patched held said = some outcome)
    (worth : outcome.same value) (computed : Json.change held value = some change) :
    ∃ other, said = some other := by
  cases said with
  | some other => exact ⟨other, rfl⟩
  | none =>
    rw [(change_eq_none_iff left right).mpr ⟨outcome, made, worth⟩] at computed
    cases computed

/-- A patch that removes a member says something of it. -/
theorem said_of_removed {current : Json}
    (removed : Option.Rel (fun x y : Json => x.same y) (patched (some current) said) none) :
    ∃ other, said = some other := by
  cases said with
  | some other => exact ⟨other, rfl⟩
  | none => cases removed

theorem reached_of_rel
    (related : Option.Rel (fun x y : Json => x.same y) (patched held said) (some value)) :
    ∃ result, patched held said = some result ∧ result.same value := by
  generalize patched held said = after at related
  cases related with
  | some alike => exact ⟨_, rfl, alike⟩

/-- Under one key: whatever leads to a value worth the new one names all that has to be said. -/
theorem names_of_patched (left : ∀ current, held = some current → current.WellFormed)
    (wellFormed : ∀ other, said = some other → other.WellFormed) (right : value.WellFormed)
    (made : patched held said = some outcome) (worth : outcome.same value)
    (computed : Json.change held value = some change) :
    ∃ other, said = some other ∧ ∀ path, change.Names path → other.Names path := by
  obtain ⟨other, rfl⟩ := said_of_patched left right made worth computed
  refine ⟨other, rfl, ?_⟩
  intro path named
  -- on the new value: a path into it goes on into what has to be said under its first key
  induction value using inductOnMembers generalizing held other outcome change path with
  | plain v notObj =>
    rw [change_of_scalar notObj computed] at named
    cases path with
    | nil => exact names_nil other
    | cons key rest => exact absurd named (not_names_of_scalar notObj key rest)
  | obj members ih =>
    cases path with
    | nil => exact names_nil other
    | cons key rest =>
      have distinct : Table.Distinct members := right.distinct
      have heldGood := wellFormed_getD left
      have good := wellFormed other rfl
      have present : other ≠ .null := by
        rintro rfl
        cases made
      rw [patched_value _ present] at made
      rw [← Option.some.inj made] at worth
      have related := rel_patched_of_same_obj heldGood good right worth key
      rw [change_obj computed, names_cons_iff] at named
      obtain ⟨part, there, below⟩ := named
      have needed : Table.get? (diff (held.getD .null).members members) key = some part := there
      rw [get?_diff _ distinct] at needed
      rw [names_cons_iff]
      cases found : Table.get? members key with
      | none =>
        -- a removal: a patch that does not name the key leaves the member where it is
        rw [found] at needed related
        obtain ⟨current, stood, rfl⟩ := Option.map_eq_some_iff.mp needed
        have stood' : (held.getD .null).get? key = some current := stood
        rw [stood'] at related
        obtain ⟨inner, mentioned⟩ := said_of_removed related
        cases rest with
        | cons next rest => exact absurd below (not_names_of_scalar (by decide) next rest)
        | nil => exact ⟨inner, mentioned, names_nil inner⟩
      | some wanted =>
        rw [found] at needed related
        obtain ⟨result, reached, alike⟩ := reached_of_rel related
        have parts : ∀ current, (held.getD .null).get? key = some current → current.WellFormed :=
          fun _ stood => heldGood.get? stood
        obtain ⟨inner, mentioned⟩ :=
          said_of_patched parts (right.get? found) reached alike needed
        rw [mentioned] at reached
        refine ⟨inner, mentioned, ?_⟩
        exact ih _ (Table.mem_of_get? found) parts (right.get? found) alike needed inner
          (by rintro _ ⟨⟩; exact good.get? mentioned) reached rest below

end

/-! ### Results -/

/-- The computed patch is empty exactly if the two objects are worth the same, and every path of keys
that it names is named by every patch that leads to an object worth the new one. -/
theorem diff_least {old new : Table String Json} (left : (obj old).WellFormed)
    (right : (obj new).WellFormed) :
    (diff old new = [] ↔ (obj old).same (obj new)) ∧
    ∀ patch : Table String Json, (obj patch).WellFormed →
      (apply (obj old) (obj patch)).same (obj new) →
      ∀ path, (obj (diff old new)).Names path → (obj patch).Names path := by
  refine ⟨diff_eq_nil_iff left right, ?_⟩
  intro patch wellFormed worth path named
  by_cases nothing : diff old new = []
  · rw [nothing] at named
    cases path with
    | nil => exact names_nil _
    | cons key rest =>
      obtain ⟨part, there, _⟩ := names_cons_iff.mp named
      cases there
  · have computed : change (some (obj old)) (obj new) = some (obj (diff old new)) :=
      (patchTo_obj old new).trans (if_neg nothing)
    have before : ∀ current, some (obj old) = some current → current.WellFormed :=
      fun _ held => Option.some.inj held ▸ left
    have sent : ∀ other, some (obj patch) = some other → other.WellFormed :=
      fun _ said => Option.some.inj said ▸ wellFormed
    obtain ⟨other, same, covers⟩ := names_of_patched before sent right rfl worth computed
    exact Option.some.inj same ▸ covers path named

/-- An object with a list in place of an object, and a member too many. -/
def withList : Table String Json :=
  [("a", .int 1), ("b", .obj [("c", .arr [.null]), ("d", .obj [("e", .null)])])]

/-- The same with an object in place of the list, and the other member gone. -/
def withoutList : Table String Json :=
  [("b", .obj [("c", .obj [("f", .obj [])])]), ("a", .bool true)]

/-- A patch that says more than it has to. -/
def wordyPatch : Table String Json :=
  [ ("a", .int 1), ("g", .null)
  , ("b", .obj [("d", .null), ("c", .obj [("f", .obj [("h", .null)])])]) ]

theorem wellFormed_withList :
    (obj withList).WellFormed ∧ (obj withoutList).WellFormed ∧ (obj wordyPatch).WellFormed := by
  simp [withList, withoutList, wordyPatch, WellFormed, WellFormedMembers, WellFormedItems,
    Table.Distinct, Table.keys]

theorem diff_least_withList :
    (obj withList).WellFormed ∧ (obj withoutList).WellFormed ∧ (obj wordyPatch).WellFormed ∧
      (apply (obj withList) (obj wordyPatch)).same (obj withoutList) ∧
      diff withList withoutList ≠ [] ∧ ¬ (obj withList).same (obj withoutList) ∧
      (obj (diff withList withoutList)).Names ["b", "c", "f"] ∧
      (obj wordyPatch).Names ["b", "c", "f"] := by
  obtain ⟨left, right, wordy⟩ := wellFormed_withList
  obtain ⟨empty, least⟩ := diff_least left right
  have reached : (apply (obj withList) (obj wordyPatch)).same (obj withoutList) := by
    decide +kernel
  have differ : ¬ (obj withList).same (obj withoutList) := by decide +kernel
  have named : (obj (diff withList withoutList)).Names ["b", "c", "f"] := Option.some_ne_none _
  exact ⟨left, right, wordy, reached, fun nothing => differ (empty.mp nothing), differ, named,
    least wordyPatch wordy reached _ named⟩

end Upkeep.Json
