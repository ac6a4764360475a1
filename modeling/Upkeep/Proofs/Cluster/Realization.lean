import Upkeep.Proofs.Cluster.Due
import Upkeep.Proofs.Cluster.Versions

/-! What is stored when a version of an object is wanted. The patch is computed from what a client was
given, with its version and kind filled in, and carried out on what is stored, which need not say
them; then the store writes its stamp into the metadata. -/
namespace Upkeep

/-- Members that are worth the same, or none in both. -/
abbrev Json.Alike (a b : Option Json) : Prop := Option.Rel (fun x y : Json => x.same y) a b

/-- What is stored is what was wanted, apart from what the store writes under metadata; metadata that
the store cannot write into is what was wanted, too. A version or kind is the one that was wanted, or
it was not there before and is not there now. -/
structure Object.Realizes (before : Option Json) (wanted stored : Json) : Prop where
  isObject : stored.form = .obj
  metadataThere : Cluster.Stampable wanted ∧ HasMetadata stored ∨
    Json.Alike (stored.get? "metadata") (wanted.get? "metadata")
  metadata : ∀ key, key ∉ Cluster.stampKeys →
    Json.Alike ((Object.metadata stored).get? key) ((Object.metadata wanted).get? key)
  filledIn : ∀ key ∈ Object.filledKeys, stored.get? key = wanted.get? key ∨
    stored.get? key = none ∧ ∃ old, before = some old ∧ old.get? key = none
  others : ∀ key, key ≠ "metadata" → key ∉ Object.filledKeys →
    Json.Alike (stored.get? key) (wanted.get? key)

/-! ### Objects before they are stamped -/

namespace Object

/-- An object that is what was wanted before the store has written anything into it. -/
structure Agrees (before : Option Json) (wanted object : Json) : Prop where
  isObject : object.form = .obj
  wellFormed : object.WellFormed
  filledIn : ∀ key ∈ filledKeys, object.get? key = wanted.get? key ∨
    object.get? key = none ∧ ∃ old, before = some old ∧ old.get? key = none
  others : ∀ key, key ∉ filledKeys → Json.Alike (object.get? key) (wanted.get? key)

section
variable {before : Option Json} {wanted object : Json}

theorem Agrees.self (isObject : wanted.form = .obj) (wellFormed : wanted.WellFormed) :
    Agrees before wanted wanted where
  isObject := isObject
  wellFormed := wellFormed
  filledIn := fun _ _ => .inl rfl
  others := fun key _ => Json.rel_get?_of_same wellFormed wellFormed (Json.same_refl wellFormed) key

/-- A version can be written into the object exactly if it could be into what was wanted. -/
theorem Agrees.stampable_iff (agrees : Agrees before wanted object)
    (wellFormed : wanted.WellFormed) :
    Cluster.Stampable object ↔ Cluster.Stampable wanted := by
  have related := agrees.others "metadata" (by decide)
  rw [Cluster.Stampable, Cluster.Stampable]
  cases held : object.get? "metadata" with
  | none => simp [Json.none_of_rel related held]
  | some one =>
    obtain ⟨other, there, worth⟩ := Json.some_of_rel related held
    have back := Json.same_symm (agrees.wellFormed.get? held) (wellFormed.get? there) worth
    simp only [there, Option.some.injEq, forall_eq']
    constructor
    · intro isObject
      by_contra scalar
      rw [eq_obj_of_form isObject] at back
      exact Json.not_same_obj scalar _ back
    · intro isObject
      by_contra scalar
      rw [eq_obj_of_form isObject] at worth
      exact Json.not_same_obj scalar _ worth

theorem Agrees.metadata (agrees : Agrees before wanted object) (wellFormed : wanted.WellFormed)
    (key : String) : Json.Alike ((metadata object).get? key) ((Object.metadata wanted).get? key) :=
  Json.rel_get?_of_rel (fun _ held => agrees.wellFormed.get? held)
    (fun _ held => wellFormed.get? held) (agrees.others "metadata" (by decide)) key

/-- An object that agrees needs no stamp to be what was wanted. -/
theorem Agrees.realizes (agrees : Agrees before wanted object) (wellFormed : wanted.WellFormed) :
    Realizes before wanted object where
  isObject := agrees.isObject
  metadataThere := .inr (agrees.others "metadata" (by decide))
  metadata := fun key _ => agrees.metadata wellFormed key
  filledIn := agrees.filledIn
  others := fun key _ notFilled => agrees.others key notFilled

/-- Nor does a stamp keep it from being what was wanted. -/
theorem Agrees.realizes_stamped (agrees : Agrees before wanted object)
    (wellFormed : wanted.WellFormed) (stampable : Cluster.Stampable object) (n : Nat) :
    Realizes before wanted (Cluster.stamped object n) where
  isObject := rfl
  metadataThere := by
    have there := (Cluster.get?_stamped object n "metadata").trans (if_pos rfl)
    exact .inl ⟨(agrees.stampable_iff wellFormed).mp stampable, _, there⟩
  metadata := by
    intro key other
    rw [Cluster.metadata_stamped, Cluster.get?_stampMetadata_of_not_mem _ _ other]
    exact agrees.metadata wellFormed key
  filledIn := by
    intro key member
    rw [Cluster.get?_stamped, if_neg (by rintro rfl; revert member; decide)]
    exact agrees.filledIn key member
  others := by
    intro key notMetadata notFilled
    rw [Cluster.get?_stamped, if_neg (Ne.symm notMetadata)]
    exact agrees.others key notFilled

end
end Object

/-! ### The patch -/

theorem Client.form_withDefaults {kind : Kind} {object result : Json}
    (filled : withDefaults kind object = .ok result) : result.form = .obj := by
  obtain ⟨_, rfl⟩ := (withDefaults_eq_ok_iff kind object result).mp filled
  rfl

namespace Object.Revises
variable {kind : Kind} {old given wanted : Json}

theorem get?_eq (revises : Revises wanted given) {key : String} (member : key ∈ filledKeys) :
    wanted.get? key = given.get? key := by
  rw [filledKeys, List.mem_cons, List.mem_singleton] at member
  rcases member with rfl | rfl
  · exact revises.version
  · exact revises.kind

theorem get?_given (filled : Client.withDefaults kind old = .ok given) {key : String}
    (notFilled : key ∉ filledKeys) : given.get? key = old.get? key := by
  rw [filledKeys, List.mem_cons, List.mem_singleton, not_or] at notFilled
  exact Client.get?_withDefaults filled notFilled.1 notFilled.2

/-- What is stored differs from what is given in what is filled in. -/
theorem filledIn_given (filled : Client.withDefaults kind old = .ok given) {key : String}
    (member : key ∈ filledKeys) : old.get? key = given.get? key ∨ old.get? key = none := by
  cases held : old.get? key with
  | none => exact .inr rfl
  | some value =>
    left
    obtain ⟨_, rfl⟩ := (Client.withDefaults_eq_ok_iff kind old given).mp filled
    rw [filledKeys, List.mem_cons, List.mem_singleton] at member
    have found : old.members.get? key = some value := held
    have lookup : ∀ key, Json.get? (.obj ((old.members.insertNew "apiVersion"
        (.str kind.apiVersion)).insertNew "kind" (.str kind.name))) key =
          ((old.members.insertNew "apiVersion" (.str kind.apiVersion)).insertNew "kind"
            (.str kind.name)).get? key := fun _ => rfl
    rcases member with rfl | rfl <;> simp [lookup, Table.get?_insertNew, found]

/-- What agrees with what is given, and is worth what is stored, is what is stored. -/
theorem same_given_of_agrees (filled : Client.withDefaults kind old = .ok given)
    (revises : Revises wanted given) (oldGood : old.WellFormed) (good : given.WellFormed)
    {object : Json} (agrees : Agrees (some old) wanted object) (worth : object.same old) :
    given.same wanted := by
  have isObject := Client.form_withDefaults filled
  rw [Json.same_obj_iff_get? isObject good revises.wellFormed]
  refine ⟨revises.isObject, fun key => ?_⟩
  by_cases member : key ∈ filledKeys
  · rw [revises.get?_eq member]
    exact Json.rel_get?_of_same good good (Json.same_refl good) key
  · have back := Json.rel_get?_of_same oldGood agrees.wellFormed
      (Json.same_symm agrees.wellFormed oldGood worth) key
    have forth := agrees.others key member
    rw [get?_given filled member]
    cases held : old.get? key with
    | none =>
      rw [Json.none_of_rel forth (Json.none_of_rel back held)]
      exact .none
    | some x =>
      obtain ⟨y, there, one⟩ := Json.some_of_rel back held
      obtain ⟨z, last, two⟩ := Json.some_of_rel forth there
      rw [last]
      exact .some (Json.same_trans (oldGood.get? held) (agrees.wellFormed.get? there)
        (revises.wellFormed.get? last) one two)

/-- The patch computed from what is given, carried out on what is stored, leads to what is wanted. -/
theorem agrees_apply (filled : Client.withDefaults kind old = .ok given)
    (revises : Revises wanted given) (oldGood : old.WellFormed) (good : given.WellFormed) :
    Agrees (some old) wanted (old.apply (.obj (Json.diff given.members wanted.members))) := by
  have isObject := Client.form_withDefaults filled
  have whole := eq_obj_of_form isObject
  have target := eq_obj_of_form revises.isObject
  have computed : (Json.obj (Json.diff given.members wanted.members)).WellFormed :=
    Json.wellFormed_diff (Json.wellFormed_members good) (Json.wellFormed_members revises.wellFormed)
  have leads : (given.apply (.obj (Json.diff given.members wanted.members))).same wanted := by
    have made := Json.same_apply_diff (Json.wellFormed_members good)
      (Json.wellFormed_members revises.wellFormed) (by rw [← whole, ← target]; exact revises.nulls)
    rwa [← whole, ← target] at made
  have lookup : ∀ (object : Json) (key : String),
      (object.apply (.obj (Json.diff given.members wanted.members))).get? key =
        Json.patched (object.get? key)
          ((Json.diff given.members wanted.members).get? key) := by
    intro object key
    rw [Json.apply_obj]
    exact Json.get?_applyMembers _ computed.distinct key
  refine ⟨?_, Json.wellFormed_apply oldGood computed, ?_, ?_⟩
  · rw [Json.apply_obj]
    rfl
  · intro key member
    have silent : (Json.diff given.members wanted.members).get? key = none := by
      have equal : wanted.members.get? key = given.members.get? key := revises.get?_eq member
      rw [Json.get?_diff _ revises.wellFormed.distinct, equal]
      cases held : given.members.get? key with
      | none => rfl
      | some value => exact Json.change_self (good.get? held)
    rw [lookup, silent, Json.patched, revises.get?_eq member]
    rcases filledIn_given filled member with same | absent
    · exact .inl same
    · exact .inr ⟨absent, old, rfl, absent⟩
  · intro key notFilled
    have related := Json.rel_get?_of_same (Json.wellFormed_apply good computed) revises.wellFormed
      leads key
    rw [lookup, get?_given filled notFilled] at related
    rw [lookup]
    exact related

/-- If nothing differs from what is given, what is stored is what is wanted. -/
theorem agrees_stored (filled : Client.withDefaults kind old = .ok given)
    (revises : Revises wanted given) (oldGood : old.WellFormed) (good : given.WellFormed)
    (worth : given.same wanted) : Agrees (some old) wanted old := by
  obtain ⟨isObject, _⟩ := (Client.withDefaults_eq_ok_iff kind old given).mp filled
  refine ⟨isObject, oldGood, ?_, ?_⟩
  · intro key member
    rw [revises.get?_eq member]
    rcases filledIn_given filled member with same | absent
    · exact .inl same
    · exact .inr ⟨absent, old, rfl, absent⟩
  · intro key notFilled
    rw [← get?_given filled notFilled]
    exact Json.rel_get?_of_same good revises.wellFormed worth key

end Object.Revises

end Upkeep
