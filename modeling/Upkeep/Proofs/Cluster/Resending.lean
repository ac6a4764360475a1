import Upkeep.Proofs.Cluster.Store

/-! A patch that is sent again, as after a reply that got lost. Carried out on a value it changes
nothing the second time. In the store it changes nothing either and gets the same reply, if it keeps
off what the store itself writes into the metadata; the patch for a mutation does. -/
namespace Upkeep

namespace Cluster

/-- A patch to an object that says nothing about what the store writes. -/
structure Resendable (patch : Json) : Prop where
  isObject : patch.form = .obj
  metadata : ∀ part, patch.get? "metadata" = some part → part.form = .obj
  stamp : ∀ key ∈ stampKeys, (Object.metadata patch).get? key = none

section
variable {patch object : Json}

theorem Resendable.stampable_apply (resendable : Resendable patch) (wellFormed : patch.WellFormed)
    (stampable : Stampable object) : Stampable (object.apply patch) := by
  intro found held
  rw [Object.eq_obj_of_form resendable.isObject, Json.apply_obj] at held
  change (Json.applyMembers object.members patch.members).get? "metadata" = some found at held
  rw [Json.get?_applyMembers _ wellFormed.distinct] at held
  cases named : patch.members.get? "metadata" with
  | none =>
    rw [named] at held
    exact stampable found held
  | some part =>
    rw [named, Object.eq_obj_of_form (resendable.metadata part named),
      Json.patched_value _ (by simp), Json.apply_obj] at held
    exact Option.some.inj held ▸ rfl

/-- What the store writes into an object is no concern of such a patch. -/
theorem Resendable.apply_stamped (resendable : Resendable patch) (wellFormed : patch.WellFormed)
    (fixed : object.apply patch = object) (n : Nat) :
    (stamped object n).apply patch = stamped object n := by
  have shape := Object.eq_obj_of_form resendable.isObject
  have isObject : object.form = .obj := by rw [← fixed, shape, Json.apply_obj]; rfl
  have distinct : patch.members.Distinct := wellFormed.distinct
  rw [Object.eq_obj_of_form isObject, shape, Json.apply_eq_self_iff distinct] at fixed
  rw [shape, stamped, Json.apply_eq_self_iff distinct]
  intro key change named
  have absorbed : Json.Absorbed (object.get? key) change := fixed key change named
  rw [Table.get?_insert]
  split
  · rename_i here
    subst here
    have part := Object.eq_obj_of_form (resendable.metadata change named)
    have inner : Object.metadata patch = change.members := by
      rw [Object.metadata, show patch.get? "metadata" = some change from named]
      rfl
    rw [part] at absorbed ⊢
    obtain ⟨held, there, quiet⟩ := absorbed
    have known : held = .obj (Object.metadata object) := by
      have heldObject : held.form = .obj := by rw [← quiet, Json.apply_obj]; rfl
      rw [Object.metadata, there]
      exact Object.eq_obj_of_form heldObject
    have changeDistinct : change.members.Distinct := (wellFormed.get? named).distinct
    refine ⟨_, rfl, ?_⟩
    rw [known, Json.apply_eq_self_iff changeDistinct] at quiet
    rw [Json.apply_eq_self_iff changeDistinct]
    intro member value given
    have unstamped : member ∉ stampKeys := by
      intro stamped
      have silent := resendable.stamp member stamped
      rw [inner, given] at silent
      cases silent
    rw [get?_stampMetadata_of_not_mem _ _ unstamped]
    exact quiet member value given
  · exact absorbed

/-- The second time, a patch to a stored object finds it as the first time left it. -/
theorem act_patch_again (cluster : Cluster) (resendable : Resendable patch)
    (wellFormed : patch.WellFormed) (key : ObjectKey)
    (stored : ∀ object, cluster.get? key = some object → object.WellFormed ∧ Stampable object) :
    (cluster.act key (.patch patch)).2.act key (.patch patch) =
      cluster.act key (.patch patch) := by
  cases held : cluster.get? key with
  | none =>
    have absent : cluster.act key (.patch patch) = (.error .notFound, cluster) := by
      rw [act.eq_def, held]
    rw [absent, absent]
  | some object =>
    obtain ⟨good, stampable⟩ := stored object held
    have fixed := Json.apply_apply object wellFormed
    have made := Json.wellFormed_apply good wellFormed
    have isObject : (object.apply patch).form = .obj := by
      rw [Object.eq_obj_of_form resendable.isObject, Json.apply_obj]
      rfl
    have first : cluster.act key (.patch patch) =
        cluster.storePatched key object (object.apply patch) := by
      rw [act.eq_def, held]
    rw [first, storePatched]
    split
    · exact act_patch_of_fixed ((get?_put _ _ _ _).trans (if_pos rfl)) made fixed
    · have free := resendable.stampable_apply wellFormed stampable
      rw [store, stamp_of_stampable isObject free]
      refine act_patch_of_fixed ((get?_put _ _ _ _).trans (if_pos rfl)) ?_
        (resendable.apply_stamped wellFormed fixed _)
      exact wellFormed_stamped made _

end

/-- A patch may be sent twice. A value that it was carried out on it leaves as it is, list, null and
all; and a request to patch an object that is made again gets the same reply and leaves the same
cluster. -/
theorem patch_resent {patch : Json} (wellFormed : patch.WellFormed) :
    (∀ target : Json, (target.apply patch).apply patch = target.apply patch) ∧
      ∀ (cluster : Cluster) (client : Client) (target : Target), Resendable patch →
        (∀ object, cluster.get? target.objectKey = some object →
          object.WellFormed ∧ Stampable object) →
        (cluster.perform (client.request target (.patch patch))).2.perform
            (client.request target (.patch patch)) =
          cluster.perform (client.request target (.patch patch)) := by
  refine ⟨fun target => Json.apply_apply target wellFormed, ?_⟩
  intro cluster client target resendable stored
  rw [perform_request, perform_request]
  exact cluster.act_patch_again resendable wellFormed target.objectKey stored

/-- A patch that makes an object where there was a list, removes a member that may not be there, and
puts a list with a null in it. -/
def reshaping : Json :=
  .obj [("metadata", .obj [("labels", .obj [("team", .str "web"), ("owner", .null)])]),
    ("data", .obj [("rules", .obj [("groups", .arr [.null]), ("old", .null)])])]

/-- An object without labels, with a null and a list in it. -/
def listed : Json :=
  .obj [("kind", .str "ConfigMap"), ("data", .obj [("rules", .arr [.int 1]), ("other", .null)])]

def listedTarget : Target := ⟨.configMap, "rules", "web"⟩

def listing : Cluster := ⟨[(listedTarget.objectKey, listed)], 1⟩

/-- The request of an untyped client to reshape the listed object. -/
def reshapes : Request := Client.request (.untyped none) listedTarget (.patch reshaping)

theorem patch_resent_reshaping :
    reshaping.WellFormed ∧ Resendable reshaping ∧ listed.WellFormed ∧ Stampable listed ∧
      (listed.apply reshaping).apply reshaping = listed.apply reshaping ∧
      (listing.perform reshapes).2.counter = 2 ∧
      (listing.perform reshapes).2.perform reshapes = listing.perform reshapes := by
  have wellFormed : reshaping.WellFormed := by
    simp [reshaping, Json.WellFormed, Json.WellFormedMembers, Json.WellFormedItems,
      Table.Distinct, Table.keys]
  have resendable : Resendable reshaping := by
    refine ⟨rfl, ?_, by decide⟩
    intro part named
    exact Option.some.inj named ▸ rfl
  have good : listed.WellFormed := by
    simp [listed, Json.WellFormed, Json.WellFormedMembers, Json.WellFormedItems, Table.Distinct,
      Table.keys]
  have stampable : Stampable listed := by
    intro found named
    cases named
  obtain ⟨twice, again⟩ := patch_resent wellFormed
  refine ⟨wellFormed, resendable, good, stampable, twice listed, by decide +kernel, ?_⟩
  apply again listing (.untyped none) listedTarget resendable
  intro object there
  have held : listing.get? listedTarget.objectKey = some listed := by
    simp [listing, get?, Table.get?]
  cases held.symm.trans there
  exact ⟨good, stampable⟩

end Cluster

namespace Mutation
variable {mutation : Mutation} {field : String} {value object : Json}

theorem resendable_patch (writes : mutation.Writes field value) (wellFormed : object.WellFormed)
    (takes : Object.TakesLabels object) :
    Cluster.Resendable (.obj (mutation.patch object field value)) where
  isObject := rfl
  metadata := by
    intro part named
    have given := get?_patch_metadata writes wellFormed takes
    rw [show (mutation.patch object field value).get? "metadata" = some part from named] at given
    split at given
    · cases given
    · exact Option.some.inj given ▸ rfl
  stamp := by
    intro key stamped
    have given := get?_patch_metadata writes wellFormed takes
    rw [Object.metadata]
    change (Json.members (((mutation.patch object field value).get? "metadata").getD .null)).get?
      key = none
    rw [given]
    split
    · rfl
    · have other : "labels" ≠ key := by
        rintro rfl
        exact absurd stamped (by decide)
      simp [Json.members, Table.get?, other]

/-- The patch for a mutation changes nothing the second time, whatever object it was computed from
and whatever is stored. -/
theorem act_patch_again (writes : mutation.Writes field value) (wellFormed : object.WellFormed)
    (takes : Object.TakesLabels object) (cluster : Cluster) (key : ObjectKey)
    (stored : ∀ held, cluster.get? key = some held → held.WellFormed ∧ Cluster.Stampable held) :
    (cluster.act key (.patch (.obj (mutation.patch object field value)))).2.act key
        (.patch (.obj (mutation.patch object field value))) =
      cluster.act key (.patch (.obj (mutation.patch object field value))) :=
  cluster.act_patch_again (resendable_patch writes wellFormed takes)
    (wellFormed_patch writes wellFormed) key stored

end Mutation
end Upkeep
