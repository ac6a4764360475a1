import Upkeep.Cluster.Client
import Upkeep.Proofs.Cluster.StalePatch

/-! The store, one action at a time. An action concerns the object under its key and no other one. A
patch that leaves the stored object as it is leaves the whole cluster as it is, counter included. -/
namespace Upkeep

/-- What is read or built as JSON names no key of an object twice, and so does all that is stored.
-/
def Cluster.WellFormed (cluster : Cluster) : Prop :=
  ∀ key object, cluster.get? key = some object → object.WellFormed

/-- The body of an action, if it has one, is well-formed. -/
def Action.WellFormed : Action → Prop
  | create object => object.WellFormed
  | patch change => change.WellFormed
  | get | delete => True

/-- Nothing but JSON objects is stored. -/
def Cluster.HoldsObjects (cluster : Cluster) : Prop :=
  ∀ key object, cluster.get? key = some object → object.form = .obj

namespace Cluster

theorem get?_put (cluster : Cluster) (key : ObjectKey) (object : Json) (other : ObjectKey) :
    (cluster.put key object).get? other = if key = other then some object else cluster.get? other :=
  Table.get?_insert cluster.objects key object other

theorem get?_remove (cluster : Cluster) (key other : ObjectKey) :
    (cluster.remove key).get? other = if key = other then none else cluster.get? other :=
  Table.get?_erase cluster.objects key other

theorem put_eq_self {cluster : Cluster} {key : ObjectKey} {object : Json}
    (held : cluster.get? key = some object) : cluster.put key object = cluster := by
  rw [put, Table.insert_eq_self held]

theorem get?_store_of_ne (cluster : Cluster) {key other : ObjectKey} (object : Json)
    (different : key ≠ other) : (cluster.store key object).2.get? other = cluster.get? other := by
  rw [store]
  split
  · exact (get?_put cluster key _ other).trans (if_neg different)
  · rfl

theorem get?_act_of_ne (cluster : Cluster) {key other : ObjectKey} (action : Action)
    (different : key ≠ other) : (cluster.act key action).2.get? other = cluster.get? other := by
  rw [act.eq_def]
  split
  · rfl
  · exact cluster.get?_store_of_ne _ different
  · rfl
  · rw [storePatched]
    split
    · exact (get?_put cluster key _ other).trans (if_neg different)
    · exact cluster.get?_store_of_ne _ different
  · exact (get?_remove cluster key other).trans (if_neg different)
  · rfl

/-- A request for a target is carried out under the key of the target. -/
theorem perform_request (cluster : Cluster) (client : Client) (target : Target) (action : Action) :
    cluster.perform (client.request target action) = cluster.act target.objectKey action := by
  have key : (client.request target action).key = .ok target.objectKey := rfl
  rw [perform, key]
  simp [Client.request]

/-- A read gives what is stored and changes nothing. -/
theorem perform_get (cluster : Cluster) (client : Client) (target : Target) :
    cluster.perform (client.request target .get) =
      (match cluster.get? target.objectKey with
        | some stored => .ok stored
        | none => .error .notFound, cluster) := by
  rw [perform_request, act.eq_def]
  cases cluster.get? target.objectKey <;> rfl

/-! ### Stamps -/

/-- The members of the metadata that the store writes. -/
def stampKeys : List String := ["uid", "creationTimestamp", "resourceVersion"]

/-- An object with the stamp of its version. -/
def stamped (object : Json) (n : Nat) : Json :=
  .obj (object.members.insert "metadata" (.obj (stampMetadata (Object.metadata object) n)))

theorem stamp_of_stampable {object : Json} (isObject : object.form = .obj)
    (stampable : Stampable object) (n : Nat) : stamp object n = .ok (stamped object n) := by
  rw [stamped, Object.eq_obj_of_form isObject, stamp]
  cases found : object.get? "metadata" with
  | none =>
    have known : Object.metadata (.obj object.members) = [] := by
      rw [Object.metadata, show Json.get? (.obj object.members) "metadata" = none from found]
      rfl
    rw [show Table.get? object.members "metadata" = none from found, known]
    rfl
  | some held =>
    have shape := Object.eq_obj_of_form (stampable held found)
    have known : Object.metadata (.obj object.members) = held.members := by
      rw [Object.metadata, show Json.get? (.obj object.members) "metadata" = some held from found]
      rfl
    rw [show Table.get? object.members "metadata" = some held from found, known, shape]
    rfl

/-- Only an object takes a stamp, and only if its metadata is one or is not there. -/
theorem stamp_eq_ok_iff (object : Json) (n : Nat) (result : Json) :
    stamp object n = .ok result ↔
      object.form = .obj ∧ Stampable object ∧ result = stamped object n := by
  constructor
  · intro made
    have taken : object.form = .obj ∧ Stampable object := by
      rw [stamp.eq_def] at made
      split at made
      · rename_i members
        refine ⟨rfl, ?_⟩
        intro found held
        rw [show Table.get? members "metadata" = some found from held] at made
        cases found with
        | obj inner => rfl
        | _ => cases made
      · cases made
    rw [stamp_of_stampable taken.1 taken.2] at made
    exact ⟨taken.1, taken.2, (Except.ok.inj made).symm⟩
  · rintro ⟨isObject, stampable, rfl⟩
    exact stamp_of_stampable isObject stampable n

theorem get?_stamped (object : Json) (n : Nat) (key : String) :
    (stamped object n).get? key =
      if "metadata" = key then some (.obj (stampMetadata (Object.metadata object) n))
      else object.get? key :=
  Table.get?_insert _ _ _ key

@[simp] theorem metadata_stamped (object : Json) (n : Nat) :
    Object.metadata (stamped object n) = stampMetadata (Object.metadata object) n := by
  rw [Object.metadata, get?_stamped, if_pos rfl]
  rfl

theorem get?_stampMetadata_of_not_mem (metadata : Table String Json) (n : Nat) {key : String}
    (other : key ∉ stampKeys) : (stampMetadata metadata n).get? key = metadata.get? key := by
  simp only [stampKeys, List.mem_cons, List.not_mem_nil, or_false, not_or] at other
  obtain ⟨notUid, notCreation, notVersion⟩ := other
  rw [stampMetadata, Table.get?_insert, if_neg (Ne.symm notVersion), Table.get?_insertNew,
    if_neg (Ne.symm notCreation), Table.get?_insertNew, if_neg (Ne.symm notUid)]

theorem get?_stampMetadata_labels (metadata : Table String Json) (n : Nat) :
    (stampMetadata metadata n).get? "labels" = metadata.get? "labels" :=
  get?_stampMetadata_of_not_mem metadata n (by decide)

theorem wellFormed_insertNew {members : Table String Json} {key : String} {value : Json}
    (wellFormed : (Json.obj members).WellFormed) (part : value.WellFormed) :
    (Json.obj (members.insertNew key value)).WellFormed := by
  rw [Table.insertNew]
  split
  · exact wellFormed
  · exact Json.wellFormed_insert wellFormed part

theorem wellFormed_stampMetadata {metadata : Table String Json}
    (wellFormed : (Json.obj metadata).WellFormed) (n : Nat) :
    (Json.obj (stampMetadata metadata n)).WellFormed :=
  Json.wellFormed_insert (wellFormed_insertNew (wellFormed_insertNew wellFormed trivial) trivial)
    trivial

theorem wellFormed_stamped {object : Json} (wellFormed : object.WellFormed) (n : Nat) :
    (stamped object n).WellFormed :=
  Json.wellFormed_insert (Json.wellFormed_members wellFormed)
    (wellFormed_stampMetadata (Mutation.wellFormed_metadata wellFormed) n)

theorem store_eq_of_stampable (cluster : Cluster) (key : ObjectKey) {object : Json}
    (isObject : object.form = .obj) (stampable : Stampable object) :
    cluster.store key object = (.ok (stamped object (cluster.counter + 1)),
      { cluster.put key (stamped object (cluster.counter + 1)) with
        counter := cluster.counter + 1 }) := by
  rw [store, stamp_of_stampable isObject stampable]

/-- What takes no stamp is not stored, but the counter has moved on. -/
theorem store_of_not_stampable (cluster : Cluster) (key : ObjectKey) {object : Json}
    (unstampable : ¬ Stampable object) :
    ∃ error, (cluster.store key object).1 = .error error ∧
      (cluster.store key object).2.objects = cluster.objects := by
  rw [store]
  split
  · rename_i made taken
    exact absurd ((stamp_eq_ok_iff object _ made).mp taken).2.1 unstampable
  · exact ⟨_, rfl, rfl⟩

theorem store_of_stampable (cluster : Cluster) (key : ObjectKey) {object : Json}
    (wellFormed : object.WellFormed) (isObject : object.form = .obj)
    (stampable : Stampable object) :
    ∃ stored, Mutation.Stamped object stored ∧ stored.WellFormed ∧
      (cluster.store key object).1 = .ok stored ∧
      (cluster.store key object).2.get? key = some stored := by
  refine ⟨stamped object (cluster.counter + 1), ?_, wellFormed_stamped wellFormed _, ?_, ?_⟩
  · refine ⟨rfl, ?_, ?_⟩
    · intro other different
      exact (get?_stamped _ _ _).trans (if_neg (Ne.symm different))
    · exact ⟨_, (get?_stamped _ _ _).trans (if_pos rfl), get?_stampMetadata_labels _ _⟩
  · rw [store_eq_of_stampable cluster key isObject stampable]
  · rw [store_eq_of_stampable cluster key isObject stampable]
    exact (get?_put cluster key _ key).trans (if_pos rfl)

/-! ### What stays true of all that is stored -/

theorem WellFormed.put {cluster : Cluster} (wellFormed : cluster.WellFormed) (key : ObjectKey)
    {object : Json} (good : object.WellFormed) : (cluster.put key object).WellFormed := by
  intro other held there
  rw [get?_put] at there
  split at there
  · exact Option.some.inj there ▸ good
  · exact wellFormed other held there

theorem WellFormed.remove {cluster : Cluster} (wellFormed : cluster.WellFormed)
    (key : ObjectKey) : (cluster.remove key).WellFormed := by
  intro other held there
  rw [get?_remove] at there
  split at there
  · cases there
  · exact wellFormed other held there

theorem WellFormed.store {cluster : Cluster} (wellFormed : cluster.WellFormed) (key : ObjectKey)
    {object : Json} (good : object.WellFormed) : (cluster.store key object).2.WellFormed := by
  rw [Cluster.store]
  split
  · rename_i made taken
    obtain ⟨_, _, rfl⟩ := (stamp_eq_ok_iff object _ made).mp taken
    exact wellFormed.put key (wellFormed_stamped good _)
  · exact wellFormed

/-- A request whose body names no key twice leaves the cluster well-formed. -/
theorem WellFormed.act {cluster : Cluster} (wellFormed : cluster.WellFormed) (key : ObjectKey)
    {action : Action} (body : action.WellFormed) : (cluster.act key action).2.WellFormed := by
  rw [act.eq_def]
  split
  · exact wellFormed
  · exact wellFormed.store key body
  · exact wellFormed
  · rename_i change old held
    have made := Json.wellFormed_apply (wellFormed key old held) body
    rw [storePatched]
    split
    · exact wellFormed.put key made
    · exact wellFormed.store key made
  · exact wellFormed.remove key
  · exact wellFormed

/-- A request leaves JSON objects in the store if there was nothing else in it. -/
theorem HoldsObjects.act {cluster : Cluster} (objects : cluster.HoldsObjects) (key : ObjectKey)
    (action : Action) : (cluster.act key action).2.HoldsObjects := by
  have put : ∀ {object : Json}, object.form = .obj → (cluster.put key object).HoldsObjects := by
    intro object isObject other held there
    rw [get?_put] at there
    split at there
    · exact Option.some.inj there ▸ isObject
    · exact objects other held there
  have store : ∀ object, (cluster.store key object).2.HoldsObjects := by
    intro object
    rw [Cluster.store]
    split
    · rename_i made taken
      obtain ⟨_, _, rfl⟩ := (stamp_eq_ok_iff object _ made).mp taken
      exact put rfl
    · exact objects
  rw [act.eq_def]
  split
  · exact objects
  · exact store _
  · exact objects
  · rename_i change old held
    rw [storePatched]
    split
    · rename_i same
      obtain ⟨members, rfl⟩ : ∃ members, old = .obj members :=
        ⟨_, Object.eq_obj_of_form (objects key old held)⟩
      apply put
      by_contra scalar
      exact Json.not_same_obj scalar members same
    · exact store _
  · intro other found there
    rw [get?_remove] at there
    split at there
    · cases there
    · exact objects other found there
  · exact objects

theorem HoldsObjects.perform {cluster : Cluster} (objects : cluster.HoldsObjects)
    (request : Request) : (cluster.perform request).2.HoldsObjects := by
  rw [Cluster.perform]
  split
  · exact objects.act _ request.action
  · exact objects

theorem act_delete_of_absent {cluster : Cluster} {key : ObjectKey}
    (absent : cluster.get? key = none) :
    cluster.act key .delete = (.error .notFound, cluster) := by
  rw [act.eq_def, absent]

theorem act_delete_of_held {cluster : Cluster} {key : ObjectKey} {stored : Json}
    (held : cluster.get? key = some stored) :
    cluster.act key .delete = (.ok deleted, cluster.remove key) := by
  rw [act.eq_def, held]

/-- A patch that leaves the stored object as it is leaves the cluster as it is. -/
theorem act_patch_of_fixed {cluster : Cluster} {key : ObjectKey} {object change : Json}
    (held : cluster.get? key = some object) (wellFormed : object.WellFormed)
    (fixed : object.apply change = object) :
    cluster.act key (.patch change) = (.ok object, cluster) := by
  rw [act.eq_def, held]
  simp only
  rw [storePatched, fixed, if_pos (Json.same_refl wellFormed), put_eq_self held]

end Cluster
end Upkeep
