import Upkeep.Proofs.Cluster.Due

/-! What a write leaves alone. A patch touches the labels that the mutation sets and the member that
it writes, though it was computed from what the client reads and not from what is stored; the stamp
that the store puts on a changed object touches three members of its metadata. -/
namespace Upkeep
open Object (TakesLabels)

/-- An object before and after, where all is left alone that is not the mutation's: the labels that
it does not set, the metadata that the store does not stamp, and the members other than the one that
is written. An identity is only given to an object that has none. -/
structure Mutation.Spares (mutation : Mutation) (field : String) (before after : Json) : Prop where
  labels : ∀ key, key ∉ mutation.labels.map Prod.fst →
    (Object.labels after).get? key = (Object.labels before).get? key
  metadata : ∀ key, key ≠ "labels" → key ≠ "resourceVersion" →
    (Object.metadata after).get? key = (Object.metadata before).get? key ∨
      (key = "uid" ∨ key = "creationTimestamp") ∧ (Object.metadata before).get? key = none
  members : ∀ key, key ≠ "metadata" → key ≠ field → after.get? key = before.get? key

/-- Besides, an object is left as it is if labels cannot be set on it. -/
structure Mutation.Respects (mutation : Mutation) (field : String) (before after : Json) : Prop
    extends mutation.Spares field before after where
  refused : ¬ TakesLabels before → after = before

section
variable {mutation : Mutation} {field : String} {value : Json} {target : Target}

namespace Mutation
variable {a b c : Json}

theorem Spares.refl (mutation : Mutation) (field : String) (object : Json) :
    mutation.Spares field object object where
  labels := fun _ _ => rfl
  metadata := fun _ _ _ => .inl rfl
  members := fun _ _ _ => rfl

theorem Spares.trans (first : mutation.Spares field a b) (second : mutation.Spares field b c) :
    mutation.Spares field a c where
  labels := fun key other => (second.labels key other).trans (first.labels key other)
  metadata := by
    intro key notLabels notVersion
    rcases first.metadata key notLabels notVersion with same | absent
    · have rest := second.metadata key notLabels notVersion
      rwa [same] at rest
    · exact .inr absent
  members := fun key notMetadata notField =>
    (second.members key notMetadata notField).trans (first.members key notMetadata notField)

theorem Respects.refl (mutation : Mutation) (field : String) (object : Json) :
    mutation.Respects field object object :=
  ⟨.refl mutation field object, fun _ => rfl⟩

theorem Leaves.spares (leaves : mutation.Leaves field a b) : mutation.Spares field a b where
  labels := leaves.labels
  metadata := fun key notLabels _ => .inl (leaves.metadata key notLabels)
  members := leaves.members

end Mutation

namespace Cluster

theorem get?_stampMetadata (metadata : Table String Json) (n : Nat) {key : String}
    (notVersion : key ≠ "resourceVersion") :
    (stampMetadata metadata n).get? key = metadata.get? key ∨
      (key = "uid" ∨ key = "creationTimestamp") ∧ metadata.get? key = none := by
  by_cases known : key = "uid" ∨ key = "creationTimestamp"
  · cases held : metadata.get? key with
    | none => exact .inr ⟨known, rfl⟩
    | some value =>
      rcases known with rfl | rfl <;>
        simp [stampMetadata, Table.get?_insert, Table.get?_insertNew, held]
  · left
    apply get?_stampMetadata_of_not_mem
    simp_all [stampKeys]

/-- Storing an object spares what any mutation has to spare. -/
theorem spares_store (cluster : Cluster) (key : ObjectKey) (mutation : Mutation) (field : String)
    {object : Json} (takes : TakesLabels object) :
    ∃ stored, (cluster.store key object).2.get? key = some stored ∧
      mutation.Spares field object stored := by
  rw [store, stamp_of_stampable takes.isObject takes.metadataFree]
  refine ⟨_, (get?_put cluster key _ key).trans (if_pos rfl), ?_⟩
  constructor
  · intro other _
    rw [Object.labels, metadata_stamped, get?_stampMetadata_labels, Object.labels]
  · intro other _ notVersion
    rw [metadata_stamped]
    exact get?_stampMetadata _ _ notVersion
  · intro other notMetadata _
    exact (get?_stamped _ _ _).trans (if_neg (Ne.symm notMetadata))

end Cluster

namespace Client

/-- Carrying out what is due for a target respects its object. -/
theorem respects_act (manages : target.Manages mutation field value) {client : Client}
    {cluster : Cluster} {before : Json} (held : cluster.get? target.objectKey = some before)
    (wellFormed : before.WellFormed) {action : Action}
    (due : client.due target mutation (some before) = .ok (some action)) :
    ∃ after, (cluster.act target.objectKey action).2.get? target.objectKey = some after ∧
      mutation.Respects field before after := by
  have writes := manages.toWrites
  obtain ⟨read, got, takes, sent⟩ := (due_some_eq_ok_iff manages client before _).mp due
  have good := (faithful_received got).wellFormed wellFormed
  have taken := (alike_received got).2.takesLabels_iff.mp takes
  split at sent
  · cases sent
  · cases sent
    have spares := (Mutation.leaves_apply_patch writes good takes before).spares
    have near := (agree_received manages got).near good
    have made := (Mutation.met_apply_patch writes good takes wellFormed near).takesLabels writes
    rw [Cluster.act.eq_def, held]
    simp only [Cluster.storePatched]
    split
    · exact ⟨_, (Cluster.get?_put _ _ _ _).trans (if_pos rfl), spares, absurd taken⟩
    · obtain ⟨stamped, stored, rest⟩ :=
        cluster.spares_store target.objectKey mutation field made
      exact ⟨stamped, stored, spares.trans rest, absurd taken⟩

end Client
end
end Upkeep
