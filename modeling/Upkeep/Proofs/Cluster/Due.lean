import Upkeep.Proofs.Cluster.Client

/-! What is due for a target, as a function of what is stored: to create it, to patch it, or
nothing. Doing what is due meets the mutation and leaves nothing due. Doing it again, on the
strength of the same read, is refused as a conflict or changes nothing. -/
namespace Upkeep

/-- A difference is sent as a patch, if there is any. -/
def Action.toSend : Table String Json → Option Action
  | [] => none
  | change => some (.patch (.obj change))

theorem Action.toSend_eq (change : Table String Json) :
    toSend change = if change = [] then none else some (.patch (.obj change)) := by
  cases change <;> rfl

/-- What has to be sent for a target, given the stored object. -/
def Client.due (client : Client) (target : Target) (mutation : Mutation) :
    Option Json → Except Malformed (Option Action)
  | none => (mutation.apply target.skeleton).map fun wanted => some (.create wanted)
  | some stored =>
    match client.received target.kind stored with
    | .error bad => .error bad
    | .ok read =>
      match mutation.apply read with
      | .error bad => .error bad
      | .ok wanted => .ok (Action.toSend (Json.diff read.members wanted.members))

section
variable {target : Target} {mutation : Mutation} {field : String} {value : Json}

namespace Mutation
open Object (TakesLabels)

theorem Met.metadata (writes : mutation.Writes field value) {object : Json}
    (met : mutation.Met object) :
    object.get? "metadata" = some (.obj (Object.metadata object)) ∧
      (Object.metadata object).get? "labels" = some (.obj (Object.labels object)) := by
  obtain ⟨label, member⟩ := List.exists_mem_of_ne_nil _ writes.labelled
  have held := met.1 label member
  have inner : (Object.metadata object).get? "labels" = some (.obj (Object.labels object)) := by
    cases found : (Object.metadata object).get? "labels" with
    | none =>
      rw [Object.labels, found] at held
      cases held
    | some labels =>
      rw [Object.labels, found] at held ⊢
      rcases labels.obj_or_form_ne with ⟨members, rfl⟩ | scalar
      · rfl
      · rw [Option.getD_some, Json.members_of_not_object scalar] at held
        cases held
  refine ⟨?_, inner⟩
  cases found : object.get? "metadata" with
  | none =>
    rw [Object.metadata, found] at inner
    cases inner
  | some metadata =>
    rw [Object.metadata, found] at inner ⊢
    rcases metadata.obj_or_form_ne with ⟨members, rfl⟩ | scalar
    · rfl
    · rw [Option.getD_some, Json.members_of_not_object scalar] at inner
      cases inner

theorem Met.takesLabels (writes : mutation.Writes field value) {object : Json}
    (met : mutation.Met object) : TakesLabels object := by
  obtain ⟨metadata, labels⟩ := met.metadata writes
  refine ⟨?_, ?_, ?_⟩
  · cases object with
    | obj members => rfl
    | _ => cases metadata
  · intro found h
    rw [metadata] at h
    exact Option.some.inj h ▸ rfl
  · intro found h
    rw [labels] at h
    exact .inr (Option.some.inj h ▸ rfl)

theorem met_wanted (writes : mutation.Writes field value) (object : Json) :
    mutation.Met (mutation.wanted object field value) := by
  have known : Object.metadata (mutation.wanted object field value) =
      (Object.metadata object).insert "labels" (.obj (mutation.relabelled object)) := by
    rw [Object.metadata, get?_wanted, if_neg writes.notMetadata, if_pos rfl]
    rfl
  rw [writes.met_iff]
  constructor
  · intro label member
    rw [Object.labels, known, Table.get?_insert, if_pos rfl, Option.getD_some, Json.members,
      relabelled, Table.get?_insertAll _ (distinct_members writes.distinct),
      writes.get?_members member, Option.some_or]
  · exact ⟨value, by rw [get?_wanted, if_pos rfl], Json.same_refl writes.wellFormed⟩

end Mutation

namespace Client
open Object (TakesLabels)

theorem due_some_eq_ok_iff (manages : target.Manages mutation field value) (client : Client)
    (stored : Json) (due : Option Action) :
    client.due target mutation (some stored) = .ok due ↔
      ∃ read, client.received target.kind stored = .ok read ∧ TakesLabels read ∧
        due = if mutation.patch read field value = [] then none
          else some (.patch (.obj (mutation.patch read field value))) := by
  rw [Client.due]
  cases got : client.received target.kind stored with
  | error bad => simp
  | ok read =>
    have applied := manages.apply_eq_ok_iff read
    simp only [Except.ok.injEq, exists_eq_left']
    cases outcome : mutation.apply read with
    | error bad =>
      simp only [reduceCtorEq, false_iff]
      rintro ⟨takes, _⟩
      have made := (applied _).mpr ⟨takes, rfl⟩
      rw [outcome] at made
      cases made
    | ok wanted =>
      obtain ⟨takes, rfl⟩ := (applied wanted).mp outcome
      simp only [takes, true_and, Mutation.patch, Except.ok.injEq, Action.toSend_eq, eq_comm]

/-- Nothing can be due where the object is not read, or where it refuses the mutation. -/
theorem due_some_eq_error_iff (client : Client) (target : Target) (mutation : Mutation)
    (stored : Json) (bad : Malformed) :
    client.due target mutation (some stored) = .error bad ↔
      client.received target.kind stored = .error bad ∨
        ∃ read, client.received target.kind stored = .ok read ∧
          mutation.apply read = .error bad := by
  rw [Client.due]
  cases client.received target.kind stored with
  | error other => simp
  | ok read => cases applied : mutation.apply read <;> simp [applied]

theorem due_creates_or_patches {client : Client} {held : Option Json} {action : Action}
    (due : client.due target mutation held = .ok (some action)) :
    (∃ object, action = .create object) ∨ ∃ change, action = .patch change := by
  cases held with
  | none =>
    rw [Client.due] at due
    cases made : mutation.apply target.skeleton with
    | error bad =>
      rw [made] at due
      cases due
    | ok object =>
      rw [made] at due
      cases due
      exact .inl ⟨object, rfl⟩
  | some stored =>
    rw [Client.due] at due
    split at due
    · cases due
    · split at due
      · cases due
      · rw [Action.toSend_eq] at due
        split at due
        · cases due
        · cases due
          exact .inr ⟨_, rfl⟩

theorem patch_received_eq_nil_iff (manages : target.Manages mutation field value) {client : Client}
    {stored read : Json} (wellFormed : stored.WellFormed)
    (got : client.received target.kind stored = .ok read) (takes : TakesLabels read) :
    mutation.patch read field value = [] ↔ mutation.Met stored := by
  have good := (faithful_received got).wellFormed wellFormed
  rw [Mutation.patch_eq_nil_iff manages.toWrites good takes]
  exact (agree_received manages got).met_iff manages.toWrites

theorem due_of_met (manages : target.Manages mutation field value) (client : Client) {stored : Json}
    (wellFormed : stored.WellFormed) (met : mutation.Met stored) :
    client.due target mutation (some stored) = .ok none := by
  obtain ⟨read, got⟩ := client.received_of_metadata target.kind (met.metadata manages.toWrites).1
  have readMet : mutation.Met read :=
    ((agree_received manages got).met_iff manages.toWrites).mpr met
  have takes := readMet.takesLabels manages.toWrites
  rw [due_some_eq_ok_iff manages]
  exact ⟨read, got, takes,
    (if_pos ((patch_received_eq_nil_iff manages wellFormed got takes).mpr met)).symm⟩

theorem met_of_due (manages : target.Manages mutation field value) {client : Client} {stored : Json}
    (wellFormed : stored.WellFormed)
    (nothing : client.due target mutation (some stored) = .ok none) : mutation.Met stored := by
  obtain ⟨read, got, takes, due⟩ := (due_some_eq_ok_iff manages client stored none).mp nothing
  apply (patch_received_eq_nil_iff manages wellFormed got takes).mp
  by_contra some
  rw [if_neg some] at due
  cases due

theorem takesLabels_skeleton (target : Target) : TakesLabels target.skeleton := by
  refine ⟨rfl, ?_, ?_⟩
  · intro found h
    have known : found = .obj [("name", .str target.name), ("namespace", .str target.ns)] := by
      simpa [Target.skeleton, Json.get?, Json.members, Table.get?, eq_comm] using h
    exact known ▸ rfl
  · intro found h
    simp [Target.skeleton, Object.metadata, Json.get?, Json.members, Table.get?] at h

theorem wellFormed_skeleton (target : Target) : target.skeleton.WellFormed := by
  simp [Target.skeleton, Json.WellFormed, Json.WellFormedMembers, Table.Distinct, Table.keys]

/-- An absent object is created as its skeleton with what the mutation sets. -/
theorem due_none (manages : target.Manages mutation field value) (client : Client) :
    client.due target mutation none =
      .ok (some (.create (mutation.wanted target.skeleton field value))) := by
  rw [Client.due, (manages.apply_eq_ok_iff _ _).mpr ⟨takesLabels_skeleton target, rfl⟩]
  rfl

theorem act_create (manages : target.Manages mutation field value) {cluster : Cluster}
    (absent : cluster.get? target.objectKey = none) {object : Json}
    (skeleton : object = mutation.wanted target.skeleton field value) :
    ∃ stored, (cluster.act target.objectKey (.create object)).1 = .ok stored ∧
      (cluster.act target.objectKey (.create object)).2.get? target.objectKey = some stored ∧
      stored.WellFormed ∧ mutation.Met stored := by
  have writes := manages.toWrites
  have made := Mutation.met_wanted writes target.skeleton
  have takes := made.takesLabels writes
  obtain ⟨stamped, same, good, replied, stored⟩ := cluster.store_of_stampable target.objectKey
    (writes.wellFormed_wanted (wellFormed_skeleton target)) takes.isObject takes.metadataFree
  rw [Cluster.act.eq_def, absent, skeleton]
  exact ⟨stamped, replied, stored, good, same.met writes made⟩

theorem act_patch (manages : target.Manages mutation field value) {client : Client}
    {cluster : Cluster} {before read : Json} (held : cluster.get? target.objectKey = some before)
    (good : before.WellFormed) (got : client.received target.kind before = .ok read)
    (takes : TakesLabels read) {change : Json}
    (sent : change = .obj (mutation.patch read field value)) :
    ∃ object, (cluster.act target.objectKey (.patch change)).1 = .ok object ∧
      (cluster.act target.objectKey (.patch change)).2.get? target.objectKey = some object ∧
      object.WellFormed ∧ mutation.Met object ∧ object.apply change = object := by
  have writes := manages.toWrites
  have readGood := (faithful_received got).wellFormed good
  subst sent
  have patchGood := Mutation.wellFormed_patch writes readGood
  have near := (agree_received manages got).near readGood
  have met := Mutation.met_apply_patch writes readGood takes good near
  have spent := Json.apply_apply before patchGood
  have madeGood := Json.wellFormed_apply good patchGood
  have made := met.takesLabels writes
  rw [Cluster.act.eq_def, held]
  simp only [Cluster.storePatched]
  split
  · exact ⟨_, rfl, (Cluster.get?_put _ _ _ _).trans (if_pos rfl), madeGood, met, spent⟩
  · obtain ⟨stamped, same, stampedGood, replied, stored⟩ := cluster.store_of_stampable
      target.objectKey madeGood made.isObject made.metadataFree
    exact ⟨stamped, replied, stored, stampedGood, same.met writes met,
      same.apply_patch writes readGood takes spent⟩

/-- Doing what is due meets the mutation; if it was a patch, the patch is spent. -/
theorem act_due (manages : target.Manages mutation field value) (client : Client)
    {cluster : Cluster} {action : Action}
    (wellFormed : ∀ stored, cluster.get? target.objectKey = some stored → stored.WellFormed)
    (due : client.due target mutation (cluster.get? target.objectKey) = .ok (some action)) :
    ∃ object, (cluster.act target.objectKey action).1 = .ok object ∧
      (cluster.act target.objectKey action).2.get? target.objectKey = some object ∧
      object.WellFormed ∧ mutation.Met object ∧
      ∀ change, action = .patch change → object.apply change = object := by
  cases held : cluster.get? target.objectKey with
  | none =>
    rw [held, due_none manages] at due
    cases due
    obtain ⟨object, replied, stored, good, met⟩ := act_create manages held rfl
    refine ⟨object, replied, stored, good, met, ?_⟩
    intro change patching
    cases patching
  | some before =>
    rw [held] at due
    obtain ⟨read, got, takes, sent⟩ := (due_some_eq_ok_iff manages client before _).mp due
    split at sent
    · cases sent
    · cases sent
      obtain ⟨object, replied, stored, good, met, spent⟩ :=
        act_patch manages held (wellFormed before held) got takes rfl
      refine ⟨object, replied, stored, good, met, ?_⟩
      intro change same
      cases same
      exact spent

theorem wellFormed_of_due (manages : target.Manages mutation field value) {client : Client}
    {held : Option Json} (wellFormed : ∀ stored, held = some stored → stored.WellFormed)
    {action : Action} (due : client.due target mutation held = .ok (some action)) :
    action.WellFormed := by
  cases held with
  | none =>
    rw [due_none manages] at due
    cases due
    exact manages.wellFormed_wanted (wellFormed_skeleton target)
  | some stored =>
    obtain ⟨read, got, takes, sent⟩ := (due_some_eq_ok_iff manages client stored _).mp due
    split at sent
    · cases sent
    · cases sent
      exact Mutation.wellFormed_patch manages.toWrites
        ((faithful_received got).wellFormed (wellFormed stored rfl))

/-- A patch that is due can be told by its text. -/
theorem writable_of_due (manages : target.Manages mutation field value) {client : Client}
    {held : Option Json} (wellFormed : ∀ stored, held = some stored → stored.WellFormed)
    {change : Json} (due : client.due target mutation held = .ok (some (.patch change))) :
    change.Writable := by
  cases held with
  | none =>
    rw [due_none manages] at due
    cases due
  | some stored =>
    obtain ⟨read, got, takes, sent⟩ := (due_some_eq_ok_iff manages client stored _).mp due
    split at sent
    · cases sent
    · cases sent
      exact Mutation.writable_patch manages.toWrites
        ((faithful_received got).wellFormed (wellFormed stored rfl)) takes

theorem creation_wanted (manages : target.Manages mutation field value) (client : Client) :
    client.creation (mutation.wanted target.skeleton field value) =
      .ok (client.request target (.create (mutation.wanted target.skeleton field value))) := by
  have required : ∀ {key found},
      (mutation.wanted target.skeleton field value).get? key = some found →
        Object.required (mutation.wanted target.skeleton field value) key = .ok found := by
    intro key found h
    rw [Mutation.wanted, Object.required]
    rw [Mutation.wanted, Json.get?, Json.members] at h
    rw [h]
  have kind : (mutation.wanted target.skeleton field value).get? "kind" =
      some (.str target.kind.name) := by
    rw [Mutation.get?_wanted, if_neg manages.notKind, if_neg (by decide)]
    simp [Target.skeleton, Json.get?, Json.members, Table.get?]
  have metadata : (mutation.wanted target.skeleton field value).get? "metadata" =
      some (.obj ([("name", .str target.name), ("namespace", .str target.ns),
        ("labels", .obj (mutation.relabelled target.skeleton))])) := by
    rw [Mutation.get?_wanted, if_neg manages.notMetadata, if_pos rfl]
    simp [Target.skeleton, Object.metadata, Json.get?, Json.members, Table.get?, Table.insert]
  have written : writtenKind (.str target.kind.name) = .ok target.kind := by
    have kept := manages.written
    cases h : target.kind <;> rw [h] at kept <;> first | rfl | cases kept
  rw [creation, required kind, required metadata]
  simp only [bind, Except.bind, Object.required, Table.get?, written]
  rfl

end Client
end
end Upkeep
