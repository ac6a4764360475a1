import Upkeep.Proofs.Pass.Convergence
import Upkeep.Proofs.Pass.Undisturbed

/-! What a pass reports and what has become of the cluster. The statuses of the targets, the deletion
and the flag that something was changed are computed from what was due; here they are compared with
the objects before and after. That a patch is never sent for nothing rests on one fact: an object
that is worth the same as one that meets the mutation meets it already. -/
namespace Upkeep

/-- An object without what the store writes into it. -/
def Object.content (object : Json) : Json :=
  .obj (object.members.insert "metadata" (.obj
    ((metadata object).eraseAll Cluster.stampKeys)))

/-- Two clusters hold the same keys, with objects that are worth the same. -/
def Cluster.Same (a b : Cluster) : Prop :=
  ∀ key, Option.Rel (fun x y : Json => x.same y) (a.get? key) (b.get? key)

/-- A status says what has become of an object. -/
structure Status.Exact (status : Status) (before after : Option Json) : Prop where
  known : status = .created ∨ status = .unchanged ∨ status = .patched
  created : status = .created ↔ before = none
  unchanged : status = .unchanged ↔ after = before
  patched : status = .patched ↔
    ∃ old new, before = some old ∧ after = some new ∧ ¬ old.same new
  content : status = .patched ↔ ∃ old new, before = some old ∧ after = some new ∧
    ¬ (Object.content old).same (Object.content new)

namespace Object

theorem metadata_content (object : Json) :
    metadata (content object) =
      (metadata object).eraseAll Cluster.stampKeys := by
  rw [metadata, content, Json.get?, Json.members, Table.get?_insert, if_pos rfl]
  rfl

theorem labels_content (object : Json) : labels (content object) = labels object := by
  have kept : Table.get? (metadata (content object)) "labels" = (metadata object).get? "labels" := by
    simp [metadata_content, Cluster.stampKeys, Table.eraseAll, Table.get?_erase]
  rw [labels, kept, labels]

theorem wellFormed_content {object : Json} (wellFormed : object.WellFormed) :
    (content object).WellFormed := by
  apply Json.wellFormed_insert (Json.wellFormed_members wellFormed)
  have metadata := Mutation.wellFormed_metadata wellFormed
  exact Json.wellFormed_erase (Json.wellFormed_erase (Json.wellFormed_erase metadata _) _) _

end Object

/-- What the store writes into an object does not count. -/
theorem Mutation.met_content_iff {mutation : Mutation} {field : String} {value : Json}
    (writes : mutation.Writes field value) (object : Json) :
    mutation.Met (Object.content object) ↔ mutation.Met object := by
  have member : (Object.content object).get? field = object.get? field :=
    (Table.get?_insert _ _ _ _).trans (if_neg (Ne.symm writes.notMetadata))
  rw [writes.met_iff, writes.met_iff, Object.labels_content, member]

namespace Status.Exact
variable {mutation : Mutation} {field : String} {value old new : Json}

/-- A target that was created. -/
theorem ofCreated (object : Json) : Status.created.Exact none (some object) where
  known := .inl rfl
  created := by simp
  unchanged := by simp [Status.created, Status.unchanged]
  patched := by simp [Status.created, Status.patched]
  content := by simp [Status.created, Status.patched]

/-- A target that was left as it was. -/
theorem ofUnchanged (wellFormed : old.WellFormed) : Status.unchanged.Exact (some old) (some old) where
  known := .inr (.inl rfl)
  created := by simp [Status.created, Status.unchanged]
  unchanged := by simp
  patched := by simp [Status.patched, Status.unchanged, Json.same_refl wellFormed]
  content := by
    simp [Status.patched, Status.unchanged, Json.same_refl (Object.wellFormed_content wellFormed)]

/-- A target that was patched, and did not meet the mutation before. -/
theorem ofPatched (writes : mutation.Writes field value) (before : old.WellFormed)
    (after : new.WellFormed) (unmet : ¬ mutation.Met old) (met : mutation.Met new) :
    Status.patched.Exact (some old) (some new) := by
  have differs : ¬ old.same new := fun worth => unmet (met.of_same writes before after worth)
  have substance : ¬ (Object.content old).same (Object.content new) := by
    intro worth
    rw [← Mutation.met_content_iff writes] at unmet met
    exact unmet (met.of_same writes (Object.wellFormed_content before)
      (Object.wellFormed_content after) worth)
  have moved : new ≠ old := by
    rintro rfl
    exact differs (Json.same_refl before)
  refine ⟨.inr (.inr rfl), ?_, ?_, ?_, ?_⟩
  · simp [Status.created, Status.patched]
  · simp [Status.patched, Status.unchanged, moved]
  · simp [differs]
  · simp [substance]

end Status.Exact

namespace Reconciler
variable {reconciler : Reconciler} {ns : String} {layout : Layout} {cluster : Cluster}

/-- The status of a target is exact. -/
theorem Feasible.exact (feasible : Feasible reconciler ns layout cluster) {final : Cluster}
    (ended : final = (reconciler.course ns layout cluster).stage
      (reconciler.course ns layout cluster).steps.length)
    {entry : Target × Mutation} (member : entry ∈ reconciler.targets ns layout) :
    (reconciler.upserter.verdict (reconciler.client.plan cluster entry)).Exact
      (cluster.get? entry.1.objectKey) (final.get? entry.1.objectKey) := by
  obtain ⟨value, manages⟩ := reconciler.managed_targets ns layout entry member
  have step : Step.bring entry.1 entry.2 ∈ (reconciler.course ns layout cluster).steps :=
    List.mem_append_right _ (List.mem_map_of_mem member)
  have due : reconciler.client.due entry.1 entry.2 (cluster.get? entry.1.objectKey) =
      .ok (reconciler.client.plan cluster entry) := Client.due_eq_plan (feasible.taken _ step)
  have live : reconciler.upserter.dryRun = false := feasible.live
  have settled := feasible.sound.settled_end step due
  rw [← ended] at settled
  cases planned : reconciler.client.plan cluster entry with
  | none =>
    rw [planned] at due
    have nothing : (reconciler.course ns layout cluster).due (.bring entry.1 entry.2) = .ok none :=
      due
    have same := feasible.sound.get?_end_of_idle step (by simp [nothing])
    rw [← ended] at same
    obtain ⟨object, held, good, _⟩ := settled
    have after : final.get? entry.1.objectKey = some object := held
    have before : cluster.get? entry.1.objectKey = some object := same.symm.trans held
    rw [after, before]
    exact .ofUnchanged good
  | some action =>
    rw [planned] at due settled
    obtain ⟨object, held, good, met, _⟩ := settled
    have after : final.get? entry.1.objectKey = some object := held
    rw [after, Upserter.verdict, live]
    cases before : cluster.get? entry.1.objectKey with
    | none =>
      rw [before, Client.due_none manages] at due
      cases due
      exact .ofCreated object
    | some old =>
      have oldGood := feasible.sound.wellFormed _ old before
      rw [before] at due
      have unmet : ¬ entry.2.Met old := by
        intro met
        rw [Client.due_of_met manages _ oldGood met] at due
        cases due
      obtain ⟨change, rfl⟩ : ∃ change, action = .patch change := by
        obtain ⟨read, _, _, sent⟩ := (Client.due_some_eq_ok_iff manages _ old _).mp due
        split at sent
        · cases sent
        · exact ⟨_, Option.some.inj sent⟩
      exact .ofPatched manages.toWrites oldGood good unmet met

theorem changed_report_iff (reconciler : Reconciler) (ns : String) (layout : Layout)
    (cluster : Cluster) :
    (reconciler.report ns layout cluster).changed = true ↔
      (reconciler.report ns layout cluster).legacyDeleted = true ∨
        ∃ entry ∈ reconciler.targets ns layout,
          reconciler.upserter.verdict (reconciler.client.plan cluster entry) ≠ .unchanged := by
  simp [PassResult.changed, report]

theorem legacyDeleted_report_iff (live : reconciler.dryRun = false) (ns : String) (layout : Layout)
    (cluster : Cluster) :
    (reconciler.report ns layout cluster).legacyDeleted = true ↔
      layout = .modern ∧ (cluster.get? (reconciler.legacyTarget ns).objectKey).isSome := by
  cases layout <;> simp [report, live]

/-- If no change is reported, nothing was due. -/
theorem Feasible.idle_of_unchanged (feasible : Feasible reconciler ns layout cluster)
    (unchanged : (reconciler.report ns layout cluster).changed ≠ true) :
    ∀ step ∈ (reconciler.course ns layout cluster).steps, ∀ action,
      (reconciler.course ns layout cluster).due step ≠ .ok (some action) := by
  rw [Ne, changed_report_iff, legacyDeleted_report_iff feasible.live, not_or] at unchanged
  obtain ⟨kept, quiet⟩ := unchanged
  have live : reconciler.upserter.dryRun = false := feasible.live
  intro step member action due
  rcases List.mem_append.mp member with first | later
  · cases layout with
    | legacy => cases first
    | modern =>
      rw [List.mem_singleton.mp first] at due
      have absent : cluster.get? (reconciler.legacyTarget ns).objectKey = none := by
        simpa using kept
      have nothing : (reconciler.course ns .modern cluster).due
          (.remove (reconciler.legacyTarget ns)) =
            .ok ((cluster.get? (reconciler.legacyTarget ns).objectKey).map fun _ => .delete) := rfl
      rw [nothing, absent] at due
      cases due
  · obtain ⟨entry, known, rfl⟩ := List.mem_map.mp later
    apply quiet
    have planned : reconciler.client.plan cluster entry = some action := by
      have due' : reconciler.client.due entry.1 entry.2 (cluster.get? entry.1.objectKey) =
        .ok (some action) := due
      rw [Client.plan, due']
    refine ⟨entry, known, ?_⟩
    rw [planned, Upserter.verdict, live]
    rcases Client.due_creates_or_patches due with ⟨object, rfl⟩ | ⟨change, rfl⟩ <;>
      simp [Action.status, Status.created, Status.patched, Status.unchanged]

/-- If a change is reported, the objects differ by more than their order. -/
theorem Feasible.not_same_of_changed (feasible : Feasible reconciler ns layout cluster)
    {final : Cluster} (ended : final = (reconciler.course ns layout cluster).stage
      (reconciler.course ns layout cluster).steps.length)
    (changed : (reconciler.report ns layout cluster).changed = true) : ¬ cluster.Same final := by
  intro same
  rw [changed_report_iff, legacyDeleted_report_iff feasible.live] at changed
  rcases changed with ⟨rfl, there⟩ | ⟨entry, member, moved⟩
  · have related := same (reconciler.legacyTarget ns).objectKey
    rw [ended, feasible.removed] at related
    obtain ⟨object, held⟩ := Option.isSome_iff_exists.mp there
    rw [held] at related
    cases related
  · have status := feasible.exact ended member
    have related := same entry.1.objectKey
    rcases status.known with created | unchanged | patched
    · have absent := status.created.mp created
      have still := Json.none_of_rel related absent
      exact moved (status.unchanged.mpr (still.trans absent.symm))
    · exact moved unchanged
    · obtain ⟨old, new, before, after, differs⟩ := status.patched.mp patched
      rw [before, after] at related
      cases related with
      | some worth => exact differs worth

end Reconciler

/-! ### The report is exact -/

theorem Cluster.same_refl {cluster : Cluster} (wellFormed : cluster.WellFormed) :
    cluster.Same cluster := by
  intro key
  cases held : cluster.get? key with
  | none => exact .none
  | some object => exact .some (Json.same_refl (wellFormed key object held))

namespace Reconciler

/-- A pass that ends well reports exactly what it has done: the layout that was found, whether there
was a legacy object to delete, and for each target of the layout, and no other, what has become of
its object. It says that it changed something exactly if the objects differ from what they were, in
some way or in what they are worth. -/
theorem reconcile_reports (client : Client) (documents : Wanted.Documents) (detector : Detector)
    (ns : String) {cluster : Cluster} {result : PassResult} (wellFormed : cluster.WellFormed)
    (ended : (((live client documents detector).reconcile ns).run (.faultless cluster)).result =
      .ok result) :
    let targets := (live client documents detector).targets ns result.layout
    let final :=
      (((live client documents detector).reconcile ns).run (.faultless cluster)).server.cluster
    ((detector.detect client ns).run (.faultless cluster)).result = .ok result.layout ∧
    (result.legacyDeleted = true ↔ result.layout = .modern ∧
      (cluster.get? (Wanted.aggregatedTarget ns).objectKey).isSome) ∧
    result.resources.keys = targets.map (fun target => target.1.key) ∧
    (∀ target ∈ targets, ∃ status, result.resources.get? target.1.key = some status ∧
      status.Exact (cluster.get? target.1.objectKey) (final.get? target.1.objectKey)) ∧
    (result.changed = true ↔ final.objects ≠ cluster.objects) ∧
    (result.changed = true ↔ ¬ cluster.Same final) := by
  intro targets final
  have feasible := feasible_of_ok rfl
    (fun layout => sound_course client documents detector ns layout wellFormed) ended
  have apart : Wanted.aggregatedName ≠ Wanted.dashboardName := by decide
  obtain ⟨once, resumed⟩ := feasible.resumed 0
  have left : final = _ := resumed.cluster
  have same : result = (live client documents detector).report ns result.layout cluster :=
    Except.ok.inj (ended.symm.trans (feasible.ready apart).result_eq)
  have differs : result.changed = true → ¬ cluster.Same final := fun changed =>
    feasible.not_same_of_changed left (same ▸ changed)
  have moved : final.objects ≠ cluster.objects → result.changed = true := by
    intro moved
    by_contra unchanged
    have idle := feasible.idle_of_unchanged (same ▸ unchanged)
    exact moved (congrArg Cluster.objects (left.trans (feasible.sound.stage_of_idle idle _)))
  have unmoved : final.objects = cluster.objects → cluster.Same final := by
    intro equal key
    rw [Cluster.get?, Cluster.get?, equal]
    exact Cluster.same_refl wellFormed key
  refine ⟨feasible.found, ?_, ?_, ?_, ⟨?_, moved⟩, differs, ?_⟩
  · rw [same, legacyDeleted_report_iff rfl]
    rfl
  · rw [same, keys_report]
  · intro target member
    refine ⟨_, ?_, feasible.exact left member⟩
    rw [same]
    exact get?_report member cluster
  · exact fun changed equal => differs changed (unmoved equal)
  · exact fun unlike => moved fun equal => unlike (unmoved equal)

theorem reconcile_reports_neglected :
    let final := (((live .plain .brief (.sentinel Wanted.sentinelName)).reconcile "shoot").run
      (.faultless .neglected)).server.cluster
    Cluster.neglected.WellFormed ∧
      (((live .plain .brief (.sentinel Wanted.sentinelName)).reconcile "shoot").run
        (.faultless .neglected)).result = .ok .repaired ∧
      PassResult.repaired.changed = true ∧ ¬ Cluster.neglected.Same final ∧
      Status.patched.Exact (Cluster.neglected.get? (Wanted.alertTarget "shoot").objectKey)
        (final.get? (Wanted.alertTarget "shoot").objectKey) := by
  intro final
  obtain ⟨_, _, _, statuses, _, changed⟩ :=
    reconcile_reports .plain .brief _ "shoot" Cluster.wellFormed_neglected ended_neglected
  have told : PassResult.repaired.changed = true := by decide
  obtain ⟨status, booked, known⟩ := statuses (Wanted.alertTarget "shoot", Wanted.alertMutation)
    (by simp [PassResult.repaired, targets, Wanted.modernTargets])
  have patched : PassResult.repaired.resources.get? (Wanted.alertTarget "shoot").key =
      some .patched := by decide
  rw [patched] at booked
  exact ⟨Cluster.wellFormed_neglected, ended_neglected, told, changed.mp told,
    Option.some.inj booked ▸ known⟩

end Reconciler
end Upkeep
