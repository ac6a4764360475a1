import Upkeep.Proofs.Pass.Rehearsal
import Upkeep.Proofs.Pass.Report

/-! Whether anything would change. A dry run announces every write to a target, so its flag counts
each of them; but it never looks for the legacy object, and the deletion that a pass would make is
missing from its flag. The two flags differ where this deletion is all that is left to be done, and
nowhere else. -/
namespace Upkeep
namespace Reconciler

theorem verdict_ne_unchanged_iff (upserter : Upserter) {client : Client} (cluster : Cluster)
    (entry : Target × Mutation) :
    upserter.verdict (client.plan cluster entry) ≠ .unchanged ↔
      client.plan cluster entry ≠ none := by
  rcases client.plan_cases cluster entry with
    planned | ⟨object, planned⟩ | ⟨change, planned⟩
  · simp [planned, Upserter.verdict]
  · cases mode : upserter.dryRun <;>
      simp [planned, Upserter.verdict, mode, Action.status, Status.unchanged, Status.created,
        Status.dryRun]
  · cases mode : upserter.dryRun <;>
      simp [planned, Upserter.verdict, mode, Action.status, Status.unchanged, Status.patched,
        Status.dryRun]

/-- A change is reported if the legacy object was deleted or something was due for a target. -/
theorem changed_report_iff_plan (reconciler : Reconciler) (ns : String) (layout : Layout)
    (cluster : Cluster) :
    (reconciler.report ns layout cluster).changed = true ↔
      (reconciler.report ns layout cluster).legacyDeleted = true ∨
        ∃ entry ∈ reconciler.targets ns layout, reconciler.client.plan cluster entry ≠ none := by
  rw [changed_report_iff]
  simp only [verdict_ne_unchanged_iff]

theorem legacyDeleted_rehearsal (reconciler : Reconciler) (ns : String) (layout : Layout)
    (cluster : Cluster) :
    (reconciler.rehearsal.report ns layout cluster).legacyDeleted = false := by
  cases layout <;> rfl

/-- Where a pass ends well, the flag of its dry run is set exactly if something is due for a target.
The pass reports a change exactly if its dry run does or there is a legacy object to delete, so the
dry run is right unless the deletion is all that there is to do. -/
theorem reconcile_forecasts (client : Client) (documents : Wanted.Documents) (detector : Detector)
    (ns : String) {cluster : Cluster} {result : PassResult} (wellFormed : cluster.WellFormed)
    (ended : (((live client documents detector).reconcile ns).run (.faultless cluster)).result =
      .ok result) :
    let pass := live client documents detector
    let legacyLeft := result.layout = .modern ∧
      (cluster.get? (Wanted.aggregatedTarget ns).objectKey).isSome
    let due := ∃ target ∈ pass.targets ns result.layout, client.plan cluster target ≠ none
    ∃ predicted, ((pass.rehearsal.reconcile ns).run (.faultless cluster)).result = .ok predicted ∧
      (predicted.changed = true ↔ due) ∧
      (result.changed = true ↔ predicted.changed = true ∨ legacyLeft) ∧
      (predicted.changed = result.changed ↔ ¬ (legacyLeft ∧ ¬ due)) := by
  intro pass legacyLeft due
  have feasible := feasible_of_ok rfl
    (fun layout => sound_course client documents detector ns layout wellFormed) ended
  have apart : Wanted.aggregatedName ≠ Wanted.dashboardName := by decide
  have ready := feasible.ready apart
  have same : result = pass.report ns result.layout cluster :=
    Except.ok.inj (ended.symm.trans ready.result_eq)
  have announced : (pass.rehearsal.report ns result.layout cluster).changed = true ↔ due := by
    rw [changed_report_iff_plan, legacyDeleted_rehearsal]
    simp only [Bool.false_eq_true, false_or]
    rfl
  have reported : result.changed = true ↔ due ∨ legacyLeft := by
    rw [same, changed_report_iff_plan, legacyDeleted_report_iff rfl, or_comm]
    rfl
  refine ⟨_, ready.rehearsal.result_eq, announced, ?_, ?_⟩
  · rw [reported, announced]
  · rw [Bool.eq_iff_iff, announced, reported]
    constructor
    · rintro agree ⟨left, idle⟩
      exact idle (agree.mpr (.inr left))
    · intro busy
      refine ⟨.inl, ?_⟩
      rintro (found | left)
      · exact found
      · by_contra idle
        exact busy ⟨left, idle⟩

end Reconciler

/-- The object that is created for a target. -/
def Target.made (target : Target) (mutation : Mutation) : Json :=
  ((mutation.apply target.skeleton).toOption).getD .null

theorem Target.Manages.wellFormed_made {target : Target} {mutation : Mutation} {field : String}
    {value : Json} (manages : target.Manages mutation field value) :
    (target.made mutation).WellFormed := by
  have applied := (manages.apply_eq_ok_iff target.skeleton _).mpr
    ⟨Client.takesLabels_skeleton target, rfl⟩
  rw [made, applied]
  exact manages.wellFormed_wanted (Client.wellFormed_skeleton target)

/-- A cluster whose modern objects are up to date, with a legacy object that nobody has deleted. -/
def Cluster.leftover : Cluster where
  objects := ((Wanted.aggregatedTarget "shoot").objectKey, .obj []) ::
    (Wanted.modernTargets .brief "shoot").map fun entry =>
      (entry.1.objectKey, entry.1.made entry.2)
  counter := 3

theorem Cluster.wellFormed_leftover : leftover.WellFormed := by
  intro key object held
  rcases List.mem_cons.mp (Table.mem_of_get? held) with same | modern
  · cases same
    exact ⟨List.nodup_nil, trivial⟩
  · obtain ⟨entry, member, same⟩ := List.mem_map.mp modern
    obtain ⟨value, manages⟩ :=
      Wanted.manages_of_mem .brief "shoot" entry (List.mem_cons_of_mem _ member)
    cases same
    exact manages.wellFormed_made

/-- What a pass over it reports: it deletes the legacy object and finds nothing else to do. -/
def PassResult.migrated : PassResult where
  ns := "shoot"
  layout := .modern
  legacyDeleted := true
  resources :=
    [ ("ConfigMap shoot/registry-cache-dashboards", .unchanged)
    , ("PrometheusRule shoot/shoot-registry-cache", .unchanged)
    , ("ScrapeConfig shoot/shoot-registry-cache", .unchanged) ]
  finished := true

namespace Reconciler

theorem ended_leftover :
    (((live .plain .brief (.sentinel Wanted.sentinelName)).reconcile "shoot").run
      (.faultless .leftover)).result = .ok .migrated := by
  decide +kernel

theorem reconcile_forecasts_leftover :
    let pass := live .plain .brief (.sentinel Wanted.sentinelName)
    Cluster.leftover.WellFormed ∧
      ((pass.reconcile "shoot").run (.faultless .leftover)).result = .ok .migrated ∧
      ∃ predicted, ((pass.rehearsal.reconcile "shoot").run (.faultless .leftover)).result =
        .ok predicted ∧ (PassResult.migrated.changed = true ↔ predicted.changed = true ∨
          PassResult.migrated.layout = .modern ∧
            (Cluster.leftover.get? (Wanted.aggregatedTarget "shoot").objectKey).isSome) := by
  intro pass
  obtain ⟨predicted, completed, _, reported, _⟩ := reconcile_forecasts .plain .brief _ "shoot"
    Cluster.wellFormed_leftover ended_leftover
  exact ⟨Cluster.wellFormed_leftover, ended_leftover, predicted, completed, reported⟩

/-- The deletion of the legacy object is a change, and the dry run does not count it. -/
theorem forecast_overlooks_leftover :
    let pass := live .plain .brief (.sentinel Wanted.sentinelName)
    ((pass.reconcile "shoot").run (.faultless .leftover)).result.map PassResult.changed = .ok true ∧
      ((pass.rehearsal.reconcile "shoot").run (.faultless .leftover)).result.map
        PassResult.changed = .ok false := by
  decide +kernel

end Reconciler
end Upkeep
