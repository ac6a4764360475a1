import Upkeep.Proofs.Cluster.Sparing
import Upkeep.Proofs.Pass.Bringing
import Upkeep.Proofs.Pass.Convergence

/-! What a pass leaves alone, whether it ends well or not. Bringing a target up to date respects its
object and touches no other one. A pass touches the objects of its layout and, in the modern layout,
deletes the legacy object. -/
namespace Upkeep
open Dialogue

variable {target : Target} {cluster between later : Cluster} {calls : List Exchange}

/-- A cluster before and after targets have been brought up to date: their objects are respected,
and no other object has changed. -/
structure Cluster.Respects (cluster : Cluster) (targets : List (Target × Mutation))
    (later : Cluster) : Prop where
  others : ∀ key, (∀ target ∈ targets, target.1.objectKey ≠ key) →
    later.get? key = cluster.get? key
  held : ∀ target ∈ targets, ∀ before, cluster.get? target.1.objectKey = some before →
    ∃ after, later.get? target.1.objectKey = some after ∧
      target.2.Respects target.1.kind.payload before after

theorem Cluster.Respects.refl (cluster : Cluster) (targets : List (Target × Mutation)) :
    cluster.Respects targets cluster where
  others := fun _ _ => rfl
  held := fun target _ before there => ⟨before, there, .refl target.2 _ before⟩

theorem Cluster.Respects.cons {targets : List (Target × Mutation)} {mutation : Mutation}
    (apart : ∀ other ∈ targets, other.1.objectKey ≠ target.objectKey)
    (first : cluster.Respects [(target, mutation)] between)
    (rest : between.Respects targets later) :
    cluster.Respects ((target, mutation) :: targets) later where
  others := by
    intro key free
    rw [rest.others key fun other member => free other (List.mem_cons_of_mem _ member)]
    exact first.others key fun other member =>
      free other (List.mem_singleton.mp member ▸ List.mem_cons_self)
  held := by
    intro other member before there
    rcases List.mem_cons.mp member with rfl | member
    · obtain ⟨after, made, respects⟩ := first.held _ (List.mem_singleton_self _) before there
      exact ⟨after, (rest.others _ apart).trans made, respects⟩
    · refine rest.held other member before ((first.others _ ?_).trans there)
      intro single here
      rw [List.mem_singleton.mp here]
      exact (apart other member).symm

namespace Upserter
variable {upserter : Upserter} {mutation : Mutation} {value : Json}

/-- A write that is due, carried out or not. -/
theorem respects_of_due (manages : target.Manages mutation target.kind.payload value)
    (wellFormed : ∀ stored, cluster.get? target.objectKey = some stored → stored.WellFormed)
    {client : Client} {reply answer : Except CallError Json} {held : Option Json} {action : Action}
    (shown : cluster.Shows target reply held)
    (due : client.due target mutation held = .ok (some action))
    (answered : cluster.Answers (client.request target action) answer later) :
    cluster.Respects [(target, mutation)] later := by
  cases answered with
  | failed error => exact .refl cluster _
  | performed =>
    rw [Cluster.perform_request]
    constructor
    · intro key free
      exact cluster.get?_act_of_ne action (free _ (List.mem_singleton_self _))
    · intro other member before there
      rw [List.mem_singleton.mp member] at there ⊢
      cases shown with
      | stored seen =>
        cases Option.some.inj (seen.symm.trans there)
        exact Client.respects_act manages there (wellFormed _ there) due
      | nothing absent =>
        -- an object that was taken for absent is not created a second time
        rw [Client.due_none manages] at due
        cases due
        refine ⟨before, ?_, .refl mutation _ before⟩
        rw [Cluster.act.eq_def, there]
        exact there

theorem Brings.respects {result : Except Failure Status}
    (brings : upserter.Brings target mutation cluster calls result later)
    (manages : target.Manages mutation target.kind.payload value)
    (wellFormed : ∀ stored, cluster.get? target.objectKey = some stored → stored.WellFormed) :
    cluster.Respects [(target, mutation)] later := by
  cases brings with
  | unread | refused | idle | announced => exact .refl cluster _
  | sent shown due live answered => exact respects_of_due manages wellFormed shown due answered

theorem apart_of_nodup {mutation : Mutation} {targets : List (Target × Mutation)}
    (distinct : (((target, mutation) :: targets).map fun target => target.1.objectKey).Nodup) :
    ∀ other ∈ targets, other.1.objectKey ≠ target.objectKey := by
  intro other member same
  exact (List.nodup_cons.mp distinct).1 (List.mem_map.mpr ⟨other, member, same⟩)

theorem BringsAll.respects {targets : List (Target × Mutation)} {before : PassResult}
    {result : Except Failure PassResult}
    (brings : upserter.BringsAll targets before cluster calls result later)
    (managed : Managed targets)
    (distinct : (targets.map fun target => target.1.objectKey).Nodup)
    (wellFormed : ∀ target ∈ targets, ∀ stored,
      cluster.get? target.1.objectKey = some stored → stored.WellFormed) :
    cluster.Respects targets later := by
  induction brings with
  | nil before cluster => exact .refl cluster _
  | stop brings =>
    obtain ⟨⟨value, manages⟩, _⟩ := managed.of_cons
    exact .cons (apart_of_nodup distinct)
      (brings.respects manages (wellFormed _ List.mem_cons_self)) (.refl _ _)
  | @next target mutation rest _ _ cluster between _ _ _ _ brings _ ih =>
    obtain ⟨⟨value, manages⟩, others⟩ := managed.of_cons
    have apart := apart_of_nodup distinct
    have first := brings.respects manages (wellFormed _ List.mem_cons_self)
    refine .cons apart first (ih others (List.nodup_cons.mp distinct).2 ?_)
    -- the objects of the later targets are still as they were
    intro other member stored held
    have same := first.others other.1.objectKey fun single here =>
      List.mem_singleton.mp here ▸ (apart other member).symm
    exact wellFormed other (List.mem_cons_of_mem _ member) stored (same ▸ held)

end Upserter

/-! ### The pass -/

namespace Reconciler
variable {reconciler : Reconciler} {ns : String}

/-- A cluster before and after a pass in a layout: the objects of the layout are respected, the
legacy object is deleted if at all, which happens in the modern layout and not in a dry run, and no
other object has changed. -/
structure Respects (reconciler : Reconciler) (ns : String) (layout : Layout)
    (cluster later : Cluster) : Prop where
  others : ∀ key, (∀ target ∈ reconciler.targets ns layout, target.1.objectKey ≠ key) →
    (layout = .modern → (reconciler.legacyTarget ns).objectKey ≠ key) →
      later.get? key = cluster.get? key
  legacy : layout = .modern →
    later.get? (reconciler.legacyTarget ns).objectKey =
        cluster.get? (reconciler.legacyTarget ns).objectKey ∨
      reconciler.dryRun = false ∧ later.get? (reconciler.legacyTarget ns).objectKey = none
  held : ∀ target ∈ reconciler.targets ns layout, ∀ before,
    cluster.get? target.1.objectKey = some before →
      ∃ after, later.get? target.1.objectKey = some after ∧
        target.2.Respects target.1.kind.payload before after

theorem legacyTarget_apart (apart : reconciler.legacyName ≠ Wanted.dashboardName) :
    ∀ target ∈ reconciler.targets ns .modern,
      target.1.objectKey ≠ (reconciler.legacyTarget ns).objectKey := by
  intro target member
  simp only [targets, Wanted.modernTargets, List.mem_cons, List.not_mem_nil, or_false] at member
  rcases member with rfl | rfl | rfl
  · simpa [Target.objectKey, legacyTarget, Wanted.dashboardTarget] using apart.symm
  · simp [Target.objectKey, legacyTarget, Wanted.alertTarget, Kind.name]
  · simp [Target.objectKey, legacyTarget, Wanted.scrapeTarget, Kind.name]

theorem Clears.others {result : Except Failure Bool}
    (clears : reconciler.Clears ns cluster calls result later) {key : ObjectKey}
    (different : (reconciler.legacyTarget ns).objectKey ≠ key) :
    later.get? key = cluster.get? key := by
  cases clears with
  | announced | failed | absent => rfl
  | deleted live => exact (cluster.get?_remove _ key).trans (if_neg different)

theorem Clears.legacy {result : Except Failure Bool}
    (clears : reconciler.Clears ns cluster calls result later) :
    later.get? (reconciler.legacyTarget ns).objectKey =
        cluster.get? (reconciler.legacyTarget ns).objectKey ∨
      reconciler.dryRun = false ∧ later.get? (reconciler.legacyTarget ns).objectKey = none := by
  cases clears with
  | announced | failed | absent => exact .inl rfl
  | deleted live => exact .inr ⟨live, (cluster.get?_remove _ _).trans (if_pos rfl)⟩

theorem Carries.respects {layout : Layout} {result : Except Failure PassResult}
    (carries : reconciler.Carries ns cluster layout calls result later)
    (wellFormed : cluster.WellFormed) (apart : reconciler.legacyName ≠ Wanted.dashboardName) :
    reconciler.Respects ns layout cluster later := by
  have managed := reconciler.managed_targets ns
  have distinct := reconciler.distinct_targets ns
  have free : ∀ target ∈ reconciler.targets ns .modern,
      target.1.objectKey ≠ (reconciler.legacyTarget ns).objectKey := legacyTarget_apart apart
  cases carries with
  | uncleared clears =>
    constructor
    · exact fun key _ other => clears.others (other rfl)
    · exact fun _ => clears.legacy
    · intro target member before held
      exact ⟨before, (clears.others (free target member).symm).trans held, .refl _ _ _⟩
  | @cleared first rest deleted between later start result clears brings =>
    have respects := brings.respects (managed .modern) (distinct .modern) (by
      intro target member stored held
      rw [clears.others (free target member).symm] at held
      exact wellFormed _ stored held)
    constructor
    · intro key none other
      rw [respects.others key none, clears.others (other rfl)]
    · intro _
      rw [respects.others _ free]
      exact clears.legacy
    · intro target member before held
      exact respects.held target member before
        ((clears.others (free target member).symm).trans held)
  | legacy brings =>
    have respects := brings.respects (managed .legacy) (distinct .legacy)
      fun target _ => wellFormed target.1.objectKey
    exact ⟨fun key none _ => respects.others key none, nofun, respects.held⟩

/-- However a pass ends and whichever calls fail: if the layout is not found, the cluster is as it
was, and otherwise the pass respects it. -/
theorem reconcile_respects (reconciler : Reconciler) (ns : String) (server : Server)
    (wellFormed : server.cluster.WellFormed)
    (apart : reconciler.legacyName ≠ Wanted.dashboardName) :
    let final := ((reconciler.reconcile ns).run server).server.cluster
    match ((reconciler.detect ns).run server).result with
    | .error _ => final = server.cluster
    | .ok layout => reconciler.Respects ns layout server.cluster final := by
  obtain ⟨unchanged, _⟩ := Detector.finds_of_goes (goes_run (reconciler.detect ns) server)
  simp only [reconcile_eq, Dialogue.run_bind]
  cases found : ((reconciler.detect ns).run server).result with
  | error failure => exact unchanged
  | ok layout =>
    have carries := carries_of_goes
      (goes_run (reconciler.carryOut ns layout) ((reconciler.detect ns).run server).server)
    rw [unchanged] at carries
    exact carries.respects wellFormed apart

theorem reconcile_respects_neglected :
    let reconciler := standard .plain .brief false
    let server : Server := ⟨.neglected, [⟨.create, .scrapeConfig, .interrupt, 0, none⟩]⟩
    let outcome := (reconciler.reconcile "shoot").run server
    Cluster.neglected.WellFormed ∧ reconciler.legacyName ≠ Wanted.dashboardName ∧
      outcome.result = .error (.call .interrupt) ∧
      reconciler.Respects "shoot" .modern .neglected outcome.server.cluster ∧
      ∃ after, outcome.server.cluster.get? (Wanted.dashboardTarget "shoot").objectKey = some after ∧
        (Object.metadata after).get? "owner" = some (.str "team") := by
  intro reconciler server outcome
  have apart : reconciler.legacyName ≠ Wanted.dashboardName := by decide
  have found : ((reconciler.detect "shoot").run server).result = .ok .modern := by decide
  have respects := reconcile_respects reconciler "shoot" server Cluster.wellFormed_neglected apart
  rw [found] at respects
  have ended : outcome.result = .error (.call .interrupt) := by decide +kernel
  obtain ⟨after, held, kept⟩ := respects.held (Wanted.dashboardTarget "shoot",
    Wanted.dashboardMutation .brief) List.mem_cons_self _ rfl
  refine ⟨Cluster.wellFormed_neglected, apart, ended, respects, after, held, ?_⟩
  rcases kept.metadata "owner" (by decide) (by decide) with same | ⟨known, _⟩
  · exact same
  · exact absurd known (by decide)

end Reconciler
end Upkeep
