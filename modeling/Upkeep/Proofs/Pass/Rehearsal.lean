import Upkeep.Proofs.Pass.Concurrency
import Upkeep.Proofs.Pass.Undisturbed

/-! The dry run. It only reads, whatever fails; and where a pass would end well it ends well too, says
of the same targets that there is nothing to do, and announces for the others what the pass would
send. The pass changes the cluster under its own later steps; the dry run does not, but what is due
for a target depends on the object of that target alone. -/
namespace Upkeep

/-! ### Nothing but reads -/

theorem Event.map_request_exchanges (events : List Event) :
    (exchanges events).map Exchange.request = events.filterMap request? := by
  rw [exchanges, List.map_filterMap]
  congr 1
  funext event
  cases event <;> rfl

/-- The calls are reads, and so the cluster is as it was. -/
structure Exchange.Harmless (calls : List Exchange) (cluster later : Cluster) : Prop where
  reads : ∀ call ∈ calls, call.request.action.verb = .get
  cluster : later = cluster

namespace Exchange.Harmless
variable {cluster between later : Cluster} {first rest : List Exchange}

theorem none (cluster : Cluster) : Harmless [] cluster cluster :=
  ⟨List.forall_mem_nil _, rfl⟩

theorem one (client : Client) (target : Target) (reply : Except CallError Json)
    (cluster : Cluster) : Harmless [⟨client.request target .get, reply⟩] cluster cluster :=
  ⟨by simp [Client.request, Action.verb], rfl⟩

theorem append (left : Harmless first cluster between) (right : Harmless rest between later) :
    Harmless (first ++ rest) cluster later where
  reads := List.forall_mem_append.mpr ⟨left.reads, right.reads⟩
  cluster := right.cluster.trans left.cluster

end Exchange.Harmless

open Exchange (Harmless)

section
variable {cluster later : Cluster} {calls : List Exchange}

namespace Upserter
variable {upserter : Upserter}

theorem Brings.harmless {target : Target} {mutation : Mutation} {result : Except Failure Status}
    (brings : upserter.Brings target mutation cluster calls result later)
    (dry : upserter.dryRun = true) : Harmless calls cluster later := by
  cases brings with
  | unread | refused | idle | announced => exact .one _ _ _ _
  | sent shown due live answered =>
    rw [dry] at live
    cases live

theorem BringsAll.harmless {targets : List (Target × Mutation)} {before : PassResult}
    {result : Except Failure PassResult}
    (brings : upserter.BringsAll targets before cluster calls result later)
    (dry : upserter.dryRun = true) : Harmless calls cluster later := by
  induction brings with
  | nil before cluster => exact .none cluster
  | stop brings => exact brings.harmless dry
  | next brings _ ih => exact (brings.harmless dry).append ih

end Upserter

theorem Detector.Finds.harmless {client : Client} {ns : String} {detector : Detector}
    {result : Except Failure Layout} (finds : Finds client ns cluster detector calls result) :
    Harmless calls cluster cluster := by
  cases finds with
  | fixed => exact .none cluster
  | unread | malformed | present | absent => exact .one _ _ _ cluster

namespace Reconciler
variable {reconciler : Reconciler} {ns : String}

theorem Clears.harmless {result : Except Failure Bool}
    (clears : reconciler.Clears ns cluster calls result later) (dry : reconciler.dryRun = true) :
    Harmless calls cluster later := by
  cases clears with
  | announced => exact .none cluster
  | failed live | absent live | deleted live =>
    rw [dry] at live
    cases live

theorem Carries.harmless {layout : Layout} {result : Except Failure PassResult}
    (carries : reconciler.Carries ns cluster layout calls result later)
    (dry : reconciler.dryRun = true) : Harmless calls cluster later := by
  cases carries with
  | uncleared clears => exact clears.harmless dry
  | cleared clears brings => exact (clears.harmless dry).append (brings.harmless dry)
  | legacy brings => exact brings.harmless dry

theorem harmless_of_goes {result : Except Failure PassResult}
    (goes : (reconciler.reconcile ns).Goes cluster calls result later)
    (dry : reconciler.dryRun = true) : Harmless calls cluster later := by
  rcases finds_or_carries_of_goes goes with
    ⟨failure, finds, _, rfl⟩ | ⟨layout, first, rest, finds, carries, rfl⟩
  · exact finds.harmless
  · exact finds.harmless.append (carries.harmless dry)

end Reconciler
end

/-! ### The same plan -/

namespace Reconciler
variable {reconciler : Reconciler} {ns : String} {layout : Layout} {cluster : Cluster}

/-- The pass that only announces what this one would do. -/
def rehearsal (reconciler : Reconciler) : Reconciler := { reconciler with dryRun := true }

theorem Ready.rehearsal (ready : reconciler.Ready ns layout cluster) :
    reconciler.rehearsal.Ready ns layout cluster :=
  ⟨ready.wellFormed, ready.apart, ready.found, ready.taken⟩

/-- What is sent by a pass that makes changes, if nothing disturbs it. -/
theorem Ready.bodies (ready : reconciler.Ready ns layout cluster) (live : reconciler.dryRun = false) :
    ((reconciler.reconcile ns).run (.faultless cluster)).calls.filter Request.hasBody =
      (reconciler.targets ns layout).filterMap fun entry =>
        (reconciler.client.plan cluster entry).map (reconciler.client.request entry.1) := by
  obtain ⟨later, events, ran, bodies, _⟩ := ready.calm
  have mode : reconciler.upserter.dryRun = false := live
  rw [ran, Outcome.calls, ← Event.bodies, bodies, List.filterMap_eq_flatMap_toList]
  simp only [Upserter.sends, mode]
  rfl

/-- What is told by a dry run, if nothing disturbs it. -/
theorem Ready.news (ready : reconciler.Ready ns layout cluster) (dry : reconciler.dryRun = true) :
    ((reconciler.reconcile ns).run (.faultless cluster)).entries.filter Log.Entry.isNews =
      (reconciler.targets ns layout).filterMap fun entry =>
        (reconciler.client.plan cluster entry).map (Upserter.announcement entry.1) := by
  obtain ⟨later, events, ran, _, news⟩ := ready.calm
  have mode : reconciler.upserter.dryRun = true := dry
  rw [ran, Outcome.entries, ← Event.news, news, List.filterMap_eq_flatMap_toList]
  simp only [Upserter.tells, mode, if_true]

/-- What a dry run says of a target, what the pass then says, and what was due. -/
structure Foretold (plan : Option Action) (said done : Status) : Prop where
  unchanged : said = .unchanged ↔ done = .unchanged
  announced : said = .dryRun ↔ done = .created ∨ done = .patched
  created : done = .created ↔ ∃ object, plan = some (.create object)
  patched : done = .patched ↔ ∃ change, plan = some (.patch change)

theorem foretold (live : reconciler.dryRun = false) (cluster : Cluster)
    (entry : Target × Mutation) :
    Foretold (reconciler.client.plan cluster entry)
      (reconciler.rehearsal.upserter.verdict (reconciler.client.plan cluster entry))
      (reconciler.upserter.verdict (reconciler.client.plan cluster entry)) := by
  have mode : reconciler.upserter.dryRun = false := live
  have other : reconciler.rehearsal.upserter.dryRun = true := rfl
  rcases reconciler.client.plan_cases cluster entry with
    planned | ⟨object, planned⟩ | ⟨change, planned⟩
  all_goals
    rw [planned]
    constructor <;>
      simp [Upserter.verdict, mode, other, Action.status, Status.unchanged, Status.created,
        Status.patched, Status.dryRun]

/-- A dry run only reads and leaves the cluster as it was, whatever it finds and whatever fails.
Where a pass ends well, the dry run of it ends well too, in the same layout and with the same
targets. It calls a target unchanged if the pass does, and otherwise announces what the pass sends
for it: for each patch the text of its body. -/
theorem reconcile_rehearses :
    (∀ (reconciler : Reconciler) (ns : String) (server : Server), reconciler.dryRun = true →
      let outcome := (reconciler.reconcile ns).run server
      (∀ request ∈ outcome.calls, request.action.verb = .get) ∧
        outcome.server.cluster = server.cluster) ∧
    ∀ (client : Client) (documents : Wanted.Documents) (detector : Detector) (ns : String)
      (cluster : Cluster) (result : PassResult),
      let pass := live client documents detector
      let real := (pass.reconcile ns).run (.faultless cluster)
      let dry := (pass.rehearsal.reconcile ns).run (.faultless cluster)
      let targets := pass.targets ns result.layout
      let plan := client.plan cluster
      cluster.WellFormed → real.result = .ok result →
        ∃ predicted, dry.result = .ok predicted ∧ predicted.layout = result.layout ∧
          result.resources.keys = targets.map (fun target => target.1.key) ∧
          predicted.resources.keys = result.resources.keys ∧
          (∀ target ∈ targets, ∃ said done,
            predicted.resources.get? target.1.key = some said ∧
            result.resources.get? target.1.key = some done ∧ Foretold (plan target) said done) ∧
          real.calls.filter Request.hasBody =
            targets.filterMap (fun target => (plan target).map (client.request target.1)) ∧
          dry.entries.filter Log.Entry.isNews =
            targets.filterMap (fun target => (plan target).map (Upserter.announcement target.1)) := by
  refine ⟨?_, ?_⟩
  · intro reconciler ns server dry outcome
    obtain ⟨reads, same⟩ := harmless_of_goes (Dialogue.goes_run _ server) dry
    refine ⟨?_, same⟩
    intro request called
    rw [Outcome.calls, ← Event.map_request_exchanges] at called
    obtain ⟨call, member, rfl⟩ := List.mem_map.mp called
    exact reads call member
  · intro client documents detector ns cluster result pass real dry targets plan wellFormed ended
    have feasible := feasible_of_ok rfl
      (fun layout => sound_course client documents detector ns layout wellFormed) ended
    have apart : Wanted.aggregatedName ≠ Wanted.dashboardName := by decide
    have ready := feasible.ready apart
    have same : result = pass.report ns result.layout cluster :=
      Except.ok.inj (ended.symm.trans ready.result_eq)
    refine ⟨_, ready.rehearsal.result_eq, rfl, ?_, ?_, ?_, ready.bodies rfl,
      ready.rehearsal.news rfl⟩
    · rw [same]
      exact keys_report pass ns _ cluster
    · rw [keys_report, same, keys_report]
      rfl
    · intro target member
      have known : target ∈ pass.rehearsal.targets ns result.layout := member
      have said := get?_report known cluster
      have done := get?_report member cluster
      have live : pass.dryRun = false := rfl
      refine ⟨_, _, said, ?_, foretold live cluster target⟩
      rw [same]
      exact done

theorem reconcile_rehearses_neglected :
    let pass := live typedClient .brief (.sentinel Wanted.sentinelName)
    let server : Server :=
      ⟨.neglected, [⟨.get, .prometheusRule, .api (some 500) none, 0, none⟩]⟩
    let failing := (pass.rehearsal.reconcile "shoot").run server
    let real := (pass.reconcile "shoot").run (.faultless .neglected)
    let dry := (pass.rehearsal.reconcile "shoot").run (.faultless .neglected)
    pass.rehearsal.dryRun = true ∧ failing.server.cluster = .neglected ∧
      Cluster.neglected.WellFormed ∧ real.result = .ok .repaired ∧
      ∃ predicted, dry.result = .ok predicted ∧
        predicted.resources.keys = PassResult.repaired.resources.keys ∧
        ∃ said, predicted.resources.get? (Wanted.alertTarget "shoot").key = some said ∧
          said = .dryRun := by
  intro pass server failing real dry
  have mode : pass.rehearsal.dryRun = true := rfl
  have ended : real.result = .ok .repaired := by decide +kernel
  obtain ⟨reads, foretells⟩ := reconcile_rehearses
  obtain ⟨predicted, completed, _, _, keys, statuses, _⟩ := foretells typedClient .brief
    (.sentinel Wanted.sentinelName) "shoot" .neglected .repaired Cluster.wellFormed_neglected ended
  obtain ⟨said, done, told, booked, known⟩ :=
    statuses (Wanted.alertTarget "shoot", Wanted.alertMutation)
      (by simp [PassResult.repaired, targets, Wanted.modernTargets])
  have patched : PassResult.repaired.resources.get? (Wanted.alertTarget "shoot").key =
      some .patched := by decide
  rw [patched] at booked
  exact ⟨mode, (reads pass.rehearsal "shoot" server mode).2, Cluster.wellFormed_neglected, ended,
    predicted, completed, keys, said, told,
    known.announced.mpr (.inr (Option.some.inj booked).symm)⟩

end Reconciler
end Upkeep
