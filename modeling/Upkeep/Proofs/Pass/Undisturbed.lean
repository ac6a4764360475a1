import Upkeep.Proofs.Pass.Sparing

/-! A pass that nothing disturbs: no call fails before it reaches the store. What it reports, what it
sends and what it tells about its targets then depend on what is due for each target at the start,
and on nothing else; this holds of a pass that makes changes and of one that only announces them. -/
namespace Upkeep
open Dialogue

/-! ### Undisturbed runs -/

/-- The request carries an object, or a change of one. -/
def Request.hasBody (request : Request) : Bool :=
  match request.action with
  | .create _ | .patch _ => true
  | .get | .delete => false

/-- What is sent to be written. -/
def Event.bodies (events : List Event) : List Request :=
  (events.filterMap Event.request?).filter Request.hasBody

/-- Entries about targets that are not for debugging. -/
def Log.Entry.isNews (entry : Log.Entry) : Bool := entry.level = .info && entry.part = .upserter

/-- What is told about targets. -/
def Event.news (events : List Event) : List Log.Entry :=
  (events.filterMap Event.entry?).filter Log.Entry.isNews

/-- A dialogue, run on a cluster where no call fails, comes to this value, sends these bodies and
tells these news, and leaves the other cluster. -/
def Dialogue.Calm {α : Type} (d : Dialogue α) (cluster : Cluster) (value : α)
    (bodies : List Request) (news : List Log.Entry) (later : Cluster) : Prop :=
  ∃ events, d.run (.faultless cluster) = ⟨.ok value, .faultless later, events⟩ ∧
    Event.bodies events = bodies ∧ Event.news events = news

namespace Dialogue.Calm
variable {α β : Type} {cluster between later : Cluster} {value : α} {bodies rest : List Request}
  {news more : List Log.Entry}

theorem done (value : α) (cluster : Cluster) : (done value).Calm cluster value [] [] cluster :=
  ⟨[], rfl, rfl, rfl⟩

theorem note {next : Dialogue α} (entry : Log.Entry)
    (calm : next.Calm cluster value bodies news later) :
    (note entry next).Calm cluster value bodies
      (if entry.isNews then entry :: news else news) later := by
  obtain ⟨events, ran, rfl, rfl⟩ := calm
  refine ⟨.noted entry :: events, ?_, rfl, ?_⟩
  · rw [run, ran]
    rfl
  · cases important : entry.isNews <;> simp [Event.news, Event.entry?, important]

theorem bind {d : Dialogue α} {f : α → Dialogue β} {result : β}
    (first : d.Calm cluster value bodies news between)
    (second : (f value).Calm between result rest more later) :
    (d.bind f).Calm cluster result (bodies ++ rest) (news ++ more) later := by
  obtain ⟨events, ran, rfl, rfl⟩ := first
  obtain ⟨others, goesOn, rfl, rfl⟩ := second
  refine ⟨events ++ others, ?_, ?_, ?_⟩
  · rw [run_bind, ran]
    simp only [goesOn]
  · rw [Event.bodies, List.filterMap_append, List.filter_append]
    rfl
  · rw [Event.news, List.filterMap_append, List.filter_append]
    rfl

/-- A call is carried out. -/
theorem ask {request : Request} {next : Except CallError Json → Dialogue α}
    {reply : Except CallError Json} (performed : cluster.perform request = (reply, between))
    (calm : (next reply).Calm between value bodies news later) :
    (ask request next).Calm cluster value
      (if request.hasBody then request :: bodies else bodies) news later := by
  obtain ⟨events, ran, rfl, rfl⟩ := calm
  refine ⟨.called request reply :: events, ?_, ?_, rfl⟩
  · rw [run, Server.answer, Server.faultless, Fault.meetAll]
    simp only [performed]
    rw [← Server.faultless, ran]
    rfl
  · cases written : request.hasBody <;> simp [Event.bodies, Event.request?, written]

/-- A read finds what is stored. -/
theorem read {client : Client} {target : Target} {found : Option Json}
    {f : Option Json → Dialogue α} (g : Failure → Failure)
    (seen : client.found target.kind (cluster.get? target.objectKey) = .ok found)
    (calm : (f found).Calm cluster value bodies news later) :
    (((client.get target).mapFailure g).bind f).Calm cluster value bodies news later := by
  have performed := cluster.perform_get client target
  cases held : cluster.get? target.objectKey with
  | none =>
    rw [held] at seen performed
    cases seen
    exact ask performed (note _ calm)
  | some stored =>
    rw [held] at seen performed
    obtain ⟨read, got, rfl⟩ := (Client.found_eq_ok_iff _ _ _ _).mp seen
    apply ask performed
    simp only [got, Except.map, Dialogue.ofExcept, Dialogue.mapFailure, Dialogue.bind]
    exact calm

/-- A write that the store accepts, with a reply that the client can read. -/
theorem written {client : Client} {target : Target} {action : Action} {object seen : Json}
    {after : Dialogue α} (writing : (client.request target action).hasBody = true)
    (accepted : cluster.act target.objectKey action = (.ok object, between))
    (viewed : client.view target.kind object = .ok seen)
    (calm : after.Calm between value bodies news later) :
    (Course.written client target action after).Calm cluster value
      (client.request target action :: bodies) news later := by
  have performed := (cluster.perform_request client target action).trans accepted
  have follows : ((Dialogue.ofExcept (client.view target.kind object)).bind fun _ => after).Calm
      between value bodies news later := by
    simpa only [viewed, Dialogue.ofExcept, Dialogue.bind] using calm
  have asked : (Course.written client target action after).Calm cluster value _ news later :=
    ask performed follows
  rwa [if_pos writing] at asked

end Dialogue.Calm

/-! ### Targets -/

namespace Upserter
variable {upserter : Upserter} {target : Target} {mutation : Mutation} {field : String}
  {value : Json} {cluster : Cluster} {action : Option Action}

/-- The status of a target for which this is due. -/
def verdict (upserter : Upserter) : Option Action → Status
  | none => .unchanged
  | some action => if upserter.dryRun then .dryRun else action.status

/-- What is sent for a target for which this is due. -/
def sends (upserter : Upserter) (target : Target) (action : Option Action) : List Request :=
  if upserter.dryRun then [] else (action.map (upserter.client.request target)).toList

/-- What is said about a target where changes are only announced. -/
def announcement (target : Target) : Action → Log.Entry
  | .patch change =>
    ⟨.info, .upserter, "[DRY-RUN] Would patch " ++ target.key ++ ": " ++ change.spelled⟩
  | _ => ⟨.info, .upserter, "[DRY-RUN] Would create " ++ target.key⟩

/-- What is said about a target that has been written. -/
def confirmation (target : Target) : Action → List Log.Entry
  | .create _ => [⟨.info, .upserter, "Created " ++ target.key⟩]
  | .patch _ => [⟨.info, .upserter, "Patched " ++ target.key⟩]
  | _ => []

/-- What is told about a target for which this is due. -/
def tells (upserter : Upserter) (target : Target) (action : Option Action) : List Log.Entry :=
  if upserter.dryRun then (action.map (announcement target)).toList
  else action.toList.flatMap (confirmation target)

section
variable {action : Action} (writable : ∀ change, action = .patch change → change.Writable)
include writable

theorem calm_told (target : Target) (cluster : Cluster) :
    (Course.told target action).Calm cluster action.status [] (confirmation target action)
      cluster := by
  cases action with
  | get | delete => exact .done _ cluster
  | create object => exact .note _ (.done _ cluster)
  | patch change =>
    rw [Course.told_patch target (writable change rfl)]
    exact .note _ (.note _ (.done _ cluster))

theorem calm_announce (target : Target) (cluster : Cluster) :
    (announce target (.ok (some action))).Calm cluster .dryRun [] [announcement target action]
      cluster := by
  cases action with
  | get | create | delete => exact .note _ (.done _ cluster)
  | patch change =>
    rw [announce_patch target (writable change rfl)]
    exact .note _ (.done _ cluster)

end

/-- What is due is done, or announced, and no other object is touched. -/
theorem calm_proceed (manages : target.Manages mutation field value)
    (wellFormed : ∀ stored, cluster.get? target.objectKey = some stored → stored.WellFormed)
    (due : upserter.client.due target mutation (cluster.get? target.objectKey) = .ok action) :
    ∃ later, (upserter.proceed target (.ok action)).Calm cluster (upserter.verdict action)
        (upserter.sends target action) (upserter.tells target action) later ∧
      ∀ key, target.objectKey ≠ key → later.get? key = cluster.get? key := by
  rw [sends, tells]
  cases action with
  | none =>
    refine ⟨cluster, ?_, fun _ _ => rfl⟩
    rw [proceed_none]
    cases upserter.dryRun <;> exact .note _ (.done _ cluster)
  | some action =>
    rw [verdict, proceed]
    have writable : ∀ change, action = .patch change → change.Writable :=
      fun change same => Client.writable_of_due manages wellFormed (same ▸ due)
    cases upserter.dryRun with
    | true => exact ⟨cluster, calm_announce writable target cluster, fun _ _ => rfl⟩
    | false =>
      obtain ⟨object, replied, _, _, met, _⟩ :=
        Client.act_due manages upserter.client wellFormed due
      obtain ⟨seen, viewed, _⟩ :=
        upserter.client.view_of_metadata target.kind (met.metadata manages.toWrites).1
      have writing : (upserter.client.request target action).hasBody = true := by
        rcases Client.due_creates_or_patches due with ⟨object, rfl⟩ | ⟨change, rfl⟩ <;> rfl
      have accepted : cluster.act target.objectKey action =
          (.ok object, (cluster.act target.objectKey action).2) := Prod.ext replied rfl
      have told := calm_told writable target (cluster.act target.objectKey action).2
      refine ⟨_, ?_, fun key different => cluster.get?_act_of_ne action different⟩
      simpa [Course.resume] using Calm.written writing accepted viewed told

theorem calm_upsert (manages : target.Manages mutation field value)
    (wellFormed : ∀ stored, cluster.get? target.objectKey = some stored → stored.WellFormed)
    (due : upserter.client.due target mutation (cluster.get? target.objectKey) = .ok action) :
    ∃ later, (upserter.upsert target mutation.apply).Calm cluster (upserter.verdict action)
        (upserter.sends target action) (upserter.tells target action) later ∧
      ∀ key, target.objectKey ≠ key → later.get? key = cluster.get? key := by
  have performed := cluster.perform_get upserter.client target
  obtain ⟨later, calm, others⟩ := calm_proceed manages wellFormed due
  refine ⟨later, ?_, others⟩
  rw [upsert_eq manages]
  rw [← due] at calm
  cases held : cluster.get? target.objectKey with
  | none =>
    rw [held] at performed calm
    exact Calm.ask performed (.note _ calm)
  | some stored =>
    rw [held] at performed calm
    exact Calm.ask performed calm

theorem calm_upsertAll {targets : List (Target × Mutation)} (managed : Managed targets)
    (distinct : (targets.map fun entry => entry.1.objectKey).Nodup)
    (plan : Target × Mutation → Option Action)
    (wellFormed : ∀ entry ∈ targets, ∀ stored,
      cluster.get? entry.1.objectKey = some stored → stored.WellFormed)
    (due : ∀ entry ∈ targets,
      upserter.client.due entry.1 entry.2 (cluster.get? entry.1.objectKey) = .ok (plan entry))
    (before : PassResult) :
    ∃ later, (Reconciler.upsertAll upserter before targets).Calm cluster
      (before.bookEach (fun entry => upserter.verdict (plan entry)) targets)
      (targets.flatMap fun entry => upserter.sends entry.1 (plan entry))
      (targets.flatMap fun entry => upserter.tells entry.1 (plan entry)) later := by
  induction targets generalizing cluster before with
  | nil => exact ⟨cluster, .done before cluster⟩
  | cons entry rest ih =>
    obtain ⟨⟨value, manages⟩, others⟩ := managed.of_cons
    have apart := apart_of_nodup distinct
    obtain ⟨between, first, untouched⟩ := calm_upsert manages
      (wellFormed entry List.mem_cons_self) (due entry List.mem_cons_self)
    -- the objects of the later targets are still as they were
    have same : ∀ other ∈ rest,
        between.get? other.1.objectKey = cluster.get? other.1.objectKey :=
      fun other member => untouched _ (apart other member).symm
    obtain ⟨later, calm⟩ := ih others (List.nodup_cons.mp distinct).2
      (fun other member stored held =>
        wellFormed other (List.mem_cons_of_mem _ member) stored (same other member ▸ held))
      (fun other member => (same other member).symm ▸ due other (List.mem_cons_of_mem _ member))
      (before.book entry.1 (upserter.verdict (plan entry)))
    exact ⟨later, first.bind calm⟩

end Upserter

/-! ### The pass -/

/-- What is due for the target of an entry; nothing where that cannot be said. -/
def Client.plan (client : Client) (cluster : Cluster) (entry : Target × Mutation) :
    Option Action :=
  match client.due entry.1 entry.2 (cluster.get? entry.1.objectKey) with
  | .ok action => action
  | .error _ => none

theorem Client.due_eq_plan {client : Client} {cluster : Cluster} {entry : Target × Mutation}
    (taken : ∃ action,
      client.due entry.1 entry.2 (cluster.get? entry.1.objectKey) = .ok action) :
    client.due entry.1 entry.2 (cluster.get? entry.1.objectKey) =
      .ok (client.plan cluster entry) := by
  obtain ⟨action, due⟩ := taken
  rw [plan, due]

theorem Client.plan_cases (client : Client) (cluster : Cluster) (entry : Target × Mutation) :
    client.plan cluster entry = none ∨
      (∃ object, client.plan cluster entry = some (.create object)) ∨
        ∃ change, client.plan cluster entry = some (.patch change) := by
  rw [plan]
  cases due : client.due entry.1 entry.2 (cluster.get? entry.1.objectKey) with
  | error bad => exact .inl rfl
  | ok action =>
    cases action with
    | none => exact .inl rfl
    | some action =>
      rcases due_creates_or_patches due with ⟨object, rfl⟩ | ⟨change, rfl⟩
      · exact .inr (.inl ⟨object, rfl⟩)
      · exact .inr (.inr ⟨change, rfl⟩)

namespace Reconciler
variable {reconciler : Reconciler} {ns : String} {layout : Layout} {cluster : Cluster}

/-- What a pass reports that nothing disturbs. -/
def report (reconciler : Reconciler) (ns : String) (layout : Layout) (cluster : Cluster) :
    PassResult where
  ns := ns
  layout := layout
  legacyDeleted := match layout with
    | .legacy => false
    | .modern =>
      !reconciler.dryRun && (cluster.get? (reconciler.legacyTarget ns).objectKey).isSome
  resources := (reconciler.targets ns layout).map fun entry =>
    (entry.1.key, reconciler.upserter.verdict (reconciler.client.plan cluster entry))
  finished := true

/-- A pass can be carried out: its layout is found and it is known what is due for each target. -/
structure Ready (reconciler : Reconciler) (ns : String) (layout : Layout) (cluster : Cluster) :
    Prop where
  wellFormed : cluster.WellFormed
  apart : reconciler.legacyName ≠ Wanted.dashboardName
  found : ((reconciler.detect ns).run (.faultless cluster)).result = .ok layout
  taken : ∀ entry ∈ reconciler.targets ns layout, ∃ action,
    reconciler.client.due entry.1 entry.2 (cluster.get? entry.1.objectKey) = .ok action

theorem Ready.calm_detect (ready : reconciler.Ready ns layout cluster) :
    (reconciler.detect ns).Calm cluster layout [] [] cluster := by
  have found := ready.found
  rw [detect] at found ⊢
  generalize reconciler.detector = detector at found ⊢
  cases detector with
  | fixed known =>
    have same : known = layout := Except.ok.inj found
    exact same ▸ .done known cluster
  | sentinel name =>
    rw [Course.detect_result] at found
    cases seen : reconciler.client.found .statefulSet
        (cluster.get? (Detector.sentinelTarget name ns).objectKey) with
    | error bad =>
      rw [seen] at found
      cases found
    | ok held =>
      rw [seen] at found
      have same : Detector.layoutOf held = layout := Except.ok.inj found
      exact same ▸ Calm.read _ seen (.note _ (.done _ cluster))

/-- The objects of the targets are as they were before the legacy object was deleted. -/
theorem Ready.calm_prepare (ready : reconciler.Ready ns layout cluster) :
    ∃ later, (reconciler.prepare ns layout).Calm cluster
        (reconciler.report ns layout cluster).legacyDeleted [] [] later ∧
      ∀ entry ∈ reconciler.targets ns layout,
        later.get? entry.1.objectKey = cluster.get? entry.1.objectKey := by
  cases layout with
  | legacy => exact ⟨cluster, .done false cluster, fun _ _ => rfl⟩
  | modern =>
    have performed := cluster.perform_request reconciler.client (reconciler.legacyTarget ns) .delete
    rw [prepare]
    cases mode : reconciler.dryRun with
    | true =>
      refine ⟨cluster, ?_, fun _ _ => rfl⟩
      rw [cleanup, report, mode]
      exact .note _ (.done false cluster)
    | false =>
      rw [Course.cleanup_eq mode, report, mode]
      cases held : cluster.get? (reconciler.legacyTarget ns).objectKey with
      | none =>
        have acted := performed.trans (Cluster.act_delete_of_absent held)
        exact ⟨cluster, Calm.ask acted (.note _ (.done false cluster)), fun _ _ => rfl⟩
      | some stored =>
        have acted := performed.trans (Cluster.act_delete_of_held held)
        refine ⟨_, Calm.ask acted (.note _ (.done true _)), ?_⟩
        intro entry member
        have different := legacyTarget_apart ready.apart entry member
        exact (cluster.get?_remove _ _).trans (if_neg different.symm)

theorem keys_report (reconciler : Reconciler) (ns : String) (layout : Layout)
    (cluster : Cluster) : (reconciler.report ns layout cluster).resources.keys =
      (reconciler.targets ns layout).map fun entry => entry.1.key := by
  have listed : (reconciler.report ns layout cluster).resources =
      (reconciler.targets ns layout).map fun entry => (entry.1.key, _) := rfl
  rw [listed, Table.keys, List.map_map]
  rfl

theorem get?_report {entry : Target × Mutation} (member : entry ∈ reconciler.targets ns layout)
    (cluster : Cluster) : (reconciler.report ns layout cluster).resources.get? entry.1.key =
      some (reconciler.upserter.verdict (reconciler.client.plan cluster entry)) := by
  have distinct : (reconciler.report ns layout cluster).resources.Distinct := by
    rw [Table.Distinct, keys_report]
    exact reconciler.nodup_keys ns layout
  exact distinct.get?_of_mem (List.mem_map.mpr ⟨entry, member, rfl⟩)

/-- A pass that nothing disturbs reports, sends and tells what is due at the start. -/
theorem Ready.calm (ready : reconciler.Ready ns layout cluster) :
    ∃ later, (reconciler.reconcile ns).Calm cluster (reconciler.report ns layout cluster)
      ((reconciler.targets ns layout).flatMap fun entry =>
        reconciler.upserter.sends entry.1 (reconciler.client.plan cluster entry))
      ((reconciler.targets ns layout).flatMap fun entry =>
        reconciler.upserter.tells entry.1 (reconciler.client.plan cluster entry)) later := by
  obtain ⟨between, prepared, same⟩ := ready.calm_prepare
  have wellFormed : ∀ entry ∈ reconciler.targets ns layout, ∀ stored,
      between.get? entry.1.objectKey = some stored → stored.WellFormed :=
    fun entry member stored held => ready.wellFormed _ stored (same entry member ▸ held)
  have due : ∀ entry ∈ reconciler.targets ns layout,
      reconciler.upserter.client.due entry.1 entry.2 (between.get? entry.1.objectKey) =
        .ok (reconciler.client.plan cluster entry) :=
    fun entry member => (same entry member).symm ▸ Client.due_eq_plan (ready.taken entry member)
  let start := { PassResult.start ns layout with
    legacyDeleted := (reconciler.report ns layout cluster).legacyDeleted }
  obtain ⟨later, brought⟩ := Upserter.calm_upsertAll (reconciler.managed_targets ns layout)
    (reconciler.distinct_targets ns layout) _ wellFormed due start
  rw [PassResult.bookEach_eq _ (reconciler.nodup_keys ns layout) start fun _ _ => rfl] at brought
  have finished : ((upsertAll reconciler.upserter start (reconciler.targets ns layout)).bind
      fun result => .done result.finish).Calm between (reconciler.report ns layout cluster) _ _
        later := brought.bind (.done _ later)
  have carried : (reconciler.carryOut ns layout).Calm cluster
      (reconciler.report ns layout cluster) _ _ later := Calm.note _ (prepared.bind finished)
  have whole := ready.calm_detect.bind carried
  refine ⟨later, ?_⟩
  rw [reconcile_eq]
  simpa [Log.Entry.isNews] using whole

theorem Ready.result_eq (ready : reconciler.Ready ns layout cluster) :
    ((reconciler.reconcile ns).run (.faultless cluster)).result =
      .ok (reconciler.report ns layout cluster) := by
  obtain ⟨later, events, ran, _⟩ := ready.calm
  rw [ran]

theorem Feasible.ready (feasible : Feasible reconciler ns layout cluster)
    (apart : reconciler.legacyName ≠ Wanted.dashboardName) :
    reconciler.Ready ns layout cluster where
  wellFormed := feasible.sound.wellFormed
  apart := apart
  found := feasible.found
  taken := fun _ member => feasible.taken _ (List.mem_append_right _ (List.mem_map_of_mem member))

end Reconciler
end Upkeep
