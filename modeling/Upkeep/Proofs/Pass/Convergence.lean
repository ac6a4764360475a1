import Upkeep.Proofs.Pass.Alone

/-! Where passes lead. A pass that ends well leaves the objects of its layout as they are wanted,
and a pass after it finds nothing to do. Passes that end early lose nothing: the next one takes up
the course where they left it, and in the end all of them together have written what one would
have. -/
namespace Upkeep

/-- Runs a dialogue once for each list of faults, each time on what the time before has left. -/
def Dialogue.runEach {α : Type} (d : Dialogue α) (cluster : Cluster) :
    List (List Fault) → Cluster × List Event
  | [] => (cluster, [])
  | faults :: rest =>
    let outcome := d.run ⟨cluster, faults⟩
    let later := d.runEach outcome.server.cluster rest
    (later.1, outcome.events ++ later.2)

/-- The member that is written has no key that was not written. -/
def Mutation.Whole (mutation : Mutation) (object : Json) : Prop :=
  ∀ field ∈ mutation.fields, ∃ held, object.get? field.1 = some held ∧
    ∀ key, (held.get? key).isSome = (field.2.get? key).isSome

theorem Mutation.Writes.whole_of_met {mutation : Mutation} {field : String} {value object : Json}
    (writes : mutation.Writes field value) (wellFormed : object.WellFormed)
    (met : mutation.Met object) : mutation.Whole object := by
  intro entry member
  have here : entry = (field, value) := by simpa [writes.fields] using member
  obtain ⟨_, held, found, worth⟩ := (writes.met_iff object).mp met
  rw [here]
  exact ⟨held, found, Json.isSome_get?_of_same (wellFormed.get? found) writes.wellFormed worth⟩

/-- An object that is settled is there, with all that is wanted and nothing else in its place. -/
theorem Step.whole_of_settled {target : Target} {mutation : Mutation} {action : Option Action}
    {held : Option Json} (managed : (bring target mutation).Managed)
    (settled : (bring target mutation).Settled action held) :
    ∃ object, held = some object ∧ mutation.Met object ∧ mutation.Whole object := by
  obtain ⟨field, value, manages⟩ := managed
  obtain ⟨object, stored, good, met, _⟩ := settled
  exact ⟨object, stored, met, manages.whole_of_met good met⟩

namespace Wanted

/-- Keys in messages begin with the kind. -/
theorem head_key (target : Target) :
    target.key.toList.head? = target.kind.name.toList.head? := by
  obtain ⟨kind, name, ns⟩ := target
  cases kind <;> simp [Target.key, Kind.name]

theorem key_ne_of_kind {a b : Target}
    (different : a.kind.name.toList.head? ≠ b.kind.name.toList.head?) : a.key ≠ b.key := by
  intro same
  rw [← head_key, ← head_key, same] at different
  exact different rfl

end Wanted

namespace PassResult

/-- The result with these targets booked, each with its status. -/
def bookEach (result : PassResult) (status : Target × Mutation → Status)
    (targets : List (Target × Mutation)) : PassResult :=
  targets.foldl (fun result entry => result.book entry.1 (status entry)) result

/-- Targets with different keys in messages are booked one after another. -/
theorem bookEach_eq (status : Target × Mutation → Status) {targets : List (Target × Mutation)}
    (distinct : (targets.map fun entry => entry.1.key).Nodup) (result : PassResult)
    (fresh : ∀ entry ∈ targets, result.resources.get? entry.1.key = none) :
    result.bookEach status targets = { result with
      resources := result.resources ++ targets.map fun entry => (entry.1.key, status entry) } := by
  induction targets generalizing result with
  | nil => simp [bookEach]
  | cons entry rest ih =>
    obtain ⟨new, others⟩ := List.nodup_cons.mp distinct
    have first := fresh entry List.mem_cons_self
    have booked : (result.book entry.1 (status entry)).resources =
        result.resources ++ [(entry.1.key, status entry)] := Table.insert_of_absent _ _ first
    have later := ih others (result.book entry.1 (status entry)) (by
      intro other member
      rw [booked, Table.get?_append, fresh other (List.mem_cons_of_mem _ member), Option.none_or]
      have different : entry.1.key ≠ other.1.key :=
        fun same => new (List.mem_map.mpr ⟨other, member, same.symm⟩)
      simp [Table.get?, different])
    rw [bookEach, List.foldl_cons]
    rw [bookEach] at later
    rw [later, booked, book]
    simp

end PassResult

/-- Runs one after another, each from wherever the course has come, move it on and on. -/
theorem Course.Tracks.runEach {course : Course} {α : Type} {post : Nat → α → Standing → Prop}
    {d : Dialogue α} (tracks : ∀ stage, course.Tracks (post stage) d ⟨0, stage, []⟩)
    {failing : List (List Fault)} (honest : ∀ faults ∈ failing, Fault.Honest faults)
    (stage : Nat) :
    ∃ later, (d.runEach (course.stage stage) failing).1 = course.stage later ∧
      course.sent later =
        course.sent stage ++ Event.writes (d.runEach (course.stage stage) failing).2 := by
  induction failing generalizing stage with
  | nil => exact ⟨stage, rfl, (List.append_nil _).symm⟩
  | cons faults rest ih =>
    obtain ⟨reached, ran⟩ := (tracks stage).run (honest faults (List.mem_cons_self ..))
    obtain ⟨later, left, sent⟩ :=
      ih (fun other member => honest other (List.mem_cons_of_mem _ member)) reached
    refine ⟨later, ?_, ?_⟩
    · simp only [Dialogue.runEach, ran.cluster]
      exact left
    · simp only [Dialogue.runEach, ran.cluster, Event.writes_append]
      rw [sent, ran.sent, List.append_assoc]

namespace Reconciler
variable {reconciler : Reconciler} {ns : String} {layout : Layout} {start : Cluster}

theorem nodup_keys (reconciler : Reconciler) (ns : String) (layout : Layout) :
    ((reconciler.targets ns layout).map fun entry => entry.1.key).Nodup := by
  cases layout with
  | legacy => exact List.nodup_singleton _
  | modern =>
    have one : (Wanted.dashboardTarget ns).key ≠ (Wanted.alertTarget ns).key :=
      Wanted.key_ne_of_kind (by simp [Wanted.dashboardTarget, Wanted.alertTarget, Kind.name])
    have two : (Wanted.dashboardTarget ns).key ≠ (Wanted.scrapeTarget ns).key :=
      Wanted.key_ne_of_kind (by simp [Wanted.dashboardTarget, Wanted.scrapeTarget, Kind.name])
    have three : (Wanted.alertTarget ns).key ≠ (Wanted.scrapeTarget ns).key :=
      Wanted.key_ne_of_kind (by simp [Wanted.alertTarget, Wanted.scrapeTarget, Kind.name])
    simp [targets, Wanted.modernTargets, one, two, three]

theorem idleResult_resources (client : Client) (documents : Wanted.Documents)
    (detector : Detector) (ns : String) (layout : Layout) :
    ((live client documents detector).idleResult ns layout).resources =
      ((live client documents detector).targets ns layout).map
        fun target => (target.1.key, .unchanged) := by
  have booked := PassResult.bookEach_eq (fun _ => .unchanged)
    ((live client documents detector).nodup_keys ns layout) (.start ns layout) fun _ _ => rfl
  exact congrArg PassResult.resources booked

theorem idleResult_fields (client : Client) (documents : Wanted.Documents) (detector : Detector)
    (ns : String) (layout : Layout) :
    ((live client documents detector).idleResult ns layout).layout = layout ∧
      ((live client documents detector).idleResult ns layout).legacyDeleted = false ∧
      ((live client documents detector).idleResult ns layout).changed = false := by
  have kept : ((live client documents detector).idleResult ns layout).legacyDeleted = false := by
    cases layout <;> rfl
  refine ⟨by cases layout <;> rfl, kept, ?_⟩
  rw [PassResult.changed, kept, idleResult_resources]
  simp

namespace Feasible

theorem reached (feasible : Feasible reconciler ns layout start) {target : Target × Mutation}
    (wanted : target ∈ reconciler.targets ns layout) :
    ∃ object, ((reconciler.course ns layout start).stage
        (reconciler.course ns layout start).steps.length).get? target.1.objectKey = some object ∧
      target.2.Met object ∧ target.2.Whole object := by
  have member : Step.bring target.1 target.2 ∈ (reconciler.course ns layout start).steps :=
    List.mem_append_right _ (List.mem_map_of_mem wanted)
  obtain ⟨action, due⟩ := feasible.taken _ member
  exact Step.whole_of_settled (feasible.sound.managed _ member)
    (feasible.sound.settled_end member due)

theorem removed (feasible : Feasible reconciler ns .modern start) :
    ((reconciler.course ns .modern start).stage
      (reconciler.course ns .modern start).steps.length).get?
        (reconciler.legacyTarget ns).objectKey = none := by
  have member : Step.remove (reconciler.legacyTarget ns) ∈
      (reconciler.course ns .modern start).steps :=
    List.mem_append_left _ (List.mem_singleton_self _)
  obtain ⟨action, due⟩ := feasible.taken _ member
  exact feasible.sound.settled_end member due

end Feasible

/-- In the legacy layout no step concerns a modern object. -/
theorem get?_stage_legacy (client : Client) (documents : Wanted.Documents) (detector : Detector)
    {target : Target × Mutation} (wanted : target ∈ Wanted.modernTargets documents ns) (n : Nat) :
    (((live client documents detector).course ns .legacy start).stage n).get? target.1.objectKey =
      start.get? target.1.objectKey := by
  apply Course.get?_stage_of_free
  intro j step _ there same
  have only : step = .bring (Wanted.aggregatedTarget ns) (Wanted.aggregatedMutation documents) :=
    List.mem_singleton.mp (List.mem_of_getElem? there)
  have apart : (Wanted.aggregatedTarget ns).objectKey ∉
      (Wanted.modernTargets documents ns).map fun target => target.1.objectKey :=
    (List.nodup_cons.mp (Wanted.distinct_keys client documents detector ns .modern)).1
  rw [only] at same
  exact apart (List.mem_map.mpr ⟨target, wanted, same.symm⟩)

end Reconciler

/-! ### Results -/

/-- A cluster that nobody has looked after: labels and members are missing or have any form. -/
def Cluster.neglected : Cluster where
  objects :=
    [ ((Wanted.aggregatedTarget "shoot").objectKey, .obj [("data", .null)])
    , ((Wanted.dashboardTarget "shoot").objectKey, .obj
        [ ("metadata", .obj [("labels", .null), ("owner", .str "team")])
        , ("data", .obj [("old", .null), (Wanted.Key.dashboard, .int 1)]) ])
    , ((Wanted.alertTarget "shoot").objectKey, .obj
        [ ("metadata", .obj [("labels", .obj [("component", .bool true)])])
        , ("spec", .arr []) ]) ]
  counter := 7

theorem Cluster.wellFormed_neglected : neglected.WellFormed := by
  intro key object held
  have member := Table.mem_of_get? held
  simp only [neglected, List.mem_cons, Prod.mk.injEq, List.not_mem_nil, or_false] at member
  rcases member with ⟨_, rfl⟩ | ⟨_, rfl⟩ | ⟨_, rfl⟩ <;>
    simp [Json.WellFormed, Json.WellFormedMembers, Json.WellFormedItems, Table.Distinct, Table.keys,
      Wanted.Key.dashboard]

/-- A client that reads objects as they are stored. -/
def Client.plain : Client := .untyped none

def Wanted.Documents.brief : Documents := ⟨"groups", "panels", "jobs"⟩

/-- What a pass over the neglected cluster reports. -/
def PassResult.repaired : PassResult where
  ns := "shoot"
  layout := .modern
  legacyDeleted := true
  resources :=
    [ ("ConfigMap shoot/registry-cache-dashboards", .patched)
    , ("PrometheusRule shoot/shoot-registry-cache", .patched)
    , ("ScrapeConfig shoot/shoot-registry-cache", .created) ]
  finished := true

theorem Reconciler.ended_neglected :
    (((live .plain .brief (.sentinel Wanted.sentinelName)).reconcile "shoot").run
      (.faultless .neglected)).result = .ok .repaired := by
  decide +kernel

section
variable (client : Client) (documents : Wanted.Documents) (detector : Detector) (ns : String)
  {cluster : Cluster} {result : PassResult}

/-- A pass after one that ended well, on the cluster that it left, has nothing to do: it reports the
same layout and every target of it as unchanged, tries to write nothing but to delete a legacy
object that is not there, and leaves the cluster as it was. -/
theorem Reconciler.reconcile_idempotent (wellFormed : cluster.WellFormed)
    (ended : (((live client documents detector).reconcile ns).run (.faultless cluster)).result =
      .ok result) :
    let pass := (live client documents detector).reconcile ns
    let first := pass.run (.faultless cluster)
    let second := pass.run (.faultless first.server.cluster)
    (∃ again, second.result = .ok again ∧ again.layout = result.layout ∧
      again.legacyDeleted = false ∧
      again.resources = ((live client documents detector).targets ns result.layout).map
        (fun target => (target.1.key, .unchanged)) ∧ again.changed = false) ∧
    Event.attempts second.events =
      (match result.layout with
        | .legacy => []
        | .modern =>
          [(client.request (Wanted.aggregatedTarget ns) .delete, .error .notFound)]) ∧
    second.server.cluster = first.server.cluster := by
  have feasible := feasible_of_ok rfl
    (fun layout => sound_course client documents detector ns layout wellFormed) ended
  obtain ⟨once, first⟩ := feasible.resumed 0
  obtain ⟨again, second⟩ := feasible.resumed
    ((live client documents detector).course ns result.layout cluster).steps.length
  obtain ⟨same, attempted⟩ := second.idle (Nat.le_refl _)
  intro pass before after
  have left : before.server.cluster =
      ((live client documents detector).course ns result.layout cluster).stage
        ((live client documents detector).course ns result.layout cluster).steps.length :=
    first.cluster
  have run : after = pass.run (.faultless _) :=
    congrArg (fun left => pass.run (.faultless left)) left
  rw [run, left]
  obtain ⟨sameLayout, nothingDeleted, nothingChanged⟩ :=
    idleResult_fields client documents detector ns result.layout
  rw [← same] at sameLayout nothingDeleted nothingChanged
  refine ⟨⟨again, second.ended, sameLayout, nothingDeleted, ?_, nothingChanged⟩, ?_,
    second.cluster⟩
  · rw [same, idleResult_resources]
  · rw [attempted]
    cases result.layout <;> rfl

theorem Reconciler.reconcile_idempotent_neglected :
    let pass := (live .plain .brief (.sentinel Wanted.sentinelName)).reconcile "shoot"
    let first := pass.run (.faultless .neglected)
    let second := pass.run (.faultless first.server.cluster)
    Cluster.neglected.WellFormed ∧ first.result = .ok .repaired ∧
      (∃ again, second.result = .ok again ∧ again.changed = false) ∧
      second.server.cluster = first.server.cluster := by
  obtain ⟨⟨again, ended, _, _, _, quiet⟩, _, same⟩ :=
    reconcile_idempotent .plain .brief _ "shoot" Cluster.wellFormed_neglected ended_neglected
  exact ⟨Cluster.wellFormed_neglected, ended_neglected, ⟨again, ended, quiet⟩, same⟩

/-- After a pass that ended well the objects of its layout are as they are wanted. In the modern
layout the legacy object is gone; in the legacy layout the modern objects are as they were. -/
theorem Reconciler.reconcile_desired (wellFormed : cluster.WellFormed)
    (ended : (((live client documents detector).reconcile ns).run (.faultless cluster)).result =
      .ok result) :
    let final :=
      (((live client documents detector).reconcile ns).run (.faultless cluster)).server.cluster
    match result.layout with
    | .modern =>
      final.get? (Wanted.aggregatedTarget ns).objectKey = none ∧
        ∀ target ∈ Wanted.modernTargets documents ns, ∃ object,
          final.get? target.1.objectKey = some object ∧ target.2.Met object ∧
            target.2.Whole object
    | .legacy =>
      (∃ object, final.get? (Wanted.aggregatedTarget ns).objectKey = some object ∧
        (Wanted.aggregatedMutation documents).Met object ∧
          (Wanted.aggregatedMutation documents).Whole object) ∧
      ∀ target ∈ Wanted.modernTargets documents ns,
        final.get? target.1.objectKey = cluster.get? target.1.objectKey := by
  have feasible := feasible_of_ok rfl
    (fun layout => sound_course client documents detector ns layout wellFormed) ended
  obtain ⟨once, first⟩ := feasible.resumed 0
  intro final
  have left : final = ((live client documents detector).course ns result.layout cluster).stage
      ((live client documents detector).course ns result.layout cluster).steps.length :=
    first.cluster
  rw [left]
  cases shape : result.layout with
  | modern =>
    rw [shape] at feasible
    exact ⟨feasible.removed, fun target wanted => feasible.reached wanted⟩
  | legacy =>
    rw [shape] at feasible
    constructor
    · exact feasible.reached (List.mem_singleton_self _)
    · intro target wanted
      exact get?_stage_legacy client documents detector wanted _

theorem Reconciler.reconcile_desired_neglected :
    let outcome := ((live .plain .brief (.sentinel Wanted.sentinelName)).reconcile "shoot").run
      (.faultless .neglected)
    let final := outcome.server.cluster
    Cluster.neglected.WellFormed ∧ outcome.result = .ok .repaired ∧
      final.get? (Wanted.aggregatedTarget "shoot").objectKey = none ∧
      ∃ object, final.get? (Wanted.scrapeTarget "shoot").objectKey = some object ∧
        Wanted.scrapeMutation.Met object := by
  obtain ⟨gone, reached⟩ :=
    reconcile_desired .plain .brief _ "shoot" Cluster.wellFormed_neglected ended_neglected
  obtain ⟨object, held, met, _⟩ :=
    reached (Wanted.scrapeTarget "shoot", Wanted.scrapeMutation) (by simp [Wanted.modernTargets])
  exact ⟨Cluster.wellFormed_neglected, ended_neglected, gone, object, held, met⟩

/-- However many passes fail before, whichever calls fail in them, a pass that nothing disturbs ends
well and leaves the cluster as a single pass would have left it; and all of them together have
written what the single pass would have written, in the same order. -/
theorem Reconciler.reconcile_retried (wellFormed : cluster.WellFormed)
    (ended : (((live client documents detector).reconcile ns).run (.faultless cluster)).result =
      .ok result)
    (failing : List (List Fault)) (honest : ∀ faults ∈ failing, Fault.Honest faults) :
    let pass := (live client documents detector).reconcile ns
    let single := pass.run (.faultless cluster)
    let failed := pass.runEach cluster failing
    let last := pass.run (.faultless failed.1)
    (∃ again, last.result = .ok again) ∧ last.server.cluster = single.server.cluster ∧
      Event.writes (failed.2 ++ last.events) = Event.writes single.events := by
  have feasible := feasible_of_ok rfl
    (fun layout => sound_course client documents detector ns layout wellFormed) ended
  obtain ⟨once, first⟩ := feasible.resumed 0
  obtain ⟨later, left, sent⟩ := Course.Tracks.runEach feasible.tracks honest 0
  obtain ⟨again, second⟩ := feasible.resumed later
  intro pass single failed last
  have run : last = pass.run (.faultless _) :=
    congrArg (fun left => pass.run (.faultless left)) left
  rw [run]
  refine ⟨⟨again, second.ended⟩, second.cluster.trans first.cluster.symm, ?_⟩
  have whole := first.sent.symm.trans second.sent
  rw [sent, List.append_assoc, ← Event.writes_append] at whole
  exact whole.symm

/-- Three passes that fail at a patch, at a read and at a creation. -/
def Fault.disturbances : List (List Fault) :=
  [ [⟨.patch, .prometheusRule, .api (some 500) none, 0, none⟩]
  , [⟨.get, .configMap, .transport "Timeout" "", 0, some 1⟩]
  , [⟨.create, .scrapeConfig, .interrupt, 0, none⟩] ]

theorem Fault.honest_disturbances : ∀ faults ∈ disturbances, Honest faults := by
  simp [disturbances, Honest, CallError.isNotFound]

theorem Reconciler.reconcile_retried_neglected :
    Cluster.neglected.WellFormed ∧ (∀ faults ∈ Fault.disturbances, Fault.Honest faults) ∧
      let pass := (live .plain .brief (.sentinel Wanted.sentinelName)).reconcile "shoot"
      let single := pass.run (.faultless .neglected)
      let failed := pass.runEach .neglected Fault.disturbances
      let last := pass.run (.faultless failed.1)
      (∃ again, last.result = .ok again) ∧ last.server.cluster = single.server.cluster ∧
        Event.writes (failed.2 ++ last.events) = Event.writes single.events :=
  ⟨Cluster.wellFormed_neglected, Fault.honest_disturbances,
    reconcile_retried .plain .brief _ "shoot" Cluster.wellFormed_neglected ended_neglected
      Fault.disturbances Fault.honest_disturbances⟩

end
end Upkeep
