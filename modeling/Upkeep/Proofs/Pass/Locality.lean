import Upkeep.Proofs.Cluster.Numbering
import Upkeep.Proofs.Pass.Order
import Upkeep.Proofs.Pass.Sparing

/-! Passes for different namespaces. What a pass reads and what it writes lies in its own namespace,
so it does there what it would have done had another pass not been elsewhere before. The two orders
of two passes differ in nothing but the numbers that the one counter has given out. -/
namespace Upkeep
open Dialogue

/-! ### One dialogue on two clusters -/

/-- A dialogue, run on the clusters `a` and `b` where no call fails, asks the same of both and comes
to the same result; it leaves `c` and `d`. -/
def Dialogue.Twin {α : Type} (program : Dialogue α) (a b : Cluster) (result : Except Failure α)
    (c d : Cluster) : Prop :=
  ∃ one other, program.run (.faultless a) = ⟨result, .faultless c, one⟩ ∧
    program.run (.faultless b) = ⟨result, .faultless d, other⟩ ∧
    one.filterMap Event.request? = other.filterMap Event.request?

namespace Dialogue.Twin
variable {α β : Type} {a b c d e f : Cluster} {result : Except Failure α}

theorem done (value : α) (a b : Cluster) : (Dialogue.done value).Twin a b (.ok value) a b :=
  ⟨[], [], rfl, rfl, rfl⟩

theorem fail (failure : Failure) (a b : Cluster) :
    (Dialogue.fail failure : Dialogue α).Twin a b (.error failure) a b :=
  ⟨[], [], rfl, rfl, rfl⟩

theorem note {next : Dialogue α} (entry : Log.Entry) (twin : next.Twin a b result c d) :
    (Dialogue.note entry next).Twin a b result c d := by
  obtain ⟨one, other, left, right, same⟩ := twin
  refine ⟨.noted entry :: one, .noted entry :: other, ?_, ?_, same⟩
  · rw [run, left]
    rfl
  · rw [run, right]
    rfl

/-- The two may get different answers to a call if both then go on in the same way. -/
theorem ask {request : Request} {next : Except CallError Json → Dialogue α} (rest : Dialogue α)
    (left : next (a.perform request).1 = rest) (right : next (b.perform request).1 = rest)
    (twin : rest.Twin (a.perform request).2 (b.perform request).2 result c d) :
    (Dialogue.ask request next).Twin a b result c d := by
  obtain ⟨one, other, ranLeft, ranRight, same⟩ := twin
  refine ⟨.called request (a.perform request).1 :: one,
    .called request (b.perform request).1 :: other, ?_, ?_, ?_⟩
  · change ((next (a.perform request).1).run (.faultless (a.perform request).2)).after _ = _
    rw [left, ranLeft]
    rfl
  · change ((next (b.perform request).1).run (.faultless (b.perform request).2)).after _ = _
    rw [right, ranRight]
    rfl
  · simp [Event.request?, same]

theorem ask_same {request : Request} {next : Except CallError Json → Dialogue α}
    {reply : Except CallError Json} (left : a.perform request = (reply, c))
    (right : b.perform request = (reply, d)) (twin : (next reply).Twin c d result e f) :
    (Dialogue.ask request next).Twin a b result e f := by
  apply ask (next reply)
  · rw [left]
  · rw [right]
  · rwa [left, right]

theorem bind {program : Dialogue α} {rest : α → Dialogue β} {value : α} {final : Except Failure β}
    (first : program.Twin a b (.ok value) c d) (second : (rest value).Twin c d final e f) :
    (program.bind rest).Twin a b final e f := by
  obtain ⟨one, other, left, right, same⟩ := first
  obtain ⟨more, others, goesLeft, goesRight, alike⟩ := second
  refine ⟨one ++ more, other ++ others, ?_, ?_, ?_⟩
  · rw [run_bind, left]
    simp only [goesLeft]
  · rw [run_bind, right]
    simp only [goesRight]
  · rw [List.filterMap_append, List.filterMap_append, same, alike]

theorem bind_error {program : Dialogue α} {rest : α → Dialogue β} {failure : Failure}
    (first : program.Twin a b (.error failure) c d) :
    (program.bind rest).Twin a b (.error failure) c d := by
  obtain ⟨one, other, left, right, same⟩ := first
  refine ⟨one, other, ?_, ?_, same⟩
  · rw [run_bind, left]
  · rw [run_bind, right]

end Dialogue.Twin

/-- A dialogue touches these objects alone, and treats two clusters alike. -/
def Dialogue.Local {α : Type} (program : Dialogue α) (touched : ObjectKey → Prop) (a b : Cluster) :
    Prop :=
  ∃ result c d, program.Twin a b result c d ∧ Cluster.InStep touched a b c d

open Cluster (InStep)

namespace Dialogue.Local
variable {α β : Type} {touched more : ObjectKey → Prop} {a b : Cluster} {program : Dialogue α}

/-- What only talks touches nothing. -/
theorem of_twin {result : Except Failure α} (twin : program.Twin a b result a b)
    (agree : ∀ key, touched key → a.get? key = b.get? key) : program.Local touched a b :=
  ⟨result, a, b, twin, .none touched agree⟩

theorem note {next : Dialogue α} (entry : Log.Entry) (rest : next.Local touched a b) :
    (Dialogue.note entry next).Local touched a b := by
  obtain ⟨result, c, d, twin, inStep⟩ := rest
  exact ⟨result, c, d, twin.note entry, inStep⟩

theorem mono (here : program.Local touched a b) (included : ∀ key, touched key → more key)
    (agree : ∀ key, more key → ¬ touched key → a.get? key = b.get? key) :
    program.Local more a b := by
  obtain ⟨result, c, d, twin, inStep⟩ := here
  exact ⟨result, c, d, twin, inStep.mono included agree⟩

theorem bind {rest : α → Dialogue β} (first : program.Local touched a b)
    (agree : ∀ key, more key → a.get? key = b.get? key)
    (second : ∀ value c d, InStep touched a b c d → (rest value).Local more c d) :
    (program.bind rest).Local (fun key => touched key ∨ more key) a b := by
  obtain ⟨result, c, d, twin, inStep⟩ := first
  cases result with
  | error failure =>
    refine ⟨.error failure, c, d, twin.bind_error, inStep.mono (fun key => Or.inl) ?_⟩
    exact fun key member free => agree key (member.resolve_left free)
  | ok value =>
    obtain ⟨final, e, f, goesOn, moved⟩ := second value c d inStep
    exact ⟨final, e, f, twin.bind goesOn, inStep.trans moved⟩

theorem map (f : α → β) (here : program.Local touched a b) :
    (program.bind fun value => .done (f value)).Local touched a b := by
  obtain ⟨result, c, d, twin, inStep⟩ := here
  cases result with
  | error failure => exact ⟨_, c, d, twin.bind_error, inStep⟩
  | ok value => exact ⟨_, c, d, twin.bind (.done (f value) c d), inStep⟩

end Dialogue.Local

/-! ### Reads and writes -/

section
variable {α : Type} {a b : Cluster} {client : Client} {target : Target}

/-- Where the same is held, a read is answered alike and changes nothing. -/
theorem Dialogue.Local.read {touched : ObjectKey → Prop}
    {next : Except CallError Json → Dialogue α}
    (agree : a.get? target.objectKey = b.get? target.objectKey)
    (rest : (next (a.perform (client.request target .get)).1).Local touched a b) :
    (Dialogue.ask (client.request target .get) next).Local touched a b := by
  obtain ⟨result, c, d, twin, inStep⟩ := rest
  have stays : ∀ cluster : Cluster, (cluster.perform (client.request target .get)).2 = cluster := by
    intro cluster
    rw [Cluster.perform_get]
  have alike : (b.perform (client.request target .get)).1 =
      (a.perform (client.request target .get)).1 := by
    rw [Cluster.perform_get, Cluster.perform_get, agree]
  refine ⟨result, c, d, Twin.ask _ rfl (congrArg next alike) ?_, inStep⟩
  rwa [stays, stays]

theorem Course.viewed_twin {after : Dialogue α} (client : Client) (kind : Kind) (stored : Json)
    (rest : ∀ c d, ∃ result, after.Twin c d result c d) (c d : Cluster) :
    ∃ result, ((Dialogue.ofExcept (client.view kind stored)).bind fun _ => after).Twin
      c d result c d := by
  cases client.view kind stored with
  | error bad => exact ⟨_, .fail (.malformed bad) c d⟩
  | ok read => exact rest c d

theorem Course.viewed_eq {stored : Json} (described : Object.HasMetadata stored) (client : Client)
    (kind : Kind) (after : Dialogue α) :
    ((Dialogue.ofExcept (client.view kind stored)).bind fun _ => after) = after := by
  obtain ⟨_, seen, _⟩ := client.view_of_metadata kind described.get?_eq
  rw [seen]
  rfl

/-- A write touches its object; what follows does not depend on the number that it was given. -/
theorem Course.written_local {action : Action} {after : Dialogue α}
    (agree : a.get? target.objectKey = b.get? target.objectKey)
    (rest : ∀ c d, ∃ result, after.Twin c d result c d) :
    (Course.written client target action after).Local (· = target.objectKey) a b := by
  obtain ⟨replied, inStep⟩ := Cluster.act_inStep agree action
  have performed := fun cluster : Cluster => cluster.perform_request client target action
  rw [← performed, ← performed] at replied inStep
  generalize left : (a.perform (client.request target action)).1 = one at replied
  generalize right : (b.perform (client.request target action)).1 = other at replied
  rw [written]
  cases replied with
  | same =>
    cases one with
    | error error =>
      refine ⟨_, _, _, Twin.ask _ ?_ ?_ (.fail (Failure.tagged .writing target (.call error)) _ _),
        inStep⟩
      · rw [left]
      · rw [right]
    | ok stored =>
      obtain ⟨result, goesOn⟩ := viewed_twin client target.kind stored rest _ _
      refine ⟨result, _, _, Twin.ask _ ?_ ?_ goesOn, inStep⟩
      · rw [left]
      · rw [right]
  | stored first second =>
    -- the replies differ in their numbers, but both can be viewed, and that is all they are used for
    obtain ⟨result, goesOn⟩ := rest _ _
    refine ⟨result, _, _, Twin.ask after ?_ ?_ goesOn, inStep⟩
    · rw [left]
      exact viewed_eq first client target.kind after
    · rw [right]
      exact viewed_eq second client target.kind after

theorem Upserter.twin_tellPatch (level : Log.Level) (front : String) (change : Json)
    (status : Status) (c d : Cluster) :
    ∃ result, ((tellPatch level front change).bind fun _ => .done status).Twin c d result c d := by
  rw [tellPatch]
  cases change.text with
  | ok text => exact ⟨_, .note _ (.done _ _ _)⟩
  | error bad => exact ⟨_, .fail _ _ _⟩

theorem Course.twin_told (target : Target) (action : Action) (c d : Cluster) :
    ∃ result, (Course.told target action).Twin c d result c d := by
  cases action with
  | create object => exact ⟨_, .note _ (.done _ _ _)⟩
  | patch change =>
    obtain ⟨result, twin⟩ := Upserter.twin_tellPatch .debug ("Patch for " ++ target.key ++ ": ")
      change .patched c d
    exact ⟨result, .note _ twin⟩
  | get | delete => exact ⟨_, .done _ _ _⟩

/-! ### Bringing a target up to date -/

namespace Upserter
variable {upserter : Upserter} {mutation : Mutation} {field : String} {value : Json}

theorem twin_announce (target : Target) (due : Except Malformed (Option Action)) (c d : Cluster) :
    ∃ result, (announce target due).Twin c d result c d := by
  cases due with
  | error bad => exact ⟨_, .fail _ _ _⟩
  | ok action =>
    cases action with
    | none => exact ⟨_, .note _ (.done _ _ _)⟩
    | some action =>
      cases action with
      | patch change => exact twin_tellPatch _ _ change _ c d
      | get | create | delete => exact ⟨_, .note _ (.done _ _ _)⟩

/-- What follows the read touches the object of the target alone. -/
theorem proceed_local (agree : a.get? target.objectKey = b.get? target.objectKey)
    (due : Except Malformed (Option Action)) :
    (upserter.proceed target due).Local (· = target.objectKey) a b := by
  have here : ∀ key, key = target.objectKey → a.get? key = b.get? key := fun _ same => same ▸ agree
  rw [proceed]
  split
  · obtain ⟨result, twin⟩ := twin_announce target due a b
    exact .of_twin twin here
  · cases due with
    | error bad => exact .of_twin (.fail _ a b) here
    | ok action =>
      cases action with
      | none => exact .of_twin (.note _ (.done _ a b)) here
      | some action => exact Course.written_local agree (Course.twin_told target action)

theorem upsert_local (upserter : Upserter) (manages : target.Manages mutation field value)
    (agree : a.get? target.objectKey = b.get? target.objectKey) :
    (upserter.upsert target mutation.apply).Local (· = target.objectKey) a b := by
  rw [upsert_eq manages]
  apply Local.read agree
  rw [Cluster.perform_get]
  cases a.get? target.objectKey with
  | some stored => exact proceed_local agree _
  | none => exact .note _ (proceed_local agree _)

theorem upsertAll_local (upserter : Upserter) {targets : List (Target × Mutation)}
    (managed : Managed targets) (distinct : (targets.map fun target => target.1.objectKey).Nodup)
    (agree : ∀ target ∈ targets, a.get? target.1.objectKey = b.get? target.1.objectKey)
    (before : PassResult) :
    (Reconciler.upsertAll upserter before targets).Local
      (fun key => ∃ target ∈ targets, target.1.objectKey = key) a b := by
  induction targets generalizing a b before with
  | nil => exact .of_twin (.done before a b) (by simp)
  | cons entry rest ih =>
    obtain ⟨target, mutation⟩ := entry
    obtain ⟨⟨value, manages⟩, others⟩ := managed.of_cons
    have apart := apart_of_nodup distinct
    have later : ∀ key, (∃ other ∈ rest, other.1.objectKey = key) → a.get? key = b.get? key := by
      rintro key ⟨other, member, rfl⟩
      exact agree other (List.mem_cons_of_mem _ member)
    have first := upsert_local upserter manages (agree _ List.mem_cons_self)
    have both := first.bind later fun status c d inStep =>
      ih others (List.nodup_cons.mp distinct).2 (fun other member => ?_) (before.book target status)
    · refine both.mono ?_ ?_
      · rintro key (rfl | ⟨other, member, same⟩)
        · exact ⟨_, List.mem_cons_self, rfl⟩
        · exact ⟨other, List.mem_cons_of_mem _ member, same⟩
      · rintro key ⟨other, member, rfl⟩ _
        exact agree other member
    · rw [inStep.left _ (apart other member), inStep.right _ (apart other member)]
      exact agree other (List.mem_cons_of_mem _ member)

end Upserter

/-! ### The pass -/

theorem Detector.detect_local (detector : Detector) (client : Client) (ns : String)
    (agree : ∀ key : ObjectKey, key.ns = .text ns → a.get? key = b.get? key) :
    (detector.detect client ns).Local (fun _ => False) a b := by
  cases detector with
  | fixed layout => exact .of_twin (.done layout a b) (by simp)
  | sentinel name =>
    have read := Client.read_eq client (sentinelTarget name ns)
      (Failure.tagged .reading (sentinelTarget name ns)) fun found =>
        .note (sentinelEntry (sentinelTarget name ns) (layoutOf found)) (.done (layoutOf found))
    change (((client.get (sentinelTarget name ns)).mapFailure _).bind _).Local _ a b
    rw [read]
    apply Local.read (agree (sentinelTarget name ns).objectKey rfl)
    rw [Cluster.perform_get]
    cases a.get? (sentinelTarget name ns).objectKey with
    | none => exact .note _ (.of_twin (.note _ (.done _ a b)) (by simp))
    | some stored =>
      dsimp only
      cases client.received (sentinelTarget name ns).kind stored with
      | error bad => exact .of_twin (.fail _ a b) (by simp)
      | ok read => exact .of_twin (.note _ (.done _ a b)) (by simp)

namespace Reconciler
variable {reconciler : Reconciler} {ns : String}

/-- The deletion touches the legacy object alone, and what was held by both still is. -/
theorem cleanup_twin (live : reconciler.dryRun = false)
    (agree : a.get? (reconciler.legacyTarget ns).objectKey =
      b.get? (reconciler.legacyTarget ns).objectKey) :
    ∃ deleted c d, (reconciler.cleanup ns).Twin a b (.ok deleted) c d ∧
      InStep (· = (reconciler.legacyTarget ns).objectKey) a b c d ∧
      ∀ key, a.get? key = b.get? key → c.get? key = d.get? key := by
  have performed := fun cluster : Cluster =>
    cluster.perform_request reconciler.client (reconciler.legacyTarget ns) .delete
  have told : ∀ deleted c d, (Dialogue.note (cleanupEntry (reconciler.legacyTarget ns) deleted)
      (.done deleted)).Twin c d (.ok deleted) c d :=
    fun deleted c d => .note _ (.done deleted c d)
  have inStep := (Cluster.act_inStep agree .delete).2
  rw [Course.cleanup_eq live]
  cases held : a.get? (reconciler.legacyTarget ns).objectKey with
  | none =>
    have left := (performed a).trans (Cluster.act_delete_of_absent held)
    have right := (performed b).trans (Cluster.act_delete_of_absent (agree ▸ held))
    rw [← performed, ← performed, left, right] at inStep
    exact ⟨false, a, b, .ask_same left right (told false a b), inStep, fun _ same => same⟩
  | some stored =>
    have left := (performed a).trans (Cluster.act_delete_of_held held)
    have right := (performed b).trans (Cluster.act_delete_of_held (agree ▸ held))
    rw [← performed, ← performed, left, right] at inStep
    refine ⟨true, _, _, .ask_same left right (told true _ _), inStep, ?_⟩
    intro key same
    rw [Cluster.get?_remove, Cluster.get?_remove, same]

/-- What comes first touches at most the legacy object. -/
theorem prepare_twin (reconciler : Reconciler) (ns : String) (layout : Layout)
    (agree : a.get? (reconciler.legacyTarget ns).objectKey =
      b.get? (reconciler.legacyTarget ns).objectKey) :
    ∃ deleted c d, (reconciler.prepare ns layout).Twin a b (.ok deleted) c d ∧
      InStep (· = (reconciler.legacyTarget ns).objectKey) a b c d ∧
      ∀ key, a.get? key = b.get? key → c.get? key = d.get? key := by
  have idle : InStep (· = (reconciler.legacyTarget ns).objectKey) a b a b :=
    .none _ fun _ same => same ▸ agree
  cases layout with
  | legacy => exact ⟨false, a, b, .done false a b, idle, fun _ same => same⟩
  | modern =>
    rw [prepare]
    cases live : reconciler.dryRun with
    | true =>
      rw [cleanup, live]
      exact ⟨false, a, b, .note _ (.done false a b), idle, fun _ same => same⟩
    | false => exact cleanup_twin live agree

theorem carryOut_local (reconciler : Reconciler) (ns : String) (layout : Layout)
    (agree : ∀ key : ObjectKey, key.ns = .text ns → a.get? key = b.get? key) :
    (reconciler.carryOut ns layout).Local (fun key => key.ns = .text ns) a b := by
  obtain ⟨deleted, c, d, prepared, cleared, kept⟩ :=
    reconciler.prepare_twin ns layout (agree (reconciler.legacyTarget ns).objectKey rfl)
  have targeted : ∀ key, (∃ target ∈ reconciler.targets ns layout, target.1.objectKey = key) →
      key.ns = .text ns := by
    rintro key ⟨target, member, rfl⟩
    exact congrArg Name.text (ns_of_mem_targets member)
  have brought := Upserter.upsertAll_local reconciler.upserter
    (reconciler.managed_targets ns layout) (reconciler.distinct_targets ns layout)
    (fun target member => kept _ (agree _ (targeted _ ⟨target, member, rfl⟩)))
    { PassResult.start ns layout with legacyDeleted := deleted }
  obtain ⟨result, e, f, finished, moved⟩ := brought.map PassResult.finish
  refine Local.note _ ⟨result, e, f, prepared.bind finished, (cleared.trans moved).mono ?_ ?_⟩
  · rintro key (rfl | member)
    · rfl
    · exact targeted key member
  · exact fun key here _ => agree key here

/-- Where two clusters hold the same in a namespace, a pass over it does the same in both, and
touches nothing else. -/
theorem reconcile_local (reconciler : Reconciler) (ns : String)
    (agree : ∀ key : ObjectKey, key.ns = .text ns → a.get? key = b.get? key) :
    (reconciler.reconcile ns).Local (fun key => key.ns = .text ns) a b := by
  rw [reconcile_eq]
  have found := reconciler.detector.detect_local reconciler.client ns agree
  refine (found.bind agree fun layout c d inStep =>
    carryOut_local reconciler ns layout ?_).mono ?_ ?_
  · intro key here
    rw [inStep.left key not_false, inStep.right key not_false]
    exact agree key here
  · exact fun key here => here.resolve_left not_false
  · exact fun key here _ => agree key here

end Reconciler
end
end Upkeep
