import Upkeep.Proofs.Pass.Blame

/-! The order of the calls of a pass. The sentinel is read first. Then each target of the layout has
its turn: it is read and at most once written, created where there was nothing and patched where
there was something. In the modern layout the legacy object is deleted before. A call that breaks
the pass is the last one. -/
namespace Upkeep
open Dialogue

variable {client : Client} {target : Target} {cluster later : Cluster} {calls : List Exchange}

/-- The calls of one target. -/
inductive Client.Turn (client : Client) (target : Target) : List Exchange → Prop
  | read (reply : Except CallError Json) : Turn client target [⟨client.request target .get, reply⟩]
  | created {error : CallError} (absent : error.isNotFound = true) (object : Json)
      (answer : Except CallError Json) :
      Turn client target [⟨client.request target .get, .error error⟩,
        ⟨client.request target (.create object), answer⟩]
  | patched (stored : Json) (change : Table String Json) (answer : Except CallError Json) :
      Turn client target [⟨client.request target .get, .ok stored⟩,
        ⟨client.request target (.patch (.obj change)), answer⟩]

/-- The calls of targets that have their turns in order. -/
inductive Client.Turns (client : Client) : List Target → List Exchange → Prop
  | nil : Turns client [] []
  | cons {target : Target} {targets : List Target} {first rest : List Exchange}
      (turn : client.Turn target first) (turns : Turns client targets rest) :
      Turns client (target :: targets) (first ++ rest)

namespace Client

theorem Turn.request_of_mem {turn : List Exchange} (is : client.Turn target turn) {call : Exchange}
    (member : call ∈ turn) :
    ∃ action, call.request = client.request target action ∧ action.verb ≠ .delete := by
  cases is with
  | read reply =>
    rw [List.mem_singleton.mp member]
    exact ⟨.get, rfl, nofun⟩
  | created absent object answer =>
    rcases List.mem_pair.mp member with rfl | rfl
    · exact ⟨.get, rfl, nofun⟩
    · exact ⟨.create object, rfl, nofun⟩
  | patched stored change answer =>
    rcases List.mem_pair.mp member with rfl | rfl
    · exact ⟨.get, rfl, nofun⟩
    · exact ⟨.patch (.obj change), rfl, nofun⟩

theorem Turns.request_of_mem {targets : List Target} {turns : List Exchange}
    (are : client.Turns targets turns) {call : Exchange} (member : call ∈ turns) :
    ∃ target ∈ targets, ∃ action, call.request = client.request target action ∧
      action.verb ≠ .delete := by
  induction are with
  | nil => cases member
  | cons turn _ ih =>
    rcases List.mem_append.mp member with here | later
    · exact ⟨_, List.mem_cons_self, turn.request_of_mem here⟩
    · obtain ⟨target, there, found⟩ := ih later
      exact ⟨target, List.mem_cons_of_mem _ there, found⟩

/-- There are turns of any targets, so that a list of calls can be cut from them. -/
theorem exists_turns (client : Client) (targets : List Target) :
    ∃ turns, client.Turns targets turns := by
  induction targets with
  | nil => exact ⟨[], .nil⟩
  | cons target rest ih =>
    obtain ⟨turns, are⟩ := ih
    exact ⟨_, .cons (.read (.error .notFound)) are⟩

end Client

namespace Upserter
variable {upserter : Upserter} {mutation : Mutation} {field : String} {value : Json}

theorem Brings.turn (manages : target.Manages mutation field value)
    {result : Except Failure Status}
    (brings : upserter.Brings target mutation cluster calls result later) :
    upserter.client.Turn target calls := by
  cases brings with
  | unread | refused | idle | announced => exact .read _
  | @sent reply answer held action _ shown due =>
    cases shown with
    | nothing absent =>
      rw [Client.due_none manages] at due
      cases due
      exact .created absent _ answer
    | stored there =>
      obtain ⟨read, _, _, sent⟩ := (Client.due_some_eq_ok_iff manages _ _ _).mp due
      split at sent
      · cases sent
      · cases sent
        exact .patched _ _ answer

/-- Where targets are brought up to date in order, the calls are turns, cut where it ended. -/
theorem BringsAll.turns {targets : List (Target × Mutation)}
    (managed : Managed targets) {before : PassResult} {result : Except Failure PassResult}
    (brings : upserter.BringsAll targets before cluster calls result later) :
    ∃ turns, upserter.client.Turns (targets.map Prod.fst) turns ∧ calls <+: turns := by
  induction brings with
  | nil before cluster => exact ⟨[], .nil, List.prefix_rfl⟩
  | @stop target mutation rest _ _ _ calls _ brings =>
    obtain ⟨⟨value, manages⟩, _⟩ := managed.of_cons
    obtain ⟨turns, are⟩ := upserter.client.exists_turns (rest.map Prod.fst)
    exact ⟨calls ++ turns, .cons (brings.turn manages) are, List.prefix_append _ _⟩
  | @next target mutation rest _ _ _ _ _ first _ _ brings _ ih =>
    obtain ⟨⟨value, manages⟩, others⟩ := managed.of_cons
    obtain ⟨turns, are, cut⟩ := ih others
    exact ⟨first ++ turns, .cons (brings.turn manages) are,
      (List.prefix_append_right_inj first).mpr cut⟩

end Upserter

namespace Reconciler
variable {reconciler : Reconciler} {ns : String}

/-- The answer to a deletion after which nothing is there: it was deleted, or there was nothing. -/
def Gone (answer : Except CallError Json) : Prop :=
  (∃ object, answer = .ok object) ∨ ∃ error, answer = .error error ∧ error.isNotFound = true

/-- The order of the calls of a pass that looks for a sentinel and is not a dry run. If the sentinel
is there, the aggregated object has its turn; if it is not, the legacy object is deleted, and if it
is gone then the three modern objects have theirs. -/
inductive InOrder (reconciler : Reconciler) (ns sentinelName : String) : List Exchange → Prop
  | undetected {error : CallError} (other : error.isNotFound = false) :
      InOrder reconciler ns sentinelName
        [⟨reconciler.client.request (Detector.sentinelTarget sentinelName ns) .get, .error error⟩]
  | legacy {sentinel : Json} {calls turns : List Exchange}
      (are : reconciler.client.Turns [Wanted.aggregatedTarget ns] turns) (cut : calls <+: turns) :
      InOrder reconciler ns sentinelName
        (⟨reconciler.client.request (Detector.sentinelTarget sentinelName ns) .get, .ok sentinel⟩ ::
          calls)
  | uncleared {error other : CallError} (absent : error.isNotFound = true)
      (failed : other.isNotFound = false) :
      InOrder reconciler ns sentinelName
        [⟨reconciler.client.request (Detector.sentinelTarget sentinelName ns) .get, .error error⟩,
          ⟨reconciler.client.request (reconciler.legacyTarget ns) .delete, .error other⟩]
  | modern {error : CallError} {answer : Except CallError Json} {calls turns : List Exchange}
      (absent : error.isNotFound = true) (gone : Gone answer)
      (are : reconciler.client.Turns
        [Wanted.dashboardTarget ns, Wanted.alertTarget ns, Wanted.scrapeTarget ns] turns)
      (cut : calls <+: turns) :
      InOrder reconciler ns sentinelName
        (⟨reconciler.client.request (Detector.sentinelTarget sentinelName ns) .get, .error error⟩ ::
          ⟨reconciler.client.request (reconciler.legacyTarget ns) .delete, answer⟩ :: calls)

theorem Carries.turns {layout : Layout} {result : Except Failure PassResult}
    (live : reconciler.dryRun = false)
    (carries : reconciler.Carries ns cluster layout calls result later) :
    match layout with
    | .legacy =>
      ∃ turns, reconciler.client.Turns [Wanted.aggregatedTarget ns] turns ∧ calls <+: turns
    | .modern =>
      (∃ error, error.isNotFound = false ∧
        calls = [⟨reconciler.client.request (reconciler.legacyTarget ns) .delete, .error error⟩]) ∨
      ∃ answer rest turns, Gone answer ∧
        calls = ⟨reconciler.client.request (reconciler.legacyTarget ns) .delete, answer⟩ :: rest ∧
          reconciler.client.Turns
            [Wanted.dashboardTarget ns, Wanted.alertTarget ns, Wanted.scrapeTarget ns] turns ∧
            rest <+: turns := by
  have managed := reconciler.managed_targets ns
  cases carries with
  | legacy brings => exact brings.turns (managed .legacy)
  | uncleared clears =>
    cases clears with
    | failed _ other => exact .inl ⟨_, other, rfl⟩
  | cleared clears brings =>
    obtain ⟨turns, are, cut⟩ := brings.turns (managed .modern)
    cases clears with
    | announced dry =>
      rw [live] at dry
      cases dry
    | absent _ absent =>
      exact .inr ⟨_, _, turns, .inr ⟨_, rfl, absent⟩, rfl, are, cut⟩
    | deleted _ => exact .inr ⟨_, _, turns, .inl ⟨_, rfl⟩, rfl, are, cut⟩

theorem inOrder_of_goes {sentinelName : String}
    (detector : reconciler.detector = .sentinel sentinelName) (live : reconciler.dryRun = false)
    {result : Except Failure PassResult}
    (goes : (reconciler.reconcile ns).Goes cluster calls result later) :
    reconciler.InOrder ns sentinelName calls := by
  rcases finds_or_carries_of_goes goes with ⟨failure, finds, rfl, rfl⟩ |
    ⟨layout, first, rest, finds, carries, rfl⟩
  · rw [detector] at finds
    cases finds with
    | unread other => exact .undetected other
    | malformed held received =>
      obtain ⟨turns, are⟩ := reconciler.client.exists_turns [Wanted.aggregatedTarget ns]
      exact .legacy are List.nil_prefix
  · rw [detector] at finds
    have turns := carries.turns live
    cases finds with
    | present held received =>
      obtain ⟨turns, are, cut⟩ := turns
      exact .legacy are cut
    | absent absent =>
      rcases turns with ⟨error, other, rfl⟩ | ⟨answer, rest, turns, gone, rfl, are, cut⟩
      · exact .uncleared absent other
      · exact .modern absent gone are cut

/-! ### What the order tells about the calls -/

/-- A call of one of the layouts, that of the sentinel apart. -/
def CallOf (reconciler : Reconciler) (ns : String) (layout : Layout) (call : Exchange) : Prop :=
  (layout = .modern ∧
      call.request = reconciler.client.request (reconciler.legacyTarget ns) .delete) ∨
    ∃ target ∈ reconciler.targets ns layout, ∃ action,
      call.request = reconciler.client.request target.1 action ∧ action.verb ≠ .delete

theorem callOf_of_cut (layout : Layout) {turns : List Exchange}
    (are : reconciler.client.Turns ((reconciler.targets ns layout).map Prod.fst) turns)
    (cut : calls <+: turns) {call : Exchange} (member : call ∈ calls) :
    reconciler.CallOf ns layout call := by
  obtain ⟨target, there, action, request, kept⟩ := are.request_of_mem (cut.subset member)
  obtain ⟨wanted, here, rfl⟩ := List.mem_map.mp there
  exact .inr ⟨wanted, here, action, request, kept⟩

theorem InOrder.callOf {sentinelName : String}
    (inOrder : reconciler.InOrder ns sentinelName calls) :
    ∃ layout, ∀ call ∈ calls,
      call.request = reconciler.client.request (Detector.sentinelTarget sentinelName ns) .get ∨
        reconciler.CallOf ns layout call := by
  cases inOrder with
  | undetected other =>
    exact ⟨.legacy, List.forall_mem_singleton.mpr (.inl rfl)⟩
  | legacy are cut =>
    exact ⟨.legacy, List.forall_mem_cons.mpr
      ⟨.inl rfl, fun call member => .inr (callOf_of_cut .legacy are cut member)⟩⟩
  | uncleared absent failed =>
    exact ⟨.modern, List.forall_mem_cons.mpr
      ⟨.inl rfl, List.forall_mem_singleton.mpr (.inr (.inl ⟨rfl, rfl⟩))⟩⟩
  | modern absent gone are cut =>
    refine ⟨.modern, List.forall_mem_cons.mpr ⟨.inl rfl, List.forall_mem_cons.mpr
      ⟨.inr (.inl ⟨rfl, rfl⟩), fun call member => .inr ?_⟩⟩⟩
    exact callOf_of_cut .modern are cut member

/-- Nothing is written before it is clear that the sentinel is there or that the legacy object is
gone. -/
theorem InOrder.gated {sentinelName : String} (inOrder : reconciler.InOrder ns sentinelName calls)
    {before after : List Exchange} {write : Exchange} (split : calls = before ++ write :: after)
    (writes : write.request.action.verb = .create ∨ write.request.action.verb = .patch) :
    (∃ sentinel, ⟨reconciler.client.request (Detector.sentinelTarget sentinelName ns) .get,
        .ok sentinel⟩ ∈ before) ∨
      ∃ answer, Gone answer ∧
        ⟨reconciler.client.request (reconciler.legacyTarget ns) .delete, answer⟩ ∈ before := by
  have passes : ∀ {first : Exchange} {rest before : List Exchange},
      first.request.action.verb = .get ∨ first.request.action.verb = .delete →
        first :: rest = before ++ write :: after →
          ∃ more, before = first :: more ∧ rest = more ++ write :: after := by
    intro first rest before reads split
    rcases List.cons_eq_append_iff.mp split with ⟨_, same⟩ | found
    · cases same
      rcases reads with reads | reads <;> simp [reads] at writes
    · exact found
  cases inOrder with
  | undetected other =>
    obtain ⟨more, _, ended⟩ := passes (.inl rfl) split
    simp at ended
  | legacy are cut =>
    obtain ⟨more, rfl, _⟩ := passes (.inl rfl) split
    exact .inl ⟨_, List.mem_cons_self⟩
  | uncleared absent failed =>
    obtain ⟨more, _, rest⟩ := passes (.inl rfl) split
    obtain ⟨_, _, ended⟩ := passes (.inr rfl) rest
    simp at ended
  | modern absent gone are cut =>
    obtain ⟨more, rfl, rest⟩ := passes (.inl rfl) split
    obtain ⟨more, rfl, _⟩ := passes (.inr rfl) rest
    exact .inr ⟨_, gone, List.mem_cons_of_mem _ List.mem_cons_self⟩

theorem ns_of_mem_targets {layout : Layout} {target : Target × Mutation}
    (member : target ∈ reconciler.targets ns layout) : target.1.ns = ns := by
  cases layout with
  | legacy =>
    rw [List.mem_singleton.mp member]
    rfl
  | modern =>
    simp only [targets, Wanted.modernTargets, List.mem_cons, List.not_mem_nil, or_false] at member
    rcases member with rfl | rfl | rfl <;> rfl

theorem InOrder.addressed {sentinelName : String}
    (inOrder : reconciler.InOrder ns sentinelName calls) {call : Exchange} (member : call ∈ calls) :
    call.request.ns = .str ns ∧ call.request.timeout = reconciler.client.timeout := by
  obtain ⟨layout, only⟩ := inOrder.callOf
  rcases only call member with sentinel | ⟨_, deletion⟩ | ⟨target, there, action, request, _⟩
  · rw [sentinel]
    exact ⟨rfl, rfl⟩
  · rw [deletion]
    exact ⟨rfl, rfl⟩
  · rw [request]
    exact ⟨congrArg Json.str (ns_of_mem_targets there), rfl⟩

/-- A pass with a sentinel that is not a dry run makes its calls in order, whatever is stored and
whichever calls fail, and a call that fails is the last one unless it is a miss. So nothing is
written unless the sentinel is there or the legacy object is gone, the calls are those of one
layout, and each of them names the namespace of the pass and has the timeout of the client. -/
theorem reconcile_in_order (client : Client) (documents : Wanted.Documents)
    (sentinelName legacyName ns : String) (server : Server) :
    let reconciler : Reconciler := ⟨client, documents, .sentinel sentinelName, legacyName, false⟩
    let calls := Event.exchanges ((reconciler.reconcile ns).run server).events
    reconciler.InOrder ns sentinelName calls ∧
    (∀ before call after error, calls = before ++ call :: after → call.reply = .error error →
      ¬ call.IsMiss → after = []) ∧
    (∀ before write after, calls = before ++ write :: after →
      write.request.action.verb = .create ∨ write.request.action.verb = .patch →
        (∃ sentinel, ⟨client.request (Detector.sentinelTarget sentinelName ns) .get,
            .ok sentinel⟩ ∈ before) ∨
          ∃ answer, Gone answer ∧
            ⟨client.request (reconciler.legacyTarget ns) .delete, answer⟩ ∈ before) ∧
    (∃ layout, ∀ call ∈ calls,
      call.request = client.request (Detector.sentinelTarget sentinelName ns) .get ∨
        reconciler.CallOf ns layout call) ∧
    (∀ call ∈ calls, call.request.ns = .str ns ∧ call.request.timeout = client.timeout) := by
  intro reconciler calls
  have goes := goes_run (reconciler.reconcile ns) server
  have inOrder : reconciler.InOrder ns sentinelName calls := inOrder_of_goes rfl rfl goes
  obtain ⟨layout, accounts⟩ := accounts_of_goes goes
  refine ⟨inOrder, ?_, ?_, inOrder.callOf, fun call member => inOrder.addressed member⟩
  · rintro before ⟨request, reply⟩ after error split rfl noMiss
    exact accounts.eq_nil_of_breaks split (.failed noMiss)
  · exact fun before write after split writes => inOrder.gated split writes

end Reconciler
end Upkeep
