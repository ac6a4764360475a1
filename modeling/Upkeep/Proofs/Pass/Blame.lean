import Upkeep.Proofs.Pass.Bringing
import Upkeep.Proofs.Pass.Convergence

/-! How a pass accounts for its failures. A call breaks a pass by an error, unless it is a miss: the
answer that there is nothing to be read or deleted. The first call that breaks a pass is its last,
and the pass fails as that call says, an expected error tagged with the step and its object. A pass
that no call breaks fails only where labels cannot be set on an object that it has read: its patches
have texts, as long as what is stored is well-formed. -/
namespace Upkeep
open Dialogue

variable {α : Type} {client : Client} {target : Target} {cluster later : Cluster}
  {calls : List Exchange}

/-! ### Calls that break a pass -/

/-- What is being done when a verb is called. -/
def Verb.stage : Verb → Stage
  | get => .reading
  | create | patch => .writing
  | delete => .deleting

/-- A request names the object of a target. -/
structure Request.Concerns (request : Request) (target : Target) : Prop where
  kind : request.kind = target.kind
  name : request.name = .str target.name
  ns : request.ns = .str target.ns

theorem Client.concerns_request (client : Client) (target : Target) (action : Action) :
    (client.request target action).Concerns target :=
  ⟨rfl, rfl, rfl⟩

/-- There was nothing to be read or deleted. -/
def Exchange.IsMiss (call : Exchange) : Prop :=
  (call.request.action.verb = .get ∨ call.request.action.verb = .delete) ∧
    ∃ error, call.reply = .error error ∧ error.isNotFound = true

/-- A call that breaks a pass, and how the pass then fails: the call itself fails, or the client
cannot make anything of the reply. The reply to a deletion is not looked at. -/
inductive Client.Breaks (client : Client) : Exchange → Failure → Prop
  | failed {request : Request} {error : CallError}
      (noMiss : ¬ Exchange.IsMiss ⟨request, .error error⟩) :
      Breaks client ⟨request, .error error⟩ (.call error)
  | garbled {request : Request} {object : Json} {bad : Malformed}
      (seen : request.action.verb ≠ .delete)
      (viewed : client.view request.kind object = .error bad) :
      Breaks client ⟨request, .ok object⟩ (.malformed bad)

def Client.Quiet (client : Client) (call : Exchange) : Prop :=
  ∀ failure, ¬ client.Breaks call failure

namespace Client

theorem Breaks.unique {call : Exchange} {one other : Failure} (first : client.Breaks call one)
    (second : client.Breaks call other) : one = other := by
  cases first with
  | failed noMiss =>
    cases second
    rfl
  | garbled seen viewed =>
    cases second with
    | garbled _ also =>
      rw [viewed] at also
      cases also
      rfl

theorem quiet_of_miss {call : Exchange} (miss : call.IsMiss) : client.Quiet call := by
  intro failure breaks
  cases breaks with
  | failed noMiss => exact noMiss miss
  | garbled =>
    obtain ⟨_, error, impossible, _⟩ := miss
    cases impossible

theorem quiet_of_view {request : Request} {object seen : Json}
    (viewed : client.view request.kind object = .ok seen) :
    client.Quiet ⟨request, .ok object⟩ := by
  intro failure breaks
  cases breaks with
  | garbled _ failed =>
    rw [viewed] at failed
    cases failed

theorem quiet_of_delete {request : Request} (deletes : request.action.verb = .delete)
    (object : Json) : client.Quiet ⟨request, .ok object⟩ := by
  intro failure breaks
  cases breaks with
  | garbled seen => exact seen deletes

theorem breaks_of_hit {request : Request} {error : CallError} (hit : error.isNotFound = false) :
    client.Breaks ⟨request, .error error⟩ (.call error) := by
  apply Breaks.failed
  rintro ⟨_, other, same, absent⟩
  cases same
  rw [hit] at absent
  cases absent

theorem breaks_of_write {request : Request} (error : CallError)
    (writes : request.action.verb ≠ .get ∧ request.action.verb ≠ .delete) :
    client.Breaks ⟨request, .error error⟩ (.call error) := by
  apply Breaks.failed
  rintro ⟨reads | deletes, _⟩
  · exact writes.1 reads
  · exact writes.2 deletes

/-- How the calls account for the result: if one breaks, it is the last and it is to blame. If none
does, a failure comes from an object that was read, or from a patch that has no text. -/
inductive Accounts (client : Client) (targets : List Target) (start : Cluster) :
    List Exchange → Except Failure α → Prop
  | well {calls : List Exchange} (value : α) (quiet : ∀ call ∈ calls, client.Quiet call) :
      Accounts client targets start calls (.ok value)
  | broken {before : List Exchange} {last : Exchange} {target : Target} {failure : Failure}
      (quiet : ∀ call ∈ before, client.Quiet call) (breaks : client.Breaks last failure)
      (concerns : last.request.Concerns target) :
      Accounts client targets start (before ++ [last])
        (.error (.tagged last.request.action.verb.stage target failure))
  | refused {calls : List Exchange} {target : Target} {stored : Json} {bad : Malformed}
      (quiet : ∀ call ∈ calls, client.Quiet call)
      (read : ⟨client.request target .get, .ok stored⟩ ∈ calls)
      (refuses : stored.form = .obj → target ∈ targets ∧ Object.Refuses stored bad) :
      Accounts client targets start calls (.error (.malformed bad))
  | untold {calls : List Exchange} {bad : Unwritable} (quiet : ∀ call ∈ calls, client.Quiet call)
      (odd : ¬ start.WellFormed) :
      Accounts client targets start calls (.error (.unwritable bad))

namespace Accounts
variable {targets : List Target} {start : Cluster} {result : Except Failure α}

theorem quiet_of_ok {value : α} (accounts : client.Accounts targets start calls (.ok value)) :
    ∀ call ∈ calls, client.Quiet call := by
  cases accounts with
  | well value quiet => exact quiet

theorem prepend {first : List Exchange} (quiet : ∀ call ∈ first, client.Quiet call)
    (accounts : client.Accounts targets start calls result) :
    client.Accounts targets start (first ++ calls) result := by
  cases accounts with
  | well value rest => exact .well value (List.forall_mem_append.mpr ⟨quiet, rest⟩)
  | broken rest breaks concerns =>
    rw [← List.append_assoc]
    exact .broken (List.forall_mem_append.mpr ⟨quiet, rest⟩) breaks concerns
  | refused rest read refuses =>
    exact .refused (List.forall_mem_append.mpr ⟨quiet, rest⟩) (List.mem_append_right _ read)
      refuses
  | untold rest odd => exact .untold (List.forall_mem_append.mpr ⟨quiet, rest⟩) odd

/-- What was well-formed earlier is to blame for nothing later. -/
theorem since {earlier : Cluster} (kept : earlier.WellFormed → start.WellFormed)
    (accounts : client.Accounts targets start calls result) :
    client.Accounts targets earlier calls result := by
  cases accounts with
  | well value quiet => exact .well value quiet
  | broken quiet breaks concerns => exact .broken quiet breaks concerns
  | refused quiet read refuses => exact .refused quiet read refuses
  | untold quiet odd => exact .untold quiet (mt kept odd)

theorem mono {more : List Target} (fewer : targets ⊆ more)
    (accounts : client.Accounts targets start calls result) :
    client.Accounts more start calls result := by
  cases accounts with
  | well value quiet => exact .well value quiet
  | broken quiet breaks concerns => exact .broken quiet breaks concerns
  | refused quiet read refuses =>
    exact .refused quiet read fun isObject => (refuses isObject).imp_left (@fewer _)
  | untold quiet odd => exact .untold quiet odd

/-- A failure is accounted for, whatever the result would have been. -/
theorem of_error {β : Type} {failure : Failure}
    (accounts : client.Accounts targets start calls (.error failure : Except Failure α)) :
    client.Accounts targets start calls (.error failure : Except Failure β) := by
  cases accounts with
  | broken quiet breaks concerns => exact .broken quiet breaks concerns
  | refused quiet read refuses => exact .refused quiet read refuses
  | untold quiet odd => exact .untold quiet odd

theorem map {β : Type} (f : α → β) (accounts : client.Accounts targets start calls result) :
    client.Accounts targets start calls (result.map f) := by
  cases result with
  | ok value => exact .well (f value) accounts.quiet_of_ok
  | error failure => exact accounts.of_error

/-- A call that breaks determines the result. -/
theorem of_breaks (accounts : client.Accounts targets start calls result) {call : Exchange}
    {failure : Failure} (member : call ∈ calls) (breaks : client.Breaks call failure) :
    ∃ target, call.request.Concerns target ∧
      result = .error (.tagged call.request.action.verb.stage target failure) := by
  cases accounts with
  | well value quiet => exact absurd breaks (quiet call member failure)
  | refused quiet | untold quiet => exact absurd breaks (quiet call member failure)
  | @broken before last target _ quiet known concerns =>
    rcases List.mem_append.mp member with earlier | here
    · exact absurd breaks (quiet call earlier failure)
    · cases List.mem_singleton.mp here
      cases breaks.unique known
      exact ⟨target, concerns, rfl⟩

/-- No call follows one that breaks. -/
theorem eq_nil_of_breaks (accounts : client.Accounts targets start calls result)
    {before after : List Exchange} {call : Exchange} {failure : Failure}
    (split : calls = before ++ call :: after) (breaks : client.Breaks call failure) :
    after = [] := by
  have member : call ∈ calls := split ▸ List.mem_append_right _ List.mem_cons_self
  cases accounts with
  | well value quiet => exact absurd breaks (quiet call member failure)
  | refused quiet | untold quiet => exact absurd breaks (quiet call member failure)
  | @broken first last _ _ quiet =>
    rcases List.eq_nil_or_concat after with rfl | ⟨rest, final, rfl⟩
    · rfl
    · -- the call would be among those before the last
      rw [List.concat_eq_append, ← List.cons_append, ← List.append_assoc] at split
      have same := (List.append_inj' split rfl).1
      exact absurd breaks (quiet call (same ▸ List.mem_append_right _ List.mem_cons_self) failure)

theorem of_failure {failure : Failure}
    (accounts : client.Accounts targets start calls (.error failure : Except Failure α)) :
    (∃ call ∈ calls, ∃ target cause, client.Breaks call cause ∧
        failure = .tagged call.request.action.verb.stage target cause) ∨
      (∃ target stored bad, ⟨client.request target .get, .ok stored⟩ ∈ calls ∧
        failure = .malformed bad ∧
          (stored.form = .obj → target ∈ targets ∧ Object.Refuses stored bad)) ∨
      ∃ bad, failure = .unwritable bad ∧ ¬ start.WellFormed := by
  cases accounts with
  | broken quiet breaks concerns =>
    exact .inl ⟨_, List.mem_append_right _ (List.mem_singleton_self _), _, _, breaks, rfl⟩
  | refused quiet read refuses => exact .inr (.inl ⟨_, _, _, read, rfl, refuses⟩)
  | untold quiet odd => exact .inr (.inr ⟨_, rfl, odd⟩)

/-- A call that fails and is no miss determines the result. -/
theorem of_hit (accounts : client.Accounts targets start calls result) {call : Exchange}
    (member : call ∈ calls) {error : CallError} (failed : call.reply = .error error)
    (noMiss : ¬ call.IsMiss) :
    ∃ target, call.request.Concerns target ∧
      result = .error (.tagged call.request.action.verb.stage target (.call error)) := by
  obtain ⟨request, reply⟩ := call
  cases failed
  exact accounts.of_breaks member (.failed noMiss)

/-- A step error comes from an expected error of a call, and from nothing else. -/
theorem step_iff (accounts : client.Accounts targets start calls result) :
    (∃ error, result = .error (.step error)) ↔
      ∃ call ∈ calls, ∃ error, call.reply = .error error ∧ error.isExpected = true ∧
        ¬ call.IsMiss := by
  constructor
  · rintro ⟨error, rfl⟩
    rcases accounts.of_failure with ⟨call, member, target, cause, breaks, tagged⟩ |
      ⟨_, _, _, _, impossible, _⟩ | ⟨_, impossible, _⟩
    · cases breaks with
      | garbled => cases tagged
      | @failed request cause noMiss =>
        by_cases expected : cause.isExpected = true
        · exact ⟨_, member, cause, rfl, expected, noMiss⟩
        · rw [Failure.tagged, if_neg expected] at tagged
          cases tagged
    · cases impossible
    · cases impossible
  · rintro ⟨call, member, error, failed, expected, noMiss⟩
    obtain ⟨target, _, ended⟩ := accounts.of_hit member failed noMiss
    rw [Failure.tagged, if_pos expected] at ended
    exact ⟨_, ended⟩

end Accounts

/-! ### The steps -/

theorem quiet_of_received {stored read : Json}
    (received : client.received target.kind stored = .ok read) :
    client.Quiet ⟨client.request target .get, .ok stored⟩ := by
  obtain ⟨seen, viewed, _⟩ := (received_eq_ok_iff client target.kind stored read).mp received
  exact quiet_of_view viewed

/-- A call that fails is to blame if nothing went wrong before it. -/
theorem accounts_of_broken {targets : List Target} {start : Cluster} {before : List Exchange}
    {action : Action} {reply : Except CallError Json} {failure : Failure}
    (quiet : ∀ call ∈ before, client.Quiet call)
    (breaks : client.Breaks ⟨client.request target action, reply⟩ failure) :
    client.Accounts targets start (before ++ [⟨client.request target action, reply⟩])
      (.error (.tagged action.verb.stage target failure) : Except Failure α) :=
  .broken quiet breaks (client.concerns_request target action)

theorem accounts_of_unread {targets : List Target} {start : Cluster} {stored : Json}
    {bad : Malformed} (received : client.received target.kind stored = .error bad) :
    client.Accounts targets start [⟨client.request target .get, .ok stored⟩]
      (.error (.malformed bad) : Except Failure α) := by
  rcases (received_eq_error_iff client target.kind stored bad).mp received with
    viewed | ⟨seen, viewed, unfilled⟩
  · have garbled : client.Breaks ⟨client.request target .get, .ok stored⟩ (.malformed bad) :=
      .garbled nofun viewed
    exact accounts_of_broken (List.forall_mem_nil _) garbled
  · refine .refused (List.forall_mem_singleton.mpr (quiet_of_view viewed))
      (List.mem_singleton_self _) fun isObject => ?_
    -- a JSON object has room for the version and the kind
    have filled := (withDefaults_eq_ok_iff target.kind seen _).mpr
      ⟨(alike_view viewed).form.trans isObject, rfl⟩
    rw [unfilled] at filled
    cases filled

end Client

namespace Upserter
variable {upserter : Upserter} {mutation : Mutation} {field : String} {value : Json}

/-- The read is not to blame if it is known what is due. -/
theorem quiet_of_due {reply : Except CallError Json} {held : Option Json} {due : Option Action}
    (shown : cluster.Shows target reply held) (known : client.due target mutation held = .ok due) :
    client.Quiet ⟨client.request target .get, reply⟩ := by
  cases shown with
  | nothing absent => exact Client.quiet_of_miss ⟨.inl rfl, _, rfl, absent⟩
  | @stored object there =>
    cases received : client.received target.kind object with
    | ok read => exact Client.quiet_of_received received
    | error bad =>
      rw [(Client.due_some_eq_error_iff client target mutation object bad).mpr
        (.inl received)] at known
      cases known

theorem accounts_of_refused (manages : target.Manages mutation field value)
    {reply : Except CallError Json} {held : Option Json} {bad : Malformed}
    (shown : cluster.Shows target reply held)
    (due : client.due target mutation held = .error bad) :
    client.Accounts [target] cluster [⟨client.request target .get, reply⟩]
      (.error (.malformed bad) : Except Failure α) := by
  cases shown with
  | nothing absent =>
    rw [Client.due_none manages] at due
    cases due
  | @stored object there =>
    rcases (Client.due_some_eq_error_iff client target mutation object bad).mp due with
      received | ⟨read, received, refused⟩
    · exact Client.accounts_of_unread received
    · obtain ⟨isObject, alike⟩ := Client.alike_received received
      exact .refused (List.forall_mem_singleton.mpr (Client.quiet_of_received received))
        (List.mem_singleton_self _) fun _ =>
          ⟨List.mem_singleton_self _, alike.refuses (mutation.refuses_of_apply isObject refused)⟩

/-- An action that is due where all is well-formed can be told of. -/
theorem outcome_of_due (manages : target.Manages mutation field value)
    {reply : Except CallError Json} {held : Option Json} {action : Action}
    (wellFormed : cluster.WellFormed) (shown : cluster.Shows target reply held)
    (due : client.due target mutation held = .ok (some action)) (status : Status) :
    action.outcome status = .ok status := by
  cases action with
  | get | create | delete => rfl
  | patch change =>
    refine Action.outcome_patch status (Client.writable_of_due manages ?_ due)
    rintro stored rfl
    cases shown with
    | stored there => exact wellFormed _ stored there

/-- What is told of an action is accounted for when all calls were quiet. -/
theorem accounts_of_told (manages : target.Manages mutation field value)
    {reply : Except CallError Json} {held : Option Json} {action : Action} {status : Status}
    (shown : cluster.Shows target reply held)
    (due : client.due target mutation held = .ok (some action))
    (quiet : ∀ call ∈ calls, client.Quiet call) :
    client.Accounts [target] cluster calls (action.outcome status) := by
  cases told : action.outcome status with
  | ok status => exact .well status quiet
  | error failure =>
    have odd : ¬ cluster.WellFormed := by
      intro wellFormed
      rw [outcome_of_due manages wellFormed shown due] at told
      cases told
    obtain ⟨bad, rfl⟩ := Action.unwritable_of_outcome told
    exact .untold quiet odd

theorem Brings.accounts (manages : target.Manages mutation field value)
    {result : Except Failure Status}
    (brings : upserter.Brings target mutation cluster calls result later) :
    upserter.client.Accounts [target] cluster calls result := by
  cases brings with
  | unread other =>
    exact Client.accounts_of_broken (List.forall_mem_nil _) (Client.breaks_of_hit other)
  | refused shown due => exact accounts_of_refused manages shown due
  | idle shown due => exact .well _ (List.forall_mem_singleton.mpr (quiet_of_due shown due))
  | announced shown due dry =>
    exact accounts_of_told manages shown due
      (List.forall_mem_singleton.mpr (quiet_of_due shown due))
  | @sent reply answer held action _ shown due live answered =>
    have quiet := List.forall_mem_singleton.mpr (quiet_of_due shown due)
    have writes : action.verb.stage = .writing ∧ action.verb ≠ .get ∧ action.verb ≠ .delete := by
      rcases Client.due_creates_or_patches due with ⟨object, rfl⟩ | ⟨change, rfl⟩
      · exact ⟨rfl, nofun, nofun⟩
      · exact ⟨rfl, nofun, nofun⟩
    rw [ending.eq_def]
    cases answer with
    | error error =>
      have breaks : upserter.client.Breaks
          ⟨upserter.client.request target action, .error error⟩ (.call error) :=
        Client.breaks_of_write error writes.2
      rw [← writes.1]
      exact Client.accounts_of_broken quiet breaks
    | ok object =>
      dsimp only
      split
      · rename_i seen viewed
        exact accounts_of_told manages shown due (List.forall_mem_append.mpr
          ⟨quiet, List.forall_mem_singleton.mpr (Client.quiet_of_view viewed)⟩)
      · rename_i bad viewed
        have garbled : upserter.client.Breaks ⟨upserter.client.request target action, .ok object⟩
            (.malformed bad) := .garbled writes.2.2 viewed
        exact Client.accounts_of_broken quiet garbled

theorem BringsAll.accounts {targets : List (Target × Mutation)}
    (managed : Managed targets) {before : PassResult} {result : Except Failure PassResult}
    (brings : upserter.BringsAll targets before cluster calls result later) :
    upserter.client.Accounts (targets.map Prod.fst) cluster calls result := by
  induction brings with
  | nil before cluster => exact .well _ (List.forall_mem_nil _)
  | stop brings =>
    obtain ⟨⟨value, manages⟩, _⟩ := managed.of_cons
    exact (Client.Accounts.mono (by simp) (brings.accounts manages)).of_error
  | next brings _ ih =>
    obtain ⟨⟨value, manages⟩, others⟩ := managed.of_cons
    have quiet := (brings.accounts manages).quiet_of_ok
    exact (((ih others).mono (List.subset_cons_self _ _)).since
      (brings.wellFormed manages)).prepend quiet

end Upserter

theorem Detector.Finds.accounts {detector : Detector} {ns : String} {result : Except Failure Layout}
    (finds : Detector.Finds client ns cluster detector calls result)
    (targets : List Target) : client.Accounts targets cluster calls result := by
  cases finds with
  | fixed layout => exact .well layout (List.forall_mem_nil _)
  | unread other =>
    exact Client.accounts_of_broken (List.forall_mem_nil _) (Client.breaks_of_hit other)
  | malformed held received => exact Client.accounts_of_unread received
  | present held received =>
    exact .well _ (List.forall_mem_singleton.mpr (Client.quiet_of_received received))
  | absent absent =>
    exact .well _ (List.forall_mem_singleton.mpr
      (Client.quiet_of_miss ⟨.inl rfl, _, rfl, absent⟩))

namespace Reconciler
variable {reconciler : Reconciler} {ns : String}

theorem Clears.accounts {result : Except Failure Bool}
    (clears : reconciler.Clears ns cluster calls result later) (targets : List Target) :
    reconciler.client.Accounts targets cluster calls result := by
  cases clears with
  | announced => exact .well _ (List.forall_mem_nil _)
  | failed live other =>
    exact Client.accounts_of_broken (List.forall_mem_nil _) (Client.breaks_of_hit other)
  | absent live absent =>
    exact .well _ (List.forall_mem_singleton.mpr
      (Client.quiet_of_miss ⟨.inr rfl, _, rfl, absent⟩))
  | deleted live =>
    exact .well _ (List.forall_mem_singleton.mpr (Client.quiet_of_delete rfl _))

theorem Carries.accounts {layout : Layout} {result : Except Failure PassResult}
    (carries : reconciler.Carries ns cluster layout calls result later) :
    reconciler.client.Accounts ((reconciler.targets ns layout).map Prod.fst) cluster calls
      result := by
  have managed := reconciler.managed_targets ns
  cases carries with
  | uncleared clears => exact (clears.accounts _).of_error
  | cleared clears brings =>
    exact (((brings.accounts (managed .modern)).map _).since clears.wellFormed).prepend
      (clears.accounts []).quiet_of_ok
  | legacy brings => exact (brings.accounts (managed .legacy)).map _

/-- The calls of a pass account for its result. -/
theorem accounts_of_goes {result : Except Failure PassResult}
    (goes : (reconciler.reconcile ns).Goes cluster calls result later) :
    ∃ layout, reconciler.client.Accounts ((reconciler.targets ns layout).map Prod.fst) cluster
      calls result := by
  rcases finds_or_carries_of_goes goes with ⟨failure, finds, rfl, rfl⟩ |
    ⟨layout, first, rest, finds, carries, rfl⟩
  · exact ⟨.legacy, (finds.accounts _).of_error⟩
  · exact ⟨layout, carries.accounts.prepend (finds.accounts []).quiet_of_ok⟩

end Reconciler

/-! ### The pass -/

theorem Cluster.HoldsObjects.answers {between : Cluster} (objects : cluster.HoldsObjects)
    {request : Request} {reply : Except CallError Json}
    (answered : cluster.Answers request reply between) : between.HoldsObjects := by
  cases answered with
  | performed => exact objects.perform request
  | failed error => exact objects

/-- Where nothing but JSON objects is stored, nothing else is read. -/
theorem Dialogue.Goes.reads_objects {d : Dialogue α} {result : Except Failure α}
    (goes : d.Goes cluster calls result later) (objects : cluster.HoldsObjects) {stored : Json}
    (read : ⟨client.request target .get, .ok stored⟩ ∈ calls) : stored.form = .obj := by
  induction goes with
  | done | fail => cases read
  | note rest ih => exact ih objects read
  | ask answered rest ih =>
    rcases List.mem_cons.mp read with here | read
    · cases here
      obtain ⟨_, ⟨object, same, held⟩ | ⟨error, failed⟩⟩ := answered.get
      · cases same
        exact objects _ stored held
      · cases failed
    · exact ih (objects.answers answered) read

/-- A pass with a sentinel that is not a dry run accounts for its failures, whatever is stored and
whichever calls fail. It fails with a step error exactly if a call ends in an expected error that is
no miss; the step error names the object of that call, and gives the reason and the cause. All other
errors of a call come out as they are. If no call breaks the pass, and nothing but JSON objects is
stored, then it fails only where an object of a target that it has read refuses labels. There is no
patch that cannot be told of, unless the objects stored have a key twice. -/
theorem Reconciler.reconcile_accounts (client : Client) (documents : Wanted.Documents)
    (sentinelName legacyName ns : String) (server : Server) :
    let reconciler : Reconciler := ⟨client, documents, .sentinel sentinelName, legacyName, false⟩
    let outcome := (reconciler.reconcile ns).run server
    let calls := Event.exchanges outcome.events
    ((∃ error, outcome.result = .error (.step error)) ↔
      ∃ call ∈ calls, ∃ error, call.reply = .error error ∧ error.isExpected = true ∧
        ¬ call.IsMiss) ∧
    (∀ call ∈ calls, ∀ error, call.reply = .error error → ¬ call.IsMiss →
      if error.isExpected then
        ∃ target : Target, call.request.Concerns target ∧ outcome.result = .error (.step
          { stage := call.request.action.verb.stage
            kind := target.kind.name
            name := target.name
            ns := target.ns
            reason := some error.reason
            cause := some error })
      else outcome.result = .error (.call error)) ∧
    (∀ call ∈ calls, ∀ object bad, call.reply = .ok object → call.request.action.verb ≠ .delete →
      client.view call.request.kind object = .error bad →
        outcome.result = .error (.malformed bad)) ∧
    (server.cluster.HoldsObjects → (∀ call ∈ calls, client.Quiet call) →
      ∀ failure, outcome.result = .error failure →
        (∃ layout, ∃ target ∈ reconciler.targets ns layout, ∃ stored bad,
          ⟨client.request target.1 .get, .ok stored⟩ ∈ calls ∧ Object.Refuses stored bad ∧
            failure = .malformed bad) ∨
        ((∃ bad, failure = .unwritable bad) ∧ ¬ server.cluster.WellFormed)) := by
  intro reconciler outcome calls
  have goes := goes_run (reconciler.reconcile ns) server
  obtain ⟨layout, accounts⟩ := accounts_of_goes goes
  change client.Accounts _ _ calls outcome.result at accounts
  refine ⟨accounts.step_iff, ?_, ?_, ?_⟩
  · intro call member error failed noMiss
    obtain ⟨target, concerns, ended⟩ := accounts.of_hit member failed noMiss
    split
    · rename_i expected
      rw [Failure.tagged, if_pos expected] at ended
      exact ⟨target, concerns, ended⟩
    · rename_i unexpected
      rwa [Failure.tagged, if_neg unexpected] at ended
  · rintro ⟨request, reply⟩ member object bad rfl seen viewed
    obtain ⟨target, _, ended⟩ := accounts.of_breaks member (.garbled seen viewed)
    exact ended
  · intro objects quiet failure ended
    rw [ended] at accounts
    rcases accounts.of_failure with ⟨call, member, _, cause, breaks, _⟩ |
      ⟨target, stored, bad, read, malformed, refuses⟩ | ⟨bad, untold, odd⟩
    · exact absurd breaks (quiet call member cause)
    · obtain ⟨member, refused⟩ := refuses (goes.reads_objects objects read)
      obtain ⟨wanted, here, rfl⟩ := List.mem_map.mp member
      exact .inl ⟨layout, wanted, here, stored, bad, read, refused, malformed⟩
    · exact .inr ⟨⟨bad, untold⟩, odd⟩

theorem Cluster.holdsObjects_neglected : neglected.HoldsObjects := by
  intro key object held
  have member := Table.mem_of_get? held
  simp only [neglected, List.mem_cons, Prod.mk.injEq, List.not_mem_nil, or_false] at member
  rcases member with ⟨_, rfl⟩ | ⟨_, rfl⟩ | ⟨_, rfl⟩ <;> rfl

/-- A patch of what is there may yet be answered with a 404, and that is no miss. -/
theorem Reconciler.reconcile_accounts_neglected :
    let reconciler : Reconciler :=
      ⟨.plain, .brief, .sentinel Wanted.sentinelName, Wanted.aggregatedName, false⟩
    let server : Server :=
      ⟨.neglected, [⟨.patch, .prometheusRule, .api (some 404) none, 0, none⟩]⟩
    let outcome := (reconciler.reconcile "shoot").run server
    Cluster.neglected.HoldsObjects ∧
      outcome.result = .error (.step ⟨.writing, "PrometheusRule", "shoot-registry-cache", "shoot",
        some "HTTP 404", some (.api (some 404) none)⟩) ∧
      (∃ call ∈ Event.exchanges outcome.events, ∃ error, call.reply = .error error ∧
        error.isExpected = true ∧ ¬ call.IsMiss) ∧
      ¬ ∀ call ∈ Event.exchanges outcome.events, Client.plain.Quiet call := by
  intro reconciler server outcome
  have ended : outcome.result = .error (.step ⟨.writing, "PrometheusRule", "shoot-registry-cache",
      "shoot", some "HTTP 404", some (.api (some 404) none)⟩) := by decide +kernel
  obtain ⟨stepped, _, _, refused⟩ := reconcile_accounts .plain .brief Wanted.sentinelName
    Wanted.aggregatedName "shoot" server
  have objects := Cluster.holdsObjects_neglected
  refine ⟨objects, ended, stepped.mp ⟨_, ended⟩, fun quiet => ?_⟩
  rcases refused objects quiet _ ended with ⟨_, _, _, _, _, _, _, impossible⟩ |
    ⟨⟨_, impossible⟩, _⟩ <;> cases impossible

end Upkeep
