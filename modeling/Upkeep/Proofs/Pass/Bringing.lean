import Upkeep.Proofs.Cluster.Exchange
import Upkeep.Proofs.Pass.Reconcile

/-! What one step of a pass can come to, whatever is stored and whichever calls fail: the layout is
found or not, the legacy object is deleted or not, a target is brought up to date or not. Each of
these is read, then perhaps written, and each way that it can go is one case. -/
namespace Upkeep
open Dialogue

variable {α : Type} {client : Client} {target : Target} {cluster later : Cluster}
  {calls : List Exchange}

/-! ### Reads -/

/-- A read shows what is stored. An error may say that nothing is there, and it is believed. -/
inductive Cluster.Shows (cluster : Cluster) (target : Target) :
    Except CallError Json → Option Json → Prop
  | stored {object : Json} (held : cluster.get? target.objectKey = some object) :
      Shows cluster target (.ok object) (some object)
  | nothing {error : CallError} (absent : error.isNotFound = true) :
      Shows cluster target (.error error) none

/-- The ways of a dialogue that begins with a read of a target. -/
inductive Client.Reads (client : Client) (target : Target) (g : Failure → Failure)
    (f : Option Json → Dialogue α) (cluster : Cluster) :
    List Exchange → Except Failure α → Cluster → Prop
  | failed {error : CallError} (other : error.isNotFound = false) :
      Reads client target g f cluster [⟨client.request target .get, .error error⟩]
        (.error (g (.call error))) cluster
  | malformed {reply : Except CallError Json} {held : Option Json} {bad : Malformed}
      (shown : cluster.Shows target reply held)
      (found : client.found target.kind held = .error bad) :
      Reads client target g f cluster [⟨client.request target .get, reply⟩]
        (.error (g (.malformed bad))) cluster
  | read {reply : Except CallError Json} {held read : Option Json} {calls : List Exchange}
      {result : Except Failure α} {later : Cluster} (shown : cluster.Shows target reply held)
      (found : client.found target.kind held = .ok read)
      (rest : (f read).Goes cluster calls result later) :
      Reads client target g f cluster (⟨client.request target .get, reply⟩ :: calls) result later

theorem Cluster.Answers.get {reply : Except CallError Json} {between : Cluster}
    (answered : cluster.Answers (client.request target .get) reply between) :
    between = cluster ∧
      ((∃ object, reply = .ok object ∧ cluster.get? target.objectKey = some object) ∨
        ∃ error, reply = .error error) := by
  cases answered with
  | failed error => exact ⟨rfl, .inr ⟨error, rfl⟩⟩
  | performed =>
    rw [Cluster.perform_get]
    cases held : cluster.get? target.objectKey with
    | none => exact ⟨rfl, .inr ⟨_, rfl⟩⟩
    | some object => exact ⟨rfl, .inl ⟨object, rfl, rfl⟩⟩

theorem Client.found_eq_ok_iff (client : Client) (kind : Kind) (object : Json)
    (read : Option Json) :
    client.found kind (some object) = .ok read ↔
      ∃ value, client.received kind object = .ok value ∧ read = some value := by
  rw [found]
  cases client.received kind object <;> simp [Except.map, eq_comm]

theorem Client.found_eq_error_iff (client : Client) (kind : Kind) (object : Json)
    (bad : Malformed) :
    client.found kind (some object) = .error bad ↔ client.received kind object = .error bad := by
  rw [found]
  cases client.received kind object <;> simp [Except.map]

theorem Client.reads_of_goes {g : Failure → Failure} {f : Option Json → Dialogue α}
    {result : Except Failure α}
    (goes : (((client.get target).mapFailure g).bind f).Goes cluster calls result later) :
    client.Reads target g f cluster calls result later := by
  obtain ⟨reply, between, rest, answered, rfl, goesOn⟩ := goes_ask_iff.mp goes
  obtain ⟨rfl, ⟨object, rfl, held⟩ | ⟨error, rfl⟩⟩ := answered.get
  · cases got : client.received target.kind object with
    | ok read =>
      simp only [got, Except.map, Dialogue.ofExcept] at goesOn
      exact .read (.stored held) (by rw [found, got]; rfl) goesOn
    | error bad =>
      simp only [got, Except.map, Dialogue.ofExcept] at goesOn
      obtain ⟨rfl, rfl, rfl⟩ := goes_fail_iff.mp goesOn
      exact .malformed (.stored held) (by rw [found, got]; rfl)
  · cases absent : error.isNotFound with
    | true =>
      simp only [absent, if_true] at goesOn
      exact .read (.nothing absent) rfl (goes_note_iff.mp goesOn)
    | false =>
      simp only [absent, Bool.false_eq_true, if_false] at goesOn
      obtain ⟨rfl, rfl, rfl⟩ := goes_fail_iff.mp goesOn
      exact .failed absent

/-- A read by itself leaves the cluster as it is. -/
theorem Client.get_cases {result : Except Failure (Option Json)}
    (goes : (client.get target).Goes cluster calls result later) :
    later = cluster ∧
      ((∃ failure, result = .error failure ∧ ∀ bad, failure ≠ .unwritable bad) ∨
        ∃ reply held read, result = .ok read ∧ calls = [⟨client.request target .get, reply⟩] ∧
          cluster.Shows target reply held ∧ client.found target.kind held = .ok read) := by
  have reads : client.Reads target id .done cluster calls result later := by
    apply reads_of_goes
    rwa [mapFailure_id, bind_done]
  cases reads with
  | failed | malformed => exact ⟨rfl, .inl ⟨_, rfl, by simp⟩⟩
  | read shown found rest =>
    obtain ⟨rfl, rfl, rfl⟩ := goes_done_iff.mp rest
    exact ⟨rfl, .inr ⟨_, _, _, rfl, rfl, shown, found⟩⟩

/-! ### Bringing a target up to date -/

/-- What a target comes to once a write has been carried out. -/
def Action.status : Action → Status
  | create _ => .created
  | patch _ => .patched
  | get | delete => .unchanged

/-- What telling of an action gives: a status, unless it is a patch without a text. -/
def Action.outcome (status : Status) : Action → Except Failure Status
  | patch change =>
    match change.text with
    | .ok _ => .ok status
    | .error bad => .error (.unwritable bad)
  | get | create _ | delete => .ok status

theorem Action.outcome_patch (status : Status) {change : Json} (writable : change.Writable) :
    (patch change).outcome status = .ok status := by
  rw [outcome, writable.text_eq]

theorem Action.unwritable_of_outcome {status : Status} {action : Action} {failure : Failure}
    (told : action.outcome status = .error failure) : ∃ bad, failure = .unwritable bad := by
  cases action with
  | get | create | delete => cases told
  | patch change =>
    rw [outcome] at told
    split at told
    · cases told
    · exact ⟨_, (Except.error.inj told).symm⟩

theorem Upserter.goes_tellPatch {level : Log.Level} {front : String} {change : Json}
    {status : Status} {result : Except Failure Status}
    (goes : ((tellPatch level front change).bind fun _ => .done status).Goes cluster calls result
      later) : calls = [] ∧ result = (Action.patch change).outcome status ∧ later = cluster := by
  rw [tellPatch] at goes
  rw [Action.outcome]
  cases told : change.text with
  | ok text =>
    rw [told] at goes
    exact goes_done_iff.mp (goes_note_iff.mp goes)
  | error bad =>
    rw [told] at goes
    exact goes_fail_iff.mp goes

namespace Upserter
variable {upserter : Upserter} {mutation : Mutation} {field : String} {value : Json}

/-- What is only announced when it is known what is due. -/
def announce (target : Target) : Except Malformed (Option Action) → Dialogue Status
  | .error bad => .fail (.malformed bad)
  | .ok none =>
    .note ⟨.debug, .upserter, target.key ++ " already up to date"⟩ (.done .unchanged)
  | .ok (some (.patch change)) =>
    (tellPatch .info ("[DRY-RUN] Would patch " ++ target.key ++ ": ") change).bind
      fun _ => .done .dryRun
  | .ok (some _) =>
    .note ⟨.info, .upserter, "[DRY-RUN] Would create " ++ target.key⟩ (.done .dryRun)

theorem announce_patch (target : Target) {change : Json} (writable : change.Writable) :
    announce target (.ok (some (.patch change))) =
      .note ⟨.info, .upserter, "[DRY-RUN] Would patch " ++ target.key ++ ": " ++ change.spelled⟩
        (.done .dryRun) := by
  rw [announce, tellPatch, writable.text_eq]
  rfl

/-- How bringing a target up to date goes on when it is known what is due. -/
def proceed (upserter : Upserter) (target : Target) (due : Except Malformed (Option Action)) :
    Dialogue Status :=
  if upserter.dryRun then announce target due else Course.resume upserter.client target due

theorem proceed_error (upserter : Upserter) (target : Target) (bad : Malformed) :
    upserter.proceed target (.error bad) = .fail (.malformed bad) := by
  rw [proceed]
  split <;> rfl

theorem proceed_none (upserter : Upserter) (target : Target) :
    upserter.proceed target (.ok none) =
      .note ⟨.debug, .upserter, target.key ++ " already up to date"⟩ (.done .unchanged) := by
  rw [proceed]
  split <;> rfl

theorem create_eq_proceed (manages : target.Manages mutation field value) :
    upserter.create target mutation.apply =
      upserter.proceed target (upserter.client.due target mutation none) := by
  obtain ⟨client, dryRun⟩ := upserter
  cases dryRun with
  | false => exact Course.create_eq manages client
  | true =>
    have made := (manages.apply_eq_ok_iff target.skeleton _).mpr
      ⟨Client.takesLabels_skeleton target, rfl⟩
    rw [Client.due_none manages, create, made]
    rfl

theorem update_eq_proceed (written : target.kind.isWritten) {stored read : Json}
    (received : upserter.client.received target.kind stored = .ok read) :
    upserter.update target mutation.apply read =
      upserter.proceed target (upserter.client.due target mutation (some stored)) := by
  obtain ⟨client, dryRun⟩ := upserter
  cases dryRun with
  | false => exact Course.update_eq written received
  | true =>
    have read' : client.received target.kind stored = .ok read := received
    rw [Client.due, read', update]
    dsimp only
    cases mutation.apply read with
    | error bad => rfl
    | ok wanted =>
      simp only [Dialogue.ofExcept, Dialogue.bind_eq, Dialogue.bind]
      cases Json.diff read.members wanted.members <;> rfl

/-- Bringing a target up to date, reply by reply: what is read settles what is due. -/
theorem upsert_eq (manages : target.Manages mutation field value) (upserter : Upserter) :
    upserter.upsert target mutation.apply =
      .ask (upserter.client.request target .get) fun
        | .ok stored =>
          upserter.proceed target (upserter.client.due target mutation (some stored))
        | .error error =>
          if error.isNotFound then
            .note ⟨.debug, .client, target.key ++ " not found"⟩
              (upserter.proceed target (upserter.client.due target mutation none))
          else .fail (Failure.tagged .reading target (.call error)) := by
  rw [← create_eq_proceed manages]
  apply (Client.read_eq _ _ _ _).trans
  apply congrArg (Dialogue.ask _)
  funext reply
  cases reply with
  | error error => rfl
  | ok stored =>
    dsimp only
    cases got : upserter.client.received target.kind stored with
    | ok read => exact update_eq_proceed manages.written got
    | error bad =>
      rw [Client.due, got]
      exact (proceed_error upserter target bad).symm

/-- How a write ends for the one who sent it. -/
def ending (client : Client) (target : Target) (action : Action) :
    Except CallError Json → Except Failure Status
  | .error error => .error (.tagged .writing target (.call error))
  | .ok object =>
    match client.view target.kind object with
    | .ok _ => action.outcome action.status
    | .error bad => .error (.malformed bad)

/-- What bringing a target up to date can come to. It is read first; what is due then is what it
would be if that were stored which the read shows. -/
inductive Brings (upserter : Upserter) (target : Target) (mutation : Mutation)
    (cluster : Cluster) : List Exchange → Except Failure Status → Cluster → Prop
  | unread {error : CallError} (other : error.isNotFound = false) :
      Brings upserter target mutation cluster
        [⟨upserter.client.request target .get, .error error⟩]
        (.error (.tagged .reading target (.call error))) cluster
  | refused {reply : Except CallError Json} {held : Option Json} {bad : Malformed}
      (shown : cluster.Shows target reply held)
      (due : upserter.client.due target mutation held = .error bad) :
      Brings upserter target mutation cluster [⟨upserter.client.request target .get, reply⟩]
        (.error (.malformed bad)) cluster
  | idle {reply : Except CallError Json} {held : Option Json}
      (shown : cluster.Shows target reply held)
      (due : upserter.client.due target mutation held = .ok none) :
      Brings upserter target mutation cluster [⟨upserter.client.request target .get, reply⟩]
        (.ok .unchanged) cluster
  | announced {reply : Except CallError Json} {held : Option Json} {action : Action}
      (shown : cluster.Shows target reply held)
      (due : upserter.client.due target mutation held = .ok (some action))
      (dry : upserter.dryRun = true) :
      Brings upserter target mutation cluster [⟨upserter.client.request target .get, reply⟩]
        (action.outcome .dryRun) cluster
  | sent {reply answer : Except CallError Json} {held : Option Json} {action : Action}
      {later : Cluster} (shown : cluster.Shows target reply held)
      (due : upserter.client.due target mutation held = .ok (some action))
      (live : upserter.dryRun = false)
      (answered : cluster.Answers (upserter.client.request target action) answer later) :
      Brings upserter target mutation cluster
        [⟨upserter.client.request target .get, reply⟩,
          ⟨upserter.client.request target action, answer⟩]
        (ending upserter.client target action answer) later

theorem goes_told {action : Action} {result : Except Failure Status}
    (goes : (Course.told target action).Goes cluster calls result later) :
    calls = [] ∧ result = action.outcome action.status ∧ later = cluster := by
  cases action with
  | get | delete => exact goes_done_iff.mp goes
  | create object => exact goes_done_iff.mp (goes_note_iff.mp goes)
  | patch change => exact goes_tellPatch (goes_note_iff.mp goes)

theorem goes_written {action : Action} {result : Except Failure Status}
    (goes : (Course.written client target action (Course.told target action)).Goes
      cluster calls result later) :
    ∃ answer, calls = [⟨client.request target action, answer⟩] ∧
      result = ending client target action answer ∧
      cluster.Answers (client.request target action) answer later := by
  obtain ⟨answer, between, rest, answered, rfl, goesOn⟩ := goes_ask_iff.mp goes
  refine ⟨answer, ?_⟩
  cases answer with
  | error error =>
    obtain ⟨rfl, rfl, rfl⟩ := goes_fail_iff.mp goesOn
    exact ⟨rfl, rfl, answered⟩
  | ok object =>
    rw [ending]
    cases viewed : client.view target.kind object with
    | ok seen =>
      simp only [viewed, Dialogue.ofExcept, Dialogue.bind] at goesOn
      obtain ⟨rfl, rfl, rfl⟩ := goes_told goesOn
      exact ⟨rfl, rfl, answered⟩
    | error bad =>
      simp only [viewed, Dialogue.ofExcept, Dialogue.bind] at goesOn
      obtain ⟨rfl, rfl, rfl⟩ := goes_fail_iff.mp goesOn
      exact ⟨rfl, rfl, answered⟩

theorem goes_announce {action : Action} {result : Except Failure Status}
    (goes : (announce target (.ok (some action))).Goes cluster calls result later) :
    calls = [] ∧ result = action.outcome .dryRun ∧ later = cluster := by
  cases action with
  | get | create | delete => exact goes_done_iff.mp (goes_note_iff.mp goes)
  | patch change => exact goes_tellPatch goes

/-- What follows a read is a way of bringing the target up to date. -/
theorem brings_of_proceed {reply : Except CallError Json} {held : Option Json}
    {result : Except Failure Status} (shown : cluster.Shows target reply held)
    (goes : (upserter.proceed target (upserter.client.due target mutation held)).Goes
      cluster calls result later) :
    upserter.Brings target mutation cluster
      (⟨upserter.client.request target .get, reply⟩ :: calls) result later := by
  cases due : upserter.client.due target mutation held with
  | error bad =>
    rw [due, proceed_error] at goes
    obtain ⟨rfl, rfl, rfl⟩ := goes_fail_iff.mp goes
    exact .refused shown due
  | ok action =>
    cases action with
    | none =>
      rw [due, proceed_none] at goes
      obtain ⟨rfl, rfl, rfl⟩ := goes_done_iff.mp (goes_note_iff.mp goes)
      exact .idle shown due
    | some action =>
      rw [due, proceed] at goes
      cases mode : upserter.dryRun with
      | true =>
        rw [if_pos mode] at goes
        obtain ⟨rfl, rfl, rfl⟩ := goes_announce goes
        exact .announced shown due mode
      | false =>
        rw [if_neg (by simp [mode])] at goes
        obtain ⟨answer, rfl, rfl, answered⟩ := goes_written goes
        exact .sent shown due mode answered

/-- Bringing a target up to date goes one of these ways. -/
theorem brings_of_goes (manages : target.Manages mutation field value)
    {result : Except Failure Status}
    (goes : (upserter.upsert target mutation.apply).Goes cluster calls result later) :
    upserter.Brings target mutation cluster calls result later := by
  rw [upsert_eq manages] at goes
  obtain ⟨reply, between, rest, answered, rfl, goesOn⟩ := goes_ask_iff.mp goes
  obtain ⟨rfl, ⟨object, rfl, held⟩ | ⟨error, rfl⟩⟩ := answered.get
  · exact brings_of_proceed (.stored held) goesOn
  · cases absent : error.isNotFound with
    | true =>
      simp only [absent, if_true] at goesOn
      exact brings_of_proceed (.nothing absent) (goes_note_iff.mp goesOn)
    | false =>
      simp only [absent, Bool.false_eq_true, if_false] at goesOn
      obtain ⟨rfl, rfl, rfl⟩ := goes_fail_iff.mp goesOn
      exact .unread absent

/-- Bringing a target up to date leaves well-formed objects where there were no others. -/
theorem Brings.wellFormed (manages : target.Manages mutation field value)
    {result : Except Failure Status}
    (brings : upserter.Brings target mutation cluster calls result later)
    (wellFormed : cluster.WellFormed) : later.WellFormed := by
  cases brings with
  | unread | refused | idle | announced => exact wellFormed
  | @sent reply answer held action _ shown due live answered =>
    cases answered with
    | failed error => exact wellFormed
    | performed =>
      rw [Cluster.perform_request]
      apply wellFormed.act
      apply Client.wellFormed_of_due manages _ due
      rintro stored rfl
      cases shown with
      | stored there => exact wellFormed _ stored there

/-- Targets with mutations of their objects, each of which writes the member that is written in
objects of its kind. -/
def Managed (targets : List (Target × Mutation)) : Prop :=
  ∀ target ∈ targets, ∃ value, target.1.Manages target.2 target.1.kind.payload value

theorem Managed.of_cons {targets : List (Target × Mutation)}
    (managed : Managed ((target, mutation) :: targets)) :
    (∃ value, target.Manages mutation target.kind.payload value) ∧ Managed targets :=
  List.forall_mem_cons.mp managed

/-- What bringing targets up to date in order can come to: the first that fails is the last. -/
inductive BringsAll (upserter : Upserter) : List (Target × Mutation) → PassResult → Cluster →
    List Exchange → Except Failure PassResult → Cluster → Prop
  | nil (before : PassResult) (cluster : Cluster) :
      BringsAll upserter [] before cluster [] (.ok before) cluster
  | stop {target : Target} {mutation : Mutation} {rest : List (Target × Mutation)}
      {before : PassResult} {cluster later : Cluster} {calls : List Exchange} {failure : Failure}
      (brings : upserter.Brings target mutation cluster calls (.error failure) later) :
      BringsAll upserter ((target, mutation) :: rest) before cluster calls (.error failure) later
  | next {target : Target} {mutation : Mutation} {rest : List (Target × Mutation)}
      {before : PassResult} {status : Status} {cluster between later : Cluster}
      {first calls : List Exchange} {result : Except Failure PassResult}
      (brings : upserter.Brings target mutation cluster first (.ok status) between)
      (goesOn : BringsAll upserter rest (before.book target status) between calls result later) :
      BringsAll upserter ((target, mutation) :: rest) before cluster (first ++ calls) result later

theorem bringsAll_of_goes {targets : List (Target × Mutation)}
    (managed : Managed targets)
    {before : PassResult} {result : Except Failure PassResult}
    (goes : (Reconciler.upsertAll upserter before targets).Goes cluster calls result later) :
    upserter.BringsAll targets before cluster calls result later := by
  induction targets generalizing before cluster calls with
  | nil =>
    obtain ⟨rfl, rfl, rfl⟩ := goes_done_iff.mp goes
    exact .nil before _
  | cons target rest ih =>
    obtain ⟨⟨value, manages⟩, others⟩ := managed.of_cons
    rcases goes.of_bind with ⟨failure, first, rfl⟩ | ⟨status, between, _, _, first, last, rfl⟩
    · exact .stop (brings_of_goes manages first)
    · exact .next (brings_of_goes manages first) (ih others last)

end Upserter

/-! ### The layout -/

/-- What looking for the layout can come to. -/
inductive Detector.Finds (client : Client) (ns : String) (cluster : Cluster) :
    Detector → List Exchange → Except Failure Layout → Prop
  | fixed (layout : Layout) : Finds client ns cluster (.fixed layout) [] (.ok layout)
  | unread {name : String} {error : CallError} (other : error.isNotFound = false) :
      Finds client ns cluster (.sentinel name)
        [⟨client.request (Detector.sentinelTarget name ns) .get, .error error⟩]
        (.error (.tagged .reading (Detector.sentinelTarget name ns) (.call error)))
  | malformed {name : String} {object : Json} {bad : Malformed}
      (held : cluster.get? (Detector.sentinelTarget name ns).objectKey = some object)
      (received : client.received .statefulSet object = .error bad) :
      Finds client ns cluster (.sentinel name)
        [⟨client.request (Detector.sentinelTarget name ns) .get, .ok object⟩]
        (.error (.malformed bad))
  | present {name : String} {object read : Json}
      (held : cluster.get? (Detector.sentinelTarget name ns).objectKey = some object)
      (received : client.received .statefulSet object = .ok read) :
      Finds client ns cluster (.sentinel name)
        [⟨client.request (Detector.sentinelTarget name ns) .get, .ok object⟩] (.ok .legacy)
  | absent {name : String} {error : CallError} (absent : error.isNotFound = true) :
      Finds client ns cluster (.sentinel name)
        [⟨client.request (Detector.sentinelTarget name ns) .get, .error error⟩] (.ok .modern)

theorem Detector.finds_of_goes {detector : Detector} {ns : String} {result : Except Failure Layout}
    (goes : (detector.detect client ns).Goes cluster calls result later) :
    later = cluster ∧ Detector.Finds client ns cluster detector calls result := by
  cases detector with
  | fixed layout =>
    obtain ⟨rfl, rfl, rfl⟩ := goes_done_iff.mp goes
    exact ⟨rfl, .fixed layout⟩
  | sentinel name =>
    cases Client.reads_of_goes goes with
    | failed other => exact ⟨rfl, .unread other⟩
    | malformed shown found =>
      cases shown with
      | nothing absent => cases found
      | stored held =>
        rw [Client.found_eq_error_iff] at found
        exact ⟨rfl, .malformed held found⟩
    | read shown found rest =>
      obtain ⟨rfl, rfl, rfl⟩ := goes_done_iff.mp (goes_note_iff.mp rest)
      cases shown with
      | nothing absent =>
        cases found
        exact ⟨rfl, .absent absent⟩
      | stored held =>
        obtain ⟨value, received, rfl⟩ := (Client.found_eq_ok_iff _ _ _ _).mp found
        exact ⟨rfl, .present held received⟩

/-! ### The legacy object -/

theorem Cluster.Answers.delete {reply : Except CallError Json} {between : Cluster}
    (answered : cluster.Answers (client.request target .delete) reply between) :
    (reply = .ok deleted ∧ between = cluster.remove target.objectKey) ∨
      ∃ error, reply = .error error ∧ between = cluster := by
  cases answered with
  | failed error => exact .inr ⟨error, rfl, rfl⟩
  | performed =>
    rw [Cluster.perform_request]
    cases held : cluster.get? target.objectKey with
    | none =>
      rw [Cluster.act_delete_of_absent held]
      exact .inr ⟨_, rfl, rfl⟩
    | some object =>
      rw [Cluster.act_delete_of_held held]
      exact .inl ⟨rfl, rfl⟩

namespace Reconciler
variable {reconciler : Reconciler} {ns : String}

/-- What the deletion of the legacy object can come to. -/
inductive Clears (reconciler : Reconciler) (ns : String) (cluster : Cluster) :
    List Exchange → Except Failure Bool → Cluster → Prop
  | announced (dry : reconciler.dryRun = true) :
      Clears reconciler ns cluster [] (.ok false) cluster
  | failed {error : CallError} (live : reconciler.dryRun = false)
      (other : error.isNotFound = false) :
      Clears reconciler ns cluster
        [⟨reconciler.client.request (reconciler.legacyTarget ns) .delete, .error error⟩]
        (.error (.tagged .deleting (reconciler.legacyTarget ns) (.call error))) cluster
  | absent {error : CallError} (live : reconciler.dryRun = false)
      (absent : error.isNotFound = true) :
      Clears reconciler ns cluster
        [⟨reconciler.client.request (reconciler.legacyTarget ns) .delete, .error error⟩]
        (.ok false) cluster
  | deleted (live : reconciler.dryRun = false) :
      Clears reconciler ns cluster
        [⟨reconciler.client.request (reconciler.legacyTarget ns) .delete, .ok Cluster.deleted⟩]
        (.ok true) (cluster.remove (reconciler.legacyTarget ns).objectKey)

/-- The deletion leaves nothing that was not there. -/
theorem Clears.wellFormed {result : Except Failure Bool}
    (clears : reconciler.Clears ns cluster calls result later) (wellFormed : cluster.WellFormed) :
    later.WellFormed := by
  cases clears with
  | announced | failed | absent => exact wellFormed
  | deleted => exact Cluster.WellFormed.remove wellFormed _

theorem clears_of_goes {result : Except Failure Bool}
    (goes : (reconciler.cleanup ns).Goes cluster calls result later) :
    reconciler.Clears ns cluster calls result later := by
  cases mode : reconciler.dryRun with
  | true =>
    rw [cleanup, mode] at goes
    obtain ⟨rfl, rfl, rfl⟩ := goes_done_iff.mp (goes_note_iff.mp goes)
    exact .announced mode
  | false =>
    rw [Course.cleanup_eq mode] at goes
    obtain ⟨reply, between, rest, answered, rfl, goesOn⟩ := goes_ask_iff.mp goes
    rcases answered.delete with ⟨rfl, rfl⟩ | ⟨error, rfl, rfl⟩
    · obtain ⟨rfl, rfl, rfl⟩ := goes_done_iff.mp (goes_note_iff.mp goesOn)
      exact .deleted mode
    · cases absent : error.isNotFound with
      | true =>
        simp only [absent, if_true] at goesOn
        obtain ⟨rfl, rfl, rfl⟩ := goes_done_iff.mp (goes_note_iff.mp goesOn)
        exact .absent mode absent
      | false =>
        simp only [absent, Bool.false_eq_true, if_false] at goesOn
        obtain ⟨rfl, rfl, rfl⟩ := goes_fail_iff.mp goesOn
        exact .failed mode absent

/-! ### The pass -/

theorem mem_managedTargets (reconciler : Reconciler) (ns : String) (layout : Layout)
    {entry : Target × Mutation} (member : entry ∈ reconciler.targets ns layout) :
    entry ∈ Wanted.managedTargets reconciler.documents ns := by
  cases layout with
  | legacy =>
    rw [List.mem_singleton.mp member]
    exact List.mem_cons_self
  | modern => exact List.mem_cons_of_mem _ member

theorem managed_targets (reconciler : Reconciler) (ns : String) (layout : Layout) :
    Upserter.Managed (reconciler.targets ns layout) := fun _ member =>
  Wanted.manages_of_mem reconciler.documents ns _ (mem_managedTargets reconciler ns layout member)

theorem distinct_targets (reconciler : Reconciler) (ns : String) (layout : Layout) :
    ((reconciler.targets ns layout).map fun target => target.1.objectKey).Nodup := by
  have distinct := Wanted.distinct_keys reconciler.client reconciler.documents reconciler.detector
    ns layout
  rw [steps, List.map_append, List.map_map] at distinct
  exact distinct.of_append_right

/-- What a pass can come to in a layout: it is prepared, and then the targets follow in order. -/
inductive Carries (reconciler : Reconciler) (ns : String) (cluster : Cluster) :
    Layout → List Exchange → Except Failure PassResult → Cluster → Prop
  | uncleared {calls : List Exchange} {failure : Failure} {later : Cluster}
      (clears : reconciler.Clears ns cluster calls (.error failure) later) :
      Carries reconciler ns cluster .modern calls (.error failure) later
  | cleared {first rest : List Exchange} {deleted : Bool} {between later : Cluster}
      {start : PassResult} {result : Except Failure PassResult}
      (clears : reconciler.Clears ns cluster first (.ok deleted) between)
      (brings : reconciler.upserter.BringsAll (reconciler.targets ns .modern) start between rest
        result later) :
      Carries reconciler ns cluster .modern (first ++ rest) (result.map PassResult.finish) later
  | legacy {calls : List Exchange} {later : Cluster} {start : PassResult}
      {result : Except Failure PassResult}
      (brings : reconciler.upserter.BringsAll (reconciler.targets ns .legacy) start cluster calls
        result later) :
      Carries reconciler ns cluster .legacy calls (result.map PassResult.finish) later

/-- What a pass does once it knows the layout. -/
def carryOut (reconciler : Reconciler) (ns : String) (layout : Layout) : Dialogue PassResult :=
  .note ⟨.info, .reconciler,
      "Reconciling monitoring config in " ++ ns ++ " using " ++ layout.word ++ " schema"⟩
    ((reconciler.prepare ns layout).bind fun deleted =>
      (upsertAll reconciler.upserter { PassResult.start ns layout with legacyDeleted := deleted }
        (reconciler.targets ns layout)).bind fun result => .done result.finish)

theorem reconcile_eq (reconciler : Reconciler) (ns : String) :
    reconciler.reconcile ns = (reconciler.detect ns).bind (reconciler.carryOut ns) :=
  rfl

/-- The targets that follow once the layout is prepared. -/
theorem bringsAll_of_carryOut {layout : Layout} {start : PassResult}
    {result : Except Failure PassResult}
    (goes : ((upsertAll reconciler.upserter start (reconciler.targets ns layout)).bind
      fun result => .done result.finish).Goes cluster calls result later) :
    ∃ before, result = before.map PassResult.finish ∧
      reconciler.upserter.BringsAll (reconciler.targets ns layout) start cluster calls before
        later := by
  have managed := reconciler.managed_targets ns layout
  rcases goes.of_bind with ⟨failure, brings, rfl⟩ |
    ⟨value, between, first, rest, brings, last, rfl⟩
  · exact ⟨.error failure, rfl, Upserter.bringsAll_of_goes managed brings⟩
  · obtain ⟨rfl, rfl, rfl⟩ := goes_done_iff.mp last
    rw [List.append_nil]
    exact ⟨.ok value, rfl, Upserter.bringsAll_of_goes managed brings⟩

theorem carries_of_goes {layout : Layout} {result : Except Failure PassResult}
    (goes : (reconciler.carryOut ns layout).Goes cluster calls result later) :
    reconciler.Carries ns cluster layout calls result later := by
  have prepared := goes_note_iff.mp goes
  cases layout with
  | legacy =>
    obtain ⟨before, rfl, brings⟩ := bringsAll_of_carryOut prepared
    exact .legacy brings
  | modern =>
    rcases prepared.of_bind with ⟨failure, clears, rfl⟩ |
      ⟨deleted, between, first, rest, clears, last, rfl⟩
    · exact .uncleared (clears_of_goes clears)
    · obtain ⟨before, rfl, brings⟩ := bringsAll_of_carryOut last
      exact .cleared (clears_of_goes clears) brings

/-- A pass looks for the layout; if it finds one, it carries it out. -/
theorem finds_or_carries_of_goes {result : Except Failure PassResult}
    (goes : (reconciler.reconcile ns).Goes cluster calls result later) :
    (∃ failure, Detector.Finds reconciler.client ns cluster reconciler.detector calls
        (.error failure) ∧ result = .error failure ∧ later = cluster) ∨
      ∃ layout first rest, Detector.Finds reconciler.client ns cluster reconciler.detector first
        (.ok layout) ∧ reconciler.Carries ns cluster layout rest result later ∧
          calls = first ++ rest := by
  rw [reconcile_eq] at goes
  rcases goes.of_bind with ⟨failure, finds, rfl⟩ |
    ⟨layout, between, first, rest, finds, last, rfl⟩
  · obtain ⟨rfl, found⟩ := Detector.finds_of_goes finds
    exact .inl ⟨failure, found, rfl, rfl⟩
  · obtain ⟨rfl, found⟩ := Detector.finds_of_goes finds
    exact .inr ⟨layout, first, rest, found, carries_of_goes last, rfl⟩

end Reconciler
end Upkeep
