import Upkeep.Proofs.Cluster.Realization
import Upkeep.Proofs.Pass.Bringing
import Upkeep.Proofs.Pass.Rehearsal

/-! Bringing one target up to date with any mutator, on a server on which anything may fail. If it
ends well, what is stored is what the mutator made, but for what the store writes into it; if it
fails, the objects are as they were, unless the patch was carried out and had no text to be told by.
A mutator may do what it likes with what it is given, as long as it makes a version of that. -/
namespace Upkeep

/-- What a mutator makes of an object, if it makes anything, is a version of it. -/
def Mutator.Fair (mutate : Mutator) (before : Json) : Prop :=
  ∀ after, mutate before = .ok after → Object.Revises after before

/-- What a mutator is given on a server: what is read there, or a new object if nothing is. -/
def Upserter.given (upserter : Upserter) (target : Target) (server : Server) :
    Except Failure Json :=
  ((upserter.client.get target).run server).result.map fun read => read.getD target.skeleton

/-- What there is for a mutator: what is stored, with its version and kind filled in, or a new object.
-/
def Target.given (target : Target) : Option Json → Except Malformed Json
  | none => .ok target.skeleton
  | some stored => Client.withDefaults target.kind stored

/-! ### Ways to go -/

open Dialogue

theorem Failure.tagged_ne_unwritable {stage : Stage} {target : Target} {failure : Failure}
    (early : ∀ bad, failure ≠ .unwritable bad) (bad : Unwritable) :
    failure.tagged stage target ≠ .unwritable bad := by
  rw [Failure.tagged.eq_def]
  split
  · split <;> simp
  · exact early bad

/-- What has to be sent for a target, given what has been read. -/
def Mutator.due (mutate : Mutator) (target : Target) :
    Option Json → Except Malformed (Option Action)
  | none => (mutate target.skeleton).map fun wanted => some (.create wanted)
  | some given =>
    (mutate given).map fun wanted => Action.toSend (Json.diff given.members wanted.members)

namespace Upserter
variable {upserter : Upserter} {target : Target} {mutate : Mutator} {cluster later : Cluster}
  {calls : List Exchange}

/-- What bringing a target up to date comes to: it fails before anything is sent, or nothing has to be
sent, or what has to be sent is sent. -/
inductive Attempts (upserter : Upserter) (target : Target) (mutate : Mutator) (server : Server) :
    List Exchange → Except Failure Status → Cluster → Prop
  | failed (calls : List Exchange) {failure : Failure} (early : ∀ bad, failure ≠ .unwritable bad) :
      Attempts upserter target mutate server calls (.error failure) server.cluster
  | idle {reply : Except CallError Json} {held read : Option Json}
      (known : upserter.given target server = .ok (read.getD target.skeleton))
      (shown : server.cluster.Shows target reply held)
      (found : upserter.client.found target.kind held = .ok read)
      (due : mutate.due target read = .ok none) :
      Attempts upserter target mutate server [⟨upserter.client.request target .get, reply⟩]
        (.ok .unchanged) server.cluster
  | sent {reply answer : Except CallError Json} {held read : Option Json} {action : Action}
      {later : Cluster}
      (known : upserter.given target server = .ok (read.getD target.skeleton))
      (shown : server.cluster.Shows target reply held)
      (found : upserter.client.found target.kind held = .ok read)
      (due : mutate.due target read = .ok (some action))
      (answered : server.cluster.Answers (upserter.client.request target action) answer later) :
      Attempts upserter target mutate server
        [⟨upserter.client.request target .get, reply⟩,
          ⟨upserter.client.request target action, answer⟩]
        (ending upserter.client target action answer) later

/-- A version of a new object says where it is to be created, unless its kind is only read. -/
theorem creation_of_revises {wanted : Json} (revises : Object.Revises wanted target.skeleton)
    (client : Client) :
    client.creation wanted = .ok (client.request target (.create wanted)) ∨
      ∃ bad, client.creation wanted = .error bad := by
  have whole := Object.eq_obj_of_form revises.isObject
  have required : ∀ {object : Json} {key found}, object.form = .obj → object.get? key = some found →
      Object.required object key = .ok found := by
    intro object key found isObject held
    rw [Object.eq_obj_of_form isObject] at held ⊢
    rw [Object.required, show Table.get? object.members key = some found from held]
  have kind : wanted.get? "kind" = some (.str target.kind.name) := revises.kind
  have name : (Object.metadata wanted).get? "name" = some (.str target.name) := revises.name
  have ns : (Object.metadata wanted).get? "namespace" = some (.str target.ns) := revises.ns
  have there := (revises.metadataKept ⟨_, rfl⟩).get?_eq
  have inside : (Json.obj (Object.metadata wanted)).form = .obj := rfl
  rw [Client.creation, required revises.isObject kind, required revises.isObject there]
  simp only [Bind.bind, Except.bind]
  rw [required inside ns, required inside name]
  cases written : Client.writtenKind (.str target.kind.name) with
  | error bad => exact .inr ⟨bad, rfl⟩
  | ok found =>
    left
    have same : found = target.kind := by
      cases h : target.kind <;> rw [h] at written <;> cases written <;> rfl
    rw [same]
    rfl

theorem create_cases {client : Client} (fair : mutate.Fair target.skeleton) :
    Upserter.create ⟨client, false⟩ target mutate =
        Course.resume client target (mutate.due target none) ∨
      ∃ bad, Upserter.create ⟨client, false⟩ target mutate = .fail (.malformed bad) := by
  rw [Upserter.create, Mutator.due]
  cases made : mutate target.skeleton with
  | error bad => exact .inl rfl
  | ok wanted =>
    rcases creation_of_revises (fair wanted made) client with known | ⟨bad, unknown⟩
    · left
      apply Course.written_eq
      rw [Client.create, known]
      rfl
    · right
      refine ⟨bad, ?_⟩
      simp only [Dialogue.ofExcept, Dialogue.bind_eq, Dialogue.bind, Client.create, unknown,
        Dialogue.mapFailure]
      rfl

theorem update_cases {client : Client} (given : Json) :
    Upserter.update ⟨client, false⟩ target mutate given =
        Course.resume client target (mutate.due target (some given)) ∨
      ∃ bad, Upserter.update ⟨client, false⟩ target mutate given = .fail (.malformed bad) := by
  rw [Upserter.update, Mutator.due]
  cases made : mutate given with
  | error bad => exact .inl rfl
  | ok wanted =>
    simp only [Dialogue.ofExcept, Dialogue.bind_eq, Dialogue.bind, Except.map]
    cases Json.diff given.members wanted.members with
    | nil => exact .inl rfl
    | cons part rest =>
      cases written : target.kind.isWritten with
      | true => exact .inl (Course.send_eq written _)
      | false =>
        right
        refine ⟨.unknownKind (.text target.kind.name), ?_⟩
        dsimp only
        rw [Upserter.send, Client.patch, Client.checkWritten, written]
        rfl

theorem attempts_of_resume {server : Server} {reply : Except CallError Json}
    {held read : Option Json} {result : Except Failure Status}
    (known : upserter.given target server = .ok (read.getD target.skeleton))
    (shown : server.cluster.Shows target reply held)
    (found : upserter.client.found target.kind held = .ok read)
    (goes : (Course.resume upserter.client target (mutate.due target read)).Goes
      server.cluster calls result later) :
    upserter.Attempts target mutate server
      (⟨upserter.client.request target .get, reply⟩ :: calls) result later := by
  cases due : mutate.due target read with
  | error bad =>
    rw [due] at goes
    obtain ⟨rfl, rfl, rfl⟩ := goes_fail_iff.mp goes
    exact .failed _ (by simp)
  | ok action =>
    rw [due] at goes
    cases action with
    | none =>
      obtain ⟨rfl, rfl, rfl⟩ := goes_done_iff.mp (goes_note_iff.mp goes)
      exact .idle known shown found due
    | some action =>
      obtain ⟨answer, rfl, rfl, answered⟩ := goes_written goes
      exact .sent known shown found due answered

/-- Bringing a target up to date goes one of these ways, by what is read. -/
theorem attempts_of_run (upserter : Upserter) (target : Target) (server : Server)
    (live : upserter.dryRun = false)
    (fair : ∀ before, upserter.given target server = .ok before → mutate.Fair before) :
    let outcome := (upserter.upsert target mutate).run server
    upserter.Attempts target mutate server (Event.exchanges outcome.events) outcome.result
      outcome.server.cluster := by
  obtain ⟨client, dryRun⟩ := upserter
  obtain rfl : dryRun = false := live
  obtain ⟨stays, ⟨failure, failed, early⟩ | ⟨reply, held, read, got, asked, shown, found⟩⟩ :=
    Client.get_cases (goes_run (client.get target) server)
  · simp only [upsert, bind_eq, run_bind, run_mapFailure, failed, Except.mapError, stays]
    exact .failed _ (Failure.tagged_ne_unwritable early)
  · have known : given ⟨client, false⟩ target server = .ok (read.getD target.skeleton) := by
      rw [given, got]
      rfl
    have either : ∀ d : Dialogue Status,
        (d = Course.resume client target (mutate.due target read) ∨
          ∃ bad, d = .fail (.malformed bad)) →
        let rest := d.run ((client.get target).run server).server
        Attempts ⟨client, false⟩ target mutate server
          (Event.exchanges (((client.get target).run server).events ++ rest.events)) rest.result
          rest.server.cluster := by
      intro d ways rest
      have onward := goes_run d ((client.get target).run server).server
      rw [Event.exchanges_append, asked]
      rw [stays] at onward
      rcases ways with rfl | ⟨bad, rfl⟩
      · exact attempts_of_resume known shown found onward
      · have stopped : rest.server.cluster = server.cluster := stays
        rw [stopped]
        exact .failed _ (by simp)
    simp only [upsert, bind_eq, run_bind, run_mapFailure, got, Except.mapError]
    cases read with
    | none => exact either _ (create_cases (fair _ known))
    | some object => exact either _ (update_cases object)

end Upserter

/-! ### What is stored afterwards -/

section
variable {client : Client} {target : Target} {cluster later : Cluster}
  {answer : Except CallError Json}

/-- A creation is refused, or the object was not there and is there now. -/
theorem Cluster.Answers.create {wanted : Json}
    (answered : cluster.Answers (client.request target (.create wanted)) answer later)
    (isObject : wanted.form = .obj) (stampable : Stampable wanted) :
    (∃ error, answer = .error error ∧ later = cluster) ∨
      cluster.get? target.objectKey = none ∧ ∃ n, answer = .ok (stamped wanted n) ∧
        later.get? target.objectKey = some (stamped wanted n) := by
  cases answered with
  | failed error => exact .inl ⟨error, rfl, rfl⟩
  | performed =>
    rw [perform_request, act.eq_def]
    cases held : cluster.get? target.objectKey with
    | some object => exact .inl ⟨_, rfl, rfl⟩
    | none =>
      dsimp only
      rw [store_eq_of_stampable cluster _ isObject stampable]
      exact .inr ⟨rfl, _, rfl, (get?_put cluster _ _ _).trans (if_pos rfl)⟩

/-- A patch that changes what is stored is refused, or the changed object is there now. One that takes
no stamp is refused late, when the counter has moved on. -/
theorem Cluster.Answers.patch {old change : Json}
    (answered : cluster.Answers (client.request target (.patch change)) answer later)
    (held : cluster.get? target.objectKey = some old) (differs : ¬ (old.apply change).same old)
    (isObject : (old.apply change).form = .obj) :
    (∃ error, answer = .error error ∧ later.objects = cluster.objects ∧
      (Stampable (old.apply change) → later = cluster)) ∨
      Stampable (old.apply change) ∧ ∃ n, answer = .ok (stamped (old.apply change) n) ∧
        later.get? target.objectKey = some (stamped (old.apply change) n) := by
  cases answered with
  | failed error => exact .inl ⟨error, rfl, rfl, fun _ => rfl⟩
  | performed =>
    rw [perform_request, act.eq_def, held]
    dsimp only
    rw [storePatched, if_neg differs]
    by_cases stampable : Stampable (old.apply change)
    · rw [store_eq_of_stampable cluster _ isObject stampable]
      exact .inr ⟨stampable, _, rfl, (get?_put cluster _ _ _).trans (if_pos rfl)⟩
    · obtain ⟨error, replied, kept⟩ := cluster.store_of_not_stampable target.objectKey stampable
      exact .inl ⟨error, replied, kept, fun other => absurd other stampable⟩

theorem Cluster.Answers.get?_of_ne {action : Action}
    (answered : cluster.Answers (client.request target action) answer later) {key : ObjectKey}
    (different : key ≠ target.objectKey) : later.get? key = cluster.get? key := by
  cases answered with
  | failed error => rfl
  | performed =>
    rw [perform_request]
    exact cluster.get?_act_of_ne action (Ne.symm different)

end

namespace Upserter
variable {upserter : Upserter} {target : Target} {mutate : Mutator} {cluster later : Cluster}
  {calls : List Exchange} {result : Except Failure Status} {given wanted : Json}

/-- A target has been brought up to date: what a mutator has made of what it was given is stored, and
the status says how that came about. -/
structure Settles (target : Target) (before after : Cluster) (given wanted : Json)
    (status : Status) (calls : List Request) : Prop where
  stored : ∃ stored, after.get? target.objectKey = some stored ∧
    Object.Realizes (before.get? target.objectKey) wanted stored
  told : status =
    if (before.get? target.objectKey).isNone then .created
    else if given.same wanted then .unchanged else .patched
  quiet : status = .unchanged ↔ ∀ call ∈ calls, call.action.verb = .get
  still : status = .unchanged → after = before

theorem due_eq_none_iff {read : Option Json} :
    mutate.due target read = .ok none ↔ ∃ given wanted, read = some given ∧
      mutate given = .ok wanted ∧ Json.diff given.members wanted.members = [] := by
  cases read with
  | none =>
    rw [Mutator.due]
    cases mutate target.skeleton <;> simp [Except.map]
  | some given =>
    rw [Mutator.due]
    cases made : mutate given with
    | error bad => simp [Except.map, made]
    | ok wanted => simp [Except.map, made, Action.toSend_eq]

theorem due_eq_some_iff {read : Option Json} {action : Action} :
    mutate.due target read = .ok (some action) ↔
      (read = none ∧ ∃ wanted, mutate target.skeleton = .ok wanted ∧ action = .create wanted) ∨
      ∃ given wanted, read = some given ∧ mutate given = .ok wanted ∧
        Json.diff given.members wanted.members ≠ [] ∧
        action = .patch (.obj (Json.diff given.members wanted.members)) := by
  cases read with
  | none =>
    rw [Mutator.due]
    cases made : mutate target.skeleton with
    | error bad => simp [Except.map]
    | ok wanted => simp [Except.map, eq_comm (a := action)]
  | some given =>
    rw [Mutator.due]
    cases made : mutate given with
    | error bad => simp [Except.map, made]
    | ok wanted => simp [Except.map, made, Action.toSend_eq, eq_comm (a := action)]

/-- What a client that gives objects as they are makes of what is shown. -/
theorem given_of_found (plain : upserter.client.typed = false) {reply : Except CallError Json}
    {held : Option Json} {given : Json} (shown : cluster.Shows target reply held)
    (found : upserter.client.found target.kind held = .ok (some given)) :
    ∃ old, cluster.get? target.objectKey = some old ∧
      Client.withDefaults target.kind old = .ok given := by
  cases shown with
  | nothing absent => cases found
  | @stored old held =>
    obtain ⟨value, received, same⟩ := (Client.found_eq_ok_iff _ _ _ _).mp found
    cases same
    refine ⟨old, held, ?_⟩
    rw [Client.received, Client.view, if_neg (by simp [plain])] at received
    exact received

theorem diff_eq_nil_iff_same (good : given.WellFormed) (isObject : given.form = .obj)
    (revises : Object.Revises wanted given) :
    Json.diff given.members wanted.members = [] ↔ given.same wanted := by
  rw [Json.diff_eq_nil_iff (Json.wellFormed_members good)
    (Json.wellFormed_members revises.wellFormed), ← Object.eq_obj_of_form isObject,
    ← Object.eq_obj_of_form revises.isObject]

section
variable {kind : Kind} {old : Json} {request : Request}

theorem settles_unchanged (held : cluster.get? target.objectKey = some old)
    (filled : Client.withDefaults kind old = .ok given) (revises : Object.Revises wanted given)
    (oldGood : old.WellFormed) (worth : given.same wanted) (reads : request.action.verb = .get) :
    Settles target cluster cluster given wanted .unchanged [request] where
  stored := by
    have good := Client.wellFormed_withDefaults filled oldGood
    have agrees := revises.agrees_stored filled oldGood good worth
    rw [held]
    exact ⟨old, rfl, agrees.realizes revises.wellFormed⟩
  told := by simp [held, worth]
  quiet := by simp [reads]
  still := fun _ => rfl

/-- A creation is refused, or it settles the target. -/
theorem settles_created {answer : Except CallError Json} {client : Client}
    (revises : Object.Revises wanted target.skeleton)
    (answered : cluster.Answers (client.request target (.create wanted)) answer later) :
    (∃ error, answer = .error error ∧ later = cluster) ∨ ∃ object, answer = .ok object ∧
      cluster.get? target.objectKey = none ∧
      Settles target cluster later target.skeleton wanted .created
        [request, client.request target (.create wanted)] := by
  have agrees : Object.Agrees none wanted wanted := .self revises.isObject revises.wellFormed
  have stampable := (revises.metadataKept ⟨_, rfl⟩).stampable
  rcases answered.create revises.isObject stampable with refused | ⟨absent, n, rfl, there⟩
  · exact .inl refused
  · have realizes := agrees.realizes_stamped revises.wellFormed stampable n
    refine .inr ⟨_, rfl, absent, ⟨_, there, absent ▸ realizes⟩, ?_, ?_, ?_⟩
    · simp [absent]
    · simp [Client.request, Action.verb, Status.created, Status.unchanged]
    · simp [Status.created, Status.unchanged]

/-- The patch that is due is refused, or it settles the target. -/
theorem settles_patched {answer : Except CallError Json} {client : Client}
    (held : cluster.get? target.objectKey = some old)
    (filled : Client.withDefaults kind old = .ok given) (revises : Object.Revises wanted given)
    (oldGood : old.WellFormed) (unlike : ¬ given.same wanted)
    (answered : cluster.Answers (client.request target
      (.patch (.obj (Json.diff given.members wanted.members)))) answer later) :
    (∃ error, answer = .error error ∧ later.objects = cluster.objects ∧
      (Cluster.Stampable wanted → later = cluster)) ∨ ∃ object, answer = .ok object ∧
      Settles target cluster later given wanted .patched
        [request, client.request target (.patch (.obj (Json.diff given.members wanted.members)))] := by
  have good := Client.wellFormed_withDefaults filled oldGood
  have agrees := revises.agrees_apply filled oldGood good
  have differs : ¬ (old.apply (.obj (Json.diff given.members wanted.members))).same old :=
    fun worth => unlike (revises.same_given_of_agrees filled oldGood good agrees worth)
  rcases answered.patch held differs agrees.isObject with ⟨error, rfl, kept, whole⟩ |
    ⟨stampable, n, rfl, there⟩
  · exact .inl ⟨error, rfl, kept, fun free =>
      whole ((agrees.stampable_iff revises.wellFormed).mpr free)⟩
  · have realizes := agrees.realizes_stamped revises.wellFormed stampable n
    refine .inr ⟨_, rfl, ⟨_, there, held ▸ realizes⟩, ?_, ?_, ?_⟩
    · simp [held, unlike]
    · simp [Client.request, Action.verb, Status.patched, Status.unchanged]
    · simp [Status.patched, Status.unchanged]

end

/-- What bringing a target up to date leaves, by its result. -/
structure Exact (upserter : Upserter) (target : Target) (mutate : Mutator) (server : Server)
    (calls : List Request) (result : Except Failure Status) (after : Cluster) : Prop where
  /-- A failure leaves all objects as they were. The counter may have moved on if a patch was refused
  because a version cannot be written into what it makes. -/
  failed : ∀ failure, result = .error failure → (∀ bad, failure ≠ .unwritable bad) →
    after.objects = server.cluster.objects ∧
      ((∀ before wanted, upserter.given target server = .ok before → mutate before = .ok wanted →
        Cluster.Stampable wanted) → after = server.cluster)
  settled : ∀ status, result = .ok status → ∃ given wanted,
    target.given (server.cluster.get? target.objectKey) = .ok given ∧ mutate given = .ok wanted ∧
      Settles target server.cluster after given wanted status calls
  /-- Only a patch that has been carried out can lack a text. -/
  untold : ∀ bad, result = .error (.unwritable bad) → ∃ given wanted,
    target.given (server.cluster.get? target.objectKey) = .ok given ∧ mutate given = .ok wanted ∧
      ¬ (Json.obj (Json.diff given.members wanted.members)).Writable ∧
      Settles target server.cluster after given wanted .patched calls
  others : ∀ key, key ≠ target.objectKey → after.get? key = server.cluster.get? key

namespace Exact
variable {server : Server} {requests : List Request}

theorem of_failed {failure : Failure} (early : ∀ bad, failure ≠ .unwritable bad)
    (kept : later.objects = server.cluster.objects)
    (whole : (∀ before wanted, upserter.given target server = .ok before →
      mutate before = .ok wanted → Cluster.Stampable wanted) → later = server.cluster) :
    upserter.Exact target mutate server requests (.error failure) later where
  failed := fun _ _ _ => ⟨kept, whole⟩
  settled := by simp
  untold := fun bad same => absurd (Except.error.inj same) (early bad)
  others := fun key _ => by rw [Cluster.get?, kept, ← Cluster.get?]

theorem of_settled {status : Status} (others : ∀ key, key ≠ target.objectKey →
      later.get? key = server.cluster.get? key)
    (there : target.given (server.cluster.get? target.objectKey) = .ok given)
    (made : mutate given = .ok wanted)
    (settles : Settles target server.cluster later given wanted status requests) :
    upserter.Exact target mutate server requests (.ok status) later where
  failed := by simp
  settled := by
    rintro _ ⟨⟩
    exact ⟨given, wanted, there, made, settles⟩
  untold := by simp
  others := others

/-- A patch that was carried out is told of by its text, if it has one. -/
theorem of_patched (others : ∀ key, key ≠ target.objectKey →
      later.get? key = server.cluster.get? key)
    (there : target.given (server.cluster.get? target.objectKey) = .ok given)
    (made : mutate given = .ok wanted)
    (settles : Settles target server.cluster later given wanted .patched requests) :
    upserter.Exact target mutate server requests
      ((Action.patch (.obj (Json.diff given.members wanted.members))).outcome .patched) later := by
  by_cases writable : (Json.obj (Json.diff given.members wanted.members)).Writable
  · rw [Action.outcome_patch _ writable]
    exact .of_settled others there made settles
  · have untold := (Json.text_eq_error_iff _ .overlong).mpr writable
    rw [Action.outcome, untold]
    refine ⟨?_, by simp, ?_, others⟩
    · intro failure same told
      exact absurd (Except.error.inj same).symm (told .overlong)
    · intro _ _
      exact ⟨given, wanted, there, made, writable, settles⟩

end Exact

/-- Of all that was attempted, only what was carried out has left anything behind, and it is exact. -/
theorem Attempts.exact {server : Server}
    (attempts : upserter.Attempts target mutate server calls result later)
    (plain : upserter.client.typed = false)
    (fair : ∀ before, upserter.given target server = .ok before → mutate.Fair before)
    (wellFormed : server.cluster.WellFormed) :
    upserter.Exact target mutate server (calls.map Exchange.request) result later := by
  have viewed : ∀ action object, ending upserter.client target action (.ok object) =
      action.outcome action.status := by
    intro action object
    rw [ending, Client.view, if_neg (by simp [plain])]
  cases attempts with
  | failed calls early => exact .of_failed early rfl fun _ => rfl
  | idle known shown found due =>
    obtain ⟨given, wanted, rfl, made, nothing⟩ := due_eq_none_iff.mp due
    obtain ⟨old, held, filled⟩ := given_of_found plain shown found
    have oldGood := wellFormed _ old held
    have good := Client.wellFormed_withDefaults filled oldGood
    have revises := fair _ known _ made
    have worth := (diff_eq_nil_iff_same good (Client.form_withDefaults filled) revises).mp nothing
    have there : target.given (server.cluster.get? target.objectKey) = .ok given := held ▸ filled
    exact .of_settled (fun _ _ => rfl) there made
      (settles_unchanged held filled revises oldGood worth rfl)
  | sent known shown found due answered =>
    have others : ∀ key, key ≠ target.objectKey → later.get? key = server.cluster.get? key :=
      fun _ => answered.get?_of_ne
    rcases due_eq_some_iff.mp due with ⟨rfl, wanted, made, rfl⟩ |
      ⟨given, wanted, rfl, made, something, rfl⟩
    · have revises := fair _ known _ made
      rcases settles_created revises answered with ⟨error, rfl, rfl⟩ | ⟨object, rfl, absent, settles⟩
      · exact .of_failed (Failure.tagged_ne_unwritable (by simp)) rfl fun _ => rfl
      · rw [viewed]
        exact .of_settled others (absent ▸ rfl) made settles
    · obtain ⟨old, held, filled⟩ := given_of_found plain shown found
      have oldGood := wellFormed _ old held
      have good := Client.wellFormed_withDefaults filled oldGood
      have revises := fair _ known _ made
      have unlike : ¬ given.same wanted := fun worth => something
        ((diff_eq_nil_iff_same good (Client.form_withDefaults filled) revises).mpr worth)
      rcases settles_patched held filled revises oldGood unlike answered with
        ⟨error, rfl, kept, whole⟩ | ⟨object, rfl, settles⟩
      · exact .of_failed (Failure.tagged_ne_unwritable (by simp)) kept
          fun free => whole (free given wanted known made)
      · rw [viewed]
        exact .of_patched others (held ▸ filled) made settles

end Upserter

/-! ### Results -/

namespace Upserter

/-- Bringing a target up to date on a server on which any call may fail, with any mutator that is fair
to what it is given there. If it fails, the objects are as they were, unless a patch was carried out
that has no text. If it ends well, the stored object is what the mutator has made of the object that
was read, or of a new one; it was created if it was not there, nothing was written if nothing
differs, and otherwise it was patched. All other objects are as they were. -/
theorem upsert_exact (upserter : Upserter) (target : Target) (server : Server) {mutate : Mutator}
    (plain : upserter.client.typed = false) (live : upserter.dryRun = false)
    (fair : ∀ before, upserter.given target server = .ok before → mutate.Fair before)
    (wellFormed : server.cluster.WellFormed) :
    let outcome := (upserter.upsert target mutate).run server
    upserter.Exact target mutate server outcome.calls outcome.result outcome.server.cluster := by
  intro outcome
  have exact := (attempts_of_run upserter target server live fair).exact plain fair wellFormed
  rwa [Event.map_request_exchanges] at exact

/-- What is given is a well-formed object. -/
theorem given_eq_ok {upserter : Upserter} {target : Target} {server : Server} {before : Json}
    (plain : upserter.client.typed = false) (wellFormed : server.cluster.WellFormed)
    (known : upserter.given target server = .ok before) :
    before.form = .obj ∧ before.WellFormed := by
  obtain ⟨_, ⟨failure, failed, _⟩ | ⟨reply, held, read, got, _, shown, found⟩⟩ :=
    Client.get_cases (goes_run (upserter.client.get target) server)
  · rw [given, failed] at known
    cases known
  · rw [given, got] at known
    cases known
    cases read with
    | none => exact ⟨rfl, Client.wellFormed_skeleton target⟩
    | some object =>
      obtain ⟨old, there, filled⟩ := given_of_found plain shown found
      exact ⟨Client.form_withDefaults filled,
        Client.wellFormed_withDefaults filled (wellFormed _ old there)⟩

/-- A mutation that looks at the rules alone. -/
def onlyRules : Mutation := ⟨[], [("spec", .obj [("groups", .arr [])])], []⟩

theorem careful_onlyRules : onlyRules.Careful := by
  have good : (Json.obj [("groups", .arr [])]).WellFormed := by
    simp [Json.WellFormed, Json.WellFormedMembers, Json.WellFormedItems, Table.Distinct, Table.keys]
  have nulls : Json.NullsFrom .null (.obj [("groups", .arr [])]) := by
    simp [Json.NullsFrom, Json.NullsFromMembers]
  refine ⟨by decide, List.forall_mem_singleton.mpr good, ?_, by decide⟩
  exact List.forall_mem_singleton.mpr (Json.part?_ne_null good (by simp) nulls)

/-- An object that does not say its version is patched, by a mutator that sets labels and by one that
does not, and is as it was if the patch fails. -/
theorem upsert_exact_neglected :
    let upserter : Upserter := ⟨.plain, false⟩
    let target := Wanted.alertTarget "shoot"
    let faults : List Fault := [⟨.patch, .prometheusRule, .transport "Timeout" "late", 0, none⟩]
    Cluster.neglected.WellFormed ∧
      ∀ mutation ∈ [Wanted.alertMutation, onlyRules],
        let outcome := (upserter.upsert target mutation.apply).run (.faultless .neglected)
        let failing := (upserter.upsert target mutation.apply).run ⟨.neglected, faults⟩
        (∀ before, upserter.given target (.faultless .neglected) = .ok before →
          Mutator.Fair mutation.apply before) ∧
        outcome.result = .ok .patched ∧
        (∃ given wanted, target.given (Cluster.neglected.get? target.objectKey) = .ok given ∧
          mutation.apply given = .ok wanted ∧
          Settles target .neglected outcome.server.cluster given wanted .patched outcome.calls) ∧
        failing.result = .error (.tagged .writing target (.call (.transport "Timeout" "late"))) ∧
        failing.server.cluster = .neglected := by
  intro upserter target faults
  have good := Cluster.wellFormed_neglected
  refine ⟨good, ?_⟩
  intro mutation member outcome failing
  have careful : mutation.Careful := by
    rcases List.mem_pair.mp member with rfl | rfl
    · exact (Wanted.alert_manages "shoot").toWrites.careful
    · exact careful_onlyRules
  have fair : ∀ faults before, upserter.given target ⟨.neglected, faults⟩ = .ok before →
      Mutator.Fair mutation.apply before := by
    intro faults before known
    obtain ⟨isObject, wellFormed⟩ := given_eq_ok rfl good known
    exact fun _ => careful.revises isObject wellFormed
  have described : ∀ before, upserter.given target ⟨.neglected, faults⟩ = .ok before →
      Object.HasMetadata before := by
    intro before known
    cases known
    exact ⟨_, rfl⟩
  have ended : outcome.result = .ok .patched ∧
      failing.result = .error (.tagged .writing target (.call (.transport "Timeout" "late"))) := by
    rcases List.mem_pair.mp member with rfl | rfl <;> decide +kernel
  obtain ⟨patched, late⟩ := ended
  have settled := (upsert_exact upserter target (.faultless .neglected) rfl rfl (fair []) good).settled
    _ patched
  have kept := (upsert_exact upserter target ⟨.neglected, faults⟩ rfl rfl (fair faults) good).failed
    _ late (Failure.tagged_ne_unwritable (by simp))
  have exact := kept.2 fun before wanted known made =>
    ((fair faults before known wanted made).metadataKept (described before known)).stampable
  exact ⟨fair [], patched, settled, late, exact⟩

end Upserter
end Upkeep
