import Upkeep.Pass.Run
import Upkeep.Proofs.Pass.Track

/-! One step of a pass keeps to the course: the read and the write that brings a target up to date,
and the deletion of the legacy object. A step that the course had already behind it is found done
and writes nothing. -/
namespace Upkeep

/-- What a client makes of what is stored, or of nothing. -/
def Client.found (client : Client) (kind : Kind) : Option Json → Except Malformed (Option Json)
  | none => .ok none
  | some stored => (client.received kind stored).map some

/-- A read and what follows it, reply by reply. -/
theorem Client.read_eq {α : Type} (client : Client) (target : Target) (g : Failure → Failure)
    (f : Option Json → Dialogue α) :
    ((client.get target).mapFailure g).bind f =
      .ask (client.request target .get) fun
        | .ok stored => match client.received target.kind stored with
          | .ok read => f (some read)
          | .error bad => .fail (g (.malformed bad))
        | .error error =>
          if error.isNotFound then .note ⟨.debug, .client, target.key ++ " not found"⟩ (f none)
          else .fail (g (.call error)) := by
  apply congrArg (Dialogue.ask _)
  funext reply
  cases reply with
  | ok stored =>
    dsimp only
    cases client.received target.kind stored <;> rfl
  | error error =>
    cases absent : error.isNotFound <;> simp [absent, Dialogue.mapFailure, Dialogue.bind]

namespace Course
variable {course : Course} {α β : Type} {step : Step} {i : Nat} {here : Standing}

/-! ### Reads -/

/-- More steps may be counted as done: the cluster is as they would leave it. -/
structure Rests (course : Course) (here : Standing) (now done : Nat) : Prop where
  forward : here.done ≤ done
  stays : course.stage (max now done) = course.stage now
  silent : course.sent (max now done) = course.sent now

theorem rests_self (course : Course) (here : Standing) {now : Nat} (reached : here.done ≤ now) :
    course.Rests here now here.done := by
  refine ⟨Nat.le_refl _, ?_, ?_⟩ <;> rw [Nat.max_eq_left reached]

theorem perform_get (course : Course) (target : Target) (now : Nat) :
    (course.stage now).perform (course.client.request target .get) =
      (match (course.stage now).get? target.objectKey with
        | some stored => .ok stored
        | none => .error .notFound, course.stage now) :=
  (course.stage now).perform_get course.client target

theorem allows_get (target : Target) {now done : Nat} (rests : course.Rests here now done) :
    course.Allows here now (course.client.request target .get) done := by
  refine ⟨rests.forward, ?_, .inl ?_⟩
  · rw [perform_get, rests.stays]
  · rw [rests.silent, reply, perform_get]
    cases (course.stage now).get? target.objectKey <;> exact (List.append_nil _).symm

/-- A read goes on with what is found at some stage, or fails if that is malformed. -/
theorem Tracks.read {target : Target} {f : Option Json → Dialogue β} {post : β → Standing → Prop}
    (g : Failure → Failure)
    (goesOn : ∀ now, here.seen ≤ now → ∃ done, course.Rests here now done ∧
      ∀ past, Event.attempts past = Event.attempts here.past →
        match course.client.found target.kind ((course.stage now).get? target.objectKey) with
        | .ok found => course.Tracks post (f found) ⟨done, max now done, past⟩
        | .error _ => course.Stuck done) :
    course.Tracks post (((course.client.get target).mapFailure g).bind f) here := by
  constructor
  · intro error other
    simp [other, Dialogue.mapFailure, Dialogue.bind]
  · intro now later
    left
    obtain ⟨done, rests, rest⟩ := goesOn now later
    refine ⟨done, allows_get target rests, ?_⟩
    cases held : (course.stage now).get? target.objectKey with
    | none =>
      have replied : course.reply now (course.client.request target .get) = .error .notFound := by
        rw [reply, perform_get, held]
      have goal := rest ((here.past ++ [.called (course.client.request target .get)
        (.error .notFound)]) ++ [.noted ⟨.debug, .client, target.key ++ " not found"⟩]) (by simp)
      rw [held] at goal
      rw [replied]
      exact goal
    | some stored =>
      have replied : course.reply now (course.client.request target .get) = .ok stored := by
        rw [reply, perform_get, held]
      have goal := rest (here.past ++ [.called (course.client.request target .get) (.ok stored)])
        (by simp)
      rw [held, Client.found] at goal
      rw [replied]
      cases got : course.client.received target.kind stored with
      | ok read =>
        simp only [got, Except.map, Dialogue.ofExcept] at goal ⊢
        exact goal
      | error bad =>
        simp only [got, Except.map, Dialogue.ofExcept] at goal ⊢
        exact goal

/-! ### Writes -/

theorem Sound.allows_due (sound : course.Sound) {step : Step} (found : course.steps[i]? = some step)
    {action : Action} (due : course.due step = .ok (some action)) (writing : action.verb ≠ .get)
    (start : here.done = i) {object : Json}
    (replied : course.reply i (course.client.request step.target action) = .ok object) :
    course.Allows here i (course.client.request step.target action) (i + 1) := by
  refine ⟨start ▸ Nat.le_succ i, ?_, .inl ?_⟩
  · rw [Cluster.perform_request, Nat.max_eq_right (Nat.le_succ i),
      sound.stage_succ_of_due found due]
    rfl
  · have booked : Event.writes [.called (course.client.request step.target action) (.ok object)] =
        [course.client.request step.target action] := Event.writes_ok writing object
    rw [Nat.max_eq_right (Nat.le_succ i), sent_succ_of_due found due, replied, booked]

/-- A write whose reply is looked at before the dialogue goes on. -/
def written (client : Client) (target : Target) (action : Action) (after : Dialogue α) :
    Dialogue α :=
  .ask (client.request target action) fun
    | .ok reply => (Dialogue.ofExcept (client.view target.kind reply)).bind fun _ => after
    | .error error => .fail (Failure.tagged .writing target (.call error))

theorem Tracks.viewed {target : Target} {mutation : Mutation} {field : String} {value : Json}
    (writes : mutation.Writes field value) {object : Json} (met : mutation.Met object)
    {after : Dialogue α} {post : α → Standing → Prop} (rest : course.Tracks post after here) :
    course.Tracks post
      ((Dialogue.ofExcept (course.client.view target.kind object)).bind fun _ => after) here := by
  obtain ⟨view, viewed, _⟩ := course.client.view_of_metadata target.kind (met.metadata writes).1
  rw [viewed]
  exact rest

/-- The write that is due is allowed. If it comes too late, a creation is refused and a patch is
spent. -/
theorem Sound.tracks_written (sound : course.Sound) {target : Target} {mutation : Mutation}
    (found : course.steps[i]? = some (.bring target mutation)) {action : Action}
    (due : course.due (.bring target mutation) = .ok (some action)) {after : Dialogue α}
    {post : α → Standing → Prop} (start : here.done = i) (fresh : here.seen = i)
    (rest : ∀ seen past, i + 1 ≤ seen → course.Tracks post after ⟨i + 1, seen, past⟩) :
    course.Tracks post (written course.client target action after) here := by
  obtain ⟨field, value, manages⟩ := sound.managed_of_found found
  have performed := fun now => (course.stage now).perform_request course.client target action
  constructor
  · intro error _
    exact ⟨_, rfl⟩
  · intro now later
    rcases Nat.eq_or_lt_of_le (fresh ▸ later : i ≤ now) with rfl | late
    · -- nobody has been faster: the write does the step
      left
      have here' := sound.due_stage found (Nat.le_refl i)
      rw [due] at here'
      obtain ⟨object, answer, _, _, met, _⟩ :=
        Client.act_due manages course.client (sound.wellFormed_stage found) here'
      have writing : action.verb ≠ .get := by
        rcases Client.due_creates_or_patches due with ⟨object, rfl⟩ | ⟨change, rfl⟩ <;>
          simp [Action.verb]
      have replied : course.reply i (course.client.request target action) = .ok object := by
        rw [reply, performed]
        exact answer
      refine ⟨i + 1, sound.allows_due found due writing start replied, ?_⟩
      rw [replied]
      exact Tracks.viewed manages.toWrites met (rest _ _ (Nat.le_max_right _ _))
    · -- the other party has done the step since the read
      have settled := sound.settled found due late
      rcases Client.due_creates_or_patches due with ⟨wanted, rfl⟩ | ⟨change, rfl⟩
      · right
        refine ⟨⟨start ▸ late, fresh ▸ late, rfl, ?_⟩, target, rfl, rfl⟩
        rw [performed]
        exact Step.act_create_of_settled wanted settled
      · left
        obtain ⟨object, _, met, acted⟩ := Step.act_patch_of_settled settled
        have spent := (performed now).trans acted
        have replied : course.reply now (course.client.request target (.patch change)) =
            .ok object := by rw [reply, spent]
        refine ⟨i + 1, ⟨start ▸ Nat.le_succ i, ?_, .inr ⟨fresh ▸ late, late, rfl⟩⟩, ?_⟩
        · rw [spent, Nat.max_eq_left late]
        · rw [replied]
          exact Tracks.viewed manages.toWrites met (rest _ _ (Nat.le_max_right _ _))

/-! ### Bringing a target up to date -/

theorem written_eq {client : Client} {target : Target} {action : Action} {write : Dialogue Json}
    (sent : write = (Dialogue.call (client.request target action)).bind
      fun reply => Dialogue.ofExcept (client.view target.kind reply)) (after : Dialogue α) :
    ((write.mapFailure (Failure.tagged .writing target)).bind fun _ => after) =
      written client target action after := by
  rw [sent]
  apply congrArg (Dialogue.ask _)
  funext reply
  cases reply with
  | error error => rfl
  | ok object =>
    change ((Dialogue.ofExcept (client.view target.kind object)).mapFailure _).bind _ =
      (Dialogue.ofExcept (client.view target.kind object)).bind _
    cases client.view target.kind object <;> rfl

/-- What is said about a write, and the status that it gives. -/
def told (target : Target) : Action → Dialogue Status
  | .create _ => .note ⟨.info, .upserter, "Created " ++ target.key⟩ (.done .created)
  | .patch change =>
    .note ⟨.info, .upserter, "Patched " ++ target.key⟩
      ((Upserter.tellPatch .debug ("Patch for " ++ target.key ++ ": ") change).bind
        fun _ => .done .patched)
  | _ => .done .unchanged

theorem told_patch (target : Target) {change : Json} (writable : change.Writable) :
    told target (.patch change) =
      .note ⟨.info, .upserter, "Patched " ++ target.key⟩
        (.note ⟨.debug, .upserter, "Patch for " ++ target.key ++ ": " ++ change.spelled⟩
          (.done .patched)) := by
  rw [told, Upserter.tellPatch, writable.text_eq]
  rfl

/-- How bringing a target up to date goes on when it is known what is due. -/
def resume (client : Client) (target : Target) : Except Malformed (Option Action) → Dialogue Status
  | .error bad => .fail (.malformed bad)
  | .ok none =>
    .note ⟨.debug, .upserter, target.key ++ " already up to date"⟩ (.done .unchanged)
  | .ok (some action) => written client target action (told target action)

theorem send_eq {client : Client} {target : Target} (managed : target.kind.isWritten)
    (change : Json) :
    Upserter.send ⟨client, false⟩ target change =
      resume client target (.ok (some (.patch change))) := by
  apply written_eq
  rw [Client.patch, Client.checkWritten, if_pos managed]
  rfl

theorem create_eq {target : Target} {mutation : Mutation} {field : String} {value : Json}
    (manages : target.Manages mutation field value) (client : Client) :
    Upserter.create ⟨client, false⟩ target mutation.apply =
      resume client target (client.due target mutation none) := by
  have made := (manages.apply_eq_ok_iff target.skeleton _).mpr
    ⟨Client.takesLabels_skeleton target, rfl⟩
  rw [Client.due_none manages, Upserter.create, made]
  apply written_eq
  rw [Client.create, Client.creation_wanted manages]
  rfl

theorem update_eq {client : Client} {target : Target} (managed : target.kind.isWritten)
    {mutation : Mutation} {stored read : Json}
    (received : client.received target.kind stored = .ok read) :
    Upserter.update ⟨client, false⟩ target mutation.apply read =
      resume client target (client.due target mutation (some stored)) := by
  rw [Client.due, received, Upserter.update]
  dsimp only
  cases mutation.apply read with
  | error bad => rfl
  | ok wanted =>
    simp only [Dialogue.ofExcept, Dialogue.bind_eq, Dialogue.bind]
    cases Json.diff read.members wanted.members with
    | nil => rfl
    | cons part rest => exact send_eq managed _

/-- What is known of a step after it: the step could be taken, it is done, and if it was already
done before then nothing was written. -/
structure Brought (course : Course) (step : Step) (i : Nat) (here : Standing) (status : Status)
    (there : Standing) : Prop where
  done : there.done = i + 1
  seen : i + 1 ≤ there.seen
  taken : ∃ action, course.due step = .ok action
  quiet : i < here.seen →
    status = .unchanged ∧ Event.attempts there.past = Event.attempts here.past

theorem Sound.tracks_resume (sound : course.Sound) {target : Target} {mutation : Mutation}
    (found : course.steps[i]? = some (.bring target mutation)) {now : Nat} (arrived : i ≤ now)
    (later : here.seen ≤ now) (start : here.done = i) :
    ∃ done, course.Rests here now done ∧ ∀ past, Event.attempts past = Event.attempts here.past →
      course.Tracks (course.Brought (.bring target mutation) i here)
        (resume course.client target
          (course.client.due target mutation ((course.stage now).get? target.objectKey)))
        ⟨done, max now done, past⟩ := by
  obtain ⟨field, value, manages⟩ := sound.managed_of_found found
  have self := rests_self course here (start ▸ arrived)
  cases outcome : course.client.due target mutation ((course.stage now).get? target.objectKey) with
  | error bad =>
    refine ⟨here.done, self, fun past _ => ?_⟩
    exact ⟨_, bad, start ▸ found, sound.due_of_error found arrived outcome⟩
  | ok action =>
    cases action with
    | none =>
      obtain ⟨taken, stays, silent⟩ := sound.idle_of_due found arrived outcome
      refine ⟨i + 1, ⟨start ▸ Nat.le_succ i, stays, silent⟩, fun past same => ?_⟩
      refine ⟨rfl, Nat.le_max_right _ _, taken, fun _ => ⟨rfl, ?_⟩⟩
      simp [Standing.noted, same]
    | some action =>
      obtain ⟨rfl, due⟩ := sound.next_of_due found arrived outcome
      refine ⟨here.done, self, fun past _ => ?_⟩
      have standing : (⟨here.done, max now here.done, past⟩ : Standing).done = now := start
      apply sound.tracks_written found due standing (by simp [start])
      intro seen past reached
      have brought : ∀ status past, course.Brought (.bring target mutation) now here status
          ⟨now + 1, seen, past⟩ := fun status past =>
        ⟨rfl, reached, ⟨_, due⟩, fun early => absurd later (Nat.not_le_of_lt early)⟩
      rcases Client.due_creates_or_patches due with ⟨object, rfl⟩ | ⟨change, rfl⟩
      · exact brought _ _
      · rw [told_patch target (Client.writable_of_due manages (sound.wellFormed _) due)]
        exact brought _ _

/-- Bringing a target up to date keeps to the course. -/
theorem Sound.tracks_upsert (sound : course.Sound) {target : Target} {mutation : Mutation}
    (found : course.steps[i]? = some (.bring target mutation)) (start : here.done = i)
    (reached : i ≤ here.seen) :
    course.Tracks (course.Brought (.bring target mutation) i here)
      (Upserter.upsert ⟨course.client, false⟩ target mutation.apply) here := by
  obtain ⟨field, value, manages⟩ := sound.managed_of_found found
  apply Tracks.read
  intro now later
  have arrived : i ≤ now := Nat.le_trans reached later
  obtain ⟨done, rests, rest⟩ := sound.tracks_resume found arrived later start
  refine ⟨done, rests, fun past same => ?_⟩
  have goesOn := rest past same
  cases held : (course.stage now).get? target.objectKey with
  | none =>
    rw [held] at goesOn
    simp only [Client.found]
    rwa [create_eq manages]
  | some stored =>
    rw [held] at goesOn
    rw [Client.found]
    cases got : course.client.received target.kind stored with
    | ok read =>
      simp only [Except.map]
      rwa [update_eq manages.written got]
    | error bad =>
      rw [Client.due, got] at goesOn
      exact goesOn

end Course
end Upkeep
