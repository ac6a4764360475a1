import Upkeep.Proofs.Pass.Course

/-! Dialogues that keep to a course while others may move it on. Between two calls the cluster may
have reached any later stage. A call leaves it there, or takes it to the next stage if the caller
was about to do that step; only a creation that comes too late is refused, and then the dialogue
fails. A call that fails for another reason ends the dialogue too. -/
namespace Upkeep

namespace Event

/-- A call that would write, with its reply. -/
def attempt? : Event → Option (Request × Except CallError Json)
  | called request reply => if request.action.verb = .get then none else some (request, reply)
  | noted _ => none

/-- A call that has written. -/
def write? : Event → Option Request
  | called request (.ok _) => if request.action.verb = .get then none else some request
  | called _ (.error _) => none
  | noted _ => none

def attempts (events : List Event) : List (Request × Except CallError Json) :=
  events.filterMap attempt?

def writes (events : List Event) : List Request := events.filterMap write?

@[simp] theorem writes_nil : writes [] = [] := rfl

@[simp] theorem writes_append (first second : List Event) :
    writes (first ++ second) = writes first ++ writes second :=
  List.filterMap_append

@[simp] theorem writes_noted (entry : Log.Entry) (events : List Event) :
    writes (noted entry :: events) = writes events := rfl

@[simp] theorem attempts_append (first second : List Event) :
    attempts (first ++ second) = attempts first ++ attempts second :=
  List.filterMap_append

@[simp] theorem attempts_nil : attempts [] = [] := rfl

@[simp] theorem attempts_noted (entry : Log.Entry) (events : List Event) :
    attempts (noted entry :: events) = attempts events := rfl

@[simp] theorem attempts_get (client : Client) (target : Target) (reply : Except CallError Json)
    (events : List Event) :
    attempts (called (client.request target .get) reply :: events) = attempts events := rfl

theorem writes_ok {request : Request} (writing : request.action.verb ≠ .get) (reply : Json) :
    writes [called request (.ok reply)] = [request] := by
  simp [writes, write?, writing]

end Event

/-- How far a dialogue has come: the steps it has done or found done, the stage at its last call,
and what has happened to it. -/
structure Standing where
  done : Nat
  seen : Nat
  past : List Event

namespace Standing

def noted (here : Standing) (entry : Log.Entry) : Standing :=
  { here with past := here.past ++ [.noted entry] }

/-- After a call at a stage, with so many steps done. -/
def called (here : Standing) (now done : Nat) (request : Request)
    (reply : Except CallError Json) : Standing :=
  ⟨done, max now done, here.past ++ [.called request reply]⟩

end Standing

namespace Course

/-- The reply to a request at a stage. -/
def reply (course : Course) (now : Nat) (request : Request) : Except CallError Json :=
  ((course.stage now).perform request).1

/-- The step cannot be taken. -/
def Stuck (course : Course) (i : Nat) : Prop :=
  ∃ step bad, course.steps[i]? = some step ∧ course.due step = .error bad

/-- A call at a stage leaves the course where it is or takes it to the next stage. What it writes is
what the course sends there, or a patch that somebody else has already sent. -/
structure Allows (course : Course) (here : Standing) (now : Nat) (request : Request)
    (done : Nat) : Prop where
  forward : here.done ≤ done
  moved : ((course.stage now).perform request).2 = course.stage (max now done)
  booked : course.sent (max now done) =
      course.sent now ++ Event.writes [.called request (course.reply now request)] ∨
    here.seen < now ∧ done ≤ now ∧ request.action.verb = .patch

/-- A creation that comes too late changes nothing. -/
structure Refuses (course : Course) (here : Standing) (now : Nat) (request : Request) : Prop where
  behind : here.done < now
  stale : here.seen < now
  creation : request.action.verb = .create
  refused : (course.stage now).perform request = (.error .conflict, course.stage now)

/-- From where it stands the dialogue keeps to the course and, if it ends well, ends with `post`. -/
def Tracks (course : Course) {α : Type} (post : α → Standing → Prop) :
    Dialogue α → Standing → Prop
  | .done value, here => post value here
  | .fail _, here => course.Stuck here.done
  | .note entry next, here => course.Tracks post next (here.noted entry)
  | .ask request next, here =>
    (∀ error : CallError, error.isNotFound = false →
      ∃ failure, next (.error error) = .fail failure) ∧
    ∀ now, here.seen ≤ now →
      (∃ done, course.Allows here now request done ∧
        course.Tracks post (next (course.reply now request))
          (here.called now done request (course.reply now request))) ∨
      (course.Refuses here now request ∧
        ∃ target : Target, request.key = .ok target.objectKey ∧
          next (.error .conflict) = .fail (.step (.ofCall .writing target .conflict)))

namespace Tracks
variable {course : Course} {α β : Type} {post : α → Standing → Prop}

/-- What follows a dialogue starts where the dialogue ends. -/
theorem bind {f : α → Dialogue β} {post : β → Standing → Prop} {d : Dialogue α} {here : Standing}
    (tracks : course.Tracks (fun value => course.Tracks post (f value)) d here) :
    course.Tracks post (d.bind f) here := by
  induction d generalizing here with
  | done value => exact tracks
  | fail failure => exact tracks
  | note entry next ih => exact ih tracks
  | ask request next ih =>
    obtain ⟨fails, moves⟩ := tracks
    constructor
    · intro error other
      obtain ⟨failure, ended⟩ := fails error other
      exact ⟨failure, congrArg (·.bind f) ended⟩
    · intro now later
      rcases moves now later with ⟨done, allowed, rest⟩ | ⟨refused, target, key, ended⟩
      · exact .inl ⟨done, allowed, ih _ rest⟩
      · exact .inr ⟨refused, target, key, congrArg (·.bind f) ended⟩

theorem weaken {weaker : α → Standing → Prop} {d : Dialogue α} {here : Standing}
    (tracks : course.Tracks post d here)
    (implied : ∀ value there, post value there → weaker value there) :
    course.Tracks weaker d here := by
  induction d generalizing here with
  | done value => exact implied value here tracks
  | fail failure => exact tracks
  | note entry next ih => exact ih tracks
  | ask request next ih =>
    refine ⟨tracks.1, ?_⟩
    intro now later
    rcases tracks.2 now later with ⟨done, allowed, rest⟩ | refused
    · exact .inl ⟨done, allowed, ih _ rest⟩
    · exact .inr refused

/-- What has happened stays, and no step is undone. -/
theorem grows {d : Dialogue α} {here : Standing} (tracks : course.Tracks post d here) :
    course.Tracks (fun value there => post value there ∧ here.past <+: there.past ∧
      here.seen ≤ there.seen) d here := by
  induction d generalizing here with
  | done value => exact ⟨tracks, List.prefix_refl _, Nat.le_refl _⟩
  | fail failure => exact tracks
  | note entry next ih =>
    apply weaken (ih tracks)
    rintro value there ⟨held, past, seen⟩
    exact ⟨held, (List.prefix_append _ _).trans past, seen⟩
  | ask request next ih =>
    refine ⟨tracks.1, ?_⟩
    intro now later
    rcases tracks.2 now later with ⟨done, allowed, rest⟩ | refused
    · refine .inl ⟨done, allowed, weaken (ih _ rest) ?_⟩
      rintro value there ⟨held, past, seen⟩
      have reached : max now done ≤ there.seen := seen
      exact ⟨held, (List.prefix_append _ _).trans past, by omega⟩
    · exact .inr refused

end Tracks
end Course
end Upkeep
