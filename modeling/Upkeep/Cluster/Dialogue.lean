import Upkeep.Cluster.Failure
import Upkeep.Cluster.Server
import Upkeep.Log

/-!
Dialogues: programs that talk to a server. A dialogue is data, a tree that branches on each reply,
so that it can be run against any server, and two of them can be run against one server in turns.
Running one gives its result, the server after it and everything that happened, in order.
-/
namespace Upkeep

inductive Dialogue (α : Type) : Type where
  | done (value : α)
  | fail (failure : Failure)
  | note (entry : Log.Entry) (next : Dialogue α)
  | ask (request : Request) (next : Except CallError Json → Dialogue α)

/-- What can be seen of a run. -/
inductive Event where
  | called (request : Request) (reply : Except CallError Json)
  | noted (entry : Log.Entry)

namespace Event

def request? : Event → Option Request
  | called request _ => some request
  | noted _ => none

def entry? : Event → Option Log.Entry
  | called .. => none
  | noted entry => some entry

end Event

structure Outcome (α : Type) where
  result : Except Failure α
  server : Server
  events : List Event

namespace Outcome
variable {α : Type}

def after (event : Event) (outcome : Outcome α) : Outcome α :=
  { outcome with events := event :: outcome.events }

def calls (outcome : Outcome α) : List Request := outcome.events.filterMap Event.request?

def entries (outcome : Outcome α) : List Log.Entry := outcome.events.filterMap Event.entry?

end Outcome

namespace Dialogue
variable {α β : Type}

def bind : Dialogue α → (α → Dialogue β) → Dialogue β
  | done value, f => f value
  | fail failure, _ => fail failure
  | note entry next, f => note entry (next.bind f)
  | ask request next, f => ask request fun reply => (next reply).bind f

instance : Monad Dialogue where
  pure := done
  bind := bind

def log (level : Log.Level) (part : Log.Part) (message : String) : Dialogue Unit :=
  note ⟨level, part, message⟩ (done ())

def call (request : Request) : Dialogue Json :=
  ask request fun
    | .ok reply => done reply
    | .error error => fail (.call error)

/-- Goes on with a result that may be malformed. -/
def ofExcept : Except Malformed α → Dialogue α
  | .ok value => done value
  | .error bad => fail (.malformed bad)

def mapFailure (f : Failure → Failure) : Dialogue α → Dialogue α
  | done value => done value
  | fail failure => fail (f failure)
  | note entry next => note entry (next.mapFailure f)
  | ask request next => ask request fun reply => (next reply).mapFailure f

/-- Gives a failure as a value. -/
def attempt : Dialogue α → Dialogue (Except Failure α)
  | done value => done (.ok value)
  | fail failure => done (.error failure)
  | note entry next => note entry next.attempt
  | ask request next => ask request fun reply => (next reply).attempt

def run (server : Server) : Dialogue α → Outcome α
  | done value => ⟨.ok value, server, []⟩
  | fail failure => ⟨.error failure, server, []⟩
  | note entry next => (next.run server).after (.noted entry)
  | ask request next =>
    let answer := server.answer request
    ((next answer.1).run answer.2).after (.called request answer.1)

theorem bind_eq (d : Dialogue α) (f : α → Dialogue β) : (d >>= f) = d.bind f := rfl

theorem bind_done (d : Dialogue α) : d.bind done = d := by
  induction d with
  | done value => rfl
  | fail failure => rfl
  | note entry next ih => exact congrArg (note entry) ih
  | ask request next ih => exact congrArg (ask request) (funext ih)

theorem mapFailure_id (d : Dialogue α) : d.mapFailure id = d := by
  induction d with
  | done value => rfl
  | fail failure => rfl
  | note entry next ih => exact congrArg (note entry) ih
  | ask request next ih => exact congrArg (ask request) (funext ih)

/-- What follows a dialogue is run against the server that the dialogue leaves. -/
theorem run_bind (d : Dialogue α) (f : α → Dialogue β) (server : Server) :
    (d.bind f).run server =
      match (d.run server).result with
      | .ok value =>
        let rest := (f value).run (d.run server).server
        { rest with events := (d.run server).events ++ rest.events }
      | .error failure => ⟨.error failure, (d.run server).server, (d.run server).events⟩ := by
  induction d generalizing server with
  | done value => rfl
  | fail failure => rfl
  | note entry next ih =>
    simp only [bind, run, ih, Outcome.after]
    cases (next.run server).result <;> rfl
  | ask request next ih =>
    simp only [bind, run, ih, Outcome.after]
    cases ((next (server.answer request).1).run (server.answer request).2).result <;> rfl

theorem run_mapFailure (g : Failure → Failure) (d : Dialogue α) (server : Server) :
    (d.mapFailure g).run server =
      { d.run server with result := (d.run server).result.mapError g } := by
  induction d generalizing server with
  | done value => rfl
  | fail failure => rfl
  | note entry next ih => simp only [mapFailure, run, ih, Outcome.after]
  | ask request next ih => simp only [mapFailure, run, ih, Outcome.after]

/-- An attempt happens as the dialogue does, and always has a value. -/
theorem run_attempt (d : Dialogue α) (server : Server) :
    d.attempt.run server = ⟨.ok (d.run server).result, (d.run server).server,
      (d.run server).events⟩ := by
  induction d generalizing server with
  | done value => rfl
  | fail failure => rfl
  | note entry next ih => simp only [attempt, run, ih, Outcome.after]
  | ask request next ih => simp only [attempt, run, ih, Outcome.after]

end Dialogue
end Upkeep
