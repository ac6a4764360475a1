import Upkeep.Cluster.Dialogue

/-! The ways a dialogue can go. Each call is carried out by the store, or it fails before it gets
there; which calls fail is left open. What holds of every way holds of every run, whatever faults
the server has. A way is told by its exchanges, its result and the cluster that it leaves. -/
namespace Upkeep

/-- A call with its reply. -/
structure Exchange where
  request : Request
  reply : Except CallError Json

namespace Event

def exchange? : Event → Option Exchange
  | called request reply => some ⟨request, reply⟩
  | noted _ => none

def exchanges (events : List Event) : List Exchange := events.filterMap exchange?

theorem exchanges_append (first rest : List Event) :
    exchanges (first ++ rest) = exchanges first ++ exchanges rest :=
  List.filterMap_append

end Event

/-- A call is carried out, or it fails and nothing happens. -/
inductive Cluster.Answers (cluster : Cluster) (request : Request) :
    Except CallError Json → Cluster → Prop
  | performed : Answers cluster request (cluster.perform request).1 (cluster.perform request).2
  | failed (error : CallError) : Answers cluster request (.error error) cluster

/-- A dialogue, started on a cluster, can go through these exchanges to this result and leave the
other cluster. -/
inductive Dialogue.Goes {α : Type} :
    Dialogue α → Cluster → List Exchange → Except Failure α → Cluster → Prop
  | done (value : α) (cluster : Cluster) : Goes (.done value) cluster [] (.ok value) cluster
  | fail (failure : Failure) (cluster : Cluster) :
      Goes (.fail failure) cluster [] (.error failure) cluster
  | note {entry : Log.Entry} {next : Dialogue α} {cluster later : Cluster}
      {calls : List Exchange} {result : Except Failure α}
      (rest : Goes next cluster calls result later) :
      Goes (.note entry next) cluster calls result later
  | ask {request : Request} {next : Except CallError Json → Dialogue α}
      {cluster between later : Cluster} {reply : Except CallError Json} {calls : List Exchange}
      {result : Except Failure α} (answered : cluster.Answers request reply between)
      (rest : Goes (next reply) between calls result later) :
      Goes (.ask request next) cluster (⟨request, reply⟩ :: calls) result later

theorem Server.answers (server : Server) (request : Request) :
    server.cluster.Answers request (server.answer request).1 (server.answer request).2.cluster := by
  rw [Server.answer]
  split
  · exact .failed _
  · exact .performed

namespace Dialogue
variable {α β : Type} {cluster later : Cluster} {calls : List Exchange}

/-- A run goes one of the ways. -/
theorem goes_run (d : Dialogue α) (server : Server) :
    d.Goes server.cluster (Event.exchanges (d.run server).events) (d.run server).result
      (d.run server).server.cluster := by
  induction d generalizing server with
  | done value => exact .done value _
  | fail failure => exact .fail failure _
  | note entry next ih => exact .note (ih server)
  | ask request next ih => exact .ask (server.answers request) (ih _ _)

/-! ### Looking back on a way -/

theorem goes_done_iff {value : α} {result : Except Failure α} :
    (done value).Goes cluster calls result later ↔
      calls = [] ∧ result = .ok value ∧ later = cluster := by
  constructor
  · intro goes
    cases goes
    exact ⟨rfl, rfl, rfl⟩
  · rintro ⟨rfl, rfl, rfl⟩
    exact .done value _

theorem goes_fail_iff {failure : Failure} {result : Except Failure α} :
    (fail failure).Goes cluster calls result later ↔
      calls = [] ∧ result = .error failure ∧ later = cluster := by
  constructor
  · intro goes
    cases goes
    exact ⟨rfl, rfl, rfl⟩
  · rintro ⟨rfl, rfl, rfl⟩
    exact .fail failure _

theorem goes_note_iff {entry : Log.Entry} {next : Dialogue α} {result : Except Failure α} :
    (note entry next).Goes cluster calls result later ↔ next.Goes cluster calls result later := by
  constructor
  · intro goes
    cases goes with
    | note rest => exact rest
  · exact .note

theorem goes_ask_iff {request : Request} {next : Except CallError Json → Dialogue α}
    {result : Except Failure α} :
    (ask request next).Goes cluster calls result later ↔
      ∃ reply between rest, cluster.Answers request reply between ∧
        calls = ⟨request, reply⟩ :: rest ∧ (next reply).Goes between rest result later := by
  constructor
  · intro goes
    cases goes with
    | ask answered rest => exact ⟨_, _, _, answered, rfl, rest⟩
  · rintro ⟨reply, between, rest, answered, rfl, goes⟩
    exact .ask answered goes

/-- What is bound to a dialogue follows it, unless it fails. -/
theorem Goes.of_bind {d : Dialogue α} {f : α → Dialogue β} {result : Except Failure β}
    (goes : (d.bind f).Goes cluster calls result later) :
    (∃ failure, d.Goes cluster calls (.error failure) later ∧ result = .error failure) ∨
      ∃ value between first rest, d.Goes cluster first (.ok value) between ∧
        (f value).Goes between rest result later ∧ calls = first ++ rest := by
  induction d generalizing cluster calls with
  | done value => exact .inr ⟨value, cluster, [], calls, .done value _, goes, rfl⟩
  | fail failure =>
    obtain ⟨rfl, rfl, rfl⟩ := goes_fail_iff.mp goes
    exact .inl ⟨failure, .fail failure _, rfl⟩
  | note entry next ih =>
    rcases ih (goes_note_iff.mp goes) with ⟨failure, first, same⟩ | ⟨value, _, _, _, first, rest⟩
    · exact .inl ⟨failure, .note first, same⟩
    · exact .inr ⟨value, _, _, _, .note first, rest⟩
  | ask request next ih =>
    obtain ⟨reply, between, tail, answered, rfl, goesOn⟩ := goes_ask_iff.mp goes
    rcases ih reply goesOn with ⟨failure, first, same⟩ | ⟨value, _, _, _, first, rest, rfl⟩
    · exact .inl ⟨failure, .ask answered first, same⟩
    · exact .inr ⟨value, _, _, _, .ask answered first, rest, rfl⟩

end Dialogue
end Upkeep
