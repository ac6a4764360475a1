import Upkeep.Cluster.Store

/-!
The server: a store, and faults that make requests fail before they reach it. Answering a request is
one step: nothing happens between a fault that is looked at, the change of the store and the reply.
-/
namespace Upkeep

/-- Requests of a verb and a kind fail. The first `skip` of them pass; `left` is how many are still
to fail, `none` for all. -/
structure Fault where
  verb : Verb
  kind : Kind
  error : CallError
  skip : Nat
  left : Option Nat

namespace Fault

def concerns (fault : Fault) (request : Request) : Bool :=
  fault.verb = request.action.verb && fault.kind = request.kind

/-- What a fault does to a request that it concerns: the error, if it is due, and the fault after
it. -/
def meet (fault : Fault) : Option CallError × Fault :=
  match fault.skip, fault.left with
  | skip + 1, _ => (none, { fault with skip := skip })
  | 0, none => (some fault.error, fault)
  | 0, some 0 => (none, fault)
  | 0, some (left + 1) => (some fault.error, { fault with left := some left })

/-- Looks at faults in order up to the first that is due. -/
def meetAll (request : Request) : List Fault → Option CallError × List Fault
  | [] => (none, [])
  | fault :: rest =>
    if fault.concerns request then
      match fault.meet with
      | (some error, fault) => (some error, fault :: rest)
      | (none, fault) => ((meetAll request rest).1, fault :: (meetAll request rest).2)
    else ((meetAll request rest).1, fault :: (meetAll request rest).2)

end Fault

structure Server where
  cluster : Cluster
  faults : List Fault

namespace Server

/-- A server on which nothing fails. -/
def faultless (cluster : Cluster) : Server := ⟨cluster, []⟩

def answer (server : Server) (request : Request) : Except CallError Json × Server :=
  match Fault.meetAll request server.faults with
  | (some error, faults) => (.error error, { server with faults := faults })
  | (none, faults) =>
    ((server.cluster.perform request).1, ⟨(server.cluster.perform request).2, faults⟩)

end Server
end Upkeep
