import Upkeep.Proofs.Pass.Locality

/-! Two passes over different namespaces, in either order. The results and the calls are the same,
and so are the clusters in the end, but for the numbers that the one counter has given out: the pass
that comes second gets higher ones for what it writes. -/
namespace Upkeep
open Dialogue

/-- The request is no read, and the store takes it to be about the object under the key. -/
def Request.Touches (request : Request) (key : ObjectKey) : Prop :=
  request.action.verb ≠ .get ∧ ∃ asked, request.key = .ok asked ∧ key.same asked

theorem ObjectKey.same_self (key : ObjectKey) : key.same key := by
  simp [ObjectKey.same, Name.same]

/-- The store looks for an object under a key that it takes to be the one asked for. -/
theorem Cluster.same_keyFor (cluster : Cluster) (key : ObjectKey) :
    (cluster.keyFor key).same key := by
  rw [keyFor]
  cases found : cluster.objects.keys.find? (·.same key) with
  | none => exact key.same_self
  | some held =>
    have alike : held.same key := by simpa using List.find?_some found
    exact alike

theorem Cluster.act_get (cluster : Cluster) (key : ObjectKey) :
    (cluster.act key .get).2 = cluster := by
  rw [act.eq_def]
  cases cluster.get? key <;> rfl

theorem Cluster.get?_perform_of_untouched (cluster : Cluster) {request : Request} {key : ObjectKey}
    (untouched : ¬ request.Touches key) :
    (cluster.perform request).2.get? key = cluster.get? key := by
  rw [perform]
  split
  · rename_i asked known
    by_cases read : request.action = .get
    · rw [read, act_get]
    · apply get?_act_of_ne
      intro same
      refine untouched ⟨?_, asked, known, same ▸ cluster.same_keyFor asked⟩
      cases verb : request.action with
      | get => exact absurd verb read
      | create | patch | delete => simp [Action.verb]
  · rfl

/-- What no call of a run touches is as it was, whatever fails. -/
theorem Dialogue.get?_run_of_untouched {α : Type} (program : Dialogue α) (server : Server)
    {key : ObjectKey} (untouched : ∀ call ∈ (program.run server).calls, ¬ call.Touches key) :
    (program.run server).server.cluster.get? key = server.cluster.get? key := by
  induction program generalizing server with
  | done value => rfl
  | fail failure => rfl
  | note entry next ih => exact ih server untouched
  | ask request next ih =>
    have rest := ih (server.answer request).1 (server.answer request).2 fun call member =>
      untouched call (List.mem_cons_of_mem _ member)
    refine rest.trans ?_
    rw [Server.answer]
    split
    · rfl
    · exact server.cluster.get?_perform_of_untouched (untouched request List.mem_cons_self)

/-- The number that the store has given to an object. -/
def Object.version? (object : Json) : Option String :=
  match (metadata object).get? "resourceVersion" with
  | some (.str version) => some version
  | _ => none

namespace Reconciler

/-- Passes over two namespaces commute. In either order each of them comes to the same result, or
the same error, with the same calls, and the counter ends at the same number. An object that is not
the same in the end has been written, and is what the store makes of one object under two
numbers. -/
theorem reconcile_commutes (first second : Reconciler) {a b : String} (different : a ≠ b)
    (cluster : Cluster) :
    let one := (first.reconcile a).run (.faultless cluster)
    let next := (second.reconcile b).run one.server
    let other := (second.reconcile b).run (.faultless cluster)
    let last := (first.reconcile a).run other.server
    last.result = one.result ∧ next.result = other.result ∧
      last.calls = one.calls ∧ next.calls = other.calls ∧
      next.server.cluster.counter = last.server.cluster.counter ∧
      ∀ key, next.server.cluster.get? key = last.server.cluster.get? key ∨
        (∃ call ∈ one.calls ++ next.calls, call.Touches key) ∧
          Renumbered (next.server.cluster.get? key) (last.server.cluster.get? key) := by
  have apart : ∀ key : ObjectKey, key.ns = .text a → key.ns ≠ .text b := by
    intro key here there
    exact different (Name.text.inj (here.symm.trans there))
  -- where the second pass ends alone, the first namespace is as it was
  obtain ⟨_, between, _, ⟨_, _, ranAlone, _, _⟩, outside⟩ :=
    second.reconcile_local b fun key (_ : key.ns = .text b) => (rfl : cluster.get? key = _)
  obtain ⟨resultA, c, d, ⟨_, _, ranOne, ranLast, callsA⟩, inA⟩ :=
    first.reconcile_local a fun key here => (outside.left key (apart key here)).symm
  obtain ⟨resultB, e, f, ⟨_, _, ranOther, ranNext, callsB⟩, inB⟩ :=
    second.reconcile_local b fun key here => (inA.left key fun there => apart key there here).symm
  have met : between = e :=
    congrArg (fun outcome => outcome.server.cluster) (ranAlone.symm.trans ranOther)
  rw [met] at ranLast inA
  intro one next other last
  have ranNext' : next = _ := (congrArg (fun outcome : Outcome PassResult =>
    (second.reconcile b).run outcome.server) ranOne).trans ranNext
  have ranLast' : last = _ := (congrArg (fun outcome : Outcome PassResult =>
    (first.reconcile a).run outcome.server) ranOther).trans ranLast
  obtain ⟨counted, alike⟩ := inA.diamond inB apart
  have sameA : last.calls = one.calls := by
    rw [ranLast', show one = _ from ranOne]
    exact callsA.symm
  have sameB : next.calls = other.calls := by
    rw [ranNext', show other = _ from ranOther]
    exact callsB.symm
  refine ⟨?_, ?_, sameA, sameB, ?_, ?_⟩
  · rw [ranLast', show one = _ from ranOne]
  · rw [ranNext', show other = _ from ranOther]
  · rw [ranNext', ranLast']
    exact counted
  · intro key
    by_cases touched : ∃ call ∈ one.calls ++ next.calls, call.Touches key
    · refine .inr ⟨touched, ?_⟩
      rw [ranNext', ranLast']
      exact alike key
    · have free : (∀ call ∈ one.calls, ¬ call.Touches key) ∧
          ∀ call ∈ next.calls, ¬ call.Touches key := by
        simpa [or_imp, forall_and] using touched
      left
      calc next.server.cluster.get? key
          = one.server.cluster.get? key := get?_run_of_untouched _ _ free.2
        _ = cluster.get? key := get?_run_of_untouched _ _ free.1
        _ = other.server.cluster.get? key := (get?_run_of_untouched _ _ (sameB ▸ free.2)).symm
        _ = last.server.cluster.get? key := (get?_run_of_untouched _ _ (sameA ▸ free.1)).symm

theorem reconcile_commutes_neglected :
    let pass := standard .plain .brief false
    let one := (pass.reconcile "shoot").run (.faultless .neglected)
    let next := (pass.reconcile "garden").run one.server
    let other := (pass.reconcile "garden").run (.faultless .neglected)
    let last := (pass.reconcile "shoot").run other.server
    let key := (Wanted.dashboardTarget "garden").objectKey
    "shoot" ≠ "garden" ∧ last.result = .ok .repaired ∧
      (next.server.cluster.get? key).bind Object.version? = some "11" ∧
      (last.server.cluster.get? key).bind Object.version? = some "8" ∧
      Renumbered (next.server.cluster.get? key) (last.server.cluster.get? key) := by
  have different : "shoot" ≠ "garden" := by decide
  have commutes := reconcile_commutes (standard .plain .brief false) (standard .plain .brief false)
    different .neglected
  dsimp only at commutes ⊢
  obtain ⟨sameA, _, _, _, _, alike⟩ := commutes
  refine ⟨different, sameA.trans ended_neglected, ?later, ?earlier, ?_⟩
  case later => decide +kernel
  case earlier => decide +kernel
  rcases alike (Wanted.dashboardTarget "garden").objectKey with same | ⟨_, renumbered⟩
  · rw [same]
    exact .same _
  · exact renumbered

end Reconciler
end Upkeep
