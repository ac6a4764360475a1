import Upkeep.Proofs.Pass.Reconcile

/-! A dialogue that keeps to a course, run with nobody else at work. Calls may fail on the way, but
none may be told wrongly that an object is not there. Whatever happens, the run ends at a stage of
the course, and what it has written is what the course sends up to there. -/
namespace Upkeep

/-- No fault claims that an object is not there. -/
def Fault.Honest (faults : List Fault) : Prop := ∀ fault ∈ faults, fault.error.isNotFound = false

theorem Fault.honest_nil : Honest [] := List.forall_mem_nil _

/-- Errors come from faults, and faults keep their errors. -/
theorem Fault.Honest.meetAll {faults : List Fault} (honest : Honest faults) (request : Request) :
    (∀ error, (Fault.meetAll request faults).1 = some error → error.isNotFound = false) ∧
      Honest (Fault.meetAll request faults).2 := by
  induction faults with
  | nil =>
    constructor
    · intro error due
      cases due
    · exact honest_nil
  | cons fault rest ih =>
    have first : fault.error.isNotFound = false := honest fault (List.mem_cons_self ..)
    obtain ⟨errors, kept⟩ := ih fun other member => honest other (List.mem_cons_of_mem _ member)
    have met : (∀ error, fault.meet.1 = some error → error.isNotFound = false) ∧
        fault.meet.2.error.isNotFound = false := by
      rw [meet]
      split
      · exact ⟨fun error due => absurd due (Option.some_ne_none error).symm, first⟩
      · exact ⟨fun error due => Option.some.inj due ▸ first, first⟩
      · exact ⟨fun error due => absurd due (Option.some_ne_none error).symm, first⟩
      · exact ⟨fun error due => Option.some.inj due ▸ first, first⟩
    rw [Fault.meetAll]
    split
    · split
      · rename_i error after outcome
        rw [outcome] at met
        exact ⟨met.1, List.forall_mem_cons.mpr
          ⟨met.2, fun other member => honest other (List.mem_cons_of_mem _ member)⟩⟩
      · rename_i after outcome
        rw [outcome] at met
        exact ⟨errors, List.forall_mem_cons.mpr ⟨met.2, kept⟩⟩
    · exact ⟨errors, List.forall_mem_cons.mpr ⟨first, kept⟩⟩

namespace Course
variable {course : Course} {α : Type} {post : α → Standing → Prop}

/-- What a run from a standing amounts to. -/
structure Ran (course : Course) (post : α → Standing → Prop) (here : Standing)
    (outcome : Outcome α) (later : Nat) : Prop where
  forward : here.seen ≤ later
  cluster : outcome.server.cluster = course.stage later
  sent : course.sent later = course.sent here.seen ++ Event.writes outcome.events
  ended : ∀ value, outcome.result = .ok value →
    ∃ there, post value there ∧ there.seen = later ∧ there.past = here.past ++ outcome.events

theorem Tracks.run {d : Dialogue α} {here : Standing} (tracks : course.Tracks post d here)
    {faults : List Fault} (honest : Fault.Honest faults) :
    ∃ later, course.Ran post here (d.run ⟨course.stage here.seen, faults⟩) later := by
  induction d generalizing here faults with
  | done value =>
    refine ⟨here.seen, Nat.le_refl _, rfl, (List.append_nil _).symm, ?_⟩
    intro value' same
    cases same
    exact ⟨here, tracks, rfl, (List.append_nil _).symm⟩
  | fail failure =>
    refine ⟨here.seen, Nat.le_refl _, rfl, (List.append_nil _).symm, ?_⟩
    intro value same
    cases same
  | note entry next ih =>
    obtain ⟨later, ran⟩ := ih tracks honest
    refine ⟨later, ran.forward, ran.cluster, ran.sent, ?_⟩
    intro value same
    obtain ⟨there, held, seen, past⟩ := ran.ended value same
    exact ⟨there, held, seen, past.trans (List.append_assoc _ [Event.noted entry] _)⟩
  | ask request next ih =>
    obtain ⟨errors, kept⟩ := honest.meetAll request
    cases met : Fault.meetAll request faults with
    | mk due after =>
      rw [met] at errors kept
      cases due with
      | some error =>
        -- a fault answers: the cluster is not touched, and the dialogue fails
        obtain ⟨failure, ended⟩ := tracks.1 error (errors error rfl)
        have answered : Server.answer ⟨course.stage here.seen, faults⟩ request =
            (.error error, ⟨course.stage here.seen, after⟩) := by rw [Server.answer, met]
        simp only [Dialogue.run, answered, ended]
        refine ⟨here.seen, Nat.le_refl _, rfl, (List.append_nil _).symm, ?_⟩
        intro value same
        cases same
      | none =>
        -- alone, the dialogue is never behind, so that nothing is refused or sent in vain
        have answered : Server.answer ⟨course.stage here.seen, faults⟩ request =
            (course.reply here.seen request,
              ⟨((course.stage here.seen).perform request).2, after⟩) := by
          rw [Server.answer, met]
          rfl
        simp only [Dialogue.run, answered]
        rcases tracks.2 here.seen (Nat.le_refl _) with ⟨done, allowed, rest⟩ | ⟨refused, _⟩
        · rw [allowed.moved]
          obtain ⟨later, ran⟩ := ih _ rest kept
          have booked := allowed.booked.resolve_right fun again => Nat.lt_irrefl _ again.1
          refine ⟨later, Nat.le_trans (Nat.le_max_left _ _) ran.forward, ran.cluster, ?_, ?_⟩
          · rw [ran.sent, Standing.called, booked, List.append_assoc, ← Event.writes_append]
            rfl
          · intro value same
            obtain ⟨there, held, seen, past⟩ := ran.ended value same
            exact ⟨there, held, seen, past.trans (List.append_assoc _ [Event.called ..] _)⟩
        · exact absurd refused.stale (Nat.lt_irrefl _)

/-- Where every step can be taken and nothing fails, a run ends well. -/
theorem Tracks.run_ok {d : Dialogue α} {here : Standing} (tracks : course.Tracks post d here)
    (free : ∀ i, ¬ course.Stuck i) :
    ∃ value, (d.run (.faultless (course.stage here.seen))).result = .ok value := by
  induction d generalizing here with
  | done value => exact ⟨value, rfl⟩
  | fail failure => exact absurd tracks (free _)
  | note entry next ih =>
    have rest : course.Tracks post next (here.noted entry) := tracks
    have ended := ih rest
    exact ended
  | ask request next ih =>
    rcases tracks.2 here.seen (Nat.le_refl _) with ⟨done, allowed, rest⟩ | ⟨refused, _⟩
    · obtain ⟨value, ended⟩ := ih _ rest
      refine ⟨value, ?_⟩
      simp only [Dialogue.run, Server.answer, Server.faultless, Fault.meetAll, Outcome.after]
      rw [allowed.moved]
      exact ended
    · exact absurd refused.stale (Nat.lt_irrefl _)

end Course

namespace Reconciler
variable {reconciler : Reconciler} {ns : String} {layout : Layout} {start : Cluster}

theorem detect_of_reconcile (reconciler : Reconciler) (ns : String) {server : Server}
    {result : PassResult} (ended : ((reconciler.reconcile ns).run server).result = .ok result) :
    ∃ layout, ((reconciler.detect ns).run server).result = .ok layout := by
  rw [reconcile, Dialogue.bind_eq, Dialogue.run_bind] at ended
  cases found : ((reconciler.detect ns).run server).result with
  | ok layout => exact ⟨layout, rfl⟩
  | error failure =>
    rw [found] at ended
    cases ended

/-- Nothing stands in the way of a pass: it makes changes, its layout is found, and each step of the
layout can be taken. -/
structure Feasible (reconciler : Reconciler) (ns : String) (layout : Layout) (start : Cluster) :
    Prop where
  live : reconciler.dryRun = false
  sound : (reconciler.course ns layout start).Sound
  found : ((reconciler.detect ns).run (.faultless start)).result = .ok layout
  taken : ∀ step ∈ (reconciler.course ns layout start).steps,
    ∃ action, (reconciler.course ns layout start).due step = .ok action

theorem feasible_of_ok (live : reconciler.dryRun = false)
    (sound : ∀ layout, (reconciler.course ns layout start).Sound) {result : PassResult}
    (ended : ((reconciler.reconcile ns).run (.faultless start)).result = .ok result) :
    Feasible reconciler ns result.layout start := by
  obtain ⟨layout, found⟩ := detect_of_reconcile reconciler ns ended
  have fresh : (⟨0, 0, []⟩ : Standing).done = 0 := rfl
  obtain ⟨later, ran⟩ :=
    (tracks_reconcile live (sound layout) found fresh).run Fault.honest_nil
  obtain ⟨there, passed, _⟩ := ran.ended result ended
  rw [passed.found]
  exact ⟨live, sound layout, found, passed.taken⟩

namespace Feasible

theorem tracks (feasible : Feasible reconciler ns layout start) (stage : Nat) :
    (reconciler.course ns layout start).Tracks
      (Course.Passed reconciler ns layout (reconciler.course ns layout start) ⟨0, stage, []⟩)
      (reconciler.reconcile ns) ⟨0, stage, []⟩ :=
  tracks_reconcile feasible.live feasible.sound feasible.found rfl

theorem free (feasible : Feasible reconciler ns layout start) (i : Nat) :
    ¬ (reconciler.course ns layout start).Stuck i := by
  rintro ⟨step, bad, there, stuck⟩
  obtain ⟨action, due⟩ := feasible.taken step (List.mem_of_getElem? there)
  rw [stuck] at due
  cases due

end Feasible

/-- What a pass does that nothing disturbs, from any stage of its course. -/
structure Resumed (reconciler : Reconciler) (ns : String) (course : Course) (stage : Nat)
    (layout : Layout) (result : PassResult) : Prop where
  ended : ((reconciler.reconcile ns).run (.faultless (course.stage stage))).result = .ok result
  cluster : ((reconciler.reconcile ns).run (.faultless (course.stage stage))).server.cluster =
    course.stage course.steps.length
  sent : course.sent course.steps.length = course.sent stage ++
    Event.writes ((reconciler.reconcile ns).run (.faultless (course.stage stage))).events
  idle : course.steps.length ≤ stage → result = reconciler.idleResult ns layout ∧
    Event.attempts ((reconciler.reconcile ns).run (.faultless (course.stage stage))).events =
      reconciler.idleAttempts ns layout

theorem Feasible.resumed (feasible : Feasible reconciler ns layout start) (stage : Nat) :
    ∃ result, Resumed reconciler ns (reconciler.course ns layout start) stage layout result := by
  obtain ⟨result, ended⟩ := (feasible.tracks stage).run_ok feasible.free
  obtain ⟨later, ran⟩ := (feasible.tracks stage).run Fault.honest_nil
  obtain ⟨there, passed, rfl, past⟩ := ran.ended result ended
  refine ⟨result, ended, ?_, ?_, ?_⟩
  · exact ran.cluster.trans (Course.stage_of_length_le _ passed.seen)
  · exact (Course.sent_of_length_le _ passed.seen).symm.trans ran.sent
  · intro late
    obtain ⟨same, attempted⟩ := passed.quiet late
    rw [past] at attempted
    exact ⟨same, attempted⟩

end Reconciler
end Upkeep
