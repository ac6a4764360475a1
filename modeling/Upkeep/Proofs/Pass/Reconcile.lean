import Upkeep.Proofs.Pass.Upsert
import Upkeep.Proofs.Wanted.Targets

/-! A whole pass keeps to its course, from any stage of it: the layout is found the same at every
stage, and the steps of the layout are done or found done in order. A pass that starts after the
last step reports nothing but unchanged targets and writes nothing. -/
namespace Upkeep

namespace PassResult

/-- The result with these targets booked as unchanged. -/
def bookUnchanged (result : PassResult) (targets : List (Target × Mutation)) : PassResult :=
  targets.foldl (fun result target => result.book target.1 .unchanged) result

end PassResult

/-- The usual names, and changes are made. -/
def Reconciler.live (client : Client) (documents : Wanted.Documents) (detector : Detector) :
    Reconciler :=
  { standard client documents false with detector := detector }

namespace Reconciler

/-- The steps that come first in a layout. -/
def firstSteps (reconciler : Reconciler) (ns : String) : Layout → List Step
  | .legacy => []
  | .modern => [.remove (reconciler.legacyTarget ns)]

/-- The steps of a pass over a layout. -/
def steps (reconciler : Reconciler) (ns : String) (layout : Layout) : List Step :=
  reconciler.firstSteps ns layout ++
    (reconciler.targets ns layout).map fun target => .bring target.1 target.2

def course (reconciler : Reconciler) (ns : String) (layout : Layout) (start : Cluster) : Course :=
  ⟨reconciler.client, reconciler.steps ns layout, start⟩

/-- What a pass reports that has nothing to do. -/
def idleResult (reconciler : Reconciler) (ns : String) (layout : Layout) : PassResult :=
  ((PassResult.start ns layout).bookUnchanged (reconciler.targets ns layout)).finish

/-- What a pass tries that has nothing to do. -/
def idleAttempts (reconciler : Reconciler) (ns : String) :
    Layout → List (Request × Except CallError Json)
  | .legacy => []
  | .modern =>
    [(reconciler.client.request (reconciler.legacyTarget ns) .delete, .error .notFound)]

end Reconciler

section
variable (client : Client) (documents : Wanted.Documents) (detector : Detector) (ns : String)

theorem Reconciler.steps_legacy :
    (live client documents detector).steps ns .legacy =
      [.bring (Wanted.aggregatedTarget ns) (Wanted.aggregatedMutation documents)] :=
  rfl

theorem Reconciler.steps_modern :
    (live client documents detector).steps ns .modern =
      [ .remove (Wanted.aggregatedTarget ns)
      , .bring (Wanted.dashboardTarget ns) (Wanted.dashboardMutation documents)
      , .bring (Wanted.alertTarget ns) Wanted.alertMutation
      , .bring (Wanted.scrapeTarget ns) Wanted.scrapeMutation ] :=
  rfl

theorem Wanted.managed_step {layout : Layout} {step : Step}
    (member : step ∈ (Reconciler.live client documents detector).steps ns layout) :
    step.Managed := by
  have brings : ∀ entry ∈ managedTargets documents ns, (Step.bring entry.1 entry.2).Managed :=
    fun entry known => ⟨_, manages_of_mem documents ns entry known⟩
  cases layout with
  | legacy =>
    rw [Reconciler.steps_legacy] at member
    rw [List.mem_singleton.mp member]
    exact brings _ List.mem_cons_self
  | modern =>
    rcases List.mem_cons.mp member with rfl | later
    · rfl
    · obtain ⟨entry, known, rfl⟩ := List.mem_map.mp later
      exact brings entry (List.mem_cons_of_mem _ known)

theorem Wanted.distinct_keys (layout : Layout) :
    (((Reconciler.live client documents detector).steps ns layout).map Step.key).Nodup := by
  cases layout with
  | legacy => exact List.nodup_singleton _
  | modern =>
    rw [Reconciler.steps_modern]
    simp [Step.key, Step.target, Target.objectKey, aggregatedTarget, dashboardTarget, alertTarget,
      scrapeTarget, Kind.name, aggregatedName, dashboardName]

theorem Reconciler.sound_course (layout : Layout) {start : Cluster}
    (wellFormed : start.WellFormed) :
    ((live client documents detector).course ns layout start).Sound :=
  ⟨wellFormed, fun _ member => Wanted.managed_step client documents detector ns member,
    Wanted.distinct_keys client documents detector ns layout⟩

end

namespace Course
variable {course : Course} {i : Nat} {here : Standing}

/-! ### The deletion -/

/-- What is known after the deletion: if it says that there was something, it has written, and if
it came late it has found nothing. -/
structure Cleared (course : Course) (target : Target) (i : Nat) (here : Standing) (deleted : Bool)
    (there : Standing) : Prop where
  done : there.done = i + 1
  seen : i + 1 ≤ there.seen
  told : deleted = true → course.client.request target .delete ∈ Event.writes there.past
  quiet : i < here.seen → deleted = false ∧ Event.attempts there.past =
    Event.attempts here.past ++ [(course.client.request target .delete, .error .notFound)]

theorem cleanup_eq {reconciler : Reconciler} (live : reconciler.dryRun = false) (ns : String) :
    reconciler.cleanup ns =
      .ask (reconciler.client.request (reconciler.legacyTarget ns) .delete) fun
        | .ok _ => .note (Reconciler.cleanupEntry (reconciler.legacyTarget ns) true) (.done true)
        | .error error =>
          if error.isNotFound then
            .note (Reconciler.cleanupEntry (reconciler.legacyTarget ns) false) (.done false)
          else .fail (Failure.tagged .deleting (reconciler.legacyTarget ns) (.call error)) := by
  rw [Reconciler.cleanup, live, if_neg Bool.false_ne_true]
  apply congrArg (Dialogue.ask _)
  funext reply
  cases reply with
  | ok object => rfl
  | error error =>
    cases gone : error.isNotFound <;> simp [gone, Dialogue.mapFailure, Dialogue.bind]

theorem Sound.tracks_cleanup (sound : course.Sound) {reconciler : Reconciler}
    (live : reconciler.dryRun = false) (same : course.client = reconciler.client) {ns : String}
    (found : course.steps[i]? = some (.remove (reconciler.legacyTarget ns)))
    (start : here.done = i) (reached : i ≤ here.seen) :
    course.Tracks (course.Cleared (reconciler.legacyTarget ns) i here) (reconciler.cleanup ns)
      here := by
  have performed := fun now =>
    (course.stage now).perform_request course.client (reconciler.legacyTarget ns) .delete
  rw [cleanup_eq live, ← same]
  constructor
  · intro error other
    exact ⟨_, if_neg (by simp [other])⟩
  · intro now later
    have arrived : i ≤ now := Nat.le_trans reached later
    left
    cases held : (course.stage now).get? (reconciler.legacyTarget ns).objectKey with
    | none =>
      have idle : (Step.remove (reconciler.legacyTarget ns)).due course.client
          ((course.stage now).get? (reconciler.legacyTarget ns).objectKey) = .ok none := by
        rw [held]
        rfl
      obtain ⟨taken, stays, silent⟩ := sound.idle_of_due found arrived idle
      have acted := (performed now).trans (Cluster.act_delete_of_absent held)
      have replied : course.reply now (course.client.request (reconciler.legacyTarget ns) .delete) =
          .error .notFound := by rw [reply, acted]
      refine ⟨i + 1, ⟨start ▸ Nat.le_succ i, ?_, .inl ?_⟩, ?_⟩
      · rw [acted, stays]
      · rw [silent, replied]
        exact (List.append_nil _).symm
      · rw [replied]
        refine ⟨rfl, Nat.le_max_right _ _, fun told => absurd told Bool.false_ne_true,
          fun _ => ⟨rfl, ?_⟩⟩
        simp [Standing.noted, Standing.called, Event.attempts, Event.attempt?, Client.request,
          Action.verb]
    | some stored =>
      have next : (Step.remove (reconciler.legacyTarget ns)).due course.client
          ((course.stage now).get? (reconciler.legacyTarget ns).objectKey) =
            .ok (some .delete) := by
        rw [held]
        rfl
      obtain ⟨rfl, due⟩ := sound.next_of_due found arrived next
      have acted := (performed now).trans (Cluster.act_delete_of_held held)
      have replied : course.reply now (course.client.request (reconciler.legacyTarget ns) .delete) =
          .ok Cluster.deleted := by rw [reply, acted]
      refine ⟨now + 1, sound.allows_due found due (by simp [Action.verb]) start replied, ?_⟩
      rw [replied]
      refine ⟨rfl, Nat.le_max_right _ _, fun _ => ?_,
        fun early => absurd later (Nat.not_le_of_lt early)⟩
      simp [Standing.noted, Standing.called, Event.writes, Event.write?, Client.request,
        Action.verb]

/-! ### The layout -/

theorem detect_result (client : Client) (name ns : String) (cluster : Cluster) :
    (((Detector.sentinel name).detect client ns).run (.faultless cluster)).result =
      match client.found .statefulSet
        (cluster.get? (Detector.sentinelTarget name ns).objectKey) with
      | .ok found => .ok (Detector.layoutOf found)
      | .error bad => .error (.malformed bad) := by
  have performed := cluster.perform_request client (Detector.sentinelTarget name ns) .get
  rw [Detector.detect, Dialogue.bind_eq, Client.get]
  simp only [Dialogue.mapFailure, Dialogue.bind, Dialogue.run, Outcome.after, Server.answer,
    Server.faultless, Fault.meetAll]
  rw [performed, Cluster.act.eq_def]
  cases cluster.get? (Detector.sentinelTarget name ns).objectKey with
  | none => rfl
  | some stored =>
    cases got : client.received .statefulSet stored <;>
      simp [Client.found, Detector.sentinelTarget, got, Except.map, Dialogue.ofExcept, Dialogue.run,
        Dialogue.mapFailure, Dialogue.bind, Failure.tagged, Outcome.after]

/-- The sentinel is no object of a pass, as nothing is written to its kind. -/
theorem Sound.get?_sentinel (sound : course.Sound) (name ns : String) (now : Nat) :
    (course.stage now).get? (Detector.sentinelTarget name ns).objectKey =
      course.start.get? (Detector.sentinelTarget name ns).objectKey := by
  apply get?_stage_of_free
  intro j step _ found same
  have kind : step.target.kind.name = Kind.statefulSet.name := congrArg ObjectKey.kind same
  have written : step.target.kind.isWritten := by
    have managed := sound.managed_of_found found
    cases step with
    | remove target => exact managed
    | bring target mutation =>
      obtain ⟨field, value, manages⟩ := managed
      exact manages.written
  cases shape : step.target.kind <;> rw [shape] at kind written
  · exact absurd kind (by decide)
  · cases written
  · exact absurd kind (by decide)
  · exact absurd kind (by decide)

/-- The layout is found the same at every stage. -/
theorem Sound.tracks_detect (sound : course.Sound) {detector : Detector} {ns : String}
    {layout : Layout}
    (found : ((detector.detect course.client ns).run (.faultless course.start)).result = .ok layout)
    (reached : here.done ≤ here.seen) :
    course.Tracks (fun value there => value = layout ∧ there.done = here.done ∧
        here.seen ≤ there.seen ∧ Event.attempts there.past = Event.attempts here.past)
      (detector.detect course.client ns) here := by
  cases detector with
  | fixed fixed =>
    have same : fixed = layout := Except.ok.inj found
    exact ⟨same, rfl, Nat.le_refl _, rfl⟩
  | sentinel name =>
    rw [detect_result] at found
    apply Tracks.read
    intro now later
    refine ⟨here.done, rests_self course here (Nat.le_trans reached later), ?_⟩
    intro past same
    rw [sound.get?_sentinel name ns now]
    cases got : course.client.found (Detector.sentinelTarget name ns).kind
        (course.start.get? (Detector.sentinelTarget name ns).objectKey) with
    | error bad =>
      have read : course.client.found .statefulSet _ = .error bad := got
      rw [read] at found
      cases found
    | ok value =>
      have read : course.client.found .statefulSet _ = .ok value := got
      rw [read] at found
      refine ⟨Except.ok.inj found, rfl, Nat.le_trans later (Nat.le_max_left _ _), ?_⟩
      simp [Standing.noted, same]

/-! ### The targets in order -/

/-- What is known once the last targets have been brought up to date. -/
structure Finished (course : Course) (targets : List (Target × Mutation)) (before : PassResult)
    (here : Standing) (result : PassResult) (there : Standing) : Prop where
  done : there.done = course.steps.length
  seen : course.steps.length ≤ there.seen
  taken : ∀ target ∈ targets, ∃ action, course.due (.bring target.1 target.2) = .ok action
  kept : result.legacyDeleted = before.legacyDeleted ∧ result.layout = before.layout
  quiet : course.steps.length ≤ here.seen →
    result = before.bookUnchanged targets ∧ Event.attempts there.past = Event.attempts here.past

theorem Sound.tracks_upsertAll (sound : course.Sound) (before : List Step)
    (targets : List (Target × Mutation))
    (split : course.steps = before ++ targets.map fun target => .bring target.1 target.2)
    (start : here.done = before.length) (reached : before.length ≤ here.seen)
    (result : PassResult) :
    course.Tracks (course.Finished targets result here)
      (Reconciler.upsertAll ⟨course.client, false⟩ result targets) here := by
  induction targets generalizing before here result with
  | nil =>
    have length : course.steps.length = before.length := by rw [split]; simp
    exact ⟨start.trans length.symm, length ▸ reached, List.forall_mem_nil _, ⟨rfl, rfl⟩,
      fun _ => ⟨rfl, rfl⟩⟩
  | cons target rest ih =>
    obtain ⟨target, mutation⟩ := target
    have found : course.steps[before.length]? = some (.bring target mutation) := by
      rw [split, List.getElem?_append_right (Nat.le_refl _)]
      simp
    have inside : before.length < course.steps.length := (List.getElem?_eq_some_iff.mp found).1
    apply Tracks.bind
    apply Tracks.weaken (Tracks.grows (sound.tracks_upsert found start reached))
    rintro status there ⟨brought, _, later⟩
    apply Tracks.weaken (ih (before ++ [.bring target mutation]) (by simpa using split)
      (by rw [brought.done]; simp) (by simpa using brought.seen) (result.book target status))
    intro final end' finished
    refine ⟨finished.done, finished.seen, ?_, finished.kept, ?_⟩
    · intro other member
      rcases List.mem_cons.mp member with rfl | member
      · exact brought.taken
      · exact finished.taken other member
    · intro ended
      obtain ⟨unchanged, silent⟩ := brought.quiet (Nat.lt_of_lt_of_le inside ended)
      obtain ⟨same, quiet⟩ := finished.quiet (Nat.le_trans ended later)
      rw [unchanged] at same
      exact ⟨same, quiet.trans silent⟩

/-! ### The pass -/

/-- What is known at the end of a pass. -/
structure Passed (reconciler : Reconciler) (ns : String) (layout : Layout) (course : Course)
    (here : Standing) (result : PassResult) (there : Standing) : Prop where
  done : there.done = course.steps.length
  seen : course.steps.length ≤ there.seen
  taken : ∀ step ∈ course.steps, ∃ action, course.due step = .ok action
  found : result.layout = layout
  told : result.legacyDeleted = true →
    course.client.request (reconciler.legacyTarget ns) .delete ∈ Event.writes there.past
  quiet : course.steps.length ≤ here.seen → result = reconciler.idleResult ns layout ∧
    Event.attempts there.past = Event.attempts here.past ++ reconciler.idleAttempts ns layout

/-- What is known once the layout is prepared. -/
structure Prepared (reconciler : Reconciler) (ns : String) (layout : Layout) (course : Course)
    (here : Standing) (deleted : Bool) (there : Standing) : Prop where
  done : there.done = (reconciler.firstSteps ns layout).length
  seen : (reconciler.firstSteps ns layout).length ≤ there.seen
  told : deleted = true →
    course.client.request (reconciler.legacyTarget ns) .delete ∈ Event.writes there.past
  quiet : (reconciler.firstSteps ns layout).length ≤ here.seen → deleted = false ∧
    Event.attempts there.past = Event.attempts here.past ++ reconciler.idleAttempts ns layout

theorem tracks_prepare {reconciler : Reconciler} (live : reconciler.dryRun = false) {ns : String}
    {layout : Layout} {start : Cluster} (sound : (reconciler.course ns layout start).Sound)
    (fresh : here.done = 0) :
    (reconciler.course ns layout start).Tracks
      (Prepared reconciler ns layout (reconciler.course ns layout start) here)
      (reconciler.prepare ns layout) here := by
  cases layout with
  | legacy =>
    exact ⟨fresh, Nat.zero_le _, fun told => absurd told Bool.false_ne_true,
      fun _ => ⟨rfl, (List.append_nil _).symm⟩⟩
  | modern =>
    apply Tracks.weaken (sound.tracks_cleanup live rfl (i := 0) rfl fresh (Nat.zero_le _))
    intro deleted there cleared
    exact ⟨cleared.done, cleared.seen, cleared.told, cleared.quiet⟩

end Course

theorem Reconciler.taken_of_firstSteps {reconciler : Reconciler} {ns : String} {layout : Layout}
    {start : Cluster} {step : Step} (member : step ∈ reconciler.firstSteps ns layout) :
    ∃ action, (reconciler.course ns layout start).due step = .ok action := by
  cases layout with
  | legacy => cases member
  | modern =>
    have only : step = .remove (reconciler.legacyTarget ns) := by
      simpa [firstSteps] using member
    rw [only]
    exact ⟨_, rfl⟩

/-- A pass keeps to its course wherever it finds it. -/
theorem Reconciler.tracks_reconcile {reconciler : Reconciler} (live : reconciler.dryRun = false)
    {ns : String} {layout : Layout} {start : Cluster}
    (sound : (reconciler.course ns layout start).Sound)
    (found : ((reconciler.detect ns).run (.faultless start)).result = .ok layout)
    {here : Standing} (fresh : here.done = 0) :
    (reconciler.course ns layout start).Tracks
      (Course.Passed reconciler ns layout (reconciler.course ns layout start) here)
      (reconciler.reconcile ns) here := by
  have upserter : reconciler.upserter = ⟨reconciler.client, false⟩ := by rw [upserter, live]
  rw [reconcile]
  apply Course.Tracks.bind
  apply Course.Tracks.weaken (sound.tracks_detect found (fresh ▸ Nat.zero_le _))
  rintro layout detected ⟨rfl, unmoved, seen, silent⟩
  apply Course.Tracks.bind
  change Course.Tracks _ _ (Dialogue.bind (reconciler.prepare ns _) _) (detected.noted _)
  apply Course.Tracks.bind
  refine Course.Tracks.weaken (Course.Tracks.grows (Course.tracks_prepare live sound ?_)) ?_
  · exact unmoved.trans fresh
  rintro deleted prepared ⟨preparation, _, later⟩
  rw [upserter]
  apply Course.Tracks.bind
  apply Course.Tracks.weaken (Course.Tracks.grows (sound.tracks_upsertAll _ _ rfl preparation.done
    preparation.seen _))
  rintro result finished ⟨⟨done, reached, taken, kept, quiet⟩, ⟨more, past⟩, _⟩
  refine ⟨done, reached, ?_, kept.2, ?_, ?_⟩
  · intro step member
    rcases List.mem_append.mp member with first | later
    · exact taken_of_firstSteps first
    · obtain ⟨target, there, rfl⟩ := List.mem_map.mp later
      exact taken target there
  · intro told
    rw [← past, Event.writes_append]
    exact List.mem_append_left _ (preparation.told (kept.1.symm.trans told))
  · intro ended
    have first : (reconciler.firstSteps ns layout).length ≤ detected.seen := by
      have shorter : (reconciler.firstSteps ns layout).length ≤
          (reconciler.course ns layout start).steps.length := by
        simp [course, steps]
      exact Nat.le_trans shorter (Nat.le_trans ended seen)
    obtain ⟨nothing, attempted⟩ := preparation.quiet first
    obtain ⟨same, still⟩ := quiet (Nat.le_trans ended (Nat.le_trans seen later))
    constructor
    · rw [same, nothing]
      rfl
    · rw [still, attempted]
      simp [Standing.noted, silent]

end Upkeep
