import Mathlib.Data.List.Nodup
import Upkeep.Proofs.Pass.Step

/-! The course of a pass: its steps, one after another, on a cluster in which nobody else writes.
The stages are the clusters between the steps. Each step concerns an object of its own, so a later
stage still has what a step left, and an earlier one what was there at the start. -/
namespace Upkeep

/-- The cluster after one more step; a step that cannot be taken changes nothing. -/
def Step.advance (client : Client) (step : Step) (cluster : Cluster) : Cluster :=
  match step.due client (cluster.get? step.key) with
  | .ok (some action) => (cluster.act step.key action).2
  | _ => cluster

structure Course where
  client : Client
  steps : List Step
  start : Cluster

namespace Course

/-- What a step has to do, as things are at the start. -/
def due (course : Course) (step : Step) : Except Malformed (Option Action) :=
  step.due course.client (course.start.get? step.key)

/-- The cluster after so many steps. -/
def stage (course : Course) (n : Nat) : Cluster :=
  (course.steps.take n).foldl (fun cluster step => step.advance course.client cluster) course.start

/-- The request of a step that has something to do. -/
def request? (course : Course) (step : Step) : Option Request :=
  match course.due step with
  | .ok (some action) => some (course.client.request step.target action)
  | _ => none

/-- The requests of so many steps. -/
def sent (course : Course) (n : Nat) : List Request :=
  (course.steps.take n).filterMap course.request?

/-- Stored objects are well-formed, and the steps belong to objects of their own. -/
structure Sound (course : Course) : Prop where
  wellFormed : course.start.WellFormed
  managed : ∀ step ∈ course.steps, step.Managed
  distinct : (course.steps.map Step.key).Nodup

end Course

theorem Step.get?_advance_of_ne (client : Client) (step : Step) (cluster : Cluster)
    {key : ObjectKey} (different : step.key ≠ key) :
    (step.advance client cluster).get? key = cluster.get? key := by
  rw [Step.advance]
  split
  · exact cluster.get?_act_of_ne _ different
  · rfl

namespace Course
variable {course : Course} {step : Step} {i n : Nat}

theorem stage_succ (found : course.steps[i]? = some step) :
    course.stage (i + 1) = step.advance course.client (course.stage i) := by
  rw [stage, List.take_add_one, found, List.foldl_append]
  rfl

theorem sent_succ (found : course.steps[i]? = some step) :
    course.sent (i + 1) = course.sent i ++ (course.request? step).toList := by
  rw [sent, List.take_add_one, found, List.filterMap_append, sent]
  cases outcome : course.request? step <;> simp [outcome]

theorem stage_succ_of_none (ended : course.steps[n]? = none) :
    course.stage (n + 1) = course.stage n := by
  rw [stage, stage, List.take_add_one, ended, Option.toList_none, List.append_nil]

theorem sent_succ_of_none (ended : course.steps[n]? = none) :
    course.sent (n + 1) = course.sent n := by
  rw [sent, sent, List.take_add_one, ended, Option.toList_none, List.append_nil]

/-- After the last step nothing happens any more. -/
theorem stage_of_length_le (course : Course) (ended : course.steps.length ≤ n) :
    course.stage n = course.stage course.steps.length := by
  rw [stage, stage, List.take_of_length_le ended, List.take_length]

theorem sent_of_length_le (course : Course) (ended : course.steps.length ≤ n) :
    course.sent n = course.sent course.steps.length := by
  rw [sent, sent, List.take_of_length_le ended, List.take_length]

theorem get?_stage_of_free (course : Course) {key : ObjectKey}
    (free : ∀ j step, j < n → course.steps[j]? = some step → step.key ≠ key) :
    (course.stage n).get? key = course.start.get? key := by
  induction n with
  | zero => rfl
  | succ n ih =>
    have before := ih fun j step earlier => free j step (Nat.lt_succ_of_lt earlier)
    cases found : course.steps[n]? with
    | none => rw [stage_succ_of_none found, before]
    | some step =>
      rw [stage_succ found, Step.get?_advance_of_ne _ _ _ (free n step (Nat.lt_succ_self n) found),
        before]

theorem Sound.key_ne (sound : course.Sound) {j : Nat} {other : Step}
    (found : course.steps[i]? = some step) (there : course.steps[j]? = some other)
    (different : i ≠ j) : step.key ≠ other.key := by
  intro same
  have inside : i < (course.steps.map Step.key).length := by
    rw [List.length_map]
    exact (List.getElem?_eq_some_iff.mp found).1
  apply different
  apply (List.getElem?_inj inside sound.distinct).mp
  rw [List.getElem?_map, List.getElem?_map, found, there, Option.map_some, Option.map_some, same]

theorem Sound.managed_of_found (sound : course.Sound) (found : course.steps[i]? = some step) :
    step.Managed :=
  sound.managed step (List.mem_of_getElem? found)

/-- Up to its step an object is as it was at the start. -/
theorem Sound.get?_stage (sound : course.Sound) (found : course.steps[i]? = some step)
    (early : n ≤ i) : (course.stage n).get? step.key = course.start.get? step.key := by
  apply get?_stage_of_free
  intro j other earlier there
  exact sound.key_ne there found (by omega)

/-- After its step an object stays as it is. -/
theorem Sound.get?_stage_succ (sound : course.Sound) (found : course.steps[i]? = some step)
    (late : i < n) : (course.stage n).get? step.key = (course.stage (i + 1)).get? step.key := by
  induction n with
  | zero => omega
  | succ n ih =>
    rcases Nat.lt_succ_iff_lt_or_eq.mp late with earlier | rfl
    · cases there : course.steps[n]? with
      | none => rw [stage_succ_of_none there, ih earlier]
      | some other =>
        rw [stage_succ there, Step.get?_advance_of_ne _ _ _ (sound.key_ne there found (by omega)),
          ih earlier]
    · rfl

theorem Sound.due_stage (sound : course.Sound) (found : course.steps[i]? = some step)
    (early : n ≤ i) :
    step.due course.client ((course.stage n).get? step.key) = course.due step := by
  rw [sound.get?_stage found early, due]

theorem Sound.wellFormed_stage (sound : course.Sound) (found : course.steps[i]? = some step)
    (stored : Json) (held : (course.stage i).get? step.key = some stored) : stored.WellFormed := by
  rw [sound.get?_stage found (Nat.le_refl i)] at held
  exact sound.wellFormed _ _ held

theorem Sound.stage_succ_of_due (sound : course.Sound) (found : course.steps[i]? = some step)
    {action : Action} (due : course.due step = .ok (some action)) :
    course.stage (i + 1) = ((course.stage i).act step.key action).2 := by
  rw [stage_succ found, Step.advance, sound.due_stage found (Nat.le_refl i), due]

theorem Sound.stage_succ_of_idle (sound : course.Sound) (found : course.steps[i]? = some step)
    (idle : ∀ action, course.due step ≠ .ok (some action)) :
    course.stage (i + 1) = course.stage i := by
  rw [stage_succ found, Step.advance, sound.due_stage found (Nat.le_refl i)]
  split
  · rename_i action due
    exact absurd due (idle action)
  · rfl

theorem sent_succ_of_due (found : course.steps[i]? = some step) {action : Action}
    (due : course.due step = .ok (some action)) :
    course.sent (i + 1) = course.sent i ++ [course.client.request step.target action] := by
  rw [sent_succ found, request?, due]
  rfl

theorem sent_succ_of_idle (found : course.steps[i]? = some step)
    (idle : ∀ action, course.due step ≠ .ok (some action)) :
    course.sent (i + 1) = course.sent i := by
  rw [sent_succ found, request?]
  split
  · rename_i action due
    exact absurd due (idle action)
  · exact List.append_nil _

/-- A step that can be taken is settled at every later stage. -/
theorem Sound.settled (sound : course.Sound) (found : course.steps[i]? = some step)
    {action : Option Action} (due : course.due step = .ok action) (late : i < n) :
    step.Settled action ((course.stage n).get? step.key) := by
  have managed := sound.managed_of_found found
  have wellFormed := sound.wellFormed_stage found
  rw [sound.get?_stage_succ found late]
  cases action with
  | none =>
    rw [sound.stage_succ_of_idle found (by simp [due])]
    rw [← sound.due_stage found (Nat.le_refl i)] at due
    exact Step.settled_of_due managed wellFormed due
  | some action =>
    rw [sound.stage_succ_of_due found due]
    rw [← sound.due_stage found (Nat.le_refl i)] at due
    exact (Step.settled_act managed wellFormed due).2

theorem Sound.settled_end (sound : course.Sound) (member : step ∈ course.steps)
    {action : Option Action} (due : course.due step = .ok action) :
    step.Settled action ((course.stage course.steps.length).get? step.key) := by
  obtain ⟨i, inside, found⟩ := List.getElem_of_mem member
  exact sound.settled (List.getElem?_eq_some_iff.mpr ⟨inside, found⟩) due inside

/-- An object for which nothing is due stays as it was at the start. -/
theorem Sound.get?_end_of_idle (sound : course.Sound) (member : step ∈ course.steps)
    (idle : ∀ action, course.due step ≠ .ok (some action)) :
    (course.stage course.steps.length).get? step.key = course.start.get? step.key := by
  obtain ⟨i, inside, found⟩ := List.getElem_of_mem member
  have there := List.getElem?_eq_some_iff.mpr ⟨inside, found⟩
  rw [sound.get?_stage_succ there inside, sound.stage_succ_of_idle there idle,
    sound.get?_stage there (Nat.le_refl i)]

/-- Where nothing is due for any object, nothing happens. -/
theorem Sound.stage_of_idle (sound : course.Sound)
    (idle : ∀ step ∈ course.steps, ∀ action, course.due step ≠ .ok (some action)) (n : Nat) :
    course.stage n = course.start := by
  induction n with
  | zero => rfl
  | succ n ih =>
    cases found : course.steps[n]? with
    | none => rw [stage_succ_of_none found, ih]
    | some step =>
      rw [sound.stage_succ_of_idle found (idle step (List.mem_of_getElem? found)), ih]

/-- What a later stage leaves to a step: nothing, if the step can be taken at all. -/
theorem Sound.due_later (sound : course.Sound) (found : course.steps[i]? = some step)
    (late : i < n) : step.due course.client ((course.stage n).get? step.key) =
      (course.due step).map fun _ => none := by
  cases due : course.due step with
  | error bad =>
    rw [sound.get?_stage_succ found late, sound.stage_succ_of_idle found (by simp [due]),
      sound.due_stage found (Nat.le_refl i), due]
    rfl
  | ok action =>
    exact Step.due_of_settled (sound.managed_of_found found) (sound.settled found due late)

/-! ### What a look at a stage tells about a step -/

theorem Sound.due_of_error (sound : course.Sound) (found : course.steps[i]? = some step)
    (reached : i ≤ n) {bad : Malformed}
    (seen : step.due course.client ((course.stage n).get? step.key) = .error bad) :
    course.due step = .error bad := by
  rcases Nat.eq_or_lt_of_le reached with rfl | late
  · rwa [sound.due_stage found (Nat.le_refl i)] at seen
  · rw [sound.due_later found late] at seen
    cases due : course.due step with
    | error other =>
      rw [due] at seen
      cases seen
      rfl
    | ok action =>
      rw [due] at seen
      cases seen

/-- A step with nothing to do is done, and the course is where it would be after it. -/
theorem Sound.idle_of_due (sound : course.Sound) (found : course.steps[i]? = some step)
    (reached : i ≤ n) (seen : step.due course.client ((course.stage n).get? step.key) = .ok none) :
    (∃ action, course.due step = .ok action) ∧ course.stage (max n (i + 1)) = course.stage n ∧
      course.sent (max n (i + 1)) = course.sent n := by
  rcases Nat.eq_or_lt_of_le reached with rfl | late
  · rw [sound.due_stage found (Nat.le_refl i)] at seen
    rw [Nat.max_eq_right (Nat.le_succ i)]
    have idle : ∀ action, course.due step ≠ .ok (some action) := by simp [seen]
    exact ⟨⟨none, seen⟩, sound.stage_succ_of_idle found idle, sent_succ_of_idle found idle⟩
  · rw [Nat.max_eq_left late]
    rw [sound.due_later found late] at seen
    cases due : course.due step with
    | error bad =>
      rw [due] at seen
      cases seen
    | ok action => exact ⟨⟨action, rfl⟩, rfl, rfl⟩

theorem Sound.next_of_due (sound : course.Sound) (found : course.steps[i]? = some step)
    (reached : i ≤ n) {action : Action}
    (seen : step.due course.client ((course.stage n).get? step.key) = .ok (some action)) :
    n = i ∧ course.due step = .ok (some action) := by
  rcases Nat.eq_or_lt_of_le reached with rfl | late
  · rw [sound.due_stage found (Nat.le_refl i)] at seen
    exact ⟨rfl, seen⟩
  · rw [sound.due_later found late] at seen
    cases due : course.due step with
    | error bad =>
      rw [due] at seen
      cases seen
    | ok other =>
      rw [due] at seen
      cases seen

end Course
end Upkeep
