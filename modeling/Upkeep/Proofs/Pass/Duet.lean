import Mathlib.Logic.Relation
import Mathlib.Order.GameAdd
import Upkeep.Proofs.Cluster.Agreement
import Upkeep.Proofs.Pass.Reconcile

/-! Two dialogues at one cluster, in turns. A turn is one call or one log entry of one of them, and
a call is carried out as a whole. If both keep to the course, then so does the cluster: it is at
the stage of the one that is ahead, and only the other one can be refused. -/
namespace Upkeep

/-- What a party still has to say, and what has happened to it. -/
structure Party (α : Type) where
  rest : Dialogue α
  past : List Event

inductive Party.Turn {α : Type} : Cluster → Party α → Cluster → Party α → Prop
  | note (cluster : Cluster) (entry : Log.Entry) (next : Dialogue α) (past : List Event) :
    Turn cluster ⟨.note entry next, past⟩ cluster ⟨next, past ++ [.noted entry]⟩
  | ask (cluster : Cluster) (request : Request) (next : Except CallError Json → Dialogue α)
      (past : List Event) :
    Turn cluster ⟨.ask request next, past⟩ (cluster.perform request).2
      ⟨next (cluster.perform request).1, past ++ [.called request (cluster.perform request).1]⟩

structure Duet (α : Type) where
  cluster : Cluster
  first : Party α
  second : Party α

/-- One of the parties has a turn. -/
inductive Duet.Turn {α : Type} : Duet α → Duet α → Prop
  | first {cluster after : Cluster} {party moved : Party α} (other : Party α)
      (turn : Party.Turn cluster party after moved) :
    Turn ⟨cluster, party, other⟩ ⟨after, moved, other⟩
  | second {cluster after : Cluster} {party moved : Party α} (other : Party α)
      (turn : Party.Turn cluster party after moved) :
    Turn ⟨cluster, other, party⟩ ⟨after, other, moved⟩

/-- Nothing is left of the dialogue: it has a value or has failed. -/
def Party.Ended {α : Type} (party : Party α) : Prop :=
  (∃ value, party.rest = .done value) ∨ ∃ failure, party.rest = .fail failure

/-- A dialogue is what may follow another one after its next call or entry. -/
inductive Dialogue.Follows {α : Type} : Dialogue α → Dialogue α → Prop
  | note (entry : Log.Entry) (next : Dialogue α) : Follows next (.note entry next)
  | ask (request : Request) (next : Except CallError Json → Dialogue α)
      (reply : Except CallError Json) : Follows (next reply) (.ask request next)

theorem Dialogue.wellFounded_follows {α : Type} : WellFounded (@Follows α) := by
  constructor
  intro d
  induction d with
  | done value =>
    constructor
    rintro _ ⟨⟩
  | fail failure =>
    constructor
    rintro _ ⟨⟩
  | note entry next ih =>
    constructor
    rintro _ ⟨⟩
    exact ih
  | ask request next ih =>
    constructor
    rintro _ ⟨⟩
    exact ih _

namespace Party
variable {α : Type} {cluster after : Cluster} {party moved : Party α}

theorem Turn.follows (turn : Turn cluster party after moved) :
    Dialogue.Follows moved.rest party.rest := by
  cases turn with
  | note entry next past => exact .note entry next
  | ask request next past => exact .ask request next _

theorem exists_turn (cluster : Cluster) (party : Party α) (going : ¬ party.Ended) :
    ∃ after moved, Turn cluster party after moved := by
  obtain ⟨rest, past⟩ := party
  cases rest with
  | done value => exact absurd (.inl ⟨value, rfl⟩) going
  | fail failure => exact absurd (.inr ⟨failure, rfl⟩) going
  | note entry next => exact ⟨_, _, .note cluster entry next past⟩
  | ask request next => exact ⟨_, _, .ask cluster request next past⟩

end Party

namespace Duet
variable {α : Type}

/-- No two dialogues go on for ever. -/
theorem wellFounded_turn : WellFounded fun later earlier : Duet α => Turn earlier later := by
  have pairs := (Dialogue.wellFounded_follows (α := α)).prod_gameAdd
    (Dialogue.wellFounded_follows (α := α))
  apply Subrelation.wf _
    (InvImage.wf (fun duet : Duet α => (duet.first.rest, duet.second.rest)) pairs)
  intro later earlier turn
  cases turn with
  | first other turn => exact .fst turn.follows
  | second other turn => exact .snd turn.follows

/-- The same duet with the parties exchanged. -/
def swap (duet : Duet α) : Duet α := ⟨duet.cluster, duet.second, duet.first⟩

theorem exists_turn (duet : Duet α) (going : ¬ (duet.first.Ended ∧ duet.second.Ended)) :
    ∃ later, Turn duet later := by
  rcases not_and_or.mp going with first | second
  · obtain ⟨after, moved, turn⟩ := duet.first.exists_turn duet.cluster first
    exact ⟨_, .first duet.second turn⟩
  · obtain ⟨after, moved, turn⟩ := duet.second.exists_turn duet.cluster second
    exact ⟨_, .second duet.first turn⟩

end Duet

/-! ### What has been written -/

/-- The keys of the requests of a verb. -/
def Request.keysOf (verb : Verb) (requests : List Request) : List (Except Malformed ObjectKey) :=
  (requests.filter fun request => request.action.verb = verb).map Request.key

@[simp] theorem Request.keysOf_append (verb : Verb) (first second : List Request) :
    keysOf verb (first ++ second) = keysOf verb first ++ keysOf verb second := by
  simp [keysOf]

theorem Request.mem_keysOf {requests : List Request} {request : Request}
    (member : request ∈ requests) : request.key ∈ keysOf request.action.verb requests :=
  List.mem_map_of_mem (List.mem_filter.mpr ⟨member, by simp⟩)

theorem Request.keysOf_patch {verb : Verb} (notPatch : verb ≠ .patch) {request : Request}
    (patching : request.action.verb = .patch) (reply : Except CallError Json) :
    keysOf verb (Event.writes [.called request reply]) = [] := by
  cases reply with
  | error error => rfl
  | ok object =>
    rw [Event.writes_ok (by simp [patching])]
    simp [keysOf, patching, Ne.symm notPatch]

/-! ### One party -/

/-- A creation of the party was refused, and so it has failed. -/
def Party.Refused {α : Type} (party : Party α) : Prop :=
  ∃ (before : List Event) (request : Request) (target : Target),
    party.past = before ++ [.called request (.error .conflict)] ∧
      request.action.verb = .create ∧ request.key = .ok target.objectKey ∧
      party.rest = .fail (.step (.ofCall .writing target .conflict))

/-- How a party stands that has done so many steps of a course that has come to a stage. -/
def Course.Stands (course : Course) {α : Type} (post : α → Standing → Prop) (now done : Nat)
    (party : Party α) : Prop :=
  (∃ seen, seen ≤ now ∧ course.Tracks post party.rest ⟨done, seen, party.past⟩) ∨
    done < now ∧ party.Refused

theorem Course.Stands.mono {course : Course} {α : Type} {post : α → Standing → Prop}
    {now done later : Nat} {party : Party α} (stands : course.Stands post now done party)
    (onward : now ≤ later) : course.Stands post later done party := by
  rcases stands with ⟨seen, reached, tracks⟩ | ⟨behind, refused⟩
  · exact .inl ⟨seen, Nat.le_trans reached onward, tracks⟩
  · exact .inr ⟨Nat.lt_of_lt_of_le behind onward, refused⟩

/-- A turn of a party moves the course on to where the party stands, if that is further. -/
theorem Course.Stands.turn {course : Course} {α : Type} {post : α → Standing → Prop}
    {now done : Nat} {party moved : Party α} {after : Cluster}
    (stands : course.Stands post now done party) (behind : done ≤ now)
    (turn : Party.Turn (course.stage now) party after moved) :
    ∃ reached, done ≤ reached ∧ after = course.stage (max now reached) ∧
      course.Stands post (max now reached) reached moved ∧
      ∀ verb, verb ≠ .patch → ∃ fresh,
        Request.keysOf verb (Event.writes moved.past) =
          Request.keysOf verb (Event.writes party.past) ++ fresh ∧
        Request.keysOf verb (course.sent (max now reached)) =
          Request.keysOf verb (course.sent now) ++ fresh := by
  rcases stands with ⟨seen, reached, tracks⟩ | ⟨_, _, _, target, _, _, _, ended⟩
  · cases turn with
    | note entry next past =>
      have nearer := Nat.le_trans reached (Nat.le_max_left now done)
      refine ⟨done, Nat.le_refl _, ?_, .inl ⟨seen, nearer, ?_⟩, ?_⟩
      · rw [Nat.max_eq_left behind]
      · exact tracks
      · intro verb _
        refine ⟨[], ?_, ?_⟩
        · simp
        · rw [Nat.max_eq_left behind, List.append_nil]
    | ask request next past =>
      rcases tracks.2 now reached with ⟨more, allowed, rest⟩ | ⟨refused, target, key, ended⟩
      · refine ⟨more, allowed.forward, allowed.moved, .inl ⟨_, Nat.le_refl _, rest⟩, ?_⟩
        intro verb notPatch
        refine ⟨Request.keysOf verb (Event.writes [.called request (course.reply now request)]),
          ?_, ?_⟩
        · rw [← Request.keysOf_append, ← Event.writes_append]
          rfl
        · rcases allowed.booked with booked | ⟨_, done, patching⟩
          · rw [booked, Request.keysOf_append]
          · rw [Nat.max_eq_left done, Request.keysOf_patch notPatch patching, List.append_nil]
      · -- the creation came too late: the party has failed, and the cluster stays
        have replied := refused.refused
        refine ⟨done, Nat.le_refl _, ?_,
          .inr ⟨?_, past, request, target, ?_, refused.creation, key, ?_⟩, ?_⟩
        · rw [replied, Nat.max_eq_left behind]
        · exact Nat.lt_of_lt_of_le refused.behind (Nat.le_max_left _ _)
        · rw [replied]
        · rw [replied]
          exact ended
        · intro verb _
          refine ⟨[], ?_, ?_⟩
          · rw [replied, List.append_nil, Event.writes_append, Request.keysOf_append]
            exact List.append_nil _
          · rw [Nat.max_eq_left behind, List.append_nil]
  · obtain ⟨rest, past⟩ := party
    cases ended
    cases turn

/-- A party that has failed was refused a creation. -/
theorem Course.Stands.refused_of_fail {course : Course} {α : Type} {post : α → Standing → Prop}
    {now done : Nat} {party : Party α} (free : ∀ i, ¬ course.Stuck i)
    (stands : course.Stands post now done party) {failure : Failure}
    (failed : party.rest = .fail failure) : done < now ∧ party.Refused := by
  rcases stands with ⟨seen, reached, tracks⟩ | refused
  · rw [failed] at tracks
    exact absurd tracks (free done)
  · exact refused

theorem Course.Stands.post_of_done {course : Course} {α : Type} {post : α → Standing → Prop}
    {now done : Nat} {party : Party α} (stands : course.Stands post now done party) {value : α}
    (ended : party.rest = .done value) : ∃ seen, post value ⟨done, seen, party.past⟩ := by
  rcases stands with ⟨seen, reached, tracks⟩ | ⟨_, _, _, target, _, _, _, failed⟩
  · rw [ended] at tracks
    exact ⟨seen, tracks⟩
  · rw [ended] at failed
    cases failed

/-! ### Two courses -/

/-- What two clients find due for a step does the same. -/
theorem Step.due_agree {a b : Client} {step : Step} (managed : step.Managed) {held : Option Json}
    (wellFormed : ∀ stored, held = some stored → stored.WellFormed) {left right : Option Action}
    (one : step.due a held = .ok left) (other : step.due b held = .ok right) :
    (left = none ∧ right = none) ∨
      ∃ mine yours, left = some mine ∧ right = some yours ∧ mine.verb = yours.verb ∧
        ∀ cluster : Cluster, cluster.get? step.key = held →
          cluster.act step.key mine = cluster.act step.key yours := by
  cases step with
  | remove target =>
    rw [due] at one other
    cases one
    cases other
    cases held with
    | none => exact .inl ⟨rfl, rfl⟩
    | some stored => exact .inr ⟨_, _, rfl, rfl, rfl, fun _ _ => rfl⟩
  | bring target mutation =>
    obtain ⟨field, value, manages⟩ := managed
    rcases Client.due_agree manages wellFormed one other with
      nothing | ⟨mine, yours, rfl, rfl, alike, acts⟩
    · exact .inl nothing
    · exact .inr ⟨mine, yours, rfl, rfl, alike.verb, acts⟩

/-- Two courses of the same steps from the same start, each of which can take all of them. -/
structure Course.Alike (a b : Course) : Prop where
  steps : a.steps = b.steps
  start : a.start = b.start
  one : a.Sound
  other : b.Sound
  taken : ∀ step ∈ a.steps, (∃ action, a.due step = .ok action) ∧ ∃ action, b.due step = .ok action

namespace Course.Alike
variable {a b : Course} {step : Step} {i : Nat}

theorem symm (alike : a.Alike b) : b.Alike a := by
  refine ⟨alike.steps.symm, alike.start.symm, alike.other, alike.one, ?_⟩
  intro step member
  exact (alike.taken step (alike.steps ▸ member)).symm

theorem free (alike : a.Alike b) (i : Nat) : ¬ a.Stuck i := by
  rintro ⟨step, bad, found, stuck⟩
  obtain ⟨⟨action, due⟩, _⟩ := alike.taken step (List.mem_of_getElem? found)
  rw [stuck] at due
  cases due

theorem due (alike : a.Alike b) (found : a.steps[i]? = some step) :
    (a.due step = .ok none ∧ b.due step = .ok none) ∨
      ∃ mine yours, a.due step = .ok (some mine) ∧ b.due step = .ok (some yours) ∧
        mine.verb = yours.verb ∧ ∀ cluster : Cluster,
          cluster.get? step.key = a.start.get? step.key →
            cluster.act step.key mine = cluster.act step.key yours := by
  obtain ⟨⟨left, one⟩, right, other⟩ := alike.taken step (List.mem_of_getElem? found)
  have same : step.due b.client (a.start.get? step.key) = .ok right := by
    rw [alike.start]
    exact other
  rcases Step.due_agree (alike.one.managed_of_found found)
      (fun stored held => alike.one.wellFormed _ stored held) one same with
    ⟨rfl, rfl⟩ | ⟨mine, yours, rfl, rfl, verb, acts⟩
  · exact .inl ⟨one, other⟩
  · exact .inr ⟨mine, yours, one, other, verb, acts⟩

theorem stage (alike : a.Alike b) (n : Nat) : a.stage n = b.stage n := by
  induction n with
  | zero => exact alike.start
  | succ n ih =>
    cases found : a.steps[n]? with
    | none =>
      have there : b.steps[n]? = none := alike.steps ▸ found
      rw [stage_succ_of_none found, stage_succ_of_none there, ih]
    | some step =>
      have there : b.steps[n]? = some step := alike.steps ▸ found
      rcases alike.due found with ⟨one, other⟩ | ⟨mine, yours, one, other, _, acts⟩
      · rw [alike.one.stage_succ_of_idle found (by simp [one]),
          alike.other.stage_succ_of_idle there (by simp [other]), ih]
      · rw [alike.one.stage_succ_of_due found one, alike.other.stage_succ_of_due there other,
          acts _ (alike.one.get?_stage found (Nat.le_refl n)), ih]

/-- They create and delete the same objects. -/
theorem keysOf_sent (alike : a.Alike b) (verb : Verb) (n : Nat) :
    Request.keysOf verb (a.sent n) = Request.keysOf verb (b.sent n) := by
  induction n with
  | zero => rfl
  | succ n ih =>
    cases found : a.steps[n]? with
    | none =>
      have there : b.steps[n]? = none := alike.steps ▸ found
      rw [sent_succ_of_none found, sent_succ_of_none there, ih]
    | some step =>
      have there : b.steps[n]? = some step := alike.steps ▸ found
      rcases alike.due found with ⟨one, other⟩ | ⟨mine, yours, one, other, verbs, _⟩
      · rw [sent_succ_of_idle found (by simp [one]),
          sent_succ_of_idle there (by simp [other]), ih]
      · rw [sent_succ_of_due found one, sent_succ_of_due there other, Request.keysOf_append,
          Request.keysOf_append, ih]
        congr 1
        have same : (a.client.request step.target mine).action.verb =
            (b.client.request step.target yours).action.verb := verbs
        simp only [Request.keysOf, List.filter_cons, List.filter_nil, same]
        split <;> rfl

end Course.Alike

theorem Course.keys_requests_sublist (course : Course) (steps : List Step) :
    ((steps.filterMap course.request?).map Request.key).Sublist
      (steps.map fun step => .ok step.key) := by
  induction steps with
  | nil => exact List.Sublist.slnil
  | cons step rest ih =>
    cases asked : course.request? step with
    | none =>
      rw [List.filterMap_cons_none asked]
      exact ih.cons _
    | some request =>
      have key : request.key = .ok step.key := by
        rw [request?] at asked
        split at asked
        · cases asked
          rfl
        · cases asked
      rw [List.filterMap_cons_some asked, List.map_cons, List.map_cons, key]
      exact ih.cons_cons _

/-- What a course creates and deletes are different objects. -/
theorem Course.Sound.nodup_keysOf {course : Course} (sound : course.Sound) (verb : Verb) (n : Nat) :
    (Request.keysOf verb (course.sent n)).Nodup := by
  have apart : ((course.steps.take n).map Step.key).Nodup :=
    sound.distinct.sublist ((List.take_sublist n course.steps).map Step.key)
  have distinct : ((course.steps.take n).map fun step =>
      (Except.ok step.key : Except Malformed ObjectKey)).Nodup := by
    have tagged := apart.map (f := (Except.ok : ObjectKey → Except Malformed ObjectKey))
      fun _ _ same => Except.ok.inj same
    rwa [List.map_map] at tagged
  have whole : ((course.sent n).map Request.key).Nodup :=
    distinct.sublist (course.keys_requests_sublist _)
  exact whole.sublist (List.filter_sublist.map Request.key)

/-! ### The duet -/

/-- The parties and the cluster together: the cluster is at the stage of the party that is ahead,
and what they have created and deleted is what the course creates and deletes up to there. -/
structure Course.Together (a b : Course) {α : Type} (postOne postOther : α → Standing → Prop)
    (duet : Duet α) (first second : Nat) : Prop where
  cluster : duet.cluster = a.stage (max first second)
  one : a.Stands postOne (max first second) first duet.first
  other : b.Stands postOther (max first second) second duet.second
  booked : ∀ verb, verb ≠ .patch →
    (Request.keysOf verb (Event.writes duet.first.past) ++
      Request.keysOf verb (Event.writes duet.second.past)).Perm
        (Request.keysOf verb (a.sent (max first second)))

namespace Course.Together
variable {a b : Course} {α : Type} {postOne postOther : α → Standing → Prop} {duet later : Duet α}
  {first second : Nat}

theorem swap (alike : a.Alike b) (together : a.Together b postOne postOther duet first second) :
    b.Together a postOther postOne duet.swap second first := by
  refine ⟨?_, ?_, ?_, ?_⟩
  · rw [Nat.max_comm, ← alike.stage]
    exact together.cluster
  · rw [Nat.max_comm]
    exact together.other
  · rw [Nat.max_comm]
    exact together.one
  · intro verb notPatch
    rw [Nat.max_comm, ← alike.keysOf_sent]
    exact List.perm_append_comm.trans (together.booked verb notPatch)

/-- A turn of the first party. The other one does not notice, unless it falls behind. -/
theorem turn_first {cluster after : Cluster} {party moved other : Party α}
    (together : a.Together b postOne postOther ⟨cluster, party, other⟩ first second)
    (turn : Party.Turn cluster party after moved) :
    ∃ reached, a.Together b postOne postOther ⟨after, moved, other⟩ reached second := by
  have here : cluster = a.stage (max first second) := together.cluster
  rw [here] at turn
  obtain ⟨reached, forward, left, stands, fresh⟩ :=
    together.one.turn (Nat.le_max_left _ _) turn
  have stage : max (max first second) reached = max reached second := by omega
  rw [stage] at left stands fresh
  refine ⟨reached, left, stands, together.other.mono (by omega), ?_⟩
  intro verb notPatch
  obtain ⟨keys, written, sent⟩ := fresh verb notPatch
  rw [written, sent, List.append_assoc]
  refine (List.perm_append_comm.append_left _).trans ?_
  rw [← List.append_assoc]
  exact (together.booked verb notPatch).append_right keys

theorem turn (alike : a.Alike b) (together : a.Together b postOne postOther duet first second)
    (turn : Duet.Turn duet later) :
    ∃ first second, a.Together b postOne postOther later first second := by
  cases turn with
  | first other turn =>
    obtain ⟨reached, moved⟩ := together.turn_first turn
    exact ⟨reached, second, moved⟩
  | second other turn =>
    obtain ⟨reached, moved⟩ := (together.swap alike).turn_first turn
    exact ⟨first, reached, moved.swap alike.symm⟩

/-- However many turns there are, the parties keep to the course. -/
theorem run (alike : a.Alike b) (together : a.Together b postOne postOther duet first second)
    (turns : Relation.ReflTransGen Duet.Turn duet later) :
    ∃ first second, a.Together b postOne postOther later first second := by
  induction turns with
  | refl => exact ⟨first, second, together⟩
  | tail _ turn ih =>
    obtain ⟨first, second, before⟩ := ih
    exact before.turn alike turn

/-- Of two parties that keep to a course only one can be refused. -/
theorem not_both_failed (alike : a.Alike b)
    (together : a.Together b postOne postOther duet first second) {one other : Failure}
    (firstFailed : duet.first.rest = .fail one) (secondFailed : duet.second.rest = .fail other) :
    False := by
  have mine := (together.one.refused_of_fail alike.free firstFailed).1
  have yours := (together.other.refused_of_fail alike.symm.free secondFailed).1
  omega

theorem nodup_keysOf (alike : a.Alike b)
    (together : a.Together b postOne postOther duet first second) (verb : Verb)
    (notPatch : verb ≠ .patch) :
    (Request.keysOf verb (Event.writes duet.first.past) ++
      Request.keysOf verb (Event.writes duet.second.past)).Nodup :=
  (together.booked verb notPatch).nodup_iff.mpr (alike.one.nodup_keysOf verb _)

end Course.Together
end Upkeep
