import Upkeep.Proofs.Pass.Convergence
import Upkeep.Proofs.Pass.Duet

/-! Two passes at once over one namespace. Whatever the order of their calls, one of them
completes, the other one can only be refused a creation, and the cluster is in the end what a
single pass would have left. -/
namespace Upkeep

/-- What the client reads of the stored targets can be brought up to date. -/
def Client.Accepts (client : Client) (cluster : Cluster) (targets : List (Target × Mutation)) :
    Prop :=
  ∀ target ∈ targets, ∀ stored, cluster.get? target.1.objectKey = some stored →
    ∃ read wanted, client.received target.1.kind stored = .ok read ∧
      target.2.apply read = .ok wanted

namespace Reconciler

theorem feasible_of_accepts {client : Client} {documents : Wanted.Documents} {detector : Detector}
    {ns : String} {layout : Layout} {start : Cluster} (wellFormed : start.WellFormed)
    (found : ((detector.detect client ns).run (.faultless start)).result = .ok layout)
    (accepts : client.Accepts start ((live client documents detector).targets ns layout)) :
    Feasible (live client documents detector) ns layout start := by
  refine ⟨rfl, sound_course client documents detector ns layout wellFormed, found, ?_⟩
  intro step member
  rcases List.mem_append.mp member with first | later
  · exact taken_of_firstSteps first
  · obtain ⟨target, wanted, rfl⟩ := List.mem_map.mp later
    obtain ⟨field, value, manages⟩ := Wanted.managed_step client documents detector ns member
    change ∃ action, client.due target.1 target.2 (start.get? target.1.objectKey) = .ok action
    cases held : start.get? target.1.objectKey with
    | none => exact ⟨_, Client.due_none manages client⟩
    | some stored =>
      obtain ⟨read, made, received, applied⟩ := accepts target wanted stored held
      rw [Client.due, received]
      simp only [applied]
      exact ⟨_, rfl⟩

theorem together_start {one other : Reconciler} {ns : String} {layout : Layout} {cluster : Cluster}
    (mine : Feasible one ns layout cluster) (yours : Feasible other ns layout cluster) :
    (one.course ns layout cluster).Together (other.course ns layout cluster)
      (Course.Passed one ns layout (one.course ns layout cluster) ⟨0, 0, []⟩)
      (Course.Passed other ns layout (other.course ns layout cluster) ⟨0, 0, []⟩)
      ⟨cluster, ⟨one.reconcile ns, []⟩, ⟨other.reconcile ns, []⟩⟩ 0 0 where
  cluster := rfl
  one := .inl ⟨0, Nat.le_refl _, mine.tracks 0⟩
  other := .inl ⟨0, Nat.le_refl _, yours.tracks 0⟩
  booked := fun _ _ => List.Perm.refl _

/-- Two passes at once over one namespace, in the same layout. No run of theirs goes on for ever,
and until both have ended one of them can go on. A pass can only fail because it was refused a
creation, and not both can. No object is created twice, and not both passes say that they deleted
the legacy object. Once both have ended the cluster is as a single pass would have left it. -/
theorem reconcile_concurrently (a b : Client) (documents : Wanted.Documents)
    (detectorOne detectorOther : Detector) (ns : String) {cluster : Cluster} {layout : Layout}
    (wellFormed : cluster.WellFormed)
    (foundOne : ((detectorOne.detect a ns).run (.faultless cluster)).result = .ok layout)
    (foundOther : ((detectorOther.detect b ns).run (.faultless cluster)).result = .ok layout)
    (acceptsOne : a.Accepts cluster ((live a documents detectorOne).targets ns layout))
    (acceptsOther : b.Accepts cluster ((live b documents detectorOther).targets ns layout)) :
    let one := (live a documents detectorOne).reconcile ns
    let other := (live b documents detectorOther).reconcile ns
    let start : Duet PassResult := ⟨cluster, ⟨one, []⟩, ⟨other, []⟩⟩
    let single := one.run (.faultless cluster)
    (∃ result, single.result = .ok result) ∧
    Acc (fun later earlier => Duet.Turn earlier later) start ∧
    ∀ duet, Relation.ReflTransGen Duet.Turn start duet →
      (¬ (duet.first.Ended ∧ duet.second.Ended) → ∃ later, Duet.Turn duet later) ∧
      (∀ failure, duet.first.rest = .fail failure → duet.first.Refused) ∧
      (∀ failure, duet.second.rest = .fail failure → duet.second.Refused) ∧
      (Request.keysOf .create
        (Event.writes duet.first.past ++ Event.writes duet.second.past)).Nodup ∧
      (∀ mine yours, duet.first.rest = .done mine → duet.second.rest = .done yours →
        ¬ (mine.legacyDeleted = true ∧ yours.legacyDeleted = true)) ∧
      (duet.first.Ended → duet.second.Ended →
        ((∃ mine, duet.first.rest = .done mine) ∨ ∃ yours, duet.second.rest = .done yours) ∧
          duet.cluster = single.server.cluster) := by
  have mine := feasible_of_accepts wellFormed foundOne acceptsOne
  have yours := feasible_of_accepts wellFormed foundOther acceptsOther
  have alike : ((live a documents detectorOne).course ns layout cluster).Alike
      ((live b documents detectorOther).course ns layout cluster) :=
    ⟨rfl, rfl, mine.sound, yours.sound,
      fun step member => ⟨mine.taken step member, yours.taken step member⟩⟩
  obtain ⟨result, alone⟩ := mine.resumed 0
  intro one other start single
  refine ⟨⟨result, alone.ended⟩, Duet.wellFounded_turn.apply _, ?_⟩
  intro duet turns
  obtain ⟨first, second, together⟩ := (together_start mine yours).run alike turns
  refine ⟨duet.exists_turn, fun _ failed => (together.one.refused_of_fail alike.free failed).2,
    fun _ failed => (together.other.refused_of_fail alike.symm.free failed).2, ?_, ?_, ?_⟩
  · rw [Request.keysOf_append]
    exact together.nodup_keysOf alike .create (by decide)
  · rintro mine yours firstDone secondDone ⟨mineDeleted, yoursDeleted⟩
    obtain ⟨_, passedOne⟩ := together.one.post_of_done firstDone
    obtain ⟨_, passedOther⟩ := together.other.post_of_done secondDone
    have deletions := together.nodup_keysOf alike .delete (by decide)
    have mineKey : Except.ok (Wanted.aggregatedTarget ns).objectKey ∈
        Request.keysOf .delete (Event.writes duet.first.past) :=
      Request.mem_keysOf (passedOne.told mineDeleted)
    have yoursKey : Except.ok (Wanted.aggregatedTarget ns).objectKey ∈
        Request.keysOf .delete (Event.writes duet.second.past) :=
      Request.mem_keysOf (passedOther.told yoursDeleted)
    exact List.disjoint_of_nodup_append deletions mineKey yoursKey
  · intro firstEnded secondEnded
    have reached : ∀ ended, ended ≤ max first second →
        ended = ((live a documents detectorOne).course ns layout cluster).steps.length →
          duet.cluster = single.server.cluster := by
      intro ended further whole
      rw [together.cluster, Course.stage_of_length_le _ (whole ▸ further)]
      exact alone.cluster.symm
    rcases firstEnded with ⟨mine, firstDone⟩ | ⟨failure, firstFailed⟩
    · obtain ⟨_, passed⟩ := together.one.post_of_done firstDone
      exact ⟨.inl ⟨mine, firstDone⟩, reached first (Nat.le_max_left _ _) passed.done⟩
    · rcases secondEnded with ⟨yours, secondDone⟩ | ⟨other, secondFailed⟩
      · obtain ⟨_, passed⟩ := together.other.post_of_done secondDone
        exact ⟨.inr ⟨yours, secondDone⟩, reached second (Nat.le_max_right _ _) passed.done⟩
      · exact (together.not_both_failed alike firstFailed secondFailed).elim

/-- A client that knows the fields of config maps and dates them all alike. -/
def typedClient : Client := ⟨some (.whole 30), true, fun _ => some "2024-05-01T00:00:00+00:00"⟩

theorem accepts_neglected (client : Client) :
    client.Accepts .neglected (Wanted.modernTargets .brief "shoot") := by
  intro target member stored held
  obtain ⟨value, manages⟩ :=
    Wanted.manages_of_mem .brief "shoot" target (List.mem_cons_of_mem _ member)
  have free : Object.TakesLabels stored ∧
      stored.get? "metadata" = some (.obj (Object.metadata stored)) := by
    simp only [Wanted.modernTargets, List.mem_cons, List.not_mem_nil, or_false] at member
    rcases member with rfl | rfl | rfl
    · cases held
      exact ⟨⟨rfl, by rintro found ⟨⟩; rfl, by rintro found ⟨⟩; exact .inl rfl⟩, rfl⟩
    · cases held
      exact ⟨⟨rfl, by rintro found ⟨⟩; rfl, by rintro found ⟨⟩; exact .inr rfl⟩, rfl⟩
    · cases held
  obtain ⟨read, got⟩ := client.received_of_metadata target.1.kind free.2
  have takes := (Client.alike_received got).2.takesLabels_iff.mpr free.1
  exact ⟨read, _, got, (manages.apply_eq_ok_iff read _).mpr ⟨takes, rfl⟩⟩

theorem reconcile_concurrently_neglected :
    let one := (live .plain .brief (.sentinel Wanted.sentinelName)).reconcile "shoot"
    let other := (live typedClient .brief (.fixed .modern)).reconcile "shoot"
    let start : Duet PassResult := ⟨.neglected, ⟨one, []⟩, ⟨other, []⟩⟩
    Cluster.neglected.WellFormed ∧
      (((Detector.sentinel Wanted.sentinelName).detect .plain "shoot").run
        (.faultless .neglected)).result = .ok .modern ∧
      Client.plain.Accepts .neglected (Wanted.modernTargets .brief "shoot") ∧
      typedClient.Accepts .neglected (Wanted.modernTargets .brief "shoot") ∧
      ∀ duet, Relation.ReflTransGen Duet.Turn start duet →
        duet.first.Ended → duet.second.Ended →
          duet.cluster = (one.run (.faultless .neglected)).server.cluster := by
  intro one other start
  have found : (((Detector.sentinel Wanted.sentinelName).detect .plain "shoot").run
      (.faultless .neglected)).result = .ok .modern := by decide
  have passes := reconcile_concurrently .plain typedClient .brief (.sentinel Wanted.sentinelName)
    (.fixed .modern) "shoot" Cluster.wellFormed_neglected found rfl (accepts_neglected _)
    (accepts_neglected _)
  refine ⟨Cluster.wellFormed_neglected, found, accepts_neglected _, accepts_neglected _, ?_⟩
  intro duet turns first second
  obtain ⟨_, _, _, _, _, ended⟩ := passes.2.2 duet turns
  exact (ended first second).2

end Reconciler
end Upkeep
