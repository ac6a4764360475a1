import Upkeep.Proofs.Cluster.StalePatch
import Upkeep.Proofs.Wanted.Targets

/-! Another writer between the read and the write. The patch for one of the four objects is computed
from what was read and carried out on what is stored by then. As long as the two are worth the same
where the mutation looks, the patch brings about all that was wanted, and of what the other writer
has done it touches nothing. -/
namespace Upkeep.Wanted

/-- No update is lost. The patch puts the wanted labels on the stored object and the wanted member
into it; all else stays as it is stored, whatever had been read there. -/
theorem no_update_lost (documents : Documents) (ns : String) {target : Target}
    {mutation : Mutation} (known : (target, mutation) ∈ managedTargets documents ns)
    {read wanted stored : Json} (readGood : read.WellFormed) (good : stored.WellFormed)
    (mutated : mutation.apply read = .ok wanted) (near : mutation.Near stored read) :
    let after := stored.apply (.obj (Json.diff read.members wanted.members))
    (∀ label ∈ mutation.labels, (Object.labels after).get? label.1 = some (.str label.2)) ∧
    (∃ held value, after.get? target.kind.payload = some held ∧
      wanted.get? target.kind.payload = some value ∧ held.same value) ∧
    mutation.Leaves target.kind.payload stored after := by
  intro after
  obtain ⟨value, manages⟩ := manages_of_mem documents ns _ known
  have writes := manages.toWrites
  obtain ⟨takes, rfl⟩ := (writes.apply_eq_ok_iff read wanted).mp mutated
  have met : mutation.Met after := Mutation.met_apply_patch writes readGood takes good near
  obtain ⟨labels, held, found, worth⟩ := (writes.met_iff after).mp met
  refine ⟨labels, ⟨held, value, found, ?_, worth⟩, ?_⟩
  · rw [Mutation.get?_wanted, if_pos rfl]
  · exact Mutation.leaves_apply_patch writes readGood takes stored

/-- A dashboard as it is read. -/
def readDashboard : Json :=
  .obj
    [ ("metadata", .obj [("labels", .obj [(Label.dashboardShoot, .str "no"), ("team", .str "a")]),
        ("annotations", .obj [("note", .str "old")])])
    , ("data", .obj [(Key.dashboard, .str "old"), ("extra", .int 1)]) ]

/-- The same dashboard when the patch arrives: a label and the annotations are gone, others are new,
and the data has been written again in another order and form. -/
def storedDashboard : Json :=
  .obj
    [ ("immutable", .bool false)
    , ("data", .obj [("extra", .bool true), (Key.dashboard, .str "old")])
    , ("metadata", .obj [("labels", .obj [("tier", .null), (Label.dashboardShoot, .str "no")]),
        ("finalizers", .arr [.str "keep"])]) ]

theorem wellFormed_dashboards : readDashboard.WellFormed ∧ storedDashboard.WellFormed := by
  simp [readDashboard, storedDashboard, Json.WellFormed, Json.WellFormedMembers,
    Json.WellFormedItems, Table.Distinct, Table.keys, Key.dashboard, Label.dashboardShoot]

theorem near_dashboards :
    (dashboardMutation ⟨"groups", "panels", "jobs"⟩).Near storedDashboard readDashboard := by
  constructor
  · intro label member
    simp only [dashboardMutation, List.mem_cons, List.not_mem_nil, or_false] at member
    rcases member with rfl | rfl <;> decide +kernel
  · intro field member
    simp only [dashboardMutation, List.mem_cons, List.not_mem_nil, or_false] at member
    subst member
    decide +kernel

theorem no_update_lost_dashboard :
    let mutation := dashboardMutation ⟨"groups", "panels", "jobs"⟩
    (dashboardTarget "shoot", mutation) ∈ managedTargets ⟨"groups", "panels", "jobs"⟩ "shoot" ∧
    readDashboard.WellFormed ∧ storedDashboard.WellFormed ∧
    mutation.Near storedDashboard readDashboard ∧
    ∃ wanted, mutation.apply readDashboard = .ok wanted ∧
      let after := storedDashboard.apply (.obj (Json.diff readDashboard.members wanted.members))
      (∀ label ∈ mutation.labels, (Object.labels after).get? label.1 = some (.str label.2)) ∧
        (Object.labels after).get? "tier" = some .null ∧
        (Object.labels after).get? "team" = none ∧
        (Object.metadata after).get? "annotations" = none ∧
        after.get? "immutable" = some (.bool false) := by
  intro mutation
  have known : (dashboardTarget "shoot", mutation) ∈
      managedTargets ⟨"groups", "panels", "jobs"⟩ "shoot" := by
    simp [managedTargets, modernTargets, mutation]
  obtain ⟨readGood, good⟩ := wellFormed_dashboards
  have mutated : ∃ wanted, mutation.apply readDashboard = .ok wanted := ⟨_, rfl⟩
  obtain ⟨wanted, made⟩ := mutated
  obtain ⟨labels, _, leaves⟩ := no_update_lost _ _ known readGood good made near_dashboards
  refine ⟨known, readGood, good, near_dashboards, wanted, made, labels, ?_, ?_, ?_, ?_⟩
  · rw [leaves.labels "tier" (by decide)]
    rfl
  · rw [leaves.labels "team" (by decide)]
    rfl
  · rw [leaves.metadata "annotations" (by decide)]
    rfl
  · rw [leaves.members "immutable" (by decide) (by decide)]
    rfl

end Upkeep.Wanted
