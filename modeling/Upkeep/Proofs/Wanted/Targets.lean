import Upkeep.Proofs.Cluster.Client
import Upkeep.Wanted.Targets

/-! The four objects of the component and their mutations belong together: each mutation sets some
labels and writes one member, whole, in which no key occurs twice and no null and no integer occurs.
The objects have keys of their own in every namespace. -/
namespace Upkeep

/-- The member that is written in objects of a kind. -/
def Kind.payload : Kind → String
  | configMap => "data"
  | statefulSet | prometheusRule | scrapeConfig => "spec"

namespace Wanted

/-- The four objects with their mutations: those of the legacy layout, and those of the modern one. -/
def managedTargets (documents : Documents) (ns : String) : List (Target × Mutation) :=
  (aggregatedTarget ns, aggregatedMutation documents) :: modernTargets documents ns

theorem aggregated_manages (documents : Documents) (ns : String) :
    (aggregatedTarget ns).Manages (aggregatedMutation documents) "data"
      (.obj [ (Key.alertingRules, .str documents.rulesEntry)
            , (Key.scrapeConfig, .str documents.scrapeEntry)
            , (Key.dashboardOperators, .str documents.dashboardEntry) ]) where
  labelled := List.cons_ne_nil _ _
  distinct := by simp [aggregatedMutation, Table.Distinct, Table.keys]
  fields := rfl
  dropped := rfl
  notMetadata := by decide
  notVersion := by decide
  notKind := by decide
  wellFormed := by
    refine ⟨?_, trivial, trivial, trivial, trivial⟩
    simp [Table.Distinct, Table.keys, Key.alertingRules, Key.scrapeConfig, Key.dashboardOperators]
  present := by simp
  nulls := by simp [Json.NullsFrom, Json.NullsFromMembers]
  writable := Json.writable_of_no_integers rfl
  written := rfl
  readable := fun _ => rfl

theorem dashboard_manages (documents : Documents) (ns : String) :
    (dashboardTarget ns).Manages (dashboardMutation documents) "data"
      (.obj [(Key.dashboard, .str documents.dashboard)]) where
  labelled := List.cons_ne_nil _ _
  distinct := by
    simp [dashboardMutation, Table.Distinct, Table.keys, Label.component, Label.dashboardShoot]
  fields := rfl
  dropped := rfl
  notMetadata := by decide
  notVersion := by decide
  notKind := by decide
  wellFormed := by
    refine ⟨?_, trivial, trivial⟩
    simp [Table.Distinct, Table.keys]
  present := by simp
  nulls := by simp [Json.NullsFrom, Json.NullsFromMembers]
  writable := Json.writable_of_no_integers rfl
  written := rfl
  readable := fun _ => rfl

theorem wellFormed_alert (name expression description summary : String) :
    (alert name expression description summary).WellFormed := by
  simp [alert, alertLabels, Json.WellFormed, Json.WellFormedMembers, Table.Distinct, Table.keys]

theorem wellFormed_record (metric : String) : (record metric).WellFormed := by
  simp [record, Json.WellFormed, Json.WellFormedMembers, Table.Distinct, Table.keys]

theorem wellFormed_alertRules : ∀ rule ∈ alertRules, rule.WellFormed := by
  intro rule member
  simp only [alertRules, List.mem_cons, List.not_mem_nil, or_false] at member
  rcases member with rfl | rfl | rfl | rfl
  · exact wellFormed_alert ..
  · exact wellFormed_alert ..
  · exact wellFormed_record _
  · exact wellFormed_record _

theorem alert_manages (ns : String) :
    (alertTarget ns).Manages alertMutation "spec"
      (.obj [("groups", .arr
        [.obj [("name", .str "registry-cache.rules"), ("rules", .arr alertRules)]])]) where
  labelled := List.cons_ne_nil _ _
  distinct := by
    simp [alertMutation, Table.Distinct, Table.keys, Label.component, Label.prometheus]
  fields := rfl
  dropped := rfl
  notMetadata := by decide
  notVersion := by decide
  notKind := by decide
  wellFormed := by
    refine ⟨?_, ⟨⟨?_, trivial, ?_, trivial⟩, trivial⟩, trivial⟩
    · simp [Table.Distinct, Table.keys]
    · simp [Table.Distinct, Table.keys]
    · exact (Json.wellFormedItems_iff _).mpr wellFormed_alertRules
  present := by simp
  nulls := by simp [Json.NullsFrom, Json.NullsFromMembers]
  writable := Json.writable_of_no_integers rfl
  written := rfl
  readable := by simp [alertTarget]

theorem wellFormed_scrapeSpec : scrapeSpec.WellFormed := by
  simp [scrapeSpec, unverified, tokenAuthorization, targetRules, metricRules, jobRule, debugRule,
    podLabelRule, addressRule, pathRule, metricRule, Relabel.Rule.toJson, Relabel.Rule.blank,
    Json.WellFormed, Json.WellFormedMembers, Json.WellFormedItems, Table.Distinct, Table.keys]

theorem scrape_manages (ns : String) :
    (scrapeTarget ns).Manages scrapeMutation "spec" scrapeSpec where
  labelled := List.cons_ne_nil _ _
  distinct := by
    simp [scrapeMutation, Table.Distinct, Table.keys, Label.component, Label.prometheus]
  fields := rfl
  dropped := rfl
  notMetadata := by decide
  notVersion := by decide
  notKind := by decide
  wellFormed := wellFormed_scrapeSpec
  present := by simp [scrapeSpec]
  nulls := by
    simp [scrapeSpec, unverified, tokenAuthorization, Json.NullsFrom, Json.NullsFromMembers]
  writable := Json.writable_of_no_integers rfl
  written := rfl
  readable := by simp [scrapeTarget]

theorem manages_of_mem (documents : Documents) (ns : String) :
    ∀ entry ∈ managedTargets documents ns,
      ∃ value, entry.1.Manages entry.2 entry.1.kind.payload value := by
  intro entry member
  simp only [managedTargets, modernTargets, List.mem_cons, List.not_mem_nil, or_false] at member
  rcases member with rfl | rfl | rfl | rfl
  · exact ⟨_, aggregated_manages documents ns⟩
  · exact ⟨_, dashboard_manages documents ns⟩
  · exact ⟨_, alert_manages ns⟩
  · exact ⟨_, scrape_manages ns⟩

end Wanted
end Upkeep
