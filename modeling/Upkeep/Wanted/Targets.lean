import Upkeep.Cluster.Target
import Upkeep.Wanted.Alerts
import Upkeep.Wanted.Documents
import Upkeep.Wanted.Scraping

/-!
The four objects of the component and what each of them has to say. The legacy layout has one object
with all three documents, the modern layout one object for each concern.
-/
namespace Upkeep.Wanted

def aggregatedTarget (ns : String) : Target := ⟨.configMap, aggregatedName, ns⟩

def dashboardTarget (ns : String) : Target := ⟨.configMap, dashboardName, ns⟩

def alertTarget (ns : String) : Target := ⟨.prometheusRule, customName, ns⟩

def scrapeTarget (ns : String) : Target := ⟨.scrapeConfig, customName, ns⟩

def aggregatedMutation (documents : Documents) : Mutation where
  labels := [(Label.extensionConfiguration, Label.monitoring)]
  fields := [("data", .obj
    [ (Key.alertingRules, .str documents.rulesEntry)
    , (Key.scrapeConfig, .str documents.scrapeEntry)
    , (Key.dashboardOperators, .str documents.dashboardEntry) ])]
  dropped := []

def dashboardMutation (documents : Documents) : Mutation where
  labels := [(Label.component, component), (Label.dashboardShoot, "true")]
  fields := [("data", .obj [(Key.dashboard, .str documents.dashboard)])]
  dropped := []

def alertMutation : Mutation where
  labels := [(Label.component, component), (Label.prometheus, instanceName)]
  fields := [("spec", .obj
    [("groups", .arr [.obj [("name", .str "registry-cache.rules"), ("rules", .arr alertRules)]])])]
  dropped := []

def scrapeMutation : Mutation where
  labels := [(Label.component, component), (Label.prometheus, instanceName)]
  fields := [("spec", scrapeSpec)]
  dropped := []

/-- The targets of the modern layout, in the order in which they are brought up to date. -/
def modernTargets (documents : Documents) (ns : String) : List (Target × Mutation) :=
  [ (dashboardTarget ns, dashboardMutation documents)
  , (alertTarget ns, alertMutation)
  , (scrapeTarget ns, scrapeMutation) ]

end Upkeep.Wanted
