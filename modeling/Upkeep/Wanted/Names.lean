/-!
Names that the wanted state is made of: of the component, of its objects, of labels and of members.
-/
namespace Upkeep.Wanted

def component : String := "registry-cache"

/-- The instance that scrapes it. -/
def instanceName : String := "shoot"

namespace Label

def component : String := "component"

def prometheus : String := "prometheus"

def dashboardShoot : String := "dashboard.monitoring.gardener.cloud/shoot"

def extensionConfiguration : String := "extensions.gardener.cloud/configuration"

/-- The value that marks configuration for monitoring. -/
def monitoring : String := "monitoring"

end Label

/-- The one object that held everything in the legacy layout. -/
def aggregatedName : String := "extension-registry-cache-monitoring"

def dashboardName : String := "registry-cache-dashboards"

/-- The object whose presence shows the legacy layout. -/
def sentinelName : String := "prometheus-shoot"

namespace Key

def alertingRules : String := "alerting_rules"

def scrapeConfig : String := "scrape_config"

def dashboardOperators : String := "dashboard_operators"

def dashboard : String := "registry-cache.dashboard.json"

end Key

def objectName (component instanceName : String) : String := instanceName ++ "-" ++ component

def customName : String := objectName component instanceName

namespace Scrape

def apiHost : String := "kube-apiserver"

def apiPort : Nat := 443

def apiAddress : String := apiHost ++ ":" ++ toString apiPort

/-- The namespace whose pods are scraped. -/
def targetNamespace : String := "kube-system"

def job : String := "registry-cache-metrics"

def timeout : String := "10s"

def tokenSecret : String := "shoot-access-prometheus-shoot"

def tokenKey : String := "token"

def metrics : String := "registry_proxy_.+"

end Scrape

def intervalSeconds : Nat := 60

def requestTimeoutSeconds : Nat := 30

end Upkeep.Wanted
