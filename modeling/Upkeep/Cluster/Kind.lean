/-!
The kinds of objects that are looked after, and where the API keeps them.
-/
namespace Upkeep

inductive Kind where
  | configMap
  | statefulSet
  | prometheusRule
  | scrapeConfig
  deriving DecidableEq

def monitoringGroup : String := "monitoring.coreos.com"

def prometheusRuleVersion : String := "v1"

def prometheusRulePlural : String := "prometheusrules"

def scrapeConfigVersion : String := "v1alpha1"

def scrapeConfigPlural : String := "scrapeconfigs"

namespace Kind

def name : Kind → String
  | configMap => "ConfigMap"
  | statefulSet => "StatefulSet"
  | prometheusRule => "PrometheusRule"
  | scrapeConfig => "ScrapeConfig"

def all : List Kind := [configMap, statefulSet, prometheusRule, scrapeConfig]

/-- The kind of a name, if it is one that is looked after. -/
def ofName? (name : String) : Option Kind := all.find? fun kind => kind.name == name

def apiVersion : Kind → String
  | configMap => "v1"
  | statefulSet => "apps/v1"
  | prometheusRule => monitoringGroup ++ "/" ++ prometheusRuleVersion
  | scrapeConfig => monitoringGroup ++ "/" ++ scrapeConfigVersion

def resource : Kind → String
  | configMap => "core/v1/configmaps"
  | statefulSet => "apps/v1/statefulsets"
  | prometheusRule => monitoringGroup ++ "/" ++ prometheusRuleVersion ++ "/" ++ prometheusRulePlural
  | scrapeConfig => monitoringGroup ++ "/" ++ scrapeConfigVersion ++ "/" ++ scrapeConfigPlural

/-- Stateful sets are only ever read. -/
def isWritten (kind : Kind) : Bool := kind ≠ statefulSet

end Kind
end Upkeep
