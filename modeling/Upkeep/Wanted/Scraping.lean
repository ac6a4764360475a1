import Upkeep.Relabel.Rule
import Upkeep.Wanted.Names

/-!
How the component is scraped: which targets are kept, under which labels, and which of their series.
The order of the rules matters: pod labels are copied after the job has been set and before the
address and the path are.
-/
namespace Upkeep.Wanted
open Relabel (Rule)

def jobRule : Rule :=
  { Rule.blank with action := "replace", replacement := Scrape.job, targetLabel := "job" }

/-- Keeps the targets of pods that name a registry host and that are reached for debugging. -/
def debugRule : Rule :=
  { Rule.blank with
    sourceLabels := some
      [ "__meta_kubernetes_pod_label_upstream_host"
      , "__meta_kubernetes_pod_container_port_name" ]
    action := "keep"
    regex := "(.+);debug" }

def podLabelRule : Rule :=
  { Rule.blank with action := "labelmap", regex := "__meta_kubernetes_pod_label_(.+)" }

def addressRule : Rule :=
  { Rule.blank with
    targetLabel := "__address__", action := "replace", replacement := Scrape.apiAddress }

/-- The path through the API server to the metrics of the pod. -/
def pathRule : Rule :=
  { Rule.blank with
    sourceLabels := some
      ["__meta_kubernetes_pod_name", "__meta_kubernetes_pod_container_port_number"]
    action := "replace"
    targetLabel := "__metrics_path__"
    regex := "(.+);(.+)"
    replacement := "/api/v1/namespaces/" ++ Scrape.targetNamespace ++
      "/pods/$\x7b1\x7d:$\x7b2\x7d/proxy/metrics" }

def targetRules : List Rule := [jobRule, debugRule, podLabelRule, addressRule, pathRule]

/-- Keeps the series whose name matches one of the patterns. -/
def metricRule (patterns : List String) : Rule :=
  { Rule.blank with
    sourceLabels := some ["__name__"]
    action := "keep"
    regex := "^(" ++ "|".intercalate patterns ++ ")$" }

def metricRules (patterns : List String) : List Rule := [metricRule patterns]

def tokenAuthorization : Json :=
  .obj [("credentials",
    .obj [("name", .str Scrape.tokenSecret), ("key", .str Scrape.tokenKey)])]

/-- Certificates are not issued for the addresses of pods, so they are not checked. -/
def unverified : Json := .obj [("insecureSkipVerify", .bool true)]

def scrapeSpec : Json :=
  .obj
    [ ("honorLabels", .bool false)
    , ("scrapeTimeout", .str Scrape.timeout)
    , ("scheme", .str "HTTPS")
    , ("tlsConfig", unverified)
    , ("authorization", tokenAuthorization)
    , ("kubernetesSDConfigs", .arr
        [ .obj
          [ ("apiServer", .str ("https://" ++ Scrape.apiAddress))
          , ("role", .str "endpoints")
          , ("namespaces", .obj [("names", .arr [.str Scrape.targetNamespace])])
          , ("authorization", tokenAuthorization)
          , ("tlsConfig", unverified)
          , ("followRedirects", .bool true) ] ])
    , ("relabelings", .arr (targetRules.map Rule.toJson))
    , ("metricRelabelings", .arr ((metricRules [Scrape.metrics]).map Rule.toJson)) ]

end Upkeep.Wanted
