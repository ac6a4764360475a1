import Upkeep.Text.Indent
import Upkeep.Wanted.Names
import Upkeep.Wanted.Packaged

/-!
The three documents that a pass puts into the cluster. The rules and the dashboard are files in
UTF-8; the scrape config of the legacy layout is fixed. In the legacy layout the documents are put
into the entries of one object, the rules as an indented block and the dashboard in single quotes.
-/
namespace Upkeep.Wanted

structure Documents where
  alertingRules : String
  dashboard : String
  scrapeConfig : String
  deriving DecidableEq

def legacyScrapeConfig : String := Text.ofLines
  [ "- job_name: " ++ Scrape.job
  , "  scheme: https"
  , "  tls_config:"
  , "    ca_file: /etc/prometheus/seed/ca.crt"
  , "  authorization:"
  , "    type: Bearer"
  , "    credentials_file: /var/run/secrets/gardener.cloud/shoot/token/token"
  , "  honor_labels: false"
  , "  kubernetes_sd_configs:"
  , "  - role: pod"
  , "    api_server: https://" ++ Scrape.apiAddress
  , "    namespaces:"
  , "      names: [ " ++ Scrape.targetNamespace ++ " ]"
  , "    tls_config:"
  , "      ca_file: /etc/prometheus/seed/ca.crt"
  , "    authorization:"
  , "      type: Bearer"
  , "      credentials_file: /var/run/secrets/gardener.cloud/shoot/token/token"
  , "  relabel_configs:"
  , "  - source_labels: [__meta_kubernetes_pod_label_upstream_host, " ++
      "__meta_kubernetes_pod_container_port_name]"
  , "    action: keep"
  , "    regex: (.+);debug"
  , "  - action: labelmap"
  , "    regex: __meta_kubernetes_pod_label_(.+)"
  , "  - target_label: __address__"
  , "    action: replace"
  , "    replacement: " ++ Scrape.apiAddress
  , "  - source_labels: [__meta_kubernetes_pod_name, __meta_kubernetes_pod_container_port_number]"
  , "    action: replace"
  , "    target_label: __metrics_path__"
  , "    regex: (.+);(.+)"
  , "    replacement: /api/v1/namespaces/" ++ Scrape.targetNamespace ++
      "/pods/$\x7b1\x7d:$\x7b2\x7d/proxy/metrics"
  , "  metric_relabel_configs:"
  , "  - source_labels: [ __name__ ]"
  , "    regex: registry_proxy_.+"
  , "    action: keep" ]

/-- Why the documents cannot be loaded. -/
inductive LoadError where
  | missingFile
  | notUtf8
  deriving DecidableEq

def fileText : Option ByteArray → Except LoadError String
  | none => .error .missingFile
  | some bytes =>
    match String.fromUTF8? bytes with
    | none => .error .notUtf8
    | some text => .ok (String.ofList (Text.unifyNewlines text.toList))

namespace Documents

/-- The documents of a directory, given the bytes of its two files; the rules are read first. -/
def ofFiles (rules dashboard : Option ByteArray) : Except LoadError Documents :=
  match fileText rules with
  | .error error => .error error
  | .ok rules =>
    match fileText dashboard with
    | .error error => .error error
    | .ok dashboard => .ok ⟨rules, dashboard, legacyScrapeConfig⟩

def packaged : Documents := ⟨Packaged.alertingRules, Packaged.dashboard, legacyScrapeConfig⟩

/-- The rules as a block under a heading. -/
def rulesEntry (documents : Documents) : String :=
  "registry-cache.rules.yaml: |\n  " ++ Text.indent 2 documents.alertingRules ++ "\n"

/-- The dashboard as a quoted text. A quote in it is not doubled. -/
def dashboardEntry (documents : Documents) : String :=
  Key.dashboard ++ ": '" ++ documents.dashboard ++ "'"

def scrapeEntry (documents : Documents) : String := documents.scrapeConfig

end Documents
end Upkeep.Wanted
