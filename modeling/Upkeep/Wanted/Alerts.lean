import Upkeep.Json.Value

/-!
The rules of the modern layout: two alerts on the volumes of the cache and two recording rules for
the bytes that it moves.
-/
namespace Upkeep.Wanted

def volumeSelector : String := "persistentvolumeclaim=~\"^cache-volume-registry-.+$\""

def volumeMetric (metric : String) : String := metric ++ "\x7b" ++ volumeSelector ++ "\x7d"

/-- The share of a volume that is free, in per cent. -/
def freeRatio : String :=
  "100 * (\n " ++ volumeMetric "kubelet_volume_stats_available_bytes" ++ "\n   /\n " ++
    volumeMetric "kubelet_volume_stats_capacity_bytes" ++ "\n)"

def alertLabels : Json :=
  .obj [("service", .str "registry-cache-extension"), ("severity", .str "warning"),
    ("type", .str "shoot"), ("visibility", .str "owner")]

/-- An alert that has to hold for an hour. -/
def alert (name expression description summary : String) : Json :=
  .obj [("alert", .str name), ("expr", .str expression), ("for", .str "1h"),
    ("labels", alertLabels),
    ("annotations", .obj [("description", .str description), ("summary", .str summary)])]

/-- A rate summed by registry host, recorded under a name of its own. -/
def record (metric : String) : Json :=
  .obj [("record", .str ("shoot:" ++ metric ++ ":sum")),
    ("expr", .str ("sum by (upstream_host) (rate(" ++ metric ++ "[5m]))"))]

def alertRules : List Json :=
  [ alert "RegistryCachePersistentVolumeUsageCritical" (freeRatio ++ " < 5")
      ("The registry-cache PersistentVolume claimed by \x7b\x7b $labels.persistentvolumeclaim " ++
      "\x7d\x7d is only \x7b\x7b printf \"%0.2f\" $value \x7d\x7d% free. When there is no " ++
      "available disk space, no new images will be cached. However, image pull operations are " ++
      "not affected.")
      "Registry cache PersistentVolume almost full."
  , alert "RegistryCachePersistentVolumeFullInFourDays"
      (freeRatio ++ " < 15\nand\npredict_linear(" ++
        volumeMetric "kubelet_volume_stats_available_bytes" ++ "[30m], 4 * 24 * 3600) <= 0")
      ("Based on recent sampling, the registry cache PersistentVolume claimed by " ++
      "\x7b\x7b $labels.persistentvolumeclaim \x7d\x7d is expected to fill up within four days. " ++
      "Currently \x7b\x7b printf \"%0.2f\" $value \x7d\x7d% is available.")
      "Registry cache PersistentVolume will be full in four days."
  , record "registry_proxy_pushed_bytes_total"
  , record "registry_proxy_pulled_bytes_total" ]

end Upkeep.Wanted
