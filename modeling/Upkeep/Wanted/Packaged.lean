import Upkeep.Text.Newline

/-!
The documents that come with the component: the alerting rules and the dashboard. They are used as
they are; nothing here depends on what they say.
-/
namespace Upkeep.Wanted.Packaged

def alertingRules : String := Text.ofLines
  [ "groups:"
  , "- name: registry-cache.rules"
  , "  rules:"
  , "  - alert: RegistryCachePersistentVolumeUsageCritical"
  , "    expr: |"
  , "      100 * ("
  , "        kubelet_volume_stats_available_bytes\x7bpersistentvolumeclaim=~\"^cache-volume-registry-.+$\"\x7d"
  , "          /"
  , "        kubelet_volume_stats_capacity_bytes\x7bpersistentvolumeclaim=~\"^cache-volume-registry-.+$\"\x7d"
  , "      ) < 5"
  , "    for: 1h"
  , "    labels:"
  , "      service: registry-cache-extension"
  , "      severity: warning"
  , "      type: shoot"
  , "      visibility: owner"
  , "    annotations:"
  , "      description: The registry-cache PersistentVolume claimed by \x7b\x7b " ++
      "$labels.persistentvolumeclaim \x7d\x7d is only \x7b\x7b printf \"%0.2f\" $value \x7d\x7d% " ++
      "free. When there is no available disk space, no new images will be cached. However, image " ++
      "pull operations are not affected."
  , "      summary: Registry cache PersistentVolume almost full."
  , "  - alert: RegistryCachePersistentVolumeFullInFourDays"
  , "    expr: |"
  , "      100 * ("
  , "        kubelet_volume_stats_available_bytes\x7bpersistentvolumeclaim=~\"^cache-volume-registry-.+$\"\x7d"
  , "          /"
  , "        kubelet_volume_stats_capacity_bytes\x7bpersistentvolumeclaim=~\"^cache-volume-registry-.+$\"\x7d"
  , "      ) < 15"
  , "      and"
  , "      predict_linear(kubelet_volume_stats_available_bytes\x7bpersistentvolumeclaim=~\"^cache-volume-registry-.+$\"\x7d[30m], " ++
      "4 * 24 * 3600) <= 0"
  , "    for: 1h"
  , "    labels:"
  , "      service: registry-cache-extension"
  , "      severity: warning"
  , "      type: shoot"
  , "      visibility: owner"
  , "    annotations:"
  , "      description: Based on recent sampling, the registry cache PersistentVolume claimed by " ++
      "\x7b\x7b $labels.persistentvolumeclaim \x7d\x7d is expected to fill up within four days. " ++
      "Currently \x7b\x7b printf \"%0.2f\" $value \x7d\x7d% is available."
  , "      summary: Registry cache PersistentVolume will be full in four days."
  , "  - record: shoot:registry_proxy_pushed_bytes_total:sum"
  , "    expr: sum by (upstream_host) (rate(registry_proxy_pushed_bytes_total[5m]))"
  , "  - record: shoot:registry_proxy_pulled_bytes_total:sum"
  , "    expr: sum by (upstream_host) (rate(registry_proxy_pulled_bytes_total[5m]))" ]

def dashboard : String := Text.ofLines
  [ "\x7b"
  , "  \"title\": \"Registry Cache\","
  , "  \"uid\": \"registry-cache\","
  , "  \"editable\": false,"
  , "  \"schemaVersion\": 27,"
  , "  \"refresh\": \"1m\","
  , "  \"time\": \x7b\"from\": \"now-6h\", \"to\": \"now\"\x7d,"
  , "  \"templating\": \x7b"
  , "    \"list\": ["
  , "      \x7b"
  , "        \"name\": \"upstream_host\","
  , "        \"type\": \"query\","
  , "        \"datasource\": \"prometheus\","
  , "        \"query\": \"label_values(registry_proxy_pulled_bytes_total, upstream_host)\","
  , "        \"includeAll\": true,"
  , "        \"multi\": true"
  , "      \x7d"
  , "    ]"
  , "  \x7d,"
  , "  \"panels\": ["
  , "    \x7b"
  , "      \"id\": 1,"
  , "      \"title\": \"Pulled bytes\","
  , "      \"type\": \"graph\","
  , "      \"datasource\": \"prometheus\","
  , "      \"gridPos\": \x7b\"h\": 8, \"w\": 12, \"x\": 0, \"y\": 0\x7d,"
  , "      \"targets\": ["
  , "        \x7b"
  , "          \"expr\": \"sum by (upstream_host) " ++
      "(rate(registry_proxy_pulled_bytes_total\x7bupstream_host=~\\\"$upstream_host\\\"\x7d[5m]))\","
  , "          \"legendFormat\": \"\x7b\x7bupstream_host\x7d\x7d\""
  , "        \x7d"
  , "      ]"
  , "    \x7d,"
  , "    \x7b"
  , "      \"id\": 2,"
  , "      \"title\": \"Pushed bytes\","
  , "      \"type\": \"graph\","
  , "      \"datasource\": \"prometheus\","
  , "      \"gridPos\": \x7b\"h\": 8, \"w\": 12, \"x\": 12, \"y\": 0\x7d,"
  , "      \"targets\": ["
  , "        \x7b"
  , "          \"expr\": \"sum by (upstream_host) " ++
      "(rate(registry_proxy_pushed_bytes_total\x7bupstream_host=~\\\"$upstream_host\\\"\x7d[5m]))\","
  , "          \"legendFormat\": \"\x7b\x7bupstream_host\x7d\x7d\""
  , "        \x7d"
  , "      ]"
  , "    \x7d,"
  , "    \x7b"
  , "      \"id\": 3,"
  , "      \"title\": \"Cache volume free\","
  , "      \"type\": \"graph\","
  , "      \"datasource\": \"prometheus\","
  , "      \"gridPos\": \x7b\"h\": 8, \"w\": 24, \"x\": 0, \"y\": 8\x7d,"
  , "      \"targets\": ["
  , "        \x7b"
  , "          \"expr\": \"100 * " ++
      "kubelet_volume_stats_available_bytes\x7bpersistentvolumeclaim=~\\\"^cache-volume-registry-.+$\\\"\x7d " ++
      "/ " ++
      "kubelet_volume_stats_capacity_bytes\x7bpersistentvolumeclaim=~\\\"^cache-volume-registry-.+$\\\"\x7d\","
  , "          \"legendFormat\": \"\x7b\x7bpersistentvolumeclaim\x7d\x7d\""
  , "        \x7d"
  , "      ]"
  , "    \x7d"
  , "  ]"
  , "\x7d" ]

end Upkeep.Wanted.Packaged
