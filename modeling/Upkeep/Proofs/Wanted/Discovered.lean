import Mathlib.Data.List.Permutation
import Mathlib.Logic.Function.Basic
import Upkeep.Proofs.Relabel.Action
import Upkeep.Wanted.Scraping

/-! What becomes of a discovered target. It is kept if its pod names a registry host and its port is
the one for debugging; then it is scraped through the API server, under a job of its own and with
the labels of its pod. -/
namespace Upkeep.Wanted
open Relabel
open Regex (IsLine Splits SplitsLast)
open Regex.Pattern (ofList line letters)

/-- What stands before the name of a label of the pod. -/
def podLabel : String := "__meta_kubernetes_pod_label_"

def podName : String := "__meta_kubernetes_pod_name"

def portName : String := "__meta_kubernetes_pod_container_port_name"

def portNumber : String := "__meta_kubernetes_pod_container_port_number"

/-- Two values as a rule joins them; one that is absent counts as empty. -/
def joined (labels : String → Option String) (first second : String) : String :=
  (labels first).getD "" ++ ";" ++ (labels second).getD ""

/-- The pod names a host, in one line, and the port is the one for debugging. -/
def Admits (labels : String → Option String) : Prop :=
  ∃ host : String, IsLine host.toList ∧
    joined labels (podLabel ++ "upstream_host") portName = host ++ ";debug"

/-- The path through the API server to the metrics of a pod. -/
def metricsPath (pod port : String) : String :=
  "/api/v1/namespaces/kube-system/pods/" ++ pod ++ ":" ++ port ++ "/proxy/metrics"

theorem metricsPath_ne_empty (pod port : String) : metricsPath pod port ≠ "" := by
  intro same
  have ended : "/proxy/metrics" = "" := (String.append_eq_empty_iff.mp same).2
  exact absurd ended (by decide)

/-- The labels of a target that is kept, the path apart. -/
def scraped (labels : String → Option String) : String → Option String :=
  let before := Function.update labels "job" (some "registry-cache-metrics")
  Function.update (renamed podLabel before before) "__address__" (some "kube-apiserver:443")

/-- The labels after some others, with the path to the pod's metrics if there is one. -/
def Routed (before after : String → Option String) : Prop :=
  (∃ a b : String, SplitsLast (joined before podName portNumber).toList a.toList b.toList ∧
    after = Function.update before "__metrics_path__" (some (metricsPath a b))) ∨
  ((∀ a b, ¬ Splits (joined before podName portNumber).toList a b) ∧ after = before)

theorem get?_insert_eq_update (labels : Labels) (name value : String) :
    (labels.insert name value).get? = Function.update labels.get? name (some value) := by
  funext other
  rw [Table.get?_insert, Function.update_apply]
  simp only [eq_comm]

/-! ### The rules, one by one -/

theorem apply_jobRule (labels : Labels) :
    jobRule.apply labels = .ok (some (labels.insert "job" "registry-cache-metrics")) :=
  jobRule.apply_constant (by decide) rfl rfl rfl rfl (by decide) (by decide) labels

theorem apply_addressRule (labels : Labels) :
    addressRule.apply labels = .ok (some (labels.insert "__address__" "kube-apiserver:443")) :=
  addressRule.apply_constant (by decide) rfl rfl rfl (by decide) (by decide) (by decide) labels

theorem compile_debugRule : Regex.compileAnchored (debugRule.regex.getD "(.*)").toList = .ok
    ⟨ofList (line 1 :: (letters ";debug".toList ++ [.at .stop])), 1, []⟩ := by
  cbv

theorem admits_iff (labels : Labels) :
    Admits labels.get? ↔ ∃ front, IsLine front ∧
      (debugRule.value labels).toList = front ++ ";debug".toList := by
  have value : debugRule.value labels =
      joined labels.get? (podLabel ++ "upstream_host") portName := rfl
  rw [value, Admits]
  constructor
  · rintro ⟨host, isLine, split⟩
    exact ⟨host.toList, isLine, by rw [split, String.toList_append]⟩
  · rintro ⟨front, isLine, split⟩
    refine ⟨String.ofList front, by rwa [String.toList_ofList], String.toList_inj.mp ?_⟩
    simp [split]

theorem apply_debugRule (labels : Labels) :
    (Admits labels.get? → debugRule.apply labels = .ok (some labels)) ∧
      (¬ Admits labels.get? → debugRule.apply labels = .ok none) := by
  rw [debugRule.apply_keep (by decide) compile_debugRule labels, admits_iff,
    ← Regex.Compiled.isSome_matchStart_line_letters]
  exact ⟨fun kept => congrArg _ (if_pos kept), fun lost => congrArg _ (if_neg lost)⟩

theorem compile_podLabelRule :
    Regex.compileAnchored (podLabelRule.regex.getD "(.*)").toList = .ok
    ⟨ofList (letters podLabel.toList ++ [line 1, .at .stop]), 1, []⟩ := by
  cbv

theorem apply_podLabelRule {labels : Labels} (distinct : labels.Distinct) :
    ∃ result, podLabelRule.apply labels = .ok (some result) ∧
      result.get? = renamed podLabel labels.get? labels.get? := by
  obtain ⟨result, mapped, looks⟩ := get?_mapNames
    (fun name => Regex.Compiled.matchStart_letters_line podLabel.toList name) distinct labels
  refine ⟨result, ?_, funext looks⟩
  rw [podLabelRule.apply_labelmap (by decide) compile_podLabelRule labels]
  exact congrArg (Except.map some) mapped

theorem compile_pathRule : Regex.compileAnchored (pathRule.regex.getD "(.*)").toList = .ok
    ⟨ofList (line 1 :: (letters [';'] ++ [line 2, .at .stop])), 2, []⟩ := by
  cbv

theorem apply_pathRule (labels : Labels) :
    ∃ result, pathRule.apply labels = .ok (some result) ∧ Routed labels.get? result.get? := by
  have value : pathRule.value labels = joined labels.get? podName portNumber := rfl
  rw [pathRule.apply_replace (by decide) compile_pathRule labels, value]
  rcases Regex.Compiled.matchStart_splits (joined labels.get? podName portNumber).toList with
    ⟨m, found, splits⟩ | ⟨missed, apart⟩
  · have named : expanded (pathRule.targetLabel.getD "") m = .ok "__metrics_path__" :=
      expanded_of_plain (by decide) m
    have filled : expanded (pathRule.replacement.getD "$1") m =
        .ok (metricsPath (String.ofList (m.numbered 1)) (String.ofList (m.numbered 2))) :=
      expanded_aroundGroups (by decide +kernel) m
    have written := replace_of_expanded named (by decide) filled (metricsPath_ne_empty _ _) labels
    rw [found]
    refine ⟨_, congrArg (Except.map some) written, .inl ⟨String.ofList (m.numbered 1),
      String.ofList (m.numbered 2), ?_, get?_insert_eq_update labels _ _⟩⟩
    rwa [String.toList_ofList, String.toList_ofList]
  · rw [missed]
    exact ⟨labels, rfl, .inr ⟨apart, rfl⟩⟩

/-! ### All rules -/

theorem admits_update_job (labels : String → Option String) (job : Option String) :
    Admits (Function.update labels "job" job) ↔ Admits labels := by
  have same : joined (Function.update labels "job" job) (podLabel ++ "upstream_host") portName =
      joined labels (podLabel ++ "upstream_host") portName := by
    rw [joined, joined, Function.update_of_ne (by decide), Function.update_of_ne (by decide)]
  rw [Admits, Admits, same]

theorem relabel_of_not_admits {labels : Labels} (lost : ¬ Admits (present labels).get?) :
    relabel labels targetRules = .ok (.dropped debugRule) := by
  rw [← admits_update_job _ (some "registry-cache-metrics"), ← get?_insert_eq_update] at lost
  calc relabel labels targetRules
      = applyAll [debugRule, podLabelRule, addressRule, pathRule]
          ((present labels).insert "job" "registry-cache-metrics") :=
        applyAll_cons_of_kept (apply_jobRule _) _
    _ = .ok (.dropped debugRule) := applyAll_cons_of_dropped ((apply_debugRule _).2 lost) _

theorem relabel_of_admits {labels : Labels} (distinct : labels.Distinct)
    (kept : Admits (present labels).get?) :
    ∃ result, relabel labels targetRules = .ok (.kept result) ∧
      Routed (scraped (present labels).get?) result.get? := by
  rw [← admits_update_job _ (some "registry-cache-metrics"), ← get?_insert_eq_update] at kept
  have distinct' : (present labels).Distinct := distinct.filter _
  obtain ⟨mapped, copies, looks⟩ := apply_podLabelRule (distinct'.insert "job" _)
  obtain ⟨result, routes, routed⟩ :=
    apply_pathRule (mapped.insert "__address__" "kube-apiserver:443")
  rw [get?_insert_eq_update, looks, get?_insert_eq_update] at routed
  refine ⟨result, ?_, routed⟩
  calc relabel labels targetRules
      = applyAll [debugRule, podLabelRule, addressRule, pathRule]
          ((present labels).insert "job" "registry-cache-metrics") :=
        applyAll_cons_of_kept (apply_jobRule _) _
    _ = applyAll [podLabelRule, addressRule, pathRule]
          ((present labels).insert "job" "registry-cache-metrics") :=
        applyAll_cons_of_kept ((apply_debugRule _).1 kept) _
    _ = applyAll [addressRule, pathRule] mapped := applyAll_cons_of_kept copies _
    _ = applyAll [pathRule] (mapped.insert "__address__" "kube-apiserver:443") :=
        applyAll_cons_of_kept (apply_addressRule _) _
    _ = applyAll [] result := applyAll_cons_of_kept routes _
    _ = .ok (.kept result) := rfl

/-- Two texts are cut alike at their last separator. -/
theorem eq_of_cut_last {separator : Char} {a b c d : List Char}
    (same : a ++ separator :: b = c ++ separator :: d) (last : separator ∉ b)
    (last' : separator ∉ d) : a = c ∧ b = d := by
  rcases List.append_eq_append_iff.mp same with ⟨more, rfl, tail⟩ | ⟨more, rfl, tail⟩
  · cases more with
    | nil => exact ⟨(List.append_nil _).symm, (List.cons.inj tail).2⟩
    | cons char more => exact absurd ((List.cons.inj tail).2 ▸ by simp) last
  · cases more with
    | nil => exact ⟨List.append_nil _, (List.cons.inj tail).2.symm⟩
    | cons char more => exact absurd ((List.cons.inj tail).2 ▸ by simp) last'

/-- A host in one line and a port without semicolons end in the way that is asked for exactly if
there is a host and the port is the right one. -/
theorem ends_debug_iff (host port : String) (single : ';' ∉ port.toList)
    (oneLine : '\n' ∉ host.toList) :
    (∃ front : String, IsLine front.toList ∧ host ++ ";" ++ port = front ++ ";debug") ↔
      host ≠ "" ∧ port = "debug" := by
  constructor
  · rintro ⟨front, isLine, split⟩
    have lists : host.toList ++ ';' :: port.toList = front.toList ++ ';' :: "debug".toList := by
      simpa using congrArg String.toList split
    obtain ⟨hosts, ports⟩ := eq_of_cut_last lists single (by decide)
    refine ⟨?_, String.toList_inj.mp ports⟩
    rintro rfl
    exact isLine.1 hosts.symm
  · rintro ⟨given, rfl⟩
    refine ⟨host, ⟨?_, oneLine⟩, String.append_assoc⟩
    simpa using given

/-- How a discovered target ends. With `shown` for its labels of non-empty value: it is dropped
unless the host that its pod names and the name of its port, joined by a semicolon, are a part of a
line and then `;debug`. If it is kept, then with the labels `scraped shown` and, if the name of the
pod and the number of the port have two parts around a semicolon, the path that these make. -/
theorem relabel_targetRules {labels : Labels} (distinct : labels.Distinct) :
    let shown := (present labels).get?
    let host := (shown (podLabel ++ "upstream_host")).getD ""
    let port := (shown portName).getD ""
    ∃ verdict, relabel labels targetRules = .ok verdict ∧
      (verdict.labels? = none ↔
        ¬ ∃ front : String, IsLine front.toList ∧ host ++ ";" ++ port = front ++ ";debug") ∧
      (';' ∉ port.toList → '\n' ∉ host.toList →
        (verdict.labels? = none ↔ host = "" ∨ port ≠ "debug")) ∧
      ∀ result, verdict.labels? = some result → Routed (scraped shown) result.get? := by
  intro shown host port
  have plain := ends_debug_iff host port
  by_cases admitted : Admits shown
  · obtain ⟨result, ran, routed⟩ := relabel_of_admits distinct admitted
    refine ⟨_, ran, iff_of_false (by simp [Verdict.labels?]) (not_not.mpr admitted), ?_, ?_⟩
    · intro single oneLine
      obtain ⟨given, debug⟩ := (plain single oneLine).mp admitted
      exact iff_of_false (by simp [Verdict.labels?]) (not_or.mpr ⟨given, not_not.mpr debug⟩)
    · intro other same
      exact Option.some.inj same ▸ routed
  · refine ⟨_, relabel_of_not_admits admitted, iff_of_true rfl admitted, ?_, ?_⟩
    · intro single oneLine
      have apart := not_and_or.mp (mt (plain single oneLine).mpr admitted)
      exact iff_of_true rfl (apart.imp_left not_not.mp)
    · intro other same
      cases same

theorem Routed.get?_of_ne {before after : String → Option String} (routed : Routed before after)
    {name : String} (other : name ≠ "__metrics_path__") : after name = before name := by
  rcases routed with ⟨a, b, _, rfl⟩ | ⟨_, rfl⟩
  · exact Function.update_of_ne other _ _
  · rfl

theorem Routed.get?_path {before after : String → Option String} (routed : Routed before after)
    {a b : String}
    (splits : SplitsLast (joined before podName portNumber).toList a.toList b.toList) :
    after "__metrics_path__" = some (metricsPath a b) := by
  rcases routed with ⟨c, d, other, rfl⟩ | ⟨apart, _⟩
  · obtain ⟨left, right⟩ := splits.unique other
    rw [Function.update_self, String.toList_inj.mp left, String.toList_inj.mp right]
  · exact absurd splits.toSplits (apart _ _)

/-- A target as it is discovered. -/
def discovered : Labels :=
  [ ("__address__", "10.0.0.12:5000"), (podName, "registry-docker-io-0"), (portName, "debug")
  , (portNumber, "5001"), (podLabel ++ "upstream_host", "docker.io")
  , (podLabel ++ "app", "registry-cache") ]

theorem distinct_discovered : discovered.Distinct :=
  show discovered.keys.Nodup by decide

theorem relabel_targetRules_discovered :
    discovered.Distinct ∧ ∃ result, relabel discovered targetRules = .ok (.kept result) ∧
      Routed (scraped (present discovered).get?) result.get? ∧
      result.get? "app" = some "registry-cache" := by
  obtain ⟨verdict, ran, _, dropped, routes⟩ := relabel_targetRules distinct_discovered
  cases verdict with
  | dropped rule =>
    have lost := (dropped (by decide) (by decide)).mp rfl
    exact absurd lost (by decide)
  | kept result =>
    have routed := routes result rfl
    exact ⟨distinct_discovered, result, ran, routed,
      (routed.get?_of_ne (by decide)).trans (by decide)⟩

/-- The path of this target goes on behind `/proxy/`. -/
theorem discovered_path : ∃ result, relabel discovered targetRules = .ok (.kept result) ∧
    SplitsLast (joined (scraped (present discovered).get?) podName portNumber).toList
      "registry-docker-io-0".toList "5001".toList ∧
    result.get? "__metrics_path__" =
      some "/api/v1/namespaces/kube-system/pods/registry-docker-io-0:5001/proxy/metrics" ∧
    result.get? "__metrics_path__" ≠
      some "/api/v1/namespaces/kube-system/pods/registry-docker-io-0:5001/proxy/" := by
  have admitted : Admits (present discovered).get? := ⟨"docker.io", by decide, by decide⟩
  obtain ⟨result, ran, routed⟩ := relabel_of_admits distinct_discovered admitted
  have whole : (joined (scraped (present discovered).get?) podName portNumber).toList =
      "registry-docker-io-0".toList ++ ';' :: "5001".toList := by decide
  have splits : SplitsLast (joined (scraped (present discovered).get?) podName portNumber).toList
      "registry-docker-io-0".toList "5001".toList := by
    rw [whole]
    exact .of_single (by decide) (by decide) (by decide) (by decide)
  have path := routed.get?_path splits
  rw [show metricsPath "registry-docker-io-0" "5001" =
    "/api/v1/namespaces/kube-system/pods/registry-docker-io-0:5001/proxy/metrics" by decide] at path
  refine ⟨result, ran, splits, path, ?_⟩
  rw [path]
  decide

end Upkeep.Wanted
