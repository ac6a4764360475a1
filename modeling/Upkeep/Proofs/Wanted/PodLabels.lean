import Upkeep.Proofs.Wanted.Discovered

/-! What the labels of a pod can do to its scrape. Pod labels are copied after the job has been
written and before the address is, and the path is made of the labels after the copies. So whether
a target is kept depends on one pod label only, the address on none, and the job and the path on the
few that are copied to their names or to the names that the path is made of. -/
namespace Upkeep.Wanted
open Relabel
open Regex (IsLine Splits SplitsLast)

/-- The name is not one of a pod label, but for the one that names the registry host. -/
def Fixed (name : String) : Prop := ∀ label, label ≠ "upstream_host" → name ≠ podLabel ++ label

theorem fixed_of_start {name : String} (other : ¬ podLabel.toList <+: name.toList) :
    Fixed name := by
  rintro label _ rfl
  exact other ⟨label.toList, String.toList_append.symm⟩

theorem fixed_host : Fixed (podLabel ++ "upstream_host") := by
  intro label other same
  have lists := congrArg String.toList same
  rw [String.toList_append, String.toList_append] at lists
  exact other (String.toList_inj.mp (List.append_cancel_left lists)).symm

/-- The labels of a kept target depend on its own labels and on those copied to their names. -/
theorem scraped_congr {one other : String → Option String} {name : String}
    (own : one name = other name) (copied : one (podLabel ++ name) = other (podLabel ++ name)) :
    scraped one name = scraped other name := by
  simp only [scraped, renamed, Function.update_apply, own, copied]

theorem scraped_job (labels : String → Option String) :
    scraped labels "job" =
      some ((labels (podLabel ++ "job")).getD "registry-cache-metrics") := by
  have isLine : IsLine "job".toList := by decide
  have apart : podLabel ++ "job" ≠ "job" := by decide
  rw [scraped, Function.update_of_ne (by decide), renamed, if_pos isLine, Function.update_self,
    Function.update_of_ne apart]
  cases labels (podLabel ++ "job") <;> rfl

theorem scraped_address (labels : String → Option String) :
    scraped labels "__address__" = some "kube-apiserver:443" := by
  rw [scraped, Function.update_self]

/-- The path is the same if it is made of the same, or if it is left as it was. -/
theorem Routed.get?_path_congr {one other mine yours : String → Option String}
    (left : Routed one mine) (right : Routed other yours)
    (same : joined one podName portNumber = joined other podName portNumber)
    (path : (∃ c d, Splits (joined one podName portNumber).toList c d) ∨
      one "__metrics_path__" = other "__metrics_path__") :
    mine "__metrics_path__" = yours "__metrics_path__" := by
  rcases left with ⟨c, d, splits, rfl⟩ | ⟨apart, rfl⟩
  · rw [Function.update_self, right.get?_path (same ▸ splits)]
  · rcases path with ⟨c, d, splits⟩ | own
    · exact absurd splits (apart c d)
    · rcases right with ⟨c, d, splits, _⟩ | ⟨_, rfl⟩
      · exact absurd (same ▸ splits.toSplits) (apart _ _)
      · exact own

/-- Two targets that differ in labels of the pod alone, the one that names the registry host apart,
are both kept or both dropped. If they are kept, their address is that of the API server, their job
is the label of that name of the pod or else the one of the component, and their path is the same
where these labels of the pod are: those copied to the names that a path is made of, and, unless one
is made, the one copied to the name of the path. -/
theorem relabel_pod_labels {a b : Labels} (left : a.Distinct) (right : b.Distinct)
    (alike : ∀ name, Fixed name → a.get? name = b.get? name) :
    ∃ one other, relabel a targetRules = .ok one ∧ relabel b targetRules = .ok other ∧
      (one.labels? = none ↔ other.labels? = none) ∧
      ∀ mine yours, one.labels? = some mine → other.labels? = some yours →
        mine.get? "__address__" = some "kube-apiserver:443" ∧
        yours.get? "__address__" = some "kube-apiserver:443" ∧
        mine.get? "job" =
          some (((present a).get? (podLabel ++ "job")).getD "registry-cache-metrics") ∧
        yours.get? "job" =
          some (((present b).get? (podLabel ++ "job")).getD "registry-cache-metrics") ∧
        (a.get? (podLabel ++ podName) = b.get? (podLabel ++ podName) →
          a.get? (podLabel ++ portNumber) = b.get? (podLabel ++ portNumber) →
          ((∃ c d, Splits (joined (scraped (present a).get?) podName portNumber).toList c d) ∨
            a.get? (podLabel ++ "__metrics_path__") = b.get? (podLabel ++ "__metrics_path__")) →
          mine.get? "__metrics_path__" = yours.get? "__metrics_path__") := by
  have shown : ∀ name, a.get? name = b.get? name →
      (present a).get? name = (present b).get? name := by
    intro name same
    rw [get?_present left, get?_present right, same]
  have host := shown _ (alike _ fixed_host)
  have port := shown portName (alike _ (fixed_of_start (by decide)))
  have admits : Admits (present a).get? ↔ Admits (present b).get? := by
    rw [Admits, Admits, joined, joined, host, port]
  by_cases kept : Admits (present a).get?
  · obtain ⟨mine, ranA, routedA⟩ := relabel_of_admits left kept
    obtain ⟨yours, ranB, routedB⟩ := relabel_of_admits right (admits.mp kept)
    refine ⟨_, _, ranA, ranB, by simp [Verdict.labels?], ?_⟩
    rintro _ _ ⟨⟩ ⟨⟩
    refine ⟨(routedA.get?_of_ne (by decide)).trans (scraped_address _),
      (routedB.get?_of_ne (by decide)).trans (scraped_address _),
      (routedA.get?_of_ne (by decide)).trans (scraped_job _),
      (routedB.get?_of_ne (by decide)).trans (scraped_job _), ?_⟩
    intro pods ports path
    have same : joined (scraped (present a).get?) podName portNumber =
        joined (scraped (present b).get?) podName portNumber := by
      rw [joined, joined,
        scraped_congr (shown podName (alike _ (fixed_of_start (by decide)))) (shown _ pods),
        scraped_congr (shown portNumber (alike _ (fixed_of_start (by decide)))) (shown _ ports)]
    exact routedA.get?_path_congr routedB same
      (path.imp_right fun copied => scraped_congr
        (shown "__metrics_path__" (alike _ (fixed_of_start (by decide)))) (shown _ copied))
  · refine ⟨_, _, relabel_of_not_admits kept, relabel_of_not_admits (mt admits.mpr kept),
      iff_of_true rfl rfl, ?_⟩
    intro mine yours none
    cases none

/-- The discovered target with a label that asks for another job. -/
def posing : Labels := discovered.insert (podLabel ++ "job") "other"

theorem get?_posing {name : String} (fixed : Fixed name) :
    posing.get? name = discovered.get? name := by
  rw [posing, Table.get?_insert, if_neg (Ne.symm (fixed "job" (by decide)))]

theorem admits_of_host {labels : Labels}
    (named : joined (present labels).get? (podLabel ++ "upstream_host") portName =
      "docker.io;debug") : Admits (present labels).get? :=
  ⟨"docker.io", by decide, named⟩

theorem relabel_pod_labels_discovered :
    discovered.Distinct ∧ posing.Distinct ∧
      (∀ name, Fixed name → discovered.get? name = posing.get? name) ∧
      ∃ mine yours, relabel discovered targetRules = .ok (.kept mine) ∧
        relabel posing targetRules = .ok (.kept yours) ∧
        yours.get? "job" = some "other" ∧
        mine.get? "__metrics_path__" = yours.get? "__metrics_path__" := by
  have distinct : posing.Distinct := distinct_discovered.insert _ _
  have alike : ∀ name, Fixed name → discovered.get? name = posing.get? name :=
    fun name fixed => (get?_posing fixed).symm
  obtain ⟨one, other, ranOne, ranOther, _, both⟩ :=
    relabel_pod_labels distinct_discovered distinct alike
  obtain ⟨mine, ranMine, _⟩ :=
    relabel_of_admits distinct_discovered (admits_of_host (by decide))
  obtain ⟨yours, ranYours, _⟩ := relabel_of_admits distinct (admits_of_host (by decide))
  obtain rfl := Except.ok.inj (ranOne.symm.trans ranMine)
  obtain rfl := Except.ok.inj (ranOther.symm.trans ranYours)
  obtain ⟨_, _, _, job, path⟩ := both mine yours rfl rfl
  exact ⟨distinct_discovered, distinct, alike, mine, yours, ranOne, ranOther,
    job.trans (by decide), path (by decide) (by decide) (.inr (by decide))⟩

/-! ### Labels that take over -/

/-- What a target that is kept has under a name. -/
def scrapedAs (labels : Labels) (name : String) : Option String :=
  match relabel labels targetRules with
  | .ok verdict => verdict.labels?.bind fun result => result.get? name
  | .error _ => none

section
variable {labels : Labels} (distinct : labels.Distinct) (kept : Admits (present labels).get?)
include distinct kept

theorem routed_scrapedAs : Routed (scraped (present labels).get?) (scrapedAs labels) := by
  obtain ⟨result, ran, routed⟩ := relabel_of_admits distinct kept
  have same : scrapedAs labels = result.get? := by
    funext name
    rw [scrapedAs, ran]
    rfl
  exact same ▸ routed

theorem scrapedAs_job : scrapedAs labels "job" =
    some (((present labels).get? (podLabel ++ "job")).getD "registry-cache-metrics") :=
  ((routed_scrapedAs distinct kept).get?_of_ne (by decide)).trans (scraped_job _)

theorem scrapedAs_path {a b : String}
    (whole : joined (scraped (present labels).get?) podName portNumber = a ++ ";" ++ b)
    (left : ';' ∉ a.toList ∧ IsLine a.toList) (right : ';' ∉ b.toList ∧ IsLine b.toList) :
    scrapedAs labels "__metrics_path__" = some (metricsPath a b) := by
  apply (routed_scrapedAs distinct kept).get?_path
  have lists : (joined (scraped (present labels).get?) podName portNumber).toList =
      a.toList ++ ';' :: b.toList := by simpa using congrArg String.toList whole
  rw [lists]
  exact .of_single left.1 right.1 left.2 right.2

theorem scrapedAs_path_of_no_port (a : String)
    (whole : joined (scraped (present labels).get?) podName portNumber = a ++ ";")
    (left : ';' ∉ a.toList) :
    scrapedAs labels "__metrics_path__" =
      scraped (present labels).get? "__metrics_path__" := by
  have lists : (joined (scraped (present labels).get?) podName portNumber).toList =
      a.toList ++ ';' :: [] := by simpa using congrArg String.toList whole
  rcases routed_scrapedAs distinct kept with ⟨c, d, splits, _⟩ | ⟨_, same⟩
  · rw [lists] at splits
    have none := (splits.toSplits.eq_of_single left List.not_mem_nil).2
    exact absurd none splits.right.1
  · rw [same]

end

/-- Labels of the pod that take over the job, the pod or the port of the path, or the whole path
where there is no port to make one of. -/
theorem pod_labels_take_over :
    (∀ name, Fixed name → posing.get? name = discovered.get? name) ∧
    scrapedAs discovered "job" = some "registry-cache-metrics" ∧
    scrapedAs posing "job" = some "other" ∧
    scrapedAs discovered "__metrics_path__" = some (metricsPath "registry-docker-io-0" "5001") ∧
    scrapedAs (discovered.insert (podLabel ++ podName) "other-0") "__metrics_path__" =
      some (metricsPath "other-0" "5001") ∧
    scrapedAs (discovered.insert (podLabel ++ portNumber) "80") "__metrics_path__" =
      some (metricsPath "registry-docker-io-0" "80") ∧
    scrapedAs (discovered.erase portNumber) "__metrics_path__" = none ∧
    scrapedAs ((discovered.erase portNumber).insert (podLabel ++ "__metrics_path__") "/elsewhere")
      "__metrics_path__" = some "/elsewhere" := by
  have distinct := distinct_discovered
  have portless : (discovered.erase portNumber).Distinct := distinct.erase portNumber
  refine ⟨fun name => get?_posing, ?_, ?_, ?_, ?_, ?_, ?_, ?_⟩
  · exact scrapedAs_job distinct (admits_of_host (by decide))
  · exact scrapedAs_job (distinct.insert _ _) (admits_of_host (by decide))
  · exact scrapedAs_path distinct (admits_of_host (by decide)) (by decide) (by decide) (by decide)
  · exact scrapedAs_path (distinct.insert _ _) (admits_of_host (by decide)) (by decide)
      (by decide) (by decide)
  · exact scrapedAs_path (distinct.insert _ _) (admits_of_host (by decide)) (by decide)
      (by decide) (by decide)
  · exact (scrapedAs_path_of_no_port portless (admits_of_host (by decide)) "registry-docker-io-0"
      (by decide) (by decide)).trans (by decide)
  · exact (scrapedAs_path_of_no_port (portless.insert _ _) (admits_of_host (by decide))
      "registry-docker-io-0" (by decide) (by decide)).trans (by decide)

end Upkeep.Wanted
