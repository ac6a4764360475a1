import Upkeep.Proofs.Regex.Alternation
import Upkeep.Proofs.Relabel.Action
import Upkeep.Wanted.Documents
import Upkeep.Wanted.Scraping

/-! Which series of a target are kept: those whose name as a whole is described by one of some
patterns. The patterns are joined with bars, and a bar inside of one of them reaches no further than
the pattern. The scrape config of the legacy layout asks for the same series by a bare pattern. -/
namespace Upkeep.Wanted
open Relabel
open Regex (Expr Compiled IsLine Letter metacharacters mem_single)

/-- The name of a series; one that is absent counts as empty. -/
def seriesName (labels : Labels) : String := (labels.get? "__name__").getD ""

theorem seriesName_present {labels : Labels} (distinct : labels.Distinct) :
    seriesName (present labels) = seriesName labels := by
  rw [seriesName, seriesName, get?_present distinct]
  cases labels.get? "__name__" with
  | none => rfl
  | some value => by_cases empty : value = "" <;> simp [Option.filter, empty]

/-- The name of the series, and nothing else, is what the rule looks at. -/
structure OnSeries (rule : Rule) : Prop where
  sources : rule.sourceLabels = some ["__name__"]
  keeps : Text.lowerCase (rule.action.getD "replace") = "keep"

theorem OnSeries.value {rule : Rule} (onSeries : OnSeries rule) (labels : Labels) :
    rule.value labels = seriesName labels := by
  rw [Rule.value, onSeries.sources]
  simp [seriesName]

open Classical in
/-- A rule whose pattern counts the texts of some expressions keeps the series of these names. -/
theorem OnSeries.relabel_eq {rule : Rule} (onSeries : OnSeries rule) {pattern : Compiled}
    {described : List Char → Prop}
    (compiled : Regex.compileAnchored (rule.regex.getD "(.*)").toList = .ok pattern)
    (counts : ∀ text, (pattern.matchStart text).isSome ↔ described text) {labels : Labels}
    (distinct : labels.Distinct) :
    relabel labels [rule] = .ok (if described (seriesName labels).toList
      then .kept (present labels) else .dropped rule) := by
  have applied := rule.apply_keep onSeries.keeps compiled (present labels)
  rw [onSeries.value, seriesName_present distinct] at applied
  by_cases kept : described (seriesName labels).toList
  · rw [if_pos ((counts _).mpr kept)] at applied
    rw [if_pos kept]
    exact applyAll_cons_of_kept applied []
  · rw [if_neg (mt (counts _).mp kept)] at applied
    rw [if_neg kept]
    exact applyAll_cons_of_dropped applied []

/-! ### The rule for series -/

/-- An expression as it is given. -/
def given (e : Expr .choice) : String := String.ofList e.text

/-- The name as a whole belongs to the language of one of the patterns. -/
def Describes (patterns : List (Expr .choice)) (name : String) : Prop :=
  ∃ e ∈ patterns, name.toList ∈ e.language

theorem onSeries_metricRule (patterns : List String) : OnSeries (metricRule patterns) where
  sources := rfl
  keeps := show Text.lowerCase "keep" = "keep" by decide

/-- The patterns in a row are one expression between two ends. -/
theorem regex_metricRule (first : Expr .choice) (rest : List (Expr .choice)) :
    ((metricRule ((first :: rest).map given)).regex.getD "(.*)").toList =
      (Expr.anyOf first rest).framedText := by
  have texts : ((first :: rest).map given).map String.toList = (first :: rest).map Expr.text := by
    simp [given]
  simp [metricRule, Expr.framedText, Expr.text_anyOf, String.toList_append,
    String.toList_intercalate, ← texts]

open Classical in
theorem relabel_anyOf {patterns : List (Expr .choice)} (some : patterns ≠ [])
    (distinct : (patterns.flatMap Expr.names).Nodup) {labels : Labels}
    (unique : labels.Distinct) :
    relabel labels (metricRules (patterns.map given)) =
      .ok (if Describes patterns (seriesName labels)
        then .kept (present labels) else .dropped (metricRule (patterns.map given))) := by
  obtain ⟨first, rest, rfl⟩ := List.exists_cons_of_ne_nil some
  rw [← Expr.names_anyOf] at distinct
  obtain ⟨pattern, compiled, covers⟩ := Expr.isSome_matchStart_framed distinct
  rw [← regex_metricRule] at compiled
  exact (onSeries_metricRule _).relabel_eq compiled
    (fun text => (covers text).trans Expr.mem_language_anyOf) unique

/-! ### The legacy layout -/

/-- The rule for series in the scrape config of the legacy layout. -/
def legacySeriesRule : Rule :=
  { Rule.blank with
    sourceLabels := some ["__name__"], action := "keep", regex := "registry_proxy_.+" }

/-- A rule for series, line by line. -/
def seriesRuleLines (rule : Rule) : List String :=
  [ "  - source_labels: [ " ++ ", ".intercalate (rule.sourceLabels.getD []) ++ " ]"
  , "    regex: " ++ rule.regex.getD ""
  , "    action: " ++ rule.action.getD "" ]

theorem ofLines_eq_append (lines : List String) (n : Nat) :
    Text.ofLines lines = Text.ofLines (lines.take n) ++ Text.ofLines (lines.drop n) := by
  rw [Text.ofLines, Text.ofLines, Text.ofLines, ← String.join_append, ← List.map_append,
    List.take_append_drop]

/-- The scrape config of the legacy layout ends with the rule. -/
theorem legacyScrapeConfig_ends : ∃ front, legacyScrapeConfig =
    front ++ Text.ofLines ("  metric_relabel_configs:" :: seriesRuleLines legacySeriesRule) :=
  ⟨_, ofLines_eq_append _ 32⟩

/-- No character is a sign of the pattern language. -/
def Literal (cs : List Char) : Prop :=
  ∀ c ∈ cs, c ∉ '\\' :: metacharacters

instance (cs : List Char) : Decidable (Literal cs) :=
  List.decidableBAll (· ∉ '\\' :: metacharacters) cs

theorem Literal.tail {c : Char} {cs : List Char} (free : Literal (c :: cs)) : Literal cs :=
  fun _ member => free _ (List.mem_cons_of_mem _ member)

/-- Characters that stand for themselves, and what follows them. -/
def plain : (cs : List Char) → Literal cs → Expr .branch → Expr .branch
  | [], _, rest => rest
  | c :: cs, free, rest =>
    .andThen (.once (.letter (.plain c (free c List.mem_cons_self)))) (plain cs free.tail rest)

theorem mem_language_plain {cs text : List Char} (free : Literal cs) (rest : Expr .branch) :
    text ∈ (plain cs free rest).language ↔ ∃ tail ∈ rest.language, text = cs ++ tail := by
  induction cs generalizing text with
  | nil => simp [plain]
  | cons c cs ih =>
    have others : ∀ text, text ∈ (plain cs free.tail rest).language ↔
        ∃ tail ∈ rest.language, text = cs ++ tail := fun _ => ih free.tail
    simp only [plain, Expr.language, Letter.code, Language.mem_mul, mem_single, others,
      Char.toNat_inj]
    constructor
    · rintro ⟨_, ⟨_, rfl, rfl⟩, _, ⟨tail, member, rfl⟩, rfl⟩
      exact ⟨tail, member, rfl⟩
    · rintro ⟨tail, member, rfl⟩
      exact ⟨_, ⟨c, rfl, rfl⟩, _, ⟨tail, member, rfl⟩, rfl⟩

theorem mem_language_literally {cs text : List Char} (free : Literal cs) :
    text ∈ (plain cs free .nothing).language ↔ text = cs := by
  simp [mem_language_plain, Expr.language]

/-- At least one character, and no newline. -/
def something : Expr .branch := .andThen (.times .dot .plus true) .nothing

theorem mem_language_something {text : List Char} :
    text ∈ something.language ↔ IsLine text := by
  simp only [something, Expr.language, mul_one, Regex.Times.least, Regex.Times.most,
    Regex.mem_repeated, Regex.mem_pow_single]
  constructor
  · rintro ⟨n, least, -, rfl, hold⟩
    exact ⟨List.ne_nil_of_length_pos least, fun newline => hold _ newline rfl⟩
  · rintro ⟨some, noNewline⟩
    refine ⟨text.length, List.length_pos_of_ne_nil some, fun _ bound => (by cases bound), rfl, ?_⟩
    rintro _ member rfl
    exact noNewline member

/-- The names that begin with some characters, all of them plain, and go on. -/
def beginning (cs : List Char) (free : Literal cs) : Expr .choice :=
  .only (plain cs free something)

theorem mem_language_beginning {cs text : List Char} (free : Literal cs) :
    text ∈ (beginning cs free).language ↔ ∃ tail, IsLine tail ∧ text = cs ++ tail := by
  simp only [beginning, Expr.language, mem_language_plain, mem_language_something]

/-- The pattern for the series of the registry proxy. -/
def proxySeries : Expr .choice := beginning "registry_proxy_".toList (by decide)

theorem given_proxySeries : given proxySeries = Scrape.metrics := by decide

open Classical in
/-- Some patterns, at least one, whose groups have different names if they have any. A series is kept,
with its labels of non-empty value, exactly if one of the patterns describes its name as a whole. So
the pattern for the registry proxy keeps what the rule of the legacy scrape config keeps. -/
theorem relabel_metricRules {patterns : List (Expr .choice)} (some : patterns ≠ [])
    (distinct : (patterns.flatMap Expr.names).Nodup) {labels : Labels}
    (unique : labels.Distinct) :
    relabel labels (metricRules (patterns.map given)) =
      .ok (if Describes patterns (seriesName labels)
        then .kept (present labels) else .dropped (metricRule (patterns.map given))) ∧
    (∃ front, legacyScrapeConfig =
      front ++ Text.ofLines ("  metric_relabel_configs:" :: seriesRuleLines legacySeriesRule)) ∧
    ∃ modern legacy, relabel labels (metricRules [Scrape.metrics]) = .ok modern ∧
      relabel labels [legacySeriesRule] = .ok legacy ∧ modern.labels? = legacy.labels? := by
  refine ⟨relabel_anyOf some distinct unique, legacyScrapeConfig_ends, ?_⟩
  have onSeries : OnSeries legacySeriesRule := ⟨rfl, by decide⟩
  have noNames : proxySeries.names.Nodup := List.nodup_nil
  have modern := relabel_anyOf (List.cons_ne_nil proxySeries []) (by simpa using noNames) unique
  rw [List.map_singleton, given_proxySeries] at modern
  have bare : (legacySeriesRule.regex.getD "(.*)").toList = proxySeries.text := by decide
  obtain ⟨pattern, compiled, covers⟩ := proxySeries.isSome_matchStart noNames
  rw [← bare] at compiled
  have legacy := onSeries.relabel_eq compiled covers unique
  refine ⟨_, _, modern, legacy, ?_⟩
  have alone : Describes [proxySeries] (seriesName labels) ↔
      (seriesName labels).toList ∈ proxySeries.language := by simp [Describes]
  by_cases kept : (seriesName labels).toList ∈ proxySeries.language
  · rw [if_pos (alone.mpr kept), if_pos kept]
  · rw [if_neg (mt alone.mp kept), if_neg kept]
    rfl

/-- A name, or the beginning of one: an alternation among the patterns. -/
def goOrAdvisor : Expr .choice :=
  .orElse (plain "go".toList (by decide) .nothing) (beginning "cadvisor_".toList (by decide))

theorem describes_goOrAdvisor {name : String} : Describes [goOrAdvisor, proxySeries] name ↔
    name.toList = "go".toList ∨
    (∃ tail, IsLine tail ∧ name.toList = "cadvisor_".toList ++ tail) ∨
    ∃ tail, IsLine tail ∧ name.toList = "registry_proxy_".toList ++ tail := by
  simp only [Describes, List.mem_cons, List.not_mem_nil, or_false, exists_eq_or_imp,
    exists_eq_left, goOrAdvisor, proxySeries, Expr.language, Language.mem_add,
    mem_language_literally, mem_language_beginning, or_assoc]

/-- The alternation stays in its place: a name that begins like its first part is dropped. -/
theorem relabel_metricRules_alternation :
    [goOrAdvisor, proxySeries] ≠ [] ∧ ([goOrAdvisor, proxySeries].flatMap Expr.names).Nodup ∧
    [goOrAdvisor, proxySeries].map given = ["go|cadvisor_.+", "registry_proxy_.+"] ∧
    (Table.Distinct [("__name__", "cadvisor_up"), ("job", "")] ∧
      relabel [("__name__", "cadvisor_up"), ("job", "")]
        (metricRules ["go|cadvisor_.+", "registry_proxy_.+"]) =
          .ok (.kept [("__name__", "cadvisor_up")])) ∧
    (Table.Distinct [("__name__", "gone")] ∧
      relabel [("__name__", "gone")] (metricRules ["go|cadvisor_.+", "registry_proxy_.+"]) =
        .ok (.dropped (metricRule ["go|cadvisor_.+", "registry_proxy_.+"]))) := by
  have some : [goOrAdvisor, proxySeries] ≠ [] := List.cons_ne_nil _ _
  have noNames : ([goOrAdvisor, proxySeries].flatMap Expr.names).Nodup := List.nodup_nil
  have written : [goOrAdvisor, proxySeries].map given = ["go|cadvisor_.+", "registry_proxy_.+"] := by
    decide
  have up : Table.Distinct [("__name__", "cadvisor_up"), ("job", "")] :=
    show (Table.keys _).Nodup by decide
  have gone : Table.Distinct [("__name__", "gone")] :=
    show (Table.keys _).Nodup by decide
  have begins : Describes [goOrAdvisor, proxySeries] "cadvisor_up" :=
    describes_goOrAdvisor.mpr (.inr (.inl ⟨"up".toList, by decide, rfl⟩))
  have longer : ¬ Describes [goOrAdvisor, proxySeries] "gone" := by
    rw [describes_goOrAdvisor]
    simp
  have kept := (relabel_metricRules some noNames up).1
  have dropped := (relabel_metricRules some noNames gone).1
  rw [written, show seriesName _ = "cadvisor_up" from rfl, if_pos begins] at kept
  rw [written, show seriesName _ = "gone" from rfl, if_neg longer] at dropped
  exact ⟨some, noNames, written, ⟨up, kept⟩, gone, dropped⟩

end Upkeep.Wanted
