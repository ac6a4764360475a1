import Upkeep.Proofs.Relabel.Renaming

/-! Rules in a row. A rule that does not drop the target edits one label, or leaves labels out, or copies
some; none of that repeats a name, empties a value or makes a label without a name, so no list of rules
does. Since no empty value is left behind, nothing is lost where a list of rules is cut in two: the second
part goes on from the labels that the first part has kept, and is not looked at if the first part has
dropped the target or failed. -/
namespace Upkeep.Relabel

/-! ### Labels with values -/

/-- No label has an empty value. -/
def Filled (labels : Labels) : Prop := ∀ label ∈ labels, label.2 ≠ ""

theorem filled_present (labels : Labels) : Filled (present labels) := by
  intro label member
  simpa using (List.mem_filter.mp member).2

theorem present_eq_self {labels : Labels} (filled : Filled labels) : present labels = labels :=
  List.filter_eq_self.mpr fun label member => by simpa using filled label member

namespace Filled
variable {labels : Labels}

theorem insert (filled : Filled labels) (name : String) {value : String} (some : value ≠ "") :
    Filled (labels.insert name value) := by
  induction labels with
  | nil => exact List.forall_mem_singleton.mpr some
  | cons label rest ih =>
    obtain ⟨here, others⟩ := List.forall_mem_cons.mp filled
    rw [Table.insert]
    split
    · exact List.forall_mem_cons.mpr ⟨some, others⟩
    · exact List.forall_mem_cons.mpr ⟨here, ih others⟩

theorem insertAll (filled : Filled labels) {entries : List (String × String)}
    (written : ∀ entry ∈ entries, entry.2 ≠ "") : Filled (labels.insertAll entries) := by
  induction entries generalizing labels with
  | nil => exact filled
  | cons entry rest ih =>
    obtain ⟨here, others⟩ := List.forall_mem_cons.mp written
    exact ih (filled.insert entry.1 here) others

theorem erase (filled : Filled labels) (name : String) : Filled (labels.erase name) := by
  induction labels with
  | nil => exact List.forall_mem_nil _
  | cons label rest ih =>
    obtain ⟨here, others⟩ := List.forall_mem_cons.mp filled
    rw [Table.erase]
    split
    · exact ih others
    · exact List.forall_mem_cons.mpr ⟨here, ih others⟩

theorem edit (filled : Filled labels) (edit : Edit) : Filled (edit.perform labels) := by
  cases edit with
  | nothing => exact filled
  | remove name => exact filled.erase name
  | set name text given => exact filled.insert name given

end Filled

/-! ### One rule -/

/-- What a rule that does not drop the target makes of its labels. -/
inductive Becomes (labels : Labels) : Labels → Prop
  | edited (edit : Edit) (named : edit.Named) : Becomes labels (edit.perform labels)
  | filtered (kept : String × String → Bool) : Becomes labels (labels.filter kept)
  | copied (pattern : Regex.Compiled) (template : String) :
      Becomes labels (labels.insertAll (copies pattern template labels))

theorem Rule.becomes {rule : Rule} {labels next : Labels}
    (applied : rule.apply labels = .ok (some next)) : Becomes labels next := by
  have untouched : Becomes labels labels := .edited .nothing trivial
  cases compiled : Regex.compileAnchored (rule.regex.getD "(.*)").toList with
  | error error =>
    rw [rule.apply_invalid compiled] at applied
    cases applied
  | ok pattern =>
    rcases rule.action_cases with keep | drop | replace | labelmap | labeldrop | labelkeep | other
    · rw [rule.apply_keep keep compiled] at applied
      split at applied
      · exact Option.some.inj (Except.ok.inj applied) ▸ untouched
      · cases applied
    · rw [rule.apply_drop drop compiled] at applied
      split at applied
      · cases applied
      · exact Option.some.inj (Except.ok.inj applied) ▸ untouched
    · rw [rule.apply_replace replace compiled] at applied
      split at applied
      · exact Option.some.inj (Except.ok.inj applied) ▸ untouched
      · rename_i m _
        rcases replace_cases rule m with ⟨error, fails⟩ | ⟨edit, named, edits⟩
        · rw [fails] at applied
          cases applied
        · rw [edits] at applied
          exact Option.some.inj (Except.ok.inj applied) ▸ .edited edit named
    · rw [rule.apply_labelmap labelmap compiled] at applied
      cases maps : mapNames pattern (rule.replacement.getD "$1") labels labels with
      | error error =>
        rw [maps] at applied
        cases applied
      | ok mapped =>
        rw [maps] at applied
        obtain rfl := Option.some.inj (Except.ok.inj applied)
        exact (mapNames_eq_ok_iff.mp maps).2 ▸ .copied pattern _
    · rw [rule.apply_labeldrop labeldrop compiled] at applied
      exact Option.some.inj (Except.ok.inj applied) ▸ .filtered _
    · rw [rule.apply_labelkeep labelkeep compiled] at applied
      exact Option.some.inj (Except.ok.inj applied) ▸ .filtered _
    · rw [rule.apply_unsupported other compiled] at applied
      cases applied

namespace Becomes
variable {labels next : Labels}

/-- The values that are copied are those of the labels. -/
theorem filled (becomes : Becomes labels next) (filled : Filled labels) : Filled next := by
  cases becomes with
  | edited edit => exact filled.edit edit
  | filtered kept => exact fun label member => filled label (List.mem_of_mem_filter member)
  | copied pattern template =>
    refine filled.insertAll fun entry member => ?_
    obtain ⟨label, held, _, same⟩ := mem_copies_iff.mp member
    exact same ▸ filled label held

theorem distinct (becomes : Becomes labels next) (distinct : labels.Distinct) : next.Distinct := by
  cases becomes with
  | edited edit =>
    cases edit with
    | nothing => exact distinct
    | remove name => exact distinct.erase name
    | set name text => exact distinct.insert name text
  | filtered kept => exact distinct.filter kept
  | copied pattern template => exact distinct.insertAll _

/-- Only a label that is there may be without a name. -/
theorem nameless (becomes : Becomes labels next) (held : "" ∈ next.keys) : "" ∈ labels.keys := by
  cases becomes with
  | edited edit named =>
    cases edit with
    | nothing => exact held
    | remove name =>
      rw [Edit.perform, Table.keys_erase] at held
      exact List.mem_of_mem_filter held
    | set name text =>
      rw [Edit.perform, Table.keys_insert] at held
      split at held
      · exact held
      · simpa [Ne.symm named] using held
  | filtered kept => exact (List.filter_sublist.map Prod.fst).subset held
  | copied pattern template =>
    rw [Table.keys_insertAll, List.mem_append, List.mem_eraseDups] at held
    refine held.resolve_right fun fresh => ?_
    obtain ⟨entry, member, same⟩ := List.mem_map.mp (List.mem_of_mem_filter fresh)
    obtain ⟨label, _, ⟨_, _, _, named⟩, _⟩ := mem_copies_iff.mp member
    exact named same

end Becomes

/-! ### Rules one after another -/

/-- Labels that have come of others: no name is repeated, no value is empty, and no name is, unless one
of the others was. -/
structure Tidy (others labels : Labels) : Prop where
  distinct : labels.Distinct
  filled : Filled labels
  named : "" ∈ labels.keys → "" ∈ others.keys

namespace Tidy
variable {others labels next : Labels}

theorem present (distinct : others.Distinct) : Tidy others (present others) where
  distinct := distinct.filter _
  filled := filled_present others
  named held := (List.filter_sublist.map Prod.fst).subset held

theorem apply {rule : Rule} (tidy : Tidy others labels)
    (applied : rule.apply labels = .ok (some next)) : Tidy others next where
  distinct := (Rule.becomes applied).distinct tidy.distinct
  filled := (Rule.becomes applied).filled tidy.filled
  named held := tidy.named ((Rule.becomes applied).nameless held)

theorem applyAll {rules : List Rule} (tidy : Tidy others labels)
    (kept : Relabel.applyAll rules labels = .ok (.kept next)) : Tidy others next := by
  induction rules generalizing labels with
  | nil => exact Verdict.kept.inj (Except.ok.inj kept) ▸ tidy
  | cons rule rest ih =>
    cases applied : rule.apply labels with
    | error error =>
      rw [applyAll_cons_of_failed applied] at kept
      cases kept
    | ok result =>
      cases result with
      | none =>
        rw [applyAll_cons_of_dropped applied] at kept
        cases kept
      | some left =>
        rw [applyAll_cons_of_kept applied] at kept
        exact ih (tidy.apply applied) kept

end Tidy

/-- After each of the rules that are reached no name is repeated, no label has an empty value, and none
has an empty name unless one had it from the start. -/
theorem relabel_tidy {labels : Labels} (distinct : labels.Distinct) {rules : List Rule} {done : Nat}
    {next : Labels} (kept : relabel labels (rules.take done) = .ok (.kept next)) :
    Tidy labels next :=
  (Tidy.present distinct).applyAll kept

/-- Labels without a name and without a value, and rules that make nothing of a name and of a value. -/
def sparse : Labels := [("", "1"), ("a", "2"), ("b", "")]

def sparseRules : List Rule :=
  [{ Rule.blank with action := some "labelmap", regex := some "a(.*)" },
    { Rule.blank with sourceLabels := some ["b"], targetLabel := some "a" },
    { Rule.blank with regex := some "(" }]

/-- The third rule fails; the first two are reached and leave one label. -/
theorem relabel_tidy_sparse :
    sparse.Distinct ∧ relabel sparse (sparseRules.take 2) = .ok (.kept [("", "1")]) ∧
      Tidy sparse [("", "1")] ∧
      relabel sparse sparseRules = .error (.pattern .invalid) := by
  have distinct : sparse.Distinct := show sparse.keys.Nodup by decide
  have kept : relabel sparse (sparseRules.take 2) = .ok (.kept [("", "1")]) := by rfl
  exact ⟨distinct, kept, relabel_tidy distinct kept, by rfl⟩

/-! ### Two lists of rules -/

/-- Goes on with further rules, unless the target has been dropped. -/
def Verdict.resume (rules : List Rule) : Verdict → Except RuleError Verdict
  | .kept labels => relabel labels rules
  | .dropped rule => .ok (.dropped rule)

theorem applyAll_append {labels : Labels} (filled : Filled labels) (first second : List Rule) :
    applyAll (first ++ second) labels = applyAll first labels >>= Verdict.resume second := by
  induction first generalizing labels with
  | nil =>
    change applyAll second labels = applyAll second (present labels)
    rw [present_eq_self filled]
  | cons rule rest ih =>
    cases applied : rule.apply labels with
    | error error =>
      rw [List.cons_append, applyAll_cons_of_failed applied, applyAll_cons_of_failed applied]
      rfl
    | ok result =>
      cases result with
      | none =>
        rw [List.cons_append, applyAll_cons_of_dropped applied, applyAll_cons_of_dropped applied]
        rfl
      | some left =>
        rw [List.cons_append, applyAll_cons_of_kept applied, applyAll_cons_of_kept applied]
        exact ih ((Rule.becomes applied).filled filled)

/-- Two lists of rules in a row: the second one is run on the labels that the first one has kept. If
the first one has dropped the target or failed, so do both together, whatever the second one is. -/
theorem relabel_append (labels : Labels) (first second : List Rule) :
    relabel labels (first ++ second) = relabel labels first >>= Verdict.resume second :=
  applyAll_append (filled_present labels) first second

end Upkeep.Relabel
