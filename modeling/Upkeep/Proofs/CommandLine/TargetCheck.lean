import Upkeep.CommandLine.TargetCheck
import Upkeep.Proofs.Relabel.Composition
import Upkeep.Proofs.Wanted.Reordering

/-! Checking a target, from the texts of its labels to the lines of the report. The texts are read
one by one, and the first that is no label ends the check. The rules for targets do not fail on any
labels, so all other checks end with a verdict; a target that would be scraped is reported label by
label, in the order of the names. Reading undoes writing: the texts of some pairs give back these
pairs, a repeated name with the last of its values. -/
namespace Upkeep.Relabel

/-! ### Labels as texts -/

/-- A label as an argument. -/
def argument (label : String × String) : String := label.1 ++ "=" ++ label.2

/-- A name that can be told from the sign behind it and from the blanks around it. -/
structure Plain (name : String) : Prop where
  unsigned : '=' ∉ name.toList
  first : ∀ c, name.toList.head? = some c → Text.isBlank c = false
  last : ∀ c, name.toList.getLast? = some c → Text.isBlank c = false

theorem dropWhile_of_head? {inside : Char → Bool} {cs : List Char}
    (ends : ∀ c, cs.head? = some c → inside c = false) : cs.dropWhile inside = cs := by
  cases cs with
  | nil => rfl
  | cons c rest => exact List.dropWhile_cons_of_neg (by simp [ends c rfl])

theorem Plain.stripped {name : String} (plain : Plain name) :
    Text.stripped name.toList = name.toList := by
  rw [Text.stripped, dropWhile_of_head? plain.first, dropWhile_of_head?, List.reverse_reverse]
  intro c next
  exact plain.last c (List.head?_reverse ▸ next)

theorem ofArgument_eq_error_iff (text : String) (bad : BadArgument) :
    ofArgument text = .error bad ↔ '=' ∉ text.toList ∧ bad = ⟨text⟩ := by
  have lacks : text.toList.dropWhile (· ≠ '=') = [] ↔ '=' ∉ text.toList := by
    rw [List.dropWhile_eq_nil_iff]
    simp only [ne_eq, decide_eq_true_eq]
    exact ⟨fun other sign => other '=' sign rfl,
      fun without c member same => without (same ▸ member)⟩
  rw [ofArgument, ← lacks]
  cases text.toList.dropWhile (· ≠ '=') with
  | nil => simp [eq_comm]
  | cons sign value => simp

theorem ofArgument_argument {label : String × String} (plain : Plain label.1) :
    ofArgument (argument label) = .ok label := by
  have written : (argument label).toList = label.1.toList ++ '=' :: label.2.toList := by
    simp [argument, String.toList_append]
  have front : ∀ c ∈ label.1.toList, decide (c ≠ '=') = true := by
    intro c member
    rw [decide_eq_true_eq]
    rintro rfl
    exact plain.unsigned member
  rw [ofArgument, written, List.dropWhile_append_of_pos front, List.takeWhile_append_of_pos front]
  simp [plain.stripped, String.ofList_toList]

theorem addArguments_eq (labels : Labels) (texts : List String) :
    addArguments labels texts = (texts.mapM ofArgument).map labels.insertAll := by
  induction texts generalizing labels with
  | nil => rfl
  | cons text rest ih =>
    rw [addArguments, List.mapM_cons]
    cases ofArgument text with
    | error bad => rfl
    | ok label =>
      change addArguments (labels.insert label.1 label.2) rest = _
      rw [ih]
      cases rest.mapM ofArgument <;> rfl

theorem distinct_ofArguments {texts : List String} {labels : Labels}
    (given : ofArguments texts = .ok labels) : labels.Distinct := by
  rw [ofArguments, addArguments_eq] at given
  cases read : texts.mapM ofArgument with
  | error bad =>
    rw [read] at given
    cases given
  | ok entries =>
    rw [read] at given
    exact Except.ok.inj given ▸ Table.distinct_ofEntries entries

/-- The first text without an equals sign is what the reading ends with. -/
theorem ofArguments_eq_error_iff (texts : List String) (bad : BadArgument) :
    ofArguments texts = .error bad ↔
      texts.find? (fun text => '=' ∉ text.toList) = some bad.argument := by
  have first : texts.mapM ofArgument = .error bad ↔
      texts.find? (fun text => '=' ∉ text.toList) = some bad.argument := by
    induction texts with
    | nil => simp [pure, Except.pure]
    | cons text rest ih =>
      rw [List.mapM_cons]
      cases read : ofArgument text with
      | error other =>
        obtain ⟨lacks, rfl⟩ := (ofArgument_eq_error_iff text other).mp read
        rw [List.find?_cons_of_pos (by simpa using lacks)]
        cases bad
        simp [bind, Except.bind]
      | ok label =>
        have sign : '=' ∈ text.toList := by
          by_contra lacks
          rw [(ofArgument_eq_error_iff text ⟨text⟩).mpr ⟨lacks, rfl⟩] at read
          cases read
        rw [List.find?_cons_of_neg (by simpa using sign), ← ih]
        cases rest.mapM ofArgument <;> simp [bind, Except.bind, pure, Except.pure]
  rw [ofArguments, addArguments_eq, ← first]
  cases texts.mapM ofArgument <;> simp [Except.map]

theorem ofArguments_argument {pairs : List (String × String)}
    (plain : ∀ pair ∈ pairs, Plain pair.1) :
    ofArguments (pairs.map argument) = .ok (Table.ofEntries pairs) := by
  have read : (pairs.map argument).mapM ofArgument = .ok pairs := by
    induction pairs with
    | nil => rfl
    | cons pair rest ih =>
      obtain ⟨here, others⟩ := List.forall_mem_cons.mp plain
      rw [List.map_cons, List.mapM_cons, ofArgument_argument here, ih others]
      rfl
  rw [ofArguments, addArguments_eq, read]
  rfl

end Upkeep.Relabel

namespace Upkeep.CommandLine
open Relabel

/-! ### The report -/

/-- What a check reports: the first argument that is no label, or that the target is dropped, or its
labels line by line in the order of their names. -/
inductive Tells (arguments : List String) : Report → Prop
  | refused {argument : String}
      (first : arguments.find? (fun text => '=' ∉ text.toList) = some argument) :
      Tells arguments ⟨2, [told .error ("Expected LABEL=VALUE, got " ++ Text.quoted argument)]⟩
  | dropped {labels : Labels} {rule : Rule} (given : ofArguments arguments = .ok labels)
      (drops : relabel labels Wanted.targetRules = .ok (.dropped rule)) :
      Tells arguments ⟨1, [droppedEntry rule, told .info "Target would be dropped"]⟩
  | scraped {labels result lines : Labels} (given : ofArguments arguments = .ok labels)
      (keeps : relabel labels Wanted.targetRules = .ok (.kept result)) (all : lines.Perm result)
      (ascending : lines.Pairwise fun a b => a.1 < b.1) :
      Tells arguments ⟨0, told .info "Target would be scraped" ::
        lines.map fun label => told .info ("  " ++ label.1 ++ "=" ++ label.2)⟩

theorem checkTarget_tells (arguments : List String) : Tells arguments (checkTarget arguments) := by
  rw [checkTarget]
  cases given : ofArguments arguments with
  | error bad => exact .refused ((ofArguments_eq_error_iff arguments bad).mp given)
  | ok labels =>
    have distinct := distinct_ofArguments given
    obtain ⟨verdict, ends⟩ := Wanted.relabel_targetRules_ok distinct
    simp only [checkLabels, ends]
    cases verdict with
    | dropped rule => exact .dropped given ends
    | kept result =>
      have tidy := (Tidy.present distinct).applyAll ends
      exact .scraped given ends result.sorted_perm tidy.distinct.sorted_ascending

theorem code_of_error {arguments : List String} {bad : BadArgument}
    (given : ofArguments arguments = .error bad) : (checkTarget arguments).code = 2 := by
  rw [checkTarget, given]

theorem code_of_ok {arguments : List String} {labels : Labels}
    (given : ofArguments arguments = .ok labels) :
    ∃ verdict, relabel labels Wanted.targetRules = .ok verdict ∧
      (checkTarget arguments).code = if verdict.labels? = none then 1 else 0 := by
  obtain ⟨verdict, ends⟩ := Wanted.relabel_targetRules_ok (distinct_ofArguments given)
  refine ⟨verdict, ends, ?_⟩
  rw [checkTarget, given]
  simp only [checkLabels, ends]
  cases verdict <;> rfl

theorem code_eq_two_iff (arguments : List String) :
    (checkTarget arguments).code = 2 ↔ ∃ text ∈ arguments, '=' ∉ text.toList := by
  cases given : ofArguments arguments with
  | error bad =>
    have first := (ofArguments_eq_error_iff arguments bad).mp given
    have lacks := List.find?_some first
    exact iff_of_true (code_of_error given)
      ⟨_, List.mem_of_find?_eq_some first, of_decide_eq_true lacks⟩
  | ok labels =>
    obtain ⟨verdict, _, code⟩ := code_of_ok given
    refine iff_of_false (by rw [code]; split <;> decide) ?_
    rintro ⟨text, member, lacks⟩
    cases first : arguments.find? fun text => '=' ∉ text.toList with
    | none => exact absurd lacks (by simpa using List.find?_eq_none.mp first text member)
    | some argument =>
      rw [(ofArguments_eq_error_iff arguments ⟨argument⟩).mpr first] at given
      cases given

/-- A check reports in one of three ways. Its code is 2 exactly if some argument has no equals sign.
Otherwise the rules for targets come to a verdict on the labels that the arguments give, and the
code is 1 if they drop them and else 0. Labels that are written as arguments are given by them: the
names in the order in which they first appear, each with the last of its values. -/
theorem checkTarget_reports (arguments : List String) :
    Tells arguments (checkTarget arguments) ∧
    ((checkTarget arguments).code = 2 ↔ ∃ text ∈ arguments, '=' ∉ text.toList) ∧
    (∀ labels, ofArguments arguments = .ok labels →
      ∃ verdict, relabel labels Wanted.targetRules = .ok verdict ∧
        (checkTarget arguments).code = if verdict.labels? = none then 1 else 0) ∧
    ∀ pairs : List (String × String), (∀ pair ∈ pairs, Plain pair.1) →
      ∃ labels, ofArguments (pairs.map argument) = .ok labels ∧
        labels.keys = (pairs.map Prod.fst).eraseDups ∧
        ∀ name, labels.get? name =
          (pairs.filter fun pair => pair.1 = name).getLast?.map Prod.snd := by
  refine ⟨checkTarget_tells arguments, code_eq_two_iff arguments, fun _ given => code_of_ok given,
    ?_⟩
  intro pairs plain
  refine ⟨_, ofArguments_argument plain, ?_, fun name => ?_⟩
  · rw [Table.ofEntries, Table.keys_insertAll]
    simp [Table.keys]
  · rw [Table.ofEntries, Table.get?_insertAll_last, Table.get?_nil, Option.or_none]

/-- A name that comes twice, a value with an equals sign and one with blanks. -/
def repeated : List (String × String) := [("a", "b=c"), ("job", " x "), ("a", "")]

/-- The same arguments again, and two more that are no labels. -/
theorem checkTarget_reports_repeated :
    (∀ pair ∈ repeated, Plain pair.1) ∧
    (∃ labels, ofArguments (repeated.map argument) = .ok labels ∧ labels.keys = ["a", "job"] ∧
      labels.get? "a" = some "" ∧ labels.get? "job" = some " x ") ∧
    (checkTarget (repeated.map argument ++ ["oops", "c"])).code = 2 := by
  have plain : ∀ pair ∈ repeated, Plain pair.1 := by
    intro pair member
    simp only [repeated, List.mem_cons, List.not_mem_nil, or_false] at member
    obtain rfl | rfl | rfl := member <;>
      exact ⟨by decide, by rintro c ⟨⟩; decide, by rintro c ⟨⟩; decide⟩
  obtain ⟨_, code, _, written⟩ := checkTarget_reports (repeated.map argument ++ ["oops", "c"])
  obtain ⟨labels, given, names, values⟩ := written repeated plain
  refine ⟨plain, ⟨labels, given, names.trans (by decide), ?_, ?_⟩, code.mpr ⟨"oops", ?_, by decide⟩⟩
  · exact (values "a").trans (by decide)
  · exact (values "job").trans (by decide)
  · exact List.mem_append_right _ List.mem_cons_self

end Upkeep.CommandLine
