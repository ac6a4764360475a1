import Upkeep.Proofs.Relabel.Renaming

/-! Labels in another order. A rule looks labels up, and its verdict does not tell two orders apart.
The one exception is a rule that renames labels: where two of them get the same new name the later one
counts. Without such a clash both orders end alike, and they fail alike in any case, as a template
fails on its own account and not on that of a match. -/
namespace Upkeep.Relabel
open Regex (Match Compiled)

/-! ### The same labels -/

/-- Two label sets are one and the same map. -/
structure Same (a b : Labels) : Prop where
  left : a.Distinct
  right : b.Distinct
  looks : ∀ name, a.get? name = b.get? name

namespace Same
variable {a b : Labels}

theorem of_perm (distinct : a.Distinct) (perm : a.Perm b) : Same a b where
  left := distinct
  right := distinct.of_perm perm
  looks := by
    have right := distinct.of_perm perm
    intro name
    cases found : a.get? name with
    | some value => exact (right.get?_of_mem (perm.mem_iff.mp (Table.mem_of_get? found))).symm
    | none =>
      rw [Table.get?_eq_none_iff] at found
      exact ((Table.get?_eq_none_iff b name).mpr
        (mt (perm.map Prod.fst).mem_iff.mpr found)).symm

theorem perm (same : Same a b) : a.Perm b := same.left.perm_of_get? same.right same.looks

theorem mem_iff (same : Same a b) {label : String × String} : label ∈ a ↔ label ∈ b :=
  same.perm.mem_iff

theorem insert (same : Same a b) (name value : String) :
    Same (a.insert name value) (b.insert name value) where
  left := same.left.insert name value
  right := same.right.insert name value
  looks other := by rw [Table.get?_insert, Table.get?_insert, same.looks]

theorem erase (same : Same a b) (name : String) : Same (a.erase name) (b.erase name) where
  left := same.left.erase name
  right := same.right.erase name
  looks other := by rw [Table.get?_erase, Table.get?_erase, same.looks]

theorem filter (same : Same a b) (kept : String × String → Bool) :
    Same (a.filter kept) (b.filter kept) where
  left := same.left.filter kept
  right := same.right.filter kept
  looks name := by rw [same.left.get?_filter, same.right.get?_filter, same.looks]

theorem edit (same : Same a b) (edit : Edit) : Same (edit.perform a) (edit.perform b) := by
  cases edit with
  | nothing => exact same
  | remove name => exact same.erase name
  | set name text given => exact same.insert name text

theorem value (same : Same a b) (rule : Rule) : rule.value a = rule.value b := by
  simp only [Rule.value, same.looks]

end Same

/-! ### Renaming -/

section
variable {pattern : Compiled} {template : String} {entries onto result : Labels}

/-- A name that no label gets keeps the value it had. -/
theorem get?_mapNames_of_untouched
    (mapped : mapNames pattern template entries onto = .ok result) {new : String}
    (untouched : ∀ entry ∈ entries, ¬ Renames pattern template entry.1 new) :
    result.get? new = onto.get? new := by
  have empty : (entries.filter fun label => newName? pattern template label.1 = some new) = [] := by
    rw [List.filter_eq_nil_iff]
    intro label member given
    exact untouched label member (newName?_eq_some_iff.mp (by simpa using given))
  rw [get?_mapNames_last mapped, empty]
  rfl

/-- A new name gets the value of the label that is renamed to it. -/
theorem get?_mapNames_of_renames (distinct : entries.Distinct)
    (apart : Apart pattern template entries)
    (mapped : mapNames pattern template entries onto = .ok result) {name value new : String}
    (member : (name, value) ∈ entries) (renames : Renames pattern template name new) :
    result.get? new = some value := by
  have inside : (name, value) ∈
      entries.filter fun label => newName? pattern template label.1 = some new :=
    List.mem_filter.mpr ⟨member, by simpa using newName?_eq_some_iff.mpr renames⟩
  obtain ⟨⟨key, last⟩, found⟩ :=
    Option.isSome_iff_exists.mp (List.getLast?_isSome.mpr (List.ne_nil_of_mem inside))
  obtain ⟨held, given⟩ := List.mem_filter.mp (List.mem_of_getLast? found)
  -- the last label that gets the name is the only one
  obtain rfl : key = name :=
    apart key (List.mem_map_of_mem held) name (List.mem_map_of_mem member) new
      (newName?_eq_some_iff.mp (by simpa using given)) renames
  have same := (distinct.get?_of_mem held).symm.trans (distinct.get?_of_mem member)
  rw [get?_mapNames_last mapped, found]
  exact same

theorem distinct_mapNames (distinct : onto.Distinct)
    (mapped : mapNames pattern template entries onto = .ok result) : result.Distinct :=
  (mapNames_eq_ok_iff.mp mapped).2 ▸ distinct.insertAll _

end

/-- Labels are copied to the same names in both orders, or the rule fails in both. -/
theorem Same.mapNames {a b : Labels} (same : Same a b) {pattern : Compiled} {template : String}
    (apart : Apart pattern template a) :
    (∃ error, Relabel.mapNames pattern template a a = .error error ∧
      Relabel.mapNames pattern template b b = .error error) ∨
    ∃ x y, Relabel.mapNames pattern template a a = .ok x ∧
      Relabel.mapNames pattern template b b = .ok y ∧ Same x y := by
  have fails : ∀ error, Relabel.mapNames pattern template a a = .error error ↔
      Relabel.mapNames pattern template b b = .error error := by
    intro error
    simp only [mapNames_eq_error_iff, same.mem_iff]
  cases first : Relabel.mapNames pattern template a a with
  | error error => exact .inl ⟨error, rfl, (fails error).mp first⟩
  | ok x =>
    cases second : Relabel.mapNames pattern template b b with
    | error error =>
      rw [(fails error).mpr second] at first
      cases first
    | ok y =>
      refine .inr ⟨x, y, rfl, rfl, distinct_mapNames same.left first,
        distinct_mapNames same.right second, fun new => ?_⟩
      by_cases given : ∃ label ∈ a, Renames pattern template label.1 new
      · obtain ⟨⟨name, value⟩, member, renames⟩ := given
        have apart' : Apart pattern template b := by
          intro one left other right
          have keys : a.keys.Perm b.keys := same.perm.map Prod.fst
          exact apart one (keys.mem_iff.mpr left) other (keys.mem_iff.mpr right)
        rw [get?_mapNames_of_renames same.left apart first member renames,
          get?_mapNames_of_renames same.right apart' second (same.mem_iff.mp member) renames]
      · have untouched : ∀ label ∈ a, ¬ Renames pattern template label.1 new :=
          fun label member renames => given ⟨label, member, renames⟩
        rw [get?_mapNames_of_untouched first untouched, get?_mapNames_of_untouched second
          fun label member => untouched label (same.mem_iff.mpr member), same.looks]

/-! ### Rules -/

/-- No two labels get the same new name, if the rule renames any. -/
def Rule.Unambiguous (rule : Rule) (labels : Labels) : Prop :=
  Text.lowerCase (rule.action.getD "replace") = "labelmap" → ∀ pattern,
    Regex.compileAnchored (rule.regex.getD "(.*)").toList = .ok pattern →
      Apart pattern (rule.replacement.getD "$1") labels

/-- One rule, whatever it does, does the same in both orders. -/
theorem Same.apply {a b : Labels} (same : Same a b) {rule : Rule} (clear : rule.Unambiguous a) :
    (∃ error, rule.apply a = .error error ∧ rule.apply b = .error error) ∨
    (rule.apply a = .ok none ∧ rule.apply b = .ok none) ∨
    ∃ x y, rule.apply a = .ok (some x) ∧ rule.apply b = .ok (some y) ∧ Same x y := by
  cases compiled : Regex.compileAnchored (rule.regex.getD "(.*)").toList with
  | error error =>
    exact .inl ⟨_, rule.apply_invalid compiled a, rule.apply_invalid compiled b⟩
  | ok pattern =>
    rcases rule.action_cases with keep | drop | replace | labelmap | labeldrop | labelkeep | other
    · rw [rule.apply_keep keep compiled, rule.apply_keep keep compiled, same.value]
      split
      · exact .inr (.inr ⟨a, b, rfl, rfl, same⟩)
      · exact .inr (.inl ⟨rfl, rfl⟩)
    · rw [rule.apply_drop drop compiled, rule.apply_drop drop compiled, same.value]
      split
      · exact .inr (.inl ⟨rfl, rfl⟩)
      · exact .inr (.inr ⟨a, b, rfl, rfl, same⟩)
    · rw [rule.apply_replace replace compiled, rule.apply_replace replace compiled, same.value]
      split
      · exact .inr (.inr ⟨a, b, rfl, rfl, same⟩)
      · rename_i m _
        rcases replace_cases rule m with ⟨error, fails⟩ | ⟨edit, _, edits⟩
        · rw [fails, fails]
          exact .inl ⟨error, rfl, rfl⟩
        · rw [edits, edits]
          exact .inr (.inr ⟨_, _, rfl, rfl, same.edit edit⟩)
    · rw [rule.apply_labelmap labelmap compiled, rule.apply_labelmap labelmap compiled]
      rcases same.mapNames (clear labelmap pattern compiled) with
        ⟨error, first, second⟩ | ⟨x, y, first, second, alike⟩
      · rw [first, second]
        exact .inl ⟨error, rfl, rfl⟩
      · rw [first, second]
        exact .inr (.inr ⟨x, y, rfl, rfl, alike⟩)
    · rw [rule.apply_labeldrop labeldrop compiled, rule.apply_labeldrop labeldrop compiled]
      exact .inr (.inr ⟨_, _, rfl, rfl, same.filter _⟩)
    · rw [rule.apply_labelkeep labelkeep compiled, rule.apply_labelkeep labelkeep compiled]
      exact .inr (.inr ⟨_, _, rfl, rfl, same.filter _⟩)
    · exact .inl ⟨_, rule.apply_unsupported other compiled a, rule.apply_unsupported other compiled b⟩

/-- No rule that is reached finds two labels that would get the same new name. -/
def Unambiguous : List Rule → Labels → Prop
  | [], _ => True
  | rule :: rest, labels => rule.Unambiguous labels ∧
      ∀ next, rule.apply labels = .ok (some next) → Unambiguous rest next

theorem unambiguous_of_forall {rules : List Rule}
    (each : ∀ rule ∈ rules, ∀ labels, rule.Unambiguous labels) (labels : Labels) :
    Unambiguous rules labels := by
  induction rules generalizing labels with
  | nil => trivial
  | cons rule rest ih =>
    obtain ⟨here, others⟩ := List.forall_mem_cons.mp each
    exact ⟨here labels, fun next _ => ih others next⟩

/-- Two runs fail for the same reason, or drop the target by the same rule, or keep the same map. -/
inductive EndsAlike : Except RuleError Verdict → Except RuleError Verdict → Prop
  | failed (error : RuleError) : EndsAlike (.error error) (.error error)
  | dropped (rule : Rule) : EndsAlike (.ok (.dropped rule)) (.ok (.dropped rule))
  | kept {a b : Labels} (same : Same a b) : EndsAlike (.ok (.kept a)) (.ok (.kept b))

theorem Same.applyAll {a b : Labels} (same : Same a b) {rules : List Rule}
    (clear : Unambiguous rules a) :
    EndsAlike (Relabel.applyAll rules a) (Relabel.applyAll rules b) := by
  induction rules generalizing a b with
  | nil => exact .kept same
  | cons rule rest ih =>
    rcases same.apply clear.1 with
      ⟨error, first, second⟩ | ⟨first, second⟩ | ⟨x, y, first, second, alike⟩
    · rw [applyAll_cons_of_failed first, applyAll_cons_of_failed second]
      exact .failed error
    · rw [applyAll_cons_of_dropped first, applyAll_cons_of_dropped second]
      exact .dropped rule
    · rw [applyAll_cons_of_kept first, applyAll_cons_of_kept second]
      exact ih alike (clear.2 x first)

end Upkeep.Relabel
