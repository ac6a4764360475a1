import Upkeep.Proofs.Text.Indent
import Upkeep.Proofs.Text.SingleQuoted
import Upkeep.Wanted.Documents

/-! The entries of the legacy layout, read by those they are written for. The rules stand in a block
that is indented by two blanks and holds them unchanged, whatever they are. The dashboard stands in
single quotes, and is read back unchanged exactly if it has no quote of its own. -/
namespace Upkeep.Wanted.Documents

/-! ### The rules -/

/-- The lines of a block, up to the first one that is not indented by as many blanks. -/
def blockLines (width : Nat) (lines : List (List Char)) : List (List Char) :=
  lines.takeWhile (Text.blanks width).isPrefixOf

theorem blockLines_ended {width : Nat} {body : List (List Char)} (some : width ≠ 0)
    (indented : ∀ line ∈ body, Text.blanks width <+: line) :
    blockLines width (body ++ [[]]) = body := by
  have nothing : (Text.blanks width).isPrefixOf [] = false := by
    obtain ⟨n, rfl⟩ := Nat.exists_eq_succ_of_ne_zero some
    rfl
  rw [blockLines, List.takeWhile_append_of_pos fun line member =>
    List.isPrefixOf_iff_prefix.mpr (indented line member), List.takeWhile_cons_of_neg (by simp [nothing]),
    List.append_nil]

def rulesHeading : String := "registry-cache.rules.yaml: |"

theorem toList_indented (opening text closing : String) (count : Nat) :
    (opening ++ Text.indent count text ++ closing).toList =
      opening.toList ++ Text.indentedBy count text.toList ++ closing.toList := by
  rw [String.toList_append, String.toList_append, Text.indent, String.toList_ofList,
    Int.toNat_natCast]

theorem toList_rulesEntry (documents : Documents) :
    documents.rulesEntry.toList = rulesHeading.toList ++
      '\n' :: (Text.blanks 2 ++ Text.indentedBy 2 documents.alertingRules.toList ++ ['\n']) := by
  have opening : "registry-cache.rules.yaml: |\n  ".toList =
      rulesHeading.toList ++ '\n' :: Text.blanks 2 := by decide +kernel
  calc documents.rulesEntry.toList
      = "registry-cache.rules.yaml: |\n  ".toList ++
          Text.indentedBy 2 documents.alertingRules.toList ++ ['\n'] :=
        toList_indented _ documents.alertingRules "\n" 2
    _ = rulesHeading.toList ++ '\n' :: Text.blanks 2 ++
          Text.indentedBy 2 documents.alertingRules.toList ++ ['\n'] :=
        congrArg (· ++ _ ++ _) opening
    _ = _ := by simp only [List.append_assoc, List.cons_append]

theorem lines_rulesEntry (documents : Documents) :
    Text.lines documents.rulesEntry.toList = rulesHeading.toList ::
      ((Text.lines documents.alertingRules.toList).map (Text.blanks 2 ++ ·) ++ [[]]) := by
  have heading : Text.lines rulesHeading.toList = [rulesHeading.toList] :=
    List.splitOn_eq_singleton (by decide +kernel)
  have ending : Text.lines [] = [[]] := List.splitOn_nil '\n'
  rw [toList_rulesEntry, Text.lines_append_newline, heading, Text.lines_append_newline,
    Text.lines_indentedBy, ending, List.singleton_append]

theorem rulesEntry_eq_iff (one other : Documents) :
    one.rulesEntry = other.rulesEntry ↔ one.alertingRules = other.alertingRules := by
  have first := one.toList_rulesEntry
  have second := other.toList_rulesEntry
  constructor
  · intro same
    have lists := first.symm.trans ((congrArg String.toList same).trans second)
    rw [List.append_cancel_left_eq, List.cons.injEq, List.append_cancel_right_eq,
      List.append_cancel_left_eq] at lists
    have undone := congrArg (Text.outdentedFrom 2 0) lists.2
    rw [Text.outdentedFrom_indentedBy, Text.outdentedFrom_indentedBy] at undone
    exact String.toList_inj.mp undone
  · intro same
    rw [same] at first
    exact String.toList_inj.mp (first.trans second.symm)

/-- The entry of the rules is a heading and a block. Each line of the block is indented by two
blanks, so it goes on to the end of the entry, and without the blanks and the last newline it is the
rules. Different rules have different entries. Indentation goes piece by piece, adds up, and can be
undone. -/
theorem rulesEntry_holds (documents : Documents) :
    (∃ body, Text.lines documents.rulesEntry.toList = rulesHeading.toList :: (body ++ [[]]) ∧
      (∀ line ∈ body, Text.blanks 2 <+: line) ∧ blockLines 2 (body ++ [[]]) = body ∧
      ['\n'].intercalate (body.map (List.drop 2)) = documents.alertingRules.toList) ∧
    (∀ other : Documents,
      documents.rulesEntry = other.rulesEntry ↔ documents.alertingRules = other.alertingRules) ∧
    ∀ (s t : String) (a b : Nat),
      Text.indent a (s ++ t) = Text.indent a s ++ Text.indent a t ∧
      Text.indent b (Text.indent a t) = Text.indent (a + b : Nat) t ∧
      Text.outdent a (Text.indent a t) = t := by
  have indented : ∀ line ∈ (Text.lines documents.alertingRules.toList).map (Text.blanks 2 ++ ·),
      Text.blanks 2 <+: line := by
    intro line member
    obtain ⟨given, _, rfl⟩ := List.mem_map.mp member
    exact List.prefix_append _ _
  refine ⟨⟨_, documents.lines_rulesEntry, indented, blockLines_ended (by decide) indented, ?_⟩,
    documents.rulesEntry_eq_iff, fun s t a b =>
      ⟨Text.indent_append a s t, Text.indent_indent a b t, Text.outdent_indent a t⟩⟩
  have bare : List.drop 2 ∘ (Text.blanks 2 ++ ·) = id := funext fun line => rfl
  rw [List.map_map, bare, List.map_id]
  exact List.intercalate_splitOn '\n'

/-! ### The dashboard -/

/-- Reads a key and the quoted text behind it: the text, and what is left. -/
def entryText? (key text : String) : Option (List Char × List Char) :=
  ((key ++ ": '").toList.isPrefixOf? text.toList).bind Text.readQuoted?

theorem entryText?_dashboardEntry (documents : Documents) :
    entryText? Key.dashboard documents.dashboardEntry =
      Text.readQuoted? (documents.dashboard.toList ++ ['\'']) := by
  have found : (Key.dashboard ++ ": '").toList.isPrefixOf? documents.dashboardEntry.toList =
      some (documents.dashboard.toList ++ ['\'']) := by
    rw [List.isPrefixOf?_eq_some_iff_append_eq, dashboardEntry, String.toList_append,
      String.toList_append, String.toList_append, String.toList_append, List.append_assoc,
      List.append_assoc]
    rfl
  rw [entryText?, found]
  rfl

/-- The entry of the dashboard is read to its end exactly if the dashboard is a text with its quotes
doubled, and this text is what is read. So it is read back unchanged exactly if it has no quote. -/
theorem dashboardEntry_read (documents : Documents) :
    (∀ value, entryText? Key.dashboard documents.dashboardEntry = some (value, []) ↔
      documents.dashboard.toList = Text.doubled value) ∧
    (entryText? Key.dashboard documents.dashboardEntry = some (documents.dashboard.toList, []) ↔
      '\'' ∉ documents.dashboard.toList) := by
  have read : ∀ value, entryText? Key.dashboard documents.dashboardEntry = some (value, []) ↔
      documents.dashboard.toList = Text.doubled value := by
    intro value
    rw [entryText?_dashboardEntry, Text.readQuoted?_eq_some_iff, List.append_cancel_right_eq]
    simp
  exact ⟨read, by rw [read, eq_comm, Text.doubled_eq_self_iff]⟩

/-- A dashboard on one line, with an apostrophe in it. -/
def apostrophe : Documents := ⟨"groups: []", "it's", legacyScrapeConfig⟩

/-- The quoted text ends at the apostrophe, before the entry does. -/
theorem dashboardEntry_cut :
    entryText? Key.dashboard apostrophe.dashboardEntry = some ("it".toList, "s'".toList) ∧
    ¬ ∀ documents : Documents, (∀ c ∈ documents.dashboard.toList, c ≠ '\n' ∧ c ≠ '\r') →
      entryText? Key.dashboard documents.dashboardEntry =
        some (documents.dashboard.toList, []) := by
  have cut : entryText? Key.dashboard apostrophe.dashboardEntry =
      some ("it".toList, "s'".toList) := by decide +kernel
  have oneLine : ∀ c ∈ apostrophe.dashboard.toList, c ≠ '\n' ∧ c ≠ '\r' := by
    simp [apostrophe]
  refine ⟨cut, fun all => ?_⟩
  have whole := all apostrophe oneLine
  rw [cut] at whole
  exact absurd whole (by decide +kernel)

end Upkeep.Wanted.Documents
