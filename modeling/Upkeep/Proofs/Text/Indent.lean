import Mathlib.Data.List.Basic
import Upkeep.Text.Indent

/-! Indentation and its undoing. A line ends at a newline and nowhere else; what stands behind the
last newline is a line too, as a rule an empty one. -/
namespace Upkeep.Text

def blanks (count : Nat) : List Char := List.replicate count ' '

def lines (text : List Char) : List (List Char) := text.splitOn '\n'

/-- The text without up to `count` blanks behind each newline, and up to `left` at its start. -/
def outdentedFrom (count : Nat) : Nat → List Char → List Char
  | _, [] => []
  | left, c :: rest =>
    if c = '\n' then '\n' :: outdentedFrom count count rest
    else if c = ' ' ∧ 0 < left then outdentedFrom count (left - 1) rest
    else c :: outdentedFrom count 0 rest

/-- Takes blanks away from every line but the first. -/
def outdent (count : Nat) (s : String) : String := String.ofList (outdentedFrom count 0 s.toList)

theorem indentedBy_newline (count : Nat) (rest : List Char) :
    indentedBy count ('\n' :: rest) = '\n' :: (blanks count ++ indentedBy count rest) := rfl

theorem indentedBy_cons (count : Nat) {c : Char} (other : c ≠ '\n') (rest : List Char) :
    indentedBy count (c :: rest) = c :: indentedBy count rest := if_neg other

theorem indentedBy_append (count : Nat) (s t : List Char) :
    indentedBy count (s ++ t) = indentedBy count s ++ indentedBy count t := by
  induction s with
  | nil => rfl
  | cons c s ih =>
    by_cases newline : c = '\n'
    · subst newline
      rw [List.cons_append, indentedBy_newline, indentedBy_newline, ih, List.cons_append,
        List.append_assoc]
    · rw [List.cons_append, indentedBy_cons count newline, indentedBy_cons count newline, ih,
        List.cons_append]

theorem indentedBy_blanks (count width : Nat) : indentedBy count (blanks width) = blanks width := by
  induction width with
  | zero => rfl
  | succ width ih => exact congrArg (' ' :: ·) ih

theorem blanks_append (a b : Nat) : blanks a ++ blanks b = blanks (a + b) :=
  List.replicate_append_replicate

theorem indentedBy_indentedBy (a b : Nat) (t : List Char) :
    indentedBy b (indentedBy a t) = indentedBy (a + b) t := by
  induction t with
  | nil => rfl
  | cons c t ih =>
    by_cases newline : c = '\n'
    · subst newline
      rw [indentedBy_newline, indentedBy_newline, indentedBy_append, indentedBy_blanks, ih,
        ← List.append_assoc, blanks_append, Nat.add_comm b a, indentedBy_newline]
    · rw [indentedBy_cons a newline, indentedBy_cons b newline, ih, indentedBy_cons _ newline]

/-! ### Blanks are taken away again -/

theorem outdentedFrom_blanks (count width : Nat) (t : List Char) :
    outdentedFrom count width (blanks width ++ t) = outdentedFrom count 0 t := by
  induction width with
  | zero => rfl
  | succ width ih =>
    change outdentedFrom count (width + 1) (' ' :: (blanks width ++ t)) = _
    rw [outdentedFrom, if_neg (by decide), if_pos ⟨rfl, Nat.succ_pos width⟩]
    exact ih

/-- Blanks that a line had before it was indented are not taken away. -/
theorem outdentedFrom_indentedBy (count : Nat) (t : List Char) :
    outdentedFrom count 0 (indentedBy count t) = t := by
  induction t with
  | nil => rfl
  | cons c t ih =>
    by_cases newline : c = '\n'
    · subst newline
      rw [indentedBy_newline, outdentedFrom, if_pos rfl, outdentedFrom_blanks, ih]
    · rw [indentedBy_cons count newline, outdentedFrom, if_neg newline, if_neg (by simp), ih]

theorem indent_append (a : Nat) (s t : String) : indent a (s ++ t) = indent a s ++ indent a t := by
  rw [indent, indent, indent, ← String.ofList_append, String.toList_append, indentedBy_append]

theorem indent_indent (a b : Nat) (t : String) :
    indent b (indent a t) = indent (a + b : Nat) t := by
  rw [indent, indent, indent, String.toList_ofList]
  exact congrArg String.ofList (indentedBy_indentedBy a b t.toList)

theorem outdent_indent (a : Nat) (t : String) : outdent a (indent a t) = t := by
  rw [outdent, indent, String.toList_ofList, Int.toNat_natCast, outdentedFrom_indentedBy,
    String.ofList_toList]

/-! ### The lines of an indented text -/

theorem lines_newline (rest : List Char) : lines ('\n' :: rest) = [] :: lines rest := by
  rw [lines, List.splitOn_cons_eq_if_modifyHead, if_pos (beq_self_eq_true '\n'), lines]

theorem lines_cons {c : Char} (other : c ≠ '\n') (rest : List Char) :
    lines (c :: rest) = (lines rest).modifyHead (c :: ·) := by
  rw [lines, List.splitOn_cons_eq_if_modifyHead, if_neg (by simpa using other), lines]

theorem lines_append_newline (s t : List Char) : lines (s ++ '\n' :: t) = lines s ++ lines t :=
  List.splitOn_append_cons_self s t

theorem lines_blanks_append (width : Nat) (t : List Char) :
    lines (blanks width ++ t) = (lines t).modifyHead (blanks width ++ ·) := by
  induction width with
  | zero => exact (congrFun List.modifyHead_id (lines t)).symm
  | succ width ih =>
    change lines (' ' :: (blanks width ++ t)) = _
    rw [lines_cons (by decide), ih, List.modifyHead_modifyHead]
    rfl

/-- With blanks in front of its first line too, every line of the text is moved by as many. -/
theorem lines_indentedBy (count : Nat) (t : List Char) :
    lines (blanks count ++ indentedBy count t) = (lines t).map (blanks count ++ ·) := by
  induction t with
  | nil => rw [indentedBy, lines_blanks_append]; rfl
  | cons c t ih =>
    rw [lines_blanks_append] at ih ⊢
    by_cases newline : c = '\n'
    · subst newline
      rw [indentedBy_newline, lines_newline, lines_newline, lines_blanks_append, ih]
      rfl
    · rw [indentedBy_cons count newline, lines_cons newline, lines_cons newline]
      cases moved : lines (indentedBy count t) with
      | nil => exact absurd moved (List.splitOn_ne_nil _ _)
      | cons first later =>
        cases held : lines t with
        | nil => exact absurd held (List.splitOn_ne_nil _ _)
        | cons line rest =>
          rw [moved, held] at ih
          obtain ⟨same, others⟩ := List.cons.inj ih
          rw [List.append_cancel_left same, others]
          rfl

end Upkeep.Text
