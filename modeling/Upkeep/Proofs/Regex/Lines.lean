import Mathlib.Data.List.Basic
import Upkeep.Proofs.Regex.Greedy

/-! Patterns that are made of letters and of groups that take any part of a line. They match to the
end of a text only; what lies behind a group decides how far it goes. -/
namespace Upkeep.Regex

/-- Some characters of one line, at least one. -/
def IsLine (text : List Char) : Prop := text ≠ [] ∧ '\n' ∉ text

instance (text : List Char) : Decidable (IsLine text) := inferInstanceAs (Decidable (_ ∧ _))

/-- A text in two parts of lines with a semicolon between them. -/
structure Splits (text a b : List Char) : Prop where
  whole : text = a ++ ';' :: b
  left : IsLine a
  right : IsLine b

/-- The parts of a text where the first one is as long as it can be. -/
structure SplitsLast (text a b : List Char) : Prop extends Splits text a b where
  longest : ∀ c d, Splits text c d → c.length ≤ a.length

theorem SplitsLast.unique {text a b c d : List Char} (one : SplitsLast text a b)
    (other : SplitsLast text c d) : a = c ∧ b = d := by
  have lengths : a.length = c.length :=
    Nat.le_antisymm (other.longest a b one.toSplits) (one.longest c d other.toSplits)
  obtain ⟨left, right⟩ := List.append_inj (one.whole.symm.trans other.whole) lengths
  exact ⟨left, (List.cons.inj right).2⟩

/-- Around a single semicolon there is one way. -/
theorem Splits.eq_of_single {a b c d : List Char} (left : ';' ∉ a) (right : ';' ∉ b)
    (splits : Splits (a ++ ';' :: b) c d) : c = a ∧ d = b := by
  have same := (List.append_cons_inj_of_notMem left right).mp splits.whole
  exact ⟨same.1.symm, same.2.2.symm⟩

theorem SplitsLast.of_single {a b : List Char} (left : ';' ∉ a) (right : ';' ∉ b)
    (first : IsLine a) (second : IsLine b) : SplitsLast (a ++ ';' :: b) a b where
  whole := rfl
  left := first
  right := second
  longest := fun _ _ other => Nat.le_of_eq (congrArg List.length (other.eq_of_single left right).1)

/-- The cursor has taken these characters as a group. -/
def Cursor.noted (c : Cursor) (index : Nat) (taken rest : List Char) : Cursor :=
  { c.forward taken rest with captures := (index, taken) :: c.captures.filter (·.1 != index) }

@[simp] theorem Cursor.after_noted (c : Cursor) (index : Nat) (taken rest : List Char) :
    (c.noted index taken rest).after = rest := rfl

theorem Cursor.captured_forward {c : Cursor} {taken rest : List Char}
    (split : c.after = taken ++ rest) (index : Nat) :
    (c.forward taken rest).captured index c = c.noted index taken rest := by
  simp [captured, noted, forward, split]

namespace Pattern

def letter (char : Char) : Pattern := .one (.only .exact char.toNat)

def letters (text : List Char) : List Pattern := text.map letter

/-- A group that takes a part of a line. -/
def line (index : Nat) : Pattern := .group index (.loop 1 none true (.one .allButNewline))

end Pattern

namespace CharSet

theorem contains_only (expected char : Char) :
    (only .exact expected.toNat).contains char ↔ char = expected := by
  have same : char.toNat = expected.toNat ↔ char = expected :=
    ⟨fun h => Char.ext (UInt32.toNat_inj.mp h), congrArg _⟩
  simp [contains, lists, only, containsLetter, Fold.varies, same]

theorem contains_allButNewline (char : Char) : allButNewline.contains char ↔ char ≠ '\n' := by
  have same : char.toNat = 10 ↔ char = '\n' :=
    ⟨fun h => Char.ext (UInt32.toNat_inj.mp h), fun h => h ▸ rfl⟩
  simp [contains, lists, allButNewline, containsLetter, Fold.varies, same]

end CharSet

namespace Pattern
variable {c : Cursor}

theorem run_ofList_cons (first : Pattern) (rest : List Pattern) (c : Cursor) (go : Continue) :
    (ofList (first :: rest)).run c go = first.run c fun c => (ofList rest).run c go := by
  cases rest with
  | nil => rfl
  | cons second rest => rfl

/-- Letters move over themselves. -/
theorem run_letters_of_start (text : List Char) {rest : List Char} (next : c.after = text ++ rest)
    (more : List Pattern) (go : Continue) :
    (ofList (letters text ++ more)).run c go = (ofList more).run (c.forward text rest) go := by
  induction text generalizing c with
  | nil =>
    change c.after = rest at next
    subst next
    rfl
  | cons char text ih =>
    change (ofList (letter char :: (letters text ++ more))).run c go = _
    rw [run_ofList_cons, letter, run_one_of_next next,
      if_pos ((CharSet.contains_only char char).mpr rfl), ih rfl, Cursor.forward_past]

/-- If other letters come next they match nothing. -/
theorem run_letters_of_other (text : List Char) (other : ∀ rest, c.after ≠ text ++ rest)
    (more : List Pattern) (go : Continue) :
    (ofList (letters text ++ more)).run c go = none := by
  induction text generalizing c with
  | nil => exact absurd rfl (other c.after)
  | cons char text ih =>
    change (ofList (letter char :: (letters text ++ more))).run c go = _
    rw [run_ofList_cons, letter]
    cases next : c.after with
    | nil => exact run_one_of_end next _
    | cons first left =>
      rw [run_one_of_next next]
      split
      · rename_i same
        rw [CharSet.contains_only] at same
        exact ih fun rest after => other rest (next.trans (same ▸ congrArg (first :: ·) after))
      · rfl

theorem run_stop (c : Cursor) :
    (ofList [.at .stop]).run c some = if c.after = [] then some c else none := by
  simp [ofList, run, Place.holds]

/-- Letters up to the end of the text. -/
theorem isSome_run_letters_stop (text : List Char) (c : Cursor) :
    ((ofList (letters text ++ [.at .stop])).run c some).isSome ↔ c.after = text := by
  by_cases starts : ∃ rest, c.after = text ++ rest
  · obtain ⟨rest, next⟩ := starts
    rw [run_letters_of_start text next, run_stop]
    cases rest <;> simp [next]
  · rw [run_letters_of_other text (fun rest next => starts ⟨rest, next⟩)]
    have different : c.after ≠ text := fun same => starts ⟨[], by simp [same]⟩
    simp [different]

/-! ### Groups -/

/-- What comes of a group that takes a part of a line: the longest one behind which the rest
matches, if there is one. -/
inductive TakesLine (index : Nat) (c : Cursor) (go : Continue) : Option Cursor → Prop
  | found {taken rest : List Char} {next : Cursor} (split : c.after = taken ++ rest)
      (isLine : IsLine taken) (goes : go (c.noted index taken rest) = some next)
      (longest : ∀ more others, c.after = more ++ others → taken.length < more.length →
        IsLine more → go (c.noted index more others) = none) :
      TakesLine index c go (some next)
  | never (fails : ∀ taken rest, c.after = taken ++ rest → IsLine taken →
        go (c.noted index taken rest) = none) :
      TakesLine index c go none

theorem isLine_iff (text : List Char) :
    IsLine text ↔ 1 ≤ text.length ∧ ∀ char ∈ text, CharSet.allButNewline.contains char := by
  simp only [IsLine, CharSet.contains_allButNewline, Nat.one_le_iff_ne_zero, ne_eq,
    List.length_eq_zero_iff]
  refine and_congr_right fun _ => ⟨fun free char member same => free (same ▸ member), ?_⟩
  exact fun free member => free _ member rfl

theorem takesLine_run (index : Nat) (c : Cursor) (go : Continue) :
    TakesLine index c go ((line index).run c go) := by
  have greedy : Greedy .allButNewline 1 c (fun next => go (next.captured index c))
      ((line index).run c go) := run_loop_greedy 1 c _
  generalize (line index).run c go = result at greedy ⊢
  cases greedy with
  | found split enough inside goes longest =>
    rw [Cursor.captured_forward split] at goes
    refine .found split ((isLine_iff _).mpr ⟨enough, inside⟩) goes ?_
    intro more others split' longer isLine
    have fails := longest more others split' longer ((isLine_iff more).mp isLine).2
    rwa [Cursor.captured_forward split'] at fails
  | never fails =>
    apply TakesLine.never
    intro taken rest split isLine
    have fails := fails taken rest split ((isLine_iff taken).mp isLine).1
      ((isLine_iff taken).mp isLine).2
    rwa [Cursor.captured_forward split] at fails

/-- A group that is the last thing takes all that is left. -/
theorem run_line_stop (index : Nat) (c : Cursor) :
    (ofList [line index, .at .stop]).run c some =
      if IsLine c.after then some (c.noted index c.after []) else none := by
  rw [run_ofList_cons]
  have takes := takesLine_run index c fun next => (ofList [.at .stop]).run next some
  generalize (line index).run c (fun next => (ofList [.at .stop]).run next some) = result
    at takes ⊢
  cases takes with
  | found split isLine goes longest =>
    rw [run_stop, Cursor.after_noted] at goes
    split at goes
    · rename_i ended
      rw [ended, List.append_nil] at split
      rw [split, if_pos isLine, ← goes, ended]
    · cases goes
  | never fails =>
    have whole := fails c.after [] (List.append_nil _).symm
    split
    · rename_i isLine
      simpa [run_stop] using whole isLine
    · rfl

/-- Letters and a group behind them that takes all that is left. -/
theorem run_letters_line (text : List Char) (index : Nat) (c : Cursor) :
    (∃ tail, c.after = text ++ tail ∧ IsLine tail ∧
      (ofList (letters text ++ [line index, .at .stop])).run c some =
        some ((c.forward text tail).noted index tail [])) ∨
    ((∀ tail, c.after = text ++ tail → ¬ IsLine tail) ∧
      (ofList (letters text ++ [line index, .at .stop])).run c some = none) := by
  by_cases starts : ∃ tail, c.after = text ++ tail
  · obtain ⟨tail, next⟩ := starts
    rw [run_letters_of_start text next, run_line_stop, Cursor.after_forward]
    by_cases isLine : IsLine tail
    · exact .inl ⟨tail, next, isLine, if_pos isLine⟩
    · refine .inr ⟨fun other next' => ?_, if_neg isLine⟩
      rwa [List.append_cancel_left (next'.symm.trans next)]
  · right
    exact ⟨fun tail next => absurd ⟨tail, next⟩ starts,
      run_letters_of_other text (fun tail next => starts ⟨tail, next⟩) _ _⟩

end Pattern

/-! ### Whole patterns -/

namespace Compiled
open Pattern
variable {groups : Nat} {names : List (List Char × Nat)}

/-- A part of a line and then a text. -/
theorem isSome_matchStart_line_letters (text whole : List Char) :
    (matchStart ⟨ofList (line 1 :: (letters text ++ [.at .stop])), groups, names⟩ whole).isSome ↔
      ∃ front, IsLine front ∧ whole = front ++ text := by
  rw [matchStart, matchAt, Option.isSome_map, run_ofList_cons]
  have takes := takesLine_run 1 (Cursor.ofText whole) fun next =>
    (ofList (letters text ++ [.at .stop])).run next some
  generalize (line 1).run (Cursor.ofText whole)
    (fun next => (ofList (letters text ++ [.at .stop])).run next some) = result at takes ⊢
  cases takes with
  | @found taken rest next split isLine goes longest =>
    have ended : rest = text :=
      (isSome_run_letters_stop text _).mp (Option.isSome_iff_exists.mpr ⟨next, goes⟩)
    exact iff_of_true rfl ⟨taken, isLine, ended ▸ split⟩
  | never fails =>
    refine iff_of_false Bool.false_ne_true ?_
    rintro ⟨front, isLine, split⟩
    have matched := (isSome_run_letters_stop text
      ((Cursor.ofText whole).noted 1 front text)).mpr rfl
    rw [fails front text split isLine] at matched
    cases matched

/-- A text and then a part of a line. -/
theorem matchStart_letters_line (text whole : List Char) :
    (∃ m, matchStart ⟨ofList (letters text ++ [line 1, .at .stop]), groups, names⟩ whole = some m ∧
      IsLine (m.numbered 1) ∧ whole = text ++ m.numbered 1) ∨
    (matchStart ⟨ofList (letters text ++ [line 1, .at .stop]), groups, names⟩ whole = none ∧
      ∀ tail, whole = text ++ tail → ¬ IsLine tail) := by
  rw [matchStart, matchAt]
  rcases run_letters_line text 1 (Cursor.ofText whole) with
    ⟨tail, split, isLine, ran⟩ | ⟨other, ran⟩
  · rw [ran]
    exact .inl ⟨_, rfl, isLine, split⟩
  · rw [ran]
    exact .inr ⟨rfl, other⟩

/-- Two parts of lines with a semicolon between them; the first one is as long as it can be. -/
theorem matchStart_splits (whole : List Char) :
    (∃ m, matchStart ⟨ofList (line 1 :: (letters [';'] ++ [line 2, .at .stop])), groups, names⟩
        whole = some m ∧ SplitsLast whole (m.numbered 1) (m.numbered 2)) ∨
    (matchStart ⟨ofList (line 1 :: (letters [';'] ++ [line 2, .at .stop])), groups, names⟩
        whole = none ∧ ∀ a b, ¬ Splits whole a b) := by
  -- behind the first part of any split the rest of the pattern matches
  have works : ∀ a b, Splits whole a b → (ofList (letters [';'] ++ [line 2, .at .stop])).run
      ((Cursor.ofText whole).noted 1 a (';' :: b)) some ≠ none := by
    intro a b splits none
    rcases run_letters_line [';'] 2 ((Cursor.ofText whole).noted 1 a (';' :: b)) with
      ⟨tail, _, _, ran⟩ | ⟨other, _⟩
    · exact Option.some_ne_none _ (ran.symm.trans none)
    · exact other b rfl splits.right
  rw [matchStart, matchAt, run_ofList_cons]
  have takes := takesLine_run 1 (Cursor.ofText whole) fun next =>
    (ofList (letters [';'] ++ [line 2, .at .stop])).run next some
  generalize (line 1).run (Cursor.ofText whole)
    (fun next => (ofList (letters [';'] ++ [line 2, .at .stop])).run next some) = result at takes ⊢
  cases takes with
  | @found taken left next split isLine goes longest =>
    rcases run_letters_line [';'] 2 ((Cursor.ofText whole).noted 1 taken left) with
      ⟨tail, after, isTail, ran⟩ | ⟨_, ran⟩
    · left
      obtain rfl := Option.some.inj (ran.symm.trans goes)
      obtain rfl : left = ';' :: tail := after
      refine ⟨_, rfl, ⟨split, isLine, isTail⟩, ?_⟩
      intro a b splits
      apply Nat.le_of_not_lt
      intro longer
      exact works a b splits (longest a _ splits.whole longer splits.left)
    · cases ran.symm.trans goes
  | never fails =>
    exact .inr ⟨rfl, fun a b splits => works a b splits (fails a _ splits.whole splits.left)⟩

end Compiled
end Upkeep.Regex
