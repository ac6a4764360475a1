import Upkeep.Regex.Match

/-! Greedy repetition of one character. What follows is tried behind each stretch of characters of
the set, the longest one first; so a match is the one with the longest stretch, and if there is none
then no stretch has worked. -/
namespace Upkeep.Regex

/-- The cursor moves over these characters; the others are left. -/
def Cursor.forward (c : Cursor) (taken rest : List Char) : Cursor :=
  { c with before := taken.reverse ++ c.before, after := rest }

@[simp] theorem Cursor.after_forward (c : Cursor) (taken rest : List Char) :
    (c.forward taken rest).after = rest := rfl

theorem Cursor.forward_past (c : Cursor) (char : Char) (rest taken others : List Char) :
    (c.past char rest).forward taken others = c.forward (char :: taken) others := by
  simp [forward, past]

/-- What comes of trying stretches of at least so many characters, the longest one first. -/
inductive Greedy (set : CharSet) (least : Nat) (c : Cursor) (go : Continue) : Option Cursor → Prop
  | found {taken rest : List Char} {next : Cursor} (split : c.after = taken ++ rest)
      (enough : least ≤ taken.length) (inside : ∀ char ∈ taken, set.contains char)
      (goes : go (c.forward taken rest) = some next)
      (longest : ∀ more others, c.after = more ++ others → taken.length < more.length →
        (∀ char ∈ more, set.contains char) → go (c.forward more others) = none) :
      Greedy set least c go (some next)
  | never (fails : ∀ taken rest, c.after = taken ++ rest → least ≤ taken.length →
        (∀ char ∈ taken, set.contains char) → go (c.forward taken rest) = none) :
      Greedy set least c go none

namespace Greedy
variable {set : CharSet} {least : Nat} {c : Cursor} {go : Continue} {result : Option Cursor}

/-- Where no character of the set comes next, there is no stretch. -/
theorem stuck (blocked : ∀ char rest, c.after = char :: rest → ¬ set.contains char) :
    Greedy set (least + 1) c go none := by
  apply never
  intro taken rest split enough inside
  cases taken with
  | nil => simp at enough
  | cons char more => exact absurd (inside char List.mem_cons_self) (blocked char _ split)

/-- A stretch that is not empty begins with the next character. -/
theorem of_split {char : Char} {rest taken others : List Char} (next : c.after = char :: rest)
    (split : c.after = taken ++ others) (some : 0 < taken.length) :
    ∃ more, taken = char :: more ∧ rest = more ++ others := by
  cases taken with
  | nil => simp at some
  | cons first more =>
    obtain ⟨rfl, same⟩ := List.cons.inj (next.symm.trans split)
    exact ⟨more, rfl, same⟩

/-- One character more in front. -/
theorem past {char : Char} {rest : List Char} (next : c.after = char :: rest)
    (member : set.contains char) (greedy : Greedy set least (c.past char rest) go result) :
    Greedy set (least + 1) c go result := by
  cases greedy with
  | @found taken others final split enough inside goes longest =>
    rw [Cursor.forward_past] at goes
    have whole : c.after = (char :: taken) ++ others := next.trans (congrArg (char :: ·) split)
    refine .found whole (Nat.succ_le_succ enough)
      (List.forall_mem_cons.mpr ⟨member, inside⟩) goes ?_
    intro more others split' longer within
    obtain ⟨more, rfl, same⟩ := of_split next split' (Nat.zero_lt_of_lt longer)
    rw [← Cursor.forward_past]
    exact longest more others same (Nat.lt_of_succ_lt_succ longer)
      fun char there => within char (List.mem_cons_of_mem _ there)
  | never fails =>
    apply never
    intro taken others split enough inside
    obtain ⟨more, rfl, same⟩ := of_split next split (Nat.zero_lt_of_lt enough)
    rw [← Cursor.forward_past]
    exact fails more others same (Nat.le_of_succ_le_succ enough)
      fun char there => inside char (List.mem_cons_of_mem _ there)

/-- The empty stretch is the last one to be tried. -/
theorem orElse (greedy : Greedy set 1 c go result) : Greedy set 0 c go (result <|> go c) := by
  cases greedy with
  | found split enough inside goes longest =>
    exact .found split (Nat.zero_le _) inside goes longest
  | never fails =>
    change Greedy set 0 c go (go c)
    have longer : ∀ more others, c.after = more ++ others → 0 < more.length →
        (∀ char ∈ more, set.contains char) → go (c.forward more others) = none := fails
    cases outcome : go c with
    | some next =>
      have whole : c.after = [] ++ c.after := rfl
      exact .found whole (Nat.le_refl 0) (List.forall_mem_nil _) outcome longer
    | none =>
      apply never
      intro taken rest split _ inside
      cases taken with
      | nil => exact (congrArg (fun left => go (c.forward [] left)) split.symm).trans outcome
      | cons char more => exact longer _ _ split (Nat.succ_pos _) inside

end Greedy

section
variable {set : CharSet}

theorem Pattern.run_one_of_next {c : Cursor} {char : Char} {rest : List Char}
    (next : c.after = char :: rest) (go : Continue) :
    (Pattern.one set).run c go = if set.contains char then go (c.past char rest) else none := by
  rw [Pattern.run, next]

theorem Pattern.run_one_of_end {c : Cursor} (ended : c.after = []) (go : Continue) :
    (Pattern.one set).run c go = none := by
  rw [Pattern.run, ended]

/-- Further rounds of one character each: the fuel is enough, and no round starts where the last
one did. -/
theorem moreRounds_greedy (c : Cursor) (go : Continue) {fuel : Nat} (enough : c.after.length < fuel)
    {started : Option Nat} (moved : started ≠ some c.after.length) :
    Greedy set 0 c go (moreRounds (Pattern.one set).run true fuel none started c go) := by
  -- on the text that is left: each round takes one character, so the next one starts elsewhere
  induction text : c.after generalizing c fuel started with
  | nil =>
    obtain ⟨fuel, rfl⟩ := Nat.exists_eq_succ_of_ne_zero (Nat.ne_zero_of_lt enough)
    have stuck : Greedy set 1 c go none := .stuck (by simp [text])
    simpa [moreRounds, moved, Pattern.run_one_of_end text] using stuck.orElse
  | cons char rest ih =>
    obtain ⟨fuel, rfl⟩ := Nat.exists_eq_succ_of_ne_zero (Nat.ne_zero_of_lt enough)
    rw [text] at enough moved
    rw [moreRounds]
    simp only [text, moved, Pattern.run_one_of_next text, reduceCtorEq, or_self, if_false, if_true]
    apply Greedy.orElse
    by_cases member : set.contains char
    · rw [if_pos member]
      apply Greedy.past text member
      apply ih (c.past char rest) (Nat.lt_of_succ_lt_succ enough) _ rfl
      simp [Cursor.past]
    · rw [if_neg member]
      exact .stuck fun other left same => (List.cons.inj (text.symm.trans same)).1 ▸ member

/-- A greedy repetition of one character. -/
theorem Pattern.run_loop_greedy (least : Nat) (c : Cursor) (go : Continue) :
    Greedy set least c go ((Pattern.loop least none true (.one set)).run c go) := by
  rw [Pattern.run]
  simp only [Option.map_none]
  induction least generalizing c with
  | zero => exact moreRounds_greedy c go (Nat.lt_succ_self _) (Option.some_ne_none _).symm
  | succ least ih =>
    rw [rounds]
    cases text : c.after with
    | nil =>
      rw [Pattern.run_one_of_end text]
      exact .stuck (by simp [text])
    | cons char rest =>
      rw [Pattern.run_one_of_next text]
      by_cases member : set.contains char
      · rw [if_pos member]
        exact .past text member (ih _)
      · rw [if_neg member]
        exact .stuck fun other left same => (List.cons.inj (text.symm.trans same)).1 ▸ member

end
end Upkeep.Regex
