import Mathlib.Computability.Language
import Upkeep.Proofs.Regex.Lines

/-! Regular patterns and their languages. A pattern is regular if it is made of characters, groups,
alternatives and repetitions only. Backtracking tries its ways in some order, but it tries them all:
behind a regular pattern the rest of a match is found exactly if it is found behind some text of its
language. A round that takes nothing may end a repetition early, as such rounds add nothing. -/
namespace Upkeep.Regex

/-- What follows looks at the text that is left and at nothing else. -/
def Blind (go : Continue) : Prop :=
  ∀ a b : Cursor, a.after = b.after → (go a).isSome = (go b).isSome

/-- The step finds what follows exactly behind the texts of a language. -/
def Step.Recognizes (step : Step) (language : Language Char) : Prop :=
  ∀ (c : Cursor) (go : Continue), Blind go →
    ((step c go).isSome ↔ ∃ taken rest, c.after = taken ++ rest ∧ taken ∈ language ∧
      (go (.ofText rest)).isSome)

/-- So many texts of a language one after another, at least and at most. -/
def repeated (least : Nat) (most : Option Nat) (language : Language Char) : Language Char :=
  {text | ∃ n, least ≤ n ∧ (∀ m ∈ most, n ≤ m) ∧ text ∈ language ^ n}

theorem mem_repeated {least : Nat} {most : Option Nat} {language : Language Char}
    {text : List Char} : text ∈ repeated least most language ↔
      ∃ n, least ≤ n ∧ (∀ m ∈ most, n ≤ m) ∧ text ∈ language ^ n := Iff.rfl

theorem repeated_optional (language : Language Char) :
    repeated 0 (some 1) language = 1 + language := by
  ext text
  rw [mem_repeated, Language.mem_add]
  constructor
  · rintro ⟨n, -, few, member⟩
    have one := few 1 rfl
    obtain rfl | rfl : n = 0 ∨ n = 1 := by omega
    · exact .inl (by simpa using member)
    · exact .inr (by simpa using member)
  · rintro (member | member)
    · exact ⟨0, by simp, by simp, by simpa using member⟩
    · exact ⟨1, by simp, by simp, by simpa using member⟩

/-- The texts of one character with a property. -/
def single (holds : Char → Prop) : Language Char := {text | ∃ char, text = [char] ∧ holds char}

theorem mem_single {holds : Char → Prop} {text : List Char} :
    text ∈ single holds ↔ ∃ char, text = [char] ∧ holds char := Iff.rfl

theorem mem_pow_single {holds : Char → Prop} {n : Nat} {text : List Char} :
    text ∈ single holds ^ n ↔ text.length = n ∧ ∀ char ∈ text, holds char := by
  induction n generalizing text with
  | zero =>
    rw [pow_zero, Language.mem_one, List.length_eq_zero_iff, iff_self_and]
    rintro rfl _ ⟨⟩
  | succ n ih =>
    simp only [pow_succ', Language.mem_mul, mem_single, ih]
    constructor
    · rintro ⟨_, ⟨char, rfl, here⟩, others, ⟨rfl, hold⟩, rfl⟩
      exact ⟨rfl, List.forall_mem_cons.mpr ⟨here, hold⟩⟩
    · rintro ⟨long, hold⟩
      obtain ⟨char, others, rfl⟩ := List.exists_cons_of_length_eq_add_one long
      obtain ⟨here, hold⟩ := List.forall_mem_cons.mp hold
      exact ⟨[char], ⟨char, rfl, here⟩, others, ⟨Nat.succ.inj long, hold⟩, rfl⟩

namespace Pattern

/-- The texts that a regular pattern covers. -/
def language : Pattern → Language Char
  | empty => 1
  | one set => single fun char => set.contains char
  | seq first second => first.language * second.language
  | either first second => first.language + second.language
  | group _ body => body.language
  | loop least most _ body => repeated least most body.language
  | _ => 0

/-- Made of characters, compared as they stand, of groups, alternatives and repetitions. -/
def IsRegular : Pattern → Prop
  | empty => True
  | one set => set.fold = .exact
  | seq first second | either first second => first.IsRegular ∧ second.IsRegular
  | group _ body => body.IsRegular
  | loop least most _ body => (∀ m ∈ most, least ≤ m) ∧ body.IsRegular
  | _ => False

end Pattern

/-! ### Rounds -/

/-- A text of some rounds that is not empty has a first round that is not empty either. -/
theorem first_of_mem_pow {language : Language Char} {n : Nat} {text : List Char}
    (member : text ∈ language ^ n) (some : text ≠ []) :
    ∃ first others k, text = first ++ others ∧ first ≠ [] ∧ first ∈ language ∧
      others ∈ language ^ k ∧ k + 1 ≤ n := by
  induction n generalizing text with
  | zero => exact absurd ((Language.mem_one text).mp member) some
  | succ n ih =>
    rw [pow_succ'] at member
    obtain ⟨first, here, others, members, rfl⟩ := Language.mem_mul.mp member
    by_cases empty : first = []
    · subst empty
      obtain ⟨first, rest, k, split, moved, here, last, fewer⟩ := ih members some
      exact ⟨first, rest, k, split, moved, here, last, Nat.le_succ_of_le fewer⟩
    · exact ⟨first, others, n, rfl, empty, here, members, Nat.le_refl _⟩

theorem nil_mem_repeated (most : Option Nat) (language : Language Char) :
    [] ∈ repeated 0 most language := ⟨0, Nat.le_refl 0, fun _ _ => Nat.zero_le _, rfl⟩

theorem append_mem_repeated {language : Language Char} {most : Option Nat} {first others : List Char}
    (allowed : most ≠ some 0) (here : first ∈ language)
    (further : others ∈ repeated 0 (most.map (· - 1)) language) :
    first ++ others ∈ repeated 0 most language := by
  obtain ⟨n, -, few, members⟩ := further
  refine ⟨n + 1, Nat.zero_le _, ?_, ?_⟩
  · rintro m rfl
    have fewer := few (m - 1) rfl
    have positive : m ≠ 0 := fun zero => allowed (congrArg some zero)
    omega
  · rw [pow_succ']
    exact Language.mem_mul.mpr ⟨first, here, others, members, rfl⟩

/-- Rounds that take something begin with one that does. -/
theorem first_of_mem_repeated {language : Language Char} {most : Option Nat} {text : List Char}
    (member : text ∈ repeated 0 most language) (some : text ≠ []) :
    ∃ first others, text = first ++ others ∧ first ≠ [] ∧ first ∈ language ∧ most ≠ .some 0 ∧
      others ∈ repeated 0 (most.map (· - 1)) language := by
  obtain ⟨n, -, few, within⟩ := member
  obtain ⟨first, others, k, rfl, moved, here, last, fewer⟩ := first_of_mem_pow within some
  refine ⟨first, others, rfl, moved, here, ?_, k, Nat.zero_le _, ?_, last⟩
  · rintro rfl
    have none := few 0 rfl
    omega
  · intro m allowed
    obtain ⟨bound, rfl, rfl⟩ := Option.map_eq_some_iff.mp allowed
    have within := few bound rfl
    omega

/-- One round of some more: none is started, or one is and others follow. -/
theorem isSome_moreRounds (step : Step) (greedy : Bool) (fuel : Nat) (most started : Option Nat)
    (c : Cursor) (go : Continue) :
    (moreRounds step greedy (fuel + 1) most started c go).isSome ↔
      (go c).isSome ∨ (most ≠ some 0 ∧ started ≠ some c.after.length) ∧
        (step c fun next => moreRounds step greedy fuel (most.map (· - 1)) (some c.after.length)
          next go).isSome := by
  rw [moreRounds]
  by_cases ended : most = some 0 ∨ started = some c.after.length
  · have stopped : ¬ (most ≠ some 0 ∧ started ≠ some c.after.length) := by tauto
    cases greedy <;> simp [ended, stopped]
  · have free : most ≠ some 0 ∧ started ≠ some c.after.length := by tauto
    cases greedy <;> simp [free, or_comm]

/-- Where the last round has taken nothing, no other one is started. -/
theorem isSome_moreRounds_of_stay (step : Step) (greedy : Bool) (fuel : Nat) (most : Option Nat)
    {started : Option Nat} {c : Cursor} (stays : started = some c.after.length) (go : Continue) :
    (moreRounds step greedy fuel most started c go).isSome ↔ (go c).isSome := by
  cases fuel with
  | zero => rfl
  | succ fuel =>
    rw [isSome_moreRounds]
    simp [stays]

namespace Step.Recognizes
variable {step other : Step} {language others : Language Char}

theorem blind (recognizes : Recognizes step language) {go : Continue} (unseeing : Blind go) :
    Blind fun c => step c go := by
  intro a b same
  rw [Bool.eq_iff_iff, recognizes a go unseeing, recognizes b go unseeing, same]

theorem stay : Recognizes (fun c go => go c) 1 := by
  intro c go unseeing
  rw [unseeing c (.ofText c.after) rfl]
  constructor
  · exact fun goes => ⟨[], c.after, rfl, (Language.mem_one []).mpr rfl, goes⟩
  · rintro ⟨taken, rest, split, nothing, goes⟩
    obtain rfl := (Language.mem_one taken).mp nothing
    rwa [split]

theorem andThen (first : Recognizes step language) (second : Recognizes other others) :
    Recognizes (fun c go => step c fun c => other c go) (language * others) := by
  intro c go unseeing
  rw [first c _ (second.blind unseeing)]
  constructor
  · rintro ⟨here, rest, split, member, goesOn⟩
    obtain ⟨there, left, within, members, goes⟩ := (second _ go unseeing).mp goesOn
    obtain rfl : rest = there ++ left := within
    exact ⟨here ++ there, left, by rw [split, List.append_assoc],
      Language.mem_mul.mpr ⟨here, member, there, members, rfl⟩, goes⟩
  · rintro ⟨_, left, split, member, goes⟩
    obtain ⟨here, inside, there, members, rfl⟩ := Language.mem_mul.mp member
    rw [List.append_assoc] at split
    exact ⟨here, there ++ left, split, inside,
      (second _ go unseeing).mpr ⟨there, left, rfl, members, goes⟩⟩

theorem orElse (first : Recognizes step language) (second : Recognizes other others) :
    Recognizes (fun c go => (step c go <|> other c go)) (language + others) := by
  intro c go unseeing
  have both : (step c go <|> other c go).isSome ↔ (step c go).isSome ∨ (other c go).isSome := by
    simp
  rw [both, first c go unseeing, second c go unseeing]
  simp only [Language.mem_add]
  constructor
  · rintro (⟨taken, rest, split, member, goes⟩ | ⟨taken, rest, split, member, goes⟩)
    · exact ⟨taken, rest, split, .inl member, goes⟩
    · exact ⟨taken, rest, split, .inr member, goes⟩
  · rintro ⟨taken, rest, split, member | member, goes⟩
    · exact .inl ⟨taken, rest, split, member, goes⟩
    · exact .inr ⟨taken, rest, split, member, goes⟩

theorem rounds (recognizes : Recognizes step language) (n : Nat) :
    Recognizes (Regex.rounds step n) (language ^ n) := by
  induction n with
  | zero => exact stay
  | succ n ih =>
    rw [pow_succ']
    exact recognizes.andThen ih

theorem blind_moreRounds (recognizes : Recognizes step language) (greedy : Bool) {go : Continue}
    (unseeing : Blind go) (fuel : Nat) (most started : Option Nat) :
    Blind fun c => moreRounds step greedy fuel most started c go := by
  induction fuel generalizing most started with
  | zero => exact unseeing
  | succ fuel ih =>
    intro a b same
    have once := recognizes.blind (ih (most.map (· - 1)) (some b.after.length)) a b same
    rw [Bool.eq_iff_iff, isSome_moreRounds, isSome_moreRounds, unseeing a b same, same, once]

/-- Further rounds, where the last one was started elsewhere: with fuel for the text that is left they
are tried in all numbers that are allowed. -/
theorem moreRounds (recognizes : Recognizes step language) (greedy : Bool) {go : Continue}
    (unseeing : Blind go) {fuel : Nat} (most : Option Nat) {started : Option Nat} {c : Cursor}
    (enough : c.after.length < fuel) (moved : started ≠ some c.after.length) :
    (Regex.moreRounds step greedy fuel most started c go).isSome ↔
      ∃ taken rest, c.after = taken ++ rest ∧ taken ∈ repeated 0 most language ∧
        (go (.ofText rest)).isSome := by
  -- on the fuel: a round that takes something leaves a shorter text, and one that takes nothing is
  -- the last one
  induction fuel generalizing most started c with
  | zero => exact absurd enough (Nat.not_lt_zero _)
  | succ fuel ih =>
    have others := recognizes.blind_moreRounds greedy unseeing fuel (most.map (· - 1))
      (some c.after.length)
    rw [isSome_moreRounds, recognizes c _ others, unseeing c (.ofText c.after) rfl]
    have shorter : ∀ {first rest : List Char}, c.after = first ++ rest → first ≠ [] →
        rest.length < fuel ∧ some c.after.length ≠ some rest.length := by
      intro first rest split some
      have positive := List.length_pos_iff.mpr some
      rw [split, List.length_append] at enough ⊢
      simp only [ne_eq, Option.some.injEq]
      omega
    constructor
    · rintro (goes | ⟨⟨allowed, -⟩, first, rest, split, member, goesOn⟩)
      · exact ⟨[], c.after, rfl, nil_mem_repeated most language, goes⟩
      · by_cases empty : first = []
        · subst empty
          have stays : some c.after.length = some (Cursor.ofText rest).after.length :=
            congrArg (fun text => some text.length) split
          exact ⟨[], rest, split, nil_mem_repeated most language,
            (isSome_moreRounds_of_stay step greedy fuel _ stays go).mp goesOn⟩
        · obtain ⟨less, elsewhere⟩ := shorter split empty
          obtain ⟨taken, left, parted, further, goes⟩ :=
            (ih (most.map (· - 1)) less elsewhere).mp goesOn
          obtain rfl : rest = taken ++ left := parted
          exact ⟨first ++ taken, left, by rw [split, List.append_assoc],
            append_mem_repeated allowed member further, goes⟩
    · rintro ⟨taken, rest, split, members, goes⟩
      by_cases empty : taken = []
      · subst empty
        obtain rfl : c.after = rest := split
        exact .inl goes
      · obtain ⟨first, others, rfl, some, member, allowed, further⟩ :=
          first_of_mem_repeated members empty
        rw [List.append_assoc] at split
        obtain ⟨less, elsewhere⟩ := shorter split some
        exact .inr ⟨⟨allowed, moved⟩, first, others ++ rest, split, member,
          (ih (most.map (· - 1)) less elsewhere).mpr ⟨others, rest, rfl, further, goes⟩⟩

/-- Further rounds, with fuel for the text that is left. -/
theorem furtherRounds (recognizes : Recognizes step language) (greedy : Bool)
    (most : Option Nat) :
    Recognizes (fun c go => Regex.moreRounds step greedy (c.after.length + 1) most none c go)
      (repeated 0 most language) := fun _ _ unseeing =>
  recognizes.moreRounds greedy unseeing most (Nat.lt_succ_self _) (Option.some_ne_none _).symm

end Step.Recognizes

/-! ### Patterns -/

theorem mem_repeated_of_le {least : Nat} {most : Option Nat} (ordered : ∀ m ∈ most, least ≤ m)
    (language : Language Char) : repeated least most language =
      language ^ least * repeated 0 (most.map (· - least)) language := by
  ext text
  rw [mem_repeated, Language.mem_mul]
  constructor
  · rintro ⟨n, enough, few, member⟩
    obtain ⟨k, rfl⟩ := Nat.exists_eq_add_of_le enough
    rw [pow_add] at member
    obtain ⟨first, here, others, there, rfl⟩ := Language.mem_mul.mp member
    refine ⟨first, here, others, ⟨k, Nat.zero_le _, ?_, there⟩, rfl⟩
    intro m allowed
    obtain ⟨bound, rfl, rfl⟩ := Option.map_eq_some_iff.mp allowed
    have within := few bound rfl
    omega
  · rintro ⟨first, here, others, ⟨k, _, few, there⟩, rfl⟩
    refine ⟨least + k, Nat.le_add_right _ _, ?_, ?_⟩
    · rintro bound rfl
      have within := few (bound - least) rfl
      have order := ordered bound rfl
      omega
    · rw [pow_add]
      exact Language.mem_mul.mpr ⟨first, here, others, there, rfl⟩

namespace Pattern

theorem recognizes_one (set : CharSet) :
    Step.Recognizes (one set).run (single fun char => set.contains char) := by
  intro c go unseeing
  constructor
  · intro found
    cases next : c.after with
    | nil =>
      rw [run_one_of_end next] at found
      cases found
    | cons char rest =>
      rw [run_one_of_next next] at found
      split at found
      · rename_i member
        rw [unseeing (c.past char rest) (.ofText rest) rfl] at found
        exact ⟨[char], rest, rfl, ⟨char, rfl, member⟩, found⟩
      · cases found
  · rintro ⟨_, rest, split, ⟨char, rfl, member⟩, goes⟩
    have next : c.after = char :: rest := split
    rw [run_one_of_next next, if_pos member, unseeing (c.past char rest) (.ofText rest) rfl]
    exact goes

/-- A regular pattern recognizes its language, whatever it prefers. -/
theorem IsRegular.recognizes {p : Pattern} (regular : p.IsRegular) :
    Step.Recognizes p.run p.language := by
  induction p with
  | empty => exact .stay
  | one set => exact recognizes_one set
  | seq first second one two => exact (one regular.1).andThen (two regular.2)
  | either first second one two => exact (one regular.1).orElse (two regular.2)
  | group index body ih =>
    intro c go unseeing
    have noted : Blind fun next => go (next.captured index c) := fun _ _ same => unseeing _ _ same
    rw [run, ih regular c _ noted]
    have same : ∀ rest, (go ((Cursor.ofText rest).captured index c)).isSome =
        (go (.ofText rest)).isSome := fun rest => unseeing _ _ rfl
    simp only [same, language]
  | loop least most greedy body ih =>
    have step := ih regular.2
    rw [language, mem_repeated_of_le regular.1]
    exact (step.rounds least).andThen (step.furtherRounds greedy (most.map (· - least)))
  | _ => exact absurd regular id

end Pattern
end Upkeep.Regex
