import Upkeep.Proofs.Regex.Language

/-! Sequences of patterns and alternatives of sequences. What alternatives have in common in front
is taken out of them, and single characters are made one set; neither changes the language. -/
namespace Upkeep.Regex

/-- A sequence of regular patterns covers the texts of a language. -/
structure Covers (parts : List Pattern) (language : Language Char) : Prop where
  regular : ∀ p ∈ parts, p.IsRegular
  language : (Pattern.ofList parts).language = language

/-- The texts of all alternatives. -/
def languages (alternatives : List (List Pattern)) : Language Char :=
  (alternatives.map fun parts => (Pattern.ofList parts).language).sum

namespace CharSet

/-- Without case, a set holds what one of its parts holds, or else all the other characters. -/
theorem contains_of_exact {set : CharSet} (exact : set.fold = .exact) (char : Char) :
    set.contains char = (set.items.any (·.contains char.toNat) != set.negated) := by
  have unvaried : set.items.any (·.varies .exact) = false := by
    rw [List.any_eq_false]
    intro item _
    cases item <;> simp [SetItem.varies, Fold.varies]
  have listed : set.lists char.toNat = set.items.any (·.contains char.toNat) := by
    rw [lists]
    split
    · rename_i letter single
      simp [single, exact, containsLetter, Fold.varies, SetItem.contains]
    · rw [exact, unvaried]
      rfl
  rw [contains, listed]

theorem contains_union {first : CharSet} {rest : List CharSet}
    (exact : ∀ set ∈ first :: rest, set.fold = .exact)
    (positive : ∀ set ∈ first :: rest, set.negated = false) (char : Char) :
    (first.union rest).contains char ↔ ∃ set ∈ first :: rest, set.contains char := by
  have here := List.forall_mem_cons.mp exact
  have plain := List.forall_mem_cons.mp positive
  rw [contains_of_exact (show (first.union rest).fold = .exact from here.1)]
  have side : ∀ set ∈ rest, set.contains char = set.items.any (·.contains char.toNat) := by
    intro set member
    rw [contains_of_exact (here.2 set member), plain.2 set member, Bool.bne_false]
  have whole : (first.union rest).negated = false := plain.1
  rw [whole, Bool.bne_false, List.exists_mem_cons_iff, contains_of_exact here.1, plain.1,
    Bool.bne_false]
  simp only [union, List.any_eq_true, List.mem_eraseDups, List.mem_append, List.mem_flatMap]
  constructor
  · rintro ⟨item, held | ⟨set, member, held⟩, holds⟩
    · exact .inl ⟨item, held, holds⟩
    · refine .inr ⟨set, member, ?_⟩
      rw [side set member, List.any_eq_true]
      exact ⟨item, held, holds⟩
  · rintro (⟨item, held, holds⟩ | ⟨set, member, holds⟩)
    · exact ⟨item, .inl held, holds⟩
    · rw [side set member, List.any_eq_true] at holds
      obtain ⟨item, held, holds⟩ := holds
      exact ⟨item, .inr ⟨set, member, held⟩, holds⟩

end CharSet

namespace Pattern

/-! ### Sequences -/

theorem run_ofList_append (first second : List Pattern) (c : Cursor) (go : Continue) :
    (ofList (first ++ second)).run c go =
      (ofList first).run c fun c => (ofList second).run c go := by
  induction first generalizing c with
  | nil => rfl
  | cons p rest ih => simp only [List.cons_append, run_ofList_cons, ih]

@[simp] theorem language_ofList_cons (p : Pattern) (rest : List Pattern) :
    (ofList (p :: rest)).language = p.language * (ofList rest).language := by
  cases rest with
  | nil => exact (mul_one p.language).symm
  | cons q rest => rfl

theorem language_ofList_append (first second : List Pattern) :
    (ofList (first ++ second)).language = (ofList first).language * (ofList second).language := by
  induction first with
  | nil => exact (one_mul _).symm
  | cons p rest ih => rw [List.cons_append, language_ofList_cons, language_ofList_cons, ih, mul_assoc]

theorem isRegular_ofList {parts : List Pattern} (regular : ∀ p ∈ parts, p.IsRegular) :
    (ofList parts).IsRegular := by
  induction parts with
  | nil => trivial
  | cons p rest ih =>
    obtain ⟨here, others⟩ := List.forall_mem_cons.mp regular
    cases rest with
    | nil => exact here
    | cons q rest => exact ⟨here, ih others⟩

/-! ### Alternatives -/

theorem set?_eq_some_iff {parts : List Pattern} {set : CharSet} :
    set? parts = some set ↔ parts = [.one set] ∧ set.negated = false := by
  rw [set?.eq_def]
  split
  · rename_i other
    cases negated : other.negated
    · simp only [Bool.false_eq_true, if_false, Option.some.injEq, List.cons.injEq, one.injEq,
        and_true]
      refine ⟨?_, fun same => same.1⟩
      rintro rfl
      exact ⟨rfl, negated⟩
    · simp only [if_true, reduceCtorEq, List.cons.injEq, one.injEq, and_true, false_iff, not_and]
      rintro rfl
      simp [negated]
  · rename_i other
    simp only [reduceCtorEq, false_iff, not_and]
    rintro rfl
    exact absurd rfl (other set)

theorem mapM_set?_eq_some {alternatives : List (List Pattern)} {sets : List CharSet}
    (found : alternatives.mapM set? = some sets) :
    alternatives = sets.map (fun set => [.one set]) ∧ ∀ set ∈ sets, set.negated = false := by
  induction alternatives generalizing sets with
  | nil =>
    obtain rfl : [] = sets := Option.some.inj found
    simp
  | cons parts rest ih =>
    rw [List.mapM_cons] at found
    obtain ⟨set, here, others⟩ := Option.bind_eq_some_iff.mp found
    obtain ⟨more, there, same⟩ := Option.bind_eq_some_iff.mp others
    obtain rfl : set :: more = sets := Option.some.inj same
    obtain ⟨rfl, positive⟩ := set?_eq_some_iff.mp here
    obtain ⟨rfl, positives⟩ := ih there
    exact ⟨rfl, List.forall_mem_cons.mpr ⟨positive, positives⟩⟩

theorem language_firstOf (first : List Pattern) (others : List (List Pattern)) :
    (firstOf first others).language = languages (first :: others) := by
  induction others generalizing first with
  | nil => exact (add_zero (ofList first).language).symm
  | cons next rest ih =>
    rw [firstOf, Pattern.language, ih]
    rfl

theorem isRegular_firstOf {first : List Pattern} {others : List (List Pattern)}
    (regular : ∀ parts ∈ first :: others, ∀ p ∈ parts, p.IsRegular) :
    (firstOf first others).IsRegular := by
  induction others generalizing first with
  | nil => exact isRegular_ofList (regular first List.mem_cons_self)
  | cons next rest ih =>
    exact ⟨isRegular_ofList (regular first List.mem_cons_self),
      ih fun parts member => regular parts (List.mem_cons_of_mem _ member)⟩

theorem mem_languages {alternatives : List (List Pattern)} {text : List Char} :
    text ∈ languages alternatives ↔ ∃ parts ∈ alternatives, text ∈ (ofList parts).language := by
  induction alternatives with
  | nil => simp [languages]
  | cons parts rest ih =>
    rw [List.exists_mem_cons_iff, ← ih]
    exact Language.mem_add _ _ _

/-- Every sequence is made of regular patterns. -/
def AllRegular (alternatives : List (List Pattern)) : Prop :=
  ∀ parts ∈ alternatives, ∀ p ∈ parts, p.IsRegular

theorem language_union {first : CharSet} {rest : List CharSet}
    (exact : ∀ set ∈ first :: rest, set.fold = .exact)
    (positive : ∀ set ∈ first :: rest, set.negated = false) :
    (one (first.union rest)).language =
      languages ((first :: rest).map fun set => [.one set]) := by
  ext text
  rw [mem_languages, language, mem_single]
  simp only [CharSet.contains_union exact positive]
  constructor
  · rintro ⟨char, rfl, set, member, holds⟩
    exact ⟨_, List.mem_map_of_mem member, char, rfl, holds⟩
  · rintro ⟨parts, inside, covered⟩
    obtain ⟨set, member, rfl⟩ := List.mem_map.mp inside
    obtain ⟨char, rfl, holds⟩ : text ∈ single fun char => set.contains char := covered
    exact ⟨char, rfl, set, member, holds⟩

theorem covers_branch {first : List Pattern} {others : List (List Pattern)}
    (regular : AllRegular (first :: others)) :
    Covers [branch first others] (languages (first :: others)) := by
  rw [branch]
  split
  · rename_i set sets one all
    obtain ⟨rfl, positive⟩ := set?_eq_some_iff.mp one
    obtain ⟨rfl, positives⟩ := mapM_set?_eq_some all
    have exact : ∀ other ∈ set :: sets, other.fold = .exact := by
      intro other member
      exact regular [.one other] (List.mem_map_of_mem (f := fun set => [Pattern.one set]) member)
        _ List.mem_cons_self
    refine ⟨?_, ?_⟩
    · rw [List.forall_mem_singleton]
      exact exact set List.mem_cons_self
    · exact language_union exact (List.forall_mem_cons.mpr ⟨positive, positives⟩)
  · refine ⟨?_, language_firstOf first others⟩
    rw [List.forall_mem_singleton]
    exact isRegular_firstOf regular

theorem eq_of_alike {p q : Pattern} (regular : p.IsRegular) (alike : p.alike q) : p = q := by
  cases p with
  | one set =>
    cases q with
    | one other => simpa [Pattern.alike] using alike
    | _ => simp [Pattern.alike] at alike
  | «at» place => exact absurd regular id
  | again index fold => exact absurd regular id
  | _ => simp [Pattern.alike] at alike

/-- What all alternatives begin with may be taken out of them. -/
theorem languages_of_common {head : Pattern} {alternatives : List (List Pattern)}
    (common : ∀ parts ∈ alternatives, ∃ tail, parts = head :: tail) :
    languages alternatives = head.language * languages (alternatives.map List.tail) := by
  induction alternatives with
  | nil => exact (mul_zero _).symm
  | cons parts rest ih =>
    obtain ⟨⟨tail, rfl⟩, others⟩ := List.forall_mem_cons.mp common
    have here : languages ((head :: tail) :: rest) =
        (ofList (head :: tail)).language + languages rest := rfl
    have there : languages (((head :: tail) :: rest).map List.tail) =
        (ofList tail).language + languages (rest.map List.tail) := rfl
    rw [here, there, language_ofList_cons, ih others, mul_add]

theorem AllRegular.tails {alternatives : List (List Pattern)} (regular : AllRegular alternatives) :
    AllRegular (alternatives.map List.tail) := by
  intro parts member p inside
  obtain ⟨whole, there, rfl⟩ := List.mem_map.mp member
  exact regular whole there p (List.mem_of_mem_tail inside)

theorem covers_choice {first : List Pattern} {others : List (List Pattern)}
    (regular : AllRegular (first :: others)) :
    Covers (choice first others) (languages (first :: others)) := by
  induction first generalizing others with
  | nil => exact covers_branch regular
  | cons head tail ih =>
    rw [choice]
    split
    · rename_i common
      have shared : ∀ parts ∈ (head :: tail) :: others, ∃ rest, parts = head :: rest := by
        rw [List.forall_mem_cons]
        refine ⟨⟨tail, rfl⟩, fun parts member => ?_⟩
        have begins := List.all_eq_true.mp common parts member
        cases parts with
        | nil => simp at begins
        | cons other rest =>
          have same := eq_of_alike (regular _ List.mem_cons_self head List.mem_cons_self) begins
          exact ⟨rest, by rw [same]⟩
      have covers := ih regular.tails
      refine ⟨List.forall_mem_cons.mpr ⟨?_, covers.regular⟩, ?_⟩
      · exact regular _ List.mem_cons_self head List.mem_cons_self
      · rw [language_ofList_cons, covers.language, languages_of_common shared]
        rfl
    · exact covers_branch regular

/-- Alternatives as one sequence. -/
theorem covers_joined {alternatives : List (List Pattern)} (some : alternatives ≠ [])
    (regular : AllRegular alternatives) : Covers (joined alternatives) (languages alternatives) := by
  cases alternatives with
  | nil => exact absurd rfl some
  | cons first others =>
    cases others with
    | nil => exact ⟨regular first List.mem_cons_self, (add_zero _).symm⟩
    | cons second rest => exact covers_choice regular

end Pattern

namespace Covers
variable {parts others : List Pattern} {language other : Language Char}

theorem nil : Covers [] 1 := ⟨List.forall_mem_nil _, rfl⟩

theorem append (first : Covers parts language) (second : Covers others other) :
    Covers (parts ++ others) (language * other) where
  regular := List.forall_mem_append.mpr ⟨first.regular, second.regular⟩
  language := by rw [Pattern.language_ofList_append, first.language, second.language]

theorem whole (covers : Covers parts language) : (Pattern.ofList parts).IsRegular :=
  Pattern.isRegular_ofList covers.regular

/-- The sequence and then what matches nowhere but at the end of the text. -/
theorem run_ending (covers : Covers parts language) {last : List Pattern}
    (ends : ∀ c, ((Pattern.ofList last).run c some).isSome ↔ c.after = []) (c : Cursor) :
    ((Pattern.ofList (parts ++ last)).run c some).isSome ↔ c.after ∈ language := by
  have unseeing : Blind fun c => (Pattern.ofList last).run c some := by
    intro a b same
    rw [Bool.eq_iff_iff, ends, ends, same]
  rw [Pattern.run_ofList_append, covers.whole.recognizes _ _ unseeing, covers.language]
  constructor
  · rintro ⟨taken, rest, split, member, ended⟩
    obtain rfl : rest = [] := (ends _).mp ended
    rw [List.append_nil] at split
    exact split ▸ member
  · intro member
    exact ⟨c.after, [], (List.append_nil c.after).symm, member, (ends _).mpr rfl⟩

theorem run_stop (covers : Covers parts language) (c : Cursor) :
    ((Pattern.ofList (parts ++ [.at .stop])).run c some).isSome ↔ c.after ∈ language := by
  apply covers.run_ending
  intro c
  rw [Pattern.run_stop]
  split <;> simp_all

end Covers
end Upkeep.Regex
