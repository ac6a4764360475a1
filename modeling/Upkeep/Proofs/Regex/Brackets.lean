import Upkeep.Proofs.Regex.Openings

/-! Sequences, alternatives and brackets. What they read stays the same if a closing bracket follows and
if there is more fuel, and brackets stop behind the one that closes them. So a last token that is not
plain, such as the end of the text, belongs to the last sequence outside of all brackets. -/
namespace Upkeep.Regex

/-! ### Steps -/

theorem skipLine_suffix (ts : List Token) : skipLine ts <:+ ts := by
  fun_induction skipLine ts with
  | case1 => exact List.suffix_refl _
  | case2 => exact List.suffix_cons _ _
  | case3 => exact List.suffix_refl _
  | case4 t ts newline dangling ih => exact ih.trans (List.suffix_cons _ _)

theorem skipLine_append {ts : List Token} (some : skipLine ts ≠ []) (more : List Token) :
    skipLine (ts ++ more) = skipLine ts ++ more := by
  fun_induction skipLine ts with
  | case1 => exact absurd rfl some
  | case2 => rfl
  | case3 => rfl
  | case4 t ts newline dangling ih =>
    rw [List.cons_append, skipLine, ih some]
    · exact newline
    · exact dangling

/-- What a step leaves, and that it is taken behind a closing bracket as well. -/
def SteadyBrackets (fuel : Nat) : Prop :=
  ∀ ⦃flags scope opening ts part after rest⦄,
    bracketed fuel flags scope opening ts = .ok (part, after, rest) → Behind ts rest ∧
      ∀ greater, fuel ≤ greater → ∀ more,
        bracketed greater flags scope opening (ts ++ .plain ')' :: more) =
          .ok (part, after, rest ++ .plain ')' :: more)

section
variable {fuel : Nat} {flags : Flags} {scope scope' : Scope} {parts parts' : Parts}
  {ts ts' : List Token}

theorem Advance.steady (steady : SteadyBrackets fuel)
    (step : Advance fuel flags scope parts ts scope' parts' ts') :
    ts' <:+ ts ∧ ((ts' = [] → flags.verbose = false) →
      ∀ greater, fuel ≤ greater → ∀ more, Advance greater flags scope parts
        (ts ++ .plain ')' :: more) scope' parts' (ts' ++ .plain ')' :: more)) := by
  cases step with
  | comment opens closes =>
    obtain ⟨spares, further⟩ := steady_opening? flags opens
    obtain ⟨behind, further'⟩ := stops_skipComment? closes
    refine ⟨(behind.suffix.trans spares.suffix).trans (List.suffix_cons _ _),
      fun _ greater _ more => .comment (further more) (further' more)⟩
  | again opens known complete =>
    obtain ⟨spares, further⟩ := steady_opening? flags opens
    exact ⟨spares.suffix.trans (List.suffix_cons _ _),
      fun _ greater _ more => .again (further more) known complete⟩
  | brackets opens reads =>
    obtain ⟨spares, further⟩ := steady_opening? flags opens
    obtain ⟨behind, further'⟩ := steady reads
    exact ⟨(behind.suffix.trans spares.suffix).trans (List.suffix_cons _ _),
      fun _ greater enough more => .brackets (further more) (further' greater enough more)⟩
  | set found =>
    obtain ⟨behind, further⟩ := stops_charSet? flags found
    exact ⟨behind.suffix.trans (List.suffix_cons _ _), fun _ greater _ more => .set (further more)⟩
  | layout verbose blank =>
    exact ⟨List.suffix_cons _ _, fun _ greater _ more => .layout verbose blank⟩
  | remark verbose =>
    rename_i rest
    refine ⟨(skipLine_suffix rest).trans (List.suffix_cons _ _), fun goes greater _ more => ?_⟩
    have some : skipLine rest ≠ [] := fun empty => by simp [goes empty] at verbose
    rw [← skipLine_append some]
    exact .remark verbose
  | repeated reads repeats =>
    obtain ⟨spares, further⟩ := read_closing reads
    obtain ⟨spares', further'⟩ := steady_repeated? parts _ repeats
    exact ⟨(spares'.suffix.trans (spares _ _ rfl).suffix).trans (List.suffix_cons _ _),
      fun _ greater _ more => .repeated (further more) (further' more)⟩
  | simple ordinary found =>
    obtain ⟨spares, further⟩ := steady_simple? flags scope _ found
    refine ⟨spares.suffix.trans (List.suffix_cons _ _), fun _ greater _ more => .simple ?_ (further more)⟩
    intro c plain
    obtain ⟨unbound, solid, single⟩ := ordinary c plain
    exact ⟨unbound, solid, (read_closing single).2 more⟩

/-! ### Brackets -/

/-- Brackets that hold alternatives, with the flags and the scope inside of them and what is made of
what is read there. -/
structure Bracket where
  flags : Flags
  scope : Scope
  part : List Pattern → Scope → List Pattern
  after : List Pattern → Scope → Scope

def Bracket.read (b : Bracket) (fuel : Nat) (ts : List Token) : Result (List Pattern) :=
  (alternatives fuel b.flags b.scope ts).joined.map fun (parts, scope, rest) =>
    (b.part parts scope, b.after parts scope, rest)

/-- Brackets hold alternatives, are a condition, or are not read at all. -/
theorem bracketed_cases (flags : Flags) (scope : Scope) (opening : Opening) :
    (∃ b : Bracket, ∀ fuel ts, bracketed (fuel + 1) flags scope opening ts = b.read fuel ts) ∨
    (∃ name index inner, opening = .condition name ∧ condition? scope name = some (index, inner)) ∨
    ∀ fuel ts, bracketed (fuel + 1) flags scope opening ts = .error .invalid := by
  cases opening with
  | group name =>
    cases opened : scope.opened? name with
    | none => exact .inr (.inr fun fuel ts => by simp only [bracketed, opened])
    | some inner =>
      exact .inl ⟨⟨flags, inner, fun parts _ => [.group inner.widths.length (.ofList parts)],
        fun parts after => after.closed inner.widths.length (.ofList parts)⟩,
        fun fuel ts => by simp only [bracketed, opened]; rfl⟩
  | plain =>
    refine .inl ⟨⟨flags, scope, fun parts _ => parts, fun _ after => after⟩, fun fuel ts => ?_⟩
    simp only [bracketed, Bracket.read]
    cases (alternatives fuel flags scope ts).joined <;> rfl
  | flagged own =>
    exact .inl ⟨⟨own, scope, fun parts _ => [.sealed (.ofList parts)], fun _ after => after⟩,
      fun fuel ts => rfl⟩
  | atomic =>
    exact .inl ⟨⟨flags, scope, fun parts _ => [.atomic (.ofList parts)], fun _ after => after⟩,
      fun fuel ts => rfl⟩
  | ahead positive =>
    exact .inl ⟨⟨flags, scope, fun parts _ => [.ahead positive (.ofList parts)],
      fun _ after => after⟩, fun fuel ts => rfl⟩
  | behind positive =>
    exact .inl ⟨⟨flags, scope.lookingBehind, fun parts after =>
        [.behind positive ((Pattern.ofList parts).width after.widths).least (.ofList parts)],
      fun parts after => scope.lookedBehind after ((Pattern.ofList parts).width after.widths)⟩,
      fun fuel ts => rfl⟩
  | condition name =>
    cases asked : condition? scope name with
    | none => exact .inr (.inr fun fuel ts => by simp only [bracketed, asked])
    | some found => exact .inr (.inl ⟨name, found.1, found.2, rfl, asked⟩)
  | again name => exact .inr (.inr fun fuel ts => rfl)
  | comment => exact .inr (.inr fun fuel ts => rfl)

theorem Result.closed_eq_ok {α : Type} {result : Result α} {found : α} {after : Scope}
    {rest : List Token} : result.closed = .ok (found, after, rest) ↔
      result = .ok (found, after, .plain ')' :: rest) := by
  constructor
  · intro read
    unfold Result.closed at read
    split at read
    · cases read
      rfl
    · cases read
    · cases read
  · rintro rfl
    rfl

theorem map_eq_ok {ε α β : Type} {f : α → β} {result : Except ε α} {value : β} :
    result.map f = .ok value ↔ ∃ given, result = .ok given ∧ f given = value := by
  cases result <;> simp [Except.map]

theorem Bracket.read_eq_ok {b : Bracket} {part : List Pattern} {after : Scope} {rest : List Token} :
    b.read fuel ts = .ok (part, after, rest) ↔ ∃ found inner,
      alternatives fuel b.flags b.scope ts = .ok (found, inner, .plain ')' :: rest) ∧
        b.part (Pattern.joined found) inner = part ∧ b.after (Pattern.joined found) inner = after := by
  rw [Bracket.read, map_eq_ok]
  constructor
  · rintro ⟨⟨parts, inner, left⟩, read, same⟩
    obtain ⟨⟨found, _, _⟩, closed, same'⟩ := map_eq_ok.mp read
    cases same'
    cases same
    exact ⟨found, inner, Result.closed_eq_ok.mp closed, rfl, rfl⟩
  · rintro ⟨found, inner, read, rfl, rfl⟩
    have closed := Result.closed_eq_ok.mpr read
    exact ⟨_, map_eq_ok.mpr ⟨_, closed, rfl⟩, rfl⟩

theorem condition_eq_ok {name : List Char} {index : Nat} {inner after : Scope}
    {part : List Pattern} {rest : List Token} (asked : condition? scope name = some (index, inner)) :
    bracketed (fuel + 1) flags scope (.condition name) ts = .ok (part, after, rest) ↔
      (∃ yes no between behind,
        sequence fuel flags inner [] ts = .ok (yes, between, .plain '|' :: behind) ∧
        sequence fuel flags between [] behind = .ok (no, after, .plain ')' :: rest) ∧
        part = [.given index (.ofList yes) (.ofList no)]) ∨
      ∃ yes, sequence fuel flags inner [] ts = .ok (yes, after, .plain ')' :: rest) ∧
        part = [.given index (.ofList yes) .empty] := by
  rw [bracketed]
  simp only [asked]
  constructor
  · intro read
    split at read
    · rename_i yes between behind first
      obtain ⟨⟨no, _, _⟩, closed, same⟩ := map_eq_ok.mp read
      cases same
      exact .inl ⟨yes, no, between, behind, first, Result.closed_eq_ok.mp closed, rfl⟩
    · obtain ⟨⟨yes, _, _⟩, closed, same⟩ := map_eq_ok.mp read
      cases same
      exact .inr ⟨yes, Result.closed_eq_ok.mp closed, rfl⟩
  · rintro (⟨yes, no, between, behind, first, second, rfl⟩ | ⟨yes, only, rfl⟩)
    · simp only [first, second]
      rfl
    · simp only [only]
      rfl

theorem alternatives_eq_ok {found : List (List Pattern)} {after : Scope} {rest : List Token} :
    alternatives (fuel + 1) flags scope ts = .ok (found, after, rest) ↔
      (∃ first others between behind,
        sequence fuel flags scope [] ts = .ok (first, between, .plain '|' :: behind) ∧
        alternatives fuel flags between behind = .ok (others, after, rest) ∧
        found = first :: others) ∨
      ∃ only, sequence fuel flags scope [] ts = .ok (only, after, rest) ∧
        rest.head? ≠ some (.plain '|') ∧ found = [only] := by
  rw [alternatives]
  constructor
  · intro read
    split at read
    · cases read
    · rename_i first between behind start
      obtain ⟨⟨others, _, _⟩, goes, same⟩ := map_eq_ok.mp read
      cases same
      exact .inl ⟨first, others, between, behind, start, goes, rfl⟩
    · rename_i only _ _ ended start
      cases read
      exact .inr ⟨only, start, head?_ne ended, rfl⟩
  · rintro (⟨first, others, between, behind, start, goes, rfl⟩ | ⟨only, start, ended, rfl⟩)
    · simp only [start, goes]
      rfl
    · rw [start]
      split
      · contradiction
      · rename_i same
        cases same
        exact absurd rfl ended
      · rename_i same
        cases same
        rfl

/-! ### Steadiness -/

theorem steady_zero : SteadyBrackets 0 := by
  intro flags scope opening ts part after rest read
  cases read

theorem sequence_steady (steady : ∀ n ≤ fuel, SteadyBrackets n) {found : List Pattern} {after : Scope}
    {rest : List Token} (read : sequence fuel flags scope parts ts = .ok (found, after, rest)) :
    rest <:+ ts ∧ ((rest = [] → flags.verbose = false) → ∀ greater, fuel ≤ greater → ∀ more,
      sequence greater flags scope parts (ts ++ .plain ')' :: more) =
        .ok (found, after, rest ++ .plain ')' :: more)) := by
  induction fuel generalizing scope parts ts with
  | zero => cases read
  | succ fuel ih =>
    rcases sequence_cases read with ⟨ends, same⟩ | ⟨scope', parts', ts', step, goes⟩
    · cases same
      refine ⟨List.suffix_refl _, fun _ greater enough more => ?_⟩
      obtain ⟨greater, rfl⟩ := Nat.exists_eq_add_of_le' (Nat.zero_lt_of_lt enough)
      refine sequence_of_ends ?_
      rcases ends with rfl | ⟨others, rfl | rfl⟩
      · exact .inr ⟨more, .inr rfl⟩
      · exact .inr ⟨_, .inl rfl⟩
      · exact .inr ⟨_, .inr rfl⟩
    · obtain ⟨suffix, further⟩ := step.steady (steady fuel (Nat.le_succ fuel))
      obtain ⟨suffix', further'⟩ := ih (fun n less => steady n (Nat.le_succ_of_le less)) goes
      refine ⟨suffix'.trans suffix, fun seen greater enough more => ?_⟩
      obtain ⟨greater, rfl⟩ := Nat.exists_eq_add_of_le' (Nat.zero_lt_of_lt enough)
      have fewer := Nat.le_of_succ_le_succ enough
      have empty : ts' = [] → flags.verbose = false := by
        rintro rfl
        exact seen (List.suffix_nil.mp suffix')
      rw [(further empty greater fewer more).sequence_eq]
      exact further' seen greater fewer more

theorem alternatives_steady (steady : ∀ n ≤ fuel, SteadyBrackets n) {found : List (List Pattern)}
    {after : Scope} {rest : List Token}
    (read : alternatives fuel flags scope ts = .ok (found, after, rest)) :
    rest <:+ ts ∧ ((rest = [] → flags.verbose = false) → ∀ greater, fuel ≤ greater → ∀ more,
      alternatives greater flags scope (ts ++ .plain ')' :: more) =
        .ok (found, after, rest ++ .plain ')' :: more)) := by
  induction fuel generalizing scope ts found with
  | zero => cases read
  | succ fuel ih =>
    have less : ∀ n ≤ fuel, SteadyBrackets n := fun n less => steady n (Nat.le_succ_of_le less)
    rcases alternatives_eq_ok.mp read with ⟨first, others, between, behind, start, goes, rfl⟩ |
      ⟨only, start, ended, rfl⟩
    · obtain ⟨suffix, further⟩ := sequence_steady less start
      obtain ⟨suffix', further'⟩ := ih less goes
      refine ⟨suffix'.trans ((List.suffix_cons _ _).trans suffix), fun seen greater enough more => ?_⟩
      obtain ⟨greater, rfl⟩ := Nat.exists_eq_add_of_le' (Nat.zero_lt_of_lt enough)
      have fewer := Nat.le_of_succ_le_succ enough
      exact alternatives_eq_ok.mpr (.inl ⟨first, others, between, _,
        further (by simp) greater fewer more, further' seen greater fewer more, rfl⟩)
    · obtain ⟨suffix, further⟩ := sequence_steady less start
      refine ⟨suffix, fun seen greater enough more => ?_⟩
      obtain ⟨greater, rfl⟩ := Nat.exists_eq_add_of_le' (Nat.zero_lt_of_lt enough)
      exact alternatives_eq_ok.mpr (.inr ⟨only, further seen greater (Nat.le_of_succ_le_succ enough) more,
        head?_closing ended (by decide) more, rfl⟩)

theorem steady_succ (steady : ∀ n ≤ fuel, SteadyBrackets n) : SteadyBrackets (fuel + 1) := by
  intro flags scope opening ts part after rest read
  rcases bracketed_cases flags scope opening with ⟨b, same⟩ | ⟨name, index, inner, rfl, asked⟩ | fails
  · rw [same] at read
    obtain ⟨found, inner, inside, rfl, rfl⟩ := Bracket.read_eq_ok.mp read
    obtain ⟨suffix, further⟩ := alternatives_steady steady inside
    refine ⟨⟨_, suffix⟩, fun greater enough more => ?_⟩
    obtain ⟨greater, rfl⟩ := Nat.exists_eq_add_of_le' (Nat.zero_lt_of_lt enough)
    rw [same]
    exact Bracket.read_eq_ok.mpr ⟨found, inner,
      further (by simp) greater (Nat.le_of_succ_le_succ enough) more, rfl, rfl⟩
  · rcases (condition_eq_ok asked).mp read with ⟨yes, no, between, behind, first, second, rfl⟩ |
      ⟨yes, only, rfl⟩
    · obtain ⟨suffix, further⟩ := sequence_steady steady first
      obtain ⟨suffix', further'⟩ := sequence_steady steady second
      refine ⟨⟨_, (suffix'.trans (List.suffix_cons _ _)).trans suffix⟩, fun greater enough more => ?_⟩
      obtain ⟨greater, rfl⟩ := Nat.exists_eq_add_of_le' (Nat.zero_lt_of_lt enough)
      have fewer := Nat.le_of_succ_le_succ enough
      exact (condition_eq_ok asked).mpr (.inl ⟨yes, no, between, _,
        further (by simp) greater fewer more, further' (by simp) greater fewer more, rfl⟩)
    · obtain ⟨suffix, further⟩ := sequence_steady steady only
      refine ⟨⟨_, suffix⟩, fun greater enough more => ?_⟩
      obtain ⟨greater, rfl⟩ := Nat.exists_eq_add_of_le' (Nat.zero_lt_of_lt enough)
      exact (condition_eq_ok asked).mpr
        (.inr ⟨yes, further (by simp) greater (Nat.le_of_succ_le_succ enough) more, rfl⟩)
  · rw [fails] at read
    cases read

theorem steadyBrackets (fuel : Nat) : SteadyBrackets fuel := by
  induction fuel using Nat.strong_induction_on with
  | h fuel ih =>
    cases fuel with
    | zero => exact steady_zero
    | succ fuel => exact steady_succ fun n less => ih n (Nat.lt_succ_of_le less)

/-! ### The last token -/

section
variable {last : Token} {after : Scope} {rest : List Token}

/-- A backslash that ends the text is no part of a remark. -/
theorem skipLine_keeps {ts : List Token} (ends : [.dangling] <:+ ts) :
    [.dangling] <:+ skipLine ts := by
  have past {t : Token} {ts : List Token} (ends : [.dangling] <:+ t :: ts) (other : t ≠ .dangling) :
      [.dangling] <:+ ts := by
    rcases List.suffix_cons_iff.mp ends with same | kept
    · exact absurd (List.cons.inj same).1.symm other
    · exact kept
  fun_induction skipLine ts with
  | case1 => exact ends
  | case2 rest => exact past ends (by simp)
  | case3 => exact ends
  | case4 t ts newline dangling ih => exact ih (past ends dangling)

/-- A step leaves the last token or is made of it, unless a remark may hold it. -/
theorem Advance.keeps (special : ∀ c, last ≠ .plain c)
    (blanks : flags.verbose = false ∨ last = .dangling)
    (step : Advance fuel flags scope parts ts scope' parts' ts') (ends : [last] <:+ ts) :
    [last] <:+ ts' ∨ ts' = [] ∧ ∃ role part,
      simple? flags scope last [] = some ((role, part), []) ∧ parts' = (role, [part]) :: parts := by
  cases step with
  | comment opens closes =>
    have behind := (stops_skipComment? closes).1.of_suffix (steady_opening? flags opens).1.suffix
    exact .inl ((behind.cons _).keeps special ends)
  | again opens known complete =>
    exact .inl (((steady_opening? flags opens).1.behind_cons _).keeps special ends)
  | brackets opens reads =>
    have behind := (steadyBrackets fuel reads).1.of_suffix (steady_opening? flags opens).1.suffix
    exact .inl ((behind.cons _).keeps special ends)
  | set found => exact .inl (((stops_charSet? flags found).1.cons _).keeps special ends)
  | layout verbose blank => exact .inl ((behind_plain _ _).keeps special ends)
  | remark verbose =>
    rcases blanks with never | rfl
    · simp [never] at verbose
    · exact .inl (skipLine_keeps ((behind_plain _ _).keeps special ends))
  | repeated reads repeats =>
    have spares := ((read_closing reads).1 _ _ rfl).trans (steady_repeated? parts _ repeats).1
    exact .inl ((spares.behind_cons _).keeps special ends)
  | simple ordinary found =>
    have spares := (steady_simple? flags scope _ found).1
    rcases List.suffix_cons_iff.mp ends with same | kept
    · cases same
      obtain rfl : ts' = [] := List.suffix_nil.mp spares.suffix
      exact .inr ⟨rfl, _, _, found, rfl⟩
    · rcases spares with rfl | behind
      · exact .inl kept
      · exact .inl (behind.keeps special kept)

/-- A sequence that ends with the last token ends with what this token stands for. -/
theorem sequence_ending (special : ∀ c, last ≠ .plain c)
    (blanks : flags.verbose = false ∨ last = .dangling)
    {found : List Pattern} (read : sequence fuel flags scope parts ts = .ok (found, after, rest))
    (ends : [last] <:+ ts) : [last] <:+ rest ∨ rest = [] ∧ ∃ inner role part front,
      simple? flags inner last [] = some ((role, part), []) ∧ found = front ++ [part] := by
  induction fuel generalizing scope parts ts with
  | zero => cases read
  | succ fuel ih =>
    rcases sequence_cases read with ⟨-, same⟩ | ⟨scope', parts', ts', step, goes⟩
    · cases same
      exact .inl ends
    · rcases step.keeps special blanks ends with kept | ⟨rfl, role, part, stands, rfl⟩
      · exact ih goes kept
      · cases fuel with
        | zero => cases goes
        | succ fuel =>
          rw [sequence_of_ends (.inl rfl)] at goes
          cases goes
          exact .inr ⟨rfl, scope, role, part, Parts.patterns parts, stands, by simp [Parts.patterns]⟩

theorem alternatives_ending (special : ∀ c, last ≠ .plain c)
    (blanks : flags.verbose = false ∨ last = .dangling)
    {found : List (List Pattern)}
    (read : alternatives fuel flags scope ts = .ok (found, after, rest)) (ends : [last] <:+ ts) :
    [last] <:+ rest ∨ rest = [] ∧ ∃ inner role part front others,
      simple? flags inner last [] = some ((role, part), []) ∧
        found = others ++ [front ++ [part]] := by
  induction fuel generalizing scope ts found with
  | zero => cases read
  | succ fuel ih =>
    rcases alternatives_eq_ok.mp read with ⟨first, others, between, behind, start, goes, rfl⟩ |
      ⟨only, start, -, rfl⟩
    · have kept : [last] <:+ behind := by
        rcases sequence_ending special blanks start ends with kept | ⟨none, -⟩
        · exact (behind_plain '|' behind).keeps special kept
        · cases none
      rcases ih goes kept with kept | ⟨rfl, inner, role, part, front, before, stands, rfl⟩
      · exact .inl kept
      · exact .inr ⟨rfl, inner, role, part, front, first :: before, stands, rfl⟩
    · rcases sequence_ending special blanks start ends with
        kept | ⟨rfl, inner, role, part, front, stands, rfl⟩
      · exact .inl kept
      · exact .inr ⟨rfl, inner, role, part, front, [], stands, rfl⟩

end
end
end Upkeep.Regex
