import Mathlib.Data.Option.Basic
import Upkeep.Proofs.Regex.Brackets

/-! Patterns that shall cover a whole text. The text of a pattern is put into brackets as it is, so it
may close them itself. As long as only one alternative stands outside of all brackets, which is so for
every text that is a pattern by itself, the end of the text belongs to all of the pattern. -/
namespace Upkeep.Regex

/-! ### Matches -/

/-- The step succeeds only if what follows does somewhere. -/
def Step.Continues (step : Step) : Prop :=
  ∀ ⦃c go found⦄, step c go = some found → ∃ next, go next = some found

namespace Step.Continues
variable {step : Step}

theorem rounds (continues : Continues step) (n : Nat) : Continues (Regex.rounds step n) := by
  intro c go found matched
  induction n generalizing c with
  | zero => exact ⟨c, matched⟩
  | succ n ih =>
    obtain ⟨next, further⟩ := continues matched
    exact ih further

theorem moreRounds (continues : Continues step) (greedy : Bool) (fuel : Nat)
    (most started : Option Nat) : Continues (Regex.moreRounds step greedy fuel most started) := by
  intro c go found matched
  induction fuel generalizing c most started with
  | zero => exact ⟨c, matched⟩
  | succ fuel ih =>
    have further : ∀ {c : Cursor}, (if most = some 0 ∨ started = some c.after.length then none
        else step c fun next => Regex.moreRounds step greedy fuel (most.map (· - 1))
          (some c.after.length) next go) = some found → ∃ next, go next = some found := by
      intro c matched
      split at matched
      · cases matched
      · obtain ⟨next, others⟩ := continues matched
        exact ih _ _ others
    rw [Regex.moreRounds] at matched
    split at matched
    · rcases (Option.orElse_eq_some _ _ _).mp matched with more | ⟨-, ended⟩
      · exact further more
      · exact ⟨c, ended⟩
    · rcases (Option.orElse_eq_some _ _ _).mp matched with ended | ⟨-, more⟩
      · exact ⟨c, ended⟩
      · exact further more

end Step.Continues

namespace Pattern

theorem continues (p : Pattern) : Step.Continues p.run := by
  induction p with
  | empty => exact fun c go found matched => ⟨c, matched⟩
  | seq first second ih ih' =>
    intro c go found matched
    obtain ⟨next, further⟩ := ih matched
    exact ih' further
  | either first second ih ih' =>
    intro c go found matched
    rcases (Option.orElse_eq_some _ _ _).mp matched with here | ⟨-, there⟩
    · exact ih here
    · exact ih' there
  | group index body ih =>
    intro c go found matched
    obtain ⟨next, further⟩ := ih matched
    exact ⟨_, further⟩
  | loop least most greedy body ih =>
    intro c go found matched
    obtain ⟨next, further⟩ := ih.rounds least matched
    exact ih.moreRounds greedy _ _ _ further
  | given index yes no ih ih' =>
    intro c go found matched
    rw [run] at matched
    split at matched
    · exact ih matched
    · exact ih' matched
  | again index fold =>
    intro c go found matched
    rw [run] at matched
    split at matched
    · obtain ⟨next, -, further⟩ := Option.bind_eq_some_iff.mp matched
      exact ⟨next, further⟩
    · cases matched
  | _ =>
    intro c go found matched
    rw [run] at matched
    repeat' split at matched
    all_goals first | contradiction | exact ⟨_, matched⟩

end Pattern

/-- A pattern with the end of the text behind it leaves nothing of a text. -/
theorem Compiled.whole_of_stop {compiled : Compiled} {front : List Pattern}
    (pattern : compiled.pattern = .ofList (front ++ [.at .stop])) {text : List Char} {m : Match}
    (found : compiled.matchStart text = some m) : m.whole = text ∧ m.rest = [] := by
  obtain ⟨last, run, rfl⟩ := Option.map_eq_some_iff.mp found
  rw [pattern, Pattern.run_ofList_append] at run
  obtain ⟨next, stopped⟩ := (Pattern.ofList front).continues run
  rw [Pattern.run_stop] at stopped
  split at stopped
  · rename_i ended
    cases stopped
    refine ⟨?_, ended⟩
    simp only [ended, List.length_nil, Nat.sub_zero]
    exact List.take_length
  · cases stopped

/-! ### Tokens -/

/-- A closing bracket behind a text, unless a backslash at its end escapes it. -/
theorem tokens_closing (text more : List Char) :
    tokens (text ++ ')' :: more) = tokens text ++ .plain ')' :: tokens more ∨
      ∃ front, tokens text = front ++ [.dangling] ∧
        tokens (text ++ ')' :: more) = front ++ .escaped ')' :: tokens more := by
  fun_induction tokens text with
  | case1 => exact .inl (by simp [tokens])
  | case2 => exact .inr ⟨[], rfl, by simp [tokens]⟩
  | case3 c rest ih =>
    rcases ih with plain | ⟨front, dangles, escaped⟩
    · left
      simp [tokens, plain]
    · exact .inr ⟨.escaped c :: front, by simp [dangles], by simp [tokens, escaped]⟩
  | case4 c rest single slash ih =>
    have other : c ≠ '\\' := by
      rintro rfl
      cases rest with
      | nil => exact single rfl rfl
      | cons d rest => exact slash d rest rfl rfl
    have behind (tail : List Char) : tokens (c :: tail) = .plain c :: tokens tail := by
      simp [tokens, other]
    rw [List.cons_append, behind]
    rcases ih with plain | ⟨front, dangles, escaped⟩
    · exact .inl (by rw [plain, List.cons_append])
    · exact .inr ⟨.plain c :: front, by rw [dangles, List.cons_append],
        by rw [escaped, List.cons_append]⟩

/-- The text of a pattern in brackets, and the end of the text behind them. -/
def anchored (text : List Char) : List Token :=
  tokens ('(' :: '?' :: ':' :: text ++ [')', '\\', 'Z'])

theorem anchored_eq (text : List Char) : anchored text =
    .plain '(' :: .plain '?' :: .plain ':' :: tokens (text ++ [')', '\\', 'Z']) := by
  simp [anchored, tokens]

theorem anchored_ends (text : List Char) : [.escaped 'Z'] <:+ anchored text := by
  have last : tokens ['\\', 'Z'] = [.escaped 'Z'] := by simp [tokens]
  rw [anchored_eq]
  rcases tokens_closing text ['\\', 'Z'] with plain | ⟨front, -, escaped⟩
  · rw [plain, last]
    exact ⟨.plain '(' :: .plain '?' :: .plain ':' :: (tokens text ++ [.plain ')']), by simp⟩
  · rw [escaped, last]
    exact ⟨.plain '(' :: .plain '?' :: .plain ':' :: (front ++ [.escaped ')']), by simp⟩

/-! ### The outermost alternatives -/

/-- What is read outside of all brackets once the text has been put into its own. -/
def outside (text : List Char) : Result (List (List Pattern)) :=
  alternatives (3 * (anchored text).length + 3) .plain .empty (anchored text)

/-- The text is accepted, and no bar stands outside of all brackets. -/
def Confined (text : List Char) : Prop :=
  ((outside text).toOption.map fun result => result.1.length) = some 1

instance (text : List Char) : Decidable (Confined text) := inferInstanceAs (Decidable (_ = _))

theorem ofTokens_cases {ts : List Token} {compiled : Compiled} (accepted : ofTokens ts = .ok compiled) :
    ∃ preamble rest sequences scope,
      Preamble.ofTokens? (ts.length + 1) .empty ts = some (preamble, rest) ∧
      alternatives (3 * rest.length + 3) preamble.flags .empty rest = .ok (sequences, scope, []) ∧
      compiled.pattern = .ofList (Pattern.joined sequences) := by
  rw [ofTokens] at accepted
  split at accepted
  · cases accepted
  · rename_i preamble rest front
    split at accepted
    · cases accepted
    · rename_i sequences scope left read
      split at accepted
      · cases accepted
      · split at accepted
        · rename_i valid
          obtain ⟨ended, -⟩ := Bool.and_eq_true_iff.mp valid
          obtain rfl := List.isEmpty_iff.mp ended
          cases accepted
          exact ⟨preamble, rest, sequences, scope, front, read, rfl⟩
        · cases accepted

theorem compileAnchored_cases {text : List Char} {compiled : Compiled}
    (accepted : compileAnchored text = .ok compiled) : ∃ sequences scope,
      outside text = .ok (sequences, scope, []) ∧
      compiled.pattern = .ofList (Pattern.joined sequences) := by
  have accepted' : ofTokens (anchored text) = .ok compiled := accepted
  obtain ⟨preamble, rest, sequences, scope, front, read, pattern⟩ := ofTokens_cases accepted'
  have none : Preamble.ofTokens? ((anchored text).length + 1) .empty (anchored text) =
      some (.empty, anchored text) := by
    rw [anchored_eq]
    exact preamble_bracketed _ _
  cases none.symm.trans front
  exact ⟨sequences, scope, read, pattern⟩

/-- One alternative outside of all brackets ends where the text does. -/
theorem Confined.matchStart_whole {text : List Char} (confined : Confined text)
    {compiled : Compiled} (accepted : compileAnchored text = .ok compiled) {value : List Char}
    {m : Match} (found : compiled.matchStart value = some m) : m.whole = value ∧ m.rest = [] := by
  obtain ⟨sequences, scope, read, pattern⟩ := compileAnchored_cases accepted
  have special : ∀ c, Token.escaped 'Z' ≠ .plain c := by simp
  rcases alternatives_ending special (.inl rfl) read (anchored_ends text) with
    kept | ⟨-, inner, role, part, front, others, stands, rfl⟩
  · simp at kept
  · have single : others = [] := by
      rw [Confined, read] at confined
      simpa [Except.toOption] using confined
    have stop : part = .at .stop := by
      have same : some ((role, part), []) = some ((Role.place, Pattern.at .stop), []) :=
        stands.symm.trans rfl
      cases same
      rfl
    rw [single, stop] at pattern
    exact compiled.whole_of_stop pattern found

/-! ### Patterns by themselves -/

/-- Comments in front of the tokens, and how many of them there are. -/
inductive Comments : Nat → List Token → List Token → Prop
  | none (ts : List Token) : Comments 0 ts ts
  | cons {count : Nat} {inside rest left : List Token} (closes : skipComment? inside = some rest)
      (others : Comments count rest left) :
      Comments (count + 1) (.plain '(' :: .plain '?' :: .plain '#' :: inside) left

/-- Without any flags for the whole pattern only comments are taken. -/
theorem preamble_cases {fuel : Nat} {ts rest : List Token} {preamble : Preamble}
    (read : Preamble.ofTokens? fuel .empty ts = some (preamble, rest)) :
    (preamble = .empty ∧ ∃ count, Comments count ts rest) ∨
      ∃ count flagged on flags more, Comments count ts (.plain '(' :: .plain '?' :: flagged) ∧
        onFlags? [] .plain flagged = some (⟨.whole, on, flags⟩, more) := by
  induction fuel generalizing ts with
  | zero => cases read
  | succ fuel ih =>
    rw [Preamble.ofTokens?.eq_def] at read
    simp only at read
    split at read
    · split at read
      · rename_i closes
        rcases ih read with ⟨none, count, comments⟩ | ⟨count, flagged, on, flags, more, comments, listed⟩
        · exact .inl ⟨none, count + 1, .cons closes comments⟩
        · exact .inr ⟨count + 1, flagged, on, flags, more, .cons closes comments, listed⟩
      · cases read
    · split at read
      · rename_i listed
        exact .inr ⟨0, _, _, _, _, .none _, listed⟩
      · cases read
        exact .inl ⟨rfl, 0, .none _⟩
    · have verbose : Preamble.empty.flags.verbose = false := rfl
      simp only [verbose, Bool.false_and, Bool.false_eq_true, if_false] at read
      cases read
      exact .inl ⟨rfl, 0, .none _⟩
    · cases read
      exact .inl ⟨rfl, 0, .none _⟩

namespace Comments
variable {count : Nat} {ts rest : List Token}

theorem length_le (comments : Comments count ts rest) : count + rest.length ≤ ts.length := by
  induction comments with
  | none ts => simp
  | cons closes others ih =>
    have shorter := (stops_skipComment? closes).1.suffix.length_le
    simp only [List.length_cons]
    omega

theorem sequence_eq (comments : Comments count ts rest) (fuel : Nat) (flags : Flags) (scope : Scope)
    (parts : Parts) (more : List Token) :
    sequence (fuel + count) flags scope parts (ts ++ .plain ')' :: more) =
      sequence fuel flags scope parts (rest ++ .plain ')' :: more) := by
  induction comments with
  | none ts => rfl
  | cons closes others ih =>
    rw [← ih]
    exact Advance.sequence_eq (.comment rfl ((stops_skipComment? closes).2 more))

end Comments

/-- Comments in front of alternatives, and a closing bracket behind them. -/
theorem Comments.alternatives_eq {count : Nat} {ts rest : List Token}
    (comments : Comments count ts rest) {fuel : Nat} {flags : Flags} {scope after : Scope}
    {found : List (List Pattern)} (blanks : flags.verbose = false)
    (read : alternatives fuel flags scope rest = .ok (found, after, [])) {greater : Nat}
    (enough : fuel + count ≤ greater) (more : List Token) :
    alternatives greater flags scope (ts ++ .plain ')' :: more) =
      .ok (found, after, .plain ')' :: more) := by
  cases fuel with
  | zero => cases read
  | succ fuel =>
    obtain ⟨left, rfl⟩ : ∃ n, greater = n + count + 1 := ⟨greater - count - 1, by omega⟩
    have steady : ∀ n ≤ fuel, SteadyBrackets n := fun n _ => steadyBrackets n
    rcases alternatives_eq_ok.mp read with ⟨first, others, between, behind, start, goes, rfl⟩ |
      ⟨only, start, ended, rfl⟩
    · have here := (sequence_steady steady start).2 (by simp) left (by omega) more
      have there := (alternatives_steady steady goes).2 (fun _ => blanks) (left + count) (by omega) more
      rw [← comments.sequence_eq] at here
      exact alternatives_eq_ok.mpr (.inl ⟨first, others, between, _, here, there, rfl⟩)
    · have here := (sequence_steady steady start).2 (fun _ => blanks) left (by omega) more
      rw [← comments.sequence_eq] at here
      exact alternatives_eq_ok.mpr (.inr ⟨only, here, by simp, rfl⟩)

/-- A backslash at the end is never part of a pattern. -/
theorem preamble_keeps {fuel : Nat} {ts rest : List Token} {preamble preamble' : Preamble}
    (read : Preamble.ofTokens? fuel preamble ts = some (preamble', rest))
    (ends : [.dangling] <:+ ts) : [.dangling] <:+ rest := by
  have special : ∀ c, Token.dangling ≠ .plain c := by simp
  induction fuel generalizing preamble ts with
  | zero => cases read
  | succ fuel ih =>
    rw [Preamble.ofTokens?.eq_def] at read
    simp only at read
    split at read
    · split at read
      · rename_i closes
        have behind := (stops_skipComment? closes).1.cons (.plain '#')
        exact ih read (((behind.cons _).cons _).keeps special ends)
      · cases read
    · split at read
      · rename_i listed
        have behind := (stops_onFlags? _ _ listed).1.cons (.plain '?')
        exact ih read ((behind.cons _).keeps special ends)
      · cases read
        exact ends
    · have kept := (behind_plain _ _).keeps special ends
      split at read
      · exact ih read kept
      · split at read
        · exact ih read (skipLine_keeps kept)
        · cases read
          exact ends
    · cases read
      exact ends

theorem tokens_of_compile {text : List Char} {own : Compiled} (alone : compile text = .ok own)
    (more : List Char) : tokens (text ++ ')' :: more) = tokens text ++ .plain ')' :: tokens more := by
  rcases tokens_closing text more with plain | ⟨front, dangles, -⟩
  · exact plain
  · obtain ⟨preamble, rest, sequences, scope, begins, read, -⟩ := ofTokens_cases alone
    have kept := preamble_keeps begins ⟨front, dangles.symm⟩
    rcases alternatives_ending (by simp) (.inr rfl) read kept with
      kept | ⟨-, inner, role, part, _, _, stands, -⟩
    · simp at kept
    · cases stands

/-- The tokens of a pattern in brackets of their own. -/
theorem anchored_of_compile {text : List Char} {own : Compiled} (alone : compile text = .ok own) :
    anchored text = bracketedTokens (tokens text) ++ [.escaped 'Z'] := by
  rw [anchored_eq, tokens_of_compile alone]
  simp [bracketedTokens, tokens]

section
variable {ts rest : List Token} {count : Nat}

/-- Alternatives in brackets are a single part, and with the end of the text a single alternative. -/
theorem alternatives_of_comments (comments : Comments count ts rest) {scope : Scope}
    {sequences : List (List Pattern)}
    (read : alternatives (3 * rest.length + 3) .plain .empty rest = .ok (sequences, scope, [])) :
    alternatives (3 * (bracketedTokens ts ++ [Token.escaped 'Z']).length + 3) .plain .empty
        (bracketedTokens ts ++ [.escaped 'Z']) =
      .ok ([Pattern.joined sequences ++ [.at .stop]], scope, []) := by
  have shorter := comments.length_le
  have opens : ∀ more, opening? .plain ([.plain '?', .plain ':'] ++ (ts ++ .plain ')' :: more)) =
      some (.plain, ts ++ .plain ')' :: more) := fun _ => rfl
  have inside : ∀ (fuel : Nat) (more : List Token), 3 * (ts ++ .plain ')' :: more).length + 1 < fuel →
      bracketed (fuel + 1) .plain .empty .plain (ts ++ .plain ')' :: more) =
        .ok (Pattern.joined sequences, scope, more) := by
    intro fuel more enough
    simp only [List.length_append, List.length_cons] at enough
    exact bracketed_plain (comments.alternatives_eq rfl read (by omega) more)
  have adds : Adds (bracketedTokens ts) [.escaped 'Z'] .empty scope .other
      (Pattern.joined sequences) := adds_brackets opens inside _
  exact alternatives_anchored adds (by omega)

/-- Flags for the whole pattern are refused in brackets. -/
theorem alternatives_of_flags {flagged more : List Token} {on : List Char} {flags : Flags}
    (comments : Comments count ts (.plain '(' :: .plain '?' :: flagged))
    (listed : onFlags? [] .plain flagged = some (⟨.whole, on, flags⟩, more)) :
    alternatives (3 * (bracketedTokens ts ++ [Token.escaped 'Z']).length + 3) .plain .empty
        (bracketedTokens ts ++ [.escaped 'Z']) = .error .invalid := by
  have shorter := comments.length_le
  -- Five readers go in, one after another, before the comments are passed over.
  have enough : ∃ fuel, 3 * (bracketedTokens ts ++ [Token.escaped 'Z']).length + 3 =
      fuel + 1 + count + 1 + 1 + 1 + 1 := by
    refine ⟨3 * (bracketedTokens ts ++ [Token.escaped 'Z']).length + 3 - count - 5, ?_⟩
    simp only [bracketedTokens, List.length_append, List.length_cons] at shorter ⊢
    omega
  obtain ⟨fuel, enough⟩ := enough
  have opens : opening? .plain (.plain '?' :: flagged ++ .plain ')' :: [.escaped 'Z']) = none := by
    obtain ⟨c, letter, others, rfl⟩ := head_of_onFlags? listed
    have again := (stops_onFlags? [] .plain listed).2 [.escaped 'Z']
    rw [List.cons_append] at again
    rw [List.cons_append, List.cons_append, opening?_flags letter, again]
  have refused : sequence (fuel + 1 + count) .plain .empty []
      (ts ++ .plain ')' :: [.escaped 'Z']) = .error .invalid := by
    rw [comments.sequence_eq, List.cons_append, sequence, opens]
  have inner : alternatives (fuel + 1 + count + 1) .plain .empty
      (ts ++ .plain ')' :: [.escaped 'Z']) = .error .invalid := by
    rw [alternatives, refused]
  have bracket : bracketed (fuel + 1 + count + 1 + 1) .plain .empty .plain
      (ts ++ .plain ')' :: [.escaped 'Z']) = .error .invalid := by
    rw [bracketed, inner]
    rfl
  have start : opening? .plain (.plain '?' :: .plain ':' :: (ts ++ .plain ')' :: [.escaped 'Z'])) =
      some (.plain, ts ++ .plain ')' :: [.escaped 'Z']) := rfl
  rw [enough, bracketedTokens]
  simp only [List.cons_append, List.append_assoc, List.nil_append]
  rw [alternatives, sequence, start]
  simp only [bracket]

end

/-- A text that is a pattern by itself keeps to its brackets. -/
theorem confined_of_compile {text : List Char} {own compiled : Compiled}
    (alone : compile text = .ok own) (accepted : compileAnchored text = .ok compiled) :
    Confined text := by
  obtain ⟨preamble, rest, sequences, scope, begins, read, -⟩ := ofTokens_cases alone
  rcases preamble_cases begins with ⟨rfl, count, comments⟩ |
    ⟨count, flagged, on, flags, more, comments, listed⟩
  · rw [Confined, outside, anchored_of_compile alone, alternatives_of_comments comments read]
    rfl
  · obtain ⟨_, _, read, -⟩ := compileAnchored_cases accepted
    rw [outside, anchored_of_compile alone, alternatives_of_flags comments listed] at read
    cases read

end Upkeep.Regex
