import Mathlib.Tactic.ByContra
import Upkeep.Regex.Reader

/-! The steps of a sequence. Each takes a part, a comment, blanks or a quantifier from the front of
the tokens; the sequence goes on behind it until it comes to its end. What is shown of one step
carries over to sequences, alternatives and brackets by induction on the fuel. -/
namespace Upkeep.Regex

/-- The end of a sequence. -/
def Ends (rest : List Token) : Prop :=
  rest = [] ∨ ∃ others, rest = .plain '|' :: others ∨ rest = .plain ')' :: others

/-- A token that is a part of a sequence by itself, with what it takes from behind. -/
def Ordinary (flags : Flags) (t : Token) (rest : List Token) : Prop :=
  ∀ c, t = .plain c → c ∉ ['|', ')', '(', '['] ∧
    (flags.verbose → isLayout c = false ∧ c ≠ '#') ∧ Quantifier.read c rest = .ok none

/-- A quantifier begins with a sign of its own. -/
theorem mark_of_read {c : Char} {more : List Token} {found : Quantifier × List Token}
    (reads : Quantifier.read c more = .ok (some found)) :
    c ∉ ['|', ')', '(', '['] ∧ isLayout c = false ∧ c ≠ '#' := by
  have mark : c ∈ ['?', '*', '+', '{'] := by
    by_contra other
    simp only [List.mem_cons, List.not_mem_nil, or_false, not_or] at other
    simp [Quantifier.read, other] at reads
  simp only [List.mem_cons, List.not_mem_nil, or_false] at mark
  rcases mark with rfl | rfl | rfl | rfl <;> decide

/-- One step of a sequence: the scope, the parts and the tokens before it and behind it. -/
inductive Advance (fuel : Nat) (flags : Flags) :
    Scope → Parts → List Token → Scope → Parts → List Token → Prop
  | comment {scope parts opened inside rest}
      (opens : opening? flags opened = some (.comment, inside))
      (closes : skipComment? inside = some rest) :
      Advance fuel flags scope parts (.plain '(' :: opened) scope parts rest
  | again {scope parts opened name index rest}
      (opens : opening? flags opened = some (.again name, rest))
      (known : scope.names.lookup name = some index) (complete : scope.mayRepeat index) :
      Advance fuel flags scope parts (.plain '(' :: opened)
        scope ((.other, [.again index flags.fold]) :: parts) rest
  | brackets {scope after parts part opened opening inside rest}
      (opens : opening? flags opened = some (opening, inside))
      (reads : bracketed fuel flags scope opening inside = .ok (part, after, rest)) :
      Advance fuel flags scope parts (.plain '(' :: opened) after ((.other, part) :: parts) rest
  | set {scope parts inside set rest} (found : charSet? flags inside = some (set, rest)) :
      Advance fuel flags scope parts (.plain '[' :: inside)
        scope ((.other, [.one set]) :: parts) rest
  | layout {scope parts c rest} (verbose : flags.verbose) (blank : isLayout c) :
      Advance fuel flags scope parts (.plain c :: rest) scope parts rest
  | remark {scope parts rest} (verbose : flags.verbose) :
      Advance fuel flags scope parts (.plain '#' :: rest) scope parts (skipLine rest)
  | repeated {scope parts parts' c more quantifier behind rest}
      (reads : Quantifier.read c more = .ok (some (quantifier, behind)))
      (repeats : parts.repeated? quantifier behind = some (parts', rest)) :
      Advance fuel flags scope parts (.plain c :: more) (scope.repeating flags) parts' rest
  | simple {scope parts t more role part rest} (ordinary : Ordinary flags t more)
      (found : simple? flags scope t more = some ((role, part), rest)) :
      Advance fuel flags scope parts (t :: more) scope ((role, [part]) :: parts) rest

section
variable {fuel : Nat} {flags : Flags} {scope : Scope} {parts : Parts} {ts : List Token}

/-- A sequence that is read ends where it stands, or goes on behind a step. -/
theorem sequence_cases {result : List Pattern × Scope × List Token}
    (read : sequence (fuel + 1) flags scope parts ts = .ok result) :
    (Ends ts ∧ result = (parts.patterns, scope, ts)) ∨
      ∃ scope' parts' ts', Advance fuel flags scope parts ts scope' parts' ts' ∧
        sequence fuel flags scope' parts' ts' = .ok result := by
  rw [sequence.eq_def] at read
  simp only at read
  split at read
  · exact .inl ⟨.inl rfl, (Except.ok.inj read).symm⟩
  · exact .inl ⟨.inr ⟨_, .inl rfl⟩, (Except.ok.inj read).symm⟩
  · exact .inl ⟨.inr ⟨_, .inr rfl⟩, (Except.ok.inj read).symm⟩
  · split at read
    · cases read
    · rename_i opens
      split at read
      · rename_i closes
        exact .inr ⟨_, _, _, .comment opens closes, read⟩
      · cases read
    · rename_i opens
      split at read
      · rename_i known
        split at read
        · rename_i complete
          exact .inr ⟨_, _, _, .again opens known complete, read⟩
        · cases read
      · cases read
    · rename_i opens
      split at read
      · rename_i reads
        exact .inr ⟨_, _, _, .brackets opens reads, read⟩
      · cases read
  · split at read
    · rename_i found
      exact .inr ⟨_, _, _, .set found, read⟩
    · cases read
  · split at read
    · split at read
      · rename_i blank
        obtain ⟨verbose, layout⟩ := Bool.and_eq_true_iff.mp blank
        exact .inr ⟨_, _, _, .layout verbose layout, read⟩
      · rename_i unblank
        split at read
        · rename_i hash
          obtain ⟨verbose, remark⟩ := Bool.and_eq_true_iff.mp hash
          obtain rfl := of_decide_eq_true remark
          exact .inr ⟨_, _, _, .remark verbose, read⟩
        · rename_i bar closing opening bracket unhashed
          split at read
          · cases read
          · rename_i reads
            split at read
            · rename_i repeats
              exact .inr ⟨_, _, _, .repeated reads repeats, read⟩
            · cases read
          · rename_i reads
            split at read
            · rename_i found
              refine .inr ⟨_, _, _, .simple ?_ found, read⟩
              rintro _ ⟨⟩
              refine ⟨?_, ?_, reads⟩
              · simp_all
              · simp_all
            · cases read
    · rename_i other
      split at read
      · rename_i found
        exact .inr ⟨_, _, _, .simple (fun c plain => (other c plain).elim) found, read⟩
      · cases read

variable {scope' : Scope} {parts' : Parts} {ts' : List Token}

theorem sequence_of_ends (ends : Ends ts) :
    sequence (fuel + 1) flags scope parts ts = .ok (parts.patterns, scope, ts) := by
  rcases ends with rfl | ⟨others, rfl | rfl⟩ <;> rw [sequence]

theorem Advance.sequence_eq (step : Advance fuel flags scope parts ts scope' parts' ts') :
    sequence (fuel + 1) flags scope parts ts = sequence fuel flags scope' parts' ts' := by
  cases step with
  | comment opens closes => simp only [sequence, opens, closes]
  | again opens known complete => simp only [sequence, opens, known, complete, if_true]
  | brackets opens reads =>
    rename_i opening inside
    cases fuel with
    | zero => cases reads
    | succ fuel =>
      cases opening with
      | comment => cases reads
      | again name => cases reads
      | _ => simp only [sequence, opens, reads]
  | set found => simp only [sequence, found]
  | layout verbose blank =>
    rw [sequence]
    · simp only [verbose, blank, Bool.and_self, if_true]
    all_goals
      rintro ⟨⟩
      exact absurd blank (by decide)
  | remark verbose => simp [sequence, verbose, isLayout]
  | repeated reads repeats =>
    obtain ⟨unbound, solid, unhashed⟩ := mark_of_read reads
    rw [sequence]
    · simp [reads, repeats, solid, unhashed]
    all_goals
      rintro ⟨⟩
      exact absurd unbound (by decide)
  | simple ordinary found =>
    rename_i t more role part
    cases t with
    | plain c =>
      obtain ⟨unbound, solid, single⟩ := ordinary c rfl
      rw [sequence]
      · cases verbose : flags.verbose with
        | false => simp [single, found]
        | true => simp [solid verbose, single, found]
      all_goals
        rintro ⟨⟩
        exact absurd unbound (by decide)
    | escaped c =>
      rw [sequence]
      · simp only [found]
      all_goals simp
    | dangling => cases found

end
end Upkeep.Regex
