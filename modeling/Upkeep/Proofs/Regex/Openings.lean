import Upkeep.Proofs.Regex.Steadiness

/-! Openings of brackets, quantifiers and single tokens: what they take and what they leave. Neither
depends on a closing bracket behind the tokens. -/
namespace Upkeep.Regex

section
variable {ts rest : List Token}

/-! ### Openings -/

theorem stops_skipComment? (skipped : skipComment? ts = some rest) : Behind ts rest ∧
    ∀ more, skipComment? (ts ++ .plain ')' :: more) = some (rest ++ .plain ')' :: more) := by
  induction ts with
  | nil => cases skipped
  | cons t ts ih =>
    rw [skipComment?.eq_def] at skipped
    split at skipped
    · contradiction
    · rename_i same
      cases same
      cases skipped
      exact ⟨behind_plain _ _, fun more => rfl⟩
    · rename_i other same
      cases same
      obtain ⟨behind, further⟩ := ih skipped
      refine ⟨behind.cons _, fun more => ?_⟩
      rw [List.cons_append, skipComment?, further]
      exact other

theorem stops_offFlags? (on : List Char) (flags : Flags) (any : Bool) :
    Stops (offFlags? on flags any) := by
  intro ts found rest read
  induction ts generalizing flags any with
  | nil => cases read
  | cons t ts ih =>
    cases t with
    | plain c =>
      rw [offFlags?] at read
      split at read
      · rename_i colon
        cases read
        exact ⟨behind_plain _ _, fun more => by rw [List.cons_append, offFlags?, if_pos colon]⟩
      · rename_i other
        split at read
        · cases read
        · rename_i off
          split at read
          · rename_i flags' known
            obtain ⟨behind, further⟩ := ih flags' true read
            refine ⟨behind.cons _, fun more => ?_⟩
            rw [List.cons_append, offFlags?, if_neg other, if_neg off]
            simp only [known, further]
          · cases read
    | _ => cases read

theorem stops_onFlags? (on : List Char) (flags : Flags) : Stops (onFlags? on flags) := by
  intro ts found rest read
  induction ts generalizing on flags with
  | nil => cases read
  | cons t ts ih =>
    cases t with
    | plain c =>
      rw [onFlags?] at read
      simp only [List.cons_append, onFlags?]
      split at read
      · rename_i closing
        cases read
        exact ⟨behind_plain _ _, fun more => if_pos closing⟩
      · rename_i inside
        simp only [inside, Bool.false_eq_true, if_false]
        split at read
        · rename_i minus
          simp only [minus, if_true]
          split at read
          · cases read
          · rename_i off
            simp only [off, Bool.false_eq_true, if_false]
            obtain ⟨behind, further⟩ := (stops_offFlags? on flags false).map _ read
            exact ⟨behind.cons _, further⟩
        · rename_i plus
          simp only [plus, if_false]
          split at read
          · rename_i colon
            simp only [colon, if_true]
            split at read
            · cases read
            · rename_i off
              cases read
              exact ⟨behind_plain _ _, fun more => if_neg off⟩
          · rename_i other
            simp only [other, Bool.false_eq_true, if_false]
            split at read
            · rename_i flags' known
              obtain ⟨behind, further⟩ := ih (c :: on) flags' read
              exact ⟨behind.cons _, further⟩
            · cases read
    | _ => cases read

theorem head_of_onFlags? {flags : Flags} {found : FlagList}
    (read : onFlags? [] flags ts = some (found, rest)) :
    ∃ c ∈ ['-', 'a', 'u', 't', 'i', 'm', 's', 'x'], ∃ others, ts = .plain c :: others := by
  cases ts with
  | nil => cases read
  | cons t others =>
    cases t with
    | plain c =>
      refine ⟨c, ?_, others, rfl⟩
      by_contra unknown
      simp only [List.mem_cons, List.not_mem_nil, or_false, not_or] at unknown
      simp [onFlags?, unknown, Flags.turnOn?, Flags.set?] at read
    | _ => cases read

theorem opening?_flags {flags : Flags} {c : Char}
    (letter : c ∈ ['-', 'a', 'u', 't', 'i', 'm', 's', 'x']) (ts : List Token) :
    opening? flags (.plain '?' :: .plain c :: ts) =
      match onFlags? [] flags (.plain c :: ts) with
      | some (⟨.group, _, flags⟩, rest) => some (.flagged flags, rest)
      | _ => none := by
  simp only [List.mem_cons, List.not_mem_nil, or_false] at letter
  rcases letter with rfl | rfl | rfl | rfl | rfl | rfl | rfl | rfl <;> rfl

theorem steady_opening? (flags : Flags) : Steady (opening? flags) := by
  intro ts found rest read
  unfold opening? at read
  split at read
  · split at read
    · cases read
      refine ⟨.inr ((behind_plain _ _).cons _), fun more => rfl⟩
    · cases read
      refine ⟨.inr ((behind_plain _ _).cons _), fun more => rfl⟩
    · cases read
      refine ⟨.inr ((behind_plain _ _).cons _), fun more => rfl⟩
    · cases read
      refine ⟨.inr ((behind_plain _ _).cons _), fun more => rfl⟩
    · cases read
      refine ⟨.inr ((behind_plain _ _).cons _), fun more => rfl⟩
    · cases read
      refine ⟨.inr (((behind_plain _ _).cons _).cons _), fun more => rfl⟩
    · cases read
      refine ⟨.inr (((behind_plain _ _).cons _).cons _), fun more => rfl⟩
    · obtain ⟨behind, further⟩ := (stops_nameUntil? ')').map Opening.condition read
      exact ⟨.inr ((behind.cons _).cons _), further⟩
    · split at read
      · rename_i name left named
        split at read
        · rename_i identifier
          cases read
          obtain ⟨behind, further⟩ := stops_nameUntil? '>' named
          refine ⟨.inr (((behind.cons _).cons _).cons _), fun more => ?_⟩
          simp only [List.cons_append, opening?, further, identifier, if_true]
        · cases read
      · cases read
    · obtain ⟨behind, further⟩ := (stops_nameUntil? ')').map Opening.again read
      exact ⟨.inr (((behind.cons _).cons _).cons _), further⟩
    · split at read
      · rename_i listed
        cases read
        obtain ⟨behind, further⟩ := stops_onFlags? [] flags listed
        refine ⟨.inr (behind.cons _), fun more => ?_⟩
        obtain ⟨c, letter, others, rfl⟩ := head_of_onFlags? listed
        have again := further more
        rw [List.cons_append] at again
        rw [List.cons_append, List.cons_append, opening?_flags letter, again]
      · cases read
  · rename_i group
    cases read
    refine ⟨.inl rfl, fun more => ?_⟩
    rw [opening?]
    cases ts with
    | nil => simp
    | cons t ts =>
      rintro inside ⟨⟩
      exact group ts rfl

/-! ### Quantifiers -/

theorem steady_digits {cs : List Char} (read : digits ts = (cs, rest)) : Spares ts rest ∧
    ∀ more, digits (ts ++ .plain ')' :: more) = (cs, rest ++ .plain ')' :: more) := by
  have taken (greater : Nat) (enough : ts.length ≤ greater) :=
    steady_takePlain (by decide) (.inr ⟨Nat.le_refl _, enough⟩) read
  exact ⟨(taken _ (Nat.le_refl _)).1, fun more => (taken _ (by simp)).2 more⟩

theorem steady_upperBound {low high : List Char} (read : upperBound low ts = (high, rest)) :
    Spares ts rest ∧
      ∀ more, upperBound low (ts ++ .plain ')' :: more) = (high, rest ++ .plain ')' :: more) := by
  rw [upperBound.eq_def] at read
  split at read
  · obtain ⟨spares, further⟩ := steady_digits read
    exact ⟨.inr (spares.behind_cons _), further⟩
  · rename_i single
    cases read
    refine ⟨.inl rfl, fun more => ?_⟩
    rw [upperBound]
    rintro inside start
    cases ts with
    | nil => simp at start
    | cons t ts =>
      cases start
      exact single ts rfl

theorem inBraces_closing {found : Option (Quantifier × List Token)}
    (read : Quantifier.inBraces ts = .ok found) :
    (∀ q rest, found = some (q, rest) → Spares ts rest) ∧
      ∀ more, Quantifier.inBraces (ts ++ .plain ')' :: more) =
        .ok (found.map fun (q, rest) => (q, rest ++ .plain ')' :: more)) := by
  rcases lower : digits ts with ⟨low, after⟩
  rcases upper : upperBound low after with ⟨high, left⟩
  obtain ⟨spares, further⟩ := steady_digits lower
  obtain ⟨spares', further'⟩ := steady_upperBound upper
  rw [inBraces_of_bounds lower upper] at read
  have apart : Token.plain '}' ≠ .plain ')' := by decide
  by_cases ordinary : ts.head? = some (.plain '}') ∨ left.head? ≠ some (.plain '}')
  · rw [if_pos ordinary] at read
    cases read
    refine ⟨by simp, fun more => ?_⟩
    rw [inBraces_of_bounds (further more) (further' more), if_pos]
    · rfl
    · rcases ordinary with empty | unclosed
      · obtain ⟨others, rfl⟩ := List.head?_eq_some_iff.mp empty
        exact .inl rfl
      · exact .inr (head?_closing unclosed apart more)
  · rw [if_neg ordinary] at read
    obtain ⟨opens, closes⟩ := not_or.mp ordinary
    obtain ⟨rest, rfl⟩ := List.head?_eq_some_iff.mp (not_not.mp closes)
    split at read
    · cases read
    · rename_i follows
      cases bounds : Quantifier.ofBounds low high with
      | error error =>
        rw [bounds] at read
        cases read
      | ok q =>
        rw [bounds] at read
        cases read
        refine ⟨?_, fun more => ?_⟩
        · rintro _ _ ⟨⟩
          exact (spares.trans spares').trans (.inr (behind_plain _ _))
        · rw [inBraces_of_bounds (further more) (further' more), if_neg, if_neg, bounds]
          · rfl
          · exact head?_closing follows (by decide) more
          · exact not_or.mpr ⟨head?_closing opens apart more, not_not_intro rfl⟩

theorem read_closing {c : Char} {found : Option (Quantifier × List Token)}
    (read : Quantifier.read c ts = .ok found) :
    (∀ q rest, found = some (q, rest) → Spares ts rest) ∧
      ∀ more, Quantifier.read c (ts ++ .plain ')' :: more) =
        .ok (found.map fun (q, rest) => (q, rest ++ .plain ')' :: more)) := by
  unfold Quantifier.read at read ⊢
  split at read
  · cases read
    refine ⟨?_, fun more => rfl⟩
    rintro _ _ ⟨⟩
    exact .inl rfl
  · cases read
    refine ⟨?_, fun more => rfl⟩
    rintro _ _ ⟨⟩
    exact .inl rfl
  · cases read
    refine ⟨?_, fun more => rfl⟩
    rintro _ _ ⟨⟩
    exact .inl rfl
  · exact inBraces_closing read
  · cases read
    exact ⟨by simp, by simp⟩

theorem steady_repeated? (parts : Parts) (q : Quantifier) : Steady (parts.repeated? q) := by
  intro ts found rest read
  unfold Parts.repeated? at read
  split at read
  · split at read
    · cases read
      exact ⟨.inr (behind_plain _ _), fun more => rfl⟩
    · cases read
      exact ⟨.inr (behind_plain _ _), fun more => rfl⟩
    · rename_i lazy possessive
      cases read
      refine ⟨.inl rfl, fun more => ?_⟩
      have apart := head?_closing (head?_ne lazy) (by decide) more
      have apart' := head?_closing (head?_ne possessive) (by decide) more
      rw [Parts.repeated?]
      · rintro left same
        exact apart (by rw [same, List.head?_cons])
      · rintro left same
        exact apart' (by rw [same, List.head?_cons])
  · cases read

theorem steady_simple? (flags : Flags) (scope : Scope) (t : Token) :
    Steady (simple? flags scope t) := by
  change Steady fun rest => simple? flags scope t rest
  unfold simple?
  split
  · exact .found _
  · exact .found _
  · exact .found _
  · exact .found _
  · rename_i c
    intro ts found rest read
    beta_reduce at read ⊢
    split at read
    · rename_i reads
      cases read
      obtain ⟨spares, further⟩ := steady_escape? flags.ascii c reads
      exact ⟨spares, fun more => by simp only [further]⟩
    · rename_i reads
      cases read
      obtain ⟨spares, further⟩ := steady_escape? flags.ascii c reads
      exact ⟨spares, fun more => by simp only [further]⟩
    · rename_i reads
      split at read
      · rename_i complete
        cases read
        obtain ⟨spares, further⟩ := steady_escape? flags.ascii c reads
        exact ⟨spares, fun more => by simp only [further, complete, if_true]⟩
      · cases read
    · cases read
  · exact .never

end
end Upkeep.Regex
