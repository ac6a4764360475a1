import Upkeep.Proofs.Regex.Reading

/-! Expressions as alternatives of one. Written one after another with bars between them they are one
expression, even if some of them are alternatives themselves. As a group between the two ends of the
text they match what any of them matches in full. -/
namespace Upkeep.Regex
namespace Expr

/-- The expression with further alternatives behind its own. -/
def withOthers {level : Level} : Expr level → Expr .choice → Expr level
  | only branch, others => orElse branch others
  | orElse branch more, others => orElse branch (more.withOthers others)
  | e, _ => e

theorem withOthers_eq {level : Level} (e : Expr level) (others : Expr .choice)
    (choice : level = .choice) :
    (e.withOthers others).tokens = e.tokens ++ .plain '|' :: others.tokens ∧
      (e.withOthers others).names = e.names ++ others.names ∧
      (e.withOthers others).language = e.language + others.language := by
  induction e with
  | only branch => exact ⟨rfl, rfl, rfl⟩
  | orElse branch more _ ih =>
    obtain ⟨written, named, described⟩ := ih rfl
    simp only [withOthers, tokens, names, language, written, named, described]
    simp [add_assoc]
  | _ => cases choice

/-- Some expressions, at least one, as alternatives. -/
def anyOf (first : Expr .choice) : List (Expr .choice) → Expr .choice
  | [] => first
  | next :: rest => first.withOthers (anyOf next rest)

theorem text_anyOf (first : Expr .choice) (rest : List (Expr .choice)) :
    (anyOf first rest).text = List.intercalate ['|'] ((first :: rest).map text) := by
  induction rest generalizing first with
  | nil => simp [anyOf]
  | cons next rest ih =>
    rw [anyOf, text, (first.withOthers_eq _ rfl).1, List.flatMap_append, List.flatMap_cons]
    rw [List.map_cons, List.map_cons, List.intercalate_cons_cons, ← List.map_cons, ← ih next]
    simp [text, Token.written]

theorem names_anyOf (first : Expr .choice) (rest : List (Expr .choice)) :
    (anyOf first rest).names = (first :: rest).flatMap names := by
  induction rest generalizing first with
  | nil => simp [anyOf]
  | cons next rest ih =>
    rw [anyOf, (first.withOthers_eq _ rfl).2.1, ih]
    rfl

theorem mem_language_anyOf {first : Expr .choice} {rest : List (Expr .choice)} {text : List Char} :
    text ∈ (anyOf first rest).language ↔ ∃ e ∈ first :: rest, text ∈ e.language := by
  induction rest generalizing first with
  | nil => simp [anyOf]
  | cons next rest ih =>
    rw [anyOf, (first.withOthers_eq _ rfl).2.2, Language.mem_add, ih,
      List.exists_mem_cons_iff (a := first)]

/-! ### Between the ends of the text -/

/-- The expression as a group, with the two ends of a line around it. -/
def framedTokens (e : Expr .choice) : List Token :=
  .plain '^' :: ((group e).tokens ++ [.plain '$'])

/-- The same as it is written. -/
def framedText (e : Expr .choice) : List Char := '^' :: '(' :: (e.text ++ [')', '$'])

theorem written_framedTokens (e : Expr .choice) :
    e.framedTokens.flatMap Token.written = e.framedText := by
  simp [framedTokens, framedText, tokens, text, Token.written]

theorem stands_framedTokens (e : Expr .choice) : ∀ t ∈ e.framedTokens, t.Stands := by
  have inside := (group e).stands
  simp_all [framedTokens, stands_plain, or_imp]

/-- The group between the two ends. -/
def framed (part : List Pattern) : List Pattern :=
  .at (.lineStart false) :: (part ++ [.at (.lineFinish false)])

theorem alternatives_framed {e : Expr .choice} {part : List Pattern} {scope after : Scope}
    (adds : ∀ rest, Adds (group e).tokens rest scope after .other part) {fuel : Nat}
    {rest : List Token} (closes : Closes rest)
    (enough : 3 * (e.framedTokens ++ rest).length + 1 < fuel) :
    alternatives fuel .plain scope (e.framedTokens ++ rest) = .ok ([framed part], after, rest) := by
  obtain ⟨fuel, rfl⟩ := Nat.exists_eq_add_of_le' (Nat.zero_lt_of_lt enough)
  obtain ⟨fuel, rfl⟩ : ∃ k, fuel = k + 1 := ⟨fuel - 1, by omega⟩
  have start : simple? .plain scope (.plain '^') ((group e).tokens ++ .plain '$' :: rest) =
      some ((.place, .at (.lineStart false)), (group e).tokens ++ .plain '$' :: rest) := rfl
  have finish : simple? .plain after (.plain '$') rest =
      some ((.place, .at (.lineFinish false)), rest) := rfl
  have first : ∀ {c d : Char}, c ∉ marks → Token.plain c = .plain d → d ∉ marks := by
    rintro c d free ⟨⟩
    exact free
  simp only [framedTokens, List.cons_append, List.append_assoc, List.nil_append] at enough ⊢
  obtain ⟨left, fewer, step⟩ := adds (.plain '$' :: rest) fuel [(.place, [.at (.lineStart false)])]
    (by simp only [List.length_cons] at enough ⊢; omega)
  obtain ⟨left, rfl⟩ : ∃ k, left = k + 2 :=
    ⟨left - 2, by simp only [List.length_cons] at fewer; omega⟩
  rw [alternatives, sequence_simple (fun c => first (by decide)) start, step,
    sequence_simple (fun c => first (by decide)) finish, sequence_of_ends closes.ends]
  rcases closes with rfl | ⟨others, rfl⟩ <;> simp [Parts.patterns, framed]

/-- What remains behind the group: the end of a line, and the end of the text. -/
theorem isSome_run_finish_stop (c : Cursor) :
    ((Pattern.ofList [.at (.lineFinish false), .at .stop]).run c some).isSome ↔ c.after = [] := by
  rw [Pattern.run_ofList_cons, Pattern.run]
  simp only [Pattern.run_stop, Place.holds]
  by_cases ended : c.after = [] <;> simp [ended]

theorem isSome_matchStart_framed {e : Expr .choice} (distinct : e.names.Nodup) :
    ∃ compiled, compileAnchored e.framedText = .ok compiled ∧
      ∀ text : List Char, (compiled.matchStart text).isSome ↔ text ∈ e.language := by
  have reads : (group e).Reads .empty := (group e).reads (fun _ _ => rfl) distinct
  obtain ⟨part, after, covers, leads, adds⟩ := reads
  have opens : ∀ rest, opening? .plain ([.plain '?', .plain ':'] ++
      (e.framedTokens ++ .plain ')' :: rest)) = some (.plain, e.framedTokens ++ .plain ')' :: rest) :=
    fun _ => rfl
  have whole : Adds (bracketedTokens e.framedTokens) [.escaped 'Z'] .empty after .other
      (framed part) :=
    adds_brackets opens (fun fuel rest enough =>
      bracketed_plain (alternatives_framed adds (.inr ⟨rest, rfl⟩) enough)) _
  obtain ⟨compiled, read, pattern⟩ := compileAnchored_of_adds e.stands_framedTokens leads whole
  rw [written_framedTokens] at read
  refine ⟨compiled, read, fun text => ?_⟩
  rw [Compiled.matchStart, Compiled.matchAt, pattern, Option.isSome_map, framed, List.cons_append,
    List.append_assoc, Pattern.run_ofList_cons, Pattern.run]
  have starts : Place.holds (.lineStart false) (.ofText text) := rfl
  rw [if_pos starts]
  exact covers.run_ending isSome_run_finish_stop (.ofText text)

end Expr
end Upkeep.Regex
