import Upkeep.Proofs.Regex.Advance
import Upkeep.Proofs.Regex.Characters

/-! Reading expressions. Each part is read in a step or two, whatever was read before it and whatever
follows, and adds a sequence to the parts that covers its language. -/
namespace Upkeep.Regex

/-- What may follow a part: no further quantifier, and no backslash that ends the text. -/
def Follows (rest : List Token) : Prop :=
  ∀ t ∈ [Token.plain '?', .plain '+', .dangling], rest.head? ≠ some t

/-- The end of alternatives. -/
def Closes (rest : List Token) : Prop := rest = [] ∨ ∃ others, rest = .plain ')' :: others

theorem Closes.ends {rest : List Token} (closes : Closes rest) : Ends rest := by
  rcases closes with rfl | ⟨others, rfl⟩
  · exact .inl rfl
  · exact .inr ⟨others, .inr rfl⟩

theorem Ends.follows {rest : List Token} (ends : Ends rest) : Follows rest := by
  rcases ends with rfl | ⟨others, rfl | rfl⟩ <;> simp [Follows]

/-! ### Quantifiers -/

theorem bound_eq (b : Bound) : bound b.digits = .ok b.value := by
  simp [bound, Nat.not_lt.mpr b.short, Nat.not_le.mpr b.small, Bound.value]

/-- Digits up to a character that is none. -/
theorem takePlain_digits (b : Bound) {c : Char} (other : isAsciiDigit c = false)
    (rest : List Token) :
    takePlain isAsciiDigit (b.tokens ++ .plain c :: rest).length (b.tokens ++ .plain c :: rest) =
      (b.digits, .plain c :: rest) := by
  have length : (b.tokens ++ .plain c :: rest).length = b.digits.length + (rest.length + 1) := by
    simp [Bound.tokens]
  rw [length, Bound.tokens, takePlain_append b.decimal]
  simp [takePlain, other]

theorem ofBounds_same (b : Bound) (given : b.digits ≠ []) :
    Quantifier.ofBounds b.digits b.digits = .ok ⟨b.value, some b.value⟩ := by
  simp [Quantifier.ofBounds, bound_eq, bind, Except.bind, given, pure, Except.pure]

theorem ofBounds_eq {low high : Bound} (ordered : high.digits = [] ∨ low.value ≤ high.value) :
    Quantifier.ofBounds low.digits high.digits =
      .ok ⟨low.value, if high.digits = [] then none else some high.value⟩ := by
  simp only [Quantifier.ofBounds, bound_eq, bind, Except.bind, List.isEmpty_iff]
  split
  · rfl
  · rename_i given
    rw [if_neg (Nat.not_lt.mpr (ordered.resolve_left given))]
    rfl

/-- Digits that are not read as an empty pair of braces. -/
theorem head?_tokens (b : Bound) {c : Char} (rest : List Token)
    (other : b.digits ≠ [] ∨ c ≠ '}') :
    (b.tokens ++ .plain c :: rest).head? ≠ some (.plain '}') := by
  cases digits : b.digits with
  | nil =>
    have other' := other.resolve_left (not_not_intro digits)
    simpa [Bound.tokens, digits] using other'
  | cons d others =>
    have digit := b.decimal d (digits ▸ List.mem_cons_self)
    simp only [Bound.tokens, digits, List.map_cons, List.cons_append, List.head?_cons, ne_eq,
      Option.some.injEq, Token.plain.injEq]
    rintro rfl
    exact absurd digit (by decide)

theorem head?_ne {ts : List Token} {t : Token} (other : ∀ left, ts = t :: left → False) :
    ts.head? ≠ some t := by
  intro start
  obtain ⟨left, same⟩ := List.head?_eq_some_iff.mp start
  exact other left same

/-- The digits in front. -/
def digits (ts : List Token) : List Char × List Token := takePlain isAsciiDigit ts.length ts

/-- The upper bound in braces is the lower one unless a comma comes between them. -/
def upperBound (low : List Char) : List Token → List Char × List Token
  | .plain ',' :: rest => digits rest
  | rest => (low, rest)

section
variable {ts : List Token} {low high : List Char}

theorem inBraces_eq_match (ts : List Token) : Quantifier.inBraces ts =
    match ts, (upperBound (digits ts).1 (digits ts).2).2 with
    | .plain '}' :: _, _ => .ok none
    | _, .plain '}' :: .dangling :: _ => .error .invalid
    | _, .plain '}' :: rest =>
      (Quantifier.ofBounds (digits ts).1 (upperBound (digits ts).1 (digits ts).2).1).map
        fun found => some (found, rest)
    | _, _ => .ok none := rfl

/-- Braces hold a quantifier if they are closed behind the bounds. -/
theorem inBraces_of_bounds {after left : List Token}
    (lower : digits ts = (low, after)) (upper : upperBound low after = (high, left)) :
    Quantifier.inBraces ts =
      if ts.head? = some (.plain '}') ∨ left.head? ≠ some (.plain '}') then .ok none
      else if left.tail.head? = some .dangling then .error .invalid
      else (Quantifier.ofBounds low high).map fun found => some (found, left.tail) := by
  rw [inBraces_eq_match]
  simp only [lower, upper]
  split
  · rw [if_pos (.inl rfl)]
  · rename_i opens
    rw [if_neg (by simp [head?_ne opens]), List.tail_cons, if_pos List.head?_cons]
  · rename_i follows opens
    rw [if_neg (by simp [head?_ne opens]), List.tail_cons, if_neg (head?_ne follows)]
  · rename_i closed
    rw [if_pos (.inr (head?_ne closed))]

/-- What is behind the opening brace: the lower bound and, after a comma, the upper one. -/
theorem inBraces_eq {rest : List Token} {q : Quantifier}
    (follows : rest.head? ≠ some .dangling) (opens : ts.head? ≠ some (.plain '}'))
    (read : (digits ts = (low, .plain '}' :: rest) ∧ high = low) ∨
      ∃ others, digits ts = (low, .plain ',' :: others) ∧ digits others = (high, .plain '}' :: rest))
    (bounds : Quantifier.ofBounds low high = .ok q) :
    Quantifier.inBraces ts = .ok (some (q, rest)) := by
  have found : ∃ after, digits ts = (low, after) ∧ upperBound low after = (high, .plain '}' :: rest) := by
    rcases read with ⟨first, rfl⟩ | ⟨others, first, second⟩
    · exact ⟨_, first, rfl⟩
    · exact ⟨_, first, second⟩
  obtain ⟨after, lower, upper⟩ := found
  rw [inBraces_of_bounds lower upper, if_neg (by simp [opens]), List.tail_cons, if_neg follows, bounds]
  rfl

end

/-- A quantifier begins with a character of its own, and is read from there. -/
theorem Times.read_eq (t : Times) : ∃ c more, t.tokens = .plain c :: more ∧
    c ∈ ['?', '*', '+', '{'] ∧ ∀ rest, rest.head? ≠ some .dangling →
      Quantifier.read c (more ++ rest) = .ok (some (⟨t.least, t.most⟩, rest)) := by
  cases t with
  | optional => exact ⟨'?', [], rfl, by simp, fun rest _ => rfl⟩
  | star => exact ⟨'*', [], rfl, by simp, fun rest _ => rfl⟩
  | plus => exact ⟨'+', [], rfl, by simp, fun rest _ => rfl⟩
  | exactly count given =>
    refine ⟨'{', _, rfl, by simp, fun rest follows => ?_⟩
    rw [List.append_assoc, List.singleton_append]
    exact inBraces_eq follows (head?_tokens count rest (.inl given))
      (.inl ⟨takePlain_digits count (by decide) rest, rfl⟩) (ofBounds_same count given)
  | between low high ordered =>
    refine ⟨'{', _, rfl, by simp, fun rest follows => ?_⟩
    rw [List.append_assoc, List.cons_append, List.append_assoc, List.singleton_append]
    exact inBraces_eq follows (head?_tokens low _ (.inr (by decide)))
      (.inr ⟨_, takePlain_digits low (by decide) _, takePlain_digits high (by decide) rest⟩)
      (ofBounds_eq ordered)

/-! ### Steps of a sequence -/

/-- The characters that a sequence does not take for themselves. -/
def marks : List Char := ['|', ')', '(', '[', '?', '*', '+', '{']

theorem read_of_unmarked {c : Char} (ordinary : c ∉ marks) (rest : List Token) :
    Quantifier.read c rest = .ok none := by
  unfold Quantifier.read
  split <;> first | rfl | exact absurd ordinary (by decide)

section
variable {fuel : Nat} {scope after : Scope} {parts : Parts} {rest left : List Token}

theorem sequence_simple {t : Token} {role : Role} {part : Pattern}
    (ordinary : ∀ c, t = .plain c → c ∉ marks)
    (read : simple? .plain scope t rest = some ((role, part), left)) :
    sequence (fuel + 1) .plain scope parts (t :: rest) =
      sequence fuel .plain scope ((role, [part]) :: parts) left := by
  refine Advance.sequence_eq (.simple ?_ read)
  intro c plain
  have unmarked := ordinary c plain
  refine ⟨?_, by simp [Flags.plain], read_of_unmarked unmarked rest⟩
  simp_all [marks]

theorem sequence_class (set : CharClass) :
    sequence (fuel + 1) .plain scope parts (set.tokens ++ rest) =
      sequence fuel .plain scope
        ((.other, [.one ⟨set.negated, set.items.eraseDups, .exact⟩]) :: parts) rest := by
  rw [CharClass.tokens, List.cons_append]
  exact Advance.sequence_eq (.set (set.charSet?_eq rest))

theorem repeated?_eq (part : List Pattern) (q : Quantifier) (greedy : Bool)
    (follows : Follows rest) :
    Parts.repeated? ((.other, part) :: parts) q ((if greedy then [] else [.plain '?']) ++ rest) =
      some ((.loop, [.loop q.least q.most greedy (.ofList part)]) :: parts, rest) := by
  cases greedy with
  | false => rfl
  | true =>
    have lazy : ∀ others, rest = .plain '?' :: others → False := by
      rintro others rfl
      simp [Follows] at follows
    have possessive : ∀ others, rest = .plain '+' :: others → False := by
      rintro others rfl
      simp [Follows] at follows
    simp [Parts.repeated?]

theorem sequence_times {part : List Pattern} (t : Times) (greedy : Bool) (follows : Follows rest) :
    sequence (fuel + 1) .plain scope ((.other, part) :: parts)
        (t.tokens ++ ((if greedy then [] else [.plain '?']) ++ rest)) =
      sequence fuel .plain scope
        ((.loop, [.loop t.least t.most greedy (.ofList part)]) :: parts) rest := by
  obtain ⟨c, more, tokens, mark, read⟩ := t.read_eq
  have behind : ((if greedy then [] else [Token.plain '?']) ++ rest).head? ≠ some .dangling := by
    cases greedy with
    | false => simp
    | true => exact follows _ (by simp)
  have repeating : scope.repeating .plain = scope := by simp [Scope.repeating, Flags.plain]
  rw [tokens, List.cons_append, sequence]
  · simp only [read _ behind, repeated?_eq part _ greedy follows]
    rw [repeating]
    simp [Flags.plain]
  all_goals
    rintro ⟨⟩
    exact absurd mark (by decide)

end

/-! ### First tokens -/

theorem Letter.follows (char : Letter metacharacters) (rest : List Token) :
    Follows (char.tokens ++ rest) := by
  rcases char.written with ⟨own, tokens, -, free⟩ | ⟨own, more, tokens, -⟩
  · simp only [metacharacters, List.mem_cons, not_or] at free
    simp [Follows, tokens, free]
  · simp [Follows, tokens]

namespace Expr

/-- An expression does not change what stands before it, as it does not begin with a quantifier. -/
def Opens : {level : Level} → Expr level → Prop
  | .atom, e | .piece, e => ∀ rest, Follows (e.tokens ++ rest)
  | .branch, e | .choice, e => ∀ rest, Follows rest → Follows (e.tokens ++ rest)

theorem opens {level : Level} (e : Expr level) : e.Opens := by
  -- on the expression; an atom has a first token of its own, a branch may have none
  induction e with
  | letter char => exact char.follows
  | times atom count greedy ih =>
    intro rest
    rw [tokens, List.append_assoc]
    exact ih _
  | nothing => exact fun _ follows => follows
  | andThen piece others first second =>
    intro rest follows
    rw [tokens, List.append_assoc]
    exact first _
  | orElse branch others first second =>
    intro rest follows
    rw [tokens, List.append_assoc]
    exact first _ (by simp [Follows])
  | once atom ih => exact ih
  | only branch ih => exact ih
  | _ => simp [Opens, Follows, tokens, CharClass.tokens]

end Expr

/-! ### Scopes -/

/-- Groups with some names have been read, and nothing that makes the pattern invalid. -/
structure Scope.Leads (before : Scope) (names : List (List Char)) (after : Scope) : Prop where
  sound : after.sound = before.sound
  asked : after.asked = before.asked
  named : ∀ name, name ∉ names → after.names.lookup name = before.names.lookup name

/-- No group has one of these names yet. -/
def Scope.Lacks (scope : Scope) (names : List (List Char)) : Prop :=
  ∀ name ∈ names, scope.names.lookup name = none

namespace Scope.Leads
variable {a b c : Scope} {names others : List (List Char)}

theorem refl (scope : Scope) : scope.Leads [] scope := ⟨rfl, rfl, fun _ _ => rfl⟩

theorem trans (first : a.Leads names b) (second : b.Leads others c) :
    a.Leads (names ++ others) c where
  sound := second.sound.trans first.sound
  asked := second.asked.trans first.asked
  named := by
    intro name absent
    simp only [List.mem_append, not_or] at absent
    rw [second.named name absent.2, first.named name absent.1]

theorem lacks (first : a.Leads names b) (lacks : a.Lacks others)
    (distinct : (names ++ others).Nodup) : b.Lacks others := by
  intro name member
  have absent : name ∉ names := fun there => (List.disjoint_of_nodup_append distinct) there member
  rw [first.named name absent, lacks name member]

end Scope.Leads

theorem Scope.leads_opened {scope : Scope} {name : Option (List Char)}
    (lacks : scope.Lacks name.toList) :
    ∃ inner, scope.opened? name = some inner ∧ scope.Leads name.toList inner := by
  cases name with
  | none => exact ⟨_, rfl, rfl, rfl, fun _ _ => rfl⟩
  | some name =>
    have free : scope.names.lookup name = none := lacks name (by simp)
    have opened : scope.opened? (some name) = some { scope with
        widths := scope.widths ++ [none]
        names := (name, scope.widths.length + 1) :: scope.names } := by
      simp [Scope.opened?, free]
    refine ⟨_, opened, rfl, rfl, fun other different => ?_⟩
    have unlike : (other == name) = false := by simpa using different
    simp [List.lookup_cons, unlike]

theorem Scope.Leads.closed {a b : Scope} {names : List (List Char)} (leads : a.Leads names b)
    (index : Nat) (body : Pattern) : a.Leads names (b.closed index body) :=
  ⟨leads.sound, leads.asked, leads.named⟩

/-! ### Expressions -/

/-- The tokens of a part of a sequence, whatever was read before them, become one part of it. The fuel
is three for each token that is left, as an opening bracket goes through three readers. -/
def Adds (ts rest : List Token) (scope after : Scope) (role : Role) (part : List Pattern) : Prop :=
  ∀ (fuel : Nat) (parts : Parts), 3 * (ts ++ rest).length < fuel →
    ∃ left, 3 * rest.length < left ∧
      sequence fuel .plain scope parts (ts ++ rest) =
        sequence left .plain after ((role, part) :: parts) rest

/-- A part that is read in one step. -/
theorem adds_of_step {ts rest : List Token} {scope after : Scope} {role : Role}
    {part : List Pattern} (some : ts ≠ []) (step : ∀ (fuel : Nat) (parts : Parts),
      3 * (ts ++ rest).length < fuel + 1 → sequence (fuel + 1) .plain scope parts (ts ++ rest) =
        sequence fuel .plain after ((role, part) :: parts) rest) :
    Adds ts rest scope after role part := by
  intro fuel parts enough
  have positive := List.length_pos_iff.mpr some
  obtain ⟨left, rfl⟩ := Nat.exists_eq_add_of_le' (Nat.zero_lt_of_lt enough)
  refine ⟨left, ?_, step left parts enough⟩
  rw [List.length_append] at enough
  omega

theorem covers_one {set : CharSet} {holds : Char → Prop} (exact : set.fold = .exact)
    (same : ∀ char, set.contains char ↔ holds char) : Covers [.one set] (single holds) where
  regular := List.forall_mem_singleton.mpr exact
  language := congrArg single (funext fun char => propext (same char))

theorem Letter.simple?_eq (char : Letter metacharacters) : ∃ t more, char.tokens = t :: more ∧
    (∀ c, t = .plain c → c ∉ marks) ∧ ∀ scope rest, simple? .plain scope t (more ++ rest) =
      some ((.other, .one (.only .exact char.code)), rest) := by
  rcases char.written with ⟨own, tokens, code, free⟩ | ⟨own, more, tokens, read⟩
  · refine ⟨_, _, tokens, ?_, fun scope rest => ?_⟩
    · rintro _ ⟨⟩
      simp only [metacharacters, List.mem_cons, not_or] at free
      simp [marks, free]
    · rw [simple?, code]
      · rfl
      all_goals
        rintro ⟨⟩
        exact absurd free (by decide)
  · refine ⟨_, _, tokens, by simp, fun scope rest => ?_⟩
    have item : escape? Flags.plain.ascii own (more ++ rest) =
        some (.item (.letter char.code), rest) := (read rest).1
    rw [simple?, item]
    rfl

/-- What stands in brackets is a part of its own. -/
theorem adds_brackets {front inside : List Token} {opening : Opening} {scope after : Scope}
    {part : List Pattern} (opens : ∀ rest, opening? .plain (front ++ (inside ++ .plain ')' :: rest)) =
      some (opening, inside ++ .plain ')' :: rest))
    (read : ∀ (fuel : Nat) (rest : List Token),
      3 * (inside ++ .plain ')' :: rest).length + 1 < fuel →
      bracketed (fuel + 1) .plain scope opening (inside ++ .plain ')' :: rest) =
        .ok (part, after, rest)) (rest : List Token) :
    Adds (.plain '(' :: (front ++ (inside ++ [.plain ')']))) rest scope after .other part := by
  apply adds_of_step (List.cons_ne_nil _ _)
  intro fuel parts enough
  simp only [List.cons_append, List.append_assoc, List.nil_append, List.length_cons,
    List.length_append] at enough ⊢
  obtain ⟨fuel, rfl⟩ : ∃ k, fuel = k + 1 := ⟨fuel - 1, by omega⟩
  refine Advance.sequence_eq (.brackets (opens rest) (read _ _ ?_))
  simp only [List.length_append, List.length_cons]
  omega

theorem bracketed_group {fuel : Nat} {scope inner after : Scope} {name : Option (List Char)}
    {ts rest : List Token} {sequences : List (List Pattern)}
    (opened : scope.opened? name = some inner)
    (read : alternatives fuel .plain inner ts = .ok (sequences, after, .plain ')' :: rest)) :
    bracketed (fuel + 1) .plain scope (.group name) ts =
      .ok ([.group inner.widths.length (.ofList (Pattern.joined sequences))],
        after.closed inner.widths.length (.ofList (Pattern.joined sequences)), rest) := by
  rw [bracketed, opened]
  simp only [read]
  rfl

theorem bracketed_plain {fuel : Nat} {scope after : Scope} {ts rest : List Token}
    {sequences : List (List Pattern)}
    (read : alternatives fuel .plain scope ts = .ok (sequences, after, .plain ')' :: rest)) :
    bracketed (fuel + 1) .plain scope .plain ts = .ok (Pattern.joined sequences, after, rest) := by
  rw [bracketed, read]
  rfl

/-- Brackets in front are no flags. -/
theorem preamble_bracketed (fuel : Nat) (ts : List Token) :
    Preamble.ofTokens? (fuel + 1) .empty (.plain '(' :: .plain '?' :: .plain ':' :: ts) =
      some (.empty, .plain '(' :: .plain '?' :: .plain ':' :: ts) := by
  simp [Preamble.ofTokens?, onFlags?, Flags.turnOn?, Flags.set?]

namespace Expr

/-- The reader takes the expression for patterns that cover its language. -/
def Reads (scope : Scope) : {level : Level} → Expr level → Prop
  | .atom, e => ∃ part after, Covers part e.language ∧ scope.Leads e.names after ∧
      ∀ rest, Adds e.tokens rest scope after .other part
  | .piece, e => ∃ role part after, Covers part e.language ∧ scope.Leads e.names after ∧
      ∀ rest, Follows rest → Adds e.tokens rest scope after role part
  | .branch, e => ∃ added after, Covers added e.language ∧ scope.Leads e.names after ∧
      ∀ (fuel : Nat) (parts : Parts) (rest : List Token), Ends rest →
        3 * (e.tokens ++ rest).length < fuel →
        sequence fuel .plain scope parts (e.tokens ++ rest) =
          .ok (parts.patterns ++ added, after, rest)
  | .choice, e => ∃ sequences after, sequences ≠ [] ∧ Pattern.AllRegular sequences ∧
      languages sequences = e.language ∧ scope.Leads e.names after ∧
      ∀ (fuel : Nat) (rest : List Token), Closes rest →
        3 * (e.tokens ++ rest).length + 1 < fuel →
        alternatives fuel .plain scope (e.tokens ++ rest) = .ok (sequences, after, rest)

variable {scope : Scope}

/-- A single character of some set. -/
theorem reads_simple {e : Expr .atom} {t : Token} {more : List Token} {set : CharSet}
    {holds : Char → Prop} (unnamed : e.names = []) (language : e.language = single holds)
    (exact : set.fold = .exact) (same : ∀ char, set.contains char ↔ holds char)
    (written : e.tokens = t :: more) (ordinary : ∀ c, t = .plain c → c ∉ marks)
    (read : ∀ rest, simple? .plain scope t (more ++ rest) = some ((.other, .one set), rest)) :
    e.Reads scope := by
  refine ⟨[.one set], scope, language ▸ covers_one exact same, unnamed ▸ .refl scope, ?_⟩
  intro rest
  rw [written]
  exact adds_of_step (List.cons_ne_nil _ _) fun fuel parts _ => sequence_simple ordinary (read rest)

theorem opening?_eq (body : Expr .choice) (rest : List Token) :
    opening? .plain ([] ++ (body.tokens ++ .plain ')' :: rest)) =
      some (.group none, body.tokens ++ .plain ')' :: rest) := by
  have follows := body.opens (.plain ')' :: rest) (by simp [Follows])
  have unmarked : ∀ others, body.tokens ++ .plain ')' :: rest = .plain '?' :: others → False :=
    fun others same => follows (.plain '?') (by simp) (by rw [same]; rfl)
  rw [List.nil_append]
  simp [opening?]

theorem opening?_named (body : Expr .choice) {name : List Char} (valid : Text.isIdentifier name)
    (rest : List Token) :
    opening? .plain ((.plain '?' :: .plain 'P' :: .plain '<' :: (name.map .plain ++ [.plain '>'])) ++
        (body.tokens ++ .plain ')' :: rest)) =
      some (.group (some name), body.tokens ++ .plain ')' :: rest) := by
  have closed : '>' ∉ name := fun member => (ordinary_of_identifier valid _ member).1 rfl
  simp [opening?, nameUntil?_append closed, valid]

theorem reads_group {body : Expr .choice} (name : Option (List Char)) {front : List Token}
    (lacks : scope.Lacks name.toList)
    (opens : ∀ rest, opening? .plain (front ++ (body.tokens ++ .plain ')' :: rest)) =
      some (.group name, body.tokens ++ .plain ')' :: rest))
    (reads : ∀ inner : Scope, scope.Leads name.toList inner → body.Reads inner) :
    ∃ part after, Covers part body.language ∧ scope.Leads (name.toList ++ body.names) after ∧
      ∀ rest, Adds (.plain '(' :: (front ++ (body.tokens ++ [.plain ')']))) rest scope after
        .other part := by
  obtain ⟨inner, opened, entered⟩ := Scope.leads_opened lacks
  obtain ⟨sequences, after, nonempty, regular, language, leads, read⟩ := reads inner entered
  have covers := Pattern.covers_joined nonempty regular
  have group : Covers [.group inner.widths.length (.ofList (Pattern.joined sequences))]
      body.language :=
    ⟨List.forall_mem_singleton.mpr covers.whole, covers.language.trans language⟩
  have left := (entered.trans leads).closed inner.widths.length (.ofList (Pattern.joined sequences))
  exact ⟨_, _, group, left, adds_brackets opens fun fuel rest enough =>
    bracketed_group opened (read fuel _ (.inr ⟨rest, rfl⟩) enough)⟩

theorem reads_brackets {body : Expr .choice} (reads : body.Reads scope) :
    (brackets body).Reads scope := by
  obtain ⟨sequences, after, nonempty, regular, language, leads, read⟩ := reads
  have covers := Pattern.covers_joined nonempty regular
  have opens : ∀ rest, opening? .plain ([.plain '?', .plain ':'] ++
      (body.tokens ++ .plain ')' :: rest)) = some (.plain, body.tokens ++ .plain ')' :: rest) :=
    fun _ => rfl
  exact ⟨_, _, language ▸ covers, leads, adds_brackets opens
    fun fuel rest enough => bracketed_plain (read fuel _ (.inr ⟨rest, rfl⟩) enough)⟩

theorem reads_times {atom : Expr .atom} (reads : atom.Reads scope) (count : Times)
    (greedy : Bool) : (times atom count greedy).Reads scope := by
  obtain ⟨part, after, covers, leads, adds⟩ := reads
  obtain ⟨c, more, counted, -⟩ := count.read_eq
  have loop : Covers [.loop count.least count.most greedy (.ofList part)]
      (repeated count.least count.most atom.language) :=
    ⟨List.forall_mem_singleton.mpr ⟨count.least_le_most, covers.whole⟩, by
      rw [← covers.language]
      rfl⟩
  refine ⟨.loop, _, after, loop, leads, fun rest follows fuel parts enough => ?_⟩
  simp only [tokens, List.append_assoc] at enough ⊢
  -- a step for the atom, and another one for the quantifier behind it
  obtain ⟨left, fewer, first⟩ := adds _ fuel parts enough
  obtain ⟨left, rfl⟩ := Nat.exists_eq_add_of_le' (Nat.zero_lt_of_lt fewer)
  refine ⟨left, ?_, first.trans (sequence_times count greedy follows)⟩
  simp only [counted, List.length_append, List.length_cons] at fewer
  omega

theorem reads_andThen {piece : Expr .piece} {others : Expr .branch} (first : piece.Reads scope)
    (second : ∀ inner : Scope, scope.Leads piece.names inner → others.Reads inner) :
    (andThen piece others).Reads scope := by
  obtain ⟨role, part, inner, here, entered, adds⟩ := first
  obtain ⟨added, after, there, leads, read⟩ := second inner entered
  refine ⟨part ++ added, after, here.append there, entered.trans leads, ?_⟩
  intro fuel parts rest ends enough
  simp only [tokens, List.append_assoc] at enough ⊢
  obtain ⟨left, fewer, step⟩ := adds _ (others.opens rest ends.follows) fuel parts enough
  rw [step, read left _ rest ends fewer]
  simp [Parts.patterns]

theorem reads_only {branch : Expr .branch} (reads : branch.Reads scope) :
    (only branch).Reads scope := by
  obtain ⟨added, after, covers, leads, read⟩ := reads
  refine ⟨[added], after, by simp, ?_, ?_, leads, ?_⟩
  · exact List.forall_mem_singleton.mpr covers.regular
  · exact (add_zero _).trans covers.language
  · intro fuel rest closes enough
    obtain ⟨fuel, rfl⟩ := Nat.exists_eq_add_of_le' (Nat.zero_lt_of_lt enough)
    rw [alternatives, tokens, read fuel [] rest closes.ends (Nat.lt_of_succ_lt_succ enough)]
    rcases closes with rfl | ⟨others, rfl⟩ <;> rfl

theorem reads_orElse {branch : Expr .branch} {others : Expr .choice} (first : branch.Reads scope)
    (second : ∀ inner : Scope, scope.Leads branch.names inner → others.Reads inner) :
    (orElse branch others).Reads scope := by
  obtain ⟨added, inner, here, entered, readFirst⟩ := first
  obtain ⟨sequences, after, -, regular, language, leads, read⟩ := second inner entered
  refine ⟨added :: sequences, after, by simp, ?_, ?_, entered.trans leads, ?_⟩
  · exact List.forall_mem_cons.mpr ⟨here.regular, regular⟩
  · rw [Expr.language, ← here.language, ← language]
    rfl
  · intro fuel rest closes enough
    obtain ⟨fuel, rfl⟩ := Nat.exists_eq_add_of_le' (Nat.zero_lt_of_lt enough)
    simp only [tokens, List.append_assoc, List.cons_append] at enough ⊢
    rw [alternatives, readFirst fuel [] _ (.inr ⟨_, .inl rfl⟩) (Nat.lt_of_succ_lt_succ enough)]
    simp only
    rw [read fuel rest closes]
    · rfl
    · simp only [List.length_append, List.length_cons] at enough ⊢
      omega

/-- The reader makes patterns of every expression whose groups have different names. -/
theorem reads {level : Level} (e : Expr level) (lacks : scope.Lacks e.names)
    (distinct : e.names.Nodup) : e.Reads scope := by
  -- on the expression; its parts are read in the scope that the parts before them lead to
  induction e generalizing scope with
  | letter char =>
    obtain ⟨t, more, written, ordinary, read⟩ := char.simple?_eq
    refine reads_simple rfl rfl rfl (fun c => ?_) written ordinary (read scope)
    simp [CharSet.contains_of_exact, CharSet.only, SetItem.contains]
  | dot =>
    refine reads_simple rfl rfl rfl CharSet.contains_allButNewline rfl ?_ fun _ => rfl
    rintro _ ⟨⟩
    decide
  | kind category positive =>
    have read : ∀ rest, simple? .plain scope (.escaped (kindLetter category positive)) rest =
        some ((.other, .one ⟨false, [.kind category false positive], .exact⟩), rest) := by
      cases category <;> cases positive <;> exact fun _ => rfl
    refine reads_simple rfl rfl rfl (fun char => ?_) rfl (by simp) read
    simp [CharSet.contains_of_exact, SetItem.contains]
  | charClass set =>
    refine ⟨_, scope, covers_one rfl fun char => Bool.eq_iff_iff.mp (set.contains_items char),
      .refl scope, fun rest => adds_of_step (List.cons_ne_nil _ _) ?_⟩
    exact fun fuel parts _ => sequence_class set
  | group body ih =>
    exact reads_group none (by simp [Scope.Lacks]) body.opening?_eq fun inner leads =>
      ih (leads.lacks lacks distinct) distinct
  | named name valid body ih =>
    obtain ⟨here, there⟩ := List.forall_mem_cons.mp lacks
    obtain ⟨part, after, covers, leads, adds⟩ := reads_group (some name)
      (List.forall_mem_singleton.mpr here) (body.opening?_named valid) fun inner leads =>
        ih (leads.lacks there distinct) (List.Nodup.of_cons distinct)
    refine ⟨part, after, covers, leads, ?_⟩
    simpa [tokens] using adds
  | brackets body ih => exact reads_brackets (ih lacks distinct)
  | once atom ih =>
    obtain ⟨part, after, covers, leads, adds⟩ := ih lacks distinct
    exact ⟨.other, part, after, covers, leads, fun rest _ => adds rest⟩
  | times atom count greedy ih => exact reads_times (ih lacks distinct) count greedy
  | nothing =>
    refine ⟨[], scope, .nil, .refl scope, fun fuel parts rest ends enough => ?_⟩
    obtain ⟨fuel, rfl⟩ := Nat.exists_eq_add_of_le' (Nat.zero_lt_of_lt enough)
    rw [List.append_nil]
    exact sequence_of_ends ends
  | andThen piece others first second =>
    obtain ⟨here, there⟩ := List.forall_mem_append.mp lacks
    exact reads_andThen (first here (List.Nodup.of_append_left distinct)) fun inner leads =>
      second (leads.lacks there distinct) (List.Nodup.of_append_right distinct)
  | only branch ih => exact reads_only (ih lacks distinct)
  | orElse branch others first second =>
    obtain ⟨here, there⟩ := List.forall_mem_append.mp lacks
    exact reads_orElse (first here (List.Nodup.of_append_left distinct)) fun inner leads =>
      second (leads.lacks there distinct) (List.Nodup.of_append_right distinct)

end Expr

/-! ### Whole patterns -/

/-- Tokens in brackets that are no group. -/
def bracketedTokens (inside : List Token) : List Token :=
  .plain '(' :: .plain '?' :: .plain ':' :: (inside ++ [.plain ')'])

theorem tokens_anchored {inside : List Token} (stand : ∀ t ∈ inside, t.Stands) :
    tokens ('(' :: '?' :: ':' :: inside.flatMap Token.written ++ [')', '\\', 'Z']) =
      bracketedTokens inside ++ [.escaped 'Z'] := by
  have whole : ∀ t ∈ bracketedTokens inside ++ [.escaped 'Z'], t.Stands := by
    simp_all [bracketedTokens, stands_plain, or_imp]
  have read := tokens_written whole []
  simpa [bracketedTokens, Token.written, tokens] using read

/-- The brackets and what is behind them are one sequence. -/
theorem alternatives_anchored {ts : List Token} {part : List Pattern} {after : Scope}
    (adds : Adds ts [.escaped 'Z'] .empty after .other part) {fuel : Nat}
    (enough : 3 * (ts ++ [Token.escaped 'Z']).length + 1 < fuel) :
    alternatives fuel .plain .empty (ts ++ [.escaped 'Z']) =
      .ok ([part ++ [.at .stop]], after, []) := by
  obtain ⟨fuel, rfl⟩ := Nat.exists_eq_add_of_le' (Nat.zero_lt_of_lt enough)
  obtain ⟨left, fewer, step⟩ := adds fuel [] (by omega)
  obtain ⟨left, rfl⟩ : ∃ k, left = k + 2 := ⟨left - 2, by simp at fewer; omega⟩
  have stop : simple? .plain after (.escaped 'Z') [] = some ((.place, .at .stop), []) := rfl
  rw [alternatives, step, sequence_simple (by simp) stop, sequence_of_ends (.inl rfl)]
  simp [Parts.patterns]

/-- What is read in brackets of its own makes a pattern with the end of the text behind it. -/
theorem compileAnchored_of_adds {inside : List Token} {names : List (List Char)}
    {part : List Pattern} {after : Scope} (stand : ∀ t ∈ inside, t.Stands)
    (leads : Scope.empty.Leads names after)
    (adds : Adds (bracketedTokens inside) [.escaped 'Z'] .empty after .other part) :
    ∃ compiled, compileAnchored (inside.flatMap Token.written) = .ok compiled ∧
      compiled.pattern = .ofList (part ++ [.at .stop]) := by
  have valid : after.isValid := by
    simp [Scope.isValid, leads.sound, leads.asked, Scope.empty]
  have read := alternatives_anchored adds
    (show _ < 3 * (bracketedTokens inside ++ [Token.escaped 'Z']).length + 3 by omega)
  refine ⟨⟨.ofList (part ++ [.at .stop]), after.widths.length, after.names⟩, ?_, rfl⟩
  have preamble (fuel : Nat) : Preamble.ofTokens? (fuel + 1) .empty
      (bracketedTokens inside ++ [.escaped 'Z']) =
        some (.empty, bracketedTokens inside ++ [.escaped 'Z']) := preamble_bracketed fuel _
  rw [compileAnchored, compile, tokens_anchored stand, ofTokens, preamble]
  simp only [Preamble.empty, read]
  simp [Preamble.contradicts, valid, Pattern.joined]

namespace Expr

/-- An expression with groups of different names makes a pattern: what covers its language, and then
the end of the text. -/
theorem compileAnchored_text (e : Expr .choice) (distinct : e.names.Nodup) :
    ∃ part compiled, Covers part e.language ∧ compileAnchored e.text = .ok compiled ∧
      compiled.pattern = .ofList (part ++ [.at .stop]) := by
  have lacks : Scope.empty.Lacks (brackets e).names := fun _ _ => rfl
  obtain ⟨part, after, covers, leads, adds⟩ := (brackets e).reads lacks distinct
  obtain ⟨compiled, read, pattern⟩ := compileAnchored_of_adds e.stands leads (adds _)
  exact ⟨part, compiled, covers, read, pattern⟩

theorem isSome_matchStart {e : Expr .choice} (distinct : e.names.Nodup) :
    ∃ compiled, compileAnchored e.text = .ok compiled ∧
      ∀ text : List Char, (compiled.matchStart text).isSome ↔ text ∈ e.language := by
  obtain ⟨part, compiled, covers, read, pattern⟩ := e.compileAnchored_text distinct
  refine ⟨compiled, read, fun text => ?_⟩
  rw [Compiled.matchStart, Compiled.matchAt, pattern, Option.isSome_map]
  exact covers.run_stop (.ofText text)

end Expr
end Upkeep.Regex
