import Upkeep.Proofs.Regex.Reading

/-! What readers take and what they leave. A reader stops behind a plain token or takes nothing, and a
closing bracket behind the tokens makes no difference to it. -/
namespace Upkeep.Regex

/-- What is left behind a plain token. -/
def Behind (ts rest : List Token) : Prop := ∃ c, .plain c :: rest <:+ ts

/-- Nothing has been taken, or a plain token at last. -/
def Spares (ts rest : List Token) : Prop := ts = rest ∨ Behind ts rest

section
variable {ts others rest : List Token}

theorem behind_plain (c : Char) (rest : List Token) : Behind (.plain c :: rest) rest :=
  ⟨c, List.suffix_refl _⟩

theorem Behind.of_suffix (behind : Behind others rest) (suffix : others <:+ ts) :
    Behind ts rest := by
  obtain ⟨c, left⟩ := behind
  exact ⟨c, left.trans suffix⟩

theorem Behind.cons (behind : Behind ts rest) (t : Token) : Behind (t :: ts) rest :=
  behind.of_suffix (List.suffix_cons t ts)

theorem Behind.suffix (behind : Behind ts rest) : rest <:+ ts := by
  obtain ⟨c, left⟩ := behind
  exact (List.suffix_cons _ rest).trans left

theorem Spares.suffix (spares : Spares ts rest) : rest <:+ ts := by
  rcases spares with rfl | behind
  · exact List.suffix_refl _
  · exact behind.suffix

theorem Spares.trans (spares : Spares ts others) (further : Spares others rest) :
    Spares ts rest := by
  rcases further with rfl | behind
  · exact spares
  · exact .inr (behind.of_suffix spares.suffix)

theorem Spares.behind_cons (spares : Spares ts rest) (c : Char) : Behind (.plain c :: ts) rest := by
  rcases spares with rfl | behind
  · exact behind_plain c ts
  · exact behind.cons _

/-- A token that is not plain and comes last is still there. -/
theorem Behind.keeps (behind : Behind ts rest) {last : Token} (special : ∀ c, last ≠ .plain c)
    (ends : [last] <:+ ts) : [last] <:+ rest := by
  obtain ⟨c, left⟩ := behind
  have there : [last] <:+ .plain c :: rest :=
    List.suffix_of_suffix_length_le ends left (Nat.succ_le_succ (Nat.zero_le _))
  rcases List.suffix_cons_iff.mp there with same | kept
  · exact absurd (List.cons.inj same).1 (special c)
  · exact kept

end

/-- A reader that leaves the rest of its tokens as told, and to which a closing bracket at the end
makes no difference. -/
def Leaving (left : List Token → List Token → Prop) {α : Type}
    (read : List Token → Option (α × List Token)) : Prop :=
  ∀ ⦃ts found rest⦄, read ts = some (found, rest) → left ts rest ∧
    ∀ more, read (ts ++ .plain ')' :: more) = some (found, rest ++ .plain ')' :: more)

theorem Leaving.map {left : List Token → List Token → Prop} {α β : Type}
    {read : List Token → Option (α × List Token)} (leaves : Leaving left read) (f : α → β) :
    Leaving left fun ts => (read ts).map fun (value, rest) => (f value, rest) := by
  intro ts found rest reads
  obtain ⟨⟨value, behind⟩, taken, same⟩ := Option.map_eq_some_iff.mp reads
  obtain ⟨rfl, rfl⟩ := Prod.mk.inj same
  obtain ⟨leaves, further⟩ := leaves taken
  refine ⟨leaves, fun more => ?_⟩
  simp only [further, Option.map_some]

/-- A reader that takes plain tokens at last, if any. -/
abbrev Steady {α : Type} (read : List Token → Option (α × List Token)) : Prop :=
  Leaving Spares read

/-- One that takes a plain token at last. -/
abbrev Stops {α : Type} (read : List Token → Option (α × List Token)) : Prop :=
  Leaving Behind read

namespace Steady
variable {α β : Type} {read : List Token → Option (α × List Token)}

theorem found (value : α) : Steady fun ts => some (value, ts) := by
  rintro ts _ _ ⟨⟩
  exact ⟨.inl rfl, fun more => rfl⟩

theorem never : Steady fun _ => (none : Option (α × List Token)) := by
  rintro ts found rest ⟨⟩

/-- What has been read may be refused, whatever stands behind it. -/
theorem checked (steady : Steady read) (f : α → Option β) :
    Steady fun ts => (read ts).bind fun (value, rest) => (f value).map (·, rest) := by
  intro ts found rest reads
  obtain ⟨⟨value, left⟩, taken, passes⟩ := Option.bind_eq_some_iff.mp reads
  obtain ⟨_, accepted, same⟩ := Option.map_eq_some_iff.mp passes
  obtain ⟨rfl, rfl⟩ := Prod.mk.inj same
  obtain ⟨spares, further⟩ := steady taken
  refine ⟨spares, fun more => ?_⟩
  simp only [further, Option.bind_some, accepted, Option.map_some]

end Steady

section
variable {ts rest : List Token}

/-! ### Characters -/

theorem takePlain_of_other {p : Char → Bool} {t : Token} (other : ∀ c, t = .plain c → p c = false)
    (limit : Nat) (ts : List Token) : takePlain p limit (t :: ts) = ([], t :: ts) := by
  cases limit with
  | zero => rfl
  | succ limit =>
    cases t with
    | plain c => simp [takePlain, other c rfl]
    | _ => rfl

/-- Taken tokens stay so behind a greater limit, unless the limit was reached. -/
theorem steady_takePlain {p : Char → Bool} (other : p ')' = false) {limit greater : Nat}
    (enough : limit = greater ∨ ts.length ≤ limit ∧ limit ≤ greater) {cs : List Char}
    (taken : takePlain p limit ts = (cs, rest)) :
    Spares ts rest ∧ ∀ more,
      takePlain p greater (ts ++ .plain ')' :: more) = (cs, rest ++ .plain ')' :: more) := by
  have closing : ∀ c, Token.plain ')' = .plain c → p c = false := by
    rintro _ ⟨⟩
    exact other
  induction ts generalizing limit greater cs with
  | nil =>
    have none : takePlain p limit [] = ([], []) := by cases limit <;> rfl
    obtain ⟨rfl, rfl⟩ := Prod.mk.inj (none.symm.trans taken)
    exact ⟨.inl rfl, takePlain_of_other closing greater⟩
  | cons t ts ih =>
    by_cases stops : ∀ c, t = .plain c → p c = false
    · obtain ⟨rfl, rfl⟩ := Prod.mk.inj ((takePlain_of_other stops limit ts).symm.trans taken)
      exact ⟨.inl rfl, fun more => takePlain_of_other stops greater _⟩
    · push Not at stops
      obtain ⟨c, rfl, holds⟩ := stops
      replace holds : p c := by simpa using holds
      cases limit with
      | zero =>
        obtain rfl : 0 = greater := by simpa using enough
        obtain ⟨rfl, rfl⟩ := Prod.mk.inj taken
        exact ⟨.inl rfl, fun more => rfl⟩
      | succ limit =>
        obtain ⟨greater, rfl⟩ : ∃ n, greater = n + 1 := ⟨greater - 1, by omega⟩
        rcases read : takePlain p limit ts with ⟨others, left⟩
        rw [takePlain, if_pos holds, read] at taken
        obtain ⟨rfl, rfl⟩ := Prod.mk.inj taken
        rw [List.length_cons] at enough
        have enough' : limit = greater ∨ ts.length ≤ limit ∧ limit ≤ greater := by omega
        obtain ⟨spares, further⟩ := ih enough' read
        refine ⟨.inr (spares.behind_cons c), fun more => ?_⟩
        rw [List.cons_append, takePlain, if_pos holds, further]

theorem steady_some_takePlain {p : Char → Bool} (other : p ')' = false) (limit : Nat) :
    Steady fun ts => some (takePlain p limit ts) := by
  intro ts cs rest taken
  obtain ⟨spares, further⟩ := steady_takePlain other (.inl rfl) (Option.some.inj taken)
  exact ⟨spares, fun more => congrArg some (further more)⟩

theorem stops_nameUntil? (ending : Char) : Stops (nameUntil? ending) := by
  intro ts name rest found
  induction ts generalizing name with
  | nil => cases found
  | cons t ts ih =>
    cases t with
    | plain c =>
      rw [nameUntil?] at found
      split at found
      · rename_i here
        obtain ⟨rfl, rfl⟩ := Prod.mk.inj (Option.some.inj found)
        refine ⟨behind_plain c ts, fun more => ?_⟩
        rw [List.cons_append, nameUntil?, if_pos here]
      · rename_i there
        obtain ⟨⟨others, left⟩, read, same⟩ := Option.map_eq_some_iff.mp found
        obtain ⟨rfl, rfl⟩ := Prod.mk.inj same
        obtain ⟨behind, further⟩ := ih read
        refine ⟨behind.cons _, fun more => ?_⟩
        rw [List.cons_append, nameUntil?, if_neg there, further]
        rfl
    | _ => cases found

theorem steady_hexCode? (width : Nat) : Steady (hexCode? width) := by
  have read := (steady_some_takePlain (p := isHexDigit) (by decide) width).checked fun cs =>
    if cs.length = width ∧ digitsValue 16 cs ≤ 0x10FFFF then some (digitsValue 16 cs) else none
  convert read using 2 with ts
  simp only [hexCode?, Option.bind_some]
  split <;> rfl

theorem steady_namedCode? : Steady namedCode? := by
  intro ts code rest found
  rw [namedCode?.eq_def] at found
  split at found
  · rename_i inside
    split at found
    · rename_i name left read
      obtain ⟨_, known, same⟩ := Option.map_eq_some_iff.mp found
      obtain ⟨rfl, rfl⟩ := Prod.mk.inj same
      obtain ⟨behind, further⟩ := stops_nameUntil? _ read
      refine ⟨.inr (behind.cons _), fun more => ?_⟩
      simp only [List.cons_append, namedCode?, further, known, Option.map_some]
    · cases found
  · cases found

/-- Whether an escape is by code point or by name does not depend on what stands behind. -/
theorem coded?_cases (c : Char) : (∀ ts, coded? c ts = none) ∨
    ∃ read, Steady read ∧ ∀ ts, coded? c ts = some (read ts) := by
  by_cases coded : c ∈ ['x', 'u', 'U', 'N']
  · simp only [List.mem_cons, List.not_mem_nil, or_false] at coded
    rcases coded with rfl | rfl | rfl | rfl
    · exact .inr ⟨_, steady_hexCode? 2, fun ts => rfl⟩
    · exact .inr ⟨_, steady_hexCode? 4, fun ts => rfl⟩
    · exact .inr ⟨_, steady_hexCode? 8, fun ts => rfl⟩
    · exact .inr ⟨_, steady_namedCode?, fun ts => rfl⟩
  · left
    intro ts
    unfold coded?
    split <;> simp_all

theorem steady_numberEscape? (c : Char) : Steady (numberEscape? c) := by
  intro ts escape rest found
  rw [numberEscape?] at found
  rcases first : takePlain isAsciiDigit 1 ts with ⟨digits, after⟩
  rcases second : takePlain isOctalDigit 1 after with ⟨last, afterLast⟩
  obtain ⟨spares, further⟩ := steady_takePlain (by decide) (.inl rfl) first
  obtain ⟨spares', further'⟩ := steady_takePlain (by decide) (.inl rfl) second
  simp only [first, second] at found
  split at found
  · rename_i octal
    split at found
    · rename_i small
      obtain ⟨rfl, rfl⟩ := Prod.mk.inj (Option.some.inj found)
      refine ⟨spares.trans spares', fun more => ?_⟩
      simp only [numberEscape?, further, further', octal, small, if_true]
    · cases found
  · rename_i decimal
    obtain ⟨rfl, rfl⟩ := Prod.mk.inj (Option.some.inj found)
    refine ⟨spares, fun more => ?_⟩
    simp [numberEscape?, further, further', decimal]

theorem steady_escape? (ascii : Bool) (c : Char) : Steady (escape? ascii c) := by
  change Steady fun ts => escape? ascii c ts
  unfold escape?
  split
  · exact .found _
  · exact .found _
  · exact .found _
  · exact .found _
  · exact (steady_some_takePlain (p := isOctalDigit) (by decide) 2).map fun more =>
      Escape.item (.letter (digitsValue 8 more))
  · rcases coded?_cases c with plain | ⟨read, steady, coded⟩
    · simp only [plain]
      cases category? ascii c with
      | some item => exact .found _
      | none =>
        cases control? c with
        | some code => exact .found _
        | none =>
          simp only
          split
          · exact steady_numberEscape? c
          · split
            · exact .never
            · exact .found _
    · simp only [coded]
      cases category? ascii c with
      | some item => exact .found _
      | none =>
        cases control? c with
        | some code => exact .found _
        | none => exact steady.map fun code => Escape.item (.letter code)

theorem steady_setEscape? (ascii : Bool) (c : Char) : Steady (setEscape? ascii c) := by
  change Steady fun ts => setEscape? ascii c ts
  unfold setEscape?
  rcases coded?_cases c with plain | ⟨read, steady, coded⟩
  · simp only [plain]
    cases category? ascii c with
    | some item => exact .found _
    | none =>
      cases control? c with
      | some code => exact .found _
      | none =>
        simp only
        split
        · exact .found _
        · split
          · convert (steady_some_takePlain (p := isOctalDigit) (by decide) 2).checked fun more =>
              if digitsValue 8 (c :: more) ≤ 0o377 then some (SetItem.letter (digitsValue 8 (c :: more)))
              else none using 2 with ts
            simp only [Option.bind_some]
            split <;> rfl
          · split
            · exact .never
            · exact .found _
  · simp only [coded]
    cases category? ascii c with
    | some item => exact .found _
    | none =>
      cases control? c with
      | some code => exact .found _
      | none => exact steady.map SetItem.letter

/-! ### Sets -/

theorem steady_setMember? {ascii : Bool} {item : SetItem}
    (read : setMember? ascii ts = some (item, rest)) : ∃ t left, ts = t :: left ∧
      Spares left rest ∧ ∀ more,
        setMember? ascii (ts ++ .plain ')' :: more) = some (item, rest ++ .plain ')' :: more) := by
  cases ts with
  | nil => cases read
  | cons t left =>
    cases t with
    | plain c =>
      obtain ⟨rfl, rfl⟩ := Prod.mk.inj (Option.some.inj read)
      exact ⟨_, _, rfl, .inl rfl, fun more => rfl⟩
    | escaped c =>
      obtain ⟨spares, further⟩ := steady_setEscape? ascii c read
      exact ⟨_, _, rfl, spares, further⟩
    | dangling => cases read

/-- How the members of a set begin: with the closing bracket, with a member and a last hyphen, with a
range, or with a single member. -/
theorem setMembers?_cases {ascii : Bool} {fuel : Nat} {members items : List SetItem}
    (read : setMembers? ascii (fuel + 1) members ts = some (items, rest)) :
    (members ≠ [] ∧ ts = .plain ']' :: rest ∧ items = members.reverse) ∨
    Unclosed members ts ∧
      ((∃ item, setMember? ascii ts = some (item, .plain '-' :: .plain ']' :: rest) ∧
          items = (.letter 45 :: item :: members).reverse) ∨
        (∃ low high others left, setMember? ascii ts = some (.letter low, .plain '-' :: others) ∧
          others.head? ≠ some (.plain ']') ∧ setMember? ascii others = some (.letter high, left) ∧
          low ≤ high ∧ setMembers? ascii fuel (.span low high :: members) left = some (items, rest)) ∨
        ∃ item left, setMember? ascii ts = some (item, left) ∧ left.head? ≠ some (.plain '-') ∧
          setMembers? ascii fuel (item :: members) left = some (items, rest)) := by
  rw [setMembers?.eq_def] at read
  simp only at read
  split at read
  · obtain ⟨rfl, rfl⟩ := Prod.mk.inj (Option.some.inj read)
    exact .inl ⟨List.cons_ne_nil _ _, rfl, rfl⟩
  · rename_i unclosed
    refine .inr ⟨unclosed, ?_⟩
    split at read
    · cases read
    · rename_i found
      obtain ⟨rfl, rfl⟩ := Prod.mk.inj (Option.some.inj read)
      exact .inl ⟨_, found, rfl⟩
    · rename_i inner found
      split at read
      · rename_i last
        split at read
        · rename_i ordered
          exact .inr (.inl ⟨_, _, _, _, found, head?_ne inner, last, ordered, read⟩)
        · cases read
      · cases read
    · rename_i hyphen found
      exact .inr (.inr ⟨_, _, found, head?_ne hyphen, read⟩)

theorem Unclosed.append {members : List SetItem} {t : Token} (unclosed : Unclosed members (t :: ts))
    (more : List Token) : Unclosed members (t :: ts ++ more) := by
  rintro item others left same start
  obtain ⟨rfl, -⟩ := List.cons.inj start
  exact unclosed item others ts same rfl

theorem head?_closing {t : Token} (other : ts.head? ≠ some t) (apart : t ≠ .plain ')')
    (more : List Token) : (ts ++ .plain ')' :: more).head? ≠ some t := by
  cases ts with
  | nil => simpa using apart.symm
  | cons first left => exact other

theorem stops_setMembers? {ascii : Bool} {fuel : Nat} {members items : List SetItem}
    (read : setMembers? ascii fuel members ts = some (items, rest)) : Behind ts rest ∧
      ∀ greater, fuel ≤ greater → ∀ more,
        setMembers? ascii greater members (ts ++ .plain ')' :: more) =
          some (items, rest ++ .plain ')' :: more) := by
  induction fuel generalizing members ts with
  | zero => cases read
  | succ fuel ih =>
    rcases setMembers?_cases read with ⟨some, rfl, rfl⟩ | ⟨unclosed, ⟨item, first, rfl⟩ |
      ⟨low, high, others, left, first, inner, last, ordered, further⟩ |
      ⟨item, left, first, single, further⟩⟩
    · refine ⟨behind_plain _ _, fun greater enough more => ?_⟩
      obtain ⟨greater, rfl⟩ := Nat.exists_eq_add_of_le' (Nat.zero_lt_of_lt enough)
      exact setMembers?_end some
    · obtain ⟨t, _, rfl, spares, again⟩ := steady_setMember? first
      refine ⟨((behind_plain _ _).cons _).of_suffix (spares.suffix.trans (List.suffix_cons _ _)),
        fun greater enough more => ?_⟩
      obtain ⟨greater, rfl⟩ := Nat.exists_eq_add_of_le' (Nat.zero_lt_of_lt enough)
      exact setMembers?_last (unclosed.append _) (again more)
    · obtain ⟨t, _, rfl, spares, again⟩ := steady_setMember? first
      obtain ⟨u, _, rfl, spares', again'⟩ := steady_setMember? last
      obtain ⟨behind, goes⟩ := ih further
      refine ⟨?_, fun greater enough more => ?_⟩
      · have low := spares.suffix.trans (List.suffix_cons t _)
        have high := spares'.suffix.trans (List.suffix_cons u _)
        exact behind.of_suffix (high.trans ((List.suffix_cons _ _).trans low))
      · obtain ⟨greater, rfl⟩ := Nat.exists_eq_add_of_le' (Nat.zero_lt_of_lt enough)
        rw [setMembers?_range (unclosed.append _) (again more) (head?_closing inner (by decide) more)
          (again' more) ordered]
        exact goes greater (by omega) more
    · obtain ⟨t, _, rfl, spares, again⟩ := steady_setMember? first
      obtain ⟨behind, goes⟩ := ih further
      refine ⟨?_, fun greater enough more => ?_⟩
      · exact behind.of_suffix (spares.suffix.trans (List.suffix_cons _ _))
      · obtain ⟨greater, rfl⟩ := Nat.exists_eq_add_of_le' (Nat.zero_lt_of_lt enough)
        rw [setMembers?_single (unclosed.append _) (again more) (head?_closing single (by decide) more)]
        exact goes greater (by omega) more

theorem stops_members (ascii : Bool) :
    Stops fun ts => setMembers? ascii (ts.length + 1) [] ts := by
  intro ts items rest read
  obtain ⟨behind, further⟩ := stops_setMembers? read
  exact ⟨behind, fun more => further _ (by simp) more⟩

theorem stops_charSet? (flags : Flags) : Stops (charSet? flags) := by
  have set (negated : Bool) := (stops_members flags.ascii).map fun items =>
    (⟨negated, items.eraseDups, flags.fold⟩ : CharSet)
  intro ts found rest read
  by_cases negated : ts.head? = some (.plain '^')
  · obtain ⟨inside, rfl⟩ := List.head?_eq_some_iff.mp negated
    obtain ⟨behind, further⟩ := set true read
    exact ⟨behind.cons _, further⟩
  · have positive : ∀ {ts : List Token}, ts.head? ≠ some (.plain '^') → charSet? flags ts =
        (setMembers? flags.ascii (ts.length + 1) [] ts).map fun read =>
          (⟨false, read.1.eraseDups, flags.fold⟩, read.2) := by
      intro ts other
      rw [charSet?]
      rintro inside rfl
      exact other rfl
    rw [positive negated] at read
    obtain ⟨behind, further⟩ := set false read
    refine ⟨behind, fun more => ?_⟩
    rw [positive (head?_closing negated (by decide) more)]
    exact further more

end
end Upkeep.Regex
