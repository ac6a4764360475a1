import Mathlib.Tactic.SplitIfs
import Upkeep.Proofs.Json.Numbers
import Upkeep.Proofs.Json.Reordering

/-! JSON texts read back. What is written of a value is read as its canonical form, whatever stands
behind it that may stand behind a value: so a text says itself where each of its parts ends. -/
namespace Upkeep.Json

namespace Reader

/-! ### Strings -/

theorem string_plain {c : Char} (quote : c ≠ '"') (backslash : c ≠ '\\') (rest : List Char) :
    string none (c :: rest) = before c (string none rest) := by
  rw [string.eq_def]
  split <;> simp_all [unpaired]

section
variable {code : Nat}

theorem unit_append (unit : code < 0x10000) :
    ∃ a b c d, (∀ rest, Json.unit code ++ rest = '\\' :: 'u' :: a :: b :: c :: d :: rest) ∧
      Text.valueOf? 16 Text.hexValue? [a, b, c, d] = some code := by
  obtain ⟨a, b, c, d, written, read⟩ := Text.hex_unit unit
  exact ⟨a, b, c, d, fun rest => by rw [Json.unit, written]; rfl, read⟩

variable (rest : List Char)

theorem string_scalar (unit : code < 0x10000) (scalar : code < 0xD800 ∨ 0xE000 ≤ code) :
    string none (Json.unit code ++ rest) = before (Char.ofNat code) (string none rest) := by
  obtain ⟨a, b, c, d, written, read⟩ := unit_append unit
  have notHigh : ¬ (0xD800 ≤ code ∧ code < 0xDC00) := by omega
  have notLow : ¬ (0xDC00 ≤ code ∧ code < 0xE000) := by omega
  rw [written, string, read]
  simp only [if_neg notHigh, if_neg notLow]
  rfl

theorem string_high (high : 0xD800 ≤ code ∧ code < 0xDC00) :
    string none (Json.unit code ++ rest) = string (some code) rest := by
  obtain ⟨a, b, c, d, written, read⟩ := unit_append (show code < 0x10000 by omega)
  rw [written, string, read]
  simp only [if_pos high]
  rfl

theorem string_low (first : Nat) (low : 0xDC00 ≤ code ∧ code < 0xE000) :
    string (some first) (Json.unit code ++ rest) =
      before (Char.ofNat (0x10000 + (first - 0xD800) * 0x400 + (code - 0xDC00)))
        (string none rest) := by
  obtain ⟨a, b, c, d, written, read⟩ := unit_append (show code < 0x10000 by omega)
  have notHigh : ¬ (0xD800 ≤ code ∧ code < 0xDC00) := by omega
  rw [written, string, read]
  simp only [if_neg notHigh, if_pos low]

end

/-- A character that is written by its code is read back, if need be from two surrogates. -/
theorem string_escapedCode (c : Char) (rest : List Char) :
    string none (escapedCode c.toNat ++ rest) = before c (string none rest) := by
  have valid : c.toNat < 0xD800 ∨ 0xDFFF < c.toNat ∧ c.toNat < 0x110000 := c.valid
  rw [escapedCode]
  split
  · rename_i unit
    rw [string_scalar rest unit (by omega), Char.ofNat_toNat]
  · have code : 0x10000 + (0xD800 + (c.toNat - 0x10000) / 0x400 - 0xD800) * 0x400 +
        (0xDC00 + (c.toNat - 0x10000) % 0x400 - 0xDC00) = c.toNat := by
      omega
    rw [List.append_assoc, string_high _ (by omega), string_low _ _ (by omega), code,
      Char.ofNat_toNat]

theorem string_writeChar (c : Char) (rest : List Char) :
    string none (writeChar c ++ rest) = before c (string none rest) := by
  rw [writeChar]
  split_ifs with quote backslash newline return' tab backspace feed printable
  any_goals
    subst c
    rfl
  · exact string_plain quote backslash rest
  · exact string_escapedCode c rest

theorem string_written (cs rest : List Char) :
    string none (cs.flatMap writeChar ++ '"' :: rest) = some (cs, rest) := by
  induction cs with
  | nil => rfl
  | cons c cs ih =>
    rw [List.flatMap_cons, List.append_assoc, string_writeChar, ih]
    rfl

/-! ### Values without parts -/

theorem skipBlanks_cons {c : Char} (visible : ¬ (c = ' ' ∨ c = '\n' ∨ c = '\r' ∨ c = '\t'))
    (rest : List Char) : skipBlanks (c :: rest) = c :: rest := by
  rw [skipBlanks, List.dropWhile_cons_of_neg]
  simpa [or_assoc] using visible

theorem head_of_number {negative : Bool} {cs : List Char} {result : Json × List Char}
    (read : number negative cs = some result) : ∃ c tail, cs = c :: tail ∧ isDigit c := by
  cases cs with
  | nil => cases read
  | cons c tail =>
    refine ⟨c, tail, rfl, ?_⟩
    by_contra other
    simp [number, other] at read

theorem value_of_number {cs : List Char} {result : Json × List Char}
    (read : number false cs = some result) (fuel : Nat) : value (fuel + 1) cs = some result := by
  obtain ⟨c, tail, rfl, digit⟩ := head_of_number read
  have visible : ¬ (c = ' ' ∨ c = '\n' ∨ c = '\r' ∨ c = '\t') := by
    rintro (rfl | rfl | rfl | rfl) <;> cases digit
  rw [value, skipBlanks_cons visible]
  -- No other case of the reader begins with a digit.
  split
  case h_10 => exact read
  all_goals
    rename_i same
    injection same with first
    subst first
    cases digit

theorem value_of_negative {cs : List Char} {result : Json × List Char}
    (read : number true cs = some result) (fuel : Nat) :
    value (fuel + 1) ('-' :: cs) = some result := by
  obtain ⟨c, tail, rfl, digit⟩ := head_of_number read
  have finite : c ≠ 'I' := by
    rintro rfl
    cases digit
  rw [value, skipBlanks_cons (by decide)]
  simpa [finite] using read

theorem word_append (expected : List Char) (v : Json) (rest : List Char) :
    word expected v (expected ++ rest) = some (v, rest) := by
  simp [word]

theorem infinity_eq : Format.json.infinity.toList = 'I' :: infinityRest := by
  rw [infinityRest]
  simp [Format.json]

theorem value_null (fuel : Nat) (rest : List Char) :
    value (fuel + 1) (write .null ++ rest) = some (.null, rest) := by
  rw [write]
  exact word_append ['u', 'l', 'l'] .null rest

theorem value_bool (b : Bool) (fuel : Nat) (rest : List Char) :
    value (fuel + 1) (write (.bool b) ++ rest) = some (.bool b, rest) := by
  rw [write]
  cases b with
  | true => exact word_append ['r', 'u', 'e'] (.bool true) rest
  | false => exact word_append ['a', 'l', 's', 'e'] (.bool false) rest

theorem value_int (n : Int) (fuel : Nat) {rest : List Char} (closes : Closes rest) :
    value (fuel + 1) (write (.int n) ++ rest) = some (.int n, rest) := by
  have read := fun negative => number_whole negative (isDigit_toDigits n.natAbs)
    (List.ne_nil_of_length_pos Nat.length_toDigits_pos) closes
  rw [natural_toDigits] at read
  rw [write, writeInt]
  by_cases negative : n < 0
  · have worth : -(n.natAbs : Int) = n := by omega
    have minus := read true
    rw [if_pos rfl, worth] at minus
    rw [if_pos negative]
    exact value_of_negative minus fuel
  · have worth : (n.natAbs : Int) = n := by omega
    have plus := read false
    rw [if_neg Bool.false_ne_true, worth] at plus
    rw [if_neg negative]
    exact value_of_number plus fuel

theorem value_float (x : Double) (fuel : Nat) {rest : List Char} (closes : Closes rest) :
    value (fuel + 1) (write (.float x) ++ rest) = some (.float x, rest) := by
  rw [write]
  cases x with
  | infinite negative =>
    rw [Format.write, infinity_eq]
    cases negative with
    | true => exact word_append infinityRest _ rest
    | false => exact word_append infinityRest _ rest
  | finite x =>
    have read := number_magnitude Format.json x.shortest x.negative closes
    rw [x.ofDecimal_shortest] at read
    rw [Format.write]
    cases sign : x.negative with
    | true =>
      rw [sign] at read
      exact value_of_negative read fuel
    | false =>
      rw [sign] at read
      exact value_of_number read fuel

theorem value_str (s : String) (fuel : Nat) (rest : List Char) :
    value (fuel + 1) (write (.str s) ++ rest) = some (.str s, rest) := by
  have read := string_written s.toList rest
  rw [write, writeString, List.cons_append, List.cons_append, value, skipBlanks_cons (by decide)]
  simp only [List.append_assoc, List.singleton_append, read, Option.map_some, String.ofList_toList]

/-! ### Lists and objects -/

/-- What is written of the value is read as its canonical form, if there is fuel for each character
of it. -/
def ReadBack (v : Json) : Prop :=
  ∀ fuel rest, v.write.length ≤ fuel → Closes rest →
    value fuel (v.write ++ rest) = some (v.canonical, rest)

/-- A text begins as a value does: not with a blank, nor with the end of a list. -/
def Opens (cs : List Char) : Prop :=
  ∃ c tail, cs = c :: tail ∧ ¬ (c = ' ' ∨ c = '\n' ∨ c = '\r' ∨ c = '\t') ∧ c ≠ ']'

theorem Opens.of_digit {c : Char} (digit : isDigit c) (tail : List Char) : Opens (c :: tail) := by
  refine ⟨c, tail, rfl, ?_, ?_⟩
  · rintro (rfl | rfl | rfl | rfl) <;> cases digit
  · rintro rfl
    cases digit

theorem Opens.append {cs : List Char} (opens : Opens cs) (rest : List Char) :
    Opens (cs ++ rest) := by
  obtain ⟨c, tail, rfl, visible, open'⟩ := opens
  exact ⟨c, tail ++ rest, rfl, visible, open'⟩

theorem opens_number {negative : Bool} {cs : List Char} {result : Json × List Char}
    (read : number negative cs = some result) : Opens cs := by
  obtain ⟨c, tail, rfl, digit⟩ := head_of_number read
  exact .of_digit digit tail

/-- A sign in front of a number, or none. -/
theorem Opens.signed {cs : List Char} (opens : Opens cs) (negative : Prop) [Decidable negative] :
    Opens ((if negative then ['-'] else []) ++ cs) := by
  split
  · exact ⟨'-', cs, rfl, by decide, by decide⟩
  · exact opens

theorem opens_write (v : Json) : Opens v.write := by
  have closes : Closes [] := by
    intro c none
    cases none
  cases v with
  | null => exact ⟨'n', _, by rw [write], by decide, by decide⟩
  | bool b =>
    cases b with
    | true => exact ⟨'t', _, by rw [write]; rfl, by decide, by decide⟩
    | false => exact ⟨'f', _, by rw [write]; rfl, by decide, by decide⟩
  | int n =>
    have read := number_whole true (isDigit_toDigits n.natAbs)
      (List.ne_nil_of_length_pos Nat.length_toDigits_pos) closes
    rw [List.append_nil] at read
    rw [write]
    exact (opens_number read).signed _
  | float x =>
    rw [write]
    cases x with
    | infinite negative =>
      rw [Format.write, infinity_eq]
      exact Opens.signed ⟨'I', _, rfl, by decide, by decide⟩ _
    | finite x =>
      have read := number_magnitude Format.json x.shortest true closes
      rw [List.append_nil] at read
      exact (opens_number read).signed _
  | str s => exact ⟨'"', _, by rw [write, writeString]; rfl, by decide, by decide⟩
  | arr items => exact ⟨'[', _, by rw [write_arr]; rfl, by decide, by decide⟩
  | obj members => exact ⟨'{', _, by rw [write_obj]; rfl, by decide, by decide⟩

theorem closes_cons {c : Char} (closing : c = ',' ∨ c = ']' ∨ c = '}') (rest : List Char) :
    Closes (c :: rest) := by
  intro d head
  exact Option.some.inj head ▸ closing

theorem separated_map_cons {α : Type} (f : α → List Char) (first second : α) (rest : List α) :
    separated ((first :: second :: rest).map f) =
      f first ++ ',' :: separated ((second :: rest).map f) :=
  rfl

/-- The items of a list are read one after the other, up to its end. -/
theorem items_written {item : Json} {others : List Json}
    (read : ∀ v ∈ item :: others, ReadBack v) (fuel : Nat) (rest : List Char)
    (enough : (separated ((item :: others).map write)).length < fuel) :
    items fuel (separated ((item :: others).map write) ++ ']' :: rest) =
      some ((item :: others).map canonical, rest) := by
  induction others generalizing item fuel with
  | nil =>
    obtain ⟨fuel, rfl⟩ : ∃ n, fuel = n + 1 := ⟨fuel - 1, by omega⟩
    have first := read item List.mem_cons_self fuel (']' :: rest) (Nat.le_of_lt_succ enough)
      (closes_cons (.inr (.inl rfl)) rest)
    rw [List.map_singleton, separated, items, first]
    rfl
  | cons next others ih =>
    obtain ⟨fuel, rfl⟩ : ∃ n, fuel = n + 1 := ⟨fuel - 1, by omega⟩
    rw [separated_map_cons, List.length_append, List.length_cons] at enough
    have first := read item List.mem_cons_self fuel
      (',' :: (separated ((next :: others).map write) ++ ']' :: rest)) (by omega)
      (closes_cons (.inl rfl) _)
    have later := ih (fun v member => read v (List.mem_cons_of_mem _ member)) fuel (by omega)
    rw [separated_map_cons, List.append_assoc, List.cons_append, items, first]
    simp only
    rw [skipBlanks_cons (by decide)]
    simp only
    rw [later]
    rfl

theorem readBack_arr {list : List Json} (read : ∀ v ∈ list, ReadBack v) :
    ReadBack (.arr list) := by
  intro fuel rest enough _
  rw [write_arr, List.length_append, List.length_cons] at enough
  obtain ⟨fuel, rfl⟩ : ∃ n, fuel = n + 1 := ⟨fuel - 1, by omega⟩
  rw [write_arr, canonical_arr, List.append_assoc, List.cons_append, List.singleton_append, value,
    skipBlanks_cons (by decide)]
  cases list with
  | nil => rfl
  | cons item others =>
    have inside := items_written read fuel rest
      (by rw [List.length_singleton] at enough; omega)
    have opens : Opens (separated ((item :: others).map write) ++ ']' :: rest) := by
      cases others with
      | nil => exact (opens_write item).append _
      | cons next others => exact ((opens_write item).append _).append _
    obtain ⟨c, tail, begins, visible, open'⟩ := opens
    rw [begins] at inside ⊢
    simp only [skipBlanks_cons visible]
    simp [open', inside]

/-- One member is read, and then what stands behind it. -/
theorem members_step {member : String × Json} (read : ReadBack member.2) (fuel : Nat)
    (done : List (String × Json)) {tail : List Char} (enough : (writeMember member).length ≤ fuel)
    (closes : Closes tail) :
    members (fuel + 1) done (writeMember member ++ tail) =
      match skipBlanks tail with
      | ',' :: rest => members fuel (canonicalMember member :: done) rest
      | '}' :: rest => some ((canonicalMember member :: done).reverse, rest)
      | _ => none := by
  obtain ⟨key, v⟩ := member
  have short : v.write.length ≤ fuel := by
    simp only [writeMember, List.length_append, List.length_cons] at enough
    omega
  have named := string_written key.toList (':' :: (v.write ++ tail))
  have found : value fuel (v.write ++ tail) = some (v.canonical, tail) :=
    read fuel tail short closes
  have text : writeMember (key, v) ++ tail =
      '"' :: (key.toList.flatMap writeChar ++ '"' :: ':' :: (v.write ++ tail)) := by
    simp [writeMember, writeString]
  rw [text, members, skipBlanks_cons (by decide)]
  simp only [named, skipBlanks_cons (show ¬ (':' = ' ' ∨ _) by decide), found, String.ofList_toList]
  rfl

/-- The members of an object are read one after the other, up to its end. -/
theorem members_written {member : String × Json} {others : List (String × Json)}
    (read : ∀ m ∈ member :: others, ReadBack m.2) (fuel : Nat) (done : List (String × Json))
    (rest : List Char) (enough : (separated ((member :: others).map writeMember)).length < fuel) :
    members fuel done (separated ((member :: others).map writeMember) ++ '}' :: rest) =
      some (done.reverse ++ (member :: others).map canonicalMember, rest) := by
  induction others generalizing member fuel done with
  | nil =>
    obtain ⟨fuel, rfl⟩ : ∃ n, fuel = n + 1 := ⟨fuel - 1, by omega⟩
    have last := members_step (read member List.mem_cons_self) fuel done
      (Nat.le_of_lt_succ enough) (closes_cons (.inr (.inr rfl)) rest)
    rw [List.map_singleton, separated, last, List.map_singleton, ← List.reverse_cons]
    rfl
  | cons next others ih =>
    obtain ⟨fuel, rfl⟩ : ∃ n, fuel = n + 1 := ⟨fuel - 1, by omega⟩
    rw [separated_map_cons, List.length_append, List.length_cons] at enough
    have first := members_step (read member List.mem_cons_self) fuel done (by omega)
      (closes_cons (.inl rfl) (separated ((next :: others).map writeMember) ++ '}' :: rest))
    have later := ih (fun m held => read m (List.mem_cons_of_mem _ held)) fuel
      (canonicalMember member :: done) (by omega)
    rw [skipBlanks_cons (by decide)] at first
    rw [separated_map_cons, List.append_assoc, List.cons_append, first]
    simp only
    rw [later, List.reverse_cons, List.append_assoc]
    rfl

theorem readBack_obj {list : Table String Json} (distinct : list.Distinct)
    (read : ∀ m ∈ list, ReadBack m.2) : ReadBack (.obj list) := by
  intro fuel rest enough _
  rw [write_obj, List.length_append, List.length_cons] at enough
  obtain ⟨fuel, rfl⟩ : ∃ n, fuel = n + 1 := ⟨fuel - 1, by omega⟩
  rw [write_obj, canonical_obj, sorted_canonicalMember, List.append_assoc, List.cons_append,
    List.singleton_append, value, skipBlanks_cons (by decide)]
  have inOrder : Table.Distinct (list.sorted.map canonicalMember) :=
    (distinct.of_perm list.sorted_perm.symm).map canonical
  have each : ∀ m ∈ list.sorted, ReadBack m.2 := fun m member =>
    read m (list.sorted_perm.mem_iff.mp member)
  cases members' : list.sorted with
  | nil => rfl
  | cons member others =>
    rw [members'] at inOrder each enough
    have inside := members_written each fuel [] rest
      (by rw [List.length_singleton] at enough; omega)
    have quoted : ∃ tail, separated ((member :: others).map writeMember) ++ '}' :: rest =
        '"' :: tail := by
      cases others with
      | nil => exact ⟨_, rfl⟩
      | cons next others => exact ⟨_, rfl⟩
    obtain ⟨tail, begins⟩ := quoted
    rw [begins] at inside ⊢
    simp only [skipBlanks_cons (show ¬ ('"' = ' ' ∨ _) by decide), inside, Option.map_some,
      List.reverse_nil, List.nil_append, inOrder.ofEntries_eq]
    rfl

/-- What is written of a value is read as its canonical form. -/
theorem value_write {v : Json} (wellFormed : v.WellFormed) : ReadBack v := by
  induction v using inductOn with
  | scalar v notArr notObj =>
    intro fuel rest enough closes
    obtain ⟨c, tail, begins, _⟩ := opens_write v
    obtain ⟨fuel, rfl⟩ : ∃ n, fuel = n + 1 := by
      rw [begins, List.length_cons] at enough
      exact ⟨fuel - 1, by omega⟩
    rw [canonical_of_plain notArr notObj]
    cases v with
    | null => exact value_null fuel rest
    | bool b => exact value_bool b fuel rest
    | int n => exact value_int n fuel closes
    | float x => exact value_float x fuel closes
    | str s => exact value_str s fuel rest
    | arr items => exact absurd rfl notArr
    | obj members => exact absurd rfl notObj
  | arr items ih =>
    rw [WellFormed, wellFormedItems_iff] at wellFormed
    exact readBack_arr fun v member => ih v member (wellFormed v member)
  | obj members ih =>
    rw [WellFormed, wellFormedMembers_iff] at wellFormed
    exact readBack_obj wellFormed.1 fun m member => ih m member (wellFormed.2 m member)

end Reader

/-- What is written of a value is read as the canonical form of the value. -/
theorem ofText?_spelled {v : Json} (wellFormed : v.WellFormed) :
    ofText? v.spelled = some v.canonical := by
  have none : Reader.Closes [] := by
    intro c head
    cases head
  have read := Reader.value_write wellFormed (v.spelled.length + 1) []
    (by rw [spelled, String.length_ofList]; omega) none
  rw [List.append_nil] at read
  rw [ofText?, spelled, String.toList_ofList, ← spelled, read]
  rfl

end Upkeep.Json
