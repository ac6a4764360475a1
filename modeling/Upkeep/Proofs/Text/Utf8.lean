import Mathlib.Algebra.Order.Ring.Nat
import Mathlib.Data.List.TakeWhile

/-! UTF-8 by its bytes. A number is spelled with a first byte, which tells how many more there are,
and with bytes of six bits each. A text is spelled character by character, each with as few bytes as
will do. A sequence of bytes that spells no text spells some text up to a fault, and the faults are
of five kinds. -/
namespace Upkeep.Text.Utf8

/-- The least first byte of a number that has so many more bytes. -/
def mark : Nat → Nat
  | 0 => 0x00
  | 1 => 0xC0
  | 2 => 0xE0
  | _ => 0xF0

/-- How many first bytes there are for so many more bytes. -/
def room : Nat → Nat
  | 0 => 0x80
  | 1 => 0x20
  | 2 => 0x10
  | _ => 0x08

/-- The least number for which so many more bytes are needed. -/
def least : Nat → Nat
  | 0 => 0x00
  | 1 => 0x80
  | 2 => 0x800
  | _ => 0x10000

/-- The bytes behind the first one, the highest bits first. -/
def continuation : Nat → Nat → List UInt8
  | 0, _ => []
  | more + 1, value => .ofNat (0x80 + value / 64 ^ more % 64) :: continuation more value

/-- A number with so many bytes behind the first one. -/
def spelling (more value : Nat) : List UInt8 :=
  .ofNat (mark more + value / 64 ^ more) :: continuation more value

def moreFor (value : Nat) : Nat :=
  if value < 0x80 then 0 else if value < 0x800 then 1 else if value < 0x10000 then 2 else 3

def charBytes (c : Char) : List UInt8 := spelling (moreFor c.toNat) c.toNat

def encoded (text : List Char) : List UInt8 := text.flatMap charBytes

def continues (b : UInt8) : Bool := 0x80 ≤ b.toNat && b.toNat < 0xC0

/-- The byte is the first one of a number that has so many more. -/
structure Begins (more : Nat) (b : UInt8) : Prop where
  bound : more ≤ 3
  above : mark more ≤ b.toNat
  below : b.toNat < mark more + room more

/-- What no spelling of a text can go on with. -/
inductive Fault : List UInt8 → Prop
  /-- A byte that is the first one of no number. -/
  | stray {b : UInt8} {rest : List UInt8} (begins : ∀ more, ¬ Begins more b) : Fault (b :: rest)
  /-- Fewer bytes than the first one tells. -/
  | truncated {more : Nat} {b : UInt8} {rest : List UInt8} (begins : Begins more b)
      (short : (rest.takeWhile continues).length < more) : Fault (b :: rest)
  /-- More bytes than the number needs. -/
  | overlong {more value : Nat} {rest : List UInt8} (bound : more ≤ 3)
      (small : value < least more) : Fault (spelling more value ++ rest)
  /-- One half of a pair of UTF-16. -/
  | surrogate {value : Nat} {rest : List UInt8} (low : 0xD800 ≤ value) (high : value ≤ 0xDFFF) :
      Fault (spelling 2 value ++ rest)
  /-- A number that is no code point. -/
  | beyond {value : Nat} {rest : List UInt8} (high : 0x10FFFF < value)
      (fits : value < room 3 * 64 ^ 3) : Fault (spelling 3 value ++ rest)

/-! ### First bytes -/

theorem toNat_ofNat_of_lt {n : Nat} (small : n < 0x100) : (UInt8.ofNat n).toNat = n := by
  rw [UInt8.toNat_ofNat', Nat.mod_eq_of_lt small]

/-- Longer numbers have greater first bytes. -/
theorem first_lt : ∀ longer ≤ 3, ∀ more < longer, mark more + room more ≤ mark longer := by decide

theorem Begins.unique {b : UInt8} {one other : Nat} (first : Begins one b)
    (second : Begins other b) : one = other := by
  rcases Nat.lt_trichotomy one other with less | same | greater
  · have apart := first_lt other second.bound one less
    have below := first.below
    have above := second.above
    omega
  · exact same
  · have apart := first_lt one first.bound other greater
    have below := second.below
    have above := first.above
    omega

theorem mark_add_room_le : ∀ more ≤ 3, mark more + room more ≤ 0x100 := by decide

/-- The first byte of a number that is not too great for its length. -/
theorem first_of_fits {more value : Nat} (bound : more ≤ 3) (fits : value < room more * 64 ^ more) :
    (UInt8.ofNat (mark more + value / 64 ^ more)).toNat = mark more + value / 64 ^ more ∧
      Begins more (UInt8.ofNat (mark more + value / 64 ^ more)) := by
  have high : value / 64 ^ more < room more := Nat.div_lt_of_lt_mul (by rwa [Nat.mul_comm])
  have byte := mark_add_room_le more bound
  have whole : (UInt8.ofNat (mark more + value / 64 ^ more)).toNat = mark more + value / 64 ^ more :=
    toNat_ofNat_of_lt (by omega)
  refine ⟨whole, bound, ?_, ?_⟩
  · rw [whole]
    exact Nat.le_add_right _ _
  · rw [whole]
    exact Nat.add_lt_add_left high _

/-! ### The bytes behind -/

theorem continues_continuation (more value : Nat) : ∀ b ∈ continuation more value, continues b := by
  induction more with
  | zero => exact nofun
  | succ more ih =>
    intro b member
    rcases List.mem_cons.mp member with rfl | later
    · have bits : value / 64 ^ more % 64 < 64 := Nat.mod_lt _ (by decide)
      rw [continues, toNat_ofNat_of_lt (by omega)]
      simp only [Bool.and_eq_true, decide_eq_true_eq]
      omega
    · exact ih b later

theorem length_continuation (more value : Nat) : (continuation more value).length = more := by
  induction more with
  | zero => rfl
  | succ more ih => rw [continuation, List.length_cons, ih]

theorem mod_eq_of_continuation {more one other : Nat} {rest behind : List UInt8}
    (same : continuation more one ++ rest = continuation more other ++ behind) :
    one % 64 ^ more = other % 64 ^ more := by
  induction more with
  | zero => rw [Nat.pow_zero, Nat.mod_one, Nat.mod_one]
  | succ more ih =>
    obtain ⟨byte, later⟩ := List.cons.inj same
    have bits := congrArg UInt8.toNat byte
    have first : one / 64 ^ more % 64 < 64 := Nat.mod_lt _ (by decide)
    have second : other / 64 ^ more % 64 < 64 := Nat.mod_lt _ (by decide)
    rw [toNat_ofNat_of_lt (by omega), toNat_ofNat_of_lt (by omega)] at bits
    rw [Nat.pow_succ, Nat.mod_mul, Nat.mod_mul, ih later, Nat.add_left_cancel bits]

/-- The bits above those that are spelled do not matter. -/
theorem continuation_add (more high low : Nat) :
    continuation more (low + 64 ^ more * high) = continuation more low := by
  induction more generalizing high with
  | zero => rfl
  | succ more ih =>
    have shifted : low + 64 ^ (more + 1) * high = low + 64 ^ more * (64 * high) := by
      rw [Nat.pow_succ, Nat.mul_assoc]
    have positive : 0 < 64 ^ more := Nat.pow_pos (by decide)
    rw [shifted, continuation, continuation, ih, Nat.add_mul_div_left _ _ positive,
      Nat.add_mul_mod_self_left]

/-- Bytes that continue spell the lower bits of some number. -/
theorem exists_continuation {front : List UInt8} (all : ∀ b ∈ front, continues b) :
    ∃ value < 64 ^ front.length, front = continuation front.length value := by
  induction front with
  | nil => exact ⟨0, by decide, rfl⟩
  | cons b front ih =>
    obtain ⟨low, small, spelled⟩ := ih fun c member => all c (List.mem_cons_of_mem b member)
    have bounds := all b List.mem_cons_self
    rw [continues, Bool.and_eq_true, decide_eq_true_eq, decide_eq_true_eq] at bounds
    have positive : 0 < 64 ^ front.length := Nat.pow_pos (by decide)
    refine ⟨low + 64 ^ front.length * (b.toNat - 0x80), ?_, ?_⟩
    · rw [List.length_cons, Nat.pow_succ]
      have most : 64 ^ front.length * (b.toNat - 0x80) ≤ 64 ^ front.length * 63 :=
        Nat.mul_le_mul_left _ (by omega)
      omega
    · rw [List.length_cons, continuation, continuation_add, ← spelled,
        Nat.add_mul_div_left _ _ positive, Nat.div_eq_of_lt small, Nat.zero_add,
        Nat.mod_eq_of_lt (by omega), Nat.add_sub_cancel' bounds.1, UInt8.ofNat_toNat]

/-! ### Spelled numbers -/

theorem eq_of_spelling {more one other : Nat} (bound : more ≤ 3)
    (first : one < room more * 64 ^ more) (second : other < room more * 64 ^ more)
    {rest behind : List UInt8} (same : spelling more one ++ rest = spelling more other ++ behind) :
    one = other := by
  obtain ⟨byte, later⟩ := List.cons.inj same
  have high := congrArg UInt8.toNat byte
  rw [(first_of_fits bound first).1, (first_of_fits bound second).1] at high
  rw [← Nat.div_add_mod one (64 ^ more), ← Nat.div_add_mod other (64 ^ more),
    mod_eq_of_continuation later, Nat.add_left_cancel high]

theorem more_eq_of_spelling {more moreOther one other : Nat} (bound : more ≤ 3)
    (boundOther : moreOther ≤ 3) (first : one < room more * 64 ^ more)
    (second : other < room moreOther * 64 ^ moreOther) {rest behind : List UInt8}
    (same : spelling more one ++ rest = spelling moreOther other ++ behind) :
    more = moreOther := by
  have byte := (List.cons.inj same).1
  have begins := (first_of_fits bound first).2
  rw [byte] at begins
  exact begins.unique (first_of_fits boundOther second).2

/-- A first byte with enough bytes behind it spells a number. -/
theorem exists_spelling {more : Nat} {b : UInt8} {rest : List UInt8} (begins : Begins more b)
    (long : more ≤ (rest.takeWhile continues).length) :
    ∃ value behind, value < room more * 64 ^ more ∧ b :: rest = spelling more value ++ behind := by
  have length : ((rest.takeWhile continues).take more).length = more := by
    rw [List.length_take, Nat.min_eq_left long]
  have split : (rest.takeWhile continues).take more ++
      ((rest.takeWhile continues).drop more ++ rest.dropWhile continues) = rest := by
    rw [← List.append_assoc, List.take_append_drop, List.takeWhile_append_dropWhile]
  have all : ∀ c ∈ (rest.takeWhile continues).take more, continues c := fun c member =>
    List.mem_takeWhile_imp (List.mem_of_mem_take member)
  obtain ⟨low, small, spelled⟩ := exists_continuation all
  rw [length] at small spelled
  have positive : 0 < 64 ^ more := Nat.pow_pos (by decide)
  obtain ⟨_, above, below⟩ := begins
  refine ⟨low + 64 ^ more * (b.toNat - mark more),
    (rest.takeWhile continues).drop more ++ rest.dropWhile continues, ?_, ?_⟩
  · have most : 64 ^ more * (b.toNat - mark more) ≤ 64 ^ more * (room more - 1) :=
      Nat.mul_le_mul_left _ (by omega)
    have whole : 64 ^ more * (room more - 1) + 64 ^ more = room more * 64 ^ more := by
      rw [← Nat.mul_succ, Nat.mul_comm]
      congr 1
      omega
    omega
  · rw [spelling, continuation_add, ← spelled, Nat.add_mul_div_left _ _ positive,
      Nat.div_eq_of_lt small, Nat.zero_add, Nat.add_sub_cancel' above, UInt8.ofNat_toNat,
      List.cons_append, split]

/-! ### Characters -/

theorem moreFor_le (value : Nat) : moreFor value ≤ 3 := by
  unfold moreFor
  split_ifs <;> omega

theorem least_moreFor (value : Nat) : least (moreFor value) ≤ value := by
  unfold moreFor
  split_ifs <;> simp only [least] <;> omega

theorem fits_moreFor {value : Nat} (point : value ≤ 0x10FFFF) :
    value < room (moreFor value) * 64 ^ moreFor value := by
  unfold moreFor
  split_ifs <;> simp only [room] <;> omega

theorem moreFor_eq : ∀ more ≤ 3, ∀ value < room more * 64 ^ more, least more ≤ value →
    moreFor value = more := by
  intro more bound value fits needed
  unfold moreFor
  obtain rfl | rfl | rfl | rfl : more = 0 ∨ more = 1 ∨ more = 2 ∨ more = 3 := by omega
  all_goals
    simp only [room, least] at fits needed
    split_ifs <;> omega

theorem least_le_room : ∀ more ≤ 3, least more ≤ room more * 64 ^ more := by decide

theorem scalar_toNat (c : Char) : c.toNat < 0xD800 ∨ 0xDFFF < c.toNat ∧ c.toNat ≤ 0x10FFFF := by
  have valid := c.valid
  rw [UInt32.isValidChar, Nat.isValidChar, Char.toNat_val] at valid
  omega

theorem fits_char (c : Char) : c.toNat < room (moreFor c.toNat) * 64 ^ moreFor c.toNat := by
  have scalar := scalar_toNat c
  exact fits_moreFor (by omega)

/-- A number that is spelled where a character is has the value of the character. -/
theorem value_of_spelling {c : Char} {more value : Nat} {rest behind : List UInt8}
    (bound : more ≤ 3) (fits : value < room more * 64 ^ more)
    (same : charBytes c ++ rest = spelling more value ++ behind) :
    more = moreFor c.toNat ∧ value = c.toNat := by
  obtain rfl := more_eq_of_spelling (moreFor_le _) bound (fits_char c) fits same
  exact ⟨rfl, (eq_of_spelling (moreFor_le _) (fits_char c) fits same).symm⟩

theorem charBytes_append_inj {c d : Char} {rest behind : List UInt8}
    (same : charBytes c ++ rest = charBytes d ++ behind) : c = d ∧ rest = behind := by
  obtain ⟨_, value⟩ := value_of_spelling (moreFor_le _) (fits_char d) same
  obtain rfl := Char.toNat_inj.mp value
  exact ⟨rfl, List.append_cancel_left same⟩

/-! ### Faults -/

theorem Fault.ne_nil {bytes : List UInt8} (fault : Fault bytes) : bytes ≠ [] := by
  cases fault <;> exact List.cons_ne_nil _ _

theorem charBytes_append (c : Char) (rest : List UInt8) :
    charBytes c ++ rest = .ofNat (mark (moreFor c.toNat) + c.toNat / 64 ^ moreFor c.toNat) ::
      (continuation (moreFor c.toNat) c.toNat ++ rest) := rfl

theorem not_fault_charBytes (c : Char) (rest : List UInt8) : ¬ Fault (charBytes c ++ rest) := by
  intro fault
  have scalar := scalar_toNat c
  have begins := (first_of_fits (moreFor_le c.toNat) (fits_char c)).2
  generalize same : charBytes c ++ rest = bytes at fault
  cases fault with
  | stray none =>
    rw [charBytes_append, List.cons.injEq] at same
    exact none _ (same.1 ▸ begins)
  | truncated other short =>
    rw [charBytes_append, List.cons.injEq] at same
    rw [← same.1] at other
    rw [← same.2, other.unique begins,
      List.takeWhile_append_of_pos (continues_continuation _ _), List.length_append,
      length_continuation] at short
    omega
  | overlong bound small =>
    have fits := Nat.lt_of_lt_of_le small (least_le_room _ bound)
    obtain ⟨rfl, rfl⟩ := value_of_spelling bound fits same
    exact absurd (least_moreFor c.toNat) (Nat.not_le.mpr small)
  | surrogate low high =>
    obtain ⟨_, rfl⟩ := value_of_spelling (by decide) (by simp only [room]; omega) same
    omega
  | beyond high fits =>
    obtain ⟨_, rfl⟩ := value_of_spelling (by decide) fits same
    omega

theorem exists_char {value : Nat}
    (scalar : value < 0xD800 ∨ 0xDFFF < value ∧ value ≤ 0x10FFFF) :
    ∃ c : Char, c.toNat = value := by
  have valid : value.isValidChar := by
    rw [Nat.isValidChar]
    omega
  exact ⟨Char.ofNatAux value valid, rfl⟩

/-- Bytes begin with a character or with a fault. -/
theorem char_or_fault {bytes : List UInt8} (some : bytes ≠ []) :
    (∃ c rest, bytes = charBytes c ++ rest) ∨ Fault bytes := by
  obtain ⟨b, rest, rfl⟩ := List.exists_cons_of_ne_nil some
  by_cases begins : ∃ more, Begins more b
  · obtain ⟨more, begins⟩ := begins
    rcases Nat.lt_or_ge (rest.takeWhile continues).length more with short | long
    · exact .inr (.truncated begins short)
    · obtain ⟨value, behind, fits, spelled⟩ := exists_spelling begins long
      rw [spelled]
      rcases Nat.lt_or_ge value (least more) with small | needed
      · exact .inr (.overlong begins.bound small)
      · have length := moreFor_eq more begins.bound value fits needed
        by_cases scalar : value < 0xD800 ∨ 0xDFFF < value ∧ value ≤ 0x10FFFF
        · obtain ⟨c, rfl⟩ := exists_char scalar
          exact .inl ⟨c, behind, by rw [charBytes, length]⟩
        · refine .inr ?_
          by_cases beyond : 0x10FFFF < value
          · have four : more = 3 := by
              rw [← length, moreFor, if_neg (by omega), if_neg (by omega), if_neg (by omega)]
            subst four
            exact .beyond beyond fits
          · have three : more = 2 := by
              rw [← length, moreFor, if_neg (by omega), if_neg (by omega), if_pos (by omega)]
            subst three
            exact .surrogate (by omega) (by omega)
  · exact .inr (.stray (not_exists.mp begins))

/-! ### Texts -/

/-- The bytes spell a text up to some place and have a fault there. -/
def Broken (bytes : List UInt8) : Prop :=
  ∃ text rest, bytes = encoded text ++ rest ∧ Fault rest

theorem encoded_cons (c : Char) (text : List Char) :
    encoded (c :: text) = charBytes c ++ encoded text := List.flatMap_cons

/-- Bytes spell a text, or a text up to a fault. -/
theorem encoded_or_broken (bytes : List UInt8) :
    (∃ text, bytes = encoded text) ∨ Broken bytes := by
  induction length : bytes.length using Nat.strongRecOn generalizing bytes with
  | ind size ih =>
    by_cases none : bytes = []
    · exact .inl ⟨[], none⟩
    · rcases char_or_fault none with ⟨c, rest, rfl⟩ | fault
      · rw [charBytes_append, List.length_cons, List.length_append] at length
        rcases ih rest.length (by omega) rest rfl with ⟨text, rfl⟩ | ⟨text, later, rfl, fault⟩
        · exact .inl ⟨c :: text, (encoded_cons c text).symm⟩
        · exact .inr ⟨c :: text, later, by rw [encoded_cons, List.append_assoc], fault⟩
      · exact .inr ⟨[], bytes, rfl, fault⟩

/-- No text goes on with a fault where another one ends. -/
theorem not_fault_of_encoded {text other : List Char} {rest : List UInt8}
    (same : encoded text ++ rest = encoded other) : ¬ Fault rest := by
  induction text generalizing other with
  | nil =>
    cases other with
    | nil => exact fun fault => fault.ne_nil same
    | cons d other =>
      change rest = encoded (d :: other) at same
      rw [same, encoded_cons]
      exact not_fault_charBytes d (encoded other)
  | cons c text ih =>
    rw [encoded_cons, List.append_assoc] at same
    cases other with
    | nil => exact absurd same (List.cons_ne_nil _ _)
    | cons d other => exact ih (charBytes_append_inj (same.trans (encoded_cons d other))).2

theorem broken_iff (bytes : List UInt8) : Broken bytes ↔ ¬ ∃ text, bytes = encoded text := by
  constructor
  · rintro ⟨text, rest, rfl, fault⟩ ⟨other, same⟩
    exact not_fault_of_encoded same fault
  · exact (encoded_or_broken bytes).resolve_left

/-! ### The bytes of a string -/

theorem utf8EncodeChar_eq (c : Char) : String.utf8EncodeChar c = charBytes c := by
  have scalar := scalar_toNat c
  rw [String.utf8EncodeChar.eq_1, Char.toNat_val, charBytes, moreFor]
  -- The two case splits are the same, so that only four of the cases remain.
  split_ifs <;> try omega
  all_goals
    simp only [spelling, continuation, mark, List.cons.injEq, and_true]
    and_intros <;> exact congrArg UInt8.ofNat (by omega)

theorem utf8Encode_eq (text : List Char) : text.utf8Encode = (encoded text).toByteArray := by
  rw [List.utf8Encode.eq_1, encoded, funext utf8EncodeChar_eq]

theorem toByteArray_toList (bytes : ByteArray) : bytes.data.toList.toByteArray = bytes :=
  ByteArray.ext (by rw [List.data_toByteArray, Array.toArray_toList])

theorem isValidUTF8_iff (bytes : ByteArray) :
    bytes.IsValidUTF8 ↔ ∃ text, bytes.data.toList = encoded text := by
  constructor
  · rintro ⟨text, rfl⟩
    refine ⟨text, ?_⟩
    rw [utf8Encode_eq, List.data_toByteArray, List.toList_toArray]
  · rintro ⟨text, spelled⟩
    refine ⟨text, ?_⟩
    rw [utf8Encode_eq, ← spelled, toByteArray_toList]

end Upkeep.Text.Utf8
