import Upkeep.Proofs.Json.Writable
import Upkeep.Proofs.Json.Written
import Upkeep.Proofs.Number.Double

/-! The text of a value is canonical, and fit for a log: two values have the same text exactly if
they are the same up to the order of members, and a text is one line of printable ASCII characters.
A value has one unless an integer in it is too long. -/
namespace Upkeep.Json

/-! ### The characters of a text -/

/-- All characters are printable ones of ASCII. -/
def Legible (text : List Char) : Prop := ∀ c ∈ text, ' ' ≤ c ∧ c ≤ '~'

@[simp] theorem legible_nil : Legible [] := by simp [Legible]

@[simp] theorem legible_cons {c : Char} {text : List Char} :
    Legible (c :: text) ↔ (' ' ≤ c ∧ c ≤ '~') ∧ Legible text :=
  List.forall_mem_cons

@[simp] theorem legible_append {front back : List Char} :
    Legible (front ++ back) ↔ Legible front ∧ Legible back :=
  List.forall_mem_append

theorem legible_digits {digits : List Char} (all : ∀ c ∈ digits, Reader.isDigit c) :
    Legible digits := by
  intro c member
  have digit := all c member
  rw [Reader.isDigit, Bool.and_eq_true, decide_eq_true_eq, decide_eq_true_eq] at digit
  exact ⟨Char.le_trans (by decide) digit.1, Char.le_trans digit.2 (by decide)⟩

theorem legible_zeros (k : Nat) : Legible (zeros k) := legible_digits (Reader.isDigit_zeros k)

theorem legible_toDigits (n : Nat) : Legible (Nat.toDigits 10 n) :=
  legible_digits (Reader.isDigit_toDigits n)

section
variable {digits : List Char} (legible : Legible digits)
include legible

theorem Legible.take (k : Nat) : Legible (digits.take k) :=
  fun c member => legible c (List.mem_of_mem_take member)

theorem Legible.drop (k : Nat) : Legible (digits.drop k) :=
  fun c member => legible c (List.mem_of_mem_drop member)

theorem legible_positional (leading : Int) : Legible (positional digits leading) := by
  cases leading with
  | ofNat k =>
    rw [positional]
    split <;> simp [legible.take, legible.drop, legible_zeros]
  | negSucc k =>
    rw [positional]
    simp [legible, legible_zeros]

theorem legible_scientific (width : Nat) (leading : Int) :
    Legible (scientific width digits leading) := by
  have front := legible.take 1
  have back := legible.drop 1
  rw [scientific]
  generalize digits.take 1 = first at *
  generalize digits.drop 1 = others at *
  split <;> split <;> simp [front, back, legible_zeros, legible_toDigits]

end

theorem legible_magnitude (f : Format) (d : Decimal) : Legible (f.magnitude d) := by
  have kept : Legible (withoutTrailingZeros (Nat.toDigits 10 d.digits)) := by
    obtain ⟨k, split⟩ := Reader.withoutTrailingZeros_append
      (List.ne_nil_of_length_pos (Nat.length_toDigits_pos (b := 10) (n := d.digits)))
    have whole := legible_toDigits d.digits
    rw [split, legible_append] at whole
    exact whole.1
  rw [Format.magnitude]
  split
  · exact legible_positional kept _
  · exact legible_scientific kept _ _

theorem legible_hex (width code : Nat) : Legible (Text.hex width code) := by
  have digit : ∀ d < 16, ' ' ≤ d.digitChar ∧ d.digitChar ≤ '~' := by decide
  intro c member
  obtain ⟨d, small, rfl⟩ := Text.mem_hex member
  exact digit d small

theorem legible_unit (code : Nat) : Legible (unit code) := by
  simp [unit, legible_hex]

theorem legible_writeChar (c : Char) : Legible (writeChar c) := by
  rw [writeChar]
  split_ifs with quote backslash newline return' tab backspace feed printable
  iterate 7 simp
  · simpa using printable
  · rw [escapedCode]
    split <;> simp [legible_unit]

theorem legible_writeString (s : String) : Legible (writeString s) := by
  have inside : Legible (s.toList.flatMap writeChar) := by
    intro c member
    obtain ⟨d, _, written⟩ := List.mem_flatMap.mp member
    exact legible_writeChar d c written
  simp [writeString, inside]

theorem legible_separated {texts : List (List Char)} (legible : ∀ text ∈ texts, Legible text) :
    Legible (separated texts) := by
  induction texts with
  | nil => exact legible_nil
  | cons text rest ih =>
    have first := legible text List.mem_cons_self
    have later := ih fun t member => legible t (List.mem_cons_of_mem _ member)
    cases rest with
    | nil => exact first
    | cons next others => simp [separated, first, later]

theorem legible_write (v : Json) : Legible v.write := by
  induction v using inductOn with
  | scalar v notArr notObj =>
    cases v with
    | null => simp [write]
    | bool b => cases b <;> simp [write]
    | int n =>
      rw [write, writeInt]
      split <;> simp [legible_toDigits]
    | float x =>
      rw [write]
      cases x with
      | infinite negative => cases negative <;> simp [Format.write, Format.json]
      | finite x =>
        rw [Format.write]
        split <;> simp [legible_magnitude]
    | str s =>
      rw [write]
      exact legible_writeString s
    | arr items => exact absurd rfl notArr
    | obj members => exact absurd rfl notObj
  | arr items ih =>
    have inside : Legible (separated (items.map write)) := by
      apply legible_separated
      intro text written
      obtain ⟨item, member, rfl⟩ := List.mem_map.mp written
      exact ih item member
    simp [write_arr, inside]
  | obj members ih =>
    have inside : Legible (separated ((Table.sorted members).map writeMember)) := by
      apply legible_separated
      intro text written
      obtain ⟨member, listed, rfl⟩ := List.mem_map.mp written
      have there := (Table.sorted_perm members).mem_iff.mp listed
      simp [writeMember, legible_writeString, ih member there]
    simp [write_obj, inside]

/-! ### Texts and values -/

theorem spelled_eq_iff {a b : Json} (left : a.WellFormed) (right : b.WellFormed) :
    a.spelled = b.spelled ↔ a.Reordered b := by
  rw [← canonical_eq_iff left right]
  constructor
  · intro same
    have read := ofText?_spelled left
    rw [same, ofText?_spelled right] at read
    exact (Option.some.inj read).symm
  · intro same
    rw [spelled, spelled, ← write_canonical left, ← write_canonical right, same]

/-- A value has a text unless an integer in it is too long. The text tells it from all others, up to
the order of members: an integer, a double, a truth value and a string have different texts, and so
have any two doubles, the two zeros among them. It is one line of printable ASCII characters. -/
theorem text_eq_iff {a b : Json} (left : a.WellFormed) (right : b.WellFormed) :
    (¬ a.Writable → a.text = .error .overlong) ∧
    (a.Writable → b.Writable → ∃ one other, a.text = .ok one ∧ b.text = .ok other ∧
      (one = other ↔ a.Reordered b)) ∧
    ∀ one, a.text = .ok one → ∀ c ∈ one.toList, ' ' ≤ c ∧ c ≤ '~' := by
  refine ⟨(text_eq_error_iff a _).mpr, ?_, ?_⟩
  · intro first second
    exact ⟨_, _, first.text_eq, second.text_eq, spelled_eq_iff left right⟩
  · intro one written
    obtain ⟨_, rfl⟩ := (text_eq_ok_iff a one).mp written
    rw [spelled, String.toList_ofList]
    exact legible_write a

/-- One as a double. -/
def doubleOne : Double := Double.ofDecimal false ⟨1, 0⟩

def labelled : Json :=
  .obj [("metadata", .obj [("tier", .str "cache"), ("app", .null)]),
    ("data", .arr [.int 1, .float doubleOne, .str "a\nb"])]

/-- The same with the members in another order, within and without. -/
def relabelled : Json :=
  .obj [("data", .arr [.int 1, .float doubleOne, .str "a\nb"]),
    ("metadata", .obj [("app", .null), ("tier", .str "cache")])]

theorem text_eq_iff_labelled :
    labelled.WellFormed ∧ relabelled.WellFormed ∧ labelled.Writable ∧ relabelled.Writable ∧
      (∃ text, labelled.text = .ok text ∧ relabelled.text = .ok text ∧
        ∀ c ∈ text.toList, ' ' ≤ c ∧ c ≤ '~') ∧
      [Json.int 1, .float doubleOne, .bool true, .str "1"].Pairwise fun a b =>
        ∃ one other, a.text = .ok one ∧ b.text = .ok other ∧ one ≠ other := by
  have left : labelled.WellFormed := by
    simp [labelled, WellFormed, WellFormedMembers, WellFormedItems, Table.Distinct, Table.keys]
  have right : relabelled.WellFormed := by
    simp [relabelled, WellFormed, WellFormedMembers, WellFormedItems, Table.Distinct, Table.keys]
  have short : (int 1).Writable := (writable_int_iff 1).mpr (by decide)
  have first : labelled.Writable := by simp [labelled, short]
  have second : relabelled.Writable := by simp [relabelled, short]
  have scalars : List.Forall₂ Reordered [.int 1, .float doubleOne, .str "a\nb"]
      [.int 1, .float doubleOne, .str "a\nb"] :=
    .cons (.plain (by decide) (by decide)) (.cons (.plain (by decide) (by decide))
      (.cons (.plain (by decide) (by decide)) .nil))
  have labels : Reordered (.obj [("tier", .str "cache"), ("app", .null)])
      (.obj [("app", .null), ("tier", .str "cache")]) :=
    .obj (.swap _ _ _) (.refl _) rfl
      (.cons (.plain (by decide) (by decide)) (.cons (.plain (by decide) (by decide)) .nil))
  have reordered : labelled.Reordered relabelled :=
    .obj (.swap _ _ _) (.refl _) rfl (.cons (.arr scalars) (.cons labels .nil))
  obtain ⟨_, written, legible⟩ := text_eq_iff left right
  obtain ⟨one, other, texted, texted', alike⟩ := written first second
  obtain rfl := alike.mpr reordered
  refine ⟨left, right, first, second, ⟨one, texted, texted', legible one texted⟩, ?_⟩
  have apart : ∀ a b : Json, a.WellFormed → b.WellFormed → a.Writable → b.Writable →
      ¬ a.Reordered b → ∃ one other, a.text = .ok one ∧ b.text = .ok other ∧ one ≠ other := by
    intro a b good good' writable writable' differ
    obtain ⟨_, written, _⟩ := text_eq_iff good good'
    obtain ⟨one, other, texted, texted', alike⟩ := written writable writable'
    exact ⟨one, other, texted, texted', mt alike.mp differ⟩
  simp only [List.pairwise_cons, List.mem_cons, List.not_mem_nil, or_false, forall_eq_or_imp,
    forall_eq, IsEmpty.forall_iff, implies_true, List.Pairwise.nil, and_true]
  refine ⟨⟨?_, ?_, ?_⟩, ⟨?_, ?_⟩, ?_⟩ <;>
    exact apart _ _ trivial trivial (by simp [short]) (by simp)
      (by intro reordered; cases reordered)

/-- An integer that is too long by one digit. -/
def overlong : Int := (10 : Int) ^ Overlong.limit

/-- Equal values may have no text at all, and two different ones if they are worth the same: an
object with an integer that is too long, and the two zeros among the doubles. -/
theorem texts_of_equals :
    (Json.obj [("n", .int overlong)]).WellFormed ∧
      (Json.obj [("n", .int overlong)]).text = .error .overlong ∧
      (Json.float (.finite (.zero false))).same (.float (.finite (.zero true))) ∧
      (Json.float (.finite (.zero false))).text = .ok "0.0" ∧
      (Json.float (.finite (.zero true))).text = .ok "-0.0" := by
  have ten : Int.natAbs 10 = 10 := rfl
  have size : overlong.natAbs = 10 ^ Overlong.limit := by rw [overlong, Int.natAbs_pow, ten]
  have long : Overlong.limit < (Nat.toDigits 10 overlong.natAbs).length := by
    rw [size]
    exact lt_length_toDigits (Nat.le_refl (10 ^ Overlong.limit))
  refine ⟨?_, ?_, by decide, by decide +kernel, by decide +kernel⟩
  · simp [WellFormed, WellFormedMembers, Table.Distinct, Table.keys]
  · rw [text_eq_error_iff, writable_obj_iff]
    intro all
    have within := (writable_int_iff overlong).mp (all _ List.mem_cons_self)
    exact Nat.not_lt.mpr within long

end Upkeep.Json
