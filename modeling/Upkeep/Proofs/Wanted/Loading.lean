import Upkeep.Proofs.Text.Utf8
import Upkeep.Wanted.Documents

/-! Documents read from their files. What was written comes back with its line ends made newlines and
nothing else changed; and files are refused exactly if one of them is not UTF-8, at the first place
where it spells no text. -/
namespace Upkeep.Text

/-! ### Line ends -/

/-- One text with each of its line ends that has a carriage return replaced by a newline. A carriage
return and the newline behind it are one line end. -/
inductive Unified : List Char → List Char → Prop
  | nil : Unified [] []
  | pair {rest made : List Char} (later : Unified rest made) :
    Unified ('\r' :: '\n' :: rest) ('\n' :: made)
  | single {rest made : List Char} (alone : rest.head? ≠ some '\n') (later : Unified rest made) :
    Unified ('\r' :: rest) ('\n' :: made)
  | other {c : Char} {rest made : List Char} (plain : c ≠ '\r') (later : Unified rest made) :
    Unified (c :: rest) (c :: made)

theorem unified_unifyNewlines (text : List Char) : Unified text (unifyNewlines text) := by
  fun_induction unifyNewlines text with
  | case1 => exact .nil
  | case2 rest ih => exact .pair ih
  | case3 rest unpaired ih =>
    refine .single ?_ ih
    intro newline
    obtain ⟨later, rfl⟩ := List.head?_eq_some_iff.mp newline
    exact unpaired later rfl
  | case4 c rest _ plain ih => exact .other plain ih

example : unifyNewlines "a\r\r\n\n\r".toList = "a\n\n\n\n".toList := by decide

theorem not_mem_unifyNewlines (text : List Char) : '\r' ∉ unifyNewlines text := by
  fun_induction unifyNewlines text with
  | case1 => exact List.not_mem_nil
  | case2 rest ih => simpa using ih
  | case3 rest _ ih => simpa using ih
  | case4 c rest _ plain ih => simpa [Ne.symm plain] using ih

theorem unifyNewlines_eq_self {text : List Char} (none : '\r' ∉ text) :
    unifyNewlines text = text := by
  fun_induction unifyNewlines text with
  | case1 => rfl
  | case2 rest => exact absurd List.mem_cons_self none
  | case3 rest => exact absurd List.mem_cons_self none
  | case4 c rest _ _ ih => rw [ih fun member => none (List.mem_cons_of_mem c member)]

theorem unifyNewlines_eq_self_iff (text : List Char) :
    unifyNewlines text = text ↔ '\r' ∉ text :=
  ⟨fun same => same ▸ not_mem_unifyNewlines text, unifyNewlines_eq_self⟩

end Upkeep.Text

namespace Upkeep.Wanted
open Text (Unified)
open Text.Utf8 (encoded Broken)

/-! ### One file -/

/-- The file of a text. -/
def fileOf (text : String) : ByteArray := (encoded text.toList).toByteArray

theorem isValidUTF8_fileOf (text : String) : (fileOf text).IsValidUTF8 :=
  ⟨text.toList, (Text.Utf8.utf8Encode_eq text.toList).symm⟩

theorem fromUTF8?_fileOf (text : String) : String.fromUTF8? (fileOf text) = some text := by
  have bytes : fileOf text = text.toByteArray := by
    rw [fileOf, ← Text.Utf8.utf8Encode_eq, String.utf8Encode_toList]
  rw [String.fromUTF8?, dif_pos (isValidUTF8_fileOf text), Option.some.injEq,
    ← String.toByteArray_inj]
  exact bytes

theorem fileText_fileOf (text : String) :
    fileText (some (fileOf text)) = .ok (String.ofList (Text.unifyNewlines text.toList)) := by
  rw [fileText, fromUTF8?_fileOf]

/-- A file is that of a text, or it is broken and refused. -/
theorem fileOf_or_refused (bytes : ByteArray) :
    ((∃ text, bytes = fileOf text) ∧ ¬ Broken bytes.data.toList) ∨
      fileText (some bytes) = .error .notUtf8 ∧ Broken bytes.data.toList := by
  have broken := Text.Utf8.broken_iff bytes.data.toList
  by_cases spelled : ∃ text, bytes.data.toList = encoded text
  · refine .inl ⟨?_, fun fault => broken.mp fault spelled⟩
    obtain ⟨text, same⟩ := spelled
    refine ⟨String.ofList text, ?_⟩
    rw [fileOf, String.toList_ofList, ← same, Text.Utf8.toByteArray_toList]
  · refine .inr ⟨?_, broken.mpr spelled⟩
    rw [fileText, String.fromUTF8?, dif_neg (mt (Text.Utf8.isValidUTF8_iff bytes).mp spelled)]

/-! ### Both files -/

namespace Documents

theorem ofFiles_fileOf (rules dashboard : String) :
    ofFiles (some (fileOf rules)) (some (fileOf dashboard)) =
      .ok ⟨String.ofList (Text.unifyNewlines rules.toList),
        String.ofList (Text.unifyNewlines dashboard.toList), legacyScrapeConfig⟩ := by
  rw [ofFiles, fileText_fileOf, fileText_fileOf]

/-- Two files are those of texts, or one of them is broken and both are refused. -/
theorem ofFiles_cases (rules dashboard : ByteArray) :
    (((∃ text, rules = fileOf text) ∧ ∃ text, dashboard = fileOf text) ∧
        ¬ (Broken rules.data.toList ∨ Broken dashboard.data.toList)) ∨
      ofFiles (some rules) (some dashboard) = .error .notUtf8 ∧
        (Broken rules.data.toList ∨ Broken dashboard.data.toList) := by
  rcases fileOf_or_refused rules with ⟨first, whole⟩ | ⟨refused, broken⟩
  · rcases fileOf_or_refused dashboard with ⟨second, other⟩ | ⟨refused, broken⟩
    · exact .inl ⟨⟨first, second⟩, not_or.mpr ⟨whole, other⟩⟩
    · obtain ⟨text, rfl⟩ := first
      exact .inr ⟨by rw [ofFiles, fileText_fileOf, refused], .inr broken⟩
  · exact .inr ⟨by rw [ofFiles, refused], .inl broken⟩

theorem ofList_unifyNewlines_eq_iff (text : String) :
    String.ofList (Text.unifyNewlines text.toList) = text ↔ '\r' ∉ text.toList := by
  rw [← Text.unifyNewlines_eq_self_iff, ← String.toList_inj, String.toList_ofList]

/-- The files of two texts give documents with these texts, their line ends unified; so a text comes
back as it is exactly if it has no carriage return. Files give documents exactly if they are files of
texts. They are refused as being no UTF-8 exactly if one of them is broken: if at some place there is
a byte that begins no number, or too few bytes, or too many for the number, or one half of a pair, or
a number beyond all code points. -/
theorem ofFiles_loads :
    (∀ rules dashboard : String, ∃ documents,
      ofFiles (some (fileOf rules)) (some (fileOf dashboard)) = .ok documents ∧
      Unified rules.toList documents.alertingRules.toList ∧
      Unified dashboard.toList documents.dashboard.toList ∧
      (documents.alertingRules = rules ↔ '\r' ∉ rules.toList) ∧
      (documents.dashboard = dashboard ↔ '\r' ∉ dashboard.toList)) ∧
    ∀ rules dashboard : ByteArray,
      ((∃ documents, ofFiles (some rules) (some dashboard) = .ok documents) ↔
        (∃ text, rules = fileOf text) ∧ ∃ text, dashboard = fileOf text) ∧
      (ofFiles (some rules) (some dashboard) = .error .notUtf8 ↔
        Broken rules.data.toList ∨ Broken dashboard.data.toList) := by
  constructor
  · intro rules dashboard
    refine ⟨_, ofFiles_fileOf rules dashboard, ?_, ?_, ofList_unifyNewlines_eq_iff rules,
      ofList_unifyNewlines_eq_iff dashboard⟩
    · rw [String.toList_ofList]
      exact Text.unified_unifyNewlines rules.toList
    · rw [String.toList_ofList]
      exact Text.unified_unifyNewlines dashboard.toList
  · intro rules dashboard
    rcases ofFiles_cases rules dashboard with ⟨⟨first, second⟩, whole⟩ | ⟨refused, broken⟩
    · have loaded : ∃ documents, ofFiles (some rules) (some dashboard) = .ok documents := by
        obtain ⟨rules, rfl⟩ := first
        obtain ⟨dashboard, rfl⟩ := second
        exact ⟨_, ofFiles_fileOf rules dashboard⟩
      refine ⟨iff_of_true loaded ⟨first, second⟩, iff_of_false ?_ whole⟩
      obtain ⟨documents, given⟩ := loaded
      rw [given]
      exact nofun
    · refine ⟨iff_of_false ?_ ?_, iff_of_true refused broken⟩
      · rw [refused]
        exact nofun
      · rintro ⟨⟨rules, rfl⟩, ⟨dashboard, rfl⟩⟩
        rw [ofFiles_fileOf] at refused
        cases refused

end Documents
end Upkeep.Wanted
