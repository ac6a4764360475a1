import Mathlib.Data.List.Nodup
import Mathlib.Data.List.Perm.Subperm
import Upkeep.Table

/-! Tables seen through their look-ups. Two kinds of statements: what a look-up finds after an
operation, and when an operation leaves the table as it is, entry for entry. The second kind is what
makes a repeated write no write at all. Then writes in another order, and at the end tables whose
entries are put in order. -/
namespace Upkeep.Table
variable {κ α β : Type} [DecidableEq κ]

theorem mem_of_get? {t : Table κ α} {key : κ} {value : α} (found : t.get? key = some value) :
    (key, value) ∈ t := by
  induction t with
  | nil => cases found
  | cons e rest ih =>
    obtain ⟨k, v⟩ := e
    by_cases hk : k = key
    · subst hk
      have same : v = value := by simpa [get?] using found
      exact same ▸ List.mem_cons_self
    · exact List.mem_cons_of_mem _ (ih (by simpa [get?, hk] using found))

theorem get?_eq_none_iff (t : Table κ α) (key : κ) : t.get? key = none ↔ key ∉ t.keys := by
  rw [← get?_isSome_iff, Bool.not_eq_true, Option.isSome_eq_false_iff, Option.isNone_iff_eq_none]

theorem Distinct.of_cons {k : κ} {v : α} {rest : Table κ α} (distinct : Distinct ((k, v) :: rest)) :
    rest.get? k = none ∧ rest.Distinct := by
  have parts := List.nodup_cons.mp distinct
  exact ⟨(get?_eq_none_iff rest k).mpr parts.1, parts.2⟩

theorem Distinct.cons {k : κ} {v : α} {rest : Table κ α} (absent : rest.get? k = none)
    (distinct : rest.Distinct) : Distinct ((k, v) :: rest) :=
  List.nodup_cons.mpr ⟨(get?_eq_none_iff rest k).mp absent, distinct⟩

theorem Distinct.get?_of_mem {t : Table κ α} (distinct : t.Distinct) {key : κ} {value : α}
    (member : (key, value) ∈ t) : t.get? key = some value := by
  induction t with
  | nil => cases member
  | cons e rest ih =>
    obtain ⟨k, v⟩ := e
    obtain ⟨absent, restDistinct⟩ := distinct.of_cons
    rcases List.mem_cons.mp member with same | later
    · cases same
      simp [get?]
    · have found := ih restDistinct later
      have different : k ≠ key := by
        intro same
        rw [← same, absent] at found
        cases found
      simpa [get?, different] using found

theorem eq_nil_iff_get? (t : Table κ α) : t = [] ↔ ∀ key, t.get? key = none := by
  constructor
  · intro empty key
    rw [empty, get?_nil]
  · intro absent
    cases t with
    | nil => rfl
    | cons e rest => simpa [get?] using absent e.1

theorem Distinct.eq_singleton {t : Table κ α} (distinct : t.Distinct) {key : κ} {value : α}
    (found : t.get? key = some value) (only : ∀ other, other ≠ key → t.get? other = none) :
    t = [(key, value)] := by
  cases t with
  | nil => cases found
  | cons e rest =>
    obtain ⟨k, v⟩ := e
    obtain ⟨absent, _⟩ := distinct.of_cons
    have hk : k = key := by
      by_contra different
      simpa [get?] using only k different
    subst hk
    have hv : v = value := by simpa [get?] using found
    have empty : rest = [] := by
      rw [eq_nil_iff_get?]
      intro other
      by_cases ho : other = k
      · exact ho ▸ absent
      · simpa [get?, Ne.symm ho] using only other ho
    rw [empty, hv]

theorem get?_append (a b : Table κ α) (key : κ) :
    get? (a ++ b) key = (a.get? key).or (b.get? key) := by
  induction a with
  | nil => rfl
  | cons e rest ih =>
    obtain ⟨k, v⟩ := e
    by_cases hk : k = key
    · simp [get?, hk]
    · simpa [get?, hk] using ih

theorem get?_map (f : α → β) (t : Table κ α) (key : κ) :
    get? (t.map fun e => (e.1, f e.2)) key = (t.get? key).map f := by
  induction t with
  | nil => rfl
  | cons e rest ih =>
    obtain ⟨k, v⟩ := e
    by_cases hk : k = key
    · simp [get?, hk]
    · simpa [get?, hk] using ih

omit [DecidableEq κ] in
theorem Distinct.map (f : α → β) {t : Table κ α} (distinct : t.Distinct) :
    Distinct (t.map fun e => (e.1, f e.2)) := by
  unfold Distinct keys at *
  rwa [List.map_map, show Prod.fst ∘ (fun e : κ × α => (e.1, f e.2)) = Prod.fst from rfl]

theorem Distinct.append {a b : Table κ α} (left : a.Distinct) (right : b.Distinct)
    (apart : ∀ key, b.get? key ≠ none → a.get? key = none) : Distinct (a ++ b) := by
  unfold Distinct keys at *
  rw [List.map_append, List.nodup_append]
  refine ⟨left, right, ?_⟩
  intro x hx y hy same
  subst same
  have present : b.get? x ≠ none := fun absent => (get?_eq_none_iff b x).mp absent hy
  exact (get?_eq_none_iff a x).mp (apart x present) hx

omit [DecidableEq κ] in
theorem Distinct.filter {t : Table κ α} (distinct : t.Distinct) (kept : κ × α → Bool) :
    Distinct (t.filter kept) :=
  (List.filter_sublist.map Prod.fst).nodup distinct

theorem Distinct.get?_filter {t : Table κ α} (distinct : t.Distinct) (kept : κ × α → Bool)
    (key : κ) :
    get? (t.filter kept) key = (t.get? key).filter fun value => kept (key, value) := by
  induction t with
  | nil => rfl
  | cons e rest ih =>
    obtain ⟨k, v⟩ := e
    obtain ⟨absent, others⟩ := distinct.of_cons
    have ih := ih others
    cases keeps : kept (k, v) with
    | false =>
      rw [List.filter_cons_of_neg (by simpa using keeps), ih, get?_cons]
      by_cases here : k = key
      · rw [if_pos here, ← here, absent]
        simp [Option.filter, keeps]
      · rw [if_neg here]
    | true =>
      rw [List.filter_cons_of_pos keeps, get?_cons, get?_cons, ih]
      by_cases here : k = key
      · rw [if_pos here, if_pos here, ← here]
        simp [Option.filter, keeps]
      · rw [if_neg here, if_neg here]

theorem get?_insertNew (t : Table κ α) (key : κ) (value : α) (other : κ) :
    (t.insertNew key value).get? other =
      if key = other then some ((t.get? key).getD value) else t.get? other := by
  unfold insertNew contains
  cases held : t.get? key with
  | none => simp [get?_insert]
  | some v =>
    by_cases ho : key = other
    · simpa [ho] using ho ▸ held
    · simp [ho]

theorem get?_insertAll (t : Table κ α) {entries : Table κ α} (distinct : entries.Distinct)
    (key : κ) : (t.insertAll entries).get? key = (entries.get? key).or (t.get? key) := by
  induction entries generalizing t with
  | nil => rfl
  | cons e rest ih =>
    obtain ⟨k, v⟩ := e
    obtain ⟨absent, restDistinct⟩ := distinct.of_cons
    rw [insertAll, ih _ restDistinct, get?_insert]
    by_cases hk : k = key
    · subst hk
      simp [absent, get?]
    · simp [get?, hk]

theorem Distinct.insertAll {t : Table κ α} (distinct : t.Distinct) (entries : List (κ × α)) :
    (t.insertAll entries).Distinct := by
  induction entries generalizing t with
  | nil => exact distinct
  | cons e rest ih => exact ih (distinct.insert e.1 e.2)

/-- Of all entries under a key the last one counts. -/
theorem get?_insertAll_last (t : Table κ α) (entries : List (κ × α)) (key : κ) :
    (t.insertAll entries).get? key =
      ((entries.filter fun entry => entry.1 = key).getLast?.map Prod.snd).or (t.get? key) := by
  induction entries generalizing t with
  | nil => rfl
  | cons entry rest ih =>
    obtain ⟨k, v⟩ := entry
    rw [insertAll, ih, get?_insert]
    by_cases here : k = key
    · rw [if_pos here, List.filter_cons_of_pos (by simpa using here), List.getLast?_cons]
      cases (rest.filter fun entry => entry.1 = key).getLast? <;> rfl
    · rw [if_neg here, List.filter_cons_of_neg (by simpa using here)]

/-- Keys that are there stay in their places, and new ones follow in the order of the entries. -/
theorem keys_insertAll (t : Table κ α) (entries : List (κ × α)) :
    (t.insertAll entries).keys =
      t.keys ++ ((entries.map Prod.fst).filter (· ∉ t.keys)).eraseDups := by
  induction entries generalizing t with
  | nil => exact (List.append_nil _).symm
  | cons entry rest ih =>
    obtain ⟨k, v⟩ := entry
    rw [insertAll, ih, keys_insert, List.map_cons]
    by_cases held : k ∈ t.keys
    · rw [if_pos held, List.filter_cons_of_neg (by simpa using held)]
    · have fresh : ∀ key, decide (key ∉ t.keys ++ [k]) = (!key == k && decide (key ∉ t.keys)) := by
        intro key
        by_cases same : key = k <;> simp [same]
      rw [if_neg held, List.filter_cons_of_pos (by simpa using held), List.eraseDups_cons,
        List.append_assoc, List.filter_filter]
      simp only [fresh]
      rfl

theorem insert_eq_self {t : Table κ α} {key : κ} {value : α} (held : t.get? key = some value) :
    t.insert key value = t := by
  induction t with
  | nil => cases held
  | cons e rest ih =>
    obtain ⟨k, v⟩ := e
    by_cases hk : k = key
    · have same : v = value := by simpa [get?, hk] using held
      simp [insert, hk, same]
    · have later : get? rest key = some value := by simpa [get?, hk] using held
      simp [insert, hk, ih later]

theorem insert_of_absent (t : Table κ α) {key : κ} (value : α) (absent : t.get? key = none) :
    t.insert key value = t ++ [(key, value)] := by
  induction t with
  | nil => rfl
  | cons e rest ih =>
    obtain ⟨k, v⟩ := e
    by_cases hk : k = key
    · simp [get?, hk] at absent
    · have later : get? rest key = none := by simpa [get?, hk] using absent
      simp [insert, hk, ih later]

theorem insertAll_of_absent {t entries : Table κ α} (distinct : Distinct (t ++ entries)) :
    t.insertAll entries = t ++ entries := by
  induction entries generalizing t with
  | nil => exact (List.append_nil t).symm
  | cons e rest ih =>
    obtain ⟨k, v⟩ := e
    have absent : t.get? k = none := by
      rw [get?_eq_none_iff]
      intro member
      rw [Distinct, keys, List.map_append, List.nodup_append] at distinct
      exact distinct.2.2 k member k List.mem_cons_self rfl
    rw [insertAll, insert_of_absent t v absent, ih (by rwa [List.append_assoc]), List.append_assoc]
    rfl

/-- Entries without repeated keys are the table that they leave. -/
theorem Distinct.ofEntries_eq {entries : Table κ α} (distinct : entries.Distinct) :
    ofEntries entries = entries :=
  insertAll_of_absent distinct

theorem erase_eq_self {t : Table κ α} {key : κ} (absent : t.get? key = none) :
    t.erase key = t := by
  induction t with
  | nil => rfl
  | cons e rest ih =>
    obtain ⟨k, v⟩ := e
    by_cases hk : k = key
    · simp [get?, hk] at absent
    · have later : get? rest key = none := by simpa [get?, hk] using absent
      simp [erase, hk, ih later]

/-- Of two writes under one key the second one counts. -/
theorem insert_insert (t : Table κ α) (key : κ) (first second : α) :
    (t.insert key first).insert key second = t.insert key second := by
  induction t with
  | nil => simp [insert]
  | cons e rest ih =>
    obtain ⟨k, v⟩ := e
    by_cases hk : k = key
    · simp [insert, hk]
    · simp [insert, hk, ih]

/-- The order of two writes does not matter if one of the keys is there already. -/
theorem insert_comm (t : Table κ α) {first second : κ} (different : first ≠ second)
    (held : t.get? first ≠ none) (a b : α) :
    (t.insert first a).insert second b = (t.insert second b).insert first a := by
  induction t with
  | nil => exact absurd rfl held
  | cons e rest ih =>
    obtain ⟨k, v⟩ := e
    by_cases one : k = first
    · simp [insert, one, different]
    · by_cases two : k = second
      · simp [insert, two, Ne.symm different]
      · rw [get?_cons, if_neg one] at held
        simp [insert, one, two, ih held]

/-- A table with two keys is the two entries, in one order or the other. -/
theorem Distinct.eq_pair {t : Table κ α} (distinct : t.Distinct) {first second : κ} {a b : α}
    (different : first ≠ second) (one : t.get? first = some a) (two : t.get? second = some b)
    (only : ∀ other, other ≠ first → other ≠ second → t.get? other = none) :
    t = [(first, a), (second, b)] ∨ t = [(second, b), (first, a)] := by
  cases t with
  | nil => cases one
  | cons e rest =>
    obtain ⟨k, v⟩ := e
    obtain ⟨absent, later⟩ := distinct.of_cons
    by_cases isFirst : k = first
    · subst isFirst
      rw [get?_cons, if_pos rfl] at one
      rw [get?_cons, if_neg different] at two
      have last : rest = [(second, b)] := by
        apply later.eq_singleton two
        intro other notSecond
        by_cases same : other = k
        · exact same ▸ absent
        · simpa [get?, Ne.symm same] using only other same notSecond
      exact .inl (by rw [last, Option.some.inj one])
    · by_cases isSecond : k = second
      · subst isSecond
        rw [get?_cons, if_neg isFirst] at one
        rw [get?_cons, if_pos rfl] at two
        have last : rest = [(first, a)] := by
          apply later.eq_singleton one
          intro other notFirst
          by_cases same : other = k
          · exact same ▸ absent
          · simpa [get?, Ne.symm same] using only other notFirst same
        exact .inr (by rw [last, Option.some.inj two])
      · have none := only k isFirst isSecond
        rw [get?_cons, if_pos rfl] at none
        cases none

/-- Tables without repeated keys have the same entries, in some order, if their look-ups agree. -/
theorem Distinct.perm_of_get? {a b : Table κ α} (left : a.Distinct) (right : b.Distinct)
    (agree : ∀ key, a.get? key = b.get? key) : a.Perm b := by
  apply (List.perm_ext_iff_of_nodup left.of_map right.of_map).mpr
  rintro ⟨key, value⟩
  constructor
  · intro member
    have found := left.get?_of_mem member
    exact mem_of_get? ((agree key).symm.trans found)
  · intro member
    have found := right.get?_of_mem member
    exact mem_of_get? ((agree key).trans found)

omit [DecidableEq κ] in
theorem Distinct.of_perm {a b : Table κ α} (distinct : a.Distinct) (perm : a.Perm b) : b.Distinct :=
  (perm.map Prod.fst).nodup_iff.mp distinct

/-- Two tables without repeated keys have the same keys if one is no longer and has them all. -/
theorem Distinct.keys_agree {a b : Table κ α} (left : a.Distinct) (long : b.length ≤ a.length)
    (included : ∀ key, a.get? key ≠ none → b.get? key ≠ none) (key : κ) :
    a.get? key = none ↔ b.get? key = none := by
  have sub : a.keys ⊆ b.keys := by
    intro x hx
    by_contra absent
    exact included x (fun h => (get?_eq_none_iff a x).mp h hx) ((get?_eq_none_iff b x).mpr absent)
  have perm : a.keys.Perm b.keys :=
    (left.subperm sub).perm_of_length_le (by simpa [keys] using long)
  rw [get?_eq_none_iff, get?_eq_none_iff, perm.mem_iff]

/-! ### Writes in another order -/

/-- The same entries, and the same of them under each key. -/
structure Alike (a b : Table κ α) : Prop where
  perm : a.Perm b
  looks : ∀ key, a.get? key = b.get? key

theorem perm_insert {t : Table κ α} {key : κ} {old : α} (held : t.get? key = some old) :
    ∃ rest, t.Perm ((key, old) :: rest) ∧
      ∀ value, (t.insert key value).Perm ((key, value) :: rest) := by
  induction t with
  | nil => cases held
  | cons e later ih =>
    obtain ⟨k, v⟩ := e
    by_cases here : k = key
    · subst here
      rw [get?_cons, if_pos rfl] at held
      cases held
      exact ⟨later, .refl _, fun value => by rw [insert, if_pos rfl]⟩
    · rw [get?_cons, if_neg here] at held
      obtain ⟨rest, before, after⟩ := ih held
      refine ⟨(k, v) :: rest, (before.cons _).trans (.swap _ _ _), fun value => ?_⟩
      rw [insert, if_neg here]
      exact ((after value).cons _).trans (.swap _ _ _)

theorem Alike.insert {a b : Table κ α} (alike : Alike a b) (key : κ) (value : α) :
    Alike (a.insert key value) (b.insert key value) where
  perm := by
    cases held : a.get? key with
    | none =>
      rw [insert_of_absent a value held, insert_of_absent b value (alike.looks key ▸ held)]
      exact alike.perm.append_right _
    | some old =>
      obtain ⟨rest, before, after⟩ := perm_insert held
      obtain ⟨others, before', after'⟩ := perm_insert ((alike.looks key).symm.trans held)
      have same : rest.Perm others := ((before.symm.trans alike.perm).trans before').cons_inv
      exact ((after value).trans (same.cons _)).trans (after' value).symm
  looks other := by rw [get?_insert, get?_insert, alike.looks]

theorem Alike.insertAll {a b : Table κ α} (alike : Alike a b) (entries : List (κ × α)) :
    Alike (a.insertAll entries) (b.insertAll entries) := by
  induction entries generalizing a b with
  | nil => exact alike
  | cons e rest ih => exact ih (alike.insert e.1 e.2)

theorem alike_insert_insert (t : Table κ α) {first second : κ} (different : first ≠ second)
    (a b : α) :
    Alike ((t.insert first a).insert second b) ((t.insert second b).insert first a) where
  perm := by
    by_cases one : t.get? first = none
    · by_cases two : t.get? second = none
      · have later : (t.insert first a).get? second = none := by
          rw [get?_insert, if_neg different, two]
        have later' : (t.insert second b).get? first = none := by
          rw [get?_insert, if_neg different.symm, one]
        rw [insert_of_absent _ b later, insert_of_absent _ a later', insert_of_absent t a one,
          insert_of_absent t b two, List.append_assoc, List.append_assoc]
        exact (List.Perm.swap _ _ _).append_left t
      · rw [insert_comm t different.symm two]
    · rw [insert_comm t different one]
  looks key := by
    rw [get?_insert, get?_insert, get?_insert, get?_insert]
    by_cases here : second = key
    · rw [if_pos here, if_neg (here ▸ different), if_pos here]
    · rw [if_neg here, if_neg here]

/-- Under different keys it does not matter in which order is written. -/
theorem Distinct.alike_insertAll {entries others : List (κ × α)} (distinct : Distinct entries)
    (perm : entries.Perm others) (t : Table κ α) :
    Alike (t.insertAll entries) (t.insertAll others) := by
  induction perm generalizing t with
  | nil => exact ⟨.refl _, fun _ => rfl⟩
  | cons e _ ih => exact ih distinct.of_cons.2 (t.insert e.1 e.2)
  | swap first second rest =>
    have different : second.1 ≠ first.1 := by
      intro same
      have absent := distinct.of_cons.1
      rw [get?_cons, if_pos same.symm] at absent
      cases absent
    exact (alike_insert_insert t different second.2 first.2).insertAll rest
  | trans front _ ih ih' =>
    have one := ih distinct t
    have two := ih' (distinct.of_perm front) t
    exact ⟨one.perm.trans two.perm, fun key => (one.looks key).trans (two.looks key)⟩

/-- What is written under a key does not count if the key is written again. -/
theorem insertAll_insert_of_mem {t : Table κ α} {key : κ} (held : t.get? key ≠ none)
    {entries : List (κ × α)} (again : key ∈ entries.map Prod.fst) (value : α) :
    (t.insert key value).insertAll entries = t.insertAll entries := by
  induction entries generalizing t with
  | nil => cases again
  | cons e rest ih =>
    obtain ⟨k, v⟩ := e
    by_cases here : k = key
    · subst here
      rw [insertAll, insert_insert, insertAll]
    · have later : key ∈ rest.map Prod.fst := by
        rcases List.mem_cons.mp again with same | later
        · exact absurd same.symm here
        · exact later
      rw [insertAll, insert_comm t (Ne.symm here) held, insertAll]
      refine ih ?_ later
      rwa [get?_insert, if_neg here]

theorem get?_insertAll_of_not_mem (t : Table κ α) {entries : List (κ × α)} {key : κ}
    (absent : key ∉ entries.map Prod.fst) : (t.insertAll entries).get? key = t.get? key := by
  have none : (entries.filter fun entry => entry.1 = key) = [] := by
    rw [List.filter_eq_nil_iff]
    intro entry member same
    exact absent (List.mem_map.mpr ⟨entry, member, of_decide_eq_true same⟩)
  rw [get?_insertAll_last, none]
  rfl

theorem get?_insertAll_ne_none {t : Table κ α} {key : κ} (held : t.get? key ≠ none)
    (entries : List (κ × α)) : (t.insertAll entries).get? key ≠ none := by
  rw [get?_insertAll_last]
  exact fun none => held (Option.or_eq_none_iff.mp none).2

/-- Entries that are written again change nothing. -/
theorem insertAll_insertAll (t : Table κ α) (entries : List (κ × α)) :
    (t.insertAll entries).insertAll entries = t.insertAll entries := by
  induction entries generalizing t with
  | nil => rfl
  | cons e rest ih =>
    obtain ⟨k, v⟩ := e
    have held : (t.insert k v).get? k = some v := by rw [get?_insert, if_pos rfl]
    rw [insertAll, insertAll]
    by_cases again : k ∈ rest.map Prod.fst
    · rw [insertAll_insert_of_mem (get?_insertAll_ne_none (by simp [held]) rest) again, ih]
    · rw [insert_eq_self ((get?_insertAll_of_not_mem _ again).trans held), ih]

/-- The second table is the first one with a key written, and nothing else changed. -/
structure Written (before : Table κ α) (key : κ) (value : α) (after : Table κ α) : Prop where
  value : after.get? key = some value
  others : ∀ other, other ≠ key → after.get? other = before.get? other
  keys : after.keys = if key ∈ before.keys then before.keys else before.keys ++ [key]

theorem written_insert (t : Table κ α) (key : κ) (value : α) :
    Written t key value (t.insert key value) where
  value := by rw [get?_insert, if_pos rfl]
  others other different := by rw [get?_insert, if_neg (Ne.symm different)]
  keys := keys_insert t key value

/-! ### Tables in order -/

theorem sorted_perm (t : Table String α) : t.sorted.Perm t := List.mergeSort_perm t _

theorem sorted_pairwise (t : Table String α) : t.sorted.Pairwise fun a b => a.1 ≤ b.1 := by
  have transitive : ∀ a b c : String × α,
      decide (a.1 ≤ b.1) → decide (b.1 ≤ c.1) → decide (a.1 ≤ c.1) := by
    intro a b c first second
    rw [decide_eq_true_eq] at *
    exact String.le_trans first second
  have total : ∀ a b : String × α, decide (a.1 ≤ b.1) || decide (b.1 ≤ a.1) := by
    intro a b
    rw [Bool.or_eq_true, decide_eq_true_eq, decide_eq_true_eq]
    exact String.le_total a.1 b.1
  exact (List.pairwise_mergeSort transitive total t).imp fun below => of_decide_eq_true below

theorem Distinct.sorted_ascending {t : Table String α} (distinct : t.Distinct) :
    t.sorted.Pairwise fun a b => a.1 < b.1 := by
  have apart : t.sorted.Pairwise fun a b => a.1 ≠ b.1 :=
    List.pairwise_map.mp (distinct.of_perm t.sorted_perm.symm)
  refine (t.sorted_pairwise.and apart).imp fun {a b} both => ?_
  exact String.not_le.mp fun above => both.2 (String.le_antisymm both.1 above)

/-- The entries have one order by their keys if no key is repeated. -/
theorem Distinct.sorted_congr {a b : Table String α} (distinct : a.Distinct) (perm : a.Perm b) :
    a.sorted = b.sorted := by
  have reordered : a.sorted.Perm b.sorted := (a.sorted_perm.trans perm).trans b.sorted_perm.symm
  refine reordered.eq_of_pairwise (fun x y left right below above => ?_) a.sorted_pairwise
    b.sorted_pairwise
  have one := distinct.get?_of_mem (a.sorted_perm.mem_iff.mp left)
  have other := distinct.get?_of_mem (perm.mem_iff.mpr (b.sorted_perm.mem_iff.mp right))
  have key := String.le_antisymm below above
  rw [key, other] at one
  exact Prod.ext key (Option.some.inj one).symm

theorem sorted_map (f : α → β) (t : Table String α) :
    sorted (t.map fun e => (e.1, f e.2)) = t.sorted.map fun e => (e.1, f e.2) :=
  (List.map_mergeSort (f := fun e : String × α => (e.1, f e.2)) fun _ _ _ _ => rfl).symm

end Upkeep.Table
