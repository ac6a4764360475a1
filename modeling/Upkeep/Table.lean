/-!
Tables: finite maps that keep the order in which their keys were first written. Writing a key again
replaces its value in place. JSON objects, label sets and the objects of a cluster are such tables.
Nothing here assumes that keys occur once; `Distinct` says so, and every operation keeps it.
-/
namespace Upkeep

/-- Entries in the order in which their keys were first written. -/
abbrev Table (κ α : Type) := List (κ × α)

namespace Table
variable {κ α : Type} [DecidableEq κ]

def get? : Table κ α → κ → Option α
  | [], _ => none
  | (k, v) :: rest, key => if k = key then some v else get? rest key

def contains (t : Table κ α) (key : κ) : Bool := (t.get? key).isSome

/-- Replaces the value in place, or puts a new entry at the end. -/
def insert : Table κ α → κ → α → Table κ α
  | [], key, value => [(key, value)]
  | (k, v) :: rest, key, value =>
    if k = key then (k, value) :: rest else (k, v) :: insert rest key value

def insertNew (t : Table κ α) (key : κ) (value : α) : Table κ α :=
  if t.contains key then t else t.insert key value

/-- Removes every entry with this key. -/
def erase : Table κ α → κ → Table κ α
  | [], _ => []
  | (k, v) :: rest, key => if k = key then erase rest key else (k, v) :: erase rest key

def insertAll (t : Table κ α) : List (κ × α) → Table κ α
  | [] => t
  | (k, v) :: rest => insertAll (t.insert k v) rest

/-- The table that a list of entries leaves: first positions, last values. -/
def ofEntries (entries : List (κ × α)) : Table κ α := insertAll [] entries

def eraseAll (t : Table κ α) : List κ → Table κ α
  | [] => t
  | k :: rest => eraseAll (t.erase k) rest

omit [DecidableEq κ] in
def keys (t : Table κ α) : List κ := t.map Prod.fst

/-- The entries in the order of their keys by code point. -/
def sorted {α : Type} (t : Table String α) : Table String α :=
  t.mergeSort fun a b => decide (a.1 ≤ b.1)

/-- No key occurs twice. -/
def Distinct (t : Table κ α) : Prop := t.keys.Nodup

@[simp] theorem get?_nil (key : κ) : get? ([] : Table κ α) key = none := rfl

theorem get?_cons (k : κ) (v : α) (rest : Table κ α) (key : κ) :
    get? ((k, v) :: rest) key = if k = key then some v else get? rest key := rfl

/-- A written key has its new value and every other key its old one. -/
theorem get?_insert (t : Table κ α) (key : κ) (value : α) (other : κ) :
    (t.insert key value).get? other = if key = other then some value else t.get? other := by
  induction t with
  | nil => rfl
  | cons e rest ih =>
    obtain ⟨k, v⟩ := e
    by_cases hk : k = key
    · subst hk
      by_cases ho : k = other <;> simp [insert, get?, ho]
    · simp only [insert, if_neg hk, get?_cons, ih]
      by_cases ho : key = other
      · subst ho
        simp [hk]
      · simp [ho]

/-- A removed key has no value and every other key its old one. -/
theorem get?_erase (t : Table κ α) (key other : κ) :
    (t.erase key).get? other = if key = other then none else t.get? other := by
  induction t with
  | nil => simp [erase]
  | cons e rest ih =>
    obtain ⟨k, v⟩ := e
    by_cases hk : k = key
    · subst hk
      simp only [erase, ↓reduceIte, ih, get?_cons]
      by_cases ho : k = other <;> simp [ho]
    · simp only [erase, if_neg hk, get?_cons, ih]
      by_cases ho : key = other
      · subst ho
        simp [hk]
      · simp [ho]

/-- A key has a value exactly when it is among the keys. -/
theorem get?_isSome_iff (t : Table κ α) (key : κ) : (t.get? key).isSome ↔ key ∈ t.keys := by
  induction t with
  | nil => simp [keys]
  | cons e rest ih =>
    obtain ⟨k, v⟩ := e
    by_cases hk : k = key
    · simp [get?, keys, hk]
    · simpa [get?, keys, hk, Ne.symm hk] using ih

/-- Writing keeps the keys in place and puts a new one last. -/
theorem keys_insert (t : Table κ α) (key : κ) (value : α) :
    (t.insert key value).keys = if key ∈ t.keys then t.keys else t.keys ++ [key] := by
  induction t with
  | nil => simp [insert, keys]
  | cons e rest ih =>
    obtain ⟨k, v⟩ := e
    by_cases hk : k = key
    · subst hk
      simp [insert, keys]
    · have ih' : (insert rest key value).map Prod.fst =
          if key ∈ rest.map Prod.fst then rest.map Prod.fst else rest.map Prod.fst ++ [key] := ih
      simp only [insert, keys, if_neg hk, List.map_cons, ih', List.mem_cons]
      by_cases hm : key ∈ rest.map Prod.fst <;> simp [hm, Ne.symm hk]

theorem keys_erase (t : Table κ α) (key : κ) :
    (t.erase key).keys = t.keys.filter (· ≠ key) := by
  induction t with
  | nil => rfl
  | cons e rest ih =>
    obtain ⟨k, v⟩ := e
    have ih' : (erase rest key).map Prod.fst = (rest.map Prod.fst).filter (· ≠ key) := ih
    by_cases hk : k = key <;> simp [erase, keys, hk, ih']

theorem Distinct.insert {t : Table κ α} (distinct : t.Distinct) (key : κ) (value : α) :
    (t.insert key value).Distinct := by
  unfold Distinct at *
  rw [keys_insert]
  by_cases hm : key ∈ t.keys
  · simpa [hm] using distinct
  · rw [if_neg hm, List.nodup_append]
    refine ⟨distinct, by simp, ?_⟩
    intro a ha b hb
    have hb' : b = key := by simpa using hb
    subst hb'
    exact fun he => hm (he ▸ ha)

theorem Distinct.erase {t : Table κ α} (distinct : t.Distinct) (key : κ) :
    (t.erase key).Distinct := by
  unfold Distinct at *
  rw [keys_erase]
  exact distinct.filter _

theorem distinct_ofEntries (entries : List (κ × α)) : (ofEntries entries).Distinct := by
  have go : ∀ (rest : List (κ × α)) (t : Table κ α), t.Distinct → (insertAll t rest).Distinct := by
    intro rest
    induction rest with
    | nil => exact fun t h => h
    | cons e rest ih => exact fun t h => ih _ (h.insert e.1 e.2)
  exact go entries [] List.nodup_nil

end Table
end Upkeep
