import Mathlib.Data.List.Forall2
import Upkeep.Json.Written
import Upkeep.Proofs.Json.Equality

/-! Values up to the order of the members of their objects, at every depth. Each value has a
canonical form, in which the members are in order; values that are reordered have the same one, and
they are written alike. -/
namespace Upkeep.Json

/-- Equality up to the order of members. A value without parts is only equal to itself: an integer
is no double and no truth value, and the two zeros among the doubles are different. -/
inductive Reordered : Json → Json → Prop
  | plain {value : Json} (notArr : value.form ≠ .arr) (notObj : value.form ≠ .obj) :
    Reordered value value
  | arr {items others : List Json} (each : List.Forall₂ Reordered items others) :
    Reordered (.arr items) (.arr others)
  | obj {members others first second : List (String × Json)} (left : members.Perm first)
    (right : others.Perm second) (keys : first.map Prod.fst = second.map Prod.fst)
    (values : List.Forall₂ Reordered (first.map Prod.snd) (second.map Prod.snd)) :
    Reordered (.obj members) (.obj others)

mutual

/-- The value with the members of all its objects in the order of their keys. -/
def canonical : Json → Json
  | .arr items => .arr (canonicalItems items)
  | .obj members => .obj (canonicalMembers members).sorted
  | value => value

def canonicalItems : List Json → List Json
  | [] => []
  | item :: rest => canonical item :: canonicalItems rest

def canonicalMembers : List (String × Json) → Table String Json
  | [] => []
  | (key, value) :: rest => (key, canonical value) :: canonicalMembers rest

end

/-- A member with its value in canonical form. -/
def canonicalMember (member : String × Json) : String × Json := (member.1, member.2.canonical)

theorem canonical_arr (items : List Json) :
    canonical (.arr items) = .arr (items.map canonical) := by
  have each : canonicalItems items = items.map canonical := by
    induction items with
    | nil => rfl
    | cons item rest ih => rw [canonicalItems, ih, List.map_cons]
  rw [canonical, each]

theorem canonical_obj (members : Table String Json) :
    canonical (.obj members) = .obj (Table.sorted (members.map canonicalMember)) := by
  have each : canonicalMembers members = members.map canonicalMember := by
    induction members with
    | nil => rfl
    | cons member rest ih => rw [canonicalMembers, ih, List.map_cons, canonicalMember]
  rw [canonical, each]

theorem sorted_canonicalMember (members : Table String Json) :
    Table.sorted (members.map canonicalMember) = members.sorted.map canonicalMember :=
  Table.sorted_map canonical members

theorem canonical_of_plain {value : Json} (notArr : value.form ≠ .arr)
    (notObj : value.form ≠ .obj) : value.canonical = value := by
  cases value with
  | arr items => exact absurd rfl notArr
  | obj members => exact absurd rfl notObj
  | _ => rfl

theorem form_canonical (value : Json) : value.canonical.form = value.form := by
  cases value <;> rfl

theorem write_arr (items : List Json) :
    write (.arr items) = '[' :: separated (items.map write) ++ [']'] := by
  have each : writeItems items = items.map write := by
    induction items with
    | nil => rfl
    | cons item rest ih => rw [writeItems, ih, List.map_cons]
  rw [write, each]

/-- What is written of a member. -/
def writeMember (member : String × Json) : List Char :=
  writeString member.1 ++ ':' :: member.2.write

theorem write_obj (members : Table String Json) :
    write (.obj members) = '{' :: separated (members.sorted.map writeMember) ++ ['}'] := by
  have each : writeMembers members = members.map fun m => (m.1, write m.2) := by
    induction members with
    | nil => rfl
    | cons member rest ih => rw [writeMembers, ih, List.map_cons]
  rw [write, each, Table.sorted_map, List.map_map]
  rfl

/-! ### Reordered values have one canonical form -/

theorem map_canonicalMember_eq_iff (first second : List (String × Json)) :
    first.map canonicalMember = second.map canonicalMember ↔
      first.map Prod.fst = second.map Prod.fst ∧
        (first.map Prod.snd).map canonical = (second.map Prod.snd).map canonical := by
  induction first generalizing second with
  | nil => cases second <;> simp
  | cons member rest ih =>
    cases second with
    | nil => simp
    | cons other others => simp [ih, canonicalMember, and_assoc, and_left_comm]

theorem forall₂_of_canonical {items others : List Json}
    (each : ∀ item ∈ items, ∀ other : Json, item.canonical = other.canonical → item.Reordered other)
    (same : items.map canonical = others.map canonical) :
    List.Forall₂ Reordered items others := by
  induction items generalizing others with
  | nil =>
    cases others with
    | nil => exact .nil
    | cons other others => cases same
  | cons item rest ih =>
    cases others with
    | nil => cases same
    | cons other others =>
      obtain ⟨first, later⟩ := List.cons.inj same
      exact .cons (each item List.mem_cons_self other first)
        (ih (fun i member => each i (List.mem_cons_of_mem _ member)) later)

theorem map_canonical_of_forall₂ {items others : List Json}
    (each : ∀ item ∈ items, ∀ other ∈ others, item.Reordered other →
      item.canonical = other.canonical)
    (reordered : List.Forall₂ Reordered items others) :
    items.map canonical = others.map canonical := by
  induction reordered with
  | nil => rfl
  | cons first _ ih =>
    rw [List.map_cons, List.map_cons, each _ List.mem_cons_self _ List.mem_cons_self first]
    congr 1
    exact ih fun i one j other =>
      each i (List.mem_cons_of_mem _ one) j (List.mem_cons_of_mem _ other)

theorem Reordered.of_canonical {a b : Json} (same : a.canonical = b.canonical) : a.Reordered b := by
  induction a using inductOn generalizing b with
  | scalar v notArr notObj =>
    have form : v.form = b.form := by rw [← form_canonical v, same, form_canonical]
    rw [canonical_of_plain notArr notObj,
      canonical_of_plain (form ▸ notArr) (form ▸ notObj)] at same
    exact same ▸ .plain notArr notObj
  | arr items ih =>
    cases b with
    | arr others =>
      rw [canonical_arr, canonical_arr, arr.injEq] at same
      exact .arr (forall₂_of_canonical (fun item member other => ih item member) same)
    | _ => cases same
  | obj members ih =>
    cases b with
    | obj others =>
      rw [canonical_obj, canonical_obj, obj.injEq, sorted_canonicalMember,
        sorted_canonicalMember] at same
      obtain ⟨keys, values⟩ := (map_canonicalMember_eq_iff _ _).mp same
      refine .obj (Table.sorted_perm members).symm (Table.sorted_perm others).symm keys ?_
      refine forall₂_of_canonical (fun value held other => ?_) values
      obtain ⟨member, listed, rfl⟩ := List.mem_map.mp held
      exact ih member ((Table.sorted_perm members).mem_iff.mp listed)
    | _ => cases same

theorem Reordered.canonical_eq {a b : Json} (reordered : a.Reordered b) (left : a.WellFormed)
    (right : b.WellFormed) : a.canonical = b.canonical := by
  induction a using inductOn generalizing b with
  | scalar v notArr notObj =>
    cases reordered with
    | plain => rfl
    | arr => exact absurd rfl notArr
    | obj => exact absurd rfl notObj
  | arr items ih =>
    cases reordered with
    | plain notArr => exact absurd rfl notArr
    | @arr _ others each =>
      rw [WellFormed, wellFormedItems_iff] at left right
      rw [canonical_arr, canonical_arr]
      congr 1
      exact map_canonical_of_forall₂ (fun item one other two same =>
        ih item one same (left item one) (right other two)) each
  | obj members ih =>
    cases reordered with
    | plain _ notObj => exact absurd rfl notObj
    | @obj _ others first second leftPerm rightPerm keys values =>
      rw [WellFormed, wellFormedMembers_iff] at left right
      have same : first.map canonicalMember = second.map canonicalMember := by
        refine (map_canonicalMember_eq_iff _ _).mpr ⟨keys, map_canonical_of_forall₂ ?_ values⟩
        intro value one other two
        obtain ⟨member, listed, rfl⟩ := List.mem_map.mp one
        obtain ⟨member', listed', rfl⟩ := List.mem_map.mp two
        have there := leftPerm.mem_iff.mpr listed
        have there' := rightPerm.mem_iff.mpr listed'
        exact fun alike => ih member there alike (left.2 member there) (right.2 member' there')
      rw [canonical_obj, canonical_obj]
      congr 1
      calc Table.sorted (members.map canonicalMember)
          = Table.sorted (first.map canonicalMember) :=
            (left.1.map canonical).sorted_congr (leftPerm.map _)
        _ = Table.sorted (second.map canonicalMember) := by rw [same]
        _ = Table.sorted (others.map canonicalMember) :=
            ((right.1.map canonical).sorted_congr (rightPerm.map _)).symm

/-- Reordered values are those of one canonical form. -/
theorem canonical_eq_iff {a b : Json} (left : a.WellFormed) (right : b.WellFormed) :
    a.canonical = b.canonical ↔ a.Reordered b :=
  ⟨.of_canonical, fun reordered => reordered.canonical_eq left right⟩

/-! ### Objects with other members and other values -/

theorem Reordered.refl (value : Json) : value.Reordered value := .of_canonical rfl

theorem Reordered.of_perm {members others : Table String Json} (perm : members.Perm others) :
    (Json.obj members).Reordered (.obj others) :=
  .obj perm (.refl others) rfl (List.forall₂_same.mpr fun value _ => .refl value)

theorem forall₂_insert {value other : Json} (reordered : value.Reordered other)
    (members : Table String Json) (key : String) :
    List.Forall₂ Reordered ((members.insert key value).map Prod.snd)
      ((members.insert key other).map Prod.snd) := by
  induction members with
  | nil => exact .cons reordered .nil
  | cons member rest ih =>
    obtain ⟨name, held⟩ := member
    rw [Table.insert, Table.insert]
    split
    · exact .cons reordered (List.forall₂_same.mpr fun value _ => .refl value)
    · exact .cons (.refl held) ih

theorem Reordered.insert {value other : Json} (reordered : value.Reordered other)
    (members : Table String Json) (key : String) :
    (Json.obj (members.insert key value)).Reordered (.obj (members.insert key other)) :=
  .obj (.refl _) (.refl _)
    ((members.keys_insert key value).trans (members.keys_insert key other).symm)
    (forall₂_insert reordered members key)

/-! ### A value is written as its canonical form -/

theorem write_canonical {value : Json} (wellFormed : value.WellFormed) :
    value.canonical.write = value.write := by
  induction value using inductOn with
  | scalar v notArr notObj => rw [canonical_of_plain notArr notObj]
  | arr items ih =>
    rw [WellFormed, wellFormedItems_iff] at wellFormed
    have each : (items.map canonical).map write = items.map write := by
      rw [List.map_map]
      exact List.map_congr_left fun item member => ih item member (wellFormed item member)
    rw [canonical_arr, write_arr, write_arr, each]
  | obj members ih =>
    have distinct : Table.Distinct members := wellFormed.distinct
    rw [WellFormed, wellFormedMembers_iff] at wellFormed
    have inOrder : Table.sorted ((Table.sorted members).map canonicalMember) =
        (Table.sorted members).map canonicalMember := by
      rw [← sorted_canonicalMember]
      exact ((distinct.map canonical).sorted_congr (Table.sorted_perm _).symm).symm
    have each : ((Table.sorted members).map canonicalMember).map writeMember =
        (Table.sorted members).map writeMember := by
      rw [List.map_map]
      refine List.map_congr_left fun member listed => ?_
      have there := (Table.sorted_perm members).mem_iff.mp listed
      rw [Function.comp, writeMember, canonicalMember, ih member there (wellFormed.2 member there),
        writeMember]
    rw [canonical_obj, write_obj, write_obj, sorted_canonicalMember, inOrder, each]

end Upkeep.Json
