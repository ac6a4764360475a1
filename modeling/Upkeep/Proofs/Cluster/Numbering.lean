import Upkeep.Proofs.Cluster.Agreement

/-! The numbers that the store gives out. Two clusters that hold the same object under a key, but
have counted differently, answer an action on it alike: they refuse it with the same error, or make
the same of it up to the version, and the identity where the object had none. -/
namespace Upkeep

/-- What is held is the same, or the store has made both of one object, under two numbers. -/
inductive Renumbered : Option Json → Option Json → Prop
  | same (held : Option Json) : Renumbered held held
  | stamped {object one other : Json} {m n : Nat} (first : Cluster.stamp object m = .ok one)
      (second : Cluster.stamp object n = .ok other) : Renumbered (some one) (some other)

theorem Renumbered.symm {one other : Option Json} (alike : Renumbered one other) :
    Renumbered other one := by
  cases alike with
  | same => exact .same _
  | stamped first second => exact .stamped second first

/-- Two replies are the same, or both hold an object with metadata. -/
inductive SameReply : Except CallError Json → Except CallError Json → Prop
  | same (reply : Except CallError Json) : SameReply reply reply
  | stored {one other : Json} (first : Object.HasMetadata one) (second : Object.HasMetadata other) :
      SameReply (.ok one) (.ok other)

namespace Cluster

/-- Two clusters `a` and `b` have become `c` and `d`, alike: no object has changed but those
touched, these are the same up to their numbers, and the counters have gone up by as much. -/
structure InStep (touched : ObjectKey → Prop) (a b c d : Cluster) : Prop where
  left : ∀ key, ¬ touched key → c.get? key = a.get? key
  right : ∀ key, ¬ touched key → d.get? key = b.get? key
  written : ∀ key, touched key → Renumbered (c.get? key) (d.get? key)
  counter : c.counter + b.counter = d.counter + a.counter

namespace InStep
variable {touched more : ObjectKey → Prop} {a b c d e f : Cluster}

theorem none (touched : ObjectKey → Prop)
    (agree : ∀ key, touched key → a.get? key = b.get? key) : InStep touched a b a b where
  left := fun _ _ => rfl
  right := fun _ _ => rfl
  written := fun key member => agree key member ▸ .same _
  counter := Nat.add_comm _ _

theorem trans (first : InStep touched a b c d) (second : InStep more c d e f) :
    InStep (fun key => touched key ∨ more key) a b e f where
  left := fun key free => (second.left key fun later => free (.inr later)).trans
    (first.left key fun earlier => free (.inl earlier))
  right := fun key free => (second.right key fun later => free (.inr later)).trans
    (first.right key fun earlier => free (.inl earlier))
  written := by
    intro key member
    by_cases later : more key
    · exact second.written key later
    · rw [second.left key later, second.right key later]
      exact first.written key (member.resolve_right later)
  counter := by
    have one := first.counter
    have two := second.counter
    omega

/-- More objects may count as touched if they were the same before. -/
theorem mono (inStep : InStep touched a b c d) (included : ∀ key, touched key → more key)
    (agree : ∀ key, more key → ¬ touched key → a.get? key = b.get? key) : InStep more a b c d where
  left := fun key free => inStep.left key fun member => free (included key member)
  right := fun key free => inStep.right key fun member => free (included key member)
  written := by
    intro key member
    by_cases moved : touched key
    · exact inStep.written key moved
    · rw [inStep.left key moved, inStep.right key moved, agree key member moved]
      exact .same _
  counter := inStep.counter

/-- What two parties do, each of them where the other one does nothing, comes to the same in either
order: from `a` by way of `c` to `f`, or by way of `e` to `d`. -/
theorem diamond (one : InStep touched a e c d) (other : InStep more a c e f)
    (apart : ∀ key, touched key → ¬ more key) :
    f.counter = d.counter ∧ ∀ key, Renumbered (f.get? key) (d.get? key) := by
  have counted := one.counter
  have too := other.counter
  refine ⟨by omega, fun key => ?_⟩
  by_cases here : touched key
  · rw [other.right key (apart key here)]
    exact one.written key here
  · rw [one.right key here]
    by_cases there : more key
    · exact (other.written key there).symm
    · rw [other.right key there, other.left key there, one.left key here]
      exact .same _

end InStep

/-! ### One action -/

variable {a b : Cluster} {key : ObjectKey}

theorem hasMetadata_of_stamp {object stamped : Json} {n : Nat}
    (made : stamp object n = .ok stamped) : Object.HasMetadata stamped := by
  rw [stamp.eq_def] at made
  split at made
  · split at made <;> cases made
    · exact ⟨_, (Table.get?_insert _ _ _ _).trans (if_pos rfl)⟩
    · exact ⟨_, (Table.get?_insert _ _ _ _).trans (if_pos rfl)⟩
  · cases made

/-- Whether an object can be given a number does not depend on the number. -/
theorem stamp_both (object : Json) (m n : Nat) :
    (∃ one other, stamp object m = .ok one ∧ stamp object n = .ok other) ∨
      ∃ bad, stamp object m = .error bad ∧ stamp object n = .error bad := by
  rw [stamp.eq_def, stamp.eq_def]
  split
  · split
    · exact .inl ⟨_, _, rfl, rfl⟩
    · exact .inl ⟨_, _, rfl, rfl⟩
    · exact .inr ⟨_, rfl, rfl⟩
  · exact .inr ⟨_, rfl, rfl⟩

theorem put_inStep (a b : Cluster) (key : ObjectKey) {one other : Json}
    (same : Renumbered (some one) (some other)) (m : Nat) :
    InStep (· = key) a b { a.put key one with counter := a.counter + m }
      { b.put key other with counter := b.counter + m } where
  left := fun _ different => (get?_put a key one _).trans (if_neg (Ne.symm different))
  right := fun _ different => (get?_put b key other _).trans (if_neg (Ne.symm different))
  written := by
    intro touched here
    have left : Cluster.get? { a.put key one with counter := a.counter + m } key = some one :=
      (get?_put a key one key).trans (if_pos rfl)
    have right : Cluster.get? { b.put key other with counter := b.counter + m } key = some other :=
      (get?_put b key other key).trans (if_pos rfl)
    rwa [here, left, right]
  counter := by
    simp only
    omega

theorem store_inStep (agree : a.get? key = b.get? key) (object : Json) :
    SameReply (a.store key object).1 (b.store key object).1 ∧
      InStep (· = key) a b (a.store key object).2 (b.store key object).2 := by
  rw [store, store]
  rcases stamp_both object (a.counter + 1) (b.counter + 1) with
    ⟨one, other, left, right⟩ | ⟨bad, left, right⟩
  · simp only [left, right]
    exact ⟨.stored (hasMetadata_of_stamp left) (hasMetadata_of_stamp right),
      put_inStep a b key (.stamped left right) 1⟩
  · simp only [left, right]
    refine ⟨.same _, fun _ _ => rfl, fun _ _ => rfl, ?_, ?_⟩
    · intro touched here
      have held : a.objects.get? touched = b.objects.get? touched := here ▸ agree
      simp only [get?, held]
      exact .same _
    · simp only
      omega

/-- Where the same is held, an action is answered alike, and touches what it concerns. -/
theorem act_inStep (agree : a.get? key = b.get? key) (action : Action) :
    SameReply (a.act key action).1 (b.act key action).1 ∧
      InStep (· = key) a b (a.act key action).2 (b.act key action).2 := by
  have idle : InStep (· = key) a b a b := .none _ fun _ same => same ▸ agree
  rw [act.eq_def, act.eq_def, agree]
  split
  · exact ⟨.same _, idle⟩
  · exact store_inStep agree _
  · exact ⟨.same _, idle⟩
  · rename_i change old held
    rw [storePatched, storePatched]
    split
    · exact ⟨.same _, put_inStep a b key (.same _) 0⟩
    · exact store_inStep agree _
  · refine ⟨.same _, ?_, ?_, ?_, Nat.add_comm _ _⟩
    · exact fun other different => (get?_remove a key other).trans (if_neg (Ne.symm different))
    · exact fun other different => (get?_remove b key other).trans (if_neg (Ne.symm different))
    · intro touched here
      rw [here, get?_remove, get?_remove, if_pos rfl, if_pos rfl]
      exact .same _
  · exact ⟨.same _, idle⟩

end Cluster
end Upkeep
