import Upkeep.Proofs.Cluster.Due

/-! The steps of a pass. A step looks at one object and may have something to do about it: to delete
it, to create it or to patch it. Once it has been done it has nothing to do any more, and the same
request sent again creates nothing and patches nothing. -/
namespace Upkeep

inductive Step where
  /-- The object shall not be there. -/
  | remove (target : Target)
  /-- The object shall be there and meet the mutation. -/
  | bring (target : Target) (mutation : Mutation)

namespace Step

def target : Step → Target
  | remove target => target
  | bring target _ => target

def key (step : Step) : ObjectKey := step.target.objectKey

/-- What is to be done, given the stored object. -/
def due (client : Client) : Step → Option Json → Except Malformed (Option Action)
  | remove _, held => .ok (held.map fun _ => .delete)
  | bring target mutation, held => client.due target mutation held

/-- The step concerns an object that is written, by a mutation that belongs to it. -/
def Managed : Step → Prop
  | remove target => target.kind.isWritten
  | bring target mutation => ∃ field value, target.Manages mutation field value

/-- What is stored once an action has been carried out, or was not needed. -/
def Settled (action : Option Action) : Step → Option Json → Prop
  | remove _, held => held = none
  | bring _ mutation, held => ∃ object, held = some object ∧ object.WellFormed ∧
      mutation.Met object ∧ ∀ change, action = some (.patch change) → object.apply change = object

theorem settled_of_due {client : Client} {step : Step} (managed : step.Managed) {held : Option Json}
    (wellFormed : ∀ stored, held = some stored → stored.WellFormed)
    (nothing : step.due client held = .ok none) : step.Settled none held := by
  cases step with
  | remove target =>
    cases held with
    | none => rfl
    | some stored => cases nothing
  | bring target mutation =>
    obtain ⟨field, value, manages⟩ := managed
    cases held with
    | none =>
      rw [due, Client.due_none manages] at nothing
      cases nothing
    | some stored =>
      have good := wellFormed stored rfl
      refine ⟨stored, rfl, good, Client.met_of_due manages good nothing, ?_⟩
      intro change same
      cases same

theorem due_of_settled {client : Client} {step : Step} (managed : step.Managed)
    {action : Option Action} {held : Option Json} (settled : step.Settled action held) :
    step.due client held = .ok none := by
  cases step with
  | remove target =>
    have absent : held = none := settled
    rw [absent]
    rfl
  | bring target mutation =>
    obtain ⟨field, value, manages⟩ := managed
    obtain ⟨object, rfl, good, met, _⟩ := settled
    exact Client.due_of_met manages client good met

/-- What is due can be done, and then the step is settled. -/
theorem settled_act {client : Client} {step : Step} (managed : step.Managed) {cluster : Cluster}
    {action : Action}
    (wellFormed : ∀ stored, cluster.get? step.key = some stored → stored.WellFormed)
    (due : step.due client (cluster.get? step.key) = .ok (some action)) :
    (∃ reply, (cluster.act step.key action).1 = .ok reply) ∧
      step.Settled (some action) ((cluster.act step.key action).2.get? step.key) := by
  cases step with
  | remove target =>
    cases held : cluster.get? (Step.remove target).key with
    | none =>
      rw [held] at due
      cases due
    | some stored =>
      rw [held] at due
      cases due
      rw [Cluster.act.eq_def, held]
      exact ⟨⟨_, rfl⟩, (Cluster.get?_remove cluster _ _).trans (if_pos rfl)⟩
  | bring target mutation =>
    obtain ⟨field, value, manages⟩ := managed
    obtain ⟨object, replied, stored, good, met, spent⟩ :=
      Client.act_due manages client wellFormed due
    refine ⟨⟨object, replied⟩, object, stored, good, met, ?_⟩
    intro change same
    exact spent change (Option.some.inj same)

/-! ### The same request again -/

theorem act_create_of_settled {target : Target} {mutation : Mutation} {action : Option Action}
    {cluster : Cluster} (object : Json)
    (settled : (bring target mutation).Settled action (cluster.get? target.objectKey)) :
    cluster.act target.objectKey (.create object) = (.error .conflict, cluster) := by
  obtain ⟨stored, held, _⟩ := settled
  rw [Cluster.act.eq_def, held]

theorem act_patch_of_settled {target : Target} {mutation : Mutation} {change : Json}
    {cluster : Cluster}
    (settled : (bring target mutation).Settled (some (.patch change))
      (cluster.get? target.objectKey)) :
    ∃ object, cluster.get? target.objectKey = some object ∧ mutation.Met object ∧
      cluster.act target.objectKey (.patch change) = (.ok object, cluster) := by
  obtain ⟨object, held, good, met, spent⟩ := settled
  exact ⟨object, held, met, Cluster.act_patch_of_fixed held good (spent change rfl)⟩

end Step
end Upkeep
