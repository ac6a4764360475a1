import Upkeep.Proofs.Cluster.Due

/-! Two clients at one stored object. What they read may differ, and so may the patches that they
send in the order of their members; but they find the same things due, and doing one of them does
the same to the cluster as doing the other. -/
namespace Upkeep

/-- Carries out what a patch without nulls says under a key. -/
def Json.applyAt (target patch : Table String Json) (key : String) (onto : Table String Json) :
    Table String Json :=
  match patch.get? key with
  | none => onto
  | some change => onto.insert key (apply ((target.get? key).getD .null) change)

/-- A patch of at most two members, one of which is there already, may be carried out in either
order. -/
theorem Json.applyMembers_of_two {target patch : Table String Json} (distinct : patch.Distinct)
    {first second : String} (different : first ≠ second)
    (only : ∀ other, other ≠ first → other ≠ second → patch.get? other = none)
    (present : ∀ key change, patch.get? key = some change → change ≠ .null)
    (held : target.get? first ≠ none) :
    applyMembers target patch =
      applyAt target patch second (applyAt target patch first target) := by
  cases one : patch.get? first with
  | none =>
    have rest : ∀ other, other ≠ second → patch.get? other = none := by
      intro other notSecond
      by_cases isFirst : other = first
      · exact isFirst ▸ one
      · exact only other isFirst notSecond
    cases two : patch.get? second with
    | none =>
      have empty : patch = [] := by
        rw [Table.eq_nil_iff_get?]
        intro other
        by_cases isSecond : other = second
        · exact isSecond ▸ two
        · exact rest other isSecond
      simp [applyAt, empty, applyMembers]
    | some b =>
      have single := distinct.eq_singleton two rest
      simp only [applyAt, one, two]
      rw [single, applyMembers_value _ _ _ (present _ _ two), applyMembers]
  | some a =>
    cases two : patch.get? second with
    | none =>
      have single := distinct.eq_singleton one fun other notFirst => by
        by_cases isSecond : other = second
        · exact isSecond ▸ two
        · exact only other notFirst isSecond
      simp only [applyAt, one, two]
      rw [single, applyMembers_value _ _ _ (present _ _ one), applyMembers]
    | some b =>
      simp only [applyAt, one, two]
      rcases distinct.eq_pair different one two only with pair | pair
      · rw [pair, applyMembers_value _ _ _ (present _ _ one),
          applyMembers_value _ _ _ (present _ _ two), applyMembers, Table.get?_insert,
          if_neg different]
      · rw [pair, applyMembers_value _ _ _ (present _ _ two),
          applyMembers_value _ _ _ (present _ _ one), applyMembers, Table.get?_insert,
          if_neg (Ne.symm different), Table.insert_comm _ different held]

/-- Two actions that are the same, but that the members of a patch may stand in another order. -/
inductive Action.Alike : Action → Action → Prop
  | refl (action : Action) : Alike action action
  | patch {one other : Table String Json} (members : one.Perm other) :
      Alike (.patch (.obj one)) (.patch (.obj other))

theorem Action.Alike.verb {one other : Action} (alike : one.Alike other) :
    one.verb = other.verb := by
  cases alike <;> rfl

section
variable {target : Target} {mutation : Mutation} {field : String} {value : Json}

namespace Mutation

/-- A change to a value that is not null is the same from null as from nothing. -/
theorem change_getD (present : value ≠ .null) (old : Option Json) :
    Json.change old value = Json.change (some (old.getD .null)) value := by
  cases old with
  | some current => rfl
  | none =>
    rw [Option.getD_none, Json.change, Json.change]
    rcases value.obj_or_form_ne with ⟨members, rfl⟩ | scalar
    · rfl
    · rw [Json.patchTo_of_scalar _ _ scalar]
      cases value with
      | null => exact absurd rfl present
      | _ => rfl

/-- Objects with the same labels and members worth the same have patches that say the same. -/
theorem get?_patch_eq (writes : mutation.Writes field value) {a b : Json} (left : a.WellFormed)
    (right : b.WellFormed) (takesLeft : Object.TakesLabels a) (takesRight : Object.TakesLabels b)
    (labels : Object.labels a = Object.labels b)
    (members : (a.get? field).getD .null = (b.get? field).getD .null) (key : String) :
    (mutation.patch a field value).get? key = (mutation.patch b field value).get? key := by
  have change : mutation.labelChange a = mutation.labelChange b := by
    rw [labelChange, labelChange, relabelled, relabelled, labels]
  by_cases isField : key = field
  · rw [isField, get?_patch_field writes left, get?_patch_field writes right,
      change_getD writes.present, members, ← change_getD writes.present]
  · by_cases isMetadata : key = "metadata"
    · rw [isMetadata, get?_patch_metadata writes left takesLeft,
        get?_patch_metadata writes right takesRight, change]
    · rw [get?_patch_other writes left isField isMetadata,
        get?_patch_other writes right isField isMetadata]

theorem patch_present (writes : mutation.Writes field value) {object : Json}
    (wellFormed : object.WellFormed) (takes : Object.TakesLabels object) (key : String)
    (change : Json) (said : (mutation.patch object field value).get? key = some change) :
    change ≠ .null := by
  by_cases isField : key = field
  · rw [isField, get?_patch_field writes wellFormed] at said
    exact Json.change_ne_null _ (fun null => absurd null writes.present) said
  · by_cases isMetadata : key = "metadata"
    · rw [isMetadata, get?_patch_metadata writes wellFormed takes] at said
      split at said
      · cases said
      · cases said
        intro null
        cases null
    · rw [get?_patch_other writes wellFormed isField isMetadata] at said
      cases said

/-- Where metadata is stored the labels may be changed first, and then the written member. -/
theorem applyMembers_patch (writes : mutation.Writes field value) {object stored : Json}
    (wellFormed : object.WellFormed) (takes : Object.TakesLabels object)
    (known : stored.get? "metadata" ≠ none) :
    Json.applyMembers stored.members (mutation.patch object field value) =
      Json.applyAt stored.members (mutation.patch object field value) field
        (Json.applyAt stored.members (mutation.patch object field value) "metadata"
          stored.members) := by
  apply Json.applyMembers_of_two
  · exact (wellFormed_patch writes wellFormed).distinct
  · exact Ne.symm writes.notMetadata
  · intro key notMetadata notField
    exact get?_patch_other writes wellFormed notField notMetadata
  · exact patch_present writes wellFormed takes
  · exact known

end Mutation

namespace Client

theorem view_of_absent {client : Client} {kind : Kind} {stored read : Json}
    (absent : stored.get? "metadata" = none) (viewed : client.view kind stored = .ok read) :
    read = stored := by
  rw [view] at viewed
  split at viewed
  · cases kind with
    | configMap =>
      obtain ⟨inner, known, _⟩ := (Typed.view_configMap_eq_ok_iff _ stored read).mp viewed
      rw [((Typed.metadata_eq_ok_iff _ stored inner).mp known).1] at absent
      cases absent
    | statefulSet =>
      obtain ⟨inner, known, _⟩ := (Typed.view_statefulSet_eq_ok_iff _ stored read).mp viewed
      rw [((Typed.metadata_eq_ok_iff _ stored inner).mp known).1] at absent
      cases absent
    | prometheusRule => exact (Except.ok.inj viewed).symm
    | scrapeConfig => exact (Except.ok.inj viewed).symm
  · exact (Except.ok.inj viewed).symm

theorem received_of_absent {a b : Client} {kind : Kind} {stored left right : Json}
    (absent : stored.get? "metadata" = none) (one : a.received kind stored = .ok left)
    (other : b.received kind stored = .ok right) : left = right := by
  rw [received] at one other
  cases first : a.view kind stored with
  | error bad => rw [first] at one; cases one
  | ok seen =>
    cases second : b.view kind stored with
    | error bad => rw [second] at other; cases other
    | ok found =>
      rw [first, view_of_absent absent first] at one
      rw [second, view_of_absent absent second] at other
      exact Except.ok.inj (one.symm.trans other)

theorem get?_patch_received (manages : target.Manages mutation field value) {a b : Client}
    {stored left right : Json} (wellFormed : stored.WellFormed)
    (one : a.received target.kind stored = .ok left)
    (other : b.received target.kind stored = .ok right) (takesLeft : Object.TakesLabels left)
    (takesRight : Object.TakesLabels right) (key : String) :
    (mutation.patch left field value).get? key = (mutation.patch right field value).get? key := by
  have labels : Object.labels left = Object.labels right :=
    (faithful_received one).labels.trans (faithful_received other).labels.symm
  have member : (field, value) ∈ mutation.fields := by simp [manages.fields]
  have worthLeft := (agree_received manages one).fields _ member
  have worthRight := (agree_received manages other).fields _ member
  exact Mutation.get?_patch_eq manages.toWrites ((faithful_received one).wellFormed wellFormed)
    ((faithful_received other).wellFormed wellFormed) takesLeft takesRight labels
    (worthLeft.trans worthRight.symm) key

theorem apply_patch_eq (manages : target.Manages mutation field value) {a b : Client}
    {stored left right : Json} (wellFormed : stored.WellFormed)
    (one : a.received target.kind stored = .ok left)
    (other : b.received target.kind stored = .ok right) (takesLeft : Object.TakesLabels left)
    (takesRight : Object.TakesLabels right) :
    stored.apply (.obj (mutation.patch left field value)) =
      stored.apply (.obj (mutation.patch right field value)) := by
  cases held : stored.get? "metadata" with
  | none => rw [received_of_absent held one other]
  | some metadata =>
    have writes := manages.toWrites
    have goodLeft := (faithful_received one).wellFormed wellFormed
    have goodRight := (faithful_received other).wellFormed wellFormed
    have alike := get?_patch_received manages wellFormed one other takesLeft takesRight
    have known : stored.get? "metadata" ≠ none := by simp [held]
    rw [Json.apply_obj, Json.apply_obj,
      Mutation.applyMembers_patch writes goodLeft takesLeft known,
      Mutation.applyMembers_patch writes goodRight takesRight known]
    simp only [Json.applyAt, alike]

/-- The patches of two clients say the same. -/
theorem perm_patch (manages : target.Manages mutation field value) {a b : Client}
    {stored left right : Json} (wellFormed : stored.WellFormed)
    (one : a.received target.kind stored = .ok left)
    (other : b.received target.kind stored = .ok right) (takesLeft : Object.TakesLabels left)
    (takesRight : Object.TakesLabels right) :
    (mutation.patch left field value).Perm (mutation.patch right field value) := by
  have writes := manages.toWrites
  have goodLeft := (faithful_received one).wellFormed wellFormed
  have goodRight := (faithful_received other).wellFormed wellFormed
  apply Table.Distinct.perm_of_get?
  · exact (Mutation.wellFormed_patch writes goodLeft).distinct
  · exact (Mutation.wellFormed_patch writes goodRight).distinct
  · exact get?_patch_received manages wellFormed one other takesLeft takesRight

/-- What two clients find due does the same. -/
theorem due_agree (manages : target.Manages mutation field value) {a b : Client}
    {held : Option Json} (wellFormed : ∀ stored, held = some stored → stored.WellFormed)
    {left right : Option Action} (one : a.due target mutation held = .ok left)
    (other : b.due target mutation held = .ok right) :
    (left = none ∧ right = none) ∨
      ∃ mine yours, left = some mine ∧ right = some yours ∧ mine.Alike yours ∧
        ∀ cluster : Cluster, cluster.get? target.objectKey = held →
          cluster.act target.objectKey mine = cluster.act target.objectKey yours := by
  cases held with
  | none =>
    rw [due_none manages] at one other
    cases one
    cases other
    exact .inr ⟨_, _, rfl, rfl, .refl _, fun _ _ => rfl⟩
  | some stored =>
    have good := wellFormed stored rfl
    obtain ⟨readLeft, gotLeft, takesLeft, rfl⟩ := (due_some_eq_ok_iff manages a stored left).mp one
    obtain ⟨readRight, gotRight, takesRight, rfl⟩ :=
      (due_some_eq_ok_iff manages b stored right).mp other
    have nothingLeft := patch_received_eq_nil_iff manages good gotLeft takesLeft
    have nothingRight := patch_received_eq_nil_iff manages good gotRight takesRight
    by_cases already : mutation.Met stored
    · left
      exact ⟨if_pos (nothingLeft.mpr already), if_pos (nothingRight.mpr already)⟩
    · right
      refine ⟨_, _, if_neg (mt nothingLeft.mp already), if_neg (mt nothingRight.mp already),
        .patch (perm_patch manages good gotLeft gotRight takesLeft takesRight), ?_⟩
      intro cluster there
      rw [Cluster.act.eq_def, Cluster.act.eq_def, there]
      simp only [apply_patch_eq manages good gotLeft gotRight takesLeft takesRight]

/-- What one client can read another one can, and they stumble over the same things, if config maps
have metadata that is an object. -/
theorem received_agree (a b : Client) {kind : Kind} (written : kind.isWritten) {stored : Json}
    (readable : kind = .configMap → Object.HasMetadata stored) :
    (∃ left right, a.received kind stored = .ok left ∧ b.received kind stored = .ok right) ∨
      ∃ bad, a.received kind stored = .error bad ∧ b.received kind stored = .error bad := by
  by_cases config : kind = .configMap
  · have known := (readable config).get?_eq
    obtain ⟨left, one⟩ := a.received_of_metadata kind known
    obtain ⟨right, other⟩ := b.received_of_metadata kind known
    exact .inl ⟨left, right, one, other⟩
  · -- of the other kinds a typed client keeps all
    have whole : ∀ client : Client, client.view kind stored = .ok stored := by
      intro client
      rw [view]
      split
      · cases kind with
        | configMap => exact absurd rfl config
        | statefulSet => cases written
        | prometheusRule | scrapeConfig => rfl
      · rfl
    rw [received, received, whole a, whole b]
    dsimp only
    cases withDefaults kind stored with
    | ok read => exact .inl ⟨read, read, rfl, rfl⟩
    | error bad => exact .inr ⟨bad, rfl, rfl⟩

/-- Two clients both know what is due, or both stumble, and over the same thing. -/
theorem due_both (manages : target.Manages mutation field value) (a b : Client)
    {held : Option Json}
    (readable : ∀ stored, held = some stored → target.kind = .configMap →
      Object.HasMetadata stored) :
    (∃ left right, a.due target mutation held = .ok left ∧ b.due target mutation held = .ok right) ∨
      ∃ bad, a.due target mutation held = .error bad ∧ b.due target mutation held = .error bad := by
  cases held with
  | none => exact .inl ⟨_, _, due_none manages a, due_none manages b⟩
  | some stored =>
    rw [due, due]
    rcases received_agree a b manages.written (readable stored rfl) with
      ⟨left, right, one, other⟩ | ⟨bad, one, other⟩
    · obtain ⟨formLeft, alikeLeft⟩ := alike_received one
      obtain ⟨formRight, alikeRight⟩ := alike_received other
      rw [one, other]
      dsimp only
      rcases manages.apply_agree formLeft formRight alikeLeft alikeRight with
        ⟨mine, yours, made, too⟩ | ⟨bad, refused, too⟩
      · rw [made, too]
        exact .inl ⟨_, _, rfl, rfl⟩
      · rw [refused, too]
        exact .inr ⟨bad, rfl, rfl⟩
    · rw [one, other]
      exact .inr ⟨bad, rfl, rfl⟩

end Client
end

end Upkeep
