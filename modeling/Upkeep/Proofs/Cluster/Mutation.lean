import Upkeep.Proofs.Cluster.Labels
import Upkeep.Proofs.Json.Application
import Upkeep.Proofs.Json.Writable

/-! What a mutation asks for, and what its patch does. The patch is computed from one object and may
be carried out on another one, which need only agree on the labels that are set and on the member
that is written. That object then has what was asked for. -/
namespace Upkeep.Mutation
open Object (TakesLabels withLabels)

/-- The object has every label that is set, and a member worth what is written. -/
def Met (mutation : Mutation) (object : Json) : Prop :=
  (∀ label ∈ mutation.labels, (Object.labels object).get? label.1 = some (.str label.2)) ∧
    ∀ field ∈ mutation.fields, ∃ held, object.get? field.1 = some held ∧ held.same field.2

/-- A mutation that sets labels and writes one member, whole, without nulls and with a text. -/
structure Writes (mutation : Mutation) (field : String) (value : Json) : Prop where
  labelled : mutation.labels ≠ []
  distinct : Table.Distinct mutation.labels
  fields : mutation.fields = [(field, value)]
  dropped : mutation.dropped = []
  notMetadata : field ≠ "metadata"
  notVersion : field ≠ "apiVersion"
  notKind : field ≠ "kind"
  wellFormed : value.WellFormed
  present : value ≠ .null
  nulls : Json.NullsFrom .null value
  writable : value.Writable

/-- Two objects that a mutation cannot tell apart; a null is as good as no member. -/
structure Agree (mutation : Mutation) (a b : Json) : Prop where
  labels : ∀ label ∈ mutation.labels,
    (Object.labels a).get? label.1 = (Object.labels b).get? label.1
  fields : ∀ field ∈ mutation.fields, (a.get? field.1).getD .null = (b.get? field.1).getD .null

/-- The labels of an object after the mutation. -/
def relabelled (mutation : Mutation) (object : Json) : Table String Json :=
  (Object.labels object).insertAll (Object.members mutation.labels)

/-- The object after the mutation. -/
def wanted (mutation : Mutation) (object : Json) (field : String) (value : Json) : Json :=
  .obj ((withLabels object (mutation.relabelled object)).members.insert field value)

section
variable {mutation : Mutation} {field : String} {value : Json}

theorem Writes.apply_eq_ok_iff (writes : mutation.Writes field value) (object result : Json) :
    mutation.apply object = .ok result ↔
      TakesLabels object ∧ result = mutation.wanted object field value := by
  have set := Object.setLabels_eq_ok_iff object writes.labelled
  rw [Mutation.apply]
  cases outcome : Object.setLabels object mutation.labels with
  | error bad =>
    simp only [reduceCtorEq, false_iff]
    rintro ⟨takes, _⟩
    have made := (set _).mpr ⟨takes, rfl⟩
    rw [outcome] at made
    cases made
  | ok made =>
    obtain ⟨takes, rfl⟩ := (set made).mp outcome
    simp [takes, overlay, writes.fields, writes.dropped, Table.insertAll, Table.eraseAll, wanted,
      relabelled, eq_comm]

theorem Writes.met_iff (writes : mutation.Writes field value) (object : Json) :
    mutation.Met object ↔
      (∀ label ∈ mutation.labels, (Object.labels object).get? label.1 = some (.str label.2)) ∧
        ∃ held, object.get? field = some held ∧ held.same value := by
  simp [Met, writes.fields]

theorem Agree.symm {a b : Json} (agree : mutation.Agree a b) : mutation.Agree b a where
  labels := fun label member => (agree.labels label member).symm
  fields := fun entry member => (agree.fields entry member).symm

theorem Agree.met (writes : mutation.Writes field value) {a b : Json}
    (agree : mutation.Agree a b) (met : mutation.Met a) : mutation.Met b := by
  rw [writes.met_iff] at met ⊢
  obtain ⟨labels, held, found, worth⟩ := met
  constructor
  · intro label member
    rw [← agree.labels label member]
    exact labels label member
  · have alike := agree.fields (field, value) (by simp [writes.fields])
    rw [found, Option.getD_some] at alike
    cases there : b.get? field with
    | none =>
      rw [there] at alike
      exact absurd alike (Json.ne_null_of_same worth writes.present)
    | some other =>
      rw [there] at alike
      exact ⟨held, congrArg some alike.symm, worth⟩

theorem Agree.met_iff (writes : mutation.Writes field value) {a b : Json}
    (agree : mutation.Agree a b) : mutation.Met a ↔ mutation.Met b :=
  ⟨agree.met writes, agree.symm.met writes⟩

theorem get?_wanted (mutation : Mutation) (object : Json) (field : String) (value : Json)
    (key : String) :
    (mutation.wanted object field value).get? key =
      if field = key then some value
      else if "metadata" = key then some (.obj ((Object.metadata object).insert "labels"
        (.obj (mutation.relabelled object))))
      else object.get? key := by
  simp only [wanted, withLabels, Json.get?, Json.members, Table.get?_insert]

theorem wellFormed_metadata {object : Json} (wellFormed : object.WellFormed) :
    (Json.obj (Object.metadata object)).WellFormed := by
  apply Json.wellFormed_members
  cases found : object.get? "metadata" with
  | none => trivial
  | some held => exact wellFormed.get? found

theorem wellFormed_labels {object : Json} (wellFormed : object.WellFormed) :
    (Json.obj (Object.labels object)).WellFormed := by
  apply Json.wellFormed_members
  cases found : (Object.metadata object).get? "labels" with
  | none => trivial
  | some held => exact (wellFormed_metadata wellFormed).get? found

/-- Objects of equal worth have labels of equal worth. -/
theorem rel_labels {a b : Json} (left : a.WellFormed) (right : b.WellFormed) (worth : a.same b)
    (key : String) : Option.Rel (fun x y : Json => x.same y) ((Object.labels a).get? key)
      ((Object.labels b).get? key) := by
  have outer : Option.Rel (fun x y : Json => x.same y) ((Object.metadata a).get? "labels")
      ((Object.metadata b).get? "labels") :=
    Json.rel_get?_of_rel (fun _ => left.get?) (fun _ => right.get?)
      (Json.rel_get?_of_same left right worth "metadata") "labels"
  exact Json.rel_get?_of_rel (fun _ => (wellFormed_metadata left).get?)
    (fun _ => (wellFormed_metadata right).get?) outer key

/-- What is worth the same as an object that meets the mutation meets it too. -/
theorem Met.of_same (writes : mutation.Writes field value) {a b : Json} (left : a.WellFormed)
    (right : b.WellFormed) (worth : a.same b) (met : mutation.Met b) : mutation.Met a := by
  rw [writes.met_iff] at met ⊢
  obtain ⟨labels, held, found, alike⟩ := met
  constructor
  · intro label member
    have related := rel_labels left right worth label.1
    rw [labels label member] at related
    generalize (Object.labels a).get? label.1 = own at related
    cases related with
    | some same => rw [Json.eq_str_of_same same]
  · have related := Json.rel_get?_of_same left right worth field
    rw [found] at related
    cases there : a.get? field with
    | none =>
      rw [there] at related
      cases related
    | some own =>
      rw [there] at related
      cases related with
      | some same =>
        exact ⟨own, rfl, Json.same_trans (left.get? there) (right.get? found) writes.wellFormed
          same alike⟩

theorem distinct_members {labels : List (String × String)} (distinct : Table.Distinct labels) :
    (Object.members labels).Distinct :=
  Table.Distinct.map Json.str distinct

theorem Writes.get?_members (writes : mutation.Writes field value) {label : String × String}
    (member : label ∈ mutation.labels) :
    (Object.members mutation.labels).get? label.1 = some (.str label.2) := by
  rw [Object.members, Table.get?_map, writes.distinct.get?_of_mem member]
  rfl

theorem str_of_get?_members {labels : List (String × String)} {key : String} {found : Json}
    (named : (Object.members labels).get? key = some found) :
    ∃ text, found = .str text ∧ (key, text) ∈ labels := by
  rw [Object.members, Table.get?_map] at named
  obtain ⟨text, there, rfl⟩ := Option.map_eq_some_iff.mp named
  exact ⟨text, rfl, Table.mem_of_get? there⟩

theorem Writes.wellFormed_relabelled (writes : mutation.Writes field value) {object : Json}
    (wellFormed : object.WellFormed) : (Json.obj (mutation.relabelled object)).WellFormed := by
  rw [Json.wellFormed_obj_iff]
  refine ⟨(wellFormed_labels wellFormed).distinct.insertAll _, ?_⟩
  intro key found h
  rw [relabelled, Table.get?_insertAll _ (distinct_members writes.distinct)] at h
  cases named : (Object.members mutation.labels).get? key with
  | none =>
    rw [named, Option.none_or] at h
    exact (wellFormed_labels wellFormed).get? h
  | some given =>
    rw [named, Option.some_or] at h
    obtain ⟨text, rfl, _⟩ := str_of_get?_members named
    exact Option.some.inj h ▸ trivial

theorem Writes.wellFormed_wanted (writes : mutation.Writes field value) {object : Json}
    (wellFormed : object.WellFormed) : (mutation.wanted object field value).WellFormed := by
  apply Json.wellFormed_insert _ writes.wellFormed
  apply Json.wellFormed_insert (Json.wellFormed_members wellFormed)
  exact Json.wellFormed_insert (wellFormed_metadata wellFormed)
    (writes.wellFormed_relabelled wellFormed)

theorem refuses_of_apply (mutation : Mutation) {object : Json} (isObject : object.form = .obj)
    {bad : Malformed} (failed : mutation.apply object = .error bad) :
    Object.Refuses object bad := by
  rw [Mutation.apply] at failed
  split at failed
  · cases failed
  · rename_i refused
    cases failed
    exact Object.refuses_of_setLabels isObject refused

theorem Writes.refuses (writes : mutation.Writes field value) {object stored : Json}
    (isObject : object.form = .obj) (alike : Object.Alike object stored)
    (closed : ¬ TakesLabels stored) :
    ∃ bad, mutation.apply object = .error bad ∧ Object.Refuses stored bad := by
  cases outcome : mutation.apply object with
  | ok wanted =>
    have takes := ((writes.apply_eq_ok_iff object wanted).mp outcome).1
    exact absurd (alike.takesLabels_iff.mp takes) closed
  | error bad => exact ⟨bad, rfl, alike.refuses (refuses_of_apply mutation isObject outcome)⟩

/-- Two objects that no label can tell from a third one take the mutation, or refuse it for the same
reason. -/
theorem Writes.apply_agree (writes : mutation.Writes field value) {a b stored : Json}
    (left : a.form = .obj) (right : b.form = .obj) (one : Object.Alike a stored)
    (other : Object.Alike b stored) :
    (∃ mine yours, mutation.apply a = .ok mine ∧ mutation.apply b = .ok yours) ∨
      ∃ bad, mutation.apply a = .error bad ∧ mutation.apply b = .error bad := by
  by_cases takes : TakesLabels stored
  · have mine := (writes.apply_eq_ok_iff a _).mpr ⟨one.takesLabels_iff.mpr takes, rfl⟩
    have yours := (writes.apply_eq_ok_iff b _).mpr ⟨other.takesLabels_iff.mpr takes, rfl⟩
    exact .inl ⟨_, _, mine, yours⟩
  · obtain ⟨bad, mine, refused⟩ := writes.refuses left one takes
    obtain ⟨worse, yours, too⟩ := writes.refuses right other takes
    exact .inr ⟨bad, mine, too.unique refused ▸ yours⟩

/-! ### The computed patch -/

/-- The patch that the mutation of an object amounts to. -/
def patch (mutation : Mutation) (object : Json) (field : String) (value : Json) :
    Table String Json :=
  Json.diff object.members (mutation.wanted object field value).members

/-- What the patch says about labels. -/
def labelChange (mutation : Mutation) (object : Json) : Table String Json :=
  Json.diff (Object.labels object) (mutation.relabelled object)

theorem distinct_labelChange (writes : mutation.Writes field value) {object : Json}
    (wellFormed : object.WellFormed) : (mutation.labelChange object).Distinct :=
  Json.distinct_diff (wellFormed_labels wellFormed).distinct
    (writes.wellFormed_relabelled wellFormed).distinct

theorem get?_labelChange (writes : mutation.Writes field value) {object : Json}
    (wellFormed : object.WellFormed) (key : String) :
    (mutation.labelChange object).get? key =
      ((Object.members mutation.labels).get? key).bind
        (Json.change ((Object.labels object).get? key)) := by
  have left := wellFormed_labels wellFormed
  have right : (mutation.relabelled object).Distinct :=
    (writes.wellFormed_relabelled wellFormed).distinct
  rw [labelChange, Json.get?_diff _ right, relabelled,
    Table.get?_insertAll _ (distinct_members writes.distinct)]
  cases (Object.members mutation.labels).get? key with
  | some given => rfl
  | none =>
    cases held : (Object.labels object).get? key with
    | none => rfl
    | some found => exact Json.change_self (left.get? held)

theorem relabelled_ne_nil (writes : mutation.Writes field value) (object : Json) :
    mutation.relabelled object ≠ [] := by
  intro empty
  obtain ⟨label, member⟩ := List.exists_mem_of_ne_nil _ writes.labelled
  have found : (mutation.relabelled object).get? label.1 = some (.str label.2) := by
    rw [relabelled, Table.get?_insertAll _ (distinct_members writes.distinct),
      writes.get?_members member, Option.some_or]
  rw [empty] at found
  cases found

theorem labelChange_of_nil {object : Json} (empty : Object.labels object = []) :
    mutation.labelChange object = mutation.relabelled object := by
  rw [labelChange, empty, Json.diff_nil]

theorem change_labels (writes : mutation.Writes field value) (object : Json) :
    Json.change ((Object.metadata object).get? "labels") (.obj (mutation.relabelled object)) =
      if mutation.labelChange object = [] then none
      else some (.obj (mutation.labelChange object)) := by
  have whole := relabelled_ne_nil writes object
  cases found : (Object.metadata object).get? "labels" with
  | none =>
    have empty : Object.labels object = [] := by rw [Object.labels, found]; rfl
    rw [labelChange_of_nil empty, if_neg whole, Json.change]
  | some held =>
    rcases held.obj_or_form_ne with ⟨inner, rfl⟩ | scalar
    · have known : Object.labels object = inner := by rw [Object.labels, found]; rfl
      rw [Json.change, Json.patchTo_obj, labelChange, known]
    · have empty : Object.labels object = [] := by
        rw [Object.labels, found, Option.getD_some]
        exact Json.members_of_not_object scalar
      rw [labelChange_of_nil empty, if_neg whole, Json.change, Json.patchTo_of_not_object scalar]

/-- Metadata in which labels are put changes in its labels alone. -/
theorem diff_metadata {metadata : Table String Json} (wellFormed : (Json.obj metadata).WellFormed)
    {labels : Json} {change : Table String Json}
    (changed : Json.change (metadata.get? "labels") labels =
      if change = [] then none else some (.obj change)) :
    Json.diff metadata (metadata.insert "labels" labels) =
      if change = [] then [] else [("labels", .obj change)] := by
  have inside : metadata.Distinct := wellFormed.distinct
  have outside : ∀ other, other ≠ "labels" →
      (Json.diff metadata (metadata.insert "labels" labels)).get? other = none := by
    intro other different
    rw [Json.get?_diff _ (inside.insert _ _), Table.get?_insert, if_neg (Ne.symm different)]
    cases there : metadata.get? other with
    | none => rfl
    | some part => exact Json.change_self (wellFormed.get? there)
  have within : (Json.diff metadata (metadata.insert "labels" labels)).get? "labels" =
      if change = [] then none else some (.obj change) := by
    rw [Json.get?_diff _ (inside.insert _ _), Table.get?_insert, if_pos rfl]
    exact changed
  by_cases nothing : change = []
  · rw [if_pos nothing] at within ⊢
    rw [Table.eq_nil_iff_get?]
    intro other
    by_cases same : other = "labels"
    · rw [same, within]
    · exact outside other same
  · rw [if_neg nothing] at within ⊢
    exact (Json.distinct_diff inside (inside.insert _ _)).eq_singleton within outside

theorem wellFormed_patch (writes : mutation.Writes field value) {object : Json}
    (wellFormed : object.WellFormed) : (Json.obj (mutation.patch object field value)).WellFormed :=
  Json.wellFormed_diff (Json.wellFormed_members wellFormed)
    (Json.wellFormed_members (writes.wellFormed_wanted wellFormed))

theorem get?_patch (writes : mutation.Writes field value) {object : Json}
    (wellFormed : object.WellFormed) (key : String) :
    (mutation.patch object field value).get? key =
      match (mutation.wanted object field value).get? key with
      | some value => Json.change (object.get? key) value
      | none => (object.get? key).map fun _ => .null :=
  Json.get?_diff _ (writes.wellFormed_wanted wellFormed).distinct key

/-- The patch touches metadata through labels alone. -/
theorem get?_patch_metadata (writes : mutation.Writes field value) {object : Json}
    (wellFormed : object.WellFormed) (takes : TakesLabels object) :
    (mutation.patch object field value).get? "metadata" =
      if mutation.labelChange object = [] then none
      else some (.obj [("labels", .obj (mutation.labelChange object))]) := by
  rw [get?_patch writes wellFormed, get?_wanted, if_neg writes.notMetadata, if_pos rfl]
  cases found : object.get? "metadata" with
  | none =>
    have bare : Object.metadata object = [] := by rw [Object.metadata, found]; rfl
    have empty : Object.labels object = [] := by rw [Object.labels, bare]; rfl
    rw [labelChange_of_nil empty, if_neg (relabelled_ne_nil writes object), bare]
    rfl
  | some held =>
    have known : held = .obj (Object.metadata object) := by
      rw [Object.metadata, found]
      exact Object.eq_obj_of_form (takes.metadataFree held found)
    simp only [known, Json.change, Json.patchTo_obj]
    rw [diff_metadata (wellFormed_metadata wellFormed) (change_labels writes object)]
    by_cases nothing : mutation.labelChange object = [] <;> simp [nothing]

theorem get?_patch_field (writes : mutation.Writes field value) {object : Json}
    (wellFormed : object.WellFormed) :
    (mutation.patch object field value).get? field = Json.change (object.get? field) value := by
  rw [get?_patch writes wellFormed, get?_wanted, if_pos rfl]

theorem get?_patch_other (writes : mutation.Writes field value) {object : Json}
    (wellFormed : object.WellFormed) {key : String} (notField : key ≠ field)
    (notMetadata : key ≠ "metadata") : (mutation.patch object field value).get? key = none := by
  rw [get?_patch writes wellFormed, get?_wanted, if_neg (Ne.symm notField),
    if_neg (Ne.symm notMetadata)]
  cases there : object.get? key with
  | none => rfl
  | some part => exact Json.change_self (wellFormed.get? there)

theorem writable_labelChange (writes : mutation.Writes field value) {object : Json}
    (wellFormed : object.WellFormed) : (Json.obj (mutation.labelChange object)).Writable := by
  rw [Json.writable_obj_iff]
  intro e member
  have said := (distinct_labelChange writes wellFormed).get?_of_mem member
  rw [get?_labelChange writes wellFormed] at said
  obtain ⟨given, named, changed⟩ := Option.bind_eq_some_iff.mp said
  obtain ⟨text, rfl, _⟩ := str_of_get?_members named
  exact (Json.writable_str text).change changed

/-- What is said in the patch are labels and what is written, so the patch has a text. -/
theorem writable_patch (writes : mutation.Writes field value) {object : Json}
    (wellFormed : object.WellFormed) (takes : TakesLabels object) :
    (Json.obj (mutation.patch object field value)).Writable := by
  have distinct : (mutation.patch object field value).Distinct :=
    (wellFormed_patch writes wellFormed).distinct
  rw [Json.writable_obj_iff]
  intro e member
  have said := distinct.get?_of_mem member
  by_cases isField : e.1 = field
  · rw [isField, get?_patch_field writes wellFormed] at said
    exact writes.writable.change said
  by_cases isMetadata : e.1 = "metadata"
  · rw [isMetadata, get?_patch_metadata writes wellFormed takes] at said
    split at said
    · cases said
    · rw [← Option.some.inj said, Json.writable_obj_iff, List.forall_mem_singleton]
      exact writable_labelChange writes wellFormed
  · rw [get?_patch_other writes wellFormed isField isMetadata] at said
    cases said

end
end Upkeep.Mutation
