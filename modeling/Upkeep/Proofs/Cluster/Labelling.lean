import Upkeep.Proofs.Cluster.Labels
import Upkeep.Proofs.Json.Reordering

/-! What setting a label leaves behind. A label is set in place, in steps that first make what is not
there; a step that fails leaves what the steps before it have done. Even so an object that refuses a
label stays as it was, and one that takes it has the label and is the same in all else. So labels may
be set in any order and more than once. -/
namespace Upkeep

namespace Object

/-! ### Step by step -/

/-- How a change of an object ends, and the object as it is then. -/
abbrev InPlace := Json → Except Malformed Unit × Json

/-- What a change does that leaves the object as it was if it fails. -/
def settled (object : Json) : Except Malformed Json → Except Malformed Unit × Json
  | .ok made => (.ok (), made)
  | .error bad => (.error bad, object)

/-- One change after the other. If the first one fails, what it has done stays. -/
def InPlace.andThen (first second : InPlace) : InPlace := fun object =>
  match first object with
  | (.ok (), made) => second made
  | (.error bad, made) => (.error bad, made)

/-- Empty metadata where there is none. -/
def fillMetadata : InPlace
  | .obj members => (.ok (), .obj (Table.insertNew members "metadata" (.obj [])))
  | other => (.error (.noDefaults other.form), other)

/-- Empty labels where there are none in the metadata, or null. -/
def fillLabels : InPlace := fun object =>
  match (object.get? "metadata").getD .null with
  | .obj _ =>
    match labelsMember object with
    | .null => (.ok (), withLabels object [])
    | _ => (.ok (), object)
  | other => (.error (.noObject other.form), object)

def writeLabel (key value : String) : InPlace := fun object =>
  match labelsMember object with
  | .obj labels => (.ok (), withLabels object (Table.insert labels key (.str value)))
  | other => (.error (.notAssignable other.form), object)

/-- Sets a label in place. -/
def label (key value : String) : InPlace :=
  (fillMetadata.andThen fillLabels).andThen (writeLabel key value)

/-- Sets labels in place, one after the other. -/
def labelAll : List (String × String) → InPlace
  | [] => fun object => (.ok (), object)
  | (key, value) :: rest => (label key value).andThen (labelAll rest)

theorem InPlace.andThen_of_ok {first : InPlace} {object made : Json}
    (done : first object = (.ok (), made)) (second : InPlace) :
    first.andThen second object = second made := by
  rw [andThen, done]

theorem InPlace.andThen_of_error {first : InPlace} {object made : Json} {bad : Malformed}
    (failed : first object = (.error bad, made)) (second : InPlace) :
    first.andThen second object = (.error bad, made) := by
  rw [andThen, failed]

theorem writeLabel_of_obj {object : Json} {labels : Table String Json}
    (held : labelsMember object = .obj labels) (key value : String) :
    writeLabel key value object = (.ok (), withLabels object (labels.insert key (.str value))) := by
  rw [writeLabel, held]

@[simp] theorem labelsMember_withLabels (object : Json) (labels : Table String Json) :
    labelsMember (withLabels object labels) = .obj labels := by
  simp [labelsMember, Table.get?_insert]

section
variable {members : Table String Json}

theorem fillMetadata_of_absent (absent : Json.get? (.obj members) "metadata" = none) :
    fillMetadata (.obj members) = (.ok (), .obj (members.insert "metadata" (.obj []))) := by
  have free : members.contains "metadata" = false := by
    rw [Table.contains, show members.get? "metadata" = none from absent]
    rfl
  rw [fillMetadata, Table.insertNew, free]
  rfl

theorem fillMetadata_of_held {found : Json}
    (held : Json.get? (.obj members) "metadata" = some found) :
    fillMetadata (.obj members) = (.ok (), .obj members) := by
  have there : members.contains "metadata" = true := by
    rw [Table.contains, show members.get? "metadata" = some found from held]
    rfl
  rw [fillMetadata, Table.insertNew, there]
  rfl

theorem fillLabels_of_null {object : Json} {inner : Table String Json}
    (held : object.get? "metadata" = some (.obj inner)) (null : labelsMember object = .null) :
    fillLabels object = (.ok (), withLabels object []) := by
  rw [fillLabels, held]
  simp only [Option.getD_some, null]

theorem fillLabels_of_held {object : Json} {inner : Table String Json}
    (held : object.get? "metadata" = some (.obj inner))
    (notNull : (labelsMember object).form ≠ .null) :
    fillLabels object = (.ok (), object) := by
  rw [fillLabels, held]
  simp only [Option.getD_some]
  split
  · rename_i null
    rw [null] at notNull
    exact absurd rfl notNull
  · rfl

theorem label_of_filled {filled : Json} (done : fillMetadata (.obj members) = (.ok (), filled))
    (key value : String) :
    label key value (.obj members) = fillLabels.andThen (writeLabel key value) filled := by
  rw [label, InPlace.andThen, InPlace.andThen_of_ok done, InPlace.andThen]

theorem label_of_absent (absent : Json.get? (.obj members) "metadata" = none)
    (key value : String) :
    label key value (.obj members) = (.ok (), withLabels (.obj members) [(key, .str value)]) := by
  have none : metadata (.obj members) = [] := by
    rw [metadata, absent]
    rfl
  have filled : Json.get? (.obj (members.insert "metadata" (.obj []))) "metadata" =
      some (.obj []) := by
    rw [Json.get?, Json.members, Table.get?_insert, if_pos rfl]
  have bare : metadata (.obj (members.insert "metadata" (.obj []))) = [] := by
    rw [metadata, filled]
    rfl
  have null : labelsMember (.obj (members.insert "metadata" (.obj []))) = .null := by
    rw [labelsMember, bare]
    rfl
  have same : withLabels (.obj (members.insert "metadata" (.obj []))) [] =
      withLabels (.obj members) [] := by
    rw [withLabels, withLabels, none, bare, Json.members, Table.insert_insert]
    rfl
  rw [label_of_filled (fillMetadata_of_absent absent),
    InPlace.andThen_of_ok (fillLabels_of_null filled null), same,
    writeLabel_of_obj (labelsMember_withLabels _ _), withLabels_withLabels]
  rfl

theorem label_of_takes (takes : TakesLabels (.obj members)) (key value : String) :
    label key value (.obj members) =
      (.ok (), withLabels (.obj members) ((labels (.obj members)).insert key (.str value))) := by
  cases held : Json.get? (.obj members) "metadata" with
  | none =>
    have none : labels (.obj members) = [] := by
      rw [labels, metadata, held]
      rfl
    rw [label_of_absent held, none]
    rfl
  | some found =>
    have shape := eq_obj_of_form (takes.metadataFree found held)
    rw [shape] at held
    have known : labels (.obj members) = (labelsMember (.obj members)).members := rfl
    rcases ((takesLabels_iff_forms _).mp takes).2.2 with null | object
    · have null : labelsMember (.obj members) = .null := by
        cases stored : labelsMember (.obj members) with
        | null => rfl
        | _ => rw [stored] at null; cases null
      rw [label_of_filled (fillMetadata_of_held held),
        InPlace.andThen_of_ok (fillLabels_of_null held null),
        writeLabel_of_obj (labelsMember_withLabels _ _), withLabels_withLabels, known, null]
      rfl
    · have notNull : (labelsMember (.obj members)).form ≠ .null := by
        intro null
        rw [object] at null
        cases null
      rw [label_of_filled (fillMetadata_of_held held),
        InPlace.andThen_of_ok (fillLabels_of_held held notNull),
        writeLabel_of_obj (eq_obj_of_form object), known]

theorem label_of_refuses {bad : Malformed} (refuses : Refuses (.obj members) bad)
    (key value : String) : label key value (.obj members) = (.error bad, .obj members) := by
  cases refuses with
  | @metadata found held scalar =>
    have failed : fillLabels (.obj members) = (.error (.noObject found.form), .obj members) := by
      rw [fillLabels, held, Option.getD_some]
      cases found with
      | obj inner => exact absurd rfl scalar
      | _ => rfl
    rw [label_of_filled (fillMetadata_of_held held), InPlace.andThen_of_error failed]
  | labels notNull scalar =>
    cases held : Json.get? (.obj members) "metadata" with
    | none =>
      rw [labelsMember, metadata, held] at notNull
      exact absurd rfl notNull
    | some found =>
      rcases found.obj_or_form_ne with ⟨inner, rfl⟩ | other
      · rw [label_of_filled (fillMetadata_of_held held),
          InPlace.andThen_of_ok (fillLabels_of_held held notNull), writeLabel]
        cases stored : labelsMember (.obj members) with
        | obj labels =>
          rw [stored] at scalar
          exact absurd rfl scalar
        | _ => rfl
      · exact absurd (labelsMember_of_scalar held other) notNull

/-- Setting a label in place leaves an object that refuses it as it was. -/
theorem label_eq (members : Table String Json) (key value : String) :
    label key value (.obj members) = settled (.obj members) (setLabel (.obj members) key value) := by
  cases outcome : setLabel (.obj members) key value with
  | ok made =>
    obtain ⟨takes, rfl⟩ := (setLabel_eq_ok_iff _ key value made).mp outcome
    exact label_of_takes takes key value
  | error bad => exact label_of_refuses (refuses_of_setLabel rfl outcome) key value

end

/-! ### Labels in a list -/

/-- An object with a label on it takes any others. -/
theorem exists_setLabels_withLabels (object : Json) (labels : Table String Json)
    (wanted : List (String × String)) :
    ∃ made, setLabels (withLabels object labels) wanted = .ok made := by
  cases wanted with
  | nil => exact ⟨_, rfl⟩
  | cons first rest =>
    exact ⟨_, (setLabels_eq_ok_iff _ (List.cons_ne_nil first rest) _).mpr
      ⟨takesLabels_withLabels object labels, rfl⟩⟩

theorem setLabels_cons_of_ok {object made : Json} {key value : String}
    (set : setLabel object key value = .ok made) (rest : List (String × String)) :
    setLabels object ((key, value) :: rest) = setLabels made rest := by
  rw [setLabels, set]

theorem setLabels_cons_of_error {object : Json} {key value : String} {bad : Malformed}
    (failed : setLabel object key value = .error bad) (rest : List (String × String)) :
    setLabels object ((key, value) :: rest) = .error bad := by
  rw [setLabels, failed]

/-- If the first of some labels can be set, all of them can. -/
theorem setLabels_cons_succeeds_iff (object : Json) (key value : String)
    (rest : List (String × String)) :
    (∃ made, setLabels object ((key, value) :: rest) = .ok made) ↔
      ∃ made, setLabel object key value = .ok made := by
  cases outcome : setLabel object key value with
  | ok made =>
    obtain ⟨_, rfl⟩ := (setLabel_eq_ok_iff object key value made).mp outcome
    rw [setLabels_cons_of_ok outcome]
    exact iff_of_true (exists_setLabels_withLabels object _ rest) ⟨_, rfl⟩
  | error bad =>
    rw [setLabels_cons_of_error outcome]

theorem labelAll_eq (members : Table String Json) (wanted : List (String × String)) :
    labelAll wanted (.obj members) = settled (.obj members) (setLabels (.obj members) wanted) := by
  induction wanted generalizing members with
  | nil => rfl
  | cons first rest ih =>
    obtain ⟨key, value⟩ := first
    have step := label_eq members key value
    cases outcome : setLabel (.obj members) key value with
    | error bad =>
      rw [outcome] at step
      rw [setLabels_cons_of_error outcome]
      exact InPlace.andThen_of_error step (labelAll rest)
    | ok made =>
      rw [outcome] at step
      obtain ⟨_, rfl⟩ := (setLabel_eq_ok_iff _ key value made).mp outcome
      -- Nothing can fail any more, so it does not matter which object a failure would leave.
      obtain ⟨last, done⟩ := exists_setLabels_withLabels (.obj members) _ rest
      have later : labelAll rest (withLabels (.obj members) _) =
          settled (withLabels (.obj members) _)
            (setLabels (withLabels (.obj members) ((labels (.obj members)).insert key (.str value)))
              rest) := ih _
      rw [done] at later
      rw [setLabels_cons_of_ok outcome, done]
      exact (InPlace.andThen_of_ok step (labelAll rest)).trans later

theorem setLabels_append (object : Json) (first second : List (String × String)) :
    setLabels object (first ++ second) =
      (setLabels object first).bind fun made => setLabels made second := by
  induction first generalizing object with
  | nil => rfl
  | cons label rest ih =>
    obtain ⟨key, value⟩ := label
    rw [List.cons_append]
    cases outcome : setLabel object key value with
    | ok made => rw [setLabels_cons_of_ok outcome, setLabels_cons_of_ok outcome, ih]
    | error bad =>
      rw [setLabels_cons_of_error outcome, setLabels_cons_of_error outcome]
      rfl

/-- Labels that are set again change nothing. -/
theorem setLabels_twice (object : Json) (wanted : List (String × String)) :
    setLabels object (wanted ++ wanted) = setLabels object wanted := by
  rw [setLabels_append]
  cases outcome : setLabels object wanted with
  | error bad => rfl
  | ok made =>
    by_cases none : wanted = []
    · subst none
      rfl
    · obtain ⟨_, rfl⟩ := (setLabels_eq_ok_iff object none made).mp outcome
      refine (setLabels_eq_ok_iff _ none _).mpr ⟨takesLabels_withLabels object _, ?_⟩
      rw [labels_withLabels, Table.insertAll_insertAll, withLabels_withLabels]

/-- The same outcome: one object up to the order of members, or the same refusal. -/
inductive SameOutcome : Except Malformed Json → Except Malformed Json → Prop
  | set {one other : Json} (reordered : one.Reordered other) : SameOutcome (.ok one) (.ok other)
  | refused (bad : Malformed) : SameOutcome (.error bad) (.error bad)

theorem reordered_withLabels (object : Json) {one other : Table String Json}
    (perm : one.Perm other) : (withLabels object one).Reordered (withLabels object other) :=
  ((Json.Reordered.of_perm perm).insert (metadata object) "labels").insert object.members "metadata"

theorem setLabels_of_refuses {object : Json} (isObject : object.form = .obj) {bad : Malformed}
    (refuses : Refuses object bad) {wanted : List (String × String)} (some : wanted ≠ []) :
    setLabels object wanted = .error bad := by
  cases outcome : setLabels object wanted with
  | error other => rw [(refuses_of_setLabels isObject outcome).unique refuses]
  | ok made =>
    exact absurd ((setLabels_eq_ok_iff object some made).mp outcome).1 refuses.not_takesLabels

/-- Labels with different names may be set in any order. -/
theorem setLabels_perm {object : Json} (isObject : object.form = .obj)
    {first second : List (String × String)} (distinct : Table.Distinct first)
    (perm : first.Perm second) :
    SameOutcome (setLabels object first) (setLabels object second) := by
  by_cases none : first = []
  · subst none
    rw [List.nil_perm.mp perm]
    exact .set (.refl object)
  · have some : second ≠ [] := fun empty => none (List.perm_nil.mp (empty ▸ perm))
    cases outcome : setLabels object first with
    | error bad =>
      rw [setLabels_of_refuses isObject (refuses_of_setLabels isObject outcome) some]
      exact .refused bad
    | ok made =>
      obtain ⟨takes, rfl⟩ := (setLabels_eq_ok_iff object none made).mp outcome
      rw [(setLabels_eq_ok_iff object some _).mpr ⟨takes, rfl⟩]
      have alike := (Table.Distinct.map Json.str distinct).alike_insertAll (perm.map _)
        (labels object)
      exact .set (reordered_withLabels object alike.perm)

/-! ### One label -/

/-- The object has been given a label: it is written among the labels, the labels into the metadata
and the metadata into the object, and at none of these levels has anything else changed. -/
structure Labelled (object : Json) (key value : String) (made : Json) : Prop where
  members : Table.Written object.members "metadata" (.obj (Object.metadata made)) made.members
  metadata : Table.Written (Object.metadata object) "labels" (.obj (Object.labels made))
    (Object.metadata made)
  labels : Table.Written (Object.labels object) key (.str value) (Object.labels made)

theorem labelled_withLabels (object : Json) (key value : String) :
    Labelled object key value
      (withLabels object ((labels object).insert key (.str value))) where
  members := by
    rw [metadata_withLabels]
    exact Table.written_insert object.members "metadata" _
  metadata := by
    rw [metadata_withLabels, labels_withLabels]
    exact Table.written_insert (Object.metadata object) "labels" _
  labels := by
    rw [labels_withLabels]
    exact Table.written_insert (Object.labels object) key _

theorem setLabel_eq_error_iff {object : Json} (isObject : object.form = .obj) (key value : String)
    (bad : Malformed) : setLabel object key value = .error bad ↔ Refuses object bad := by
  constructor
  · exact refuses_of_setLabel isObject
  · intro refuses
    cases outcome : setLabel object key value with
    | error other => rw [(refuses_of_setLabel isObject outcome).unique refuses]
    | ok made =>
      exact absurd ((setLabel_eq_ok_iff object key value made).mp outcome).1
        refuses.not_takesLabels

/-- A label is refused exactly if the metadata is no object, or if the labels are neither null nor an
object; and then the object is as it was, although it is changed in place. Otherwise it is given the
label and nothing else is changed. So labels may be set in any order if their names differ, labels
set twice are as if set once, and if the first of some labels can be set then all of them can. -/
theorem setLabel_confined (members : Table String Json) (key value : String) :
    label key value (.obj members) =
      settled (.obj members) (setLabel (.obj members) key value) ∧
    (∀ bad, setLabel (.obj members) key value = .error bad ↔ Refuses (.obj members) bad) ∧
    (∀ made, setLabel (.obj members) key value = .ok made →
      Labelled (.obj members) key value made) ∧
    (∀ wanted, labelAll wanted (.obj members) =
      settled (.obj members) (setLabels (.obj members) wanted)) ∧
    (∀ first second, Table.Distinct first → first.Perm second →
      SameOutcome (setLabels (.obj members) first) (setLabels (.obj members) second)) ∧
    (∀ wanted, setLabels (.obj members) (wanted ++ wanted) = setLabels (.obj members) wanted) ∧
    ∀ rest, (∃ made, setLabels (.obj members) ((key, value) :: rest) = .ok made) ↔
      ∃ made, setLabel (.obj members) key value = .ok made := by
  refine ⟨label_eq members key value, setLabel_eq_error_iff rfl key value, ?_, labelAll_eq members,
    fun _ _ => setLabels_perm rfl, setLabels_twice _, setLabels_cons_succeeds_iff _ key value⟩
  intro made set
  obtain ⟨_, rfl⟩ := (setLabel_eq_ok_iff _ key value made).mp set
  exact labelled_withLabels (.obj members) key value

/-- A config map whose labels are null. -/
def unlabelled : Table String Json :=
  [("kind", .str "ConfigMap"), ("metadata", .obj [("name", .str "rules"), ("labels", .null)])]

/-- The config map as it is with a label. -/
def managed : Json :=
  .obj [("kind", .str "ConfigMap"),
    ("metadata", .obj [("name", .str "rules"), ("labels", .obj [("managed-by", .str "upkeep")])])]

theorem setLabel_confined_unlabelled :
    setLabel (.obj unlabelled) "managed-by" "upkeep" = .ok managed ∧
    Labelled (.obj unlabelled) "managed-by" "upkeep" managed ∧
    Table.Distinct [("role", "cache"), ("tier", "shoot")] ∧
    [("role", "cache"), ("tier", "shoot")].Perm [("tier", "shoot"), ("role", "cache")] ∧
    SameOutcome (setLabels (.obj unlabelled) [("role", "cache"), ("tier", "shoot")])
      (setLabels (.obj unlabelled) [("tier", "shoot"), ("role", "cache")]) := by
  have set : setLabel (.obj unlabelled) "managed-by" "upkeep" = .ok managed := by rfl
  have distinct : Table.Distinct [("role", "cache"), ("tier", "shoot")] := by
    simp [Table.Distinct, Table.keys]
  have perm : [("role", "cache"), ("tier", "shoot")].Perm [("tier", "shoot"), ("role", "cache")] :=
    .swap _ _ _
  obtain ⟨_, _, labelled, _, inOrder, _⟩ := setLabel_confined unlabelled "managed-by" "upkeep"
  exact ⟨set, labelled managed set, distinct, perm, inOrder _ _ distinct perm⟩

end Object
end Upkeep
