import Upkeep.Proofs.Cluster.Store

/-! What a client reads, against what is stored. A typed client drops members and fills some in, and
every client fills in the version and the kind. Labels come through, and so does the member that a
mutation writes, a null as nothing. -/
namespace Upkeep

/-- A target and a mutation of its object that belong together: objects of the kind are written, and
the member that is written is one that a typed client reads. -/
structure Target.Manages (target : Target) (mutation : Mutation) (field : String) (value : Json) :
    Prop extends mutation.Writes field value where
  written : target.kind.isWritten
  readable : target.kind = .configMap → field = "data"

namespace Typed
variable (time : Option Json → Option String)

theorem pick_cons (members : Table String Json) (name : String) (names : List String) :
    pick members (name :: names) =
      match members.get? name with
      | none | some .null => pick members names
      | some value => (name, value) :: pick members names := by
  rw [pick, List.filterMap_cons]
  rcases members.get? name with _ | value
  · rfl
  · cases value <;> rfl

theorem get?_pick_of_not_mem (members : Table String Json) {names : List String} {key : String}
    (absent : key ∉ names) : (pick members names).get? key = none := by
  induction names with
  | nil => rfl
  | cons name rest ih =>
    rw [List.mem_cons, not_or] at absent
    rw [pick_cons]
    split
    · exact ih absent.2
    · exact ih absent.2
    · rw [Table.get?_cons, if_neg (Ne.symm absent.1), ih absent.2]

/-- A member that is picked comes through, but a null does not. -/
theorem getD_get?_pick (members : Table String Json) {names : List String} {key : String}
    (member : key ∈ names) :
    ((pick members names).get? key).getD .null = (members.get? key).getD .null := by
  induction names with
  | nil => cases member
  | cons name rest ih =>
    have fallback : name = key → (members.get? key).getD .null = .null →
        ((pick members rest).get? key).getD .null = (members.get? key).getD .null := by
      intro _ null
      by_cases later : key ∈ rest
      · exact ih later
      · rw [get?_pick_of_not_mem members later, null]
        rfl
    rw [pick_cons]
    by_cases here : name = key
    · subst here
      split
      · rename_i held
        exact fallback rfl (by rw [held]; rfl)
      · rename_i held
        exact fallback rfl (by rw [held]; rfl)
      · rename_i held
        rw [Table.get?_cons, if_pos rfl, held]
    · have later : key ∈ rest := (List.mem_cons.mp member).resolve_left (Ne.symm here)
      split
      · exact ih later
      · exact ih later
      · rw [Table.get?_cons, if_neg here, ih later]

theorem wellFormed_cons {members : Table String Json} {key : String} {value : Json}
    (wellFormed : (Json.obj members).WellFormed) (absent : members.get? key = none)
    (part : value.WellFormed) : (Json.obj ((key, value) :: members)).WellFormed := by
  rw [Json.wellFormed_obj_iff] at wellFormed ⊢
  refine ⟨wellFormed.1.cons absent, ?_⟩
  intro other found h
  rw [Table.get?_cons] at h
  split at h
  · exact Option.some.inj h ▸ part
  · exact wellFormed.2 other found h

theorem wellFormed_append {members : Table String Json} {key : String} {value : Json}
    (wellFormed : (Json.obj members).WellFormed) (absent : members.get? key = none)
    (part : value.WellFormed) : (Json.obj (members ++ [(key, value)])).WellFormed := by
  rw [← Table.insert_of_absent _ _ absent]
  exact Json.wellFormed_insert wellFormed part

theorem wellFormed_append_created {members : Table String Json} (shown : Option String)
    (wellFormed : (Json.obj members).WellFormed)
    (absent : members.get? "creationTimestamp" = none) :
    (Json.obj (members ++ created shown)).WellFormed := by
  cases shown with
  | none => rwa [created, List.append_nil]
  | some text => exact wellFormed_append wellFormed absent trivial

theorem wellFormed_pick {members : Table String Json} (wellFormed : (Json.obj members).WellFormed)
    {names : List String} (distinct : names.Nodup) :
    (Json.obj (pick members names)).WellFormed := by
  induction names with
  | nil => exact ⟨List.nodup_nil, trivial⟩
  | cons name rest ih =>
    obtain ⟨absent, restDistinct⟩ := List.nodup_cons.mp distinct
    have inner := ih restDistinct
    rw [pick_cons]
    split
    · exact inner
    · exact inner
    · rename_i value _ held
      exact wellFormed_cons inner (get?_pick_of_not_mem members absent) (wellFormed.get? held)

theorem get?_created_of_ne (shown : Option String) {key : String}
    (other : key ≠ "creationTimestamp") : (created shown).get? key = none := by
  cases shown with
  | none => rfl
  | some text => rw [created, Table.get?_cons, if_neg (Ne.symm other), Table.get?_nil]

theorem metadata_eq_ok_iff (object result : Json) :
    metadata time object = .ok result ↔
      object.get? "metadata" = some (.obj (Object.metadata object)) ∧
        result = .obj (pick (Object.metadata object)
          ["name", "namespace", "labels", "annotations", "uid", "resourceVersion"]
            ++ created (time ((Object.metadata object).get? "creationTimestamp"))) := by
  rcases object.obj_or_form_ne with ⟨members, rfl⟩ | scalar
  · rw [metadata, Object.required]
    cases found : Table.get? members "metadata" with
    | none =>
      have absent : Json.get? (.obj members) "metadata" = none := found
      simp [absent]
    | some held =>
      have there : Json.get? (.obj members) "metadata" = some held := found
      rw [there, Object.metadata, there]
      rcases held.obj_or_form_ne with ⟨inner, rfl⟩ | other
      · simp [Json.members, eq_comm]
      · cases held with
        | obj inner => exact absurd rfl other
        | _ => simp
  · have absent : object.get? "metadata" = none := by
      rw [Json.get?, Json.members_of_not_object scalar]
      rfl
    cases object with
    | obj members => exact absurd rfl scalar
    | _ => simp [metadata, Object.required, absent]

/-- The object that a typed client reads: some members of it, and its metadata. -/
def kept (kind : Kind) (object metadata : Json) (names : List String) : Json :=
  .obj (("apiVersion", .str kind.apiVersion) :: ("kind", .str kind.name) ::
    (pick object.members names ++ [("metadata", metadata)]))

theorem view_configMap_eq_ok_iff (object result : Json) :
    view time .configMap object = .ok result ↔
      ∃ inner, metadata time object = .ok inner ∧
        result = kept .configMap object inner ["data"] := by
  rw [view]
  cases metadata time object <;> simp [kept, eq_comm]

theorem view_statefulSet_eq_ok_iff (object result : Json) :
    view time .statefulSet object = .ok result ↔
      ∃ inner, metadata time object = .ok inner ∧ result = kept .statefulSet object inner [] := by
  rw [view]
  cases metadata time object <;> simp [kept, eq_comm]

end Typed

namespace Client
variable {time : Option Json → Option String}

/-- What is read of a stored object, as far as mutations look at it: all the labels, and the members
that are written. -/
structure Faithful (kind : Kind) (stored read : Json) : Prop where
  labels : Object.labels read = Object.labels stored
  data : kind = .configMap → (read.get? "data").getD .null = (stored.get? "data").getD .null
  others : kind ≠ .configMap → kind.isWritten → ∀ key, key ≠ "apiVersion" → key ≠ "kind" →
    read.get? key = stored.get? key
  wellFormed : stored.WellFormed → read.WellFormed

theorem metadata_kept (kind : Kind) {object inner : Json} {names : List String}
    (known : Typed.metadata time object = .ok inner) (absent : "metadata" ∉ names) :
    (Typed.kept kind object inner names).get? "metadata" = some inner ∧ inner.form = .obj ∧
      (inner.get? "labels").getD .null = Object.labelsMember object := by
  obtain ⟨_, rfl⟩ := (Typed.metadata_eq_ok_iff time object inner).mp known
  refine ⟨?_, rfl, ?_⟩
  · simp [Typed.kept, Json.get?, Json.members, Table.get?, Table.get?_append,
      Typed.get?_pick_of_not_mem _ absent]
  · rw [Json.get?, Json.members, Table.get?_append, Typed.get?_created_of_ne _ (by decide),
      Option.or_none, Typed.getD_get?_pick _ (by decide), Object.labelsMember]

theorem labelsMember_kept {kind : Kind} {object inner : Json} {names : List String}
    (known : Typed.metadata time object = .ok inner) (absent : "metadata" ∉ names) :
    Object.labelsMember (Typed.kept kind object inner names) = Object.labelsMember object := by
  obtain ⟨found, _, same⟩ := metadata_kept kind known absent
  rw [← same, Object.labelsMember, Object.metadata, found]
  rfl

theorem labels_kept {kind : Kind} {object inner : Json} {names : List String}
    (known : Typed.metadata time object = .ok inner) (absent : "metadata" ∉ names) :
    Object.labels (Typed.kept kind object inner names) = Object.labels object :=
  congrArg Json.members (labelsMember_kept known absent)

/-- Labels can be set on what a typed client keeps of an object as on the object. -/
theorem alike_kept {kind : Kind} {object inner : Json} {names : List String}
    (known : Typed.metadata time object = .ok inner) (absent : "metadata" ∉ names) :
    Object.Alike (Typed.kept kind object inner names) object := by
  obtain ⟨held, _⟩ := (Typed.metadata_eq_ok_iff time object inner).mp known
  obtain ⟨found, isObject, _⟩ := metadata_kept kind known absent
  refine ⟨?_, ?_, labelsMember_kept known absent⟩
  · cases object with
    | obj members => rfl
    | _ => cases held
  · rw [found, held, Option.map_some, Option.map_some, isObject]
    rfl

theorem wellFormed_kept {kind : Kind} {object inner : Json} {names : List String}
    (known : Typed.metadata time object = .ok inner) (distinct : names.Nodup)
    (free : "metadata" ∉ names ∧ "kind" ∉ names ∧ "apiVersion" ∉ names)
    (wellFormed : object.WellFormed) : (Typed.kept kind object inner names).WellFormed := by
  obtain ⟨_, rfl⟩ := (Typed.metadata_eq_ok_iff time object inner).mp known
  have metadata : (Json.obj (Typed.pick (Object.metadata object)
      ["name", "namespace", "labels", "annotations", "uid", "resourceVersion"] ++
        Typed.created (time ((Object.metadata object).get? "creationTimestamp")))).WellFormed :=
    Typed.wellFormed_append_created _
      (Typed.wellFormed_pick (Mutation.wellFormed_metadata wellFormed) (by decide))
      (Typed.get?_pick_of_not_mem _ (by decide))
  have body := Typed.wellFormed_append
    (Typed.wellFormed_pick (Json.wellFormed_members wellFormed) distinct)
    (Typed.get?_pick_of_not_mem _ free.1) metadata
  refine Typed.wellFormed_cons (Typed.wellFormed_cons body ?_ trivial) ?_ trivial
  · simp [Table.get?_append, Typed.get?_pick_of_not_mem _ free.2.1, Table.get?]
  · simp [Table.get?_append, Typed.get?_pick_of_not_mem _ free.2.2, Table.get?]

theorem faithful_view {client : Client} {kind : Kind} {stored read : Json}
    (viewed : client.view kind stored = .ok read) : Faithful kind stored read := by
  rw [view] at viewed
  split at viewed
  · cases kind with
    | configMap =>
      obtain ⟨inner, known, rfl⟩ := (Typed.view_configMap_eq_ok_iff _ stored read).mp viewed
      refine ⟨labels_kept known (by decide), fun _ => ?_, fun other => absurd rfl other,
        wellFormed_kept known (by decide) (by decide)⟩
      have last : Table.get? [("metadata", inner)] "data" = none := rfl
      change ((Table.get? (Typed.pick stored.members ["data"] ++ [("metadata", inner)])
        "data").getD .null) = _
      rw [Table.get?_append, last, Option.or_none, Typed.getD_get?_pick _ (by decide)]
      rfl
    | statefulSet =>
      obtain ⟨inner, known, rfl⟩ := (Typed.view_statefulSet_eq_ok_iff _ stored read).mp viewed
      refine ⟨labels_kept known (by decide), fun other => absurd other (by decide), ?_,
        wellFormed_kept known (by decide) (by decide)⟩
      intro _ written
      cases written
    | prometheusRule =>
      cases viewed
      exact ⟨rfl, fun other => absurd other (by decide), fun _ _ _ _ _ => rfl, id⟩
    | scrapeConfig =>
      cases viewed
      exact ⟨rfl, fun other => absurd other (by decide), fun _ _ _ _ _ => rfl, id⟩
  · cases viewed
    exact ⟨rfl, fun _ => rfl, fun _ _ _ _ _ => rfl, id⟩

theorem alike_view {client : Client} {kind : Kind} {stored seen : Json}
    (viewed : client.view kind stored = .ok seen) : Object.Alike seen stored := by
  rw [view] at viewed
  split at viewed
  · cases kind with
    | configMap =>
      obtain ⟨inner, known, rfl⟩ := (Typed.view_configMap_eq_ok_iff _ stored seen).mp viewed
      exact alike_kept known (by decide)
    | statefulSet =>
      obtain ⟨inner, known, rfl⟩ := (Typed.view_statefulSet_eq_ok_iff _ stored seen).mp viewed
      exact alike_kept known (by decide)
    | prometheusRule | scrapeConfig =>
      cases viewed
      exact Object.alike_of_metadata rfl rfl
  · cases viewed
    exact Object.alike_of_metadata rfl rfl

theorem withDefaults_eq_ok_iff (kind : Kind) (object result : Json) :
    withDefaults kind object = .ok result ↔
      object.form = .obj ∧ result = .obj ((object.members.insertNew "apiVersion"
        (.str kind.apiVersion)).insertNew "kind" (.str kind.name)) := by
  cases object <;> simp [withDefaults, Json.form, Json.members, eq_comm]

theorem get?_withDefaults {kind : Kind} {object result : Json}
    (filled : withDefaults kind object = .ok result) {key : String}
    (notVersion : key ≠ "apiVersion") (notKind : key ≠ "kind") :
    result.get? key = object.get? key := by
  obtain ⟨_, rfl⟩ := (withDefaults_eq_ok_iff kind object result).mp filled
  rw [Json.get?, Json.members, Table.get?_insertNew, if_neg (Ne.symm notKind),
    Table.get?_insertNew, if_neg (Ne.symm notVersion)]
  rfl

theorem wellFormed_withDefaults {kind : Kind} {object result : Json}
    (filled : withDefaults kind object = .ok result) (wellFormed : object.WellFormed) :
    result.WellFormed := by
  obtain ⟨_, rfl⟩ := (withDefaults_eq_ok_iff kind object result).mp filled
  exact Cluster.wellFormed_insertNew
    (Cluster.wellFormed_insertNew (Json.wellFormed_members wellFormed) trivial) trivial

theorem received_eq_ok_iff (client : Client) (kind : Kind) (stored read : Json) :
    client.received kind stored = .ok read ↔
      ∃ seen, client.view kind stored = .ok seen ∧ withDefaults kind seen = .ok read := by
  rw [received]
  cases client.view kind stored <;> simp

theorem received_eq_error_iff (client : Client) (kind : Kind) (stored : Json) (bad : Malformed) :
    client.received kind stored = .error bad ↔
      client.view kind stored = .error bad ∨
        ∃ seen, client.view kind stored = .ok seen ∧ withDefaults kind seen = .error bad := by
  rw [received]
  cases client.view kind stored <;> simp

theorem faithful_received {client : Client} {kind : Kind} {stored read : Json}
    (got : client.received kind stored = .ok read) : Faithful kind stored read := by
  rw [received] at got
  cases viewed : client.view kind stored with
  | error bad => rw [viewed] at got; cases got
  | ok seen =>
    rw [viewed] at got
    have faithful := faithful_view viewed
    have through : ∀ key, key ≠ "apiVersion" → key ≠ "kind" → read.get? key = seen.get? key :=
      fun key notVersion notKind => get?_withDefaults got notVersion notKind
    refine ⟨?_, ?_, ?_, fun good => wellFormed_withDefaults got (faithful.wellFormed good)⟩
    · rw [← faithful.labels, Object.labels, Object.metadata,
        through "metadata" (by decide) (by decide)]
      rfl
    · intro isConfigMap
      rw [through "data" (by decide) (by decide), faithful.data isConfigMap]
    · intro other written key notVersion notKind
      rw [through key notVersion notKind, faithful.others other written key notVersion notKind]

theorem alike_received {client : Client} {kind : Kind} {stored read : Json}
    (got : client.received kind stored = .ok read) :
    read.form = .obj ∧ Object.Alike read stored := by
  obtain ⟨seen, viewed, filled⟩ := (received_eq_ok_iff client kind stored read).mp got
  obtain ⟨isObject, made⟩ := (withDefaults_eq_ok_iff kind seen read).mp filled
  have form : read.form = .obj := by rw [made]; rfl
  exact ⟨form, (Object.alike_of_metadata (form.trans isObject.symm)
    (get?_withDefaults filled (by decide) (by decide))).trans (alike_view viewed)⟩

/-- A mutation cannot tell what is read from what is stored. -/
theorem agree_received {client : Client} {target : Target} {mutation : Mutation} {field : String}
    {value stored read : Json} (manages : target.Manages mutation field value)
    (got : client.received target.kind stored = .ok read) : mutation.Agree read stored := by
  have faithful := faithful_received got
  refine ⟨fun label _ => by rw [faithful.labels], ?_⟩
  intro entry member
  have here : entry = (field, value) := by simpa [manages.fields] using member
  rw [here]
  by_cases isConfigMap : target.kind = .configMap
  · rw [manages.readable isConfigMap]
    exact faithful.data isConfigMap
  · rw [faithful.others isConfigMap manages.written field manages.notVersion manages.notKind]

theorem view_of_metadata (client : Client) (kind : Kind) {stored : Json}
    (known : stored.get? "metadata" = some (.obj (Object.metadata stored))) :
    ∃ read, client.view kind stored = .ok read ∧ read.form = .obj := by
  have isObject : stored.form = .obj := by
    cases stored with
    | obj members => rfl
    | _ => cases known
  have made := (Typed.metadata_eq_ok_iff client.time stored _).mpr ⟨known, rfl⟩
  rw [view]
  split
  · cases kind with
    | configMap => exact ⟨_, (Typed.view_configMap_eq_ok_iff _ _ _).mpr ⟨_, made, rfl⟩, rfl⟩
    | statefulSet => exact ⟨_, (Typed.view_statefulSet_eq_ok_iff _ _ _).mpr ⟨_, made, rfl⟩, rfl⟩
    | prometheusRule => exact ⟨stored, rfl, isObject⟩
    | scrapeConfig => exact ⟨stored, rfl, isObject⟩
  · exact ⟨stored, rfl, isObject⟩

theorem received_of_metadata (client : Client) (kind : Kind) {stored : Json}
    (known : stored.get? "metadata" = some (.obj (Object.metadata stored))) :
    ∃ read, client.received kind stored = .ok read := by
  obtain ⟨seen, viewed, isObject⟩ := client.view_of_metadata kind known
  rw [received, viewed]
  exact ⟨_, (withDefaults_eq_ok_iff kind seen _).mpr ⟨isObject, rfl⟩⟩

end Client
end Upkeep
