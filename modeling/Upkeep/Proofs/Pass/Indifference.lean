import Upkeep.Proofs.Cluster.Agreement
import Upkeep.Proofs.Pass.Sparing

/-! It makes no difference to a pass whether its client keeps whole objects or only the fields that it
knows. Two passes that differ in this alone, against one server, fail on the same calls or find the
same things due; they send the same, come to the same result and leave the same server, as long as
the metadata of what they read is an object. -/
namespace Upkeep
open Dialogue

/-! ### Runs that are alike -/

/-- The same is asked; the members of a patch may stand in another order. -/
structure Request.Alike (one other : Request) : Prop where
  action : one.action.Alike other.action
  kind : one.kind = other.kind
  ns : one.ns = other.ns
  name : one.name = other.name
  timeout : one.timeout = other.timeout

theorem Request.Alike.refl (request : Request) : request.Alike request :=
  ⟨.refl _, rfl, rfl, rfl, rfl⟩

/-- The same is asked and answered. -/
structure Exchange.Alike (one other : Exchange) : Prop where
  request : one.request.Alike other.request
  reply : one.reply = other.reply

/-- Two runs that nobody can tell apart from outside, but by what they say to the operator. -/
structure Outcome.Alike {α : Type} (one other : Outcome α) : Prop where
  result : one.result = other.result
  server : one.server = other.server
  calls : List.Forall₂ Exchange.Alike (Event.exchanges one.events) (Event.exchanges other.events)

theorem Event.alike_refl (events : List Event) :
    List.Forall₂ Exchange.Alike (exchanges events) (exchanges events) :=
  List.forall₂_same.mpr fun call _ => ⟨.refl call.request, rfl⟩

/-- A server looks at the verb and the kind of a request, and at what the store makes of it. -/
theorem Server.answer_eq {server : Server} {one other : Request}
    (verb : one.action.verb = other.action.verb) (kind : one.kind = other.kind)
    (performed : server.cluster.perform one = server.cluster.perform other) :
    server.answer one = server.answer other := by
  have concerns : ∀ fault : Fault, fault.concerns one = fault.concerns other := by
    intro fault
    rw [Fault.concerns, Fault.concerns, verb, kind]
  have met : ∀ faults, Fault.meetAll one faults = Fault.meetAll other faults := by
    intro faults
    induction faults with
    | nil => rfl
    | cons fault rest ih => rw [Fault.meetAll, Fault.meetAll, concerns, ih]
  rw [answer, answer, met, performed]

namespace Dialogue
variable {α β : Type} {server : Server}

theorem alike_refl (d : Dialogue α) (server : Server) : (d.run server).Alike (d.run server) :=
  ⟨rfl, rfl, Event.alike_refl _⟩

theorem alike_note {d e : Dialogue α} (one other : Log.Entry)
    (alike : (d.run server).Alike (e.run server)) :
    ((note one d).run server).Alike ((note other e).run server) :=
  ⟨alike.result, alike.server, alike.calls⟩

theorem alike_ask {one other : Request} {f g : Except CallError Json → Dialogue α}
    (request : one.Alike other) (answer : server.answer one = server.answer other)
    (rest : ((f (server.answer one).1).run (server.answer one).2).Alike
      ((g (server.answer one).1).run (server.answer one).2)) :
    ((ask one f).run server).Alike ((ask other g).run server) := by
  rw [run, run, ← answer]
  exact ⟨rest.result, rest.server, .cons ⟨request, rfl⟩ rest.calls⟩

/-- What follows two dialogues that are alike is compared where both have arrived. -/
theorem alike_bind {d e : Dialogue α} {f g : α → Dialogue β}
    (first : (d.run server).Alike (e.run server))
    (second : ∀ value, (d.run server).result = .ok value →
      ((f value).run (d.run server).server).Alike ((g value).run (d.run server).server)) :
    ((d.bind f).run server).Alike ((e.bind g).run server) := by
  rw [run_bind, run_bind, ← first.result, ← first.server]
  cases ended : (d.run server).result with
  | error failure => exact ⟨rfl, rfl, first.calls⟩
  | ok value =>
    have rest := second value ended
    refine ⟨rest.result, rest.server, ?_⟩
    rw [Event.exchanges, Event.exchanges, List.filterMap_append, List.filterMap_append]
    exact List.rel_append first.calls rest.calls

end Dialogue

theorem Server.performed_of_ok {server : Server} {request : Request} {object : Json}
    (answered : (server.answer request).1 = .ok object) :
    (server.cluster.perform request).1 = .ok object := by
  rw [answer] at answered
  split at answered
  · cases answered
  · exact answered

theorem Client.request_eq {a b : Client} (timeouts : a.timeout = b.timeout) (target : Target)
    (action : Action) : a.request target action = b.request target action := by
  rw [request, request, timeouts]

/-! ### Bringing a target up to date -/

section
variable {target : Target} {mutation : Mutation} {field : String} {value : Json} {server : Server}
  {mine yours : Action}

namespace Upserter

/-- The order of the members is no matter for whether a patch has a text. -/
theorem alike_tellPatch (level : Log.Level) (front : String) {one other : Table String Json}
    (members : one.Perm other) (status : Status) (server : Server) :
    (((tellPatch level front (.obj one)).bind fun _ => .done status).run server).Alike
      (((tellPatch level front (.obj other)).bind fun _ => .done status).run server) := by
  have same := Json.writable_perm members
  rw [tellPatch, tellPatch]
  by_cases writable : (Json.obj one).Writable
  · rw [writable.text_eq, (same.mp writable).text_eq]
    exact alike_note _ _ (alike_refl _ server)
  · rw [(Json.text_eq_error_iff _ .overlong).mpr writable,
      (Json.text_eq_error_iff _ .overlong).mpr (mt same.mpr writable)]
    exact alike_refl _ server

theorem alike_told (target : Target) (alike : mine.Alike yours) (server : Server) :
    ((Course.told target mine).run server).Alike ((Course.told target yours).run server) := by
  cases alike with
  | refl => exact alike_refl _ server
  | patch members => exact alike_note _ _ (alike_tellPatch _ _ members _ server)

theorem alike_announce (target : Target) (alike : mine.Alike yours) (server : Server) :
    ((announce target (.ok (some mine))).run server).Alike
      ((announce target (.ok (some yours))).run server) := by
  cases alike with
  | refl => exact alike_refl _ server
  | patch members => exact alike_tellPatch _ _ members _ server

/-- What a read that is believed shows: the stored object, or nothing where a call has failed so. -/
def Believed (server : Server) (target : Target) (held : Option Json) : Prop :=
  held = none ∨ server.cluster.get? target.objectKey = held

/-- Whatever was believed, a write that is accepted leads to an object that meets the mutation. -/
theorem met_of_answer (manages : target.Manages mutation field value) {client : Client}
    {held : Option Json} (wellFormed : ∀ stored, held = some stored → stored.WellFormed)
    (believed : Believed server target held)
    (due : client.due target mutation held = .ok (some mine)) {object : Json}
    (answered : (server.answer (client.request target mine)).1 = .ok object) :
    mutation.Met object := by
  have performed := Server.performed_of_ok answered
  rw [Cluster.perform_request] at performed
  have shown : server.cluster.get? target.objectKey = held := by
    rcases believed with rfl | shown
    · cases there : server.cluster.get? target.objectKey with
      | none => rfl
      | some stored =>
        -- a creation is refused where there is something
        rw [Client.due_none manages] at due
        cases due
        rw [Cluster.act.eq_def, there] at performed
        cases performed
    · exact shown
  subst shown
  obtain ⟨made, replied, _, _, met, _⟩ := Client.act_due manages client wellFormed due
  rw [replied] at performed
  exact Except.ok.inj performed ▸ met

theorem alike_written (manages : target.Manages mutation field value) {a b : Client}
    (timeouts : a.timeout = b.timeout) {held : Option Json}
    (wellFormed : ∀ stored, held = some stored → stored.WellFormed)
    (believed : Believed server target held) (alike : mine.Alike yours)
    (acts : server.cluster.act target.objectKey mine = server.cluster.act target.objectKey yours)
    (one : a.due target mutation held = .ok (some mine)) :
    ((Course.written a target mine (Course.told target mine)).run server).Alike
      ((Course.written b target yours (Course.told target yours)).run server) := by
  have performed : server.cluster.perform (a.request target mine) =
      server.cluster.perform (b.request target yours) := by
    rw [Cluster.perform_request, Cluster.perform_request, acts]
  have request : (a.request target mine).Alike (b.request target yours) :=
    ⟨alike, rfl, rfl, rfl, timeouts⟩
  apply alike_ask request (Server.answer_eq alike.verb rfl performed)
  cases answered : (server.answer (a.request target mine)).1 with
  | error error => exact alike_refl (.fail _) _
  | ok object =>
    have met := met_of_answer manages wellFormed believed one answered
    have known := (met.metadata manages.toWrites).1
    obtain ⟨seen, viewed, _⟩ := a.view_of_metadata target.kind known
    obtain ⟨found, viewedToo, _⟩ := b.view_of_metadata target.kind known
    simp only [viewed, viewedToo, Dialogue.ofExcept, Dialogue.bind]
    exact alike_told target alike _

/-- Two clients that know alike what is due go on alike. -/
theorem alike_proceed (manages : target.Manages mutation field value) {a b : Client}
    (timeouts : a.timeout = b.timeout) (dryRun : Bool) {held : Option Json}
    (wellFormed : ∀ stored, held = some stored → stored.WellFormed)
    (readable : ∀ stored, held = some stored → target.kind = .configMap →
      Object.HasMetadata stored)
    (believed : Believed server target held) :
    ((proceed ⟨a, dryRun⟩ target (a.due target mutation held)).run server).Alike
      ((proceed ⟨b, dryRun⟩ target (b.due target mutation held)).run server) := by
  rcases Client.due_both manages a b readable with ⟨left, right, one, other⟩ | ⟨bad, one, other⟩
  · rcases Client.due_agree manages wellFormed one other with
      ⟨rfl, rfl⟩ | ⟨mine, yours, rfl, rfl, alike, acts⟩
    · rw [one, other, proceed_none, proceed_none]
      exact alike_refl _ server
    · have same : server.cluster.act target.objectKey mine =
          server.cluster.act target.objectKey yours := by
        rcases believed with rfl | shown
        · rw [Client.due_none manages] at one other
          cases one
          cases other
          rfl
        · exact acts _ shown
      rw [one, other, proceed, proceed]
      cases dryRun with
      | true => exact alike_announce target alike server
      | false => exact alike_written manages timeouts wellFormed believed alike same one
  · rw [one, other, proceed_error, proceed_error]
    exact alike_refl _ server

theorem alike_upsert (manages : target.Manages mutation field value) {a b : Client}
    (timeouts : a.timeout = b.timeout) (dryRun : Bool)
    (wellFormed : ∀ stored, server.cluster.get? target.objectKey = some stored →
      stored.WellFormed)
    (readable : ∀ stored, server.cluster.get? target.objectKey = some stored →
      target.kind = .configMap → Object.HasMetadata stored) :
    ((upsert ⟨a, dryRun⟩ target mutation.apply).run server).Alike
      ((upsert ⟨b, dryRun⟩ target mutation.apply).run server) := by
  rw [upsert_eq manages, upsert_eq manages]
  have request : a.request target .get = b.request target .get :=
    Client.request_eq timeouts target .get
  rw [show (Upserter.client ⟨a, dryRun⟩).request target .get =
    (Upserter.client ⟨b, dryRun⟩).request target .get from request]
  apply alike_ask (.refl _) rfl
  obtain ⟨same, seen⟩ := (server.answers (b.request target .get)).get
  generalize server.answer (b.request target .get) = answered at same seen
  obtain ⟨reply, after⟩ := answered
  have kept : after.cluster = server.cluster := same
  rcases seen with ⟨object, replied, held⟩ | ⟨error, replied⟩
  · have shown : Believed after target (some object) := .inr (kept ▸ held)
    rw [show reply = .ok object from replied]
    apply alike_proceed manages timeouts dryRun _ _ shown
    · intro stored equal
      exact wellFormed stored (equal ▸ held)
    · intro stored equal
      exact readable stored (equal ▸ held)
  · rw [show reply = .error error from replied]
    dsimp only
    split
    · apply alike_note
      apply alike_proceed manages timeouts dryRun _ _ (.inl rfl)
      · intro stored equal
        cases equal
      · intro stored equal
        cases equal
    · exact alike_refl (.fail _) after

end Upserter
end

/-! ### The pass -/

/-- What is stored for these targets can be read by every client. -/
def Cluster.Readable (cluster : Cluster) (targets : List (Target × Mutation)) : Prop :=
  ∀ entry ∈ targets, ∀ stored, cluster.get? entry.1.objectKey = some stored →
    stored.WellFormed ∧ (entry.1.kind = .configMap → Object.HasMetadata stored)

/-- What can be read can still be read if objects are left alone or deleted. -/
theorem Cluster.Readable.mono {cluster later : Cluster} {targets others : List (Target × Mutation)}
    (readable : cluster.Readable targets) (fewer : ∀ entry ∈ others, entry ∈ targets)
    (kept : ∀ entry ∈ others, later.get? entry.1.objectKey = cluster.get? entry.1.objectKey ∨
      later.get? entry.1.objectKey = none) : later.Readable others := by
  intro entry member stored held
  rcases kept entry member with same | gone
  · exact readable entry (fewer entry member) stored (same ▸ held)
  · rw [gone] at held
    cases held

namespace Reconciler

theorem alike_upsertAll {a b : Client} (timeouts : a.timeout = b.timeout) (dryRun : Bool)
    {targets : List (Target × Mutation)} (managed : Upserter.Managed targets)
    (distinct : (targets.map fun entry => entry.1.objectKey).Nodup) {server : Server}
    (readable : server.cluster.Readable targets) (before : PassResult) :
    ((upsertAll ⟨a, dryRun⟩ before targets).run server).Alike
      ((upsertAll ⟨b, dryRun⟩ before targets).run server) := by
  induction targets generalizing server before with
  | nil => exact alike_refl _ server
  | cons entry rest ih =>
    obtain ⟨⟨value, manages⟩, others⟩ := managed.of_cons
    have here := readable entry List.mem_cons_self
    apply alike_bind (Upserter.alike_upsert manages timeouts dryRun
      (fun stored held => (here stored held).1) (fun stored held => (here stored held).2))
    intro status _
    apply ih others (List.nodup_cons.mp distinct).2
    -- the later targets have objects of their own
    have brings := Upserter.brings_of_goes manages
      (goes_run (Upserter.upsert ⟨a, dryRun⟩ entry.1 entry.2.apply) server)
    have respects := brings.respects manages fun stored held => (here stored held).1
    apply readable.mono (fun other member => List.mem_cons_of_mem _ member)
    intro other member
    left
    apply respects.others
    intro single same
    rw [List.mem_singleton.mp same]
    exact (Upserter.apart_of_nodup distinct other member).symm

theorem alike_detect {a b : Client} (timeouts : a.timeout = b.timeout) (detector : Detector)
    (ns : String) {server : Server}
    (readable : ∀ name, detector = .sentinel name → ∀ stored,
      server.cluster.get? (Detector.sentinelTarget name ns).objectKey = some stored →
        Object.HasMetadata stored) :
    ((detector.detect a ns).run server).Alike ((detector.detect b ns).run server) := by
  cases detector with
  | fixed layout => exact alike_refl _ server
  | sentinel name =>
    have eq := fun client : Client => client.read_eq (Detector.sentinelTarget name ns)
      (Failure.tagged .reading (Detector.sentinelTarget name ns)) fun found =>
        .note (Detector.sentinelEntry (Detector.sentinelTarget name ns) (Detector.layoutOf found))
          (.done (Detector.layoutOf found))
    rw [Detector.detect, Detector.detect, Dialogue.bind_eq, Dialogue.bind_eq, eq, eq,
      Client.request_eq timeouts]
    apply alike_ask (.refl _) rfl
    obtain ⟨_, seen⟩ := (server.answers (b.request (Detector.sentinelTarget name ns) .get)).get
    generalize server.answer (b.request (Detector.sentinelTarget name ns) .get) = answered at seen
    obtain ⟨reply, after⟩ := answered
    rcases seen with ⟨object, replied, held⟩ | ⟨error, replied⟩
    · have known := (readable name rfl object held).get?_eq
      obtain ⟨left, one⟩ := a.received_of_metadata .statefulSet known
      obtain ⟨right, other⟩ := b.received_of_metadata .statefulSet known
      rw [show reply = .ok object from replied]
      simp only [Detector.sentinelTarget, one, other]
      exact alike_refl _ after
    · rw [show reply = .error error from replied]
      exact alike_refl _ after

/-- The legacy object is deleted without being read. -/
theorem prepare_eq {a b : Client} (timeouts : a.timeout = b.timeout) (documents : Wanted.Documents)
    (detector : Detector) (legacyName : String) (dryRun : Bool) (ns : String) (layout : Layout) :
    prepare ⟨a, documents, detector, legacyName, dryRun⟩ ns layout =
      prepare ⟨b, documents, detector, legacyName, dryRun⟩ ns layout := by
  obtain ⟨timeout, typed, time⟩ := a
  obtain ⟨other, plain, date⟩ := b
  have same : timeout = other := timeouts
  rw [same]
  cases layout <;> rfl

/-- The deletion of the legacy object leaves the targets readable. -/
theorem readable_of_prepare {reconciler : Reconciler} {ns : String} {layout : Layout}
    {server : Server} (readable : server.cluster.Readable (reconciler.targets ns layout)) :
    ((reconciler.prepare ns layout).run server).server.cluster.Readable
      (reconciler.targets ns layout) := by
  cases layout with
  | legacy => exact readable
  | modern =>
    have clears := clears_of_goes (goes_run (reconciler.cleanup ns) server)
    apply readable.mono fun _ member => member
    intro entry member
    by_cases same : (reconciler.legacyTarget ns).objectKey = entry.1.objectKey
    · rw [← same]
      exact clears.legacy.imp_right And.right
    · exact .inl (clears.others same)

theorem alike_carryOut {a b : Client} (timeouts : a.timeout = b.timeout)
    (documents : Wanted.Documents) (detector : Detector) (legacyName : String) (dryRun : Bool)
    (ns : String) (layout : Layout) {server : Server}
    (readable : server.cluster.Readable
      (targets ⟨a, documents, detector, legacyName, dryRun⟩ ns layout)) :
    ((carryOut ⟨a, documents, detector, legacyName, dryRun⟩ ns layout).run server).Alike
      ((carryOut ⟨b, documents, detector, legacyName, dryRun⟩ ns layout).run server) := by
  have prepared := readable_of_prepare readable
  apply alike_note
  rw [prepare_eq timeouts] at prepared ⊢
  apply alike_bind (alike_refl _ server)
  intro deleted _
  apply alike_bind (alike_upsertAll timeouts dryRun (managed_targets _ ns layout)
    (distinct_targets _ ns layout) prepared _)
  intro result _
  exact alike_refl (.done result.finish) _

/-- A pass whose client knows only the fields of config maps and stateful sets, and one whose client
keeps whole objects, are alike on every server, whatever fails there, if the metadata of the sentinel
and of the config maps is an object. In which form the typed client gives the time of creation is no
matter. -/
theorem reconcile_indifferent (timeout : Option Seconds) (time : Option Json → Option String)
    (documents : Wanted.Documents) (detector : Detector) (legacyName : String) (dryRun : Bool)
    (ns : String) (server : Server)
    (wellFormed : server.cluster.WellFormed)
    (sentinel : ∀ name, detector = .sentinel name → ∀ stored,
      server.cluster.get? (Detector.sentinelTarget name ns).objectKey = some stored →
        Object.HasMetadata stored)
    (configMaps : ∀ entry ∈ Wanted.managedTargets documents ns, entry.1.kind = .configMap →
      ∀ stored, server.cluster.get? entry.1.objectKey = some stored →
        Object.HasMetadata stored) :
    let plain : Reconciler := ⟨.untyped timeout, documents, detector, legacyName, dryRun⟩
    let typed : Reconciler := ⟨⟨timeout, true, time⟩, documents, detector, legacyName, dryRun⟩
    ((plain.reconcile ns).run server).Alike ((typed.reconcile ns).run server) := by
  intro plain typed
  rw [reconcile_eq, reconcile_eq]
  have timeouts : plain.client.timeout = typed.client.timeout := rfl
  apply alike_bind (alike_detect timeouts detector ns sentinel)
  intro layout _
  apply alike_carryOut timeouts
  -- looking for the layout changes nothing
  have same := (Detector.finds_of_goes (goes_run (detector.detect plain.client ns) server)).1
  change ((detector.detect plain.client ns).run server).server.cluster.Readable _
  rw [same]
  intro entry member stored held
  have managed := plain.mem_managedTargets ns layout member
  exact ⟨wellFormed _ stored held, fun config => configMaps entry managed config stored held⟩

end Reconciler

/-- A cluster in which objects have members that a typed client drops, dates that it writes anew,
and members in another order than it gives them. -/
def Cluster.tended : Cluster where
  objects :=
    [ ((Detector.sentinelTarget Wanted.sentinelName "shoot").objectKey, .obj
        [("metadata", .obj [("annotations", .null)]), ("status", .null)])
    , ((Wanted.aggregatedTarget "shoot").objectKey, .obj [("metadata", .obj []), ("data", .null)])
    , ((Wanted.dashboardTarget "shoot").objectKey, .obj
        [ ("immutable", .null)
        , ("metadata", .obj
            [ ("creationTimestamp", .str "2024-05-01"), ("labels", .obj [("tier", .null)])
            , ("owner", .str "team") ])
        , ("data", .obj [("old", .null), (Wanted.Key.dashboard, .int 1)]) ])
    , ((Wanted.alertTarget "shoot").objectKey, .obj [("spec", .arr [])]) ]
  counter := 7

theorem Cluster.wellFormed_tended : tended.WellFormed := by
  intro key object held
  have member := Table.mem_of_get? held
  simp only [tended, List.mem_cons, List.not_mem_nil, or_false, Prod.mk.injEq] at member
  rcases member with ⟨_, rfl⟩ | ⟨_, rfl⟩ | ⟨_, rfl⟩ | ⟨_, rfl⟩ <;>
    simp [Json.WellFormed, Json.WellFormedMembers, Json.WellFormedItems, Table.Distinct, Table.keys,
      Wanted.Key.dashboard]

/-- All but the alerts have metadata. -/
theorem Cluster.hasMetadata_tended {key : ObjectKey} (other : key.kind ≠ Kind.prometheusRule.name)
    {stored : Json} (held : tended.get? key = some stored) : Object.HasMetadata stored := by
  have member := Table.mem_of_get? held
  simp only [tended, List.mem_cons, List.not_mem_nil, or_false, Prod.mk.injEq] at member
  rcases member with ⟨_, rfl⟩ | ⟨_, rfl⟩ | ⟨_, rfl⟩ | ⟨rfl, _⟩
  · exact ⟨_, rfl⟩
  · exact ⟨_, rfl⟩
  · exact ⟨_, rfl⟩
  · exact absurd rfl other

/-- The beginning of the day that is stored, if there is one. -/
def Typed.midnight : Option Json → Option String
  | some (.str day) => some (day ++ "T00:00:00+00:00")
  | _ => none

/-- With the sentinel the layout is the legacy one, and the pass ends well; in the modern layout it
comes to the alerts, and the patch fails for both clients. -/
theorem Reconciler.reconcile_indifferent_tended :
    let plain (detector : Detector) : Reconciler :=
      ⟨.untyped none, .brief, detector, Wanted.aggregatedName, false⟩
    let typed (detector : Detector) : Reconciler :=
      ⟨⟨none, true, Typed.midnight⟩, .brief, detector, Wanted.aggregatedName, false⟩
    let server : Server := ⟨.tended, [⟨.patch, .prometheusRule, .api (some 503) none, 0, none⟩]⟩
    Cluster.tended.WellFormed ∧
      (∀ stored, Cluster.tended.get?
          (Detector.sentinelTarget Wanted.sentinelName "shoot").objectKey = some stored →
        Object.HasMetadata stored) ∧
      (∀ entry ∈ Wanted.managedTargets .brief "shoot", entry.1.kind = .configMap →
        ∀ stored, Cluster.tended.get? entry.1.objectKey = some stored →
          Object.HasMetadata stored) ∧
      (((plain (.sentinel Wanted.sentinelName)).reconcile "shoot").run server).Alike
        (((typed (.sentinel Wanted.sentinelName)).reconcile "shoot").run server) ∧
      (((typed (.fixed .modern)).reconcile "shoot").run server).result =
        .error (.step ⟨.writing, "PrometheusRule", "shoot-registry-cache", "shoot",
          some "HTTP 503", some (.api (some 503) none)⟩) := by
  intro plain typed server
  have good := Cluster.wellFormed_tended
  have shown : ∀ stored, Cluster.tended.get?
      (Detector.sentinelTarget Wanted.sentinelName "shoot").objectKey = some stored →
        Object.HasMetadata stored := fun _ held => Cluster.hasMetadata_tended (by decide) held
  have configMaps : ∀ entry ∈ Wanted.managedTargets .brief "shoot", entry.1.kind = .configMap →
      ∀ stored, Cluster.tended.get? entry.1.objectKey = some stored →
        Object.HasMetadata stored := by
    intro entry _ config stored held
    have apart : Kind.configMap.name ≠ Kind.prometheusRule.name := by decide
    apply Cluster.hasMetadata_tended _ held
    rw [Target.objectKey, config]
    exact apart
  have indifferent := fun detector => reconcile_indifferent none Typed.midnight .brief detector
    Wanted.aggregatedName false "shoot" server good
  refine ⟨good, shown, configMaps, ?_, ?_⟩
  · apply indifferent (.sentinel Wanted.sentinelName) _ configMaps
    intro name named
    cases named
    exact shown
  · have unasked : ∀ name, Detector.fixed .modern = .sentinel name → ∀ stored,
        Cluster.tended.get? (Detector.sentinelTarget name "shoot").objectKey = some stored →
          Object.HasMetadata stored := by
      intro name named
      cases named
    rw [← (indifferent (.fixed .modern) unasked configMaps).result]
    decide +kernel

end Upkeep
