import Mathlib.Data.List.TakeWhile
import Upkeep.Controller

/-! Runs of the controller. Passes are made one after another, each on the server that the one before
has left. A run ends with the first pass during which the controller is stopped or interrupted, or
after which it cannot wait for the interval; no other end of a pass ends it. How the passes made so
far have ended says how many of them have failed in a row and which result is the last. -/
namespace Upkeep

/-- A dialogue, run against a server, comes to a value, makes these calls and leaves the other
server. -/
structure Dialogue.ComesTo {α : Type} (d : Dialogue α) (server : Server) (value : α)
    (calls : List Request) (left : Server) : Prop where
  result : (d.run server).result = .ok value
  calls : (d.run server).calls = calls
  server : (d.run server).server = left

namespace Dialogue.ComesTo
variable {α β : Type} {server left later : Server} {value : α} {calls more : List Request}

theorem done (value : α) (server : Server) : (Dialogue.done value).ComesTo server value [] server :=
  ⟨rfl, rfl, rfl⟩

theorem note {next : Dialogue α} (entry : Log.Entry)
    (comes : next.ComesTo server value calls left) :
    (Dialogue.note entry next).ComesTo server value calls left :=
  ⟨comes.result, comes.calls, comes.server⟩

theorem bind {d : Dialogue α} {f : α → Dialogue β} {last : β}
    (first : d.ComesTo server value calls left) (second : (f value).ComesTo left last more later) :
    (d.bind f).ComesTo server last (calls ++ more) later := by
  have ran := run_bind d f server
  rw [first.result, first.server] at ran
  refine ⟨?_, ?_, ?_⟩
  · rw [ran]
    exact second.result
  · rw [ran, ← first.calls, ← second.calls]
    exact List.filterMap_append
  · rw [ran]
    exact second.server

/-- An attempt always comes to a value: to how the dialogue ends. -/
theorem attempt (d : Dialogue α) (server : Server) :
    d.attempt.ComesTo server (d.run server).result (d.run server).calls (d.run server).server := by
  refine ⟨?_, ?_, ?_⟩ <;> rw [run_attempt]
  rfl

end Dialogue.ComesTo

/-! ### What the ends of passes say -/

namespace Controller

def hasSucceeded : Except Failure PassResult → Bool
  | .ok _ => true
  | .error _ => false

def wasInterrupted : Except Failure PassResult → Bool
  | .error (.call .interrupt) => true
  | _ => false

/-- A pass has failed, expectedly or not. One that was interrupted has not. -/
def hasFailed (ended : Except Failure PassResult) : Bool :=
  !hasSucceeded ended && !wasInterrupted ended

/-- How many passes have failed since the last one that succeeded; if none has succeeded, the
failures before them count too. -/
def failuresAfter (before : Nat) (ended : List (Except Failure PassResult)) : Nat :=
  (ended.reverse.takeWhile fun pass => !hasSucceeded pass).countP hasFailed +
    if ended.any hasSucceeded then 0 else before

/-- The result of the last pass that succeeded, or else the one before them. -/
def lastAfter (before : Option PassResult) (ended : List (Except Failure PassResult)) :
    Option PassResult :=
  (ended.reverse.findSome? Except.toOption).or before

/-- What a controller must hold after passes that ended so. -/
structure Accounts (controller : Controller) (ended : List (Except Failure PassResult))
    (after : Controller) : Prop where
  failures : after.failures = failuresAfter controller.failures ended
  last : after.last = lastAfter controller.last ended
  ns : after.ns = controller.ns
  interval : after.interval = controller.interval

theorem failuresAfter_cons (before : Nat) (first : Except Failure PassResult)
    (rest : List (Except Failure PassResult)) :
    failuresAfter before (first :: rest) = failuresAfter (failuresAfter before [first]) rest := by
  rw [failuresAfter, failuresAfter, List.reverse_cons, List.takeWhile_append, List.any_cons]
  cases quiet : rest.any hasSucceeded with
  | true =>
    -- the passes since the last success are among the rest
    have shorter : (rest.reverse.takeWhile fun pass => !hasSucceeded pass).length ≠
        rest.reverse.length := by
      intro long
      have all := (List.takeWhile_prefix _).eq_of_length long
      rw [List.takeWhile_eq_self_iff] at all
      obtain ⟨pass, member, succeeded⟩ := List.any_eq_true.mp quiet
      simpa [succeeded] using all pass (List.mem_reverse.mpr member)
    rw [if_neg shorter, Bool.or_true]
    rfl
  | false =>
    have whole : (rest.reverse.takeWhile fun pass => !hasSucceeded pass) = rest.reverse := by
      rw [List.takeWhile_eq_self_iff]
      intro pass member
      have failed := List.any_eq_false.mp quiet pass (List.mem_reverse.mp member)
      simpa using failed
    rw [whole, if_pos rfl, List.countP_append, Bool.or_false, failuresAfter]
    simp [Nat.add_assoc]

theorem lastAfter_cons (before : Option PassResult) (first : Except Failure PassResult)
    (rest : List (Except Failure PassResult)) :
    lastAfter before (first :: rest) = lastAfter (lastAfter before [first]) rest := by
  rw [lastAfter, lastAfter, List.reverse_cons, List.findSome?_append, Option.or_assoc]
  rfl

theorem Accounts.none (controller : Controller) : controller.Accounts [] controller :=
  ⟨(Nat.zero_add _).symm, rfl, rfl, rfl⟩

theorem Accounts.cons {controller next after : Controller} {first : Except Failure PassResult}
    {rest : List (Except Failure PassResult)} (here : controller.Accounts [first] next)
    (later : next.Accounts rest after) : controller.Accounts (first :: rest) after where
  failures := by
    rw [later.failures, here.failures]
    exact (failuresAfter_cons _ _ _).symm
  last := by
    rw [later.last, here.last]
    exact (lastAfter_cons _ _ _).symm
  ns := later.ns.trans here.ns
  interval := later.interval.trans here.interval

/-! ### One pass -/

theorem reconcileOnce_comesTo (controller : Controller) (pass : Dialogue PassResult)
    (server : Server) :
    (controller.reconcileOnce pass).ComesTo server
      ((pass.run server).result, controller.account (pass.run server).result)
      (pass.run server).calls (pass.run server).server := by
  have attempted := Dialogue.ComesTo.attempt pass server
  rw [reconcileOnce, Dialogue.bind_eq, ← List.append_nil (pass.run server).calls]
  refine attempted.bind ?_
  dsimp only
  split
  · exact .note _ (.done _ _)
  · exact .done _ _

/-- The controller after a pass of a run that ended so. -/
def settled (controller : Controller) : Except Failure PassResult → Controller
  | .ok result => { controller with failures := 0, last := some result }
  | .error (.call .interrupt) => { controller with stopped := true }
  | .error _ => { controller with failures := controller.failures + 1 }

/-- How a run ends with a pass, if it does; somebody who has stopped it makes the next one not
begin. -/
def endingOf (controller : Controller) (ended : Except Failure PassResult) : Option Ending :=
  if wasInterrupted ended then some .interrupted else controller.waitError?.map .cannotWait

theorem turn_comesTo (controller : Controller) (pass : Dialogue PassResult) (server : Server) :
    (controller.turn pass).ComesTo server
      (controller.settled (pass.run server).result, controller.endingOf (pass.run server).result)
      (pass.run server).calls (pass.run server).server := by
  have once := controller.reconcileOnce_comesTo pass server
  rw [turn, Dialogue.bind_eq, ← List.append_nil (pass.run server).calls]
  refine once.bind ?_
  generalize (pass.run server).result = ended
  cases ended with
  | ok result => exact .done _ _
  | error failure =>
    cases failure with
    | step error => exact .done _ _
    | malformed | unwritable => exact .note _ (.done _ _)
    | call error =>
      cases error with
      | interrupt => exact .note _ (.done _ _)
      | _ => exact .note _ (.done _ _)

theorem stopIf_comesTo {controller : Controller} (running : controller.stopped = false)
    (somebody : Bool) (server : Server) :
    (controller.stopIf somebody).ComesTo server { controller with stopped := somebody } [] server := by
  cases somebody with
  | true => exact .note _ (.done _ _)
  | false =>
    have unchanged : { controller with stopped := false } = controller := by rw [← running]
    rw [unchanged]
    exact .done _ _

theorem stopped_settled (controller : Controller) (ended : Except Failure PassResult) :
    (controller.settled ended).stopped = (controller.stopped || wasInterrupted ended) := by
  cases ended with
  | ok result => simp [settled, wasInterrupted]
  | error failure =>
    cases failure with
    | call error => cases error <;> simp [settled, wasInterrupted]
    | _ => simp [settled, wasInterrupted]

/-- A pass that ends a run leaves the controller stopped exactly if it was interrupted; a controller
that is stopped during its last pass has no ending yet. -/
theorem stopped_of_ending {controller : Controller} {ended : Except Failure PassResult}
    {ending : Ending} (final : controller.endingOf ended = some ending) :
    (controller.settled ended).stopped = true ↔ ending = .stopped ∨ ending = .interrupted := by
  rw [endingOf] at final
  rw [stopped_settled]
  cases interrupted : wasInterrupted ended with
  | true =>
    rw [interrupted, if_pos rfl] at final
    simp [← Option.some.inj final]
  | false =>
    rw [interrupted, if_neg Bool.false_ne_true, Option.map_eq_some_iff] at final
    obtain ⟨error, waits, rfl⟩ := final
    have running : controller.stopped = false := by
      cases halted : controller.stopped with
      | true => simp [waitError?, halted] at waits
      | false => rfl
    simp [running]

theorem not_interrupted_of_endingOf {controller : Controller} {ended : Except Failure PassResult}
    (goesOn : controller.endingOf ended = none) : wasInterrupted ended = false := by
  cases interrupted : wasInterrupted ended with
  | true => simp [endingOf, interrupted] at goesOn
  | false => rfl

theorem interval_settled (controller : Controller) (ended : Except Failure PassResult) :
    (controller.settled ended).interval = controller.interval := by
  rw [settled.eq_def]
  split <;> rfl

theorem accounts_settled (controller : Controller) (stopped : Bool)
    (ended : Except Failure PassResult) :
    controller.Accounts [ended] ({ controller with stopped := stopped }.settled ended) := by
  cases ended with
  | ok result => exact ⟨rfl, rfl, rfl, rfl⟩
  | error failure =>
    cases failure with
    | step error => exact ⟨Nat.add_comm _ _, rfl, rfl, rfl⟩
    | malformed | unwritable => exact ⟨Nat.add_comm _ _, rfl, rfl, rfl⟩
    | call error =>
      cases error with
      | interrupt => exact ⟨(Nat.zero_add _).symm, rfl, rfl, rfl⟩
      | _ => exact ⟨Nat.add_comm _ _, rfl, rfl, rfl⟩

end Controller

/-! ### Passes one after another -/

/-- Passes that are to be made, numbered from 1, during which of them somebody stops the controller,
and the server at the beginning. -/
structure Series where
  pass : Nat → Dialogue PassResult
  stops : Nat → Bool
  server : Server

namespace Series

/-- The server that the first so many passes leave. -/
def serverAfter (series : Series) : Nat → Server
  | 0 => series.server
  | n + 1 => ((series.pass (n + 1)).run (series.serverAfter n)).server

/-- What comes of pass number `n + 1`. -/
def outcome (series : Series) (n : Nat) : Outcome PassResult :=
  (series.pass (n + 1)).run (series.serverAfter n)

/-- How the first so many passes end. -/
def ends (series : Series) (made : Nat) : List (Except Failure PassResult) :=
  (List.range made).map fun n => (series.outcome n).result

/-- The calls of the first so many passes. -/
def calls (series : Series) (made : Nat) : List Request :=
  (List.range made).flatMap fun n => (series.outcome n).calls

/-- How a run ends with pass number `n + 1`, if that is its last one: the pass is interrupted, or the
controller is stopped during it, or else cannot wait for the next one. -/
def ending? (series : Series) (interval : Seconds) (n : Nat) : Option Ending :=
  if Controller.wasInterrupted (series.outcome n).result then some .interrupted
  else if series.stops (n + 1) then some .stopped
  else interval.waitError?.map .cannotWait

/-- After how many passes a run ends, and how. A run is looked at for `fuel` passes; if it has not
ended by then, all of them have been made. -/
inductive Ends (series : Series) (controller : Controller) (fuel : Nat) : Nat → Ending → Prop
  | before (stopped : controller.stopped = true) : Ends series controller fuel 0 .stopped
  | last {n : Nat} {ending : Ending} (running : controller.stopped = false)
      (earlier : ∀ m < n, series.ending? controller.interval m = none)
      (final : series.ending? controller.interval n = some ending) (within : n < fuel) :
      Ends series controller fuel (n + 1) ending
  | going (running : controller.stopped = false)
      (none : ∀ n < fuel, series.ending? controller.interval n = none) :
      Ends series controller fuel fuel .unfinished

/-- The passes behind the first one. -/
def next (series : Series) : Series where
  pass := fun n => series.pass (n + 1)
  stops := fun n => series.stops (n + 1)
  server := series.serverAfter 1

theorem serverAfter_next (series : Series) (n : Nat) :
    series.next.serverAfter n = series.serverAfter (n + 1) := by
  induction n with
  | zero => rfl
  | succ n ih =>
    rw [serverAfter, ih]
    rfl

theorem outcome_next (series : Series) (n : Nat) :
    series.next.outcome n = series.outcome (n + 1) := by
  rw [outcome, serverAfter_next]
  rfl

theorem ends_succ (series : Series) (made : Nat) :
    series.ends (made + 1) = (series.outcome 0).result :: series.next.ends made := by
  simp [ends, List.range_succ_eq_map, outcome_next, Function.comp_def]

theorem calls_succ (series : Series) (made : Nat) :
    series.calls (made + 1) = (series.outcome 0).calls ++ series.next.calls made := by
  simp [calls, List.range_succ_eq_map, outcome_next, List.flatMap_map]

theorem ending?_next (series : Series) (interval : Seconds) (n : Nat) :
    series.next.ending? interval n = series.ending? interval (n + 1) := by
  rw [ending?, outcome_next]
  rfl

/-- A run goes on behind its first pass. -/
theorem Ends.cons {series : Series} {controller after : Controller} {fuel made : Nat}
    {ending : Ending} (running : controller.stopped = false)
    (interval : after.interval = controller.interval)
    (goesOn : if series.stops 1 then series.ending? controller.interval 0 = some .stopped
      else series.ending? controller.interval 0 = none)
    (stopped : after.stopped = series.stops 1) (later : series.next.Ends after fuel made ending) :
    series.Ends controller (fuel + 1) (made + 1) ending := by
  have shift : ∀ {n : Nat}, series.ending? controller.interval 0 = none →
      (∀ m < n, series.next.ending? after.interval m = none) →
      ∀ m < n + 1, series.ending? controller.interval m = none := by
    intro n first others m less
    cases m with
    | zero => exact first
    | succ m =>
      rw [← ending?_next, ← interval]
      exact others m (Nat.lt_of_succ_lt_succ less)
  cases later with
  | before halted =>
    rw [← stopped, if_pos halted] at goesOn
    exact .last running (fun m less => absurd less (Nat.not_lt_zero m)) goesOn (Nat.succ_pos fuel)
  | last unhalted earlier final within =>
    rw [← stopped, if_neg (by simp [unhalted])] at goesOn
    rw [ending?_next, interval] at final
    exact .last running (shift goesOn earlier) final (Nat.succ_lt_succ within)
  | going unhalted none =>
    rw [← stopped, if_neg (by simp [unhalted])] at goesOn
    exact .going running (shift goesOn none)

theorem ending?_eq (series : Series) (controller : Controller) :
    series.ending? controller.interval 0 =
      ({ controller with stopped := series.stops 1 }.endingOf (series.outcome 0).result).or
        (if series.stops 1 then some .stopped else none) := by
  rw [ending?, Controller.endingOf, Controller.waitError?]
  cases Controller.wasInterrupted (series.outcome 0).result <;> cases series.stops 1 <;>
    simp

/-- A pass ends with an error that nobody expects, one succeeds, one fails, one is interrupted. -/
def eventful : Series where
  pass
    | 1 => .fail (.call (.runtime "down"))
    | 2 => .done (.start "shoot" .modern)
    | 3 => .fail (.step (.ofCall .reading ⟨.configMap, "dashboard", "shoot"⟩ .conflict))
    | _ => .fail (.call .interrupt)
  stops := fun _ => false
  server := .faultless .empty

/-- All passes fail as expected, and the controller is stopped during the second one. -/
def failing : Series where
  pass := fun _ => .fail (.step (.ofCall .reading ⟨.configMap, "dashboard", "shoot"⟩ .conflict))
  stops := fun number => number = 2
  server := .faultless .empty

end Series

namespace Controller

theorem passes_next (series : Series) (fuel number : Nat) (controller : Controller) :
    passes series.pass series.stops fuel (number + 1) controller =
      passes series.next.pass series.next.stops fuel number controller := by
  induction fuel generalizing number controller with
  | zero => rfl
  | succ fuel ih =>
    simp only [passes, ih]
    rfl

/-- Passes one after another, up to the one with which the run ends. -/
theorem passes_comesTo (series : Series) (controller : Controller) (fuel : Nat) :
    ∃ made ending after, series.Ends controller fuel made ending ∧
      (passes series.pass series.stops fuel 1 controller).ComesTo series.server (after, ending)
        (series.calls made) (series.serverAfter made) ∧
      controller.Accounts (series.ends made) after ∧
      (after.stopped = true ↔ ending = .stopped ∨ ending = .interrupted) := by
  -- on the number of passes looked at: the first one is made, the others are a series of their own
  induction fuel generalizing series controller with
  | zero =>
    rw [passes]
    cases halted : controller.stopped with
    | true => exact ⟨0, .stopped, controller, .before halted, .done _ _, .none _, by simp [halted]⟩
    | false =>
      exact ⟨0, .unfinished, controller, .going halted (by simp), .done _ _, .none _,
        by simp [halted]⟩
  | succ fuel ih =>
    rw [passes]
    cases halted : controller.stopped with
    | true => exact ⟨0, .stopped, controller, .before halted, .done _ _, .none _, by simp [halted]⟩
    | false =>
      have stopped := stopIf_comesTo halted (series.stops 1) series.server
      generalize begun : { controller with stopped := series.stops 1 } = first at stopped
      have turned : (first.turn (series.pass 1)).ComesTo series.server
          (first.settled (series.outcome 0).result, first.endingOf (series.outcome 0).result)
          (series.outcome 0).calls (series.serverAfter 1) := first.turn_comesTo _ _
      have booked : controller.Accounts [(series.outcome 0).result]
          (first.settled (series.outcome 0).result) := begun ▸ controller.accounts_settled _ _
      have ends := series.ending?_eq controller
      rw [begun] at ends
      rw [if_neg Bool.false_ne_true, Dialogue.bind_eq]
      cases final : first.endingOf (series.outcome 0).result with
      | some ending =>
        rw [final] at turned
        refine ⟨1, ending, _, .last halted (fun m less => absurd less (Nat.not_lt_zero m)) ?_
          (Nat.succ_pos fuel), ?_, booked, stopped_of_ending final⟩
        · rw [ends, final, Option.some_or]
        · rw [series.calls_succ 0, ← List.nil_append ((series.outcome 0).calls ++ _)]
          exact stopped.bind (turned.bind (.done _ _))
      | none =>
        rw [final] at turned
        have same : (first.settled (series.outcome 0).result).interval = controller.interval := by
          rw [interval_settled, ← begun]
        have halts : (first.settled (series.outcome 0).result).stopped = series.stops 1 := by
          rw [stopped_settled, not_interrupted_of_endingOf final, Bool.or_false, ← begun]
        have goesOn : if series.stops 1 then series.ending? controller.interval 0 = some .stopped
            else series.ending? controller.interval 0 = none := by
          rw [ends, final, Option.none_or]
          split <;> rfl
        obtain ⟨made, ending, after, ended, comes, accounts, told⟩ := ih series.next
          (first.settled (series.outcome 0).result)
        refine ⟨made + 1, ending, after, ended.cons halted same goesOn halts, ?_, ?_, told⟩
        · rw [series.calls_succ made, ← List.nil_append ((series.outcome 0).calls ++ _),
            ← series.serverAfter_next]
          rw [← passes_next] at comes
          exact stopped.bind (turned.bind comes)
        · rw [series.ends_succ]
          exact booked.cons accounts

/-! ### Results -/

/-- A run makes passes up to the first one during which the controller is stopped or interrupted, or
behind which it cannot wait for its interval, and none if it was stopped before; looked at after any
number of passes, it has made exactly these. The failures are those since the last pass that
succeeded, of either kind and each of them once, the last result is the one of that pass. Outside a
run, a failure that nobody expected is passed on, and the controller is as it was. -/
theorem run_accounts (controller : Controller) (series : Series) (fuel : Nat) :
    (∃ made ending after, series.Ends controller fuel made ending ∧
      (controller.run series.pass series.stops fuel).ComesTo series.server (after, ending)
        (series.calls made) (series.serverAfter made) ∧
      controller.Accounts (series.ends made) after ∧
      (after.stopped = true ↔ ending = .stopped ∨ ending = .interrupted)) ∧
    ∀ pass server failure, (pass.run server).result = .error failure →
      (∀ error, failure ≠ .step error) →
      (controller.reconcileOnce pass).ComesTo server (.error failure, controller)
        (pass.run server).calls (pass.run server).server := by
  constructor
  · obtain ⟨made, ending, after, ends, comes, accounts, stopped⟩ :=
      passes_comesTo series controller fuel
    exact ⟨made, ending, after, ends,
      .note _ (.note _ (.note _ (.note _ (.note _ comes)))), accounts, stopped⟩
  · intro pass server failure failed unexpected
    have once := controller.reconcileOnce_comesTo pass server
    rw [failed] at once
    cases failure with
    | step error => exact absurd rfl (unexpected error)
    | call error => exact once
    | malformed | unwritable => exact once

theorem run_accounts_eventful :
    let controller := Controller.start "shoot" (.whole 60)
    ((∃ made ending after, Series.eventful.Ends controller 9 made ending ∧
      (controller.run Series.eventful.pass Series.eventful.stops 9).ComesTo Series.eventful.server
        (after, ending) (Series.eventful.calls made) (Series.eventful.serverAfter made) ∧
      controller.Accounts (Series.eventful.ends made) after ∧
      (after.stopped = true ↔ ending = .stopped ∨ ending = .interrupted)) ∧
    ((controller.run Series.eventful.pass Series.eventful.stops 9).run
      Series.eventful.server).result = .ok ({ controller with
        failures := 1, last := some (.start "shoot" .modern), stopped := true }, .interrupted)) ∧
    (controller.reconcileOnce (Series.eventful.pass 1)).ComesTo Series.eventful.server
      (.error (.call (.runtime "down")), controller) [] Series.eventful.server := by
  have both := run_accounts (.start "shoot" (.whole 60)) Series.eventful 9
  exact ⟨⟨both.1, rfl⟩, both.2 (Series.eventful.pass 1) Series.eventful.server _ rfl (by simp)⟩

/-- An interval that the clock cannot measure ends a run behind its first pass, although nobody has
stopped or interrupted it. -/
theorem run_gives_up :
    let controller := Controller.start "shoot" (.whole 9223372037)
    Series.failing.stops 1 = false ∧ wasInterrupted (Series.failing.outcome 0).result = false ∧
      ((controller.run Series.failing.pass Series.failing.stops 9).run
        Series.failing.server).result =
          .ok ({ controller with failures := 1 }, .cannotWait .tooLong) :=
  ⟨rfl, rfl, rfl⟩

end Controller
end Upkeep
