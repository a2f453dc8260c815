import Mathlib.Data.Finset.Card
import ImageResizer.Foundation.Text
import ImageResizer.Foundation.Transition

/-!
# Graceful shutdown

`serve_with_graceful_shutdown` of `main.rs`.  The server is a task of its own: it accepts
connections until it is notified, and then ends once those that it has are done.  The main task
notifies it when the shutdown signal comes, and from then on waits for it no longer than the
drain timeout.  The model ends where that function returns to the main task: the telemetry is
flushed after that, and dropping the runtime then waits for the closures that still run on its
blocking threads.
-/

namespace ImageResizer.Shutdown

open Transition

/-- `DEFAULT_SHUTDOWN_TIMEOUT_SECS`. -/
def defaultShutdownTimeoutSecs : Nat := 20

/-- `parse_shutdown_timeout`, in seconds. -/
def parseShutdownTimeout (raw : Option (List Char)) : Nat :=
  ((raw.bind (Text.parseUnsigned (2 ^ 64 - 1))).filter (0 < ·)).getD defaultShutdownTimeoutSecs

theorem parseShutdownTimeout_pos (raw : Option (List Char)) : 0 < parseShutdownTimeout raw := by
  unfold parseShutdownTimeout
  cases parsed : (raw.bind (Text.parseUnsigned (2 ^ 64 - 1))).filter (0 < ·) with
  | none => decide
  | some secs => exact of_decide_eq_true (Option.filter_eq_some_iff.mp parsed).2

/-- What the server task failed with: an error that it returned, or a panic. -/
inductive ServeError where
  | io (text : String)
  | join

/-- The server task. -/
inductive Server where
  | accepting
  /-- It has been notified and waits for its connections. -/
  | closing
  | ended (result : Except ServeError Unit)

/-- The main task. -/
inductive Main where
  | awaitingSignal
  | draining (since : Nat)
  /-- `serve_with_graceful_shutdown` has returned. -/
  | returned (result : Except ServeError Unit)

variable {Connection : Type} [DecidableEq Connection]

/-- Both tasks.  `signalledAt` is history. -/
structure State (Connection : Type) where
  main : Main
  /-- The permit that `notify_one` stores for a server that is not waiting for it yet. -/
  permit : Bool
  server : Server
  connections : Finset Connection
  now : Nat
  signalledAt : Option Nat

/-- What happens beside the main task. -/
inductive Event (Connection : Type) where
  | accept (connection : Connection)
  /-- A connection is done. -/
  | close (connection : Connection)
  | notified
  | drained
  | fail (error : ServeError)
  | pass (duration : Nat)

inductive Action (Connection : Type) where
  | signal
  /-- The join on the server task resolves. -/
  | join
  /-- The drain timeout fires; the join is polled before it. -/
  | expire
  | serve (event : Event Connection)

/-- A step of the server, of a connection or of the clock. -/
def serve (state : State Connection) : Event Connection → Option (State Connection)
  | .accept connection =>
      match state.server with
      | .accepting =>
          if connection ∈ state.connections then none
          else some { state with connections := insert connection state.connections }
      | _ => none
  | .close connection =>
      if connection ∈ state.connections then
        some { state with connections := state.connections.erase connection }
      else none
  | .notified =>
      match state.server with
      | .accepting =>
          if state.permit then some { state with server := .closing, permit := false } else none
      | _ => none
  | .drained =>
      match state.server with
      | .closing =>
          if state.connections = ∅ then some { state with server := .ended (.ok ()) } else none
      | _ => none
  | .fail error =>
      match state.server with
      | .ended _ => none
      | _ => some { state with server := .ended (.error error) }
  | .pass duration => some { state with now := state.now + duration }

variable (drainTimeout : Nat)

/-- One step.  A server that the main task no longer waits for goes on. -/
def step (state : State Connection) (action : Action Connection) : Option (State Connection) :=
  match state.main, action with
  | _, .serve event => serve state event
  | .awaitingSignal, .signal =>
      some { state with
        main := .draining state.now
        permit := true
        signalledAt := some state.now }
  | .draining _, .join =>
      match state.server with
      | .ended result => some { state with main := .returned result }
      | _ => none
  | .draining since, .expire =>
      match state.server with
      | .ended _ => none
      | _ =>
          if since + drainTimeout ≤ state.now then
            some { state with main := .returned (.ok ()) }
          else none
  | _, _ => none

/-- Both tasks as they start. -/
def Initial (state : State Connection) : Prop :=
  ∃ now, state = ⟨.awaitingSignal, false, .accepting, ∅, now, none⟩

def system : System (State Connection) (Action Connection) where
  Init := Initial
  step := step drainTimeout

/-! ## What a step can do -/

section Moves

variable (state : State Connection)

inductive Serves : Event Connection → State Connection → Prop where
  | accept {connection : Connection} (accepting : state.server = .accepting) :
      Serves (.accept connection)
        { state with connections := insert connection state.connections }
  | close {connection : Connection} (member : connection ∈ state.connections) :
      Serves (.close connection) { state with connections := state.connections.erase connection }
  | notified (accepting : state.server = .accepting) (permit : state.permit = true) :
      Serves .notified { state with server := .closing, permit := false }
  | drained (closing : state.server = .closing) (idle : state.connections = ∅) :
      Serves .drained { state with server := .ended (.ok ()) }
  | fail {error : ServeError} (running : ∀ result, state.server ≠ .ended result) :
      Serves (.fail error) { state with server := .ended (.error error) }
  | pass (duration : Nat) : Serves (.pass duration) { state with now := state.now + duration }

inductive Moves : Action Connection → State Connection → Prop where
  | signal (awaiting : state.main = .awaitingSignal) :
      Moves .signal { state with
        main := .draining state.now
        permit := true
        signalledAt := some state.now }
  | join {since : Nat} {result : Except ServeError Unit} (draining : state.main = .draining since)
      (ended : state.server = .ended result) :
      Moves .join { state with main := .returned result }
  | expire {since : Nat} (draining : state.main = .draining since)
      (running : ∀ result, state.server ≠ .ended result)
      (due : since + drainTimeout ≤ state.now) :
      Moves .expire { state with main := .returned (.ok ()) }
  | serve {event : Event Connection} {next : State Connection}
      (serves : Serves state event next) : Moves (.serve event) next

end Moves

variable {drainTimeout} {state next : State Connection} {action : Action Connection}

theorem serve_serves {event : Event Connection} (served : serve state event = some next) :
    Serves state event next := by
  cases event with
  | accept connection =>
      simp only [serve] at served
      split at served
      case h_1 accepting =>
          split at served
          case isTrue => cases served
          case isFalse =>
              cases served
              exact .accept accepting
      case h_2 => cases served
  | close connection =>
      simp only [serve] at served
      split at served
      case isTrue member =>
          cases served
          exact .close member
      case isFalse => cases served
  | notified =>
      simp only [serve] at served
      split at served
      case h_1 accepting =>
          split at served
          case isTrue permit =>
              cases served
              exact .notified accepting permit
          case isFalse => cases served
      case h_2 => cases served
  | drained =>
      simp only [serve] at served
      split at served
      case h_1 closing =>
          split at served
          case isTrue idle =>
              cases served
              exact .drained closing idle
          case isFalse => cases served
      case h_2 => cases served
  | fail error =>
      simp only [serve] at served
      split at served
      case h_1 => cases served
      case h_2 running =>
          cases served
          exact .fail running
  | pass duration =>
      cases served
      exact .pass duration

theorem step_moves (stepped : step drainTimeout state action = some next) :
    Moves drainTimeout state action next := by
  cases action with
  | serve event =>
      simp only [step] at stepped
      exact .serve (serve_serves stepped)
  | signal =>
      cases main : state.main with
      | awaitingSignal =>
          simp only [step, main] at stepped
          cases stepped
          exact .signal main
      | draining | returned =>
          simp only [step, main] at stepped
          cases stepped
  | join =>
      cases main : state.main with
      | draining since =>
          simp only [step, main] at stepped
          split at stepped
          case h_1 result ended =>
              cases stepped
              exact .join main ended
          case h_2 => cases stepped
      | awaitingSignal | returned =>
          simp only [step, main] at stepped
          cases stepped
  | expire =>
      cases main : state.main with
      | draining since =>
          simp only [step, main] at stepped
          split at stepped
          case h_1 => cases stepped
          case h_2 running =>
              split at stepped
              case isTrue due =>
                  cases stepped
                  exact .expire main running due
              case isFalse => cases stepped
      | awaitingSignal | returned =>
          simp only [step, main] at stepped
          cases stepped

/-! ## What holds in every run -/

/-- How the two tasks stand to each other. -/
structure Orderly (drainTimeout : Nat) (state : State Connection) : Prop where
  unsignalled : state.main = .awaitingSignal →
    state.signalledAt = none ∧ state.server ≠ .closing ∧ state.server ≠ .ended (.ok ())
  since : ∀ since, state.main = .draining since → state.signalledAt = some since
  /-- The notice waits for a server that has not seen it. -/
  permit : ∀ since, state.main = .draining since → state.server = .accepting → state.permit = true
  quiet : state.permit = true → state.main ≠ .awaitingSignal
  idle : state.server = .ended (.ok ()) → state.connections = ∅
  returned : ∀ result, state.main = .returned result → ∃ since, state.signalledAt = some since ∧
    (state.server = .ended result ∨ result = .ok () ∧ since + drainTimeout ≤ state.now)

namespace Orderly

omit [DecidableEq Connection] in
theorem initial (start : Initial state) : Orderly drainTimeout state := by
  obtain ⟨now, rfl⟩ := start
  constructor <;> simp

theorem serve {event : Event Connection} (orderly : Orderly drainTimeout state)
    (serves : Serves state event next) : Orderly drainTimeout next := by
  obtain ⟨unsignalled, since, permit, quiet, idle, returned⟩ := orderly
  -- A server that runs has ended with no result, so the main task only gave up on it.
  have late (running : ∀ result, state.server ≠ .ended result) (result : Except ServeError Unit)
      (main : state.main = .returned result) : ∃ since, state.signalledAt = some since ∧
        result = .ok () ∧ since + drainTimeout ≤ state.now := by
    obtain ⟨since, signalled, cause⟩ := returned result main
    exact ⟨since, signalled, cause.resolve_left (running result)⟩
  cases serves with
  | accept accepting =>
      refine ⟨unsignalled, since, permit, quiet, fun ended => ?_, returned⟩
      rw [accepting] at ended
      cases ended
  | close member =>
      refine ⟨unsignalled, since, permit, quiet, fun ended => ?_, returned⟩
      rw [idle ended]
      rfl
  | notified accepting told =>
      refine ⟨fun awaiting => absurd awaiting (quiet told), since, ?_, ?_, ?_, ?_⟩
      all_goals simp
      exact late (by simp [accepting])
  | drained closing empty =>
      refine ⟨fun awaiting => absurd closing (unsignalled awaiting).2.1, since, ?_, quiet,
        fun _ => empty, fun result main => ?_⟩
      · simp
      · obtain ⟨since, signalled, cause⟩ := late (by simp [closing]) result main
        exact ⟨since, signalled, .inr cause⟩
  | fail alive =>
      refine ⟨fun awaiting => ⟨(unsignalled awaiting).1, ?_⟩, since, ?_, quiet, ?_,
        fun result main => ?_⟩
      case refine_4 =>
          obtain ⟨since, signalled, cause⟩ := late alive result main
          exact ⟨since, signalled, .inr cause⟩
      all_goals simp
  | pass duration =>
      refine ⟨unsignalled, since, permit, quiet, idle, fun result main => ?_⟩
      obtain ⟨since, signalled, cause⟩ := returned result main
      exact ⟨since, signalled,
        cause.imp_right fun due => ⟨due.1, due.2.trans (Nat.le_add_right ..)⟩⟩

theorem step (orderly : Orderly drainTimeout state)
    (stepped : step drainTimeout state action = some next) : Orderly drainTimeout next := by
  cases step_moves stepped with
  | signal awaiting =>
      obtain ⟨unsignalled, since, permit, quiet, idle, returned⟩ := orderly
      refine ⟨?_, ?_, ?_, ?_, idle, ?_⟩
      all_goals simp
  | join draining ended =>
      obtain ⟨unsignalled, since, permit, quiet, idle, returned⟩ := orderly
      refine ⟨?_, ?_, ?_, ?_, idle, ?_⟩
      all_goals simp [since _ draining, ended]
  | expire draining alive due =>
      obtain ⟨unsignalled, since, permit, quiet, idle, returned⟩ := orderly
      refine ⟨?_, ?_, ?_, ?_, idle, ?_⟩
      all_goals simp [since _ draining, alive, due]
  | serve serves => exact orderly.serve serves

end Orderly

theorem reachable_orderly
    (reachable : (system drainTimeout).Reachable (fun _ _ => True) state) :
    Orderly drainTimeout state := by
  induction reachable with
  | init start => exact Orderly.initial start
  | step _ _ stepped ih => exact ih.step stepped

/-- What a server that was notified, and the main task, have left to do. -/
def State.left (state : State Connection) : Nat :=
  state.connections.card +
    (match state.server with
      | .closing => 1
      | _ => 0) +
    match state.main with
    | .awaitingSignal => 2
    | .draining _ => 1
    | .returned _ => 0

def Action.passes : Action Connection → Bool
  | .serve (.pass _) => true
  | _ => false

/-- A server that was notified takes no connections, and does away with those that it has. -/
theorem step_closed (closed : state.server ≠ .accepting)
    (stepped : step drainTimeout state action = some next) :
    next.server ≠ .accepting ∧ next.connections ⊆ state.connections ∧ next.left ≤ state.left ∧
      (action.passes = false → next.left < state.left) := by
  cases step_moves stepped with
  | signal awaiting => simp [State.left, awaiting, closed]
  | join draining ended => simp [State.left, draining, closed]
  | expire draining alive due => simp [State.left, draining, closed]
  | serve serves =>
      cases serves with
      | accept accepting => exact absurd accepting closed
      | notified accepting => exact absurd accepting closed
      | close member =>
          have fewer := Finset.card_erase_lt_of_mem member
          simp only [State.left, closed, ne_eq, not_false_eq_true, true_and]
          exact ⟨Finset.erase_subset .., by omega, fun _ => by omega⟩
      | drained closing empty => simp [State.left, closing]
      | fail alive =>
          cases server : state.server with
          | accepting => exact absurd server closed
          | closing => simp [State.left, server]
          | ended result => exact absurd server (alive result)
      | pass duration => simp [State.left, closed, Action.passes]

/-- What a shutdown gives, in one state. -/
structure Graceful (drainTimeout : Nat) (state : State Connection) : Prop where
  /-- Nothing but the signal makes the main task go on, not even a server that failed. -/
  signalled : state.signalledAt = none → state.main = .awaitingSignal
  /-- Success means that nothing was under way or that the time was over, and a failure is the
  server's own. -/
  cause : ∀ result, state.main = .returned result → ∃ since, state.signalledAt = some since ∧
    (state.server = .ended result ∧ (result = .ok () → state.connections = ∅) ∨
      result = .ok () ∧ since + drainTimeout ≤ state.now)
  /-- No notice is lost. -/
  notified : ∀ since, state.main = .draining since → state.server = .accepting →
    (step drainTimeout state (.serve .notified)).isSome
  /-- A server that was notified takes no connections, and is done with a bounded number of
  steps. -/
  closed : state.server ≠ .accepting → ∀ actions final,
    (system drainTimeout).run (fun _ _ => True) state actions = some final →
      final.connections ⊆ state.connections ∧
        actions.countP (!·.passes) ≤ state.connections.card + 3
  /-- Once the time is over, the main task waits no longer. -/
  due : ∀ since, state.main = .draining since → since + drainTimeout ≤ state.now →
    (step drainTimeout state .join).isSome ∨ (step drainTimeout state .expire).isSome

omit [DecidableEq Connection] in
theorem left_le (state : State Connection) : state.left ≤ state.connections.card + 3 := by
  unfold State.left
  cases state.server <;> cases state.main <;> simp

/-- **Graceful shutdown.**  In every run, whatever connections come and go and however the server
ends: the main task stops serving only after a signal; it reports success only if every
connection was done or the drain timeout was over, and a failure only if the server failed; the
notice reaches a server however late it waits for it; and from then on there are no new
connections. -/
theorem shutdown_graceful
    (reachable : (system drainTimeout).Reachable (fun _ _ => True) state) :
    Graceful drainTimeout state := by
  have orderly := reachable_orderly reachable
  refine ⟨fun unsignalled => ?_, fun result returned => ?_, fun since draining accepting => ?_,
    fun closed actions final run => ?_, fun since draining late => ?_⟩
  · cases main : state.main with
    | awaitingSignal => rfl
    | draining since =>
        rw [orderly.since since main] at unsignalled
        cases unsignalled
    | returned result =>
        obtain ⟨since, signalled, -⟩ := orderly.returned result main
        rw [signalled] at unsignalled
        cases unsignalled
  · obtain ⟨since, signalled, ended | ⟨ok, late⟩⟩ := orderly.returned result returned
    · refine ⟨since, signalled, .inl ⟨ended, ?_⟩⟩
      rintro rfl
      exact orderly.idle ended
    · exact ⟨since, signalled, .inr ⟨ok, late⟩⟩
  · simp [step, serve, draining, accepting, orderly.permit since draining accepting]
  · obtain ⟨counted, -, subset⟩ := (system drainTimeout).run_countP_le _ (!·.passes) State.left
      (fun later => later.server ≠ .accepting ∧ later.connections ⊆ state.connections)
      (fun _ _ _ known _ stepped =>
        (step_closed known.1 stepped).imp_right fun rest => rest.1.trans known.2)
      (fun _ _ _ known _ stepped =>
        (step_closed known.1 stepped).2.2.imp_right fun less counts => less (by simpa using counts))
      actions ⟨closed, Finset.Subset.refl _⟩ run
    exact ⟨subset, (Nat.le_add_right _ _).trans (counted.trans (left_le state))⟩
  · cases server : state.server with
    | ended result => exact .inl (by simp [step, draining, server])
    | accepting | closing => exact .inr (by simp [step, draining, server, late])

/-- A signal while one connection is open, and a drain that takes too long. -/
theorem shutdown_graceful_late :
    ∃ state, (system 5).run (fun _ _ => True)
        (⟨.awaitingSignal, false, .accepting, ∅, 0, none⟩ : State Nat)
        [.serve (.accept 7), .signal, .serve .notified, .serve (.pass 5), .expire] = some state ∧
      state.main = .returned (.ok ()) ∧ state.connections = {7} ∧ Graceful 5 state := by
  have evaluates : ∃ state, (system 5).run (fun _ _ => True)
      (⟨.awaitingSignal, false, .accepting, ∅, 0, none⟩ : State Nat)
      [.serve (.accept 7), .signal, .serve .notified, .serve (.pass 5), .expire] = some state ∧
        state.main = .returned (.ok ()) ∧ state.connections = {7} := ⟨_, rfl, rfl, rfl⟩
  obtain ⟨state, run, main, connections⟩ := evaluates
  exact ⟨state, run, main, connections,
    shutdown_graceful (System.reachable_of_run _ _ _ (.init ⟨0, rfl⟩) run)⟩

end ImageResizer.Shutdown
