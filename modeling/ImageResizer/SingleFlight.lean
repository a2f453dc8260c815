import ImageResizer.Foundation.Transition
import Mathlib.Data.Finset.Basic
import Mathlib.Logic.Function.Basic

/-!
# Single-flight coalescing of `resize` calls

`ResizeService::resize` as a transition system (`services/resize/handler.rs`).
Every `.await` of the source, and every point where another task can observe the
in-flight map or a broadcast channel, is a separate step, so a run of the system
is one interleaving of any number of calls on any keys.

A leader's guard is dropped in two steps, because `Drop` first removes the map
entry and then sends on the channel, and other tasks can move in between.  A
cancelled or panicking leader goes through the same two steps without having
called `finish`.
-/

namespace ImageResizer.SingleFlight

open Transition

/-- The payload broadcast to followers: the leader's result with its error
flattened to text. -/
abbrev InFlightResult := Except String String

/-- Identity of one `broadcast::channel(1)`. -/
abbrev Chan := Nat

/-- The fixed failure sent for a leader that never called `finish`, and returned
by a follower whose channel closed without a message. -/
def cancelledText (key : String) : String :=
  "in-flight request for key " ++ key ++ " was cancelled or panicked before completing"

/-- What the leader of `do_resize_work` still has to do. -/
inductive Stage where
  | download
  | transform
  | upload
  deriving DecidableEq, Repr

/-- Where one `resize` call stands. -/
inductive Phase (Failure : Type) where
  /-- Before the cache check. -/
  | start
  /-- The cache check missed; the map has not been looked up yet. -/
  | missed
  /-- A follower awaiting `rx.recv()`. -/
  | waiting (chan : Chan)
  /-- A leader inside `do_resize_work`, its guard alive with no result. -/
  | working (chan : Chan) (stage : Stage)
  /-- A leader whose guard is about to be dropped; `own` is what `finish` recorded. -/
  | closing (chan : Chan) (own : Option (Except Failure String))
  /-- Inside the guard's `drop`, after `map.remove` handed back `tx`. -/
  | sending (tx : Option Chan) (own : Option (Except Failure String))
  /-- Returned from a cache hit or as a leader. -/
  | returned (result : Except Failure String)
  /-- Returned as a follower of `chan`. -/
  | joined (chan : Chan) (result : InFlightResult)
  /-- The future was dropped. -/
  | gone
  deriving DecidableEq

/-- One broadcast channel.  `leader` is history: the call that created it. -/
structure Channel (Caller : Type) where
  leader : Caller
  receivers : Finset Caller
  message : Option InFlightResult
  senderAlive : Bool

/-- The in-flight map, the channels and where every call stands: what the guards
and the followers act on. -/
structure Registry (Caller Failure : Type) where
  inFlight : String → Option Chan
  channels : Chan → Channel Caller
  nextChan : Chan
  call : Caller → Phase Failure

/-- The whole service.  `stored` is the storage backend, and the counters record
how often each part of `do_resize_work` has been executed for a key. -/
structure State (Caller Failure : Type) extends Registry Caller Failure where
  stored : String → Bool
  downloads : String → Nat
  transforms : String → Nat
  uploads : String → Nat

/-- One observable move. -/
inductive Action (Caller Failure : Type) where
  /-- `check_cache` answers. -/
  | checkCache (caller : Caller)
  /-- `check_cache` errors, which the code treats as a miss. -/
  | checkCacheErr (caller : Caller)
  /-- `in_flight.entry`: subscribe to the leader's channel or insert a new one. -/
  | lookup (caller : Caller)
  | download (caller : Caller)
  | transform (caller : Caller)
  | upload (caller : Caller)
  /-- `do_resize_work` returns an error from the stage it is in. -/
  | fail (caller : Caller) (failure : Failure)
  /-- A leader panics or its future is dropped before it calls `finish`. -/
  | crash (caller : Caller)
  /-- The guard's `drop` removes the entry under its key. -/
  | removeEntry (caller : Caller)
  /-- The guard's `drop` sends on the sender it took out of the map. -/
  | broadcast (caller : Caller)
  /-- A follower's `recv` resolves. -/
  | receive (caller : Caller)
  /-- A call that is not a leader is dropped. -/
  | abandon (caller : Caller)
  /-- A stored entry is deleted or expires. -/
  | evict (key : String)
  /-- An entry appears that no leader here finished: from another process sharing
  the storage, or from an upload whose caller was dropped. -/
  | appear (key : String)
  deriving DecidableEq

variable {Caller Failure : Type}

/-- The text of an outcome, as `finish` receives it. -/
def flatten [ToString Failure] : Except Failure String → InFlightResult
  | .ok url => .ok url
  | .error failure => .error (toString failure)

namespace Registry

variable (registry : Registry Caller Failure) (caller : Caller) (chan : Chan)

/-- Replace one channel. -/
def setChannel (channel : Channel Caller) : Registry Caller Failure :=
  { registry with channels := Function.update registry.channels chan channel }

@[simp]
theorem setChannel_self (channel : Channel Caller) :
    (registry.setChannel chan channel).channels chan = channel := by
  simp [setChannel]

theorem setChannel_of_ne (channel : Channel Caller) {other : Chan} (distinct : other ≠ chan) :
    (registry.setChannel chan channel).channels other = registry.channels other := by
  simp [setChannel, distinct]

/-- Change who listens on a channel. -/
def setReceivers (receivers : Finset Caller) : Registry Caller Failure :=
  registry.setChannel chan { registry.channels chan with receivers }

@[simp]
theorem setReceivers_call (receivers : Finset Caller) :
    (registry.setReceivers chan receivers).call = registry.call := rfl

@[simp]
theorem setReceivers_inFlight (receivers : Finset Caller) :
    (registry.setReceivers chan receivers).inFlight = registry.inFlight := rfl

@[simp]
theorem setReceivers_nextChan (receivers : Finset Caller) :
    (registry.setReceivers chan receivers).nextChan = registry.nextChan := rfl

@[simp]
theorem setReceivers_self (receivers : Finset Caller) :
    ((registry.setReceivers chan receivers).channels chan).receivers = receivers := by
  simp [setReceivers]

theorem setReceivers_of_ne (receivers : Finset Caller) {other : Chan}
    (distinct : other ≠ chan) :
    (registry.setReceivers chan receivers).channels other = registry.channels other :=
  registry.setChannel_of_ne chan _ distinct

/-- Who listens does not touch the rest of any channel. -/
@[simp]
theorem setReceivers_frame (receivers : Finset Caller) (other : Chan) :
    ((registry.setReceivers chan receivers).channels other).leader =
        (registry.channels other).leader ∧
      ((registry.setReceivers chan receivers).channels other).message =
        (registry.channels other).message ∧
      ((registry.setReceivers chan receivers).channels other).senderAlive =
        (registry.channels other).senderAlive := by
  by_cases same : other = chan
  · subst same
    simp [setReceivers]
  · simp [registry.setReceivers_of_ne chan receivers same]

variable [DecidableEq Caller]

/-- Move one call to a new phase. -/
def setCall (phase : Phase Failure) : Registry Caller Failure :=
  { registry with call := Function.update registry.call caller phase }

@[simp]
theorem setCall_self (phase : Phase Failure) :
    (registry.setCall caller phase).call caller = phase := by
  simp [setCall]

theorem setCall_of_ne (phase : Phase Failure) {other : Caller} (distinct : other ≠ caller) :
    (registry.setCall caller phase).call other = registry.call other := by
  simp [setCall, distinct]

@[simp]
theorem setCall_inFlight (phase : Phase Failure) :
    (registry.setCall caller phase).inFlight = registry.inFlight := rfl

@[simp]
theorem setCall_channels (phase : Phase Failure) :
    (registry.setCall caller phase).channels = registry.channels := rfl

@[simp]
theorem setCall_nextChan (phase : Phase Failure) :
    (registry.setCall caller phase).nextChan = registry.nextChan := rfl

/-- `MapEntry::Occupied`: subscribe to the channel found in the map. -/
def subscribe : Registry Caller Failure :=
  (registry.setReceivers chan (insert caller (registry.channels chan).receivers)).setCall
    caller (.waiting chan)

/-- A follower drops its receiver and moves on. -/
def unsubscribe (phase : Phase Failure) : Registry Caller Failure :=
  (registry.setReceivers chan ((registry.channels chan).receivers.erase caller)).setCall
    caller phase

/-- `MapEntry::Vacant`: create a channel, insert its sender and become leader.
There is no await between the insertion and the guard's construction. -/
def lead (key : String) : Registry Caller Failure :=
  let chan := registry.nextChan
  { (registry.setChannel chan
      { leader := caller, receivers := ∅, message := none, senderAlive := true }).setCall
        caller (.working chan .download) with
    inFlight := Function.update registry.inFlight key (some chan)
    nextChan := chan + 1 }

/-- `self.map.remove(&self.key)` in the guard's `drop`. -/
def remove (key : String) (own : Option (Except Failure String)) : Registry Caller Failure :=
  { registry.setCall caller (.sending (registry.inFlight key) own) with
    inFlight := Function.update registry.inFlight key none }

/-- `tx.send(result)` and the drop of the sender.  Nothing is stored when no
receiver is left. -/
def send (result : InFlightResult) (phase : Phase Failure) : Registry Caller Failure :=
  let channel := registry.channels chan
  (registry.setChannel chan
    { channel with
      message := if channel.receivers.Nonempty then some result else channel.message
      senderAlive := false }).setCall caller phase

end Registry

/-- The state with the part shared by guards and followers replaced. -/
def State.setRegistry (state : State Caller Failure) (registry : Registry Caller Failure) :
    State Caller Failure :=
  { state with toRegistry := registry }

/-- The phase a leader ends in once its guard is gone. -/
def Phase.afterDrop : Option (Except Failure String) → Phase Failure
  | some result => .returned result
  | none => .gone

/-- What the guard sends: the recorded outcome, or the fixed failure. -/
def outcomeText [ToString Failure] (key : String) (own : Option (Except Failure String)) :
    InFlightResult :=
  (own.map flatten).getD (.error (cancelledText key))

variable [DecidableEq Caller] [ToString Failure]
variable (keyOf : Caller → String) (cdnUrl : String → String)

/-- One step.  `keyOf` is `generate_key` of each call's parameters and `cdnUrl`
is `get_cdn_url`. -/
def step (state : State Caller Failure) :
    Action Caller Failure → Option (State Caller Failure)
  | .checkCache caller =>
      match state.call caller with
      | .start =>
          some (state.setRegistry (state.setCall caller
            (if state.stored (keyOf caller) then .returned (.ok (cdnUrl (keyOf caller)))
             else .missed)))
      | _ => none
  | .checkCacheErr caller =>
      match state.call caller with
      | .start => some (state.setRegistry (state.setCall caller .missed))
      | _ => none
  | .lookup caller =>
      match state.call caller with
      | .missed =>
          match state.inFlight (keyOf caller) with
          | some chan => some (state.setRegistry (state.subscribe caller chan))
          | none => some (state.setRegistry (state.lead caller (keyOf caller)))
      | _ => none
  | .download caller =>
      match state.call caller with
      | .working chan .download =>
          some { state.setRegistry (state.setCall caller (.working chan .transform)) with
            downloads := Function.update state.downloads (keyOf caller)
              (state.downloads (keyOf caller) + 1) }
      | _ => none
  | .transform caller =>
      match state.call caller with
      | .working chan .transform =>
          some { state.setRegistry (state.setCall caller (.working chan .upload)) with
            transforms := Function.update state.transforms (keyOf caller)
              (state.transforms (keyOf caller) + 1) }
      | _ => none
  | .upload caller =>
      match state.call caller with
      | .working chan .upload =>
          some { state.setRegistry (state.setCall caller
              (.closing chan (some (.ok (cdnUrl (keyOf caller)))))) with
            stored := Function.update state.stored (keyOf caller) true
            uploads := Function.update state.uploads (keyOf caller)
              (state.uploads (keyOf caller) + 1) }
      | _ => none
  | .fail caller failure =>
      match state.call caller with
      | .working chan _ =>
          some (state.setRegistry (state.setCall caller (.closing chan (some (.error failure)))))
      | _ => none
  | .crash caller =>
      match state.call caller with
      | .working chan _ => some (state.setRegistry (state.setCall caller (.closing chan none)))
      | _ => none
  | .removeEntry caller =>
      match state.call caller with
      | .closing _ own => some (state.setRegistry (state.remove caller (keyOf caller) own))
      | _ => none
  | .broadcast caller =>
      match state.call caller with
      | .sending (some chan) own =>
          some (state.setRegistry
            (state.send caller chan (outcomeText (keyOf caller) own) (.afterDrop own)))
      | .sending none own => some (state.setRegistry (state.setCall caller (.afterDrop own)))
      | _ => none
  | .receive caller =>
      match state.call caller with
      | .waiting chan =>
          match (state.channels chan).message with
          | some result =>
              some (state.setRegistry
                (state.unsubscribe caller chan (.joined chan result)))
          | none =>
              if (state.channels chan).senderAlive then none
              else some (state.setRegistry
                (state.unsubscribe caller chan
                  (.joined chan (.error (cancelledText (keyOf caller))))))
      | _ => none
  | .abandon caller =>
      match state.call caller with
      | .start | .missed => some (state.setRegistry (state.setCall caller .gone))
      | .waiting chan =>
          some (state.setRegistry (state.unsubscribe caller chan .gone))
      | _ => none
  | .evict key => some { state with stored := Function.update state.stored key false }
  | .appear key => some { state with stored := Function.update state.stored key true }

/-- What can happen, with what each step finds and what it leaves. -/
inductive Occurs (state : State Caller Failure) :
    Action Caller Failure → State Caller Failure → Prop
  | hit {caller : Caller} (start : state.call caller = .start)
      (stored : state.stored (keyOf caller) = true) :
      Occurs state (.checkCache caller)
        (state.setRegistry (state.setCall caller (.returned (.ok (cdnUrl (keyOf caller))))))
  | miss {caller : Caller} (start : state.call caller = .start)
      (absent : state.stored (keyOf caller) = false) :
      Occurs state (.checkCache caller) (state.setRegistry (state.setCall caller .missed))
  | missErr {caller : Caller} (start : state.call caller = .start) :
      Occurs state (.checkCacheErr caller) (state.setRegistry (state.setCall caller .missed))
  | subscribe {caller : Caller} {chan : Chan} (missed : state.call caller = .missed)
      (entry : state.inFlight (keyOf caller) = some chan) :
      Occurs state (.lookup caller) (state.setRegistry (state.subscribe caller chan))
  | lead {caller : Caller} (missed : state.call caller = .missed)
      (vacant : state.inFlight (keyOf caller) = none) :
      Occurs state (.lookup caller) (state.setRegistry (state.lead caller (keyOf caller)))
  | download {caller : Caller} {chan : Chan}
      (working : state.call caller = .working chan .download) :
      Occurs state (.download caller)
        { state.setRegistry (state.setCall caller (.working chan .transform)) with
          downloads := Function.update state.downloads (keyOf caller)
            (state.downloads (keyOf caller) + 1) }
  | transform {caller : Caller} {chan : Chan}
      (working : state.call caller = .working chan .transform) :
      Occurs state (.transform caller)
        { state.setRegistry (state.setCall caller (.working chan .upload)) with
          transforms := Function.update state.transforms (keyOf caller)
            (state.transforms (keyOf caller) + 1) }
  | upload {caller : Caller} {chan : Chan}
      (working : state.call caller = .working chan .upload) :
      Occurs state (.upload caller)
        { state.setRegistry (state.setCall caller
            (.closing chan (some (.ok (cdnUrl (keyOf caller)))))) with
          stored := Function.update state.stored (keyOf caller) true
          uploads := Function.update state.uploads (keyOf caller)
            (state.uploads (keyOf caller) + 1) }
  | fail {caller : Caller} {failure : Failure} {chan : Chan} {stage : Stage}
      (working : state.call caller = .working chan stage) :
      Occurs state (.fail caller failure)
        (state.setRegistry (state.setCall caller (.closing chan (some (.error failure)))))
  | crash {caller : Caller} {chan : Chan} {stage : Stage}
      (working : state.call caller = .working chan stage) :
      Occurs state (.crash caller)
        (state.setRegistry (state.setCall caller (.closing chan none)))
  | remove {caller : Caller} {chan : Chan} {own : Option (Except Failure String)}
      (closing : state.call caller = .closing chan own) :
      Occurs state (.removeEntry caller)
        (state.setRegistry (state.remove caller (keyOf caller) own))
  | send {caller : Caller} {chan : Chan} {own : Option (Except Failure String)}
      (sending : state.call caller = .sending (some chan) own) :
      Occurs state (.broadcast caller)
        (state.setRegistry
          (state.send caller chan (outcomeText (keyOf caller) own) (.afterDrop own)))
  /-- The branch of `drop` that finds no entry. -/
  | lost {caller : Caller} {own : Option (Except Failure String)}
      (sending : state.call caller = .sending none own) :
      Occurs state (.broadcast caller) (state.setRegistry (state.setCall caller (.afterDrop own)))
  | joinMessage {caller : Caller} {chan : Chan} {result : InFlightResult}
      (waiting : state.call caller = .waiting chan)
      (message : (state.channels chan).message = some result) :
      Occurs state (.receive caller)
        (state.setRegistry (state.unsubscribe caller chan (.joined chan result)))
  | joinClosed {caller : Caller} {chan : Chan} (waiting : state.call caller = .waiting chan)
      (silent : (state.channels chan).message = none)
      (closed : (state.channels chan).senderAlive = false) :
      Occurs state (.receive caller)
        (state.setRegistry (state.unsubscribe caller chan
          (.joined chan (.error (cancelledText (keyOf caller))))))
  | abandon {caller : Caller}
      (early : state.call caller = .start ∨ state.call caller = .missed) :
      Occurs state (.abandon caller) (state.setRegistry (state.setCall caller .gone))
  | leave {caller : Caller} {chan : Chan} (waiting : state.call caller = .waiting chan) :
      Occurs state (.abandon caller) (state.setRegistry (state.unsubscribe caller chan .gone))
  | evict (key : String) :
      Occurs state (.evict key) { state with stored := Function.update state.stored key false }
  | appear (key : String) :
      Occurs state (.appear key) { state with stored := Function.update state.stored key true }

variable {keyOf cdnUrl}

/-- Nothing else can happen. -/
theorem step_occurs {state next : State Caller Failure} {action : Action Caller Failure}
    (stepped : step keyOf cdnUrl state action = some next) :
    Occurs keyOf cdnUrl state action next := by
  cases action with
  | checkCache caller =>
      simp only [step] at stepped
      split at stepped
      case h_1 start =>
          cases stepped
          split
          case isTrue stored => exact .hit start stored
          case isFalse absent => exact .miss start (by simpa using absent)
      case h_2 => cases stepped
  | checkCacheErr caller =>
      simp only [step] at stepped
      split at stepped
      case h_1 start =>
          cases stepped
          exact .missErr start
      case h_2 => cases stepped
  | lookup caller =>
      simp only [step] at stepped
      split at stepped
      case h_1 missed =>
          split at stepped
          case h_1 entry =>
              cases stepped
              exact .subscribe missed entry
          case h_2 vacant =>
              cases stepped
              exact .lead missed vacant
      case h_2 => cases stepped
  | download caller =>
      simp only [step] at stepped
      split at stepped
      case h_1 working =>
          cases stepped
          exact .download working
      case h_2 => cases stepped
  | transform caller =>
      simp only [step] at stepped
      split at stepped
      case h_1 working =>
          cases stepped
          exact .transform working
      case h_2 => cases stepped
  | upload caller =>
      simp only [step] at stepped
      split at stepped
      case h_1 working =>
          cases stepped
          exact .upload working
      case h_2 => cases stepped
  | fail caller failure =>
      simp only [step] at stepped
      split at stepped
      case h_1 working =>
          cases stepped
          exact .fail working
      case h_2 => cases stepped
  | crash caller =>
      simp only [step] at stepped
      split at stepped
      case h_1 working =>
          cases stepped
          exact .crash working
      case h_2 => cases stepped
  | removeEntry caller =>
      simp only [step] at stepped
      split at stepped
      case h_1 closing =>
          cases stepped
          exact .remove closing
      case h_2 => cases stepped
  | broadcast caller =>
      simp only [step] at stepped
      split at stepped
      case h_1 sending =>
          cases stepped
          exact .send sending
      case h_2 sending =>
          cases stepped
          exact .lost sending
      case h_3 => cases stepped
  | receive caller =>
      simp only [step] at stepped
      split at stepped
      case h_1 waiting =>
          split at stepped
          case h_1 message =>
              cases stepped
              exact .joinMessage waiting message
          case h_2 silent =>
              split at stepped
              case isTrue => cases stepped
              case isFalse closed =>
                  cases stepped
                  exact .joinClosed waiting silent (by simpa using closed)
      case h_2 => cases stepped
  | abandon caller =>
      simp only [step] at stepped
      split at stepped
      case h_1 start =>
          cases stepped
          exact .abandon (.inl start)
      case h_2 missed =>
          cases stepped
          exact .abandon (.inr missed)
      case h_3 waiting =>
          cases stepped
          exact .leave waiting
      case h_4 => cases stepped
  | evict key =>
      cases stepped
      exact .evict key
  | appear key =>
      cases stepped
      exact .appear key

variable (keyOf cdnUrl)

/-- The service before any call: empty map, nothing executed, any storage. -/
def Initial (state : State Caller Failure) : Prop :=
  (∀ caller, state.call caller = .start) ∧ (∀ key, state.inFlight key = none) ∧
  state.nextChan = 0 ∧
  ∀ key, state.downloads key = 0 ∧ state.transforms key = 0 ∧ state.uploads key = 0

/-- The transition system of the service. -/
def service : System (State Caller Failure) (Action Caller Failure) where
  Init := Initial
  step := step keyOf cdnUrl

end ImageResizer.SingleFlight
