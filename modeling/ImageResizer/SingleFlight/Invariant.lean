import ImageResizer.SingleFlight
import Mathlib.Data.Finset.Basic

/-!
# The single-flight invariant

What every interleaving of leaders, followers, cancellations and guard drops
keeps true of the in-flight map and the broadcast channels.

The registry changes in six ways only: a call changes phase without changing its
role, subscribes, stops waiting, becomes leader, takes its entry out of the map,
or sends.  `step_moves` derives that from `Occurs`, and the invariant is then
shown to survive each of the six.
-/

namespace ImageResizer.SingleFlight

open Transition

variable {Caller Failure : Type}

/-- The channel whose map entry a call's live guard owns. -/
def Phase.guard? : Phase Failure → Option Chan
  | .working chan _ => some chan
  | .closing chan _ => some chan
  | _ => none

/-- The channel a call may still send on. -/
def Phase.sender? : Phase Failure → Option Chan
  | .working chan _ => some chan
  | .closing chan _ => some chan
  | .sending tx _ => tx
  | _ => none

/-- The result passed to `finish`, once there is one. -/
def Phase.outcome : Phase Failure → Option (Except Failure String)
  | .closing _ own => own
  | .sending _ own => own
  | .returned result => some result
  | _ => none

/-- A call that returned or was dropped without being a follower. -/
def Phase.ended : Phase Failure → Bool
  | .returned _ => true
  | .gone => true
  | _ => false

/-- A phase that records nothing about a channel the call follows. -/
def Phase.unattached : Phase Failure → Bool
  | .waiting _ => false
  | .joined _ _ => false
  | .sending none _ => false
  | _ => true

/-- A change of phase in which a running call keeps whatever guard and sender it
holds. -/
structure Phase.SameRole (before after : Phase Failure) : Prop where
  guard : after.guard? = before.guard?
  sender : after.sender? = before.sender?
  running : before.ended = false
  unattached : before.unattached = true ∧ after.unattached = true

theorem Phase.sender_of_guard {phase : Phase Failure} {chan : Chan}
    (guard : phase.guard? = some chan) : phase.sender? = some chan := by
  cases phase <;> simp_all [Phase.guard?, Phase.sender?]

section Calls

variable [DecidableEq Caller] (registry : Registry Caller Failure) (caller : Caller)

/-- A follower found after a call became unattached was one before. -/
theorem Registry.attached_of_setCall {after phase : Phase Failure} {other : Caller}
    (unattached : after.unattached = true) (attached : phase.unattached = false)
    (found : (registry.setCall caller after).call other = phase) :
    registry.call other = phase := by
  by_cases same : other = caller
  · subst same
    simp only [Registry.setCall_self] at found
    simp [found, attached] at unattached
  · rwa [registry.setCall_of_ne caller after same] at found

/-- A change of phase that keeps one projection keeps it for every call. -/
theorem Registry.setCall_projection {Value : Type} (view : Phase Failure → Value)
    (after : Phase Failure) (kept : view after = view (registry.call caller))
    (other : Caller) :
    view ((registry.setCall caller after).call other) = view (registry.call other) := by
  by_cases same : other = caller
  · subst same
    rwa [Registry.setCall_self]
  · rw [registry.setCall_of_ne caller after same]

end Calls

variable [ToString Failure] (keyOf : Caller → String)

/-- What a follower of `chan` is to receive: the outcome its leader recorded, or
the fixed failure when that leader never called `finish`. -/
def Registry.verdict (registry : Registry Caller Failure) (chan : Chan) : InFlightResult :=
  let leader := (registry.channels chan).leader
  outcomeText (keyOf leader) (registry.call leader).outcome

/-- The invariant of the registry. -/
structure Inv (registry : Registry Caller Failure) : Prop where
  /-- The map holds exactly a live guard's sender under the guard's key. -/
  guard_entry : ∀ {caller chan}, (registry.call caller).guard? = some chan →
    registry.inFlight (keyOf caller) = some chan
  /-- Every entry of the map belongs to a live guard on that key. -/
  entry_guard : ∀ {key chan}, registry.inFlight key = some chan →
    ∃ caller, keyOf caller = key ∧ (registry.call caller).guard? = some chan
  /-- A call that can still send is the leader of a live channel. -/
  sender_channel : ∀ {caller chan}, (registry.call caller).sender? = some chan →
    chan < registry.nextChan ∧ (registry.channels chan).leader = caller ∧
      (registry.channels chan).senderAlive = true
  /-- A live channel has a leader that will send on it, and nothing was sent yet. -/
  alive_sender : ∀ {chan}, chan < registry.nextChan →
    (registry.channels chan).senderAlive = true →
    (registry.call (registry.channels chan).leader).sender? = some chan ∧
      (registry.channels chan).message = none
  /-- A closed channel with a receiver left carries a message. -/
  closed_message : ∀ {chan}, chan < registry.nextChan →
    (registry.channels chan).senderAlive = false →
    (registry.call (registry.channels chan).leader).ended = true ∧
      ((registry.channels chan).receivers.Nonempty →
        (registry.channels chan).message.isSome)
  /-- A message is the leader's outcome. -/
  message_verdict : ∀ {chan result}, chan < registry.nextChan →
    (registry.channels chan).message = some result →
    result = registry.verdict keyOf chan
  /-- A waiting follower holds a receiver of a channel for its own key. -/
  waiting_receiver : ∀ {caller chan}, registry.call caller = .waiting chan →
    chan < registry.nextChan ∧ keyOf (registry.channels chan).leader = keyOf caller ∧
      caller ∈ (registry.channels chan).receivers
  /-- A follower that returned did so with its leader's outcome. -/
  joined_verdict : ∀ {caller chan result}, registry.call caller = .joined chan result →
    chan < registry.nextChan ∧ keyOf (registry.channels chan).leader = keyOf caller ∧
      (registry.channels chan).senderAlive = false ∧
      result = registry.verdict keyOf chan
  /-- `map.remove` always finds the entry. -/
  removed_entry : ∀ {caller own}, registry.call caller ≠ .sending none own

namespace Inv

variable {keyOf} {registry : Registry Caller Failure}

theorem initial {state : State Caller Failure} (isInitial : Initial state) :
    Inv keyOf state.toRegistry := by
  obtain ⟨idle, empty, fresh, _⟩ := isInitial
  constructor <;> intros <;> simp_all [Phase.guard?, Phase.sender?]

/-- Two calls never hold the sender of one channel. -/
theorem sender_unique (inv : Inv keyOf registry) {first second : Caller} {chan : Chan}
    (held : (registry.call first).sender? = some chan)
    (also : (registry.call second).sender? = some chan) : first = second := by
  have firstLeads := (inv.sender_channel held).2.1
  have secondLeads := (inv.sender_channel also).2.1
  exact firstLeads.symm.trans secondLeads

/-- A channel that carries a message is closed. -/
theorem closed_of_message (inv : Inv keyOf registry) {chan : Chan} {result : InFlightResult}
    (live : chan < registry.nextChan)
    (message : (registry.channels chan).message = some result) :
    (registry.channels chan).senderAlive = false := by
  cases alive : (registry.channels chan).senderAlive with
  | false => rfl
  | true => simp [(inv.alive_sender live alive).2] at message

/-- The leader of a closed channel is past every phase that runs. -/
theorem leader_ne_of_closed (inv : Inv keyOf registry) {caller : Caller} {chan : Chan}
    (live : chan < registry.nextChan)
    (closed : (registry.channels chan).senderAlive = false)
    (running : (registry.call caller).ended = false) :
    (registry.channels chan).leader ≠ caller := by
  intro same
  have ended := (inv.closed_message live closed).1
  simp [same, running] at ended

/-- The channel of a waiting follower never closes without a message. -/
theorem not_silent (inv : Inv keyOf registry) {caller : Caller} {chan : Chan}
    (waiting : registry.call caller = .waiting chan)
    (silent : (registry.channels chan).message = none) :
    (registry.channels chan).senderAlive = true := by
  obtain ⟨live, _, listens⟩ := inv.waiting_receiver waiting
  cases alive : (registry.channels chan).senderAlive with
  | true => rfl
  | false => simpa [silent] using (inv.closed_message live alive).2 ⟨caller, listens⟩

/-- A follower that received a result received what its leader recorded, or the fixed failure
of a leader that is gone. -/
theorem joined_leader (inv : Inv keyOf registry) {caller : Caller} {chan : Chan}
    {result : InFlightResult} (joined : registry.call caller = .joined chan result) :
    keyOf (registry.channels chan).leader = keyOf caller ∧
      ((∃ own, registry.call (registry.channels chan).leader = .returned own ∧
          result = flatten own) ∨
        (registry.call (registry.channels chan).leader = .gone ∧
          result = .error (cancelledText (keyOf caller)))) := by
  obtain ⟨live, onKey, closed, delivered⟩ := inv.joined_verdict joined
  refine ⟨onKey, ?_⟩
  have ended := (inv.closed_message live closed).1
  rw [Registry.verdict, onKey] at delivered
  cases phase : registry.call (registry.channels chan).leader with
  | returned own =>
      rw [phase] at delivered
      exact .inl ⟨own, rfl, delivered⟩
  | gone =>
      rw [phase] at delivered
      exact .inr ⟨rfl, delivered⟩
  | start => simp [phase, Phase.ended] at ended
  | missed => simp [phase, Phase.ended] at ended
  | waiting => simp [phase, Phase.ended] at ended
  | working => simp [phase, Phase.ended] at ended
  | closing => simp [phase, Phase.ended] at ended
  | sending => simp [phase, Phase.ended] at ended
  | joined => simp [phase, Phase.ended] at ended

/-- Removing the entry under a leader's key finds that leader's own sender. -/
theorem remove_own (inv : Inv keyOf registry) {caller : Caller} {chan : Chan}
    {own : Option (Except Failure String)}
    (closing : registry.call caller = .closing chan own) :
    registry.inFlight (keyOf caller) = some chan :=
  inv.guard_entry (by rw [closing]; rfl)

end Inv

@[simp]
theorem Registry.verdict_setReceivers (registry : Registry Caller Failure)
    (receivers : Finset Caller) (chan other : Chan) :
    (registry.setReceivers chan receivers).verdict keyOf other =
      registry.verdict keyOf other := by
  simp only [verdict, setReceivers_frame, setReceivers_call]

variable [DecidableEq Caller]

/-- The ways one step can change the registry. -/
inductive Registry.Moves (registry : Registry Caller Failure) :
    Registry Caller Failure → Prop where
  /-- Only the storage or a counter changed. -/
  | keep : Moves registry registry
  | rephase (caller : Caller) (before after : Phase Failure)
      (phase : registry.call caller = before) (role : before.SameRole after) :
      Moves registry (registry.setCall caller after)
  | subscribe (caller : Caller) (chan : Chan)
      (missed : registry.call caller = .missed)
      (entry : registry.inFlight (keyOf caller) = some chan) :
      Moves registry (registry.subscribe caller chan)
  | lead (caller : Caller) (missed : registry.call caller = .missed)
      (vacant : registry.inFlight (keyOf caller) = none) :
      Moves registry (registry.lead caller (keyOf caller))
  | remove (caller : Caller) (chan : Chan) (own : Option (Except Failure String))
      (closing : registry.call caller = .closing chan own) :
      Moves registry (registry.remove caller (keyOf caller) own)
  | send (caller : Caller) (chan : Chan) (own : Option (Except Failure String))
      (sending : registry.call caller = .sending (some chan) own) :
      Moves registry
        (registry.send caller chan (outcomeText (keyOf caller) own) (.afterDrop own))
  /-- The branch of `drop` that finds no entry. -/
  | lost (caller : Caller) (own : Option (Except Failure String))
      (sending : registry.call caller = .sending none own) :
      Moves registry (registry.setCall caller (.afterDrop own))
  | joinMessage (caller : Caller) (chan : Chan) (result : InFlightResult)
      (waiting : registry.call caller = .waiting chan)
      (message : (registry.channels chan).message = some result) :
      Moves registry (registry.unsubscribe caller chan (.joined chan result))
  | joinClosed (caller : Caller) (chan : Chan)
      (waiting : registry.call caller = .waiting chan)
      (silent : (registry.channels chan).message = none)
      (closed : (registry.channels chan).senderAlive = false) :
      Moves registry
        (registry.unsubscribe caller chan
          (.joined chan (.error (cancelledText (keyOf caller)))))
  | leave (caller : Caller) (chan : Chan)
      (waiting : registry.call caller = .waiting chan) :
      Moves registry (registry.unsubscribe caller chan .gone)

/-- What a step does to the registry. -/
theorem step_moves (cdnUrl : String → String) {state next : State Caller Failure}
    {action : Action Caller Failure}
    (stepped : step keyOf cdnUrl state action = some next) :
    state.toRegistry.Moves keyOf next.toRegistry := by
  cases step_occurs stepped with
  | hit start _ => exact .rephase _ _ _ start ⟨rfl, rfl, rfl, rfl, rfl⟩
  | miss start _ => exact .rephase _ _ _ start ⟨rfl, rfl, rfl, rfl, rfl⟩
  | missErr start => exact .rephase _ _ _ start ⟨rfl, rfl, rfl, rfl, rfl⟩
  | subscribe missed entry => exact .subscribe _ _ missed entry
  | lead missed vacant => exact .lead _ missed vacant
  | download working => exact .rephase _ _ _ working ⟨rfl, rfl, rfl, rfl, rfl⟩
  | transform working => exact .rephase _ _ _ working ⟨rfl, rfl, rfl, rfl, rfl⟩
  | upload working => exact .rephase _ _ _ working ⟨rfl, rfl, rfl, rfl, rfl⟩
  | fail working => exact .rephase _ _ _ working ⟨rfl, rfl, rfl, rfl, rfl⟩
  | crash working => exact .rephase _ _ _ working ⟨rfl, rfl, rfl, rfl, rfl⟩
  | remove closing => exact .remove _ _ _ closing
  | send sending => exact .send _ _ _ sending
  | lost sending => exact .lost _ _ sending
  | joinMessage waiting message => exact .joinMessage _ _ _ waiting message
  | joinClosed waiting silent closed => exact .joinClosed _ _ waiting silent closed
  | abandon early =>
      rcases early with start | missed
      · exact .rephase _ _ _ start ⟨rfl, rfl, rfl, rfl, rfl⟩
      · exact .rephase _ _ _ missed ⟨rfl, rfl, rfl, rfl, rfl⟩
  | leave waiting => exact .leave _ _ waiting
  | evict key => exact .keep
  | appear key => exact .keep

/-! ## Every move keeps the invariant -/

namespace Registry

variable (registry : Registry Caller Failure) (caller : Caller)

/-- A call other than the leader of a channel has no say in its verdict. -/
theorem verdict_setCall (phase : Phase Failure) {chan : Chan}
    (distinct : (registry.channels chan).leader ≠ caller) :
    (registry.setCall caller phase).verdict keyOf chan = registry.verdict keyOf chan := by
  simp only [verdict, setCall_channels, registry.setCall_of_ne caller phase distinct]

end Registry

namespace Inv

variable {keyOf} {registry : Registry Caller Failure}

theorem rephase (inv : Inv keyOf registry) {caller : Caller} {before after : Phase Failure}
    (phase : registry.call caller = before) (role : before.SameRole after) :
    Inv keyOf (registry.setCall caller after) := by
  subst phase
  have guards := registry.setCall_projection caller Phase.guard? after role.guard
  have senders := registry.setCall_projection caller Phase.sender? after role.sender
  constructor
  case guard_entry =>
    intro other chan guard
    exact inv.guard_entry (guards other ▸ guard)
  case entry_guard =>
    intro key chan entry
    obtain ⟨owner, onKey, guard⟩ := inv.entry_guard entry
    exact ⟨owner, onKey, (guards owner).trans guard⟩
  case sender_channel =>
    intro other chan sender
    exact inv.sender_channel (senders other ▸ sender)
  case alive_sender =>
    intro chan live alive
    obtain ⟨sender, silent⟩ := inv.alive_sender live alive
    exact ⟨(senders _).trans sender, silent⟩
  case closed_message =>
    intro chan live closed
    have distinct := inv.leader_ne_of_closed live closed role.running
    rw [registry.setCall_channels, registry.setCall_of_ne caller after distinct]
    exact inv.closed_message live closed
  case message_verdict =>
    intro chan result live message
    have distinct :=
      inv.leader_ne_of_closed live (inv.closed_of_message live message) role.running
    rw [registry.verdict_setCall keyOf caller after distinct]
    exact inv.message_verdict live message
  case waiting_receiver =>
    intro other chan waiting
    exact inv.waiting_receiver
      (registry.attached_of_setCall caller role.unattached.2 rfl waiting)
  case joined_verdict =>
    intro other chan result joined
    obtain ⟨live, onKey, closed, result⟩ := inv.joined_verdict
      (registry.attached_of_setCall caller role.unattached.2 rfl joined)
    have distinct := inv.leader_ne_of_closed live closed role.running
    rw [registry.verdict_setCall keyOf caller after distinct]
    exact ⟨live, onKey, closed, result⟩
  case removed_entry =>
    intro other own lost
    exact inv.removed_entry
      (registry.attached_of_setCall caller role.unattached.2 rfl lost)

/-- Changing who listens on a channel, together with the phase of one call that
holds no sender: the common part of subscribing and of dropping a receiver. -/
theorem reattach (inv : Inv keyOf registry) {caller : Caller} {chan : Chan}
    {receivers : Finset Caller} {after : Phase Failure}
    (idle : (registry.call caller).sender? = none ∧ (registry.call caller).ended = false)
    (inert : after.guard? = none ∧ after.sender? = none)
    (others : ∀ other, other ≠ caller →
      other ∈ (registry.channels chan).receivers → other ∈ receivers)
    (heard : (registry.channels chan).senderAlive = false →
      receivers ⊆ (registry.channels chan).receivers)
    (waits : ∀ next, after = .waiting next → next = chan ∧ caller ∈ receivers ∧
      chan < registry.nextChan ∧ keyOf (registry.channels chan).leader = keyOf caller)
    (joins : ∀ next result, after = .joined next result → next < registry.nextChan ∧
      keyOf (registry.channels next).leader = keyOf caller ∧
      (registry.channels next).senderAlive = false ∧
      result = registry.verdict keyOf next)
    (entry : ∀ own, after ≠ .sending none own) :
    Inv keyOf ((registry.setReceivers chan receivers).setCall caller after) := by
  have noGuard : (registry.call caller).guard? = none := by
    cases guard : (registry.call caller).guard? with
    | none => rfl
    | some held => simp [Phase.sender_of_guard guard] at idle
  have guards := (registry.setReceivers chan receivers).setCall_projection caller
    Phase.guard? after (by simp [inert, noGuard])
  have senders := (registry.setReceivers chan receivers).setCall_projection caller
    Phase.sender? after (by simp [inert, idle])
  have notLeader : ∀ {other : Chan}, other < registry.nextChan →
      (registry.channels other).leader ≠ caller := by
    intro other live same
    cases alive : (registry.channels other).senderAlive with
    | true =>
        have sender := (inv.alive_sender live alive).1
        simp [same, idle] at sender
    | false => exact inv.leader_ne_of_closed live alive idle.2 same
  have verdicts : ∀ {other : Chan}, other < registry.nextChan →
      ((registry.setReceivers chan receivers).setCall caller after).verdict keyOf other =
        registry.verdict keyOf other := by
    intro other live
    rw [Registry.verdict_setCall keyOf _ caller after (by simpa using notLeader live),
      Registry.verdict_setReceivers]
  constructor
  case guard_entry =>
    intro other next guard
    exact inv.guard_entry (guards other ▸ guard)
  case entry_guard =>
    intro key next found
    obtain ⟨owner, onKey, guard⟩ := inv.entry_guard found
    exact ⟨owner, onKey, (guards owner).trans guard⟩
  case sender_channel =>
    intro other next sender
    simpa using inv.sender_channel (senders other ▸ sender)
  case alive_sender =>
    intro next live alive
    simp only [Registry.setCall_channels, Registry.setReceivers_frame] at alive ⊢
    obtain ⟨sender, silent⟩ := inv.alive_sender live alive
    exact ⟨(senders _).trans sender, silent⟩
  case closed_message =>
    intro next live closed
    simp only [Registry.setCall_channels, Registry.setReceivers_frame] at closed ⊢
    obtain ⟨ended, heardBefore⟩ := inv.closed_message live closed
    rw [Registry.setCall_of_ne _ caller after (notLeader live)]
    refine ⟨ended, fun listener => heardBefore ?_⟩
    by_cases same : next = chan
    · subst same
      rw [Registry.setReceivers_self] at listener
      exact listener.mono (heard closed)
    · rwa [registry.setReceivers_of_ne chan receivers same] at listener
  case message_verdict =>
    intro next result live message
    simp only [Registry.setCall_channels, Registry.setReceivers_frame] at message
    rw [verdicts live]
    exact inv.message_verdict live message
  case waiting_receiver =>
    intro other next waiting
    simp only [Registry.setCall_channels, Registry.setReceivers_frame]
    by_cases same : other = caller
    · subst same
      rw [Registry.setCall_self] at waiting
      obtain ⟨onChan, listens, live, onKey⟩ := waits next waiting
      subst onChan
      rw [Registry.setReceivers_self]
      exact ⟨live, onKey, listens⟩
    · rw [Registry.setCall_of_ne _ caller after same] at waiting
      obtain ⟨live, onKey, listens⟩ := inv.waiting_receiver waiting
      refine ⟨live, onKey, ?_⟩
      by_cases onChan : next = chan
      · subst onChan
        rw [Registry.setReceivers_self]
        exact others other same listens
      · rwa [registry.setReceivers_of_ne chan receivers onChan]
  case joined_verdict =>
    intro other next result joined
    simp only [Registry.setCall_channels, Registry.setReceivers_frame]
    by_cases same : other = caller
    · subst same
      rw [Registry.setCall_self] at joined
      obtain ⟨live, onKey, closed, delivered⟩ := joins next result joined
      exact ⟨live, onKey, closed, delivered.trans (verdicts live).symm⟩
    · rw [Registry.setCall_of_ne _ caller after same] at joined
      obtain ⟨live, onKey, closed, delivered⟩ := inv.joined_verdict joined
      exact ⟨live, onKey, closed, delivered.trans (verdicts live).symm⟩
  case removed_entry =>
    intro other own lost
    by_cases same : other = caller
    · subst same
      rw [Registry.setCall_self] at lost
      exact entry own lost
    · rw [Registry.setCall_of_ne _ caller after same] at lost
      exact inv.removed_entry lost

theorem subscribe (inv : Inv keyOf registry) {caller : Caller} {chan : Chan}
    (missed : registry.call caller = .missed)
    (entry : registry.inFlight (keyOf caller) = some chan) :
    Inv keyOf (registry.subscribe caller chan) := by
  obtain ⟨owner, onKey, guard⟩ := inv.entry_guard entry
  obtain ⟨live, leads, alive⟩ := inv.sender_channel (Phase.sender_of_guard guard)
  apply inv.reattach (by simp [missed, Phase.sender?, Phase.ended]) ⟨rfl, rfl⟩
  case others => exact fun other _ listens => Finset.mem_insert_of_mem listens
  case heard => simp [alive]
  case waits =>
    rintro next ⟨⟩
    exact ⟨rfl, Finset.mem_insert_self _ _, live, leads ▸ onKey⟩
  case joins => simp
  case entry => simp

/-- A follower stops waiting, either for good or with a verdict. -/
theorem unsubscribe (inv : Inv keyOf registry) {caller : Caller} {chan : Chan}
    {after : Phase Failure} (waiting : registry.call caller = .waiting chan)
    (inert : after.guard? = none ∧ after.sender? = none)
    (stops : ∀ next, after ≠ .waiting next) (entry : ∀ own, after ≠ .sending none own)
    (joins : ∀ next result, after = .joined next result → next = chan ∧
      (registry.channels chan).senderAlive = false ∧
      result = registry.verdict keyOf chan) :
    Inv keyOf (registry.unsubscribe caller chan after) := by
  obtain ⟨live, onKey, _⟩ := inv.waiting_receiver waiting
  apply inv.reattach (by simp [waiting, Phase.sender?, Phase.ended]) inert
  case others => exact fun other distinct listens => Finset.mem_erase.mpr ⟨distinct, listens⟩
  case heard => exact fun _ => Finset.erase_subset _ _
  case waits => exact fun next again => absurd again (stops next)
  case joins =>
    intro next result joined
    obtain ⟨onChan, closed, delivered⟩ := joins next result joined
    subst onChan
    exact ⟨live, onKey, closed, delivered⟩
  case entry => exact entry

theorem joinMessage (inv : Inv keyOf registry) {caller : Caller} {chan : Chan}
    {result : InFlightResult} (waiting : registry.call caller = .waiting chan)
    (message : (registry.channels chan).message = some result) :
    Inv keyOf (registry.unsubscribe caller chan (.joined chan result)) := by
  obtain ⟨live, _, _⟩ := inv.waiting_receiver waiting
  apply inv.unsubscribe waiting ⟨rfl, rfl⟩ (by simp) (by simp)
  rintro next delivered ⟨⟩
  exact ⟨rfl, inv.closed_of_message live message, inv.message_verdict live message⟩

theorem lead (inv : Inv keyOf registry) {caller : Caller}
    (missed : registry.call caller = .missed)
    (vacant : registry.inFlight (keyOf caller) = none) :
    Inv keyOf (registry.lead caller (keyOf caller)) := by
  have callSelf : (registry.lead caller (keyOf caller)).call caller =
      .working registry.nextChan .download := by
    simp [Registry.lead, Registry.setCall]
  have callOther : ∀ {other}, other ≠ caller →
      (registry.lead caller (keyOf caller)).call other = registry.call other := by
    intro other distinct
    simp [Registry.lead, Registry.setCall, Registry.setChannel, distinct]
  have chanSelf : (registry.lead caller (keyOf caller)).channels registry.nextChan =
      { leader := caller, receivers := ∅, message := none, senderAlive := true } := by
    simp [Registry.lead, Registry.setCall, Registry.setChannel]
  have chanOther : ∀ {chan}, chan < registry.nextChan →
      (registry.lead caller (keyOf caller)).channels chan = registry.channels chan := by
    intro chan live
    simp [Registry.lead, Registry.setCall, Registry.setChannel, Nat.ne_of_lt live]
  have notLeader : ∀ {chan}, chan < registry.nextChan →
      (registry.channels chan).leader ≠ caller := by
    intro chan live same
    cases alive : (registry.channels chan).senderAlive with
    | true =>
        have sender := (inv.alive_sender live alive).1
        simp [same, missed, Phase.sender?] at sender
    | false => exact inv.leader_ne_of_closed live alive (by simp [missed, Phase.ended]) same
  have verdicts : ∀ {chan}, chan < registry.nextChan →
      (registry.lead caller (keyOf caller)).verdict keyOf chan =
        registry.verdict keyOf chan := by
    intro chan live
    simp only [Registry.verdict, chanOther live, callOther (notLeader live)]
  have split : ∀ {chan}, chan < (registry.lead caller (keyOf caller)).nextChan →
      chan < registry.nextChan ∨ chan = registry.nextChan := fun {chan} live =>
    Nat.lt_or_eq_of_le (Nat.le_of_lt_succ live)
  constructor
  case guard_entry =>
    intro other chan guard
    by_cases same : other = caller
    · subst same
      rw [callSelf] at guard
      cases guard
      simp [Registry.lead]
    · rw [callOther same] at guard
      have found := inv.guard_entry guard
      have offKey : keyOf other ≠ keyOf caller := by
        intro onKey
        simp [onKey, vacant] at found
      simpa [Registry.lead, offKey] using found
  case entry_guard =>
    intro key chan found
    by_cases onKey : key = keyOf caller
    · subst onKey
      simp only [Registry.lead, Function.update_self, Option.some.injEq] at found
      exact ⟨caller, rfl, by rw [callSelf, ← found]; rfl⟩
    · simp only [Registry.lead, Function.update_of_ne onKey] at found
      obtain ⟨owner, ownsKey, guard⟩ := inv.entry_guard found
      have distinct : owner ≠ caller := by
        rintro rfl
        exact onKey ownsKey.symm
      exact ⟨owner, ownsKey, by rw [callOther distinct]; exact guard⟩
  case sender_channel =>
    intro other chan sender
    by_cases same : other = caller
    · subst same
      rw [callSelf] at sender
      cases sender
      simp [Registry.lead]
    · rw [callOther same] at sender
      obtain ⟨live, leads, alive⟩ := inv.sender_channel sender
      rw [chanOther live]
      exact ⟨Nat.lt_succ_of_lt live, leads, alive⟩
  case alive_sender =>
    intro chan live alive
    rcases split live with older | rfl
    · rw [chanOther older] at alive ⊢
      rw [callOther (notLeader older)]
      exact inv.alive_sender older alive
    · rw [chanSelf, callSelf]
      exact ⟨rfl, rfl⟩
  case closed_message =>
    intro chan live closed
    rcases split live with older | rfl
    · rw [chanOther older] at closed ⊢
      rw [callOther (notLeader older)]
      exact inv.closed_message older closed
    · simp [chanSelf] at closed
  case message_verdict =>
    intro chan result live message
    rcases split live with older | rfl
    · rw [chanOther older] at message
      rw [verdicts older]
      exact inv.message_verdict older message
    · simp [chanSelf] at message
  case waiting_receiver =>
    intro other chan waiting
    have distinct : other ≠ caller := by
      rintro rfl
      simp [callSelf] at waiting
    rw [callOther distinct] at waiting
    obtain ⟨live, onKey, listens⟩ := inv.waiting_receiver waiting
    rw [chanOther live]
    exact ⟨Nat.lt_succ_of_lt live, onKey, listens⟩
  case joined_verdict =>
    intro other chan result joined
    have distinct : other ≠ caller := by
      rintro rfl
      simp [callSelf] at joined
    rw [callOther distinct] at joined
    obtain ⟨live, onKey, closed, delivered⟩ := inv.joined_verdict joined
    rw [chanOther live, verdicts live]
    exact ⟨Nat.lt_succ_of_lt live, onKey, closed, delivered⟩
  case removed_entry =>
    intro other own lost
    have distinct : other ≠ caller := by
      rintro rfl
      simp [callSelf] at lost
    rw [callOther distinct] at lost
    exact inv.removed_entry lost

theorem remove (inv : Inv keyOf registry) {caller : Caller} {chan : Chan}
    {own : Option (Except Failure String)}
    (closing : registry.call caller = .closing chan own) :
    Inv keyOf (registry.remove caller (keyOf caller) own) := by
  have entry := inv.remove_own closing
  have callSelf : (registry.remove caller (keyOf caller) own).call caller =
      .sending (some chan) own := by
    simp [Registry.remove, Registry.setCall, entry]
  have callOther : ∀ {other}, other ≠ caller →
      (registry.remove caller (keyOf caller) own).call other = registry.call other := by
    intro other distinct
    simp [Registry.remove, Registry.setCall, distinct]
  have channels : (registry.remove caller (keyOf caller) own).channels = registry.channels :=
    rfl
  have sole : ∀ {other}, other ≠ caller → (registry.call other).sender? ≠ some chan := by
    intro other distinct sender
    exact distinct (inv.sender_unique sender (by rw [closing]; rfl))
  have senders : ∀ other, ((registry.remove caller (keyOf caller) own).call other).sender? =
      (registry.call other).sender? := by
    intro other
    by_cases same : other = caller
    · subst same
      rw [callSelf, closing]
      rfl
    · rw [callOther same]
  have notLeader : ∀ {other}, other < registry.nextChan →
      (registry.channels other).senderAlive = false →
      (registry.channels other).leader ≠ caller := fun live closed =>
    inv.leader_ne_of_closed live closed (by simp [closing, Phase.ended])
  have verdicts : ∀ {other}, other < registry.nextChan →
      (registry.channels other).senderAlive = false →
      (registry.remove caller (keyOf caller) own).verdict keyOf other =
        registry.verdict keyOf other := by
    intro other live closed
    simp only [Registry.verdict, channels, callOther (notLeader live closed)]
  constructor
  case guard_entry =>
    intro other next guard
    by_cases same : other = caller
    · subst same
      rw [callSelf] at guard
      cases guard
    · rw [callOther same] at guard
      have found := inv.guard_entry guard
      have offKey : keyOf other ≠ keyOf caller := by
        intro onKey
        rw [onKey, entry] at found
        cases found
        exact sole same (Phase.sender_of_guard guard)
      simpa [Registry.remove, offKey] using found
  case entry_guard =>
    intro key next found
    have offKey : key ≠ keyOf caller := by
      rintro rfl
      simp [Registry.remove] at found
    simp only [Registry.remove, Function.update_of_ne offKey] at found
    obtain ⟨owner, onKey, guard⟩ := inv.entry_guard found
    have distinct : owner ≠ caller := by
      rintro rfl
      exact offKey onKey.symm
    exact ⟨owner, onKey, by rw [callOther distinct]; exact guard⟩
  case sender_channel =>
    intro other next sender
    exact inv.sender_channel (senders other ▸ sender)
  case alive_sender =>
    intro next live alive
    obtain ⟨sender, silent⟩ := inv.alive_sender live alive
    exact ⟨(senders _).trans sender, silent⟩
  case closed_message =>
    intro next live closed
    rw [channels, callOther (notLeader live closed)]
    exact inv.closed_message live closed
  case message_verdict =>
    intro next result live message
    rw [verdicts live (inv.closed_of_message live message)]
    exact inv.message_verdict live message
  case waiting_receiver =>
    intro other next waiting
    have distinct : other ≠ caller := by
      rintro rfl
      simp [callSelf] at waiting
    rw [callOther distinct] at waiting
    exact inv.waiting_receiver waiting
  case joined_verdict =>
    intro other next result joined
    have distinct : other ≠ caller := by
      rintro rfl
      simp [callSelf] at joined
    rw [callOther distinct] at joined
    obtain ⟨live, onKey, closed, delivered⟩ := inv.joined_verdict joined
    exact ⟨live, onKey, closed, delivered.trans (verdicts live closed).symm⟩
  case removed_entry =>
    intro other gone lost
    have distinct : other ≠ caller := by
      rintro rfl
      simp [callSelf] at lost
    rw [callOther distinct] at lost
    exact inv.removed_entry lost

theorem send (inv : Inv keyOf registry) {caller : Caller} {chan : Chan}
    {own : Option (Except Failure String)}
    (sending : registry.call caller = .sending (some chan) own) :
    Inv keyOf (registry.send caller chan (outcomeText (keyOf caller) own) (.afterDrop own)) := by
  have sender : (registry.call caller).sender? = some chan := by rw [sending]; rfl
  have running : (registry.call caller).ended = false := by rw [sending]; rfl
  obtain ⟨liveChan, leads, aliveChan⟩ := inv.sender_channel sender
  obtain ⟨_, unsent⟩ := inv.alive_sender liveChan aliveChan
  let sent := registry.send caller chan (outcomeText (keyOf caller) own) (.afterDrop own)
  change Inv keyOf sent
  have callSelf : sent.call caller = .afterDrop own := Registry.setCall_self ..
  have callOther : ∀ {other}, other ≠ caller → sent.call other = registry.call other :=
    fun distinct => Registry.setCall_of_ne _ caller _ distinct
  have chanSelf : sent.channels chan =
      { registry.channels chan with
        message := if (registry.channels chan).receivers.Nonempty then
          some (outcomeText (keyOf caller) own) else (registry.channels chan).message
        senderAlive := false } := by
    simp [sent, Registry.send]
  have chanOther : ∀ {other}, other ≠ chan →
      sent.channels other = registry.channels other := by
    intro other distinct
    simp only [sent, Registry.send, Registry.setCall_channels,
      registry.setChannel_of_ne chan _ distinct]
  have leaders : ∀ other, (sent.channels other).leader = (registry.channels other).leader := by
    intro other
    by_cases same : other = chan
    · subst same
      rw [chanSelf]
    · rw [chanOther same]
  have outcomes : ∀ other, (sent.call other).outcome = (registry.call other).outcome := by
    refine registry.setCall_projection caller Phase.outcome _ ?_
    rw [sending]
    cases own <;> rfl
  have verdicts : ∀ other, sent.verdict keyOf other = registry.verdict keyOf other := by
    intro other
    simp only [Registry.verdict, leaders, outcomes]
  have guards : ∀ other, (sent.call other).guard? = (registry.call other).guard? := by
    refine registry.setCall_projection caller Phase.guard? _ ?_
    rw [sending]
    cases own <;> rfl
  have sendsNothing : (sent.call caller).sender? = none := by
    rw [callSelf]
    cases own <;> rfl
  have unattached : (Phase.afterDrop own).unattached = true := by
    cases own <;> rfl
  constructor
  case guard_entry =>
    intro other next guard
    exact inv.guard_entry (guards other ▸ guard)
  case entry_guard =>
    intro key next found
    obtain ⟨owner, onKey, guard⟩ := inv.entry_guard found
    exact ⟨owner, onKey, (guards owner).trans guard⟩
  case sender_channel =>
    intro other next sender
    have distinct : other ≠ caller := by
      rintro rfl
      simp [sendsNothing] at sender
    rw [callOther distinct] at sender
    obtain ⟨live, leadsNext, alive⟩ := inv.sender_channel sender
    have apart : next ≠ chan := by
      rintro rfl
      exact distinct (leadsNext.symm.trans leads)
    rw [chanOther apart]
    exact ⟨live, leadsNext, alive⟩
  case alive_sender =>
    intro next live alive
    have apart : next ≠ chan := by
      rintro rfl
      simp [chanSelf] at alive
    rw [chanOther apart] at alive ⊢
    obtain ⟨sender, silent⟩ := inv.alive_sender live alive
    have distinct : (registry.channels next).leader ≠ caller := by
      intro same
      rw [same, sending] at sender
      cases sender
      exact apart rfl
    rw [callOther distinct]
    exact ⟨sender, silent⟩
  case closed_message =>
    intro next live closed
    by_cases same : next = chan
    · subst same
      rw [leaders, leads, callSelf, chanSelf]
      refine ⟨by cases own <;> rfl, fun listener => ?_⟩
      simp [if_pos listener]
    · rw [chanOther same] at closed ⊢
      have distinct := inv.leader_ne_of_closed live closed running
      rw [callOther distinct]
      exact inv.closed_message live closed
  case message_verdict =>
    intro next result live message
    rw [verdicts]
    by_cases same : next = chan
    · subst same
      rw [chanSelf] at message
      simp only at message
      split at message
      · injection message with message
        rw [← message, Registry.verdict, leads, sending]
        rfl
      · simp [unsent] at message
    · rw [chanOther same] at message
      exact inv.message_verdict live message
  case waiting_receiver =>
    intro other next waiting
    obtain ⟨live, onKey, listens⟩ := inv.waiting_receiver
      (registry.attached_of_setCall caller unattached rfl waiting)
    refine ⟨live, by rw [leaders, onKey], ?_⟩
    by_cases same : next = chan
    · subst same
      rw [chanSelf]
      exact listens
    · rw [chanOther same]
      exact listens
  case joined_verdict =>
    intro other next result joined
    obtain ⟨live, onKey, closed, delivered⟩ := inv.joined_verdict
      (registry.attached_of_setCall caller unattached rfl joined)
    refine ⟨live, by rw [leaders, onKey], ?_, delivered.trans (verdicts next).symm⟩
    by_cases same : next = chan
    · subst same
      rw [chanSelf]
    · rw [chanOther same]
      exact closed
  case removed_entry =>
    intro other gone lost
    exact inv.removed_entry (registry.attached_of_setCall caller unattached rfl lost)

/-- The invariant survives every move of the registry. -/
theorem moves (inv : Inv keyOf registry) {next : Registry Caller Failure}
    (moved : registry.Moves keyOf next) : Inv keyOf next := by
  cases moved with
  | keep => exact inv
  | rephase caller before after phase role => exact inv.rephase phase role
  | subscribe caller chan missed entry => exact inv.subscribe missed entry
  | lead caller missed vacant => exact inv.lead missed vacant
  | remove caller chan own closing => exact inv.remove closing
  | send caller chan own sending => exact inv.send sending
  | lost caller own sending => exact absurd sending inv.removed_entry
  | joinMessage caller chan result waiting message => exact inv.joinMessage waiting message
  | joinClosed caller chan waiting silent closed =>
      simp [inv.not_silent waiting silent] at closed
  | leave caller chan waiting =>
      exact inv.unsubscribe waiting ⟨rfl, rfl⟩ (by simp) (by simp) (by simp)

end Inv

/-- Every reachable state of the service satisfies the invariant, whatever leaders
and followers do. -/
theorem reachable_inv (cdnUrl : String → String)
    {permitted : State Caller Failure → Action Caller Failure → Prop}
    {state : State Caller Failure}
    (reachable : (service keyOf cdnUrl).Reachable permitted state) :
    Inv keyOf state.toRegistry :=
  reachable.invariant (fun _ => Inv.initial)
    fun _ _ _ inv _ stepped => inv.moves (step_moves keyOf cdnUrl stepped)

/-! ## No stranded follower -/

/-- A map entry goes away only when the guard of its own leader is dropped. -/
theorem entry_kept {registry next : Registry Caller Failure} (inv : Inv keyOf registry)
    (moved : registry.Moves keyOf next) {key : String} {chan : Chan}
    (entry : registry.inFlight key = some chan) :
    next.inFlight key = some chan ∨
      next.inFlight key = none ∧ ∃ own,
        registry.call (registry.channels chan).leader = .closing chan own ∧
        next.call (registry.channels chan).leader = .sending (some chan) own := by
  cases moved with
  | keep => exact .inl entry
  | rephase caller before after phase role => exact .inl entry
  | subscribe caller joined missed found => exact .inl entry
  | lead caller missed vacant =>
      have offKey : key ≠ keyOf caller := by
        rintro rfl
        simp [vacant] at entry
      exact .inl (by simpa [Registry.lead, offKey] using entry)
  | remove caller removed own closing =>
      by_cases onKey : key = keyOf caller
      · subst onKey
        have own_entry := inv.remove_own closing
        cases own_entry.symm.trans entry
        have sender : (registry.call caller).sender? = some chan := by rw [closing]; rfl
        have leads := (inv.sender_channel sender).2.1
        refine .inr ⟨by simp [Registry.remove], own, by rw [leads, closing], ?_⟩
        simp [Registry.remove, Registry.setCall, leads, entry]
      · exact .inl (by simpa [Registry.remove, onKey] using entry)
  | send caller sent own sending => exact .inl entry
  | lost caller own sending => exact .inl entry
  | joinMessage caller joined result waiting message => exact .inl entry
  | joinClosed caller joined waiting silent closed => exact .inl entry
  | leave caller joined waiting => exact .inl entry

/-- What callers of the service may rely on in one state.  A guard counts as alive
from its creation until its `drop` has removed the map entry. -/
structure NoStrandedFollower (state : State Caller Failure) : Prop where
  /-- At most one guard is alive for each key. -/
  one_guard : ∀ first second, (state.call first).guard?.isSome →
    (state.call second).guard?.isSome → keyOf first = keyOf second → first = second
  /-- While a guard is alive the map holds its leader's sender under its key. -/
  own_entry : ∀ caller chan, (state.call caller).guard? = some chan →
    state.inFlight (keyOf caller) = some chan ∧ (state.channels chan).leader = caller
  /-- No step removes or replaces an entry except the drop of the guard that owns it. -/
  kept_entry : ∀ cdnUrl action next, step keyOf cdnUrl state action = some next →
    ∀ key chan, state.inFlight key = some chan →
      next.inFlight key = some chan ∨
        next.inFlight key = none ∧ ∃ own,
          state.call (state.channels chan).leader = .closing chan own ∧
          next.call (state.channels chan).leader = .sending (some chan) own
  /-- A follower still waiting holds a receiver of a channel for its key whose leader
  is still to send or which already carries a message (a closed one always does). -/
  waiting_heard : ∀ caller chan, state.call caller = .waiting chan →
    caller ∈ (state.channels chan).receivers ∧
      keyOf (state.channels chan).leader = keyOf caller ∧
      ((state.call (state.channels chan).leader).sender? = some chan ∨
        (state.channels chan).message.isSome)
  /-- A follower that received a result received what its own leader recorded, or the
  fixed failure when that leader is gone without having called `finish`. -/
  joined_own : ∀ caller chan result, state.call caller = .joined chan result →
    keyOf (state.channels chan).leader = keyOf caller ∧
      ((∃ own, state.call (state.channels chan).leader = .returned own ∧
          result = flatten own) ∨
        (state.call (state.channels chan).leader = .gone ∧
          result = .error (cancelledText (keyOf caller))))

/-- Whatever leaders and followers do, no follower is stranded. -/
theorem no_stranded_follower (cdnUrl : String → String) {state : State Caller Failure}
    (reachable : (service keyOf cdnUrl).Reachable (fun _ _ => True) state) :
    NoStrandedFollower keyOf state := by
  have inv := reachable_inv keyOf cdnUrl reachable
  constructor
  case one_guard =>
    intro first second firstAlive secondAlive onKey
    obtain ⟨chan, held⟩ := Option.isSome_iff_exists.mp firstAlive
    obtain ⟨other, also⟩ := Option.isSome_iff_exists.mp secondAlive
    have found := inv.guard_entry held
    rw [onKey, inv.guard_entry also] at found
    cases found
    exact inv.sender_unique (Phase.sender_of_guard held) (Phase.sender_of_guard also)
  case own_entry =>
    intro caller chan guard
    exact ⟨inv.guard_entry guard, (inv.sender_channel (Phase.sender_of_guard guard)).2.1⟩
  case kept_entry =>
    intro url action next stepped key chan entry
    exact entry_kept keyOf inv (step_moves keyOf url stepped) entry
  case waiting_heard =>
    intro caller chan waiting
    obtain ⟨live, onKey, listens⟩ := inv.waiting_receiver waiting
    refine ⟨listens, onKey, ?_⟩
    cases alive : (state.channels chan).senderAlive with
    | true => exact .inl (inv.alive_sender live alive).1
    | false => exact .inr ((inv.closed_message live alive).2 ⟨caller, listens⟩)
  case joined_own =>
    intro caller chan result joined
    exact inv.joined_leader joined

/-- A service that has not been called: every call is about to start and nothing is
stored. -/
def idle [Inhabited Caller] : State Caller Failure where
  inFlight _ := none
  channels _ := { leader := default, receivers := ∅, message := none, senderAlive := true }
  nextChan := 0
  call _ := .start
  stored _ := false
  downloads _ := 0
  transforms _ := 0
  uploads _ := 0

omit [DecidableEq Caller] [ToString Failure] in
theorem idle_initial [Inhabited Caller] : Initial (idle : State Caller Failure) :=
  ⟨fun _ => rfl, fun _ => rfl, rfl, fun _ => ⟨rfl, rfl, rfl⟩⟩

/-- A leader that panics while a follower waits, then drops its guard. -/
def panicScript : List (Action Bool String) :=
  [.checkCache true, .checkCache false, .lookup true, .lookup false, .download true,
    .crash true, .removeEntry true, .broadcast true, .receive false]

/-- The follower of a leader that panicked is answered with the fixed failure. -/
theorem no_stranded_follower_of_panic :
    ∃ state, (service (fun _ : Bool => "k") id).run (fun _ _ => True)
        (idle : State Bool String) panicScript = some state ∧
      NoStrandedFollower (fun _ => "k") state ∧
      state.call false = .joined 0 (.error (cancelledText "k")) :=
  ⟨_, rfl, no_stranded_follower (fun _ => "k") id
    (System.reachable_of_run _ _ panicScript (.init idle_initial) rfl), rfl⟩

end ImageResizer.SingleFlight
