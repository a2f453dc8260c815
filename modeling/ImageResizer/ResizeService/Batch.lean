import Mathlib.Algebra.Order.BigOperators.Group.List
import Mathlib.Data.List.Forall2
import ImageResizer.ResizeService.Liveness

/-!
# A batch of calls

`resize_batch` of `services/resize/handler.rs`.  The requests of a batch are started in their
order, no more than `max_concurrent` of them at a time, beside all other calls of the service,
and their results are collected as they come.
-/

namespace ImageResizer.ResizeService

open SingleFlight (Phase)
open Transition

/-- What a call that has ended returns.  A follower is given the text of its leader's error. -/
def answer? : Phase Failure → Option (Except Failure String)
  | .returned result => some result
  | .joined _ (.ok url) => some (.ok url)
  | .joined _ (.error text) => some (.error (.message text))
  | _ => none

theorem left_of_answer {phase : Phase Failure} {result : Except Failure String}
    (answered : answer? phase = some result) : phase.left = 0 := by
  cases phase with
  | returned | joined => rfl
  | _ => cases answered

theorem answer_of_left {phase : Phase Failure} (ended : phase.left = 0)
    (intact : phase.intact = true) : ∃ result, answer? phase = some result := by
  cases phase with
  | returned result => exact ⟨result, rfl⟩
  | joined chan result => cases result <;> exact ⟨_, rfl⟩
  | gone => cases intact
  | working chan stage => cases stage <;> cases ended
  | _ => cases ended

namespace Batch

variable {Content Caller : Type} [DecidableEq Caller]

/-- The service and one batch.  `ended` is history: whose results they are. -/
structure State (Caller : Type) where
  service : ResizeService.State Caller
  pending : List Caller
  running : List Caller
  ended : List Caller
  results : List (Except Failure String)

inductive Action (urls : SourceGuard.UrlLibrary) (Caller : Type) where
  /-- The next request is taken from the stream. -/
  | start
  /-- A step of the service, by a call of the batch or another one. -/
  | poll (action : ResizeService.Action urls Caller)
  /-- `collect` is given the result of a call that has ended. -/
  | collect (caller : Caller)

section Step

variable (setup : Setup Content Caller) (maxConcurrent : Nat)

/-- What is not started is not polled, and no call that is started is dropped alone: with the
future of the batch, and with a panic in it, all of them are. -/
def State.Polls {urls : SourceGuard.UrlLibrary} (state : State Caller)
    (action : ResizeService.Action urls Caller) : Prop :=
  ∀ caller ∈ action.mover?,
    caller ∉ state.pending ∧ (action.drops = true → caller ∉ state.running)

instance {urls : SourceGuard.UrlLibrary} (state : State Caller)
    (action : ResizeService.Action urls Caller) : Decidable (state.Polls action) :=
  inferInstanceAs (Decidable (∀ caller ∈ action.mover?, _))

/-- One step. -/
def step (state : State Caller) : Action setup.urls Caller → Option (State Caller)
  | .start =>
      match state.pending with
      | [] => none
      | next :: rest =>
          if state.running.length < maxConcurrent then
            some { state with pending := rest, running := next :: state.running }
          else none
  | .poll action =>
      if state.Polls action then
        (setup.step state.service action).map fun service => { state with service }
      else none
  | .collect caller =>
      if caller ∈ state.running then
        (answer? (state.service.call caller)).map fun result =>
          { state with
            running := state.running.erase caller
            ended := state.ended ++ [caller]
            results := state.results ++ [result] }
      else none

/-- A batch that is asked of a running service. -/
structure Initial (requests : List Caller) (state : State Caller) : Prop where
  service : (ResizeService.system setup).Reachable (fun _ _ => True) state.service
  idle : ∀ caller ∈ requests, state.service.call caller = .start
  pending : state.pending = requests
  running : state.running = []
  ended : state.ended = []
  results : state.results = []

def system (requests : List Caller) : System (State Caller) (Action setup.urls Caller) where
  Init := Initial setup requests
  step := step setup maxConcurrent

/-- Where each request of the batch stands. -/
structure Accounted (requests : List Caller) (state : State Caller) : Prop where
  service : (ResizeService.system setup).Reachable (fun _ _ => True) state.service
  shares : (state.ended ++ (state.running ++ state.pending)).Perm requests
  limited : state.running.length ≤ maxConcurrent
  idle : ∀ caller ∈ state.pending, state.service.call caller = .start
  intact : ∀ caller ∈ state.running, (state.service.call caller).intact = true
  results : List.Forall₂ (fun caller result => answer? (state.service.call caller) = some result)
    state.ended state.results

end Step

variable {setup : Setup Content Caller} {maxConcurrent : Nat} {requests : List Caller}
variable {state next : State Caller} {action : Action setup.urls Caller}

namespace Accounted

theorem initial (start : Initial setup requests state) :
    Accounted setup maxConcurrent requests state where
  service := start.service
  shares := by
    rw [start.ended, start.running, start.pending]
    exact .refl _
  limited := by
    rw [start.running]
    exact Nat.zero_le _
  idle := start.pending ▸ start.idle
  intact := by
    rw [start.running]
    exact List.forall_mem_nil _
  results := by
    rw [start.ended, start.results]
    exact .nil

theorem step (accounted : Accounted setup maxConcurrent requests state)
    (stepped : step setup maxConcurrent state action = some next) :
    Accounted setup maxConcurrent requests next := by
  cases action with
  | start =>
      simp only [Batch.step] at stepped
      split at stepped
      case h_1 => cases stepped
      case h_2 first rest pending =>
          split at stepped
          case isFalse => cases stepped
          case isTrue room =>
              cases stepped
              have idle := accounted.idle
              have shares := accounted.shares
              rw [pending] at idle shares
              obtain ⟨fresh, others⟩ := List.forall_mem_cons.mp idle
              refine ⟨accounted.service, ?_, room, others, ?_, accounted.results⟩
              · exact (List.perm_middle.symm.append_left _).trans shares
              · exact List.forall_mem_cons.mpr ⟨by rw [fresh]; rfl, accounted.intact⟩
  | poll action =>
      simp only [Batch.step] at stepped
      split at stepped
      case isFalse => cases stepped
      case isTrue polls =>
          obtain ⟨service, moved, rfl⟩ := Option.map_eq_some_iff.mp stepped
          obtain ⟨move, follows, mover, drops⟩ := step_follows moved
          refine ⟨.step accounted.service trivial moved, accounted.shares, accounted.limited,
            fun caller waits => ?_, fun caller runs => ?_, ?_⟩
          · rw [follows.kept fun mine => (polls caller (mover ▸ mine)).1 waits]
            exact accounted.idle caller waits
          · refine follows.intact (fun dropped mine => ?_) (accounted.intact caller runs)
            exact (polls caller (mover ▸ mine)).2 (drops dropped) runs
          · refine accounted.results.imp fun caller result answered => ?_
            rw [kept_of_left moved (left_of_answer answered)]
            exact answered
  | collect caller =>
      simp only [Batch.step] at stepped
      split at stepped
      case isFalse => cases stepped
      case isTrue runs =>
          obtain ⟨result, answered, rfl⟩ := Option.map_eq_some_iff.mp stepped
          refine ⟨accounted.service, ?_, (List.length_erase_le).trans accounted.limited,
            accounted.idle, fun other runs => accounted.intact other (List.mem_of_mem_erase runs),
            List.rel_append accounted.results (.cons answered .nil)⟩
          rw [List.append_assoc]
          refine (List.Perm.append_left _ ?_).trans accounted.shares
          exact ((List.perm_cons_erase runs).append_right _).symm

end Accounted

theorem reachable_accounted
    (reachable : (system setup maxConcurrent requests).Reachable (fun _ _ => True) state) :
    Accounted setup maxConcurrent requests state := by
  induction reachable with
  | init start => exact Accounted.initial start
  | step _ _ stepped ih => exact ih.step stepped

/-- A limit of zero lets no request start. -/
theorem idle_of_zero
    (reachable : (system setup 0 requests).Reachable (fun _ _ => True) state) :
    state.running = [] ∧ state.ended = [] := by
  induction reachable with
  | init start => exact ⟨start.running, start.ended⟩
  | @step before after action _ _ stepped ih =>
      obtain ⟨nobody, noResult⟩ := ih
      change step setup 0 before action = some after at stepped
      cases action with
      | start =>
          simp only [step, Nat.not_lt_zero, if_false] at stepped
          split at stepped <;> cases stepped
      | poll action =>
          simp only [step] at stepped
          split at stepped
          case isTrue =>
              obtain ⟨service, -, rfl⟩ := Option.map_eq_some_iff.mp stepped
              exact ⟨nobody, noResult⟩
          case isFalse => cases stepped
      | collect caller =>
          simp only [step, nobody, List.not_mem_nil, if_false] at stepped
          cases stepped

/-! ## How a batch goes on -/

/-- A step by which the batch, or a call that it waits for, proceeds. -/
def Action.Proceeds {urls : SourceGuard.UrlLibrary} (network : Network urls) :
    Action urls Caller → Prop
  | .start | .collect _ => True
  | .poll action => action.Proceeds network

/-- A step of the batch and its calls. -/
def Action.own {urls : SourceGuard.UrlLibrary} (requests : List Caller) :
    Action urls Caller → Bool
  | .start | .collect _ => true
  | .poll action => action.mover?.any (· ∈ requests)

omit [DecidableEq Caller] in
theorem drops_of_proceeds {urls : SourceGuard.UrlLibrary} {network : Network urls}
    {action : ResizeService.Action urls Caller} (proceeds : action.Proceeds network) :
    action.drops = false := by
  cases action with
  | crash | abandon => cases proceeds
  | _ => rfl

/-- A call of the service that is not waiting to be started may proceed within the batch. -/
theorem poll_of_canProceed {network : Network setup.urls} {caller : Caller}
    (enabled : CanProceed setup network state.service caller) (started : caller ∉ state.pending) :
    ∃ action : Action setup.urls Caller, action.Proceeds network ∧
      (step setup maxConcurrent state action).isSome := by
  obtain ⟨action, proceeds, mover, enabled⟩ := enabled
  refine ⟨.poll action, proceeds, ?_⟩
  have polls : state.Polls action := by
    intro other mine
    cases mover.symm.trans mine
    refine ⟨started, fun drops => ?_⟩
    rw [drops_of_proceeds proceeds] at drops
    cases drops
  simp only [step, polls, if_true, Option.isSome_map]
  exact enabled

theorem proceeds_of_unfinished (accounted : Accounted setup maxConcurrent requests state)
    (distinct : requests.Nodup) (somebody : 0 < maxConcurrent)
    (unfinished : state.results.length < requests.length) (network : Network setup.urls) :
    ∃ action : Action setup.urls Caller, action.Proceeds network ∧
      (step setup maxConcurrent state action).isSome := by
  have shares := accounted.shares.length_eq
  have collected := accounted.results.length_eq
  rw [List.length_append, List.length_append] at shares
  cases running : state.running with
  | nil =>
      rw [running, List.length_nil] at shares
      cases pending : state.pending with
      | nil =>
          rw [pending, List.length_nil] at shares
          omega
      | cons first rest =>
          refine ⟨.start, trivial, ?_⟩
          simp [step, pending, running, somebody]
  | cons caller others =>
      have runs : caller ∈ state.running := running ▸ List.mem_cons_self
      by_cases ended : (state.service.call caller).left = 0
      case pos =>
          obtain ⟨result, answered⟩ := answer_of_left ended (accounted.intact caller runs)
          refine ⟨.collect caller, trivial, ?_⟩
          simp [step, runs, answered]
      case neg =>
          rcases canProceed_or_leader accounted.service network ended with
            mine | ⟨chan, -, sends, leader⟩
          case inl =>
              refine poll_of_canProceed mine fun waits => ?_
              have apart := (accounted.shares.nodup_iff.mpr distinct).of_append_right
              exact List.disjoint_of_nodup_append apart runs waits
          case inr =>
              refine poll_of_canProceed leader fun waits => ?_
              rw [accounted.idle _ waits] at sends
              cases sends

/-- What the batch and its calls have left to do. -/
def State.left (requests : List Caller) (state : State Caller) : Nat :=
  2 * state.pending.length + state.running.length +
    (requests.map fun caller => (state.service.call caller).left).sum

theorem step_lowers (stepped : step setup maxConcurrent state action = some next) :
    next.left requests ≤ state.left requests ∧
      (action.own requests = true → next.left requests < state.left requests) := by
  cases action with
  | start =>
      simp only [step] at stepped
      split at stepped
      case h_1 => cases stepped
      case h_2 first rest pending =>
          split at stepped
          case isFalse => cases stepped
          case isTrue =>
              cases stepped
              have shorter : State.left requests { state with
                  pending := rest
                  running := first :: state.running } < state.left requests := by
                simp only [State.left, pending, List.length_cons]
                omega
              exact ⟨shorter.le, fun _ => shorter⟩
  | poll action =>
      simp only [step] at stepped
      split at stepped
      case isFalse => cases stepped
      case isTrue =>
          obtain ⟨service, moved, rfl⟩ := Option.map_eq_some_iff.mp stepped
          have each : ∀ caller ∈ requests,
              (service.call caller).left ≤ (state.service.call caller).left :=
            fun caller _ => (step_left moved caller).1
          refine ⟨Nat.add_le_add_left (List.sum_le_sum each) _,
            fun own => Nat.add_lt_add_left ?_ _⟩
          obtain ⟨caller, mover, member⟩ := (Option.any_eq_true ..).mp own
          exact List.sum_lt_sum _ _ each
            ⟨caller, of_decide_eq_true member, (step_left moved caller).2 mover⟩
  | collect caller =>
      simp only [step] at stepped
      split at stepped
      case isFalse => cases stepped
      case isTrue runs =>
          obtain ⟨result, answered, rfl⟩ := Option.map_eq_some_iff.mp stepped
          have fewer := List.length_erase_of_mem runs
          have somebody := List.length_pos_of_mem runs
          have shorter : State.left requests { state with
              running := state.running.erase caller
              ended := state.ended ++ [caller]
              results := state.results ++ [result] } < state.left requests := by
            simp only [State.left, fewer]
            omega
          exact ⟨shorter.le, fun _ => shorter⟩

theorem left_le (accounted : Accounted setup maxConcurrent requests state) :
    state.left requests ≤ 9 * requests.length := by
  have shares := accounted.shares.length_eq
  rw [List.length_append, List.length_append] at shares
  have calls := List.sum_le_card_nsmul (requests.map fun caller => (state.service.call caller).left)
    7 (List.forall_mem_map.mpr fun caller _ => (state.service.call caller).left_le)
  rw [List.length_map, smul_eq_mul] at calls
  rw [State.left]
  omega

/-- What a batch is promised in one state. -/
structure Served (setup : Setup Content Caller) (maxConcurrent : Nat) (requests : List Caller)
    (state : State Caller) : Prop where
  limited : state.running.length ≤ maxConcurrent
  /-- No request has two results. -/
  once : state.ended.Nodup ∧ state.ended ⊆ requests
  /-- Each result is what its own request returned, and a success is the URL of its own key. -/
  own : List.Forall₂ (fun caller result => answer? (state.service.call caller) = some result ∧
      ∀ url, result = .ok url → url = setup.cdnUrl (setup.keyOf caller))
    state.ended state.results
  /-- Until there is a result for each request, the batch or a call it waits for can go on. -/
  proceeds : 0 < maxConcurrent → state.results.length < requests.length → ∀ network,
    ∃ action : Action setup.urls Caller, action.Proceeds network ∧
      (step setup maxConcurrent state action).isSome
  bounded : ∀ actions final, (system setup maxConcurrent requests).run (fun _ _ => True) state
    actions = some final → actions.countP (·.own requests) ≤ 9 * requests.length
  /-- With a limit of zero there never is a result. -/
  stuck : maxConcurrent = 0 → state.results = []

/-- **Batches are served.**  Whatever else the service is asked meanwhile, a batch keeps its
limit and collects at most one result for each of its requests, which is the request's own;
unless its limit is zero it goes on until it has them all, in no more than nine steps of its own
for each request. -/
theorem batch_served (distinct : requests.Nodup)
    (reachable : (system setup maxConcurrent requests).Reachable (fun _ _ => True) state) :
    Served setup maxConcurrent requests state := by
  have accounted := reachable_accounted reachable
  have apart := accounted.shares.nodup_iff.mpr distinct
  refine ⟨accounted.limited, ⟨apart.of_append_left, fun caller ended => ?_⟩, ?_,
    proceeds_of_unfinished accounted distinct, fun actions final run => ?_, fun zero => ?_⟩
  · exact accounted.shares.subset (List.mem_append_left _ ended)
  · refine accounted.results.imp fun caller result answered => ⟨answered, ?_⟩
    rintro url rfl
    refine url_of_told accounted.service ?_
    cases phase : state.service.call caller with
    | returned own =>
        rw [phase] at answered
        cases answered
        exact .inl phase
    | joined chan told =>
        rw [phase] at answered
        cases told <;> cases answered
        exact .inr ⟨chan, phase⟩
    | _ =>
        rw [phase] at answered
        cases answered
  · have counted := (system setup maxConcurrent requests).run_countP_le _ (·.own requests)
      (State.left requests) (fun _ => True) (fun _ _ _ _ _ _ => trivial)
      (fun _ _ _ _ _ stepped => step_lowers stepped) actions trivial run
    exact (Nat.le_add_right _ _).trans (counted.1.trans (left_le accounted))
  · subst zero
    have collected := accounted.results.length_eq
    rw [(idle_of_zero reachable).2] at collected
    exact List.eq_nil_of_length_eq_zero collected.symm

/-! ### Two requests for one photo -/

/-- Before a batch for two calls. -/
def asked : State Bool := ⟨fresh, [true, false], [], [], []⟩

theorem asked_initial : Initial photoSetup [true, false] asked where
  service := .init fresh_initial
  idle _ _ := rfl
  pending := rfl
  running := rfl
  ended := rfl
  results := rfl

/-- The second call joins the first and is done before it. -/
def photoBatch : List (Action plainUrls Bool) :=
  .start :: .start :: photoScript.map .poll ++ [.collect false, .collect true]

theorem batch_served_photo :
    ∃ state, (system photoSetup 2 [true, false]).run (fun _ _ => True) asked photoBatch =
        some state ∧
      state.results = [.ok photoUrl, .ok photoUrl] ∧
      Served photoSetup 2 [true, false] state := by
  have evaluates : ∃ state, (system photoSetup 2 [true, false]).run (fun _ _ => True) asked
      photoBatch = some state ∧ state.results = [.ok photoUrl, .ok photoUrl] := ⟨_, rfl, rfl⟩
  obtain ⟨state, run, results⟩ := evaluates
  exact ⟨state, run, results, batch_served (by decide)
    (System.reachable_of_run _ _ photoBatch (.init asked_initial) run)⟩

end Batch

end ImageResizer.ResizeService
