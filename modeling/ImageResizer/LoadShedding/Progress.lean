import ImageResizer.LoadShedding.Accounts
import Mathlib.Algebra.Order.BigOperators.Group.Finset

/-!
# Load is worked off

Once no more requests arrive, every run ends, and where nothing is left to do all permits are
free again: the three semaphores never block each other.
-/

namespace ImageResizer.LoadShedding

open Transition Permits

variable {Request : Type} [DecidableEq Request]
variable {limits : Limits} {wantsWatermark : Request → Bool} {state next : State Request}

/-! ## Work left -/

/-- More than the steps that are left of a future. -/
def Phase.work : Phase → Nat
  | .idle | .answered _ => 0
  | .inside .serving => 14
  | .inside (.queued .image) => 13
  | .inside (.downloading .image) => 12
  | .inside (.fetched .image) => 11
  | .inside (.queued .watermark) => 10
  | .inside (.downloading .watermark) => 9
  | .inside (.fetched .watermark) => 8
  | .inside .awaiting => 3
  | .inside .storing => 2
  | .inside (.finishing _) => 1

def Job.work : Job → Nat
  | .unsubmitted | .ended => 0
  | .queued => 4
  | .running => 3
  | .sent | .unwinding => 1

def State.work (state : State Request) (request : Request) : Nat :=
  (state.call request).work + (state.job request).work

/-- The request a step is about. -/
@[simp]
def Action.request : Action Request → Request
  | .arrive request | .fetch request | .received request | .failed request | .submit request
  | .start request | .send request | .dropPermit request | .unwind request
  | .dropSender request | .respond request | .abandon request _ | .conclude request => request

def Action.arrives : Action Request → Bool
  | .arrive _ => true
  | _ => false

/-- A step that needs no failure, no timeout and no new request. -/
def Action.advances : Action Request → Bool
  | .arrive _ | .failed _ | .unwind _ | .abandon _ _ => false
  | _ => true

/-- A step takes work from one request and adds none to any other. -/
structure Shrinks (state next : State Request) (request : Request) : Prop where
  own : next.work request < state.work request
  others : ∀ other, next.work other ≤ state.work other

namespace Shrinks

variable {request : Request} {phase : Phase} {job : Job}

/-- A step that changes one request at most. -/
theorem of_update (calls : next.call = Function.update state.call request phase)
    (jobs : next.job = Function.update state.job request job)
    (smaller : phase.work + job.work < state.work request) : Shrinks state next request := by
  have own : next.work request = phase.work + job.work := by
    rw [State.work, calls, jobs, Function.update_self, Function.update_self]
  constructor
  case own => exact own ▸ smaller
  case others =>
      intro other
      by_cases same : other = request
      case pos => exact same ▸ own ▸ smaller.le
      case neg =>
          rw [State.work, calls, jobs, Function.update_of_ne same, Function.update_of_ne same]
          exact le_rfl

theorem of_call (calls : next.call = Function.update state.call request phase)
    (jobs : next.job = state.job) (smaller : phase.work < (state.call request).work) :
    Shrinks state next request := by
  refine of_update calls (jobs.trans (Function.update_eq_self request state.job).symm) ?_
  exact Nat.add_lt_add_right smaller _

theorem of_job (calls : next.call = state.call)
    (jobs : next.job = Function.update state.job request job)
    (smaller : job.work < (state.job request).work) : Shrinks state next request := by
  refine of_update (calls.trans (Function.update_eq_self request state.call).symm) jobs ?_
  exact Nat.add_lt_add_left smaller _

omit [DecidableEq Request] in
/-- Two steps of which the first adds no work. -/
theorem after {between : State Request} (first : ∀ other, between.work other ≤ state.work other)
    (second : Shrinks between next request) : Shrinks state next request where
  own := second.own.trans_le (first request)
  others other := (second.others other).trans (first other)

end Shrinks

theorem granted_work_le (phase : Phase) : (State.granted phase).work ≤ phase.work := by
  match phase with
  | .inside (.queued .image) | .inside (.queued .watermark) => decide
  | .idle | .answered _ | .inside .serving | .inside (.downloading _) | .inside (.fetched _)
  | .inside .awaiting | .inside .storing | .inside (.finishing _) => exact le_rfl

/-- Handing a permit on adds no work. -/
theorem dropDownload_work_le (other : Request) :
    state.dropDownload.work other ≤ state.work other := by
  unfold State.dropDownload
  split
  case h_1 => exact le_rfl
  case h_2 next downloads _ =>
      by_cases same : other = next
      case pos =>
          subst same
          simp only [State.work, State.setCall, Function.update_self]
          exact Nat.add_le_add_right (granted_work_le _) _
      case neg =>
          simp only [State.work, State.setCall, Function.update_of_ne same]
          exact le_rfl

theorem dropDownload_call {request : Request} {fetch : Fetch}
    (downloading : state.call request = .inside (.downloading fetch)) :
    state.dropDownload.call request = .inside (.downloading fetch) := by
  unfold State.dropDownload
  split
  case h_1 => exact downloading
  case h_2 next downloads _ =>
      by_cases same : request = next
      case pos =>
          subst same
          simp only [State.setCall, Function.update_self, downloading, State.granted]
      case neg =>
          simp only [State.setCall, Function.update_of_ne same]
          exact downloading

theorem acquireDownload_shrinks {request : Request} {fetch : Fetch}
    (smaller : (Phase.inside (.queued fetch)).work < (state.call request).work) :
    Shrinks state (state.acquireDownload request fetch) request := by
  have granted : (Phase.inside (.downloading fetch)).work < (Phase.inside (.queued fetch)).work := by
    cases fetch <;> decide
  unfold State.acquireDownload
  split
  case h_1 =>
      refine Shrinks.of_call rfl rfl ?_
      omega
  case h_2 =>
      refine Shrinks.of_call rfl rfl ?_
      omega

/-- A download ends in a later stage. -/
theorem dropDownload_shrinks {request : Request} {fetch : Fetch} {after : Phase}
    (downloading : state.call request = .inside (.downloading fetch))
    (smaller : after.work < (Phase.inside (.downloading fetch)).work) :
    Shrinks state (state.dropDownload.setCall request after) request := by
  refine Shrinks.after dropDownload_work_le (Shrinks.of_call rfl rfl ?_)
  rwa [dropDownload_call downloading]

/-- A closure answers whoever awaits it. -/
theorem deliver_shrinks {request : Request} {stage : Stage} {job : Job}
    (later : (Phase.inside stage).work < (Phase.inside .awaiting).work)
    (smaller : job.work < (state.job request).work) :
    Shrinks state ((state.deliver request stage).setJob request job) request := by
  unfold State.deliver
  split
  case isTrue awaits =>
      refine Shrinks.of_update rfl rfl ?_
      rw [State.work, awaits]
      omega
  case isFalse => exact Shrinks.of_job rfl rfl smaller

/-- A future is dropped before its end. -/
theorem dropStage_shrinks {request : Request} {stage : Stage} {answer : Answer}
    (inside : state.call request = .inside stage) (unfinished : ∀ other, stage ≠ .finishing other) :
    Shrinks state ((state.dropStage request stage).setCall request
      (.inside (.finishing answer))) request := by
  cases stage with
  | downloading fetch =>
      exact dropDownload_shrinks inside (by cases fetch <;> simp [Phase.work])
  | queued fetch =>
      exact Shrinks.of_call rfl rfl (by cases fetch <;> simp [inside, Phase.work])
  | fetched fetch =>
      exact Shrinks.of_call rfl rfl (by cases fetch <;> simp [inside, Phase.work])
  | serving | awaiting | storing =>
      exact Shrinks.of_call rfl rfl (by simp [inside, Phase.work])
  | finishing other => exact absurd rfl (unfinished other)

/-- Every step but an arrival takes work from its request. -/
theorem step_shrinks {action : Action Request} (old : action.arrives = false)
    (stepped : step wantsWatermark state action = some next) :
    Shrinks state next action.request := by
  cases step_moves stepped with
  | shed | enter => cases old
  | fetchImage serving => exact acquireDownload_shrinks (by simp [serving, Phase.work])
  | fetchWatermark fetched => exact acquireDownload_shrinks (by simp [fetched, Phase.work])
  | @received _ fetch downloading =>
      exact dropDownload_shrinks downloading (by cases fetch <;> decide)
  | @failed _ fetch downloading =>
      exact dropDownload_shrinks downloading (by cases fetch <;> decide)
  | unnamed fetched => exact Shrinks.of_call rfl rfl (by simp [fetched, Phase.work])
  | @refuse _ fetch fetched =>
      exact Shrinks.of_call rfl rfl (by cases fetch <;> simp [fetched, Phase.work])
  | @submit _ fetch _ fetched =>
      refine Shrinks.of_update rfl rfl (lt_of_lt_of_le ?_ (Nat.le_add_right ..))
      cases fetch <;> simp [fetched, Phase.work, Job.work]
  | start queued => exact Shrinks.of_job rfl rfl (by simp [queued, Job.work])
  | skip queued => exact Shrinks.of_job rfl rfl (by simp [queued, Job.work])
  | send running => exact deliver_shrinks (by decide) (by simp [running, Job.work])
  | dropPermit sent => exact Shrinks.of_job rfl rfl (by simp [sent, Job.work])
  | unwind busy =>
      rcases busy with queued | running
      · exact Shrinks.of_job rfl rfl (by simp [queued, Job.work])
      · exact Shrinks.of_job rfl rfl (by simp [running, Job.work])
  | dropSender unwinding => exact deliver_shrinks (by decide) (by simp [unwinding, Job.work])
  | respond inside ready =>
      rcases ready with rfl | rfl
      · exact Shrinks.of_call rfl rfl (by simp [inside, Phase.work])
      · exact Shrinks.of_call rfl rfl (by simp [inside, Phase.work])
  | abandon inside unfinished => exact dropStage_shrinks inside unfinished
  | conclude finishing => exact Shrinks.of_call rfl rfl (by simp [finishing, Phase.work])

/-! ## The end of every run -/

/-- No request is left, no closure is, and all permits are free. -/
structure Quiet (limits : Limits) (state : State Request) : Prop where
  calls : ∀ request, state.call request = .idle ∨ ∃ answer, state.call request = .answered answer
  jobs : ∀ request, state.job request = .unsubmitted ∨ state.job request = .ended
  requests : state.freeRequests = limits.requests
  downloads : state.downloads.available = limits.downloads
  processing : state.freeProcessing = limits.processing

/-- Where no step forward is left, nothing is. -/
theorem quiet_of_stuck (balanced : Balanced limits state) (somebody : 0 < limits.downloads)
    (stuck : ∀ action : Action Request, action.advances = true →
      step wantsWatermark state action = none) : Quiet limits state := by
  have noDownload (request : Request) (fetch : Fetch) :
      state.call request ≠ .inside (.downloading fetch) := by
    intro downloading
    have enabled := stuck (.received request) rfl
    simp [step, downloading] at enabled
  have jobs (request : Request) :
      state.job request = .unsubmitted ∨ state.job request = .ended := by
    cases job : state.job request with
    | unsubmitted => exact .inl rfl
    | ended => exact .inr rfl
    | queued => simpa [step, job] using stuck (.start request) rfl
    | running => simpa [step, job] using stuck (.send request) rfl
    | sent => simpa [step, job] using stuck (.dropPermit request) rfl
    | unwinding => simpa [step, job] using stuck (.dropSender request) rfl
  have noQueue (request : Request) (fetch : Fetch) :
      state.call request ≠ .inside (.queued fetch) := by
    -- Somebody has the permit that a queued request waits for.
    intro queued
    have member : request ∈ state.downloads.queue := by
      apply balanced.queue.superset
      change (state.call request).Queuing
      simp [queued, Phase.Queuing]
    have exhausted := balanced.downloads.busy (List.ne_nil_of_mem member)
    have held := balanced.downloads.accounted.exhausted_iff.mp exhausted
    have nobody : {request | (state.call request).Downloading} = ∅ := by
      ext other
      cases phase : state.call other with
      | idle | answered => simp [phase, Phase.Downloading]
      | inside stage =>
          cases stage with
          | downloading fetch => exact absurd phase (noDownload other fetch)
          | serving | queued | fetched | awaiting | storing | finishing =>
              simp [phase, Phase.Downloading]
    rw [nobody, Set.encard_empty] at held
    exact somebody.ne (by exact_mod_cast held)
  have calls (request : Request) :
      state.call request = .idle ∨ ∃ answer, state.call request = .answered answer := by
    cases phase : state.call request with
    | idle => exact .inl rfl
    | answered answer => exact .inr ⟨answer, rfl⟩
    | inside stage =>
        cases stage with
        | queued fetch => exact absurd phase (noQueue request fetch)
        | downloading fetch => exact absurd phase (noDownload request fetch)
        | serving => simpa [step, phase] using stuck (.respond request) rfl
        | storing => simpa [step, phase] using stuck (.respond request) rfl
        | finishing answer => simpa [step, phase] using stuck (.conclude request) rfl
        | awaiting =>
            have pending := (balanced.agree request).awaited phase
            rcases jobs request with job | job
            · simp [job, Job.Pending] at pending
            · simp [job, Job.Pending] at pending
        | fetched fetch =>
            have fetches := stuck (.fetch request) rfl
            have submits := stuck (.submit request) rfl
            cases fetch with
            | watermark =>
                simp only [step, phase, reduceCtorEq, false_and, if_false] at submits
                split at submits <;> cases submits
            | image =>
                by_cases wanted : wantsWatermark request = true
                · simp [step, phase, wanted] at fetches
                · simp only [step, phase, wanted, Bool.false_eq_true, and_false, if_false]
                    at submits
                  split at submits <;> cases submits
  have admitted : {request | (state.call request).Admitted} = ∅ := by
    ext request
    rcases calls request with phase | ⟨answer, phase⟩
    · simp [phase, Phase.Admitted]
    · simp [phase, Phase.Admitted]
  have downloading : {request | (state.call request).Downloading} = ∅ := by
    ext request
    rcases calls request with phase | ⟨answer, phase⟩
    · simp [phase, Phase.Downloading]
    · simp [phase, Phase.Downloading]
  have processing : {request | (state.job request).Holds} = ∅ := by
    ext request
    rcases jobs request with job | job
    · simp [job, Job.Holds]
    · simp [job, Job.Holds]
  exact ⟨calls, jobs, balanced.requests.idle_iff.mpr admitted,
    balanced.downloads.accounted.idle_iff.mpr downloading,
    balanced.processing.idle_iff.mpr processing⟩

/-- The arrival of a request is no work for the others. -/
theorem arrive_work {request other : Request} (outside : other ≠ request)
    (stepped : step wantsWatermark state (.arrive request) = some next) :
    next.work other = state.work other := by
  cases step_moves stepped with
  | shed | enter => simp only [State.work, State.setCall, Function.update_of_ne outside]

/-- Finitely many requests have arrived. -/
theorem reachable_finite {permitted : State Request → Action Request → Prop}
    (reachable : (system limits wantsWatermark).Reachable permitted state) :
    ∃ active : Finset Request, ∀ request ∉ active, state.work request = 0 := by
  induction reachable with
  | init start =>
      obtain ⟨-, -, -, calls, jobs⟩ := start
      refine ⟨∅, fun request _ => ?_⟩
      rw [State.work, calls, jobs]
      rfl
  | @step before after action _ _ stepped ih =>
      obtain ⟨active, resting⟩ := ih
      change step wantsWatermark before action = some after at stepped
      cases arrival : action.arrives with
      | false =>
          have shrinks := step_shrinks arrival stepped
          exact ⟨active, fun request outside => Nat.le_zero.mp
            ((shrinks.others request).trans (resting request outside).le)⟩
      | true =>
          obtain ⟨request, rfl⟩ : ∃ request, action = .arrive request := by
            cases action with
            | arrive request => exact ⟨request, rfl⟩
            | _ => cases arrival
          refine ⟨insert request active, fun other outside => ?_⟩
          rw [Finset.mem_insert, not_or] at outside
          rw [arrive_work outside.1 stepped]
          exact resting other outside.2

omit [DecidableEq Request] in
theorem work_le (balanced : Balanced limits state) (request : Request) :
    state.work request ≤ 14 := by
  have phase : (state.call request).work ≤ 14 := by
    match state.call request with
    | .inside (.queued fetch) | .inside (.downloading fetch) | .inside (.fetched fetch) =>
        cases fetch <;> simp [Phase.work]
    | .idle | .answered _ | .inside .serving | .inside .awaiting | .inside .storing
    | .inside (.finishing _) => simp [Phase.work]
  by_cases given : state.job request = .unsubmitted
  case pos =>
      rw [State.work, given]
      exact phase
  case neg =>
      have late := (balanced.agree request).submitted given
      have phase : (state.call request).work ≤ 3 := by
        match call : state.call request with
        | .inside .awaiting | .inside .storing | .inside (.finishing _) | .answered _ =>
            simp [Phase.work]
        | .idle | .inside .serving | .inside (.queued _) | .inside (.downloading _)
        | .inside (.fetched _) => simp [call, Phase.Submitted] at late
      have job : (state.job request).work ≤ 4 := by
        cases state.job request <;> decide
      rw [State.work]
      omega

/-- From every state a run without new requests ends, after at most fourteen steps for each
request that is being worked on.  Where it has ended no request and no closure is left and all
permits are free, without any failure or timeout having been needed for it. -/
theorem drains (reachable : (system limits wantsWatermark).Reachable (fun _ _ => True) state)
    (somebody : 0 < limits.downloads) :
    ∃ active : Finset Request, (∀ request ∉ active, state.work request = 0) ∧
      ∀ actions final,
        (system limits wantsWatermark).run (fun _ action => action.arrives = false) state actions =
          some final →
        actions.length ≤ 14 * active.card ∧
          ((∀ action : Action Request, action.advances = true →
            step wantsWatermark final action = none) → Quiet limits final) := by
  obtain ⟨active, resting⟩ := reachable_finite reachable
  refine ⟨active, resting, fun actions final evaluates => ?_⟩
  have kept : ∀ (before : State Request) (action : Action Request) (after : State Request),
      (Balanced limits before ∧ ∀ request ∉ active, before.work request = 0) →
      action.arrives = false → step wantsWatermark before action = some after →
      Balanced limits after ∧ ∀ request ∉ active, after.work request = 0 := by
    rintro before action after ⟨balanced, still⟩ old stepped
    refine ⟨balanced.step stepped, fun request outside => ?_⟩
    have others := (step_shrinks old stepped).others request
    exact Nat.le_zero.mp (others.trans (still request outside).le)
  have shrinks : ∀ (before : State Request) (action : Action Request) (after : State Request),
      (Balanced limits before ∧ ∀ request ∉ active, before.work request = 0) →
      action.arrives = false → step wantsWatermark before action = some after →
      ∑ request ∈ active, after.work request < ∑ request ∈ active, before.work request := by
    rintro before action after ⟨-, still⟩ old stepped
    have shrinks := step_shrinks old stepped
    apply Finset.sum_lt_sum fun other _ => shrinks.others other
    refine ⟨action.request, ?_, shrinks.own⟩
    by_contra outside
    have none_ := still action.request outside
    have own := shrinks.own
    omega
  obtain ⟨length, balanced, -⟩ := (system limits wantsWatermark).run_length_le _
    (fun state => ∑ request ∈ active, state.work request) kept shrinks actions
    ⟨reachable_balanced reachable, resting⟩ evaluates
  refine ⟨?_, quiet_of_stuck balanced somebody⟩
  have bound : ∑ request ∈ active, state.work request ≤ active.card * 14 :=
    Finset.sum_le_card_nsmul active _ 14 fun request _ =>
      work_le (reachable_balanced reachable) request
  omega

/-- Two requests queue for one download permit. -/
theorem drains_two :
    ∃ state, (system ⟨2, 1, 1⟩ fun _ : Nat => true).run (fun _ _ => True) (fresh ⟨2, 1, 1⟩)
        [.arrive 0, .arrive 1, .fetch 0, .fetch 1] = some state ∧
      state.downloads.queue = [1] ∧
      ∃ active : Finset Nat, (∀ request ∉ active, state.work request = 0) ∧
        ∀ actions final, (system ⟨2, 1, 1⟩ fun _ : Nat => true).run
            (fun _ action => action.arrives = false) state actions = some final →
          actions.length ≤ 14 * active.card ∧
            ((∀ action : Action Nat, action.advances = true →
              step (fun _ => true) final action = none) → Quiet ⟨2, 1, 1⟩ final) := by
  have evaluates : ∃ state, (system ⟨2, 1, 1⟩ fun _ : Nat => true).run (fun _ _ => True)
      (fresh ⟨2, 1, 1⟩) [.arrive 0, .arrive 1, .fetch 0, .fetch 1] = some state ∧
        state.downloads.queue = [1] := ⟨_, rfl, rfl⟩
  obtain ⟨state, run, waits⟩ := evaluates
  exact ⟨state, run, waits,
    drains (System.reachable_of_run _ _ _ (.init (fresh_initial _)) run) (by decide)⟩

end ImageResizer.LoadShedding
