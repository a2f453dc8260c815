import ImageResizer.ResizeService.Transparency
import ImageResizer.SingleFlight.Termination

/-!
# Every call ends

Coalescing makes calls wait for each other.  It never makes one wait in vain: whoever is not
done can take a step, or follows a leader that can, and no call takes more than seven steps.
-/

namespace ImageResizer.ResizeService

open SingleFlight (Phase)
open Transition

variable {Content Caller : Type}
variable {setup : Setup Content Caller} {state next : State Caller}
variable {action : Action setup.urls Caller}

/-- The call whose step it is. -/
def Action.mover? {urls : SourceGuard.UrlLibrary} : Action urls Caller → Option Caller
  | .checkCache caller | .checkCacheErr caller | .lookup caller | .download caller _
  | .process caller _ _ | .upload caller | .uploadFailed caller _ _ | .crash caller _
  | .removeEntry caller | .broadcast caller | .receive caller | .abandon caller => some caller
  | .evict _ | .appear _ _ => none

/-- A panic, or the drop of a future. -/
def Action.drops {urls : SourceGuard.UrlLibrary} : Action urls Caller → Bool
  | .crash _ _ | .abandon _ => true
  | _ => false

/-- A step by which a call proceeds: it is given its permit and nothing of the service fails.
What it asks of the network is answered by `network`, however that is. -/
def Action.Proceeds {urls : SourceGuard.UrlLibrary} (network : Network urls) :
    Action urls Caller → Prop
  | .download _ answering => answering = network
  | .process _ answering admitted => answering = network ∧ admitted = true
  | .checkCache _ | .lookup _ | .upload _ | .removeEntry _ | .broadcast _ | .receive _ => True
  | .checkCacheErr _ | .uploadFailed _ _ _ | .crash _ _ | .abandon _ | .evict _ | .appear _ _ =>
      False

/-! ## What the leaders hold -/

theorem putIf_call (landed : Bool) (key : String) (object : Object) :
    (state.putIf landed key object).call = state.call := by
  cases landed <;> rfl

theorem putIf_held (landed : Bool) (key : String) (object : Object) :
    (state.putIf landed key object).held = state.held := by
  cases landed <;> rfl

/-- What a stage works on. -/
def Holding.Supplies (holding : Holding) : SingleFlight.Stage → Prop
  | .download => True
  | .transform => ∃ bytes, holding = .source bytes
  | .upload => ∃ object, holding = .processed object

/-- Every leader holds what its stage works on. -/
def Supplied (state : State Caller) : Prop :=
  ∀ caller stage, (state.call caller).stage? = some stage → (state.held caller).Supplies stage

theorem Supplied.initial (start : Initial state) : Supplied state := by
  intro caller stage within
  have idle : state.call caller = .start := start.protocol.1 caller
  rw [idle] at within
  cases within

variable [DecidableEq Caller]

/-- What a step does to the calls and to what the leaders hold. -/
inductive Carries (state next : State Caller) (action : Action setup.urls Caller) : Prop where
  | nothing (move : SingleFlight.Action Caller Failure) (moved : move.Moved state.call next.call)
      (mover : move.mover? = action.mover?) (drops : move.drops = action.drops)
      (held : next.held = state.held)
      (still : move.supplies = false)
  | source (caller : Caller) (bytes : List UInt8)
      (moved : (SingleFlight.Action.download caller).Moved state.call next.call)
      (mover : action.mover? = some caller)
      (held : next.held = Function.update state.held caller (.source bytes))
  | processed (caller : Caller) (object : Object)
      (moved : (SingleFlight.Action.transform caller).Moved state.call next.call)
      (mover : action.mover? = some caller)
      (held : next.held = Function.update state.held caller (.processed object))

theorem advance_moved {move : SingleFlight.Action Caller Failure}
    (advanced : setup.advance state move = some next) :
    move.Moved state.call next.call ∧ next.held = state.held := by
  obtain ⟨protocol, stepped, rfl⟩ := Option.map_eq_some_iff.mp advanced
  exact ⟨SingleFlight.step_moved _ _ stepped, rfl⟩

theorem advance_carries {move : SingleFlight.Action Caller Failure}
    (advanced : setup.advance state move = some next) (mover : move.mover? = action.mover?)
    (drops : move.drops = action.drops) (still : move.supplies = false) :
    Carries state next action := by
  obtain ⟨moved, held⟩ := advance_moved advanced
  exact .nothing move moved mover drops held still

theorem step_carries (stepped : setup.step state action = some next) :
    Carries state next action := by
  have landing {move : SingleFlight.Action Caller Failure} {caller : Caller} {object : Object}
      {arrived : Bool}
      (landed : (setup.advance state move).map
        (·.putIf arrived (setup.keyOf caller) object) = some next)
      (mover : move.mover? = action.mover?) (drops : move.drops = action.drops)
      (still : move.supplies = false) :
      Carries state next action := by
    obtain ⟨followed, advanced, rfl⟩ := Option.map_eq_some_iff.mp landed
    obtain ⟨moved, held⟩ := advance_moved advanced
    refine .nothing move ?_ mover drops ?_ still
    · rwa [putIf_call]
    · rwa [putIf_held]
  cases action with
  | checkCache caller | checkCacheErr caller | lookup caller | removeEntry caller
  | broadcast caller | receive caller | abandon caller =>
      exact advance_carries stepped rfl rfl rfl
  | evict key | appear key object =>
      cases stepped
      exact .nothing (.evict key) (.nobody rfl rfl) rfl rfl rfl rfl
  | download caller network =>
      simp only [Setup.step] at stepped
      split at stepped
      case h_1 bytes ok =>
          obtain ⟨followed, advanced, rfl⟩ := Option.map_eq_some_iff.mp stepped
          obtain ⟨moved, held⟩ := advance_moved advanced
          exact .source caller bytes moved rfl (by rw [← held]; rfl)
      case h_2 =>
          split at stepped
          case h_1 => exact advance_carries stepped rfl rfl rfl
          case h_2 => cases stepped
  | process caller network admitted =>
      simp only [Setup.step] at stepped
      split at stepped
      case h_1 bytes source =>
          split at stepped
          case h_1 object ok =>
              obtain ⟨followed, advanced, rfl⟩ := Option.map_eq_some_iff.mp stepped
              obtain ⟨moved, held⟩ := advance_moved advanced
              exact .processed caller object moved rfl (by rw [← held]; rfl)
          case h_2 =>
              split at stepped
              case h_1 => exact advance_carries stepped rfl rfl rfl
              case h_2 => cases stepped
      case h_2 => cases stepped
  | upload caller =>
      simp only [Setup.step] at stepped
      split at stepped
      case h_1 object made =>
          exact @landing (.upload caller) caller object true stepped rfl rfl rfl
      case h_2 => cases stepped
  | uploadFailed caller failure landed =>
      simp only [Setup.step] at stepped
      split at stepped
      case h_1 made => exact landing stepped rfl rfl rfl
      case h_2 => cases stepped
  | crash caller landed =>
      simp only [Setup.step] at stepped
      split at stepped
      case h_1 made => exact landing stepped rfl rfl rfl
      case h_2 => exact advance_carries stepped rfl rfl rfl

theorem Supplied.step (supplied : Supplied state) (stepped : setup.step state action = some next) :
    Supplied next := by
  intro caller stage within
  cases step_carries stepped with
  | nothing move moved mover drops held still =>
      rw [held]
      rcases moved.entered within with entry | ⟨-, same⟩
      case inl =>
          cases stage with
          | download => trivial
          | transform | upload =>
              subst entry
              cases still
      case inr => exact supplied caller stage (same ▸ within)
  | source mover bytes moved isMover held =>
      rw [held]
      rcases moved.entered within with entry | ⟨other, same⟩
      case inl =>
          cases stage <;> cases entry
          exact ⟨bytes, Function.update_self ..⟩
      case inr =>
          rw [Function.update_of_ne (fun own => other (congrArg some own.symm))]
          exact supplied caller stage (same ▸ within)
  | processed mover object moved isMover held =>
      rw [held]
      rcases moved.entered within with entry | ⟨other, same⟩
      case inl =>
          cases stage <;> cases entry
          exact ⟨object, Function.update_self ..⟩
      case inr =>
          rw [Function.update_of_ne (fun own => other (congrArg some own.symm))]
          exact supplied caller stage (same ▸ within)

theorem reachable_supplied {permitted : State Caller → Action setup.urls Caller → Prop}
    (reachable : (system setup).Reachable permitted state) : Supplied state := by
  induction reachable with
  | init start => exact Supplied.initial start
  | step _ _ stepped ih => exact ih.step stepped

/-! ## What a call waits for -/

/-- A step by which this call proceeds is enabled. -/
def CanProceed (setup : Setup Content Caller) (network : Network setup.urls)
    (state : State Caller) (caller : Caller) : Prop :=
  ∃ action : Action setup.urls Caller, action.Proceeds network ∧ action.mover? = some caller ∧
    (setup.step state action).isSome

theorem advance_isSome {move : SingleFlight.Action Caller Failure} {state : State Caller}
    (enabled : (SingleFlight.step setup.keyOf setup.cdnUrl state.view move).isSome) :
    (setup.advance state move).isSome := by
  rwa [Setup.advance, Option.isSome_map]

/-- A leader has nobody to wait for, nor has a call that is not in the registry yet. -/
theorem canProceed_of_unwaiting (supplied : Supplied state) (network : Network setup.urls)
    {caller : Caller} (unfinished : (state.call caller).left ≠ 0)
    (unwaiting : ∀ chan, state.call caller ≠ .waiting chan) :
    CanProceed setup network state caller := by
  have seen : state.view.call caller = state.call caller := rfl
  cases phase : state.call caller with
  | start =>
      refine ⟨.checkCache caller, trivial, rfl, advance_isSome ?_⟩
      simp [SingleFlight.step, seen, phase]
  | missed =>
      refine ⟨.lookup caller, trivial, rfl, advance_isSome ?_⟩
      simp only [SingleFlight.step, seen, phase]
      split <;> rfl
  | waiting chan => exact absurd phase (unwaiting chan)
  | working chan stage =>
      cases stage with
      | download =>
          refine ⟨.download caller network, rfl, rfl, ?_⟩
          simp only [Setup.step, phase]
          split
          case h_1 =>
              rw [Option.isSome_map]
              exact advance_isSome (by simp [SingleFlight.step, seen, phase])
          case h_2 => exact advance_isSome (by simp [SingleFlight.step, seen, phase])
      | transform =>
          obtain ⟨bytes, source⟩ := supplied caller .transform (by rw [phase]; rfl)
          refine ⟨.process caller network true, ⟨rfl, rfl⟩, rfl, ?_⟩
          simp only [Setup.step, phase, source]
          split
          case h_1 =>
              rw [Option.isSome_map]
              exact advance_isSome (by simp [SingleFlight.step, seen, phase])
          case h_2 => exact advance_isSome (by simp [SingleFlight.step, seen, phase])
      | upload =>
          obtain ⟨object, made⟩ := supplied caller .upload (by rw [phase]; rfl)
          refine ⟨.upload caller, trivial, rfl, ?_⟩
          simp only [Setup.step, made, Option.isSome_map]
          exact advance_isSome (by simp [SingleFlight.step, seen, phase])
  | closing chan own =>
      refine ⟨.removeEntry caller, trivial, rfl, advance_isSome ?_⟩
      simp [SingleFlight.step, seen, phase]
  | sending tx own =>
      refine ⟨.broadcast caller, trivial, rfl, advance_isSome ?_⟩
      cases tx <;> simp [SingleFlight.step, seen, phase]
  | returned _ | joined _ _ | gone => exact absurd (by rw [phase]; rfl) unfinished

/-- Whoever cannot proceed itself follows a leader that can. -/
theorem canProceed_or_leader {permitted : State Caller → Action setup.urls Caller → Prop}
    (reachable : (system setup).Reachable permitted state) (network : Network setup.urls)
    {caller : Caller} (unfinished : (state.call caller).left ≠ 0) :
    CanProceed setup network state caller ∨
      ∃ chan, state.call caller = .waiting chan ∧
        (state.call (state.channels chan).leader).sender? = some chan ∧
        CanProceed setup network state (state.channels chan).leader := by
  have supplied := reachable_supplied reachable
  by_cases waiting : ∃ chan, state.call caller = .waiting chan
  case neg =>
      rw [not_exists] at waiting
      exact .inl (canProceed_of_unwaiting supplied network unfinished waiting)
  case pos =>
      obtain ⟨chan, waiting⟩ := waiting
      have inv := SingleFlight.reachable_inv setup.keyOf setup.cdnUrl
        (refines_singleFlight reachable)
      obtain ⟨created, -, listens⟩ := inv.waiting_receiver waiting
      have seen : state.view.call caller = state.call caller := rfl
      cases alive : (state.channels chan).senderAlive with
      | true =>
          have sends : (state.call (state.channels chan).leader).sender? = some chan :=
            (inv.alive_sender created alive).1
          refine .inr ⟨chan, waiting, sends, ?_⟩
          refine canProceed_of_unwaiting supplied network (Phase.left_of_sender sends) ?_
          intro other waits
          rw [waits] at sends
          cases sends
      | false =>
          refine .inl ⟨.receive caller, trivial, rfl, advance_isSome ?_⟩
          obtain ⟨result, message⟩ := Option.isSome_iff_exists.mp
            ((inv.closed_message created alive).2 ⟨caller, listens⟩)
          have told : (state.view.channels chan).message = some result := message
          simp [SingleFlight.step, seen, waiting, told]

/-! ## The end of every call -/

/-- Underneath each step is one of the protocol, by the same call. -/
theorem step_follows (stepped : setup.step state action = some next) :
    ∃ move : SingleFlight.Action Caller Failure, move.Moved state.call next.call ∧
      move.mover? = action.mover? ∧ (move.drops = true → action.drops = true) := by
  cases step_carries stepped with
  | nothing move moved mover drops => exact ⟨move, moved, mover, drops ▸ id⟩
  | source caller bytes moved mover =>
      exact ⟨_, moved, mover.symm, fun dropped => by cases dropped⟩
  | processed caller object moved mover =>
      exact ⟨_, moved, mover.symm, fun dropped => by cases dropped⟩

theorem step_left (stepped : setup.step state action = some next) (caller : Caller) :
    (next.call caller).left ≤ (state.call caller).left ∧
      (action.mover? = some caller → (next.call caller).left < (state.call caller).left) := by
  obtain ⟨move, moved, mover, -⟩ := step_follows stepped
  exact ⟨moved.left_le caller, fun mine => moved.left_lt (mover.trans mine)⟩

/-- A call that has ended stays as it is. -/
theorem kept_of_left (stepped : setup.step state action = some next) {caller : Caller}
    (ended : (state.call caller).left = 0) : next.call caller = state.call caller := by
  obtain ⟨move, moved, -, -⟩ := step_follows stepped
  refine moved.kept fun mine => ?_
  have shorter := moved.left_lt mine
  omega

/-- **Every call ends.**  In any run, a call takes at most seven steps of its own, whatever the
others do; and as long as it has not ended it can proceed, or it follows a leader that can: to
an answer of the network, whichever it is, with a permit, and without any failure, crash or
timeout being needed for it. -/
theorem calls_end {permitted : State Caller → Action setup.urls Caller → Prop}
    (reachable : (system setup).Reachable permitted state) (caller : Caller) :
    (∀ actions final, (system setup).run (fun _ _ => True) state actions = some final →
      actions.countP (·.mover? = some caller) + (final.call caller).left ≤ 7) ∧
      ((state.call caller).left ≠ 0 → ∀ network,
        CanProceed setup network state caller ∨
          ∃ chan, state.call caller = .waiting chan ∧
            (state.call (state.channels chan).leader).sender? = some chan ∧
            CanProceed setup network state (state.channels chan).leader) := by
  refine ⟨fun actions final run => ?_, fun unfinished network =>
    canProceed_or_leader reachable network unfinished⟩
  have counted := (system setup).run_countP_le _ (fun action => action.mover? = some caller)
    (fun state => (state.call caller).left) (fun _ => True) (fun _ _ _ _ _ _ => trivial)
    (fun before action after _ _ stepped => ⟨(step_left stepped caller).1, fun mine =>
      (step_left stepped caller).2 (of_decide_eq_true mine)⟩) actions trivial run
  exact counted.1.trans (state.call caller).left_le

/-- A second call waits for the first. -/
theorem calls_end_photo :
    ∃ state, (system photoSetup).run (fun _ _ => True) fresh (photoScript.take 4) = some state ∧
      state.call false = .waiting 0 ∧
      (∀ actions final, (system photoSetup).run (fun _ _ => True) state actions = some final →
        actions.countP (·.mover? = some false) + (final.call false).left ≤ 7) ∧
      ((state.call false).left ≠ 0 → ∀ network,
        CanProceed photoSetup network state false ∨
          ∃ chan, state.call false = .waiting chan ∧
            (state.call (state.channels chan).leader).sender? = some chan ∧
            CanProceed photoSetup network state (state.channels chan).leader) := by
  have evaluates : ∃ state, (system photoSetup).run (fun _ _ => True) fresh
      (photoScript.take 4) = some state ∧ state.call false = .waiting 0 := ⟨_, rfl, rfl⟩
  obtain ⟨state, run, waits⟩ := evaluates
  exact ⟨state, run, waits,
    calls_end (System.reachable_of_run _ _ _ (.init fresh_initial) run) false⟩

end ImageResizer.ResizeService
