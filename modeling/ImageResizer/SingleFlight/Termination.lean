import ImageResizer.SingleFlight.Once

/-!
# How long a call takes

Every step of the service is a step of one call, which brings that call closer to its end and
leaves the others where they are, or a step of the storage, which moves no call.
-/

namespace ImageResizer.SingleFlight

open Transition

variable {Caller Failure : Type}

/-- How many steps a call can still take. -/
def Phase.left : Phase Failure → Nat
  | .start => 7
  | .missed => 6
  | .working _ .download => 5
  | .working _ .transform => 4
  | .working _ .upload => 3
  | .closing _ _ => 2
  | .waiting _ | .sending _ _ => 1
  | .returned _ | .joined _ _ | .gone => 0

theorem Phase.left_le (phase : Phase Failure) : phase.left ≤ 7 := by
  cases phase with
  | working chan stage => cases stage <;> simp [left]
  | _ => simp [left]

/-- Whoever still has to send has not ended. -/
theorem Phase.left_of_sender {phase : Phase Failure} {chan : Chan}
    (sends : phase.sender? = some chan) : phase.left ≠ 0 := by
  cases phase with
  | working chan stage => cases stage <;> simp [left]
  | closing | sending => simp [left]
  | _ => cases sends

/-- The call whose step it is. -/
def Action.mover? : Action Caller Failure → Option Caller
  | .checkCache caller | .checkCacheErr caller | .lookup caller | .download caller
  | .transform caller | .upload caller | .fail caller _ | .crash caller | .removeEntry caller
  | .broadcast caller | .receive caller | .abandon caller => some caller
  | .evict _ | .appear _ => none

/-- A panic, or the drop of a future. -/
def Action.drops : Action Caller Failure → Bool
  | .crash _ | .abandon _ => true
  | _ => false

/-- A step that gives a leader something to hold. -/
def Action.supplies : Action Caller Failure → Bool
  | .download _ | .transform _ => true
  | _ => false

/-- Neither dropped nor on the way there. -/
def Phase.intact : Phase Failure → Bool
  | .closing _ none | .sending _ none | .gone => false
  | _ => true

/-- The step by which a leader comes to a stage. -/
def Stage.entry (caller : Caller) : Stage → Action Caller Failure
  | .download => .lookup caller
  | .transform => .download caller
  | .upload => .transform caller

/-- What one of its steps does to a call. -/
structure Action.Rephases (action : Action Caller Failure) (caller : Caller)
    (before after : Phase Failure) : Prop where
  shorter : after.left < before.left
  stage : ∀ stage, after.stage? = some stage → action = stage.entry caller
  intact : action.drops = false → before.intact = true → after.intact = true

/-- A step that enters no stage. -/
theorem Action.Rephases.outside {action : Action Caller Failure} {caller : Caller}
    {before after : Phase Failure} (shorter : after.left < before.left)
    (outside : after.stage? = none)
    (intact : action.drops = false → before.intact = true → after.intact = true) :
    action.Rephases caller before after := by
  refine ⟨shorter, fun stage within => ?_, intact⟩
  rw [outside] at within
  cases within

variable [DecidableEq Caller]

/-- What a step does to the calls. -/
inductive Action.Moved (action : Action Caller Failure) (before after : Caller → Phase Failure) :
    Prop where
  | nobody (mover : action.mover? = none) (calls : after = before)
  | one (caller : Caller) (phase : Phase Failure) (mover : action.mover? = some caller)
      (calls : after = Function.update before caller phase)
      (rephases : action.Rephases caller (before caller) phase)

namespace Action.Moved

variable {action : Action Caller Failure} {before after : Caller → Phase Failure}

/-- A call to which nothing happens but its own steps has at most as much left. -/
theorem left_le (moved : action.Moved before after) (caller : Caller) :
    (after caller).left ≤ (before caller).left := by
  cases moved with
  | nobody mover calls => rw [calls]
  | one mover phase isMover calls rephases =>
      rw [calls]
      by_cases same : caller = mover
      case pos =>
          rw [same, Function.update_self]
          exact rephases.shorter.le
      case neg => rw [Function.update_of_ne same]

theorem left_lt (moved : action.Moved before after) {caller : Caller}
    (mover : action.mover? = some caller) : (after caller).left < (before caller).left := by
  cases moved with
  | nobody nobody calls =>
      rw [nobody] at mover
      cases mover
  | one other phase isMover calls rephases =>
      rw [isMover] at mover
      cases mover
      rw [calls, Function.update_self]
      exact rephases.shorter

/-- Nobody else moves. -/
theorem kept (moved : action.Moved before after) {caller : Caller}
    (other : action.mover? ≠ some caller) : after caller = before caller := by
  cases moved with
  | nobody nobody calls => rw [calls]
  | one mover phase isMover calls rephases =>
      rw [calls, Function.update_of_ne]
      rintro rfl
      exact other isMover

/-- Whoever is in a stage entered it with this step or was there before, when somebody else
moved. -/
theorem entered (moved : action.Moved before after) {caller : Caller} {stage : Stage}
    (within : (after caller).stage? = some stage) :
    action = stage.entry caller ∨ action.mover? ≠ some caller ∧ before caller = after caller := by
  by_cases mine : action.mover? = some caller
  case neg => exact .inr ⟨mine, (moved.kept mine).symm⟩
  case pos =>
      cases moved with
      | nobody nobody calls =>
          rw [nobody] at mine
          cases mine
      | one other phase mover calls rephases =>
          rw [mover] at mine
          cases mine
          rw [calls, Function.update_self] at within
          exact .inl (rephases.stage stage within)

/-- What is not dropped stays intact. -/
theorem intact (moved : action.Moved before after) {caller : Caller}
    (kept : action.drops = true → action.mover? ≠ some caller)
    (intact : (before caller).intact = true) : (after caller).intact = true := by
  by_cases mine : action.mover? = some caller
  case neg => rwa [moved.kept mine]
  case pos =>
      cases moved with
      | nobody nobody calls =>
          rw [nobody] at mine
          cases mine
      | one other phase mover calls rephases =>
          rw [mover] at mine
          cases mine
          rw [calls, Function.update_self]
          refine rephases.intact (Bool.eq_false_iff.mpr fun drops => ?_) intact
          exact kept drops mover

end Action.Moved

variable [ToString Failure] (keyOf : Caller → String) (cdnUrl : String → String)

theorem step_moved {state next : State Caller Failure} {action : Action Caller Failure}
    (stepped : step keyOf cdnUrl state action = some next) :
    action.Moved state.call next.call := by
  have ends {caller : Caller} {tx : Option Chan} {own : Option (Except Failure String)}
      (sending : state.call caller = .sending tx own) :
      (Action.broadcast caller : Action Caller Failure).Rephases caller (state.call caller)
        (.afterDrop own) := by
    rw [sending]
    cases own with
    | none => exact .outside (by simp [Phase.afterDrop, Phase.left]) rfl fun _ intact => intact
    | some result => exact .outside (by simp [Phase.afterDrop, Phase.left]) rfl fun _ _ => rfl
  have abandons {caller : Caller}
      (unfinished : Phase.left (.gone : Phase Failure) < (state.call caller).left) :
      (Action.abandon caller : Action Caller Failure).Moved state.call
        (Function.update state.call caller .gone) :=
    .one caller .gone rfl rfl (.outside unfinished rfl fun kept => by cases kept)
  cases step_occurs stepped with
  | hit start _ =>
      exact .one _ _ rfl rfl (.outside (by simp [start, Phase.left]) rfl fun _ _ => rfl)
  | miss start _ =>
      exact .one _ _ rfl rfl (.outside (by simp [start, Phase.left]) rfl fun _ _ => rfl)
  | missErr start =>
      exact .one _ _ rfl rfl (.outside (by simp [start, Phase.left]) rfl fun _ _ => rfl)
  | subscribe missed _ =>
      exact .one _ _ rfl rfl (.outside (by simp [missed, Phase.left]) rfl fun _ _ => rfl)
  | lead missed _ =>
      refine .one _ _ rfl rfl ⟨by simp [missed, Phase.left], ?_, fun _ _ => rfl⟩
      rintro stage ⟨⟩
      rfl
  | download working =>
      refine .one _ _ rfl rfl ⟨by simp [working, Phase.left], ?_, fun _ _ => rfl⟩
      rintro stage ⟨⟩
      rfl
  | transform working =>
      refine .one _ _ rfl rfl ⟨by simp [working, Phase.left], ?_, fun _ _ => rfl⟩
      rintro stage ⟨⟩
      rfl
  | upload working =>
      exact .one _ _ rfl rfl (.outside (by simp [working, Phase.left]) rfl fun _ _ => rfl)
  | @fail _ _ _ stage working =>
      refine .one _ _ rfl rfl (.outside ?_ rfl fun _ _ => rfl)
      rw [working]
      cases stage <;> simp [Phase.left]
  | @crash _ _ stage working =>
      refine .one _ _ rfl rfl (.outside ?_ rfl fun kept => by cases kept)
      rw [working]
      cases stage <;> simp [Phase.left]
  | @remove _ _ own closing =>
      refine .one _ _ rfl rfl (.outside (by simp [closing, Phase.left]) rfl fun _ intact => ?_)
      rw [closing] at intact
      cases own <;> [cases intact; rfl]
  | send sending => exact .one _ _ rfl rfl (ends sending)
  | lost sending => exact .one _ _ rfl rfl (ends sending)
  | joinMessage waiting _ =>
      exact .one _ _ rfl rfl (.outside (by simp [waiting, Phase.left]) rfl fun _ _ => rfl)
  | joinClosed waiting _ _ =>
      exact .one _ _ rfl rfl (.outside (by simp [waiting, Phase.left]) rfl fun _ _ => rfl)
  | abandon early =>
      rcases early with start | missed
      · exact abandons (by simp [start, Phase.left])
      · exact abandons (by simp [missed, Phase.left])
  | leave waiting => exact abandons (by simp [waiting, Phase.left])
  | evict key => exact .nobody rfl rfl
  | appear key => exact .nobody rfl rfl

end ImageResizer.SingleFlight
