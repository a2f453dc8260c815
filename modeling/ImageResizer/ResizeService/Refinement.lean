import ImageResizer.ResizeService

/-!
# The service refines the protocol

What one step of the resize service does to its data, and that the coalescing protocol takes
the same steps: so what is known of leaders and followers there holds of the service.
-/

namespace ImageResizer.SingleFlight

variable {Caller Failure : Type}

theorem afterDrop_outcome (own : Option (Except Failure String)) :
    (Phase.afterDrop own).outcome = own := by
  cases own <;> rfl

variable [DecidableEq Caller]

theorem outcome_update {call : Caller → Phase Failure} {caller moved : Caller}
    {phase : Phase Failure} {result : Except Failure String}
    (after : (Function.update call moved phase caller).outcome = some result) :
    caller = moved ∧ phase.outcome = some result ∨ (call caller).outcome = some result := by
  by_cases same : caller = moved
  case pos =>
      subst same
      rw [Function.update_self] at after
      exact .inl ⟨rfl, after⟩
  case neg =>
      rw [Function.update_of_ne same] at after
      exact .inr after

/-- A step that records no outcome. -/
theorem outcome_of_silent {call : Caller → Phase Failure} {caller moved : Caller}
    {phase : Phase Failure} {url : String} (silent : phase.outcome ≠ some (.ok url))
    (after : (Function.update call moved phase caller).outcome = some (.ok url)) :
    (call caller).outcome = some (.ok url) :=
  (outcome_update after).resolve_left fun moved => silent moved.2

/-- A step that hands an outcome on. -/
theorem outcome_of_kept {call : Caller → Phase Failure} {caller moved : Caller}
    {phase : Phase Failure} {url : String} (kept : phase.outcome = (call moved).outcome)
    (after : (Function.update call moved phase caller).outcome = some (.ok url)) :
    (call caller).outcome = some (.ok url) := by
  rcases outcome_update after with ⟨rfl, recorded⟩ | before
  · exact kept ▸ recorded
  · exact before

variable [ToString Failure]
variable {keyOf : Caller → String} {cdnUrl : String → String}

/-- The steps that write to the storage. -/
def Action.writes : Action Caller Failure → Bool
  | .upload _ | .evict _ | .appear _ => true
  | _ => false

theorem stored_of_step {state next : State Caller Failure} {action : Action Caller Failure}
    (reads : action.writes = false) (stepped : step keyOf cdnUrl state action = some next) :
    next.stored = state.stored := by
  cases step_occurs stepped with
  | upload | evict | appear => cases reads
  | _ => rfl

/-- A call succeeds on a hit, with its own upload, or by what was recorded before. -/
theorem outcome_of_step {state next : State Caller Failure} {action : Action Caller Failure}
    (stepped : step keyOf cdnUrl state action = some next) {caller : Caller} {url : String}
    (after : (next.call caller).outcome = some (.ok url)) :
    (state.call caller).outcome = some (.ok url) ∨
      url = cdnUrl (keyOf caller) ∧ (state.stored (keyOf caller) ∨ action = .upload caller) := by
  cases step_occurs stepped with
  | evict | appear => exact .inl after
  | hit _ stored =>
      rcases outcome_update after with ⟨rfl, recorded⟩ | before
      · cases recorded
        exact .inr ⟨rfl, .inl stored⟩
      · exact .inl before
  | upload _ =>
      rcases outcome_update after with ⟨rfl, recorded⟩ | before
      · cases recorded
        exact .inr ⟨rfl, .inr rfl⟩
      · exact .inl before
  | remove closing => exact .inl (outcome_of_kept (by rw [closing]; rfl) after)
  | send sending | lost sending =>
      exact .inl (outcome_of_kept (by rw [afterDrop_outcome, sending]; rfl) after)
  | miss | missErr | subscribe | lead | download | transform | fail | crash | joinMessage
  | joinClosed | abandon | leave =>
      exact .inl (outcome_of_silent (by simp [Phase.outcome]) after)

end ImageResizer.SingleFlight

namespace ImageResizer.ResizeService

open SingleFlight (Phase)
open SourceGuard (UrlLibrary)
open Transition

variable {Content Caller : Type}

theorem put_stored (state : State Caller) (key : String) (object : Object) :
    (state.put key object).view =
      { state.view with stored := Function.update state.view.stored key true } := by
  have stored : (state.put key object).view.stored =
      Function.update state.view.stored key true := by
    funext other
    by_cases same : other = key
    case pos =>
        subst same
        simp [State.view]
    case neg => simp [State.view, State.put_of_ne same, same]
  rw [← stored]
  rfl

theorem remove_stored (state : State Caller) (key : String) :
    (state.remove key).view =
      { state.view with stored := Function.update state.view.stored key false } := by
  have stored : (state.remove key).view.stored =
      Function.update state.view.stored key false := by
    funext other
    by_cases same : other = key
    case pos =>
        subst same
        simp [State.view]
    case neg => simp [State.view, State.remove_of_ne same, same]
  rw [← stored]
  rfl

variable [DecidableEq Caller] {setup : Setup Content Caller}
variable {state next : State Caller} {action : Action setup.urls Caller}

/-! ## What a step can do -/

section Moves

variable (setup)

/-- A step of the protocol that writes nothing, as the service follows it. -/
structure Follows (state next : State Caller)
    (move : SingleFlight.Action Caller Failure) : Prop where
  reads : move.writes = false
  stepped : SingleFlight.step setup.keyOf setup.cdnUrl state.view move = some next.view
  objects : next.objects = state.objects
  evicted : next.evicted = state.evicted
  held : next.held = state.held

/-- What one step does to the data. -/
inductive Moves (state : State Caller) : Action setup.urls Caller → State Caller → Prop where
  | coordinated {action : Action setup.urls Caller} {next : State Caller}
      {move : SingleFlight.Action Caller Failure} (follows : Follows setup state next move) :
      Moves state action next
  | downloaded {caller : Caller} {network : Network setup.urls} {next : State Caller}
      {bytes : List UInt8} (follows : Follows setup state next (.download caller))
      (ok : (Fetch.downloadImage setup.urls setup.config network setup.statusText
        (setup.query caller).url).result = .ok bytes) :
      Moves state (.download caller network) (next.hold caller (.source bytes))
  | processed {caller : Caller} {network : Network setup.urls} {admitted : Bool}
      {next : State Caller} {bytes : List UInt8} {object : Object}
      (follows : Follows setup state next (.transform caller))
      (source : state.held caller = .source bytes)
      (ok : setup.processImage network admitted (setup.query caller) bytes = .ok object) :
      Moves state (.process caller network admitted) (next.hold caller (.processed object))
  | uploaded {caller : Caller} {protocol : SingleFlight.State Caller Failure} {object : Object}
      (stepped : SingleFlight.step setup.keyOf setup.cdnUrl state.view (.upload caller) =
        some protocol)
      (made : state.held caller = .processed object) :
      Moves state (.upload caller) ((state.follow protocol).put (setup.keyOf caller) object)
  /-- An upload that its leader does not see complete. -/
  | landed {action : Action setup.urls Caller} {caller : Caller} {next : State Caller}
      {move : SingleFlight.Action Caller Failure} {object : Object}
      (follows : Follows setup state next move) (made : state.held caller = .processed object) :
      Moves state action (next.put (setup.keyOf caller) object)
  | removed (key : String) : Moves state (.evict key) (state.remove key)
  | appeared (key : String) (object : Object) :
      Moves state (.appear key object) (state.put key object)

end Moves

theorem advance_follows {move : SingleFlight.Action Caller Failure} (reads : move.writes = false)
    (advanced : setup.advance state move = some next) : Follows setup state next move := by
  obtain ⟨protocol, stepped, rfl⟩ := Option.map_eq_some_iff.mp advanced
  refine ⟨reads, ?_, rfl, rfl, rfl⟩
  have stored := SingleFlight.stored_of_step reads stepped
  have view : (state.follow protocol).view = protocol := by
    change SingleFlight.State.mk protocol.toRegistry state.view.stored protocol.downloads
      protocol.transforms protocol.uploads = protocol
    rw [← stored]
  rw [stepped, view]

theorem step_moves (stepped : setup.step state action = some next) :
    Moves setup state action next := by
  cases action with
  | checkCache caller => exact .coordinated (advance_follows rfl stepped)
  | checkCacheErr caller => exact .coordinated (advance_follows rfl stepped)
  | lookup caller => exact .coordinated (advance_follows rfl stepped)
  | removeEntry caller => exact .coordinated (advance_follows rfl stepped)
  | broadcast caller => exact .coordinated (advance_follows rfl stepped)
  | receive caller => exact .coordinated (advance_follows rfl stepped)
  | abandon caller => exact .coordinated (advance_follows rfl stepped)
  | evict key =>
      cases stepped
      exact .removed key
  | appear key object =>
      cases stepped
      exact .appeared key object
  | download caller network =>
      simp only [Setup.step] at stepped
      split at stepped
      case h_1 bytes ok =>
          obtain ⟨followed, advanced, rfl⟩ := Option.map_eq_some_iff.mp stepped
          exact .downloaded (advance_follows rfl advanced) ok
      case h_2 =>
          split at stepped
          case h_1 => exact .coordinated (advance_follows rfl stepped)
          case h_2 => cases stepped
  | process caller network admitted =>
      simp only [Setup.step] at stepped
      split at stepped
      case h_1 bytes source =>
          split at stepped
          case h_1 object ok =>
              obtain ⟨followed, advanced, rfl⟩ := Option.map_eq_some_iff.mp stepped
              exact .processed (advance_follows rfl advanced) source ok
          case h_2 =>
              split at stepped
              case h_1 => exact .coordinated (advance_follows rfl stepped)
              case h_2 => cases stepped
      case h_2 => cases stepped
  | upload caller =>
      simp only [Setup.step] at stepped
      split at stepped
      case h_1 object made =>
          obtain ⟨followed, advanced, rfl⟩ := Option.map_eq_some_iff.mp stepped
          obtain ⟨protocol, matched, rfl⟩ := Option.map_eq_some_iff.mp advanced
          exact .uploaded matched made
      case h_2 => cases stepped
  | uploadFailed caller failure landed =>
      simp only [Setup.step] at stepped
      split at stepped
      case h_1 made =>
          obtain ⟨followed, advanced, rfl⟩ := Option.map_eq_some_iff.mp stepped
          cases landed with
          | true => exact .landed (advance_follows rfl advanced) made
          | false => exact .coordinated (advance_follows rfl advanced)
      case h_2 => cases stepped
  | crash caller landed =>
      simp only [Setup.step] at stepped
      split at stepped
      case h_1 made =>
          obtain ⟨followed, advanced, rfl⟩ := Option.map_eq_some_iff.mp stepped
          cases landed with
          | true => exact .landed (advance_follows rfl advanced) made
          | false => exact .coordinated (advance_follows rfl advanced)
      case h_2 => exact .coordinated (advance_follows rfl stepped)

/-! ## The protocol underneath -/

/-- The protocol takes one step for each of the service, and two where an upload lands that its
leader has given up. -/
theorem moves_simulated (moves : Moves setup state action next) :
    ∃ actions, (SingleFlight.service setup.keyOf setup.cdnUrl).run (fun _ _ => True) state.view
      actions = some next.view := by
  have single {move : SingleFlight.Action Caller Failure} {after : State Caller}
      (stepped : SingleFlight.step setup.keyOf setup.cdnUrl state.view move = some after.view) :
      (SingleFlight.service setup.keyOf setup.cdnUrl).run (fun _ _ => True) state.view [move] =
        some after.view := by
    simp only [System.run, if_true]
    exact Option.bind_eq_some_iff.mpr ⟨_, stepped, rfl⟩
  cases moves with
  | coordinated follows => exact ⟨_, single follows.stepped⟩
  | downloaded follows _ => exact ⟨_, single follows.stepped⟩
  | processed follows _ _ => exact ⟨_, single follows.stepped⟩
  | removed key =>
      refine ⟨[.evict key], single ?_⟩
      rw [remove_stored]
      rfl
  | appeared key object =>
      refine ⟨[.appear key], single ?_⟩
      rw [put_stored]
      rfl
  | @uploaded caller protocol object stepped _ =>
      refine ⟨[.upload caller], single ?_⟩
      cases SingleFlight.step_occurs stepped with
      | upload _ =>
          rw [stepped, put_stored]
          rfl
  | @landed _ caller after move object follows _ =>
      refine ⟨[move, .appear (setup.keyOf caller)], ?_⟩
      simp only [System.run, if_true]
      refine Option.bind_eq_some_iff.mpr ⟨_, follows.stepped, ?_⟩
      rw [put_stored]
      rfl

/-- The service refines the coalescing protocol, whatever its downloads, its uploads and the
other writers do. -/
theorem refines_singleFlight {permitted : State Caller → Action setup.urls Caller → Prop}
    (reachable : (system setup).Reachable permitted state) :
    (SingleFlight.service setup.keyOf setup.cdnUrl).Reachable (fun _ _ => True) state.view :=
  System.Reachable.simulated State.view (fun _ start => Initial.protocol start)
    (fun _ _ _ _ stepped => moves_simulated (step_moves stepped)) reachable

end ImageResizer.ResizeService
