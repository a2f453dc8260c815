import ImageResizer.Foundation.Transition

/-!
# A shared cache in front of an origin

A cache keeps responses that may be stored, and gives one to a later request for the same
target whose fields agree with those of the request it was stored for, as far as the response
says that it varies with them.  Which responses the origin gives is left open: each exchange
that is forwarded has a label of its own.

Nothing is said about freshness, so a stored response may be given at any time later, or be
dropped at any time.
-/

namespace SharedCache

open Transition

/-- What a cache reads of requests and responses. -/
structure Reading (Request Response Target Field Value : Type*) where
  target : Request → Target
  value : Request → Field → Value
  storable : Response → Bool
  /-- The fields that the response varies with. -/
  varies : Response → List Field

variable {Request Response Target Field Value Answer : Type*}

/-- A response stored for one request may be given to another. -/
structure Reading.Reusable (reading : Reading Request Response Target Field Value)
    (asked : Request) (response : Response) (request : Request) : Prop where
  target : reading.target request = reading.target asked
  fields : ∀ field ∈ reading.varies response,
    reading.value request field = reading.value asked field

instance [DecidableEq Target] [DecidableEq Value]
    (reading : Reading Request Response Target Field Value) (asked : Request)
    (response : Response) (request : Request) :
    Decidable (reading.Reusable asked response request) :=
  decidable_of_iff (reading.target request = reading.target asked ∧
      ∀ field ∈ reading.varies response,
        reading.value request field = reading.value asked field)
    ⟨fun same => ⟨same.1, same.2⟩, fun same => ⟨same.target, same.fields⟩⟩

/-- What is stored, and what has been delivered so far. -/
structure State (Request Response : Type*) where
  stored : List (Request × Response)
  delivered : List (Request × Response)

inductive Event (Request Response Answer : Type*) where
  /-- The origin answers, and the cache keeps the response or not. -/
  | forward (request : Request) (answer : Answer) (keep : Bool)
  /-- A stored response is given to a request. -/
  | reuse (asked : Request) (response : Response) (request : Request)
  | drop (asked : Request) (response : Response)

variable (reading : Reading Request Response Target Field Value)
variable (origin : Request → Answer → Response)

variable [DecidableEq Request] [DecidableEq Response] [DecidableEq Target] [DecidableEq Value]

/-- A cache in front of an origin. -/
def system : System (State Request Response) (Event Request Response Answer) where
  Init state := state.stored = [] ∧ state.delivered = []
  step state
    | .forward request answer keep =>
        let response := origin request answer
        some
          { stored := if keep && reading.storable response then (request, response) :: state.stored
              else state.stored
            delivered := (request, response) :: state.delivered }
    | .reuse asked response request =>
        if (asked, response) ∈ state.stored ∧ reading.Reusable asked response request then
          some { state with delivered := (request, response) :: state.delivered }
        else none
    | .drop asked response =>
        some { state with stored := state.stored.filter (· ≠ (asked, response)) }

variable {reading origin} {right : Request → Response → Prop}

/-- Where every response of the origin is right for its request, and stays so for every request
that it may be given to, whatever the cache delivers is right. -/
theorem delivered_right {permitted : State Request Response → Event Request Response Answer → Prop}
    (answered : ∀ state request answer keep, permitted state (.forward request answer keep) →
      right request (origin request answer))
    (carries : ∀ {asked response request}, right asked response →
      reading.storable response = true → reading.Reusable asked response request →
        right request response)
    {state : State Request Response} (reachable : (system reading origin).Reachable permitted state) :
    (∀ exchange ∈ state.stored,
        right exchange.1 exchange.2 ∧ reading.storable exchange.2 = true) ∧
      ∀ exchange ∈ state.delivered, right exchange.1 exchange.2 := by
  induction reachable with
  | init start =>
      obtain ⟨empty, silent⟩ := start
      rw [empty, silent]
      exact ⟨nofun, nofun⟩
  | @step before next event _ allowed stepped ih =>
      obtain ⟨kept, given⟩ := ih
      cases event with
      | forward request answer keep =>
          have fresh := answered before request answer keep allowed
          cases stepped
          refine ⟨fun exchange member => ?_, fun exchange member => ?_⟩
          · dsimp only at member
            split at member
            case isTrue storing =>
                rcases List.mem_cons.mp member with rfl | earlier
                · exact ⟨fresh, (Bool.and_eq_true_iff.mp storing).2⟩
                · exact kept exchange earlier
            case isFalse => exact kept exchange member
          · rcases List.mem_cons.mp member with rfl | earlier
            · exact fresh
            · exact given exchange earlier
      | reuse asked response request =>
          simp only [system] at stepped
          split at stepped
          case isTrue matching =>
              cases stepped
              refine ⟨kept, fun exchange member => ?_⟩
              rcases List.mem_cons.mp member with rfl | earlier
              · obtain ⟨wasRight, storable⟩ := kept _ matching.1
                exact carries wasRight storable matching.2
              · exact given exchange earlier
          case isFalse => cases stepped
      | drop asked response =>
          cases stepped
          exact ⟨fun exchange member => kept exchange (List.mem_filter.mp member).1, given⟩

end SharedCache
