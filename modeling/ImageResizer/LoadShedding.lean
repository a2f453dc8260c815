import ImageResizer.Foundation.Permits
import ImageResizer.Foundation.Transition

/-!
# Load shedding

Three semaphores limit what the service does at once.  `saturation_and_timeout_middleware`
(`modules/router/middlewares.rs`) admits a request or answers it `503`; `download_image`
(`services/image/handler.rs`) waits in turn for a download permit; `process_image` takes a
processing permit or fails, and moves it into the closure it gives to the blocking pool.

Every point at which another task can observe a semaphore is a step, so that a run is one
interleaving of any number of requests.  A request whose time is up, or whose client is
gone, is dropped at any `.await`.  Its closure stays with the pool, and with it the permit.
The semaphore that is waited for is `Permits.Fair`, as `tokio` documents its own to be.
-/

namespace ImageResizer.LoadShedding

open Transition Permits

/-- `max_concurrent_requests`, `max_concurrent_downloads` and `max_concurrent_processing`. -/
structure Limits where
  requests : Nat
  downloads : Nat
  processing : Nat

/-- What a download is for. -/
inductive Fetch where
  | image
  | watermark
  deriving DecidableEq

/-- How a request has ended. -/
inductive Answer where
  /-- `503`: the service is at capacity. -/
  | atCapacity
  /-- `503`: the request exceeded the configured timeout. -/
  | timedOut
  /-- The resize failed for want of a processing permit. -/
  | noProcessingPermit
  /-- Whatever else the handlers answered. -/
  | served
  /-- Nobody is left to be answered. -/
  | disconnected
  deriving DecidableEq

/-- Where the future inside the middleware stands. -/
inductive Stage where
  /-- In the handlers, before a miss is worked on. -/
  | serving
  /-- In `download_semaphore.acquire().await`. -/
  | queued (fetch : Fetch)
  /-- In `download_image`, with a permit. -/
  | downloading (fetch : Fetch)
  /-- A download is complete, and its permit is back. -/
  | fetched (fetch : Fetch)
  /-- In `rx.await`. -/
  | awaiting
  /-- The closure has answered; what it made is uploaded next. -/
  | storing
  /-- The inner future is gone; the middleware is left. -/
  | finishing (answer : Answer)
  deriving DecidableEq

inductive Phase where
  | idle
  /-- Admitted by the middleware, with its permit. -/
  | inside (stage : Stage)
  | answered (answer : Answer)
  deriving DecidableEq

/-- Where the closure of a request stands. -/
inductive Job where
  | unsubmitted
  /-- In the queue of the blocking pool. -/
  | queued
  | running
  /-- The result is sent; the permit is not yet dropped. -/
  | sent
  /-- Left without a result: the permit is dropped, the sender is not yet. -/
  | unwinding
  | ended
  deriving DecidableEq

structure State (Request : Type) where
  freeRequests : Nat
  downloads : Fair Request
  freeProcessing : Nat
  call : Request → Phase
  job : Request → Job

inductive Action (Request : Type) where
  /-- The middleware sees the request. -/
  | arrive (request : Request)
  /-- A download is started, of the source for a miss and then of its watermark. -/
  | fetch (request : Request)
  | received (request : Request)
  /-- A download fails, and with it the request. -/
  | failed (request : Request)
  /-- `processing_semaphore.try_acquire_owned()` and `spawn_blocking`. -/
  | submit (request : Request)
  /-- The pool gets to the closure, which looks at `tx.is_closed()`. -/
  | start (request : Request)
  | send (request : Request)
  | dropPermit (request : Request)
  /-- The closure panics, or is discarded by a pool that shuts down. -/
  | unwind (request : Request)
  | dropSender (request : Request)
  /-- The handlers answer. -/
  | respond (request : Request)
  /-- The inner future is dropped. -/
  | abandon (request : Request) (timedOut : Bool)
  /-- The middleware returns, and drops its permit. -/
  | conclude (request : Request)
  deriving DecidableEq

variable {Request : Type} [DecidableEq Request]

namespace State

variable (state : State Request) (request : Request)

def setCall (phase : Phase) : State Request :=
  { state with call := Function.update state.call request phase }

def setJob (job : Job) : State Request :=
  { state with job := Function.update state.job request job }

/-- `download_semaphore.acquire()`. -/
def acquireDownload (fetch : Fetch) : State Request :=
  match state.downloads.acquire request with
  | (true, downloads) =>
      { state.setCall request (.inside (.downloading fetch)) with downloads }
  | (false, downloads) => { state.setCall request (.inside (.queued fetch)) with downloads }

/-- The permit that a queued download has been given. -/
def granted : Phase → Phase
  | .inside (.queued fetch) => .inside (.downloading fetch)
  | phase => phase

/-- A download permit is dropped, and whoever waits first has it. -/
def dropDownload : State Request :=
  match state.downloads.release with
  | (none, downloads) => { state with downloads }
  | (some next, downloads) => { state.setCall next (granted (state.call next)) with downloads }

def dropProcessing : State Request :=
  { state with freeProcessing := state.freeProcessing + 1 }

/-- What is held inside a stage is dropped with it. -/
def dropStage : Stage → State Request
  | .queued _ => { state with downloads := state.downloads.leave request }
  | .downloading _ => state.dropDownload
  | _ => state

/-- A message for `rx`, if anybody still listens. -/
def deliver (stage : Stage) : State Request :=
  if state.call request = .inside .awaiting then state.setCall request (.inside stage) else state

end State

/-- One step.  A request wants a watermark when its options say so. -/
def step (wantsWatermark : Request → Bool) (state : State Request) :
    Action Request → Option (State Request)
  | .arrive request =>
      match state.call request, state.freeRequests with
      | .idle, 0 => some (state.setCall request (.answered .atCapacity))
      | .idle, freeRequests + 1 =>
          some { state.setCall request (.inside .serving) with freeRequests }
      | _, _ => none
  | .fetch request =>
      match state.call request with
      | .inside .serving => some (state.acquireDownload request .image)
      | .inside (.fetched .image) =>
          if wantsWatermark request then some (state.acquireDownload request .watermark) else none
      | _ => none
  | .received request =>
      match state.call request with
      | .inside (.downloading fetch) =>
          some (state.dropDownload.setCall request (.inside (.fetched fetch)))
      | _ => none
  | .failed request =>
      match state.call request with
      | .inside (.downloading _) =>
          some (state.dropDownload.setCall request (.inside (.finishing .served)))
      -- A watermark is wanted, and no URL of one is known.
      | .inside (.fetched .image) =>
          if wantsWatermark request then
            some (state.setCall request (.inside (.finishing .served)))
          else none
      | _ => none
  | .submit request =>
      match state.call request with
      | .inside (.fetched fetch) =>
          if fetch = .image ∧ wantsWatermark request then none
          else
            match state.freeProcessing with
            | 0 => some (state.setCall request (.inside (.finishing .noProcessingPermit)))
            | freeProcessing + 1 =>
                some { (state.setCall request (.inside .awaiting)).setJob request .queued with
                  freeProcessing }
      | _ => none
  | .start request =>
      match state.job request with
      | .queued =>
          some (if state.call request = .inside .awaiting then state.setJob request .running
            else state.dropProcessing.setJob request .unwinding)
      | _ => none
  | .send request =>
      match state.job request with
      | .running => some ((state.deliver request .storing).setJob request .sent)
      | _ => none
  | .dropPermit request =>
      match state.job request with
      | .sent => some (state.dropProcessing.setJob request .ended)
      | _ => none
  | .unwind request =>
      match state.job request with
      | .queued | .running => some (state.dropProcessing.setJob request .unwinding)
      | _ => none
  | .dropSender request =>
      match state.job request with
      | .unwinding =>
          some ((state.deliver request (.finishing .served)).setJob request .ended)
      | _ => none
  | .respond request =>
      match state.call request with
      | .inside .serving | .inside .storing =>
          some (state.setCall request (.inside (.finishing .served)))
      | _ => none
  | .abandon request timedOut =>
      match state.call request with
      | .inside (.finishing _) => none
      | .inside stage =>
          some ((state.dropStage request stage).setCall request
            (.inside (.finishing (if timedOut then .timedOut else .disconnected))))
      | _ => none
  | .conclude request =>
      match state.call request with
      | .inside (.finishing answer) =>
          some { state.setCall request (.answered answer) with
            freeRequests := state.freeRequests + 1 }
      | _ => none

/-- The moves of `step`, each with the state it needs and the one it leads to. -/
inductive Move (wantsWatermark : Request → Bool) (state : State Request) :
    Action Request → State Request → Prop
  | shed {request : Request} (idle : state.call request = .idle)
      (full : state.freeRequests = 0) :
      Move wantsWatermark state (.arrive request) (state.setCall request (.answered .atCapacity))
  | enter {request : Request} {freeRequests : Nat} (idle : state.call request = .idle)
      (free : state.freeRequests = freeRequests + 1) :
      Move wantsWatermark state (.arrive request)
        { state.setCall request (.inside .serving) with freeRequests }
  | fetchImage {request : Request} (serving : state.call request = .inside .serving) :
      Move wantsWatermark state (.fetch request) (state.acquireDownload request .image)
  | fetchWatermark {request : Request}
      (fetched : state.call request = .inside (.fetched .image)) :
      Move wantsWatermark state (.fetch request) (state.acquireDownload request .watermark)
  | received {request : Request} {fetch : Fetch}
      (downloading : state.call request = .inside (.downloading fetch)) :
      Move wantsWatermark state (.received request)
        (state.dropDownload.setCall request (.inside (.fetched fetch)))
  | failed {request : Request} {fetch : Fetch}
      (downloading : state.call request = .inside (.downloading fetch)) :
      Move wantsWatermark state (.failed request)
        (state.dropDownload.setCall request (.inside (.finishing .served)))
  | unnamed {request : Request} (fetched : state.call request = .inside (.fetched .image)) :
      Move wantsWatermark state (.failed request)
        (state.setCall request (.inside (.finishing .served)))
  | refuse {request : Request} {fetch : Fetch}
      (fetched : state.call request = .inside (.fetched fetch))
      (full : state.freeProcessing = 0) :
      Move wantsWatermark state (.submit request)
        (state.setCall request (.inside (.finishing .noProcessingPermit)))
  | submit {request : Request} {fetch : Fetch} {freeProcessing : Nat}
      (fetched : state.call request = .inside (.fetched fetch))
      (free : state.freeProcessing = freeProcessing + 1) :
      Move wantsWatermark state (.submit request)
        { (state.setCall request (.inside .awaiting)).setJob request .queued with freeProcessing }
  | start {request : Request} (queued : state.job request = .queued)
      (awaits : state.call request = .inside .awaiting) :
      Move wantsWatermark state (.start request) (state.setJob request .running)
  | skip {request : Request} (queued : state.job request = .queued)
      (gone : state.call request ≠ .inside .awaiting) :
      Move wantsWatermark state (.start request)
        (state.dropProcessing.setJob request .unwinding)
  | send {request : Request} (running : state.job request = .running) :
      Move wantsWatermark state (.send request)
        ((state.deliver request .storing).setJob request .sent)
  | dropPermit {request : Request} (sent : state.job request = .sent) :
      Move wantsWatermark state (.dropPermit request)
        (state.dropProcessing.setJob request .ended)
  | unwind {request : Request}
      (busy : state.job request = .queued ∨ state.job request = .running) :
      Move wantsWatermark state (.unwind request)
        (state.dropProcessing.setJob request .unwinding)
  | dropSender {request : Request} (unwinding : state.job request = .unwinding) :
      Move wantsWatermark state (.dropSender request)
        ((state.deliver request (.finishing .served)).setJob request .ended)
  | respond {request : Request} {stage : Stage} (inside : state.call request = .inside stage)
      (ready : stage = .serving ∨ stage = .storing) :
      Move wantsWatermark state (.respond request)
        (state.setCall request (.inside (.finishing .served)))
  | abandon {request : Request} {stage : Stage} {timedOut : Bool}
      (inside : state.call request = .inside stage)
      (unfinished : ∀ answer, stage ≠ .finishing answer) :
      Move wantsWatermark state (.abandon request timedOut)
        ((state.dropStage request stage).setCall request
          (.inside (.finishing (if timedOut then .timedOut else .disconnected))))
  | conclude {request : Request} {answer : Answer}
      (finishing : state.call request = .inside (.finishing answer)) :
      Move wantsWatermark state (.conclude request)
        { state.setCall request (.answered answer) with freeRequests := state.freeRequests + 1 }

/-- A step is one of the moves. -/
theorem step_moves {wantsWatermark : Request → Bool} {state next : State Request}
    {action : Action Request} (stepped : step wantsWatermark state action = some next) :
    Move wantsWatermark state action next := by
  cases action with
  | arrive request =>
      simp only [step] at stepped
      split at stepped
      case h_1 idle full =>
          cases stepped
          exact .shed idle full
      case h_2 idle free =>
          cases stepped
          exact .enter idle free
      case h_3 => cases stepped
  | fetch request =>
      simp only [step] at stepped
      split at stepped
      case h_1 serving =>
          cases stepped
          exact .fetchImage serving
      case h_2 fetched =>
          split at stepped
          case isTrue =>
              cases stepped
              exact .fetchWatermark fetched
          case isFalse => cases stepped
      case h_3 => cases stepped
  | received request =>
      simp only [step] at stepped
      split at stepped
      case h_1 downloading =>
          cases stepped
          exact .received downloading
      case h_2 => cases stepped
  | failed request =>
      simp only [step] at stepped
      split at stepped
      case h_1 downloading =>
          cases stepped
          exact .failed downloading
      case h_2 fetched =>
          split at stepped
          case isTrue =>
              cases stepped
              exact .unnamed fetched
          case isFalse => cases stepped
      case h_3 => cases stepped
  | submit request =>
      simp only [step] at stepped
      split at stepped
      case h_1 fetched =>
          split at stepped
          case isTrue => cases stepped
          case isFalse =>
              split at stepped
              case h_1 full =>
                  cases stepped
                  exact .refuse fetched full
              case h_2 free =>
                  cases stepped
                  exact .submit fetched free
      case h_2 => cases stepped
  | start request =>
      simp only [step] at stepped
      split at stepped
      case h_1 queued =>
          split at stepped
          case isTrue awaits =>
              cases stepped
              exact .start queued awaits
          case isFalse gone =>
              cases stepped
              exact .skip queued gone
      case h_2 => cases stepped
  | send request =>
      simp only [step] at stepped
      split at stepped
      case h_1 running =>
          cases stepped
          exact .send running
      case h_2 => cases stepped
  | dropPermit request =>
      simp only [step] at stepped
      split at stepped
      case h_1 sent =>
          cases stepped
          exact .dropPermit sent
      case h_2 => cases stepped
  | unwind request =>
      simp only [step] at stepped
      split at stepped
      case h_1 queued =>
          cases stepped
          exact .unwind (.inl queued)
      case h_2 running =>
          cases stepped
          exact .unwind (.inr running)
      case h_3 => cases stepped
  | dropSender request =>
      simp only [step] at stepped
      split at stepped
      case h_1 unwinding =>
          cases stepped
          exact .dropSender unwinding
      case h_2 => cases stepped
  | respond request =>
      simp only [step] at stepped
      split at stepped
      case h_1 serving =>
          cases stepped
          exact .respond serving (.inl rfl)
      case h_2 storing =>
          cases stepped
          exact .respond storing (.inr rfl)
      case h_3 => cases stepped
  | abandon request timedOut =>
      simp only [step] at stepped
      split at stepped
      case h_1 => cases stepped
      case h_2 unfinished inside =>
          cases stepped
          exact .abandon inside unfinished
      case h_3 => cases stepped
  | conclude request =>
      simp only [step] at stepped
      split at stepped
      case h_1 finishing =>
          cases stepped
          exact .conclude finishing
      case h_2 => cases stepped

/-- Before any request, with all permits free. -/
def Initial (limits : Limits) (state : State Request) : Prop :=
  state.freeRequests = limits.requests ∧ state.downloads = ⟨limits.downloads, []⟩ ∧
    state.freeProcessing = limits.processing ∧ (∀ request, state.call request = .idle) ∧
    ∀ request, state.job request = .unsubmitted

def system (limits : Limits) (wantsWatermark : Request → Bool) :
    System (State Request) (Action Request) where
  Init := Initial limits
  step := step wantsWatermark

end ImageResizer.LoadShedding
