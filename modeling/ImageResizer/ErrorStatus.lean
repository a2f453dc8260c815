import ImageResizer.SingleFlight.Invariant
import ImageResizer.Storage.Core
import ImageResizer.Fetch

/-!
# The status of a failed resize

`AppError::classify_resize_error` of `modules/utils/err.rs`, which gives a failure its HTTP
status: the type of the root cause first, then words of the outermost message.  A
follower's failure is its leader's message alone, so the two agree only where the words
say what the type says.
-/

namespace ImageResizer

open Storage (containsText)

/-- `AppError`, as a failed resize is classified. -/
inductive AppError where
  | badRequest (text : String)
  | badGateway (text : String)
  | serviceUnavailable (text : String)
  | anyError (failure : Failure)
  deriving DecidableEq

def AppError.statusCode : AppError → Nat
  | .badRequest _ => 400
  | .badGateway _ => 502
  | .serviceUnavailable _ => 503
  | .anyError _ => 500

/-- `err.downcast_ref::<SourceRejected>()`, which sees through contexts. -/
def Failure.sourceRejected (failure : Failure) : Option SourceRejected :=
  match failure.cause with
  | .rejected why => some why
  | .message _ => none

/-- `msg.to_lowercase().contains(word)` for a word of plain letters.  No character outside
ASCII is lowered to a letter that occurs in a word looked for, except by the Kelvin sign
and the dotted capital I, and no such word has a `k` or goes on after its `i` with a
combining dot. -/
def mentions (text : String) (word : List Char) : Bool :=
  containsText word (text.toList.map Char.toLower)

/-- The caller asked for something too large or for something that is no image. -/
def blamesCaller (text : String) : Bool :=
  mentions text "too large".toList || mentions text "decode".toList

/-- The service is shedding load. -/
def blamesLoad (text : String) : Bool :=
  mentions text "permit".toList || mentions text "cancelled".toList

/-- `classify_resize_error`. -/
def classifyResizeError (failure : Failure) : AppError :=
  if failure.sourceRejected.isSome then .badRequest failure.toString
  else if blamesCaller failure.toString then .badRequest failure.toString
  else if blamesLoad failure.toString then .serviceUnavailable failure.toString
  else if mentions failure.toString "encode".toList then .anyError failure
  else .badGateway failure.toString

/-- The status of a failure of which only the text is known. -/
def statusOfText (text : String) : Nat :=
  if blamesCaller text then 400
  else if blamesLoad text then 503
  else if mentions text "encode".toList then 500
  else 502

section Status

variable {failure : Failure}

/-- The root cause decides first, and the text decides for everything else. -/
theorem statusCode_eq :
    (classifyResizeError failure).statusCode =
      if failure.sourceRejected.isSome then 400 else statusOfText failure.toString := by
  rw [classifyResizeError, statusOfText]
  split_ifs <;> rfl

@[simp]
theorem statusCode_message (text : String) :
    (classifyResizeError (.message text)).statusCode = statusOfText text := statusCode_eq

theorem statusOfText_eq_iff (text : String) :
    statusOfText text = 400 ↔ blamesCaller text = true := by
  rw [statusOfText]
  by_cases blamed : blamesCaller text
  · simp [blamed]
  · rw [if_neg blamed, iff_false_right blamed]
    split_ifs <;> decide

/-- A failure and its text alone have one status, unless the text of a rejection does not
blame the caller. -/
theorem statusCode_flattened_iff :
    (classifyResizeError (.message failure.toString)).statusCode =
        (classifyResizeError failure).statusCode ↔
      (failure.sourceRejected.isSome → blamesCaller failure.toString) := by
  rw [statusCode_message, statusCode_eq]
  by_cases rejected : failure.sourceRejected.isSome
  · rw [if_pos rejected, statusOfText_eq_iff]
    simp only [rejected, true_implies]
  · rw [if_neg rejected]
    exact iff_of_true rfl (absurd · rejected)

end Status

/-! ## Leaders and followers -/

namespace SingleFlight

open Transition

/-- What `resize` returns to a follower: `anyhow!(e)` of the broadcast text. -/
def followerReturns : InFlightResult → Except Failure String
  | .ok url => .ok url
  | .error text => .error (.message text)

variable {Caller : Type} [DecidableEq Caller] (keyOf : Caller → String)

/-- A follower of a leader that failed is given the leader's status, unless the leader was
refused by the source guard in words that do not blame the caller. -/
theorem follower_status_iff (cdnUrl : String → String) {state : State Caller Failure}
    (reachable : (service keyOf cdnUrl).Reachable (fun _ _ => True) state) {follower : Caller}
    {chan : Chan} {result : InFlightResult} {failure : Failure}
    (joined : state.call follower = .joined chan result)
    (failed : state.call (state.channels chan).leader = .returned (.error failure)) :
    ∃ received, followerReturns result = .error received ∧
      ((classifyResizeError received).statusCode = (classifyResizeError failure).statusCode ↔
        (failure.sourceRejected.isSome → blamesCaller failure.toString)) := by
  obtain ⟨_, outcome⟩ := (reachable_inv keyOf cdnUrl reachable).joined_leader joined
  rw [failed] at outcome
  rcases outcome with ⟨own, returned, rfl⟩ | ⟨gone, _⟩
  case inl =>
    cases returned
    exact ⟨.message failure.toString, rfl, statusCode_flattened_iff⟩
  case inr => cases gone

/-- Two calls on one key, of which the first leads and fails. -/
def failedScript (failure : Failure) : List (Action Bool Failure) :=
  [.checkCache true, .lookup true, .checkCache false, .lookup false, .fail true failure,
    .removeEntry true, .broadcast true, .receive false]

/-- A leader whose source is no image, and its follower. -/
theorem follower_status_iff_undecodable :
    ∃ state, (service (fun _ : Bool => "k") id).run (fun _ _ => True)
        (idle : State Bool Failure) (failedScript (.message "Failed to decode image")) =
          some state ∧
      ∃ received, followerReturns (.error "Failed to decode image") = .error received ∧
        ((classifyResizeError received).statusCode =
            (classifyResizeError (.message "Failed to decode image")).statusCode ↔
          ((Failure.message "Failed to decode image").sourceRejected.isSome →
            blamesCaller (Failure.message "Failed to decode image").toString)) := by
  have evaluates : ∃ state, (service (fun _ : Bool => "k") id).run (fun _ _ => True)
      (idle : State Bool Failure) (failedScript (.message "Failed to decode image")) =
        some state ∧ state.call false = .joined 0 (.error "Failed to decode image") ∧
          state.call (state.channels 0).leader =
            .returned (.error (.message "Failed to decode image")) :=
    ⟨_, rfl, rfl, rfl⟩
  obtain ⟨state, run, joined, failed⟩ := evaluates
  have reachable := System.reachable_of_run _ _ _ (.init idle_initial) run
  exact ⟨state, run, follower_status_iff (fun _ => "k") id reachable joined failed⟩

/-- A library that reads one `ftp` URL. -/
def ftpUrls : SourceGuard.UrlLibrary where
  Url := Unit
  parse text := if text = "ftp://example.com/key.png" then .ok () else .error "no URL"
  join _ _ := .error "no URL"
  scheme _ := "ftp"
  hostStr _ := some "example.com"
  portOrKnownDefault _ := some 21
  path _ := "/key.png"
  toString _ := "ftp://example.com/key.png"

def silentNetwork : Network ftpUrls where
  lookupHost _ _ _ := .error "no answer"
  buildClient _ _ _ := .error "no client"
  send _ _ _ := .error "no answer"

def ftpRefused : Failure := .rejected (.unsupportedScheme "ftp")

theorem ftpRefused_statusOfText : statusOfText ftpRefused.toString = 502 := by decide

/-- The leader's refusal is a 400 and the follower's copy of it is a 502. -/
theorem refused_follower_differs :
    (Fetch.downloadImage ftpUrls .default silentNetwork Nat.repr
        "ftp://example.com/key.png").result = .error ftpRefused ∧
      ∃ state, (service (fun _ : Bool => "k") id).run (fun _ _ => True)
          (idle : State Bool Failure) (failedScript ftpRefused) = some state ∧
        state.call true = .returned (.error ftpRefused) ∧
        state.call false = .joined 0 (.error ftpRefused.toString) ∧
        (state.channels 0).leader = true ∧
        (classifyResizeError ftpRefused).statusCode = 400 ∧
        (classifyResizeError (.message ftpRefused.toString)).statusCode = 502 :=
  ⟨rfl, _, rfl, rfl, rfl, rfl, rfl, (statusCode_message _).trans ftpRefused_statusOfText⟩

end SingleFlight

end ImageResizer
