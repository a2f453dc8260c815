import ImageResizer.ErrorStatus
import ImageResizer.Foundation.SharedCache
import ImageResizer.Negotiation
import ImageResizer.ResizeService.Transparency
import ImageResizer.Signing

/-!
# The resize endpoint

`modules/api/resize.rs` and the responses of `modules/utils/err.rs`: a signed path and an
`Accept` header in, a redirect to the stored result or an error out.  Redirects are stored by
shared caches for a year, so they must be right for everybody a cache gives them to.
-/

namespace ImageResizer.ResizeEndpoint

open ResizeService (getCdnUrl)
open Transition

/-- What the endpoint reads of a request: the raw path, and the values of `Accept`. -/
structure HttpRequest where
  path : List Char
  accept : List (List UInt8)
  deriving DecidableEq

/-- `HeaderValue::to_str`. -/
def toStr (value : List UInt8) : Option (List Char) :=
  if value.all fun byte => byte = 9 ∨ 32 ≤ byte ∧ byte < 127 then
    some (value.map fun byte => Char.ofNat byte.toNat)
  else none

/-- `headers.get(ACCEPT).and_then(|v| v.to_str().ok())`. -/
def HttpRequest.acceptText (request : HttpRequest) : Option (List Char) :=
  request.accept.head?.bind toStr

structure HttpResponse where
  status : Nat
  cacheControl : String
  vary : Option String
  location : Option String
  body : Message
  deriving DecidableEq

/-! ## Errors -/

/-- `AppError`, as far as the endpoint constructs it. -/
inductive HttpError where
  | badRequest (message : Message)
  | forbidden (message : Message)
  | badGateway (message : Message)
  | serviceUnavailable (message : Message)
  | anyError (message : Message)
  deriving DecidableEq

namespace HttpError

def statusCode : HttpError → Nat
  | .badRequest _ => 400
  | .forbidden _ => 403
  | .badGateway _ => 502
  | .serviceUnavailable _ => 503
  | .anyError _ => 500

/-- `Display`. -/
def message : HttpError → Message
  | .badRequest message => .text "bad request: " :: message
  | .forbidden message => .text "forbidden: " :: message
  | .badGateway message => .text "bad gateway: " :: message
  | .serviceUnavailable message => .text "service unavailable: " :: message
  | .anyError message => .text "internal error: " :: message

def intoResponse (error : HttpError) : HttpResponse where
  status := error.statusCode
  cacheControl := "no-store"
  vary := none
  location := none
  body := error.message

/-- A request that is refused before the resize. -/
def ofGate : Api.AppError → HttpError
  | .badRequest message => .badRequest message
  | .forbidden message => .forbidden message
  | .resize message => .anyError message

/-- A resize that failed. -/
def ofResize : AppError → HttpError
  | .badRequest text => .badRequest [.text text]
  | .badGateway text => .badGateway [.text text]
  | .serviceUnavailable text => .serviceUnavailable [.text text]
  | .anyError failure => .anyError [.text failure.toString]

end HttpError

/-! ## The handler -/

/-- The endpoint of a deployment.  `headerValue` tells what `HeaderValue::from_str` takes. -/
structure Endpoint where
  service : Api.ApiService
  headerValue : String → Bool

variable (endpoint : Endpoint)

/-- The resize that a request is for, and whether its format was negotiated. -/
def query (request : HttpRequest) : Except Api.AppError (ResizeQuery × Bool) :=
  Api.handle endpoint.service (fun query =>
    let (format, negotiated) := resolve query.format request.acceptText
    .ok ({ query with format }, negotiated)) request.path

/-- `handle`, around what `ResizeService::resize` answers. -/
def handle (resize : ResizeQuery → Except Failure String) (request : HttpRequest) :
    Except HttpError (String × Bool) :=
  match query endpoint request with
  | .error refusal => .error (.ofGate refusal)
  | .ok (query, negotiated) =>
      match resize query with
      | .ok location => .ok (location, negotiated)
      | .error failure => .error (.ofResize (classifyResizeError failure))

/-- `redirect_response`. -/
def redirectResponse (location : String) (negotiated : Bool) : HttpResponse :=
  if endpoint.headerValue location then
    { status := 301
      cacheControl := "public, max-age=31536000, immutable"
      vary := if negotiated then some "Accept" else none
      location := some location
      body := [] }
  else
    (HttpError.anyError [.text "generated CDN location ", .debug location.toList,
      .text " is not a valid HTTP header value"]).intoResponse

/-- `resize_handler`. -/
def resizeHandler (resize : ResizeQuery → Except Failure String) (request : HttpRequest) :
    HttpResponse :=
  match handle endpoint resize request with
  | .ok (location, negotiated) => redirectResponse endpoint location negotiated
  | .error error => error.intoResponse

/-! ## Negotiation -/

/-- No request is left with an open format. -/
theorem resolve_concrete (format : ImageFormat) (accept : Option (List Char)) :
    (resolve format accept).1 ≠ .auto := by
  unfold resolve
  by_cases concrete : format = .auto
  case pos =>
      simp only [concrete, ne_eq, not_true, if_false]
      rw [choose]
      split_ifs <;> decide
  case neg =>
      rw [if_pos concrete]
      exact concrete

/-- What was not negotiated does not depend on what the client accepts. -/
theorem resolve_unnegotiated {format : ImageFormat} {accept : Option (List Char)}
    (unnegotiated : (resolve format accept).2 = false) (other : Option (List Char)) :
    resolve format other = resolve format accept := by
  unfold resolve at unnegotiated ⊢
  by_cases concrete : format = .auto
  case pos => simp [concrete] at unnegotiated
  case neg => rw [if_pos concrete, if_pos concrete]

/-- The gate and the parser read the path alone. -/
theorem gate_bind {Result : Type} (service : Api.ApiService)
    (respond : ResizeQuery → Except Api.AppError Result) (path : List Char) :
    Api.handle service respond path = (Api.handle service .ok path).bind respond := by
  change _ = Api.handle service .ok path >>= respond
  unfold Api.handle
  simp only [bind_assoc]
  rfl

theorem query_eq (request : HttpRequest) :
    query endpoint request = (Api.handle endpoint.service .ok request.path).map fun asked =>
      ({ asked with format := (resolve asked.format request.acceptText).1 },
        (resolve asked.format request.acceptText).2) := by
  rw [query, gate_bind]
  cases Api.handle endpoint.service .ok request.path <;> rfl

/-- Every resize that is started has a format. -/
theorem query_concrete {request : HttpRequest} {asked : ResizeQuery} {negotiated : Bool}
    (ok : query endpoint request = .ok (asked, negotiated)) : asked.format ≠ .auto := by
  rw [query_eq] at ok
  cases gated : Api.handle endpoint.service .ok request.path with
  | error refusal =>
      rw [gated] at ok
      cases ok
  | ok parsed =>
      rw [gated] at ok
      cases ok
      exact resolve_concrete _ _

/-- A format that was not negotiated is the one of the path, whatever else is accepted. -/
theorem query_of_unnegotiated {request other : HttpRequest} {asked : ResizeQuery}
    (ok : query endpoint request = .ok (asked, false)) (path : other.path = request.path) :
    query endpoint other = .ok (asked, false) := by
  rw [query_eq] at ok
  rw [query_eq, path]
  cases gated : Api.handle endpoint.service .ok request.path with
  | error refusal =>
      rw [gated] at ok
      cases ok
  | ok parsed =>
      rw [gated] at ok
      have unnegotiated := (Prod.mk.inj (Except.ok.inj ok)).2
      rw [← ok]
      simp only [Except.map, resolve_unnegotiated unnegotiated other.acceptText]

/-! ## Shared caches -/

section Cache

/-- What a shared cache reads: it keeps what is not `no-store`, under the path. -/
def reading : SharedCache.Reading HttpRequest HttpResponse (List Char) String
    (List (List UInt8)) where
  target request := request.path
  value request field := if field = "Accept" then request.accept else []
  storable response := response.cacheControl ≠ "no-store"
  varies response := response.vary.toList

/-- The endpoint redirects to where the resize is found, or answers with an error. -/
theorem handler_cases (resize : ResizeQuery → Except Failure String) (request : HttpRequest) :
    (∃ asked negotiated location, query endpoint request = .ok (asked, negotiated) ∧
        resize asked = .ok location ∧ endpoint.headerValue location = true) ∨
      ∃ error : HttpError, resizeHandler endpoint resize request = error.intoResponse := by
  unfold resizeHandler handle
  cases gated : query endpoint request with
  | error refusal => exact .inr ⟨_, rfl⟩
  | ok pair =>
      obtain ⟨asked, negotiated⟩ := pair
      dsimp only
      cases resized : resize asked with
      | error failure => exact .inr ⟨_, rfl⟩
      | ok location =>
          by_cases valid : endpoint.headerValue location = true
          case pos => exact .inl ⟨asked, negotiated, location, rfl, resized, valid⟩
          case neg => exact .inr ⟨_, if_neg valid⟩

/-- A redirect leads to where the resize is found. -/
theorem redirects_iff (resize : ResizeQuery → Except Failure String) (request : HttpRequest) :
    (resizeHandler endpoint resize request).status = 301 ↔
      ∃ asked negotiated location, query endpoint request = .ok (asked, negotiated) ∧
        resize asked = .ok location ∧ endpoint.headerValue location = true := by
  constructor
  · intro redirected
    refine (handler_cases endpoint resize request).resolve_right ?_
    rintro ⟨error, answered⟩
    rw [answered] at redirected
    cases error <;> cases redirected
  · rintro ⟨asked, negotiated, location, ok, resized, valid⟩
    simp only [resizeHandler, handle, ok, resized, redirectResponse, valid, if_true]

/-- A response that may be stored is a redirect. -/
theorem storable_of_handler {resize : ResizeQuery → Except Failure String}
    {request : HttpRequest}
    (storable : reading.storable (resizeHandler endpoint resize request) = true) :
    ∃ asked negotiated location, query endpoint request = .ok (asked, negotiated) ∧
      resize asked = .ok location ∧ endpoint.headerValue location = true := by
  refine (handler_cases endpoint resize request).resolve_right ?_
  rintro ⟨error, answered⟩
  rw [answered] at storable
  exact absurd storable Bool.false_ne_true

theorem handler_of_query {resize : ResizeQuery → Except Failure String} {request : HttpRequest}
    {asked : ResizeQuery} {negotiated : Bool} {location : String}
    (ok : query endpoint request = .ok (asked, negotiated)) (resized : resize asked = .ok location) :
    resizeHandler endpoint resize request = redirectResponse endpoint location negotiated := by
  unfold resizeHandler handle
  rw [ok]
  dsimp only
  rw [resized]

variable {endpoint}

/-- A redirect answers everybody it may be given to as the endpoint would have then. -/
theorem reusable_right {resize : ResizeQuery → Except Failure String}
    {request other : HttpRequest}
    (storable : reading.storable (resizeHandler endpoint resize request) = true)
    (reusable : reading.Reusable request (resizeHandler endpoint resize request) other) :
    resizeHandler endpoint resize other = resizeHandler endpoint resize request := by
  obtain ⟨asked, negotiated, location, ok, resized, valid⟩ :=
    storable_of_handler endpoint storable
  have same := handler_of_query endpoint ok resized
  have alike : query endpoint other = .ok (asked, negotiated) := by
    cases negotiated with
    | false => exact query_of_unnegotiated endpoint ok reusable.target
    | true =>
        have listed : "Accept" ∈ reading.varies (resizeHandler endpoint resize request) := by
          rw [same, redirectResponse, if_pos valid]
          exact List.mem_singleton_self _
        have accepts : other.accept = request.accept := reusable.fields "Accept" listed
        have path : other.path = request.path := reusable.target
        have text : other.acceptText = request.acceptText := by
          rw [HttpRequest.acceptText, HttpRequest.acceptText, accepts]
        rw [query_eq, path, text, ← query_eq, ok]
  rw [same, handler_of_query endpoint alike resized]

variable {Content Caller : Type} [DecidableEq Caller] (setup : ResizeService.Setup Content Caller)

/-- What the service can answer to resizes, in any run of any calls. -/
def Answers (resize : ResizeQuery → Except Failure String) : Prop :=
  ∀ asked url, resize asked = .ok url →
    ∃ (calls : Caller → ResizeQuery) (state : ResizeService.State Caller) (caller : Caller),
      (ResizeService.system (setup.calledBy calls)).Reachable (fun _ _ => True) state ∧
        calls caller = asked ∧ ResizeService.Told state caller url

variable {setup} in
theorem Answers.location {resize : ResizeQuery → Except Failure String} {asked : ResizeQuery}
    {url : String} (answers : Answers setup resize) (resized : resize asked = .ok url) :
    url = setup.cdnUrl (setup.generateKey asked) := by
  obtain ⟨calls, state, caller, reachable, own, told⟩ := answers asked url resized
  rw [ResizeService.url_of_told reachable told, setup.calledBy_keyOf, setup.calledBy_cdnUrl, own]

/-- The endpoint could have given the response to the request. -/
def Right (endpoint : Endpoint) (request : HttpRequest) (response : HttpResponse) : Prop :=
  ∃ resize, Answers setup resize ∧ response = resizeHandler endpoint resize request

variable {setup} in
theorem Right.reuse {asked request : HttpRequest} {response : HttpResponse}
    (right : Right setup endpoint asked response) (storable : reading.storable response = true)
    (reusable : reading.Reusable asked response request) :
    Right setup endpoint request response := by
  obtain ⟨resize, answers, rfl⟩ := right
  exact ⟨resize, answers, (reusable_right storable reusable).symm⟩

/-- The exchanges that are forwarded are answered by the service. -/
def Served (_ : SharedCache.State HttpRequest HttpResponse) :
    SharedCache.Event HttpRequest HttpResponse (ResizeQuery → Except Failure String) → Prop
  | .forward _ resize _ => Answers setup resize
  | _ => True

/-- **Redirects are safe to share.**  Whatever a shared cache in front of the endpoint
delivers, to whomever and however late, is an answer of the endpoint to that very request; and
if it is not an error, it is the answer that the endpoint gives to it whenever its resize
succeeds. -/
theorem shared_redirects_right {state : SharedCache.State HttpRequest HttpResponse}
    (reachable : (SharedCache.system reading fun request resize =>
      resizeHandler endpoint resize request).Reachable (Served setup) state)
    {request : HttpRequest} {response : HttpResponse}
    (delivered : (request, response) ∈ state.delivered) :
    (∃ resize, Answers setup resize ∧ response = resizeHandler endpoint resize request) ∧
      (response.cacheControl ≠ "no-store" → ∀ resize, Answers setup resize →
        (∀ asked negotiated, query endpoint request = .ok (asked, negotiated) →
          ∃ url, resize asked = .ok url) → resizeHandler endpoint resize request = response) := by
  have right : Right setup endpoint request response := by
    refine (SharedCache.delivered_right (fun _ request resize _ served => ⟨resize, served, rfl⟩)
      (fun was storable reusable => ?_) reachable).2 _ delivered
    exact was.reuse storable reusable
  refine ⟨right, fun stored resize answers succeeds => ?_⟩
  obtain ⟨earlier, answered, rfl⟩ := right
  have storable : reading.storable (resizeHandler endpoint earlier request) = true :=
    decide_eq_true stored
  obtain ⟨asked, negotiated, location, ok, resized, -⟩ := storable_of_handler endpoint storable
  obtain ⟨url, now⟩ := succeeds asked negotiated ok
  have same : url = location :=
    (answers.location now).trans (answered.location resized).symm
  rw [handler_of_query endpoint ok now, handler_of_query endpoint ok resized, same]

/-! ### One photo for two clients -/

open ResizeService (photoQuery photoUrl) in
/-- The service answers with the photo, and with errors for everything else. -/
def photoAnswers (asked : ResizeQuery) : Except Failure String :=
  if asked = photoQuery then .ok photoUrl else .error (.message "not asked")

theorem photo_answers : Answers ResizeService.photoSetup photoAnswers := by
  intro asked url resized
  unfold photoAnswers at resized
  split at resized
  case isTrue same =>
      cases resized
      have evaluates : ∃ state, (ResizeService.system ResizeService.photoSetup).run
          (fun _ _ => True) ResizeService.fresh ResizeService.photoScript = some state ∧
            state.call false = .joined 0 (.ok ResizeService.photoUrl) := ⟨_, rfl, rfl⟩
      obtain ⟨state, run, joined⟩ := evaluates
      exact ⟨fun _ => ResizeService.photoQuery, state, false, System.reachable_of_run _ _ _
        (.init ResizeService.fresh_initial) run, same.symm, .inr ⟨0, joined⟩⟩
  case isFalse => cases resized

/-- The endpoint of a deployment for local development. -/
def photoEndpoint : Endpoint where
  service := { Api.documented with signing := ⟨[], [], true⟩ }
  headerValue _ := true

/-- A client that accepts any image but names neither AVIF nor WebP. -/
def photoRequest : HttpRequest where
  path := "/unsigned/plain/a.jpg.auto".toList
  accept := ["image/png".toUTF8.toList]

theorem photo_asked : query photoEndpoint photoRequest = .ok (ResizeService.photoQuery, true) := by
  decide +kernel

/-- A cache gives the redirect of one client to the next that accepts the same. -/
theorem shared_redirects_right_photo :
    ∃ state, (SharedCache.system reading fun request resize =>
        resizeHandler photoEndpoint resize request).run (fun _ _ => True) ⟨[], []⟩
          [.forward photoRequest photoAnswers true,
            .reuse photoRequest (redirectResponse photoEndpoint ResizeService.photoUrl true)
              photoRequest] = some state ∧
      state.delivered.length = 2 ∧
      ∀ response, (photoRequest, response) ∈ state.delivered →
        (∃ resize, Answers ResizeService.photoSetup resize ∧
          response = resizeHandler photoEndpoint resize photoRequest) ∧
        (response.cacheControl ≠ "no-store" → ∀ resize, Answers ResizeService.photoSetup resize →
          (∀ asked negotiated, query photoEndpoint photoRequest = .ok (asked, negotiated) →
            ∃ url, resize asked = .ok url) →
              resizeHandler photoEndpoint resize photoRequest = response) := by
  have redirected : resizeHandler photoEndpoint photoAnswers photoRequest =
      redirectResponse photoEndpoint ResizeService.photoUrl true :=
    handler_of_query photoEndpoint photo_asked rfl
  have evaluates : ∃ state, (SharedCache.system reading fun request resize =>
      resizeHandler photoEndpoint resize request).run (fun _ _ => True) ⟨[], []⟩
        [.forward photoRequest photoAnswers true,
          .reuse photoRequest (redirectResponse photoEndpoint ResizeService.photoUrl true)
            photoRequest] = some state ∧ state.delivered.length = 2 := by
    have storable : reading.storable
        (redirectResponse photoEndpoint ResizeService.photoUrl true) = true := rfl
    have reusable : reading.Reusable photoRequest
        (redirectResponse photoEndpoint ResizeService.photoUrl true) photoRequest :=
      ⟨rfl, fun _ _ => rfl⟩
    simp only [System.run, SharedCache.system, redirected, storable, reusable, Bool.and_self,
      if_true, Option.bind_some, List.mem_singleton, and_self]
    exact ⟨_, rfl, rfl⟩
  obtain ⟨state, run, twice⟩ := evaluates
  refine ⟨state, run, twice, fun response delivered => ?_⟩
  refine shared_redirects_right ResizeService.photoSetup
    (System.reachable_of_labels _ _ _ ?_ (.init ⟨rfl, rfl⟩) run) delivered
  intro event member before
  simp only [List.mem_cons, List.not_mem_nil, or_false] at member
  rcases member with rfl | rfl
  · exact photo_answers
  · trivial

/-! ### Where a redirect leads -/

/-- Whatever source a request names, the endpoint redirects to a key of this deployment below
its CDN, for good; every other answer is an error that names no location and is not stored. -/
theorem redirects_contained {resize : ResizeQuery → Except Failure String}
    (answers : Answers setup resize) (request : HttpRequest) :
    let response := resizeHandler endpoint resize request
    (response.status = 301 ∧ response.cacheControl = "public, max-age=31536000, immutable" ∧
      ∃ parts : Storage.KeyParts setup.minioSubPath.toList,
        response.location = some (setup.cdnUrl (String.ofList parts.text))) ∨
      (response.status ∈ [400, 403, 500, 502, 503] ∧ response.cacheControl = "no-store" ∧
        response.location = none ∧ response.vary = none) := by
  intro response
  rcases handler_cases endpoint resize request with
    ⟨asked, negotiated, location, ok, resized, valid⟩ | ⟨error, answered⟩
  case inl =>
      have redirect : response = redirectResponse endpoint location negotiated :=
        handler_of_query endpoint ok resized
      rw [redirectResponse, if_pos valid] at redirect
      refine .inl ⟨by rw [redirect], by rw [redirect], Storage.generatedParts setup.display
        setup.sha256 setup.minioSubPath asked (query_concrete endpoint ok), ?_⟩
      rw [redirect, answers.location resized, ← Storage.generateKey_text, String.ofList_toList]
      rfl
  case inr =>
      have refused : response = error.intoResponse := answered
      refine .inr ⟨?_, by rw [refused]; rfl, by rw [refused]; rfl, by rw [refused]; rfl⟩
      rw [refused]
      cases error <;> simp [HttpError.intoResponse, HttpError.statusCode]

theorem redirects_contained_photo :
    let response := resizeHandler photoEndpoint photoAnswers photoRequest
    (response.status = 301 ∧ response.cacheControl = "public, max-age=31536000, immutable" ∧
      ∃ parts : Storage.KeyParts ResizeService.photoSetup.minioSubPath.toList,
        response.location =
          some (ResizeService.photoSetup.cdnUrl (String.ofList parts.text))) ∨
      (response.status ∈ [400, 403, 500, 502, 503] ∧ response.cacheControl = "no-store" ∧
        response.location = none ∧ response.vary = none) :=
  redirects_contained ResizeService.photoSetup photo_answers photoRequest

end Cache

end ImageResizer.ResizeEndpoint
