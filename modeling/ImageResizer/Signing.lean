import ImageResizer.Url

/-!
# Signed requests

The resize endpoint's gate (`modules/signing` and `modules/api/resize.rs`).  A request is
parsed only after its signature segment has been checked against the rest of its path, and
what is parsed then is that rest, byte for byte.
-/

namespace ImageResizer

open Text

namespace Signing

/-- `HMAC-SHA256`, from a key and a message. -/
abbrev Hmac := List UInt8 → List UInt8 → Vector UInt8 32

/-- The signature segment of the escape for local development. -/
def unsignedMarker : List Char := "unsigned".toList

structure SigningConfig where
  key : List UInt8
  salt : List UInt8
  /-- Whether the `unsigned` escape is open. -/
  allowUnsigned : Bool
  deriving DecidableEq

/-- A real key and salt are both configured. -/
def SigningConfig.enabled (config : SigningConfig) : Bool := config.key ≠ [] ∧ config.salt ≠ []

variable (hmac : Hmac) (base64 : Base64)

def computeSignature (key salt : List UInt8) (signedPath : List Char) : Vector UInt8 32 :=
  hmac key (salt ++ encodeUtf8 signedPath)

def verifySignature (key salt : List UInt8) (signedPath providedSignature : List Char) : Bool :=
  match base64.decode providedSignature with
  | none => false
  | some provided =>
      let expected := (computeSignature hmac key salt signedPath).toList
      if provided.length ≠ expected.length then false else provided = expected

def sign (key salt : List UInt8) (signedPath : List Char) : List Char :=
  base64.encode (computeSignature hmac key salt signedPath).toList

/-- A signature spells the code of the salt and the signed path under the key. -/
theorem sign_eq (key salt : List UInt8) (signedPath : List Char) :
    sign hmac base64 key salt signedPath =
      base64.encode (hmac key (salt ++ encodeUtf8 signedPath)).toList := rfl

/-- The signature is checked against its one spelling. -/
theorem verifySignature_iff (key salt : List UInt8) (signedPath provided : List Char) :
    verifySignature hmac base64 key salt signedPath provided = true ↔
      provided = sign hmac base64 key salt signedPath := by
  rw [verifySignature, sign, ← base64.decode_eq_some_iff]
  cases base64.decode provided with
  | none => simp
  | some bytes =>
      by_cases same : bytes = (computeSignature hmac key salt signedPath).toList
      · simp [same]
      · simp [same]

/-- The literal of the escape is shorter than any signature. -/
theorem sign_ne_unsigned (key salt : List UInt8) (signedPath : List Char) :
    sign hmac base64 key salt signedPath ≠ unsignedMarker := by
  intro same
  have length := base64.length_encode (hmac key (salt ++ encodeUtf8 signedPath)).toList
  rw [← sign_eq, same, Vector.length_toList] at length
  exact absurd length (by decide)

end Signing

namespace Api

open Url Signing

/-- The errors of the endpoint before the resize itself. -/
inductive AppError where
  | badRequest (message : Message)
  | forbidden (message : Message)
  /-- What a resize that was started ends with. -/
  | resize (why : Message)
  deriving DecidableEq

def urlParseError (error : UrlParseError) : AppError := .badRequest error.message

/-- What the endpoint is configured with. -/
structure ApiService where
  signing : SigningConfig
  presets : PresetRegistry
  allowedOptions : AllowedOptions
  codings : Codings
  hmac : Hmac

variable {Response : Type}

/-- `verify_or_reject`. -/
def verifyOrReject (service : ApiService) (signed : SignedRequest) : Except AppError Unit :=
  if signed.signatureSegment = unsignedMarker then
    if service.signing.allowUnsigned then .ok ()
    else
      .error (.forbidden
        [.text ("unsigned requests are refused; signing is required (#27). Set " ++
          "ALLOW_UNSIGNED_REQUESTS=true to enable the /unsigned/ escape for local development.")])
  else if !service.signing.enabled then
    .error (.forbidden
      [.text "no signing key is configured; use /unsigned/... in local development"])
  else if verifySignature service.hmac service.codings.base64 service.signing.key
      service.signing.salt signed.signedPath signed.signatureSegment then .ok ()
  else .error (.forbidden [.text "invalid signature"])

/-- The steps of `handle` in front of the parser. -/
def authorize (service : ApiService) (rawPath : List Char) : Except AppError SignedRequest := do
  let signed ← (split rawPath).mapError urlParseError
  verifyOrReject service signed
  return signed

/-- `handle`, with the negotiation of the format and the resize as what happens to the
query. -/
def handle (service : ApiService) (respond : ResizeQuery → Except AppError Response)
    (rawPath : List Char) : Except AppError Response := do
  let signed ← authorize service rawPath
  let parsed ← (signed.parseWithConfig service.codings service.presets
    service.allowedOptions).mapError urlParseError
  respond parsed.intoResizeQuery

/-! ## The gate -/

/-- The signature segment entitles to the rest of the path. -/
def Entitled (service : ApiService) (signature remainder : List Char) : Prop :=
  (signature = unsignedMarker ∧ service.signing.allowUnsigned = true) ∨
    ((service.signing.key ≠ [] ∧ service.signing.salt ≠ []) ∧
      signature = sign service.hmac service.codings.base64 service.signing.key
        service.signing.salt ('/' :: remainder))

/-- The signed bytes parsed as they stand. -/
def parseSigned (service : ApiService) (signedPath : List Char) : Parsed ParsedRequest :=
  SignedRequest.parseWithConfig service.codings
    ⟨[], signedPath, (dropLeading '/' signedPath).splitOn '/'⟩ service.presets
    service.allowedOptions

theorem verifyOrReject_ok_iff (service : ApiService) (signature remainder : List Char)
    (segments : List (List Char)) :
    verifyOrReject service ⟨signature, '/' :: remainder, segments⟩ = .ok () ↔
      Entitled service signature remainder := by
  rw [verifyOrReject, Entitled]
  by_cases escape : signature = unsignedMarker
  · have noSignature : signature ≠ sign service.hmac service.codings.base64 service.signing.key
        service.signing.salt ('/' :: remainder) := by
      rw [escape]
      exact Ne.symm (sign_ne_unsigned _ _ _ _ _)
    rw [if_pos escape]
    cases service.signing.allowUnsigned with
    | false => simp [noSignature]
    | true => simp [escape]
  · have spelled := verifySignature_iff service.hmac service.codings.base64
      service.signing.key service.signing.salt ('/' :: remainder) signature
    have configured : service.signing.enabled = true ↔
        service.signing.key ≠ [] ∧ service.signing.salt ≠ [] := decide_eq_true_iff
    rw [if_neg escape, ← configured, ← spelled]
    cases service.signing.enabled with
    | false => simp [escape]
    | true =>
        rw [Bool.not_true, if_neg Bool.false_ne_true]
        split
        case isTrue verified => simp [verified]
        case isFalse refused => simp [escape, refused]

theorem authorize_ok_iff (service : ApiService) (rawPath : List Char) (request : SignedRequest) :
    authorize service rawPath = .ok request ↔
      ∃ signature remainder, Splits rawPath signature remainder ∧
        Entitled service signature remainder ∧
        request = ⟨signature, '/' :: remainder, remainder.splitOn '/'⟩ := by
  have splitOk (signed : SignedRequest) :
      (split rawPath).mapError urlParseError = .ok signed ↔ split rawPath = .ok signed := by
    cases split rawPath <;> simp [Except.mapError]
  rw [authorize, Outcome.bind_ok_iff]
  simp only [splitOk, split_eq_ok_iff, Outcome.bind_ok_iff]
  constructor
  · rintro ⟨_, ⟨signature, remainder, splits, rfl⟩, _, verified, same⟩
    obtain rfl := Except.ok.inj same
    exact ⟨signature, remainder, splits, (verifyOrReject_ok_iff ..).mp verified, rfl⟩
  · rintro ⟨signature, remainder, splits, entitled, rfl⟩
    exact ⟨_, ⟨signature, remainder, splits, rfl⟩, (),
      (verifyOrReject_ok_iff ..).mpr entitled, rfl⟩

theorem handle_of_authorized (service : ApiService)
    (respond : ResizeQuery → Except AppError Response) {rawPath signature remainder : List Char}
    (splits : Splits rawPath signature remainder)
    (entitled : Entitled service signature remainder) :
    handle service respond rawPath =
      (do
        let parsed ← (parseSigned service ('/' :: remainder)).mapError urlParseError
        respond parsed.intoResizeQuery) := by
  have authorized := (authorize_ok_iff service rawPath _).mpr
    ⟨signature, remainder, splits, entitled, rfl⟩
  rw [handle, authorized]
  rfl

/-- The endpoint parses a request exactly when its signature segment entitles to the rest of
its path; then it parses those signed bytes and nothing else, and otherwise its answer
depends on no parser and on no response. -/
theorem handle_gated (service : ApiService) (rawPath : List Char) :
    (∀ request, authorize service rawPath = .ok request ↔
      ∃ signature remainder, Splits rawPath signature remainder ∧
        Entitled service signature remainder ∧
        request = ⟨signature, '/' :: remainder, remainder.splitOn '/'⟩) ∧
    (∀ signature remainder, Splits rawPath signature remainder →
      Entitled service signature remainder →
        ∀ respond : ResizeQuery → Except AppError Response, handle service respond rawPath =
          (do
            let parsed ← (parseSigned service ('/' :: remainder)).mapError urlParseError
            respond parsed.intoResizeQuery)) ∧
    ((¬ ∃ signature remainder, Splits rawPath signature remainder ∧
        Entitled service signature remainder) →
      ∃ refusal, ∀ presets allowedOptions, ∀ respond : ResizeQuery → Except AppError Response,
        handle { service with presets, allowedOptions } respond rawPath = .error refusal) := by
  refine ⟨authorize_ok_iff service rawPath, ?_, ?_⟩
  · intro signature remainder splits entitled respond
    exact handle_of_authorized service respond splits entitled
  · intro refused
    cases answer : authorize service rawPath with
    | ok request =>
        obtain ⟨signature, remainder, splits, entitled, _⟩ :=
          (authorize_ok_iff service rawPath request).mp answer
        exact absurd ⟨signature, remainder, splits, entitled⟩ refused
    | error refusal =>
        refine ⟨refusal, fun presets allowedOptions respond => ?_⟩
        have same : authorize { service with presets, allowedOptions } rawPath = .error refusal :=
          answer
        rw [handle, same]
        rfl

/-- The code that the documentation states for its key, its salt and its path; what other
messages are given here merely depends on them. -/
def documentedHmac : Hmac := fun key message =>
  if key = encodeUtf8 "my-signing-key".toList ∧
      message = encodeUtf8 ("my-salt".toList ++
        "/rs:fill:300:300/q:80/aHR0cHM6Ly9pbWFnZXMuZXhhbXBsZS5jb20vcGhvdG8uanBn.jpg".toList) then
    #v[
      117, 238, 193, 42, 12, 14, 243, 1, 94, 53, 149, 145, 90, 10, 119, 80, 31, 99, 43, 3, 164,
      86, 134, 12, 253, 227, 10, 106, 237, 132, 10, 12]
  else Vector.ofFn fun index => (key ++ message).getD index 0

/-- The worked example of the documentation. -/
def documented : ApiService where
  signing :=
    { key := encodeUtf8 "my-signing-key".toList, salt := encodeUtf8 "my-salt".toList,
      allowUnsigned := false }
  presets := .empty
  allowedOptions := .unrestricted
  codings := ⟨.urlSafeNoPad, .utf8⟩
  hmac := documentedHmac

theorem handle_gated_documented :
    handle documented .ok ("/de7BKgwO8wFeNZWRWgp3UB9jKwOkVoYM_eMKau2ECgw".toList ++
        "/rs:fill:300:300/q:80/aHR0cHM6Ly9pbWFnZXMuZXhhbXBsZS5jb20vcGhvdG8uanBn.jpg".toList) =
      (do
        let parsed ← (parseSigned documented
          "/rs:fill:300:300/q:80/aHR0cHM6Ly9pbWFnZXMuZXhhbXBsZS5jb20vcGhvdG8uanBn.jpg".toList).mapError
            urlParseError
        .ok parsed.intoResizeQuery) :=
  (handle_gated documented _).2.1 "de7BKgwO8wFeNZWRWgp3UB9jKwOkVoYM_eMKau2ECgw".toList
    "rs:fill:300:300/q:80/aHR0cHM6Ly9pbWFnZXMuZXhhbXBsZS5jb20vcGhvdG8uanBn.jpg".toList
    ⟨by decide, by decide, by decide⟩ (.inr (by decide)) .ok

end Api

end ImageResizer
