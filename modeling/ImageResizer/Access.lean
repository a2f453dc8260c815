import ImageResizer.Access.Secrets
import ImageResizer.Config.Startup
import ImageResizer.ResizeEndpoint

/-!
# Who is let in

What the environment makes of the two doors of the service: the signing of
`modules/signing/config.rs` and the bearer token of `modules/metrics_auth`, as
`ApiService::create` puts them together.  A service that starts has been told for each door
who may pass it.  The second door is there only in a build with the feature `otel`.
-/

namespace ImageResizer

open Text Signing

/-- The variables that the API is made of, beside those of the configuration. -/
structure ApiEnv extends EnvConfig where
  subPath : String
  signingKey : Option (List Char)
  signingSalt : Option (List Char)
  allowUnsignedRequests : Option Bool
  metricsAuthToken : Option (List Char)
  allowUnauthenticatedMetrics : Option Bool
  presets : Option (List Char)
  allowedProcessingOptions : Option (List Char)

/-! ## Signing -/

/-- `SigningConfig::from_env`. -/
def Signing.SigningConfig.fromEnv (env : ApiEnv) : Except Message SigningConfig := do
  let allowUnsigned := env.allowUnsignedRequests.getD false
  let key ← decodeHexEnv "SIGNING_KEY" env.signingKey
  let salt ← decodeHexEnv "SIGNING_SALT" env.signingSalt
  let signing : SigningConfig := ⟨key, salt, allowUnsigned⟩
  if !signing.enabled && !signing.allowUnsigned then
    .error [.text ("SIGNING_KEY and SIGNING_SALT must both be set (hex-encoded) - signed URLs " ++
      "are the default (#27), not opt-in. Set ALLOW_UNSIGNED_REQUESTS=true explicitly for " ++
      "local development instead if you don't want to configure a key yet.")]
  return signing

namespace ApiEnv

/-- The environment names a signing key and a salt. -/
structure SignsWith (env : ApiEnv) (key salt : List UInt8) : Prop where
  spellsKey : Spells (env.signingKey.getD []) key
  spellsSalt : Spells (env.signingSalt.getD []) salt
  keyed : key ≠ []
  salted : salt ≠ []

/-- The environment leaves the door for unsigned requests open. -/
def LetsUnsigned (env : ApiEnv) : Prop := env.allowUnsignedRequests = some true

instance (env : ApiEnv) : Decidable env.LetsUnsigned := inferInstanceAs (Decidable (_ = _))

end ApiEnv

section Signing

variable {env : ApiEnv} {signing : SigningConfig}

theorem letsUnsigned_iff : env.LetsUnsigned ↔ env.allowUnsignedRequests.getD false = true := by
  rw [ApiEnv.LetsUnsigned]
  cases env.allowUnsignedRequests with
  | none => simp
  | some allowed => simp

/-- The secrets are what the variables spell, and without both of them unsigned requests were
allowed in so many words. -/
theorem Signing.SigningConfig.fromEnv_ok_iff :
    SigningConfig.fromEnv env = .ok signing ↔
      Spells (env.signingKey.getD []) signing.key ∧ Spells (env.signingSalt.getD []) signing.salt ∧
        (signing.allowUnsigned = true ↔ env.LetsUnsigned) ∧
        (signing.enabled = true ∨ env.LetsUnsigned) := by
  rw [letsUnsigned_iff, ← decodeHexEnv_ok_iff "SIGNING_KEY", ← decodeHexEnv_ok_iff "SIGNING_SALT",
    ← Bool.eq_iff_iff]
  constructor
  · intro made
    obtain ⟨key, keyOk, made⟩ := (Outcome.bind_ok_iff ..).mp made
    obtain ⟨salt, saltOk, made⟩ := (Outcome.bind_ok_iff ..).mp made
    dsimp only at made
    split at made
    case isTrue => cases made
    case isFalse open_ =>
        obtain rfl := Except.ok.inj made
        refine ⟨keyOk, saltOk, rfl, ?_⟩
        simpa [imp_iff_not_or] using open_
  · rintro ⟨keyOk, saltOk, allowed, open_⟩
    refine (Outcome.bind_ok_iff ..).mpr ⟨_, keyOk, ?_⟩
    refine (Outcome.bind_ok_iff ..).mpr ⟨_, saltOk, ?_⟩
    rw [← allowed] at open_ ⊢
    have closed : ¬ (!signing.enabled && !signing.allowUnsigned) = true := by
      simpa [imp_iff_not_or] using open_
    exact if_neg closed

end Signing

/-! ## Metrics -/

structure MetricsAuthConfig where
  token : List UInt8
  allowUnauthenticated : Bool
  deriving DecidableEq

namespace MetricsAuthConfig

def enabled (config : MetricsAuthConfig) : Bool := config.token ≠ []

/-- `MetricsAuthConfig::from_env`. -/
def fromEnv (env : ApiEnv) : Except Message MetricsAuthConfig := do
  let allowUnauthenticated := env.allowUnauthenticatedMetrics.getD false
  let token := (((env.metricsAuthToken.map trim).filter (· ≠ [])).map encodeUtf8).getD []
  let metricsAuth : MetricsAuthConfig := ⟨token, allowUnauthenticated⟩
  if !metricsAuth.enabled && !metricsAuth.allowUnauthenticated then
    .error [.text ("METRICS_AUTH_TOKEN must be set (#77) - /metrics exposes request rates, " ++
      "cache hit ratios, error counts and latency histograms, which is reconnaissance-grade " ++
      "information about this service's traffic. Set METRICS_AUTH_TOKEN to a secret " ++
      "bearer token that the Prometheus scraper sends via its `authorization` scrape " ++
      "config, or set ALLOW_UNAUTHENTICATED_METRICS=true to explicitly opt into " ++
      "serving /metrics without authentication.")]
  return metricsAuth

def verifyToken (config : MetricsAuthConfig) (provided : List Char) : Bool :=
  if !config.enabled then false
  else
    let provided := encodeUtf8 provided
    if provided.length ≠ config.token.length then false else provided = config.token

/-- Where it is enabled, the token is compared as a whole. -/
theorem verifyToken_iff (config : MetricsAuthConfig) (provided : List Char) :
    config.verifyToken provided = true ↔
      config.token ≠ [] ∧ encodeUtf8 provided = config.token := by
  have configured : config.enabled = true ↔ config.token ≠ [] := decide_eq_true_iff
  rw [verifyToken, ← configured]
  cases config.enabled with
  | false => simp
  | true =>
      by_cases same : encodeUtf8 provided = config.token
      · simp [same]
      · simp [same]

end MetricsAuthConfig

namespace MetricsEndpoint

structure Response where
  status : Nat
  wwwAuthenticate : Option String
  body : String
  deriving DecidableEq

def unauthorizedResponse : Response where
  status := 401
  wwwAuthenticate := some "Bearer realm=\"metrics\""
  body := "unauthorized"

/-- `BEARER_PREFIX`. -/
def bearerPrefix : List Char := "Bearer ".toList

/-- `require_metrics_auth`, in front of the handler, with the values of `Authorization`. -/
def requireMetricsAuth (config : MetricsAuthConfig) (authorization : List (List UInt8))
    (next : Response) : Response :=
  if config.allowUnauthenticated then next
  else
    let providedToken := (authorization.head?.bind ResizeEndpoint.toStr).bind
      (List.dropPrefix? · bearerPrefix)
    let authorized :=
      match providedToken with
      | some token => config.verifyToken token
      | none => false
    if authorized then next else unauthorizedResponse

/-- The route of the metrics in `router`, where a build has one, in front of the handler. -/
def route (metricsAuth : Option MetricsAuthConfig) (authorization : List (List UInt8))
    (next : Response) : Option Response :=
  metricsAuth.map fun config => requireMetricsAuth config authorization next

end MetricsEndpoint

namespace ApiEnv

/-- The token for metrics without the blanks around it, empty where none is set. -/
def metricsToken (env : ApiEnv) : List Char := (env.metricsAuthToken.map trim).getD []

/-- The environment serves metrics to everybody. -/
def LetsUnauthenticated (env : ApiEnv) : Prop := env.allowUnauthenticatedMetrics = some true

/-- Everybody may read metrics, or the request shows the token that the environment names, in
visible characters. -/
def AdmitsMetrics (env : ApiEnv) (authorization : List (List UInt8)) : Prop :=
  env.LetsUnauthenticated ∨
    env.metricsToken ≠ [] ∧
      ∃ value, authorization.head? = some value ∧
        value = encodeUtf8 (MetricsEndpoint.bearerPrefix ++ env.metricsToken) ∧
        ∀ byte ∈ value, byte = 9 ∨ 32 ≤ byte ∧ byte < 127

end ApiEnv

section Metrics

open MetricsEndpoint

variable {env : ApiEnv} {metricsAuth : MetricsAuthConfig}

theorem letsUnauthenticated_iff :
    env.LetsUnauthenticated ↔ env.allowUnauthenticatedMetrics.getD false = true := by
  rw [ApiEnv.LetsUnauthenticated]
  cases env.allowUnauthenticatedMetrics with
  | none => simp
  | some allowed => simp

theorem encodeUtf8_ne_nil_iff {text : List Char} : encodeUtf8 text ≠ [] ↔ text ≠ [] :=
  not_congr ⟨fun empty => encodeUtf8_injective empty, fun empty => empty ▸ rfl⟩

theorem MetricsAuthConfig.fromEnv_ok_iff :
    MetricsAuthConfig.fromEnv env = .ok metricsAuth ↔
      metricsAuth = ⟨encodeUtf8 env.metricsToken, env.allowUnauthenticatedMetrics.getD false⟩ ∧
        (env.metricsToken ≠ [] ∨ env.LetsUnauthenticated) := by
  have token : (((env.metricsAuthToken.map trim).filter (· ≠ [])).map encodeUtf8).getD [] =
      encodeUtf8 env.metricsToken := by
    rw [ApiEnv.metricsToken]
    cases env.metricsAuthToken.map trim with
    | none => rfl
    | some text =>
        match text with
        | [] => rfl
        | _ :: _ => rfl
  have closed (config : MetricsAuthConfig) :
      (!config.enabled && !config.allowUnauthenticated) = true ↔
        ¬ (config.token ≠ [] ∨ config.allowUnauthenticated = true) := by
    simp [MetricsAuthConfig.enabled]
  rw [MetricsAuthConfig.fromEnv, token, letsUnauthenticated_iff, ← encodeUtf8_ne_nil_iff]
  dsimp only
  split
  case isTrue refused =>
      constructor
      · intro made
        cases made
      · rintro ⟨-, open_⟩
        exact absurd open_ ((closed _).mp refused)
  case isFalse passed =>
      have open_ := not_not.mp (mt (closed _).mpr passed)
      constructor
      · intro made
        exact ⟨(Except.ok.inj made).symm, open_⟩
      · rintro ⟨same, -⟩
        rw [same]
        rfl

/-- What an `Authorization` shows is visible ASCII, byte for byte. -/
theorem toStr_eq_some_iff {value : List UInt8} {text : List Char} :
    ResizeEndpoint.toStr value = some text ↔
      value = encodeUtf8 text ∧ ∀ byte ∈ value, byte = 9 ∨ 32 ≤ byte ∧ byte < 127 := by
  have visible : (value.all fun byte => byte = 9 ∨ 32 ≤ byte ∧ byte < 127) = true ↔
      ∀ byte ∈ value, byte = 9 ∨ 32 ≤ byte ∧ byte < 127 := by
    simp
  have ascii (shown : ∀ byte ∈ value, byte = 9 ∨ 32 ≤ byte ∧ byte < 127) :
      ∀ byte ∈ value, byte.toNat < 128 := by
    intro byte member
    rcases shown byte member with rfl | ⟨-, low⟩
    · decide
    · have := UInt8.lt_iff_toNat_lt.mp low
      exact this.trans (by decide)
  rw [ResizeEndpoint.toStr]
  split
  case isTrue shown =>
      have encoded := encodeUtf8_asciiText (ascii (visible.mp shown))
      rw [Option.some.injEq]
      constructor
      · rintro rfl
        exact ⟨encoded.symm, visible.mp shown⟩
      · rintro ⟨same, -⟩
        exact encodeUtf8_injective (encoded.trans same)
  case isFalse hidden =>
      constructor
      · intro none_
        cases none_
      · rintro ⟨-, shown⟩
        exact absurd (visible.mpr shown) hidden

/-- The token that a request shows. -/
theorem providedToken_eq_some_iff {authorization : List (List UInt8)} {token : List Char} :
    (authorization.head?.bind ResizeEndpoint.toStr).bind (List.dropPrefix? · bearerPrefix) =
        some token ↔
      ∃ value, authorization.head? = some value ∧ value = encodeUtf8 (bearerPrefix ++ token) ∧
        ∀ byte ∈ value, byte = 9 ∨ 32 ≤ byte ∧ byte < 127 := by
  simp only [Option.bind_eq_some_iff]
  constructor
  · rintro ⟨text, ⟨value, first, shown⟩, stripped⟩
    obtain ⟨front, whole, same⟩ := List.dropPrefix?_eq_some_iff.mp stripped
    obtain rfl := eq_of_beq same
    rw [whole] at shown
    exact ⟨value, first, toStr_eq_some_iff.mp shown⟩
  · rintro ⟨value, first, encoded⟩
    exact ⟨_, ⟨value, first, toStr_eq_some_iff.mpr encoded⟩,
      List.dropPrefix?_eq_some_iff.mpr ⟨bearerPrefix, rfl, beq_self_eq_true _⟩⟩

/-- Metrics are served to whom the environment admits, and nobody else learns anything. -/
theorem requireMetricsAuth_eq (started : MetricsAuthConfig.fromEnv env = .ok metricsAuth)
    (authorization : List (List UInt8)) (next : MetricsEndpoint.Response) :
    (env.AdmitsMetrics authorization → requireMetricsAuth metricsAuth authorization next = next) ∧
      (¬ env.AdmitsMetrics authorization →
        requireMetricsAuth metricsAuth authorization next = unauthorizedResponse) := by
  obtain ⟨rfl, -⟩ := MetricsAuthConfig.fromEnv_ok_iff.mp started
  rw [ApiEnv.AdmitsMetrics, letsUnauthenticated_iff, requireMetricsAuth]
  cases env.allowUnauthenticatedMetrics.getD false with
  | true => simp
  | false =>
      simp only [Bool.false_eq_true, if_false, false_or]
      cases provided : (authorization.head?.bind ResizeEndpoint.toStr).bind
          (List.dropPrefix? · bearerPrefix) with
      | none =>
          refine ⟨?_, fun _ => rfl⟩
          rintro ⟨-, shown⟩
          rw [providedToken_eq_some_iff.mpr shown] at provided
          cases provided
      | some token =>
          have verified :=
            MetricsAuthConfig.verifyToken_iff ⟨encodeUtf8 env.metricsToken, false⟩ token
          rw [encodeUtf8_ne_nil_iff] at verified
          dsimp only
          constructor
          · rintro ⟨named, shown⟩
            have shownToken := providedToken_eq_some_iff.mpr shown
            obtain rfl := Option.some.inj (provided.symm.trans shownToken)
            exact if_pos (verified.mpr ⟨named, rfl⟩)
          · intro outside
            refine if_neg fun accepted => outside ?_
            obtain ⟨named, same⟩ := verified.mp accepted
            obtain rfl := encodeUtf8_injective same
            exact ⟨named, providedToken_eq_some_iff.mp provided⟩

end Metrics

/-! ## The service as a whole -/

/-- An error that ends the start: its contexts, outermost first, and what went wrong. -/
structure StartError where
  contexts : List String
  message : Message

/-- What the doors and the keys of a started service are made of. -/
structure StartedService where
  api : Api.ApiService
  /-- A field of builds with the feature `otel`. -/
  metricsAuth : Option MetricsAuthConfig
  config : ServiceConfig
  /-- The sub-path that the cache puts in front of its keys. -/
  minioSubPath : String
  /-- The prefix that the storage demands of them. -/
  keyPrefix : String

section Create

variable (codings : Url.Codings) (hmac : Hmac) (debugText : List Char → String) (host : Host)
variable (services : ServiceConfig → Except StartError Unit) (otel : Bool) (env : ApiEnv)

/-- The metrics check of a build, which is there with the feature `otel`. -/
def metricsCheck : Except Message (Option MetricsAuthConfig) :=
  if otel then (MetricsAuthConfig.fromEnv env).map some else .ok none

/-- `ApiService::create` of a build with the feature `otel` or without it, around what opens the
storage and builds the services. -/
def create : Except StartError StartedService := do
  let signing ← (SigningConfig.fromEnv env).mapError (⟨[], ·⟩)
  let metricsAuth ← (metricsCheck otel env).mapError (⟨[], ·⟩)
  let presets ← (Url.PresetRegistry.parse (env.presets.getD [])).mapError fun why =>
    ⟨["failed to build preset registry"], .text "invalid PRESETS configuration: " :: why⟩
  let allowedOptions := Url.AllowedOptions.parse (env.allowedProcessingOptions.getD [])
  let config ← (ServiceConfig.tryFrom debugText host env.toEnvConfig).mapError fun failure =>
    ⟨[], [.text failure.toString]⟩
  services config
  return {
    api := { signing, presets, allowedOptions, codings, hmac }
    metricsAuth
    config
    minioSubPath := env.subPath
    keyPrefix := env.subPath }

variable {codings hmac debugText host services otel env} {started : StartedService}

theorem mapError_ok_iff {ε ε' α : Type} {f : ε → ε'} {outcome : Except ε α} {value : α} :
    outcome.mapError f = .ok value ↔ outcome = .ok value := by
  cases outcome <;> simp [Except.mapError]

theorem metricsCheck_ok_iff {metricsAuth : Option MetricsAuthConfig} :
    metricsCheck otel env = .ok metricsAuth ↔
      (otel = true → ∃ config, metricsAuth = some config ∧
        MetricsAuthConfig.fromEnv env = .ok config) ∧
      (otel = false → metricsAuth = none) := by
  cases otel with
  | false => simp [metricsCheck, eq_comm]
  | true =>
      have checked : metricsCheck true env = (MetricsAuthConfig.fromEnv env).map some := rfl
      rw [checked]
      cases MetricsAuthConfig.fromEnv env with
      | error message => simp [Except.map]
      | ok config => simp [Except.map, eq_comm]

/-- A service is created in so many steps, each of which may end the start. -/
theorem create_ok_iff :
    create codings hmac debugText host services otel env = .ok started ↔
      ∃ signing metricsAuth presets config,
        SigningConfig.fromEnv env = .ok signing ∧
          metricsCheck otel env = .ok metricsAuth ∧
          Url.PresetRegistry.parse (env.presets.getD []) = .ok presets ∧
          ServiceConfig.tryFrom debugText host env.toEnvConfig = .ok config ∧
          services config = .ok () ∧
          started =
            { api :=
                { signing, presets, codings, hmac
                  allowedOptions :=
                    Url.AllowedOptions.parse (env.allowedProcessingOptions.getD []) }
              metricsAuth, config, minioSubPath := env.subPath, keyPrefix := env.subPath } := by
  simp only [create, Outcome.bind_ok_iff, mapError_ok_iff]
  constructor
  · rintro ⟨signing, signingOk, metricsAuth, metricsOk, presets, presetsOk, config, configOk, _,
      servicesOk, made⟩
    exact ⟨signing, metricsAuth, presets, config, signingOk, metricsOk, presetsOk, configOk,
      servicesOk, (Except.ok.inj made).symm⟩
  · rintro ⟨signing, metricsAuth, presets, config, signingOk, metricsOk, presetsOk, configOk,
      servicesOk, rfl⟩
    exact ⟨signing, signingOk, metricsAuth, metricsOk, presets, presetsOk, config, configOk, (),
      servicesOk, rfl⟩

/-- **A service starts only if it is told whom to let in.**  It starts exactly when both secrets
are hexadecimal, each door of the build has its secret or was left open in so many words, the
presets and the profile can be read, and the services can be built. -/
theorem create_starts_iff :
    (∃ started, create codings hmac debugText host services otel env = .ok started) ↔
      (∃ key salt, Spells (env.signingKey.getD []) key ∧ Spells (env.signingSalt.getD []) salt ∧
        (key ≠ [] ∧ salt ≠ [] ∨ env.LetsUnsigned)) ∧
      (otel = true → env.metricsToken ≠ [] ∨ env.LetsUnauthenticated) ∧
      (∃ presets, Url.PresetRegistry.parse (env.presets.getD []) = .ok presets) ∧
      ∃ config, ServiceConfig.tryFrom debugText host env.toEnvConfig = .ok config ∧
        services config = .ok () := by
  constructor
  · rintro ⟨started, ok⟩
    obtain ⟨signing, metricsAuth, presets, config, signingOk, metricsOk, presetsOk, configOk,
      servicesOk, -⟩ := create_ok_iff.mp ok
    obtain ⟨key, salt, -, open_⟩ := SigningConfig.fromEnv_ok_iff.mp signingOk
    refine ⟨⟨_, _, key, salt, ?_⟩, fun built => ?_, ⟨presets, presetsOk⟩, config, configOk,
      servicesOk⟩
    · exact open_.imp_left of_decide_eq_true
    · obtain ⟨metrics, -, checked⟩ := (metricsCheck_ok_iff.mp metricsOk).1 built
      exact (MetricsAuthConfig.fromEnv_ok_iff.mp checked).2
  · rintro ⟨⟨key, salt, spellsKey, spellsSalt, open_⟩, metricsOpen, ⟨presets, presetsOk⟩, config,
      configOk, servicesOk⟩
    have signingOk : SigningConfig.fromEnv env =
        .ok ⟨key, salt, env.allowUnsignedRequests.getD false⟩ :=
      SigningConfig.fromEnv_ok_iff.mpr ⟨spellsKey, spellsSalt, letsUnsigned_iff.symm,
        open_.imp_left decide_eq_true⟩
    have metricsOk : ∃ metricsAuth, metricsCheck otel env = .ok metricsAuth := by
      cases otel with
      | false => exact ⟨none, rfl⟩
      | true =>
          have checked := MetricsAuthConfig.fromEnv_ok_iff.mpr ⟨rfl, metricsOpen rfl⟩
          exact ⟨some _, metricsCheck_ok_iff.mpr ⟨fun _ => ⟨_, rfl, checked⟩, nofun⟩⟩
    obtain ⟨metricsAuth, metricsOk⟩ := metricsOk
    exact ⟨_, create_ok_iff.mpr ⟨_, _, presets, config, signingOk, metricsOk, presetsOk, configOk,
      servicesOk, rfl⟩⟩

/-- The environment entitles a signature segment to the rest of a path. -/
def ApiEnv.Entitles (env : ApiEnv) (hmac : Hmac) (codings : Url.Codings)
    (signature remainder : List Char) : Prop :=
  (signature = unsignedMarker ∧ env.LetsUnsigned) ∨
    ∃ key salt, env.SignsWith key salt ∧
      signature = sign hmac codings.base64 key salt ('/' :: remainder)

theorem entitled_iff (ok : create codings hmac debugText host services otel env = .ok started)
    (signature remainder : List Char) :
    Api.Entitled started.api signature remainder ↔
      env.Entitles hmac codings signature remainder := by
  obtain ⟨signing, metricsAuth, presets, config, signingOk, -, -, -, -, rfl⟩ := create_ok_iff.mp ok
  obtain ⟨spellsKey, spellsSalt, allowed, -⟩ := SigningConfig.fromEnv_ok_iff.mp signingOk
  refine or_congr (and_congr_right fun _ => allowed) ⟨?_, ?_⟩
  · rintro ⟨⟨keyed, salted⟩, signed⟩
    exact ⟨_, _, ⟨spellsKey, spellsSalt, keyed, salted⟩, signed⟩
  · rintro ⟨key, salt, ⟨spellsKey', spellsSalt', keyed, salted⟩, signed⟩
    obtain rfl := spellsKey.unique spellsKey'
    obtain rfl := spellsSalt.unique spellsSalt'
    exact ⟨⟨keyed, salted⟩, signed⟩

/-- The resizes that the endpoint starts are for what the signed paths say. -/
theorem query_ok_iff {endpoint : ResizeEndpoint.Endpoint} {request : ResizeEndpoint.HttpRequest}
    {asked : ResizeQuery} {negotiated : Bool} :
    ResizeEndpoint.query endpoint request = .ok (asked, negotiated) ↔
      ∃ signature remainder parsed, Url.Splits request.path signature remainder ∧
        Api.Entitled endpoint.service signature remainder ∧
        Api.parseSigned endpoint.service ('/' :: remainder) = .ok parsed ∧
        (asked, negotiated) = ({ parsed.intoResizeQuery with
          format := (resolve parsed.intoResizeQuery.format request.acceptText).1 },
          (resolve parsed.intoResizeQuery.format request.acceptText).2) := by
  constructor
  · intro ok
    obtain ⟨signed, authorized, -⟩ := (Outcome.bind_ok_iff ..).mp ok
    obtain ⟨signature, remainder, splits, entitled, -⟩ :=
      (Api.authorize_ok_iff ..).mp authorized
    rw [ResizeEndpoint.query, Api.handle_of_authorized _ _ splits entitled] at ok
    obtain ⟨parsed, parsedOk, answered⟩ := (Outcome.bind_ok_iff ..).mp ok
    exact ⟨signature, remainder, parsed, splits, entitled, mapError_ok_iff.mp parsedOk,
      (Except.ok.inj answered).symm⟩
  · rintro ⟨signature, remainder, parsed, splits, entitled, parsedOk, rfl, rfl⟩
    rw [ResizeEndpoint.query, Api.handle_of_authorized _ _ splits entitled, parsedOk]
    rfl

/-- **Nobody is let in by accident.**  A service that started authorizes exactly the paths
whose signature segment the environment entitles to the rest: by the secrets it names, or as
unsigned if it lets those in.  It redirects exactly those of them that are parsed and whose
resize is found at a location that a header can name.  And it serves metrics, in a build that
has them, to the requests that show the token it names, or to all if it lets everybody. -/
theorem create_gated (ok : create codings hmac debugText host services otel env = .ok started) :
    (∀ rawPath request, Api.authorize started.api rawPath = .ok request ↔
      ∃ signature remainder, Url.Splits rawPath signature remainder ∧
        env.Entitles hmac codings signature remainder ∧
        request = ⟨signature, '/' :: remainder, remainder.splitOn '/'⟩) ∧
    (∀ headerValue resize request,
      (ResizeEndpoint.resizeHandler ⟨started.api, headerValue⟩ resize request).status = 301 ↔
        ∃ signature remainder, Url.Splits request.path signature remainder ∧
          env.Entitles hmac codings signature remainder ∧
          ∃ parsed location, Api.parseSigned started.api ('/' :: remainder) = .ok parsed ∧
            resize { parsed.intoResizeQuery with
              format := (resolve parsed.intoResizeQuery.format request.acceptText).1 } =
                .ok location ∧
            headerValue location = true) ∧
    ∀ authorization next,
      (otel = false →
        MetricsEndpoint.route started.metricsAuth authorization next = none) ∧
      (otel = true → env.AdmitsMetrics authorization →
        MetricsEndpoint.route started.metricsAuth authorization next = some next) ∧
      (otel = true → ¬ env.AdmitsMetrics authorization →
        MetricsEndpoint.route started.metricsAuth authorization next =
          some MetricsEndpoint.unauthorizedResponse) := by
  have entitles := entitled_iff ok
  refine ⟨fun rawPath request => ?_, fun headerValue resize request => ?_,
    fun authorization next => ?_⟩
  · simp only [Api.authorize_ok_iff, entitles]
  · simp only [ResizeEndpoint.redirects_iff, query_ok_iff, entitles]
    constructor
    · rintro ⟨asked, negotiated, location, ⟨signature, remainder, parsed, splits, entitled,
        parsedOk, rfl, rfl⟩, resized, valid⟩
      exact ⟨signature, remainder, splits, entitled, parsed, location, parsedOk, resized, valid⟩
    · rintro ⟨signature, remainder, splits, entitled, parsed, location, parsedOk, resized, valid⟩
      exact ⟨_, _, location, ⟨signature, remainder, parsed, splits, entitled, parsedOk, rfl⟩,
        resized, valid⟩
  · obtain ⟨signing, metricsAuth, presets, config, -, metricsOk, -, -, -, rfl⟩ :=
      create_ok_iff.mp ok
    obtain ⟨built, absent⟩ := metricsCheck_ok_iff.mp metricsOk
    refine ⟨fun without => ?_, fun otelBuilt => ?_, fun otelBuilt => ?_⟩
    · rw [absent without]
      rfl
    · obtain ⟨config, rfl, checked⟩ := built otelBuilt
      exact fun admits => congrArg some ((requireMetricsAuth_eq checked authorization next).1 admits)
    · obtain ⟨config, rfl, checked⟩ := built otelBuilt
      exact fun shut => congrArg some ((requireMetricsAuth_eq checked authorization next).2 shut)

/-- The keys that the cache writes are keys that the storage takes. -/
theorem create_keys_valid (ok : create codings hmac debugText host services otel env = .ok started)
    (clean : ∀ c ∈ env.subPath.toList, Storage.isControl c = false) (display : FloatDisplay)
    (sha256 : List UInt8 → Vector UInt8 32) {asked : ResizeQuery}
    (concrete : asked.format ≠ .auto) :
    Storage.validateCacheKey
        (CacheKey.generateKey display (digestText sha256) started.minioSubPath asked).toList
        started.keyPrefix.toList = .ok () := by
  obtain ⟨signing, metricsAuth, presets, config, -, -, -, -, -, rfl⟩ := create_ok_iff.mp ok
  rw [Storage.generateKey_text display sha256 env.subPath asked concrete]
  exact Storage.validateCacheKey_ok_iff.mpr ⟨⟨_, rfl⟩, Storage.text_clean clean _⟩

end Create

/-- The secrets of the documentation, in capitals, and a token with a blank behind it. -/
def documentedEnv : ApiEnv where
  toEnvConfig := .unset
  subPath := ""
  signingKey := some "6D792D7369676E696E672D6B6579".toList
  signingSalt := some "6d792d73616c74".toList
  allowUnsignedRequests := none
  metricsAuthToken := some "s3cr3t ".toList
  allowUnauthenticatedMetrics := none
  presets := none
  allowedProcessingOptions := none

/-- The worked example of the documentation passes the gate of a service so started, and a
request for metrics without a token does not. -/
theorem create_gated_documented :
    ∃ started, create Api.documented.codings Api.documented.hmac String.ofList smallPod
        (fun _ => .ok ()) true documentedEnv = .ok started ∧
      (∃ request, Api.authorize started.api
        ("/de7BKgwO8wFeNZWRWgp3UB9jKwOkVoYM_eMKau2ECgw".toList ++
          "/rs:fill:300:300/q:80/aHR0cHM6Ly9pbWFnZXMuZXhhbXBsZS5jb20vcGhvdG8uanBn.jpg".toList) =
            .ok request) ∧
      MetricsEndpoint.route started.metricsAuth [] ⟨200, none, ""⟩ =
        some MetricsEndpoint.unauthorizedResponse := by
  have signingOk : SigningConfig.fromEnv documentedEnv =
      .ok ⟨encodeUtf8 "my-signing-key".toList, encodeUtf8 "my-salt".toList, false⟩ := by
    decide +kernel
  have metricsOk : metricsCheck true documentedEnv =
      .ok (some ⟨encodeUtf8 "s3cr3t".toList, false⟩) := by
    decide +kernel
  have ok : create Api.documented.codings Api.documented.hmac String.ofList smallPod
      (fun _ => .ok ()) true documentedEnv = .ok _ :=
    create_ok_iff.mpr ⟨_, _, .empty, ServiceConfig.custom smallPod .unset, signingOk, metricsOk,
      rfl, rfl, rfl, rfl⟩
  have gated := create_gated ok
  refine ⟨_, ok, ⟨_, (gated.1 _ _).mpr ⟨"de7BKgwO8wFeNZWRWgp3UB9jKwOkVoYM_eMKau2ECgw".toList,
    "rs:fill:300:300/q:80/aHR0cHM6Ly9pbWFnZXMuZXhhbXBsZS5jb20vcGhvdG8uanBn.jpg".toList,
    ⟨by decide, by decide, by decide⟩, .inr ⟨encodeUtf8 "my-signing-key".toList,
      encodeUtf8 "my-salt".toList, ⟨by decide +kernel, by decide +kernel, by decide, by decide⟩,
      by decide +kernel⟩, rfl⟩⟩, (gated.2.2 [] _).2.2 rfl ?_⟩
  rintro (lets | ⟨-, value, shown, -⟩)
  · cases lets
  · cases shown

end ImageResizer
