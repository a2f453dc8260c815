import ImageResizer.SourceGuard
import ImageResizer.Params
import Mathlib.Tactic.Common

/-!
# Fetching source and watermark images

`fetch_validated`, `download_image` and `download_watermark_if_needed`
(`services/image/handler.rs`) against an arbitrary network: what the resolver, the
client and the servers answer at every hop is a parameter, so a statement about all
networks is one about every sequence of redirects and DNS answers.

A fetch also records the requests it sends, in order.
-/

namespace ImageResizer

open SourceGuard

/-- What a server sends back.  The `Location` header is absent, present but not valid
text, or present. -/
structure Response where
  status : Nat
  location : Option (Option String)
  contentLength : Option UInt64
  body : List (Except String (List UInt8))

/-- The outside world of one fetch, hop by hop. -/
structure Network (lib : UrlLibrary) where
  lookupHost : Nat → String → UInt16 → Except String (List SocketAddr)
  buildClient : Nat → String → SocketAddr → Except String Unit
  send : Nat → lib.Url → SocketAddr → Except String Response

/-- One request: the URL asked for at a hop, and the address the client was pinned to. -/
structure Request (lib : UrlLibrary) where
  hop : Nat
  url : lib.Url
  host : String
  port : UInt16
  addr : SocketAddr

/-- A result together with the requests sent on the way to it. -/
structure Traced (lib : UrlLibrary) (α : Type) where
  requests : List (Request lib)
  result : Except Failure α

namespace Traced

variable {lib : UrlLibrary} {α β : Type}

def fail (failure : Failure) : Traced lib α := ⟨[], .error failure⟩

/-- Continue with the value, keeping what was sent before. -/
def andThen (traced : Traced lib α) (next : α → Except Failure β) : Traced lib β :=
  ⟨traced.requests, traced.result.bind next⟩

end Traced

namespace Fetch

variable (lib : UrlLibrary) (config : PerformanceConfig) (network : Network lib)

/-- Whether a URL is exempt from the private-range block: only as a match of a
non-empty allowlist.  A URL outside one is refused. -/
def sourceMatchesAllowlist (url : lib.Url) : Except Failure Bool :=
  match config.allowedSources with
  | some (entry :: entries) =>
      if isAllowedSource lib url (entry :: entries) then .ok true
      else .error (.rejected (.notAllowlisted (lib.toString url)))
  | _ => .ok false

/-- The overrides of a hop. -/
def hopPolicy (allowPrivate : Bool) : Policy where
  allowLoopback := config.allowLoopbackSourceAddresses
  allowLinkLocal := config.allowLinkLocalSourceAddresses
  allowPrivate

/-- Everything a hop does before it sends: the checks, the resolution and the client
pinned to the resolved address. -/
def prepareHop (hop : Nat) (current : lib.Url) : Except Failure (Request lib) := do
  validateScheme lib current
  let allowPrivate ← sourceMatchesAllowlist lib config current
  let host ← Failure.required ("Source URL '" ++ lib.toString current ++ "' has no host")
    (lib.hostStr current)
  let port ← Failure.required
    ("Unable to determine port for source URL '" ++ lib.toString current ++ "'")
    (lib.portOrKnownDefault current)
  let addr ← resolveValidatedAddr (network.lookupHost hop) host port
    (hopPolicy config allowPrivate)
  Failure.withContext "Failed to build validated HTTP client"
    (network.buildClient hop host addr)
  return { hop, url := current, host, port, addr }

/-- The next URL of a redirect. -/
def redirectTarget (current : lib.Url) (response : Response) : Except Failure lib.Url := do
  let header ← Failure.required
    ("Redirect response from '" ++ lib.toString current ++ "' has no Location header")
    response.location
  let location ← Failure.withContext "Redirect Location header is not valid UTF-8"
    (header.elim (.error "failed to convert header to a str") .ok)
  Failure.withContext ("Failed to resolve redirect location '" ++ location ++ "'")
    (lib.join current location)

def isRedirection (response : Response) : Bool := 300 ≤ response.status && response.status < 400

/-- The loop of `fetch_validated` with `remaining` requests left. -/
def fetchLoop : (remaining hop : Nat) → lib.Url → Traced lib Response
  | 0, _, _ => .fail (.message
      ("Too many redirects while fetching source image (max " ++
        Nat.repr config.maxRedirects.toNat ++ ")"))
  | remaining + 1, hop, current =>
      match prepareHop lib config network hop current with
      | .error failure => .fail failure
      | .ok request =>
          match network.send hop current request.addr with
          | .error cause =>
              ⟨[request], .error ((Failure.message cause).context
                ("Request to source URL '" ++ lib.toString current ++ "' failed"))⟩
          | .ok response =>
              if isRedirection response then
                match redirectTarget lib current response with
                | .error failure => ⟨[request], .error failure⟩
                | .ok next =>
                    let rest := fetchLoop remaining (hop + 1) next
                    ⟨request :: rest.requests, rest.result⟩
              else ⟨[request], .ok response⟩

/-- `max_redirects` redirects are `max_redirects + 1` requests. -/
def fetchValidated (url : String) : Traced lib Response :=
  match lib.parse url with
  | .error cause => .fail ((Failure.message cause).context "Invalid source URL")
  | .ok current => fetchLoop lib config network (config.maxRedirects.toNat + 1) 0 current

/-- Read the body, stopping at the first chunk that takes it over the cap. -/
def readBody (url : String) : (total : Nat) → List (Except String (List UInt8)) →
    Except Failure (List UInt8)
  | _, [] => .ok []
  | _, .error cause :: _ =>
      .error ((Failure.message cause).context "Error while streaming image body")
  | total, .ok chunk :: rest =>
      if config.maxImageSize.toNat < total + chunk.length then
        .error (.message ("Image too large: exceeded " ++ Nat.repr config.maxImageSize.toNat ++
          " bytes while streaming from " ++ url))
      else do
        let body ← readBody url (total + chunk.length) rest
        return chunk ++ body

/-- What `download_image` does with the final response. -/
def readImage (statusText : Nat → String) (url : String) (response : Response) :
    Except Failure (List UInt8) :=
  if response.status < 200 || 300 ≤ response.status then
    .error (.message ("Failed to download image from " ++ url ++ ": status " ++
      statusText response.status))
  else
    match response.contentLength with
    | some length =>
        if config.maxImageSize < length then
          .error (.message ("Image too large: " ++ Nat.repr length.toNat ++ " bytes (max: " ++
            Nat.repr config.maxImageSize.toNat ++ " bytes)"))
        else readBody config url 0 response.body
    | none => readBody config url 0 response.body

/-- `download_image`, once its semaphore permit is held. -/
def downloadImage (statusText : Nat → String) (url : String) : Traced lib (List UInt8) :=
  (fetchValidated lib config network url).andThen (readImage config statusText url)

/-- The watermark URL: the request's own, else the configured one. -/
def watermarkUrl (params : ResizeQuery) : Except Failure (Option String) :=
  match params.watermark with
  | none => .ok none
  | some watermark =>
      match watermark.url <|> config.watermarkUrl with
      | some url => .ok (some url)
      | none => .error (.message ("watermark requested (wm:) but no watermark image is " ++
          "available - set WATERMARK_URL or pass wmu:\x7bbase64url\x7d in the request"))

/-- `download_watermark_if_needed`. -/
def downloadWatermarkIfNeeded (statusText : Nat → String) (params : ResizeQuery) :
    Traced lib (Option (List UInt8)) :=
  match watermarkUrl config params with
  | .error failure => .fail failure
  | .ok none => ⟨[], .ok none⟩
  | .ok (some url) =>
      let traced := downloadImage lib config network statusText url
      match traced.result with
      | .error failure =>
          ⟨traced.requests, .error (failure.context "Failed to download watermark image")⟩
      | .ok bytes => ⟨traced.requests, .ok (some bytes)⟩

/-! ## What every request has passed -/

/-- The URL of a request matches a non-empty allowlist. -/
def matchesAllowlist (url : lib.Url) : Bool :=
  match config.allowedSources with
  | some (entry :: entries) => isAllowedSource lib url (entry :: entries)
  | _ => false

/-- What holds of a request by the time it is sent. -/
structure Guarded (request : Request lib) : Prop where
  scheme : lib.scheme request.url = "http" ∨ lib.scheme request.url = "https"
  /-- The host and port are those of this hop's own URL. -/
  target : lib.hostStr request.url = some request.host ∧
    lib.portOrKnownDefault request.url = some request.port
  /-- The address is the literal the host spells, or comes from this hop's own lookup
  of the host, every answer of which was checked. -/
  resolved : parseIpLiteral request.host = some request.addr.ip ∨
    ∃ addrs, network.lookupHost request.hop request.host request.port = .ok addrs ∧
      request.addr ∈ addrs ∧
      ∀ other ∈ addrs, isBlockedIpWithPolicy other.ip
        (hopPolicy config (matchesAllowlist lib config request.url)) = false
  /-- The address is not blocked under the policy of this hop. -/
  unblocked : isBlockedIpWithPolicy request.addr.ip
    (hopPolicy config (matchesAllowlist lib config request.url)) = false
  /-- No request leaves a non-empty allowlist. -/
  allowlisted : ∀ allowed, config.allowedSources = some allowed → allowed ≠ [] →
    isAllowedSource lib request.url allowed = true
  /-- A private address is only reached through an allowlist match of this hop's URL. -/
  private_allowlisted : request.addr.ip.isPrivate = true →
    ∃ allowed, config.allowedSources = some allowed ∧
      isAllowedSource lib request.url allowed = true
  /-- Loopback and link-local addresses need their own override. -/
  loopback_allowed : request.addr.ip.isLoopback = true →
    config.allowLoopbackSourceAddresses = true
  linkLocal_allowed : request.addr.ip.isLinkLocal = true →
    config.allowLinkLocalSourceAddresses = true

theorem validateScheme_ok {url : lib.Url} {result : Unit}
    (ok : validateScheme lib url = .ok result) :
    lib.scheme url = "http" ∨ lib.scheme url = "https" := by
  unfold validateScheme at ok
  split at ok
  · assumption
  · cases ok

theorem sourceMatchesAllowlist_ok {url : lib.Url} {allowPrivate : Bool}
    (ok : sourceMatchesAllowlist lib config url = .ok allowPrivate) :
    allowPrivate = matchesAllowlist lib config url ∧
      ∀ allowed, config.allowedSources = some allowed → allowed ≠ [] →
        isAllowedSource lib url allowed = true := by
  unfold sourceMatchesAllowlist at ok
  split at ok
  case h_1 entry entries configured =>
    split at ok
    · rename_i allowed
      cases ok
      simp [matchesAllowlist, configured, allowed]
    · cases ok
  case h_2 unconfigured =>
    cases ok
    constructor
    · unfold matchesAllowlist
      split
      · rename_i entry entries configured
        exact absurd configured (unconfigured entry entries)
      · rfl
    · intro allowed configured nonempty
      obtain ⟨entry, entries, rfl⟩ := List.exists_cons_of_ne_nil nonempty
      exact absurd configured (unconfigured entry entries)

/-- An address that passed a hop's policy belongs to no class its overrides exclude. -/
theorem classes_of_unblocked {ip : IpAddr} {allowPrivate : Bool}
    (unblocked : isBlockedIpWithPolicy ip (hopPolicy config allowPrivate) = false) :
    (ip.isLoopback = true → config.allowLoopbackSourceAddresses = true) ∧
      (ip.isLinkLocal = true → config.allowLinkLocalSourceAddresses = true) ∧
      (ip.isPrivate = true → allowPrivate = true) := by
  have passed := mt (isBlocked_iff ip (hopPolicy config allowPrivate)).mpr (by simp [unblocked])
  simp only [hopPolicy, not_or, not_and, Bool.not_eq_false] at passed
  exact ⟨passed.1, passed.2.1, passed.2.2.1⟩

theorem prepareHop_ok {hop : Nat} {current : lib.Url} {request : Request lib}
    (ok : prepareHop lib config network hop current = .ok request) :
    request.hop = hop ∧ request.url = current ∧ Guarded lib config network request := by
  unfold prepareHop at ok
  obtain ⟨_, schemeOk, ok⟩ := Failure.bind_ok ok
  obtain ⟨allowPrivate, matchOk, ok⟩ := Failure.bind_ok ok
  obtain ⟨host, hostOk, ok⟩ := Failure.bind_ok ok
  obtain ⟨port, portOk, ok⟩ := Failure.bind_ok ok
  obtain ⟨addr, addrOk, ok⟩ := Failure.bind_ok ok
  obtain ⟨_, _, ok⟩ := Failure.bind_ok ok
  cases ok
  obtain ⟨matched, allowlisted⟩ := sourceMatchesAllowlist_ok lib config matchOk
  obtain ⟨unblocked, resolved⟩ := resolveValidatedAddr_ok addrOk
  rw [matched] at unblocked resolved
  obtain ⟨loopback, linkLocal, privateOnly⟩ := classes_of_unblocked config unblocked
  refine ⟨rfl, rfl, ?_⟩
  constructor
  case scheme => exact validateScheme_ok lib schemeOk
  case target => exact ⟨Failure.required_ok hostOk, Failure.required_ok portOk⟩
  case resolved => exact resolved
  case unblocked => exact unblocked
  case allowlisted => exact allowlisted
  case private_allowlisted =>
    intro isPrivate
    have allowed := privateOnly isPrivate
    unfold matchesAllowlist at allowed
    split at allowed
    · rename_i entry entries configured
      exact ⟨_, configured, allowed⟩
    · cases allowed
  case loopback_allowed => exact loopback
  case linkLocal_allowed => exact linkLocal

/-- The requests of a loop that starts at a hop: one per hop, each guarded. -/
theorem fetchLoop_guarded (remaining hop : Nat) (current : lib.Url) :
    let requests := (fetchLoop lib config network remaining hop current).requests
    requests.length ≤ remaining ∧
      requests.map Request.hop = List.range' hop requests.length ∧
      ∀ request ∈ requests, Guarded lib config network request := by
  induction remaining generalizing hop current with
  | zero => simp [fetchLoop, Traced.fail]
  | succ remaining ih =>
      simp only [fetchLoop]
      split
      case h_1 failure => simp [Traced.fail]
      case h_2 request prepared =>
        obtain ⟨atHop, _, guarded⟩ := prepareHop_ok lib config network prepared
        have single : [request].length ≤ remaining + 1 ∧
            [request].map Request.hop = List.range' hop [request].length ∧
            ∀ sent ∈ [request], Guarded lib config network sent := by
          simp [atHop, guarded]
        split
        case h_1 => exact single
        case h_2 response =>
          split
          · split
            case h_1 => exact single
            case h_2 next joined =>
              obtain ⟨bound, hops, rest⟩ := ih (hop + 1) next
              refine ⟨by simpa using bound, ?_, ?_⟩
              · simp only [List.map_cons, atHop, hops, List.length_cons, List.range'_succ]
              · intro sent member
                rcases List.mem_cons.mp member with rfl | later
                · exact guarded
                · exact rest sent later
          · exact single

/-- A fetch of any kind stays within the guard: at most `max_redirects + 1` requests,
numbered by their hops, every one of them guarded. -/
def StaysGuarded {α : Type} (traced : Traced lib α) : Prop :=
  traced.requests.length ≤ config.maxRedirects.toNat + 1 ∧
    traced.requests.map Request.hop = List.range traced.requests.length ∧
    ∀ request ∈ traced.requests, Guarded lib config network request

theorem fetchValidated_guarded (url : String) :
    StaysGuarded lib config network (fetchValidated lib config network url) := by
  unfold fetchValidated
  split
  case h_1 => simp [StaysGuarded, Traced.fail]
  case h_2 current parsed =>
    obtain ⟨bound, hops, guarded⟩ :=
      fetchLoop_guarded lib config network (config.maxRedirects.toNat + 1) 0 current
    exact ⟨bound, by rw [hops, List.range_eq_range'], guarded⟩

theorem downloadImage_guarded (statusText : Nat → String) (url : String) :
    StaysGuarded lib config network (downloadImage lib config network statusText url) :=
  fetchValidated_guarded lib config network url

/-- Whatever the resolver and the servers answer, neither the source download nor the
watermark download of any request leaves the guard. -/
theorem downloads_guarded (statusText : Nat → String) (url : String) (params : ResizeQuery) :
    StaysGuarded lib config network (downloadImage lib config network statusText url) ∧
      StaysGuarded lib config network
        (downloadWatermarkIfNeeded lib config network statusText params) := by
  refine ⟨downloadImage_guarded lib config network statusText url, ?_⟩
  unfold downloadWatermarkIfNeeded
  split
  case h_1 => simp [StaysGuarded, Traced.fail]
  case h_2 => simp [StaysGuarded]
  case h_3 watermark named =>
    have guarded := downloadImage_guarded lib config network statusText watermark
    simp only
    split <;> exact guarded

end Fetch

end ImageResizer
