import ImageResizer.Foundation.Text
import ImageResizer.Foundation.Transition
import ImageResizer.Storage.Core
import ImageResizer.Storage.Key

/-!
# Conditional downloads

`modules/router/middlewares.rs`, `modules/utils/etag.rs` and `modules/api/download.rs`: a
download is answered `304` from its path alone when the client shows the path's own
`ETag`, and by the storage otherwise.  The storage is the map with lifetimes that its
backends refine.
-/

namespace ImageResizer.ConditionalGet

open Text TtlMap Storage

/-! ## The middleware -/

/-- `DOWNLOAD_PATH_PREFIX`. -/
def downloadPathPrefix : List Char := "/api/images/files/".toList

def etagForRequest (path : List Char) : Option (List Char) :=
  ((List.dropPrefix? path downloadPathPrefix).filter (· ≠ [])).map fun key =>
    '"' :: (key ++ ['"'])

def stripWeakPrefix (value : List Char) : List Char :=
  match value with
  | 'W' :: '/' :: rest => rest
  | _ => value

def ifNoneMatchSatisfied (ifNoneMatch etag : List Char) : Bool :=
  ((ifNoneMatch.splitOn ',').map trim).any fun candidate =>
    candidate == ['*'] || stripWeakPrefix candidate == etag

/-- The header shows the `ETag`: it is one of the listed ones, weak or not. -/
def Carries (ifNoneMatch etag : List Char) : Prop :=
  ∃ candidate ∈ ifNoneMatch.splitOn ',', stripWeakPrefix (trim candidate) = etag

/-- `HeaderValue::from_str` accepts visible ASCII. -/
def headerValue (text : List Char) : Option (List Char) :=
  if text.all fun c => c == '\t' || (32 ≤ c.toNat && c.toNat < 127) then some text else none

/-- A response: its status, and for the first two the `ETag` header. -/
inductive Response where
  | ok (etag : Option (List Char)) (body : List UInt8)
  | notModified (etag : Option (List Char))
  | badRequest
  | notFound
  | badGateway
  deriving DecidableEq

/-- `conditional_download_middleware`, around the response of the handler. -/
def conditionalDownloadMiddleware (path : List Char) (ifNoneMatch : Option (List Char))
    (next : Response) : Response :=
  match etagForRequest path with
  | none => next
  | some etag =>
      if ifNoneMatch.any fun header => ifNoneMatchSatisfied header etag then
        .notModified (headerValue etag)
      else
        match next with
        | .ok _ body => .ok (headerValue etag) body
        | other => other

/-! ## The handler -/

/-- The service: what is stored, and the time. -/
structure Server where
  store : Store (List Char) (List UInt8) Instant Duration
  now : Instant

/-- The deployment: the prefix of its keys, and how a path segment is percent-decoded. -/
structure Deployment where
  keyPrefix : List Char
  percentDecode : List Char → Option (List Char)

variable (deployment : Deployment)

/-- The key of a download path, a single segment below the route; `none` elsewhere, and
inside if the segment does not decode. -/
def pathKey (path : List Char) : Option (Option (List Char)) :=
  ((List.dropPrefix? path downloadPathPrefix).filter fun key => key ≠ [] ∧ '/' ∉ key).map
    deployment.percentDecode

/-- `StorageService::get_image`. -/
def getImage (server : Server) (key : List Char) : Option (List UInt8) :=
  match validateCacheKey key deployment.keyPrefix with
  | .error _ => none
  | .ok () => server.store.find lifetime key server.now

/-- The response of the router behind the middleware.  A path of another route gets none of
the successful responses that this route gives. -/
def downloadHandler (server : Server) (path : List Char) : Response :=
  match pathKey deployment path with
  | none => .notFound
  | some none => .badRequest
  | some (some key) =>
      match getImage deployment server key with
      | some body => .ok none body
      | none => .notFound

def respond (server : Server) (path : List Char) (ifNoneMatch : Option (List Char)) :
    Response :=
  conditionalDownloadMiddleware path ifNoneMatch (downloadHandler deployment server path)

/-! ## Runs -/

/-- A successful response sent with an `ETag`. -/
structure Sent where
  path : List Char
  etag : List Char
  body : List UInt8

structure State where
  server : Server
  sent : List Sent

inductive Event where
  | upload (key : List Char) (data : List UInt8) (ttl : Option Duration)
  | delete (key : List Char)
  /-- Time passes. -/
  | wait (until_ : Instant)
  | get (path : List Char) (ifNoneMatch : Option (List Char))

/-- `StorageService::upload_image_with_ttl` and `delete`. -/
def Server.call (server : Server) (key : List Char)
    (call : Call (List Char) (List UInt8) Duration) : Server :=
  match validateCacheKey key deployment.keyPrefix with
  | .error _ => server
  | .ok () => { server with store := (server.store.step lifetime server.now call).2 }

/-- The log after a response to a path. -/
def logged (sent : List Sent) (path : List Char) : Response → List Sent
  | .ok (some etag) body => ⟨path, etag, body⟩ :: sent
  | _ => sent

def system : Transition.System State Event where
  Init state := (∀ key, state.server.store key = none) ∧ state.sent = []
  step state
    | .upload key data ttl =>
        some { state with server := state.server.call deployment key (.upload key data ttl) }
    | .delete key =>
        some { state with server := state.server.call deployment key (.delete key) }
    | .wait until_ =>
        if state.server.now.nanos ≤ until_.nanos then
          some { state with server := { state.server with now := until_ } }
        else none
    | .get path ifNoneMatch =>
        some { state with
          sent := logged state.sent path (respond deployment state.server path ifNoneMatch) }

/-- Whoever shows an `ETag` sent for a path and is answered `304` would otherwise have got
the bytes it was sent with. -/
def Sound (state : State) : Prop :=
  ∀ sent ∈ state.sent, ∀ header, Carries header sent.etag →
    ∀ etag, respond deployment state.server sent.path (some header) = .notModified etag →
      ∃ shown, respond deployment state.server sent.path none = .ok shown sent.body

/-! ## Showing an `ETag` -/

theorem stripWeakPrefix_suffix (value : List Char) : stripWeakPrefix value <:+ value := by
  unfold stripWeakPrefix
  split
  case h_1 rest => exact ⟨['W', '/'], rfl⟩
  case h_2 => exact List.suffix_refl _

/-- A header can show an `ETag` exactly when there is no comma in it. -/
theorem exists_carries_iff {key : List Char} :
    (∃ header, Carries header ('"' :: (key ++ ['"']))) ↔ ',' ∉ '"' :: (key ++ ['"']) := by
  constructor
  · rintro ⟨header, candidate, member, shown⟩ comma
    apply not_mem_of_mem_splitOn member
    rw [← shown] at comma
    exact (trim_sublist _).subset ((stripWeakPrefix_suffix _).subset comma)
  · intro plain
    refine ⟨'"' :: (key ++ ['"']), '"' :: (key ++ ['"']), ?_, ?_⟩
    · rw [List.splitOn_eq_singleton plain]
      exact List.mem_singleton_self _
    · have front : ('"' :: (key ++ ['"'])).dropWhile isWhitespace = '"' :: (key ++ ['"']) := by
        rw [List.dropWhile_cons_of_neg]
        decide
      have back : ('"' :: (key ++ ['"'])).rdropWhile isWhitespace = '"' :: (key ++ ['"']) := by
        rw [List.rdropWhile_eq_self_iff]
        intro nonempty
        rw [List.getLast_cons (by simp), List.getLast_concat]
        decide
      rw [trim, front, back]
      rfl

/-! ## What a response says -/

variable {deployment} {server : Server} {path key : List Char}

theorem etagForRequest_eq_some {etag : List Char} (tagged : etagForRequest path = some etag) :
    ∃ key, etag = '"' :: (key ++ ['"']) := by
  obtain ⟨key, -, rfl⟩ := Option.map_eq_some_iff.mp tagged
  exact ⟨key, rfl⟩

theorem ifNoneMatchSatisfied_of_carries {header etag : List Char} (shown : Carries header etag) :
    ifNoneMatchSatisfied header etag = true := by
  obtain ⟨candidate, member, same⟩ := shown
  rw [ifNoneMatchSatisfied, List.any_eq_true]
  exact ⟨trim candidate, List.mem_map_of_mem member, by simp [same]⟩

/-- Whoever shows the `ETag` of a path is answered `304`, whatever is stored. -/
theorem respond_carries {header etag : List Char} (tagged : etagForRequest path = some etag)
    (shown : Carries header etag) :
    respond deployment server path (some header) = .notModified (headerValue etag) := by
  simp only [respond, conditionalDownloadMiddleware, tagged, Option.any_some,
    ifNoneMatchSatisfied_of_carries shown, if_true]

/-- An unconditional request is answered with what is stored under the key of the path. -/
theorem respond_ok_iff {body : List UInt8} :
    (∃ shown, respond deployment server path none = .ok shown body) ↔
      ∃ key, pathKey deployment path = some (some key) ∧
        getImage deployment server key = some body := by
  have handled : (∃ shown, respond deployment server path none = .ok shown body) ↔
      ∃ shown, downloadHandler deployment server path = .ok shown body := by
    simp only [respond, conditionalDownloadMiddleware, Option.any_none, Bool.false_eq_true,
      if_false]
    cases etagForRequest path with
    | none => rfl
    | some etag => cases downloadHandler deployment server path <;> simp
  rw [handled, downloadHandler]
  cases keyed : pathKey deployment path with
  | none => simp
  | some decoded =>
      cases decoded with
      | none => simp
      | some key => cases found : getImage deployment server key <;> simp [found]

/-- The response to a request puts this into the log. -/
theorem mem_logged {sent : List Sent} {header : Option (List Char)} {one : Sent}
    (member : one ∈ logged sent path (respond deployment server path header)) :
    one ∈ sent ∨ (one.path = path ∧ etagForRequest path = some one.etag ∧
      ∃ shown, respond deployment server path none = .ok shown one.body) := by
  simp only [respond, conditionalDownloadMiddleware, Option.any_none, Bool.false_eq_true,
    if_false] at member ⊢
  cases tagged : etagForRequest path with
  | none =>
      rw [tagged] at member
      dsimp only at member
      unfold downloadHandler at member
      split at member
      case h_3 =>
          split at member
          case h_1 => exact .inl member
          case h_2 => exact .inl member
      all_goals exact .inl member
  | some etag =>
      rw [tagged] at member
      dsimp only at member
      split at member
      case isTrue => exact .inl member
      case isFalse =>
          cases handled : downloadHandler deployment server path with
          | ok shown body =>
              rw [handled] at member
              dsimp only at member
              cases sendable : headerValue etag with
              | none =>
                  rw [sendable] at member
                  exact .inl member
              | some visible =>
                  rw [sendable] at member
                  have same : etag = visible := by
                    rw [headerValue] at sendable
                    split at sendable
                    case isTrue => exact Option.some.inj sendable
                    case isFalse => cases sendable
                  rcases List.mem_cons.mp member with rfl | earlier
                  · exact .inr ⟨rfl, congrArg some same, _, rfl⟩
                  · exact .inl earlier
          | notModified shown => exact .inl (by rwa [handled] at member)
          | badRequest => exact .inl (by rwa [handled] at member)
          | notFound => exact .inl (by rwa [handled] at member)
          | badGateway => exact .inl (by rwa [handled] at member)

/-! ## Soundness, step by step -/

/-- What is logged was sent for a path of a valid key, with the `ETag` of the path. -/
def LogValid (deployment : Deployment) (state : State) : Prop :=
  ∀ sent ∈ state.sent, etagForRequest sent.path = some sent.etag ∧
    ∃ key, pathKey deployment sent.path = some (some key) ∧
      validateCacheKey key deployment.keyPrefix = .ok ()

/-- The storage still has what was sent for the path. -/
def Serves (deployment : Deployment) (server : Server) (sent : Sent) : Prop :=
  ∃ key, pathKey deployment sent.path = some (some key) ∧
    getImage deployment server key = some sent.body

theorem sound_iff {state : State} (valid : LogValid deployment state) :
    Sound deployment state ↔
      ∀ sent ∈ state.sent, ',' ∉ sent.etag → Serves deployment state.server sent := by
  constructor
  · intro sound sent member plain
    obtain ⟨tagged, -⟩ := valid sent member
    obtain ⟨key, shape⟩ := etagForRequest_eq_some tagged
    obtain ⟨header, shown⟩ := exists_carries_iff.mpr (shape ▸ plain)
    rw [← shape] at shown
    exact respond_ok_iff.mp (sound sent member header shown _ (respond_carries tagged shown))
  · intro serves sent member header shown etag _
    obtain ⟨tagged, -⟩ := valid sent member
    obtain ⟨key, shape⟩ := etagForRequest_eq_some tagged
    have plain : ',' ∉ sent.etag := by
      rw [shape] at shown ⊢
      exact exists_carries_iff.mp ⟨header, shown⟩
    exact respond_ok_iff.mpr (serves sent member plain)

/-- The step neither removes, nor replaces by other bytes, nor lets expire what was sent
for a path whose `ETag` can be shown. -/
def Keeps (deployment : Deployment) (state : State) : Event → Prop
  | .upload key data ttl => ∀ sent ∈ state.sent, ',' ∉ sent.etag →
      pathKey deployment sent.path = some (some key) →
      data = sent.body ∧ ttl.all (lifetime.alive state.server.now · state.server.now)
  | .delete key => ∀ sent ∈ state.sent, ',' ∉ sent.etag →
      pathKey deployment sent.path ≠ some (some key)
  | .wait until_ => ∀ sent ∈ state.sent, ',' ∉ sent.etag → ∀ key stored,
      pathKey deployment sent.path = some (some key) → state.server.store key = some stored →
      stored.visible lifetime until_
  | .get _ _ => True

variable {state next : State} {event : Event}

theorem getImage_call (server : Server) (key changed : List Char)
    (call : Call (List Char) (List UInt8) Duration)
    (valid : validateCacheKey key deployment.keyPrefix = .ok ()) :
    getImage deployment (server.call deployment changed call) key =
      match validateCacheKey changed deployment.keyPrefix with
      | .error _ => server.store.find lifetime key server.now
      | .ok () => (server.store.step lifetime server.now call).2.find lifetime key server.now := by
  simp only [getImage, valid, Server.call]
  cases validateCacheKey changed deployment.keyPrefix <;> rfl

theorem logValid_step (valid : LogValid deployment state)
    (stepped : (system deployment).step state event = some next) :
    LogValid deployment next := by
  cases event with
  | upload key data ttl => exact Option.some.inj stepped ▸ valid
  | delete key => exact Option.some.inj stepped ▸ valid
  | wait until_ =>
      simp only [system] at stepped
      split at stepped
      case isTrue => exact Option.some.inj stepped ▸ valid
      case isFalse => cases stepped
  | get path ifNoneMatch =>
      obtain rfl := Option.some.inj stepped
      intro sent member
      rcases mem_logged member with earlier | ⟨rfl, tagged, answered⟩
      · exact valid sent earlier
      · obtain ⟨key, keyed, found⟩ := respond_ok_iff.mp answered
        refine ⟨tagged, key, keyed, ?_⟩
        rw [getImage] at found
        split at found
        case h_1 => cases found
        case h_2 checked => exact checked

theorem serves_iff {sent : Sent} (keyed : pathKey deployment sent.path = some (some key)) :
    Serves deployment server sent ↔ getImage deployment server key = some sent.body := by
  simp [Serves, keyed]

/-- A call that leaves a key does not change what is downloaded for it. -/
theorem getImage_leaves {changed : List Char} {call : Call (List Char) (List UInt8) Duration}
    (leaves : call.leaves key) (valid : validateCacheKey key deployment.keyPrefix = .ok ()) :
    getImage deployment (server.call deployment changed call) key =
      getImage deployment server key := by
  rw [getImage_call server key changed call valid, getImage, valid]
  split
  case h_1 => rfl
  case h_2 => simp only [Store.find, step_of_leaves lifetime leaves]

theorem getImage_upload (data : List UInt8) (ttl : Option Duration)
    (valid : validateCacheKey key deployment.keyPrefix = .ok ()) :
    getImage deployment (server.call deployment key (.upload key data ttl)) key =
      if ttl.all (lifetime.alive server.now · server.now) then some data else none := by
  rw [getImage_call server key key _ valid, valid]
  change (server.store.after lifetime [(.upload key data ttl, server.now)]).find lifetime key
    server.now = _
  exact find_after_upload lifetime data ttl server.now server.now
    fun _ member => absurd member List.not_mem_nil

theorem getImage_delete (valid : validateCacheKey key deployment.keyPrefix = .ok ()) :
    getImage deployment (server.call deployment key (.delete key)) key = none := by
  rw [getImage_call server key key _ valid, valid]
  change (server.store.after lifetime [(.delete key, server.now)]).find lifetime key
    server.now = _
  exact find_after_delete lifetime server.now server.now
    fun _ member => absurd member List.not_mem_nil

/-- As time passes, what was served stays so exactly as long as its entry is visible. -/
theorem getImage_wait {body : List UInt8} (until_ : Instant)
    (served : getImage deployment server key = some body) :
    getImage deployment { server with now := until_ } key = some body ↔
      ∀ stored, server.store key = some stored → stored.visible lifetime until_ := by
  rw [getImage] at served ⊢
  split at served
  case h_1 => cases served
  case h_2 checked =>
      simp only [Store.find] at served ⊢
      cases entry : server.store key with
      | none => simp [entry] at served
      | some stored =>
          rw [entry, Option.filter_some] at served
          split at served
          case isFalse => cases served
          case isTrue =>
              obtain rfl := Option.some.inj served
              simp only [Option.filter_some, Option.some.injEq, forall_eq']
              split
              case isTrue visible => simp [visible]
              case isFalse hidden => simp [hidden]

/-- A step from a sound state leads to a sound state exactly when it keeps what was sent. -/
theorem sound_step_iff (valid : LogValid deployment state) (sound : Sound deployment state)
    (stepped : (system deployment).step state event = some next) :
    Sound deployment next ↔ Keeps deployment state event := by
  rw [sound_iff (logValid_step valid stepped)]
  rw [sound_iff valid] at sound
  cases event with
  | upload key data ttl =>
      obtain rfl := Option.some.inj stepped
      refine forall₃_congr fun sent member plain => ?_
      obtain ⟨-, served, keyed, checked⟩ := valid sent member
      have before := (serves_iff keyed).mp (sound sent member plain)
      rw [serves_iff keyed, keyed, Option.some.injEq, Option.some.injEq]
      by_cases same : served = key
      case pos =>
          subst same
          rw [getImage_upload data ttl checked]
          split
          case isTrue alive => simp [alive]
          case isFalse dead => simp [dead]
      case neg =>
          have leaves : (Call.upload key data ttl).leaves served := Ne.symm same
          rw [getImage_leaves leaves checked]
          simp [before, same]
  | delete key =>
      obtain rfl := Option.some.inj stepped
      refine forall₃_congr fun sent member plain => ?_
      obtain ⟨-, served, keyed, checked⟩ := valid sent member
      have before := (serves_iff keyed).mp (sound sent member plain)
      rw [serves_iff keyed, keyed]
      by_cases same : served = key
      case pos =>
          subst same
          rw [getImage_delete checked]
          simp
      case neg =>
          have leaves : (Call.delete key : Call (List Char) (List UInt8) Duration).leaves served :=
            Ne.symm same
          rw [getImage_leaves leaves checked]
          simp [before, same]
  | wait until_ =>
      simp only [system] at stepped
      split at stepped
      case isFalse => cases stepped
      case isTrue =>
          obtain rfl := Option.some.inj stepped
          refine forall₃_congr fun sent member plain => ?_
          obtain ⟨-, served, keyed, -⟩ := valid sent member
          have before := (serves_iff keyed).mp (sound sent member plain)
          rw [serves_iff keyed, getImage_wait until_ before, keyed]
          simp only [Option.some.injEq]
          exact ⟨fun visible key stored same found => visible stored (same ▸ found),
            fun visible stored found => visible served stored rfl found⟩
  | get path ifNoneMatch =>
      obtain rfl := Option.some.inj stepped
      simp only [Keeps, iff_true]
      intro sent member plain
      rcases mem_logged member with earlier | ⟨rfl, -, answered⟩
      · exact sound sent earlier plain
      · exact respond_ok_iff.mp answered

theorem sound_of_reachable
    (reachable : (system deployment).Reachable (Keeps deployment) state) :
    LogValid deployment state ∧ Sound deployment state := by
  apply reachable.invariant
  · intro initial begins
    constructor
    · intro sent member
      rw [begins.2] at member
      cases member
    · intro sent member
      rw [begins.2] at member
      cases member
  · intro before event after holds keeps stepped
    exact ⟨logValid_step holds.1 stepped, (sound_step_iff holds.1 holds.2 stepped).mpr keeps⟩

/-- In a run whose steps all keep what was sent, every `304` stands for the bytes sent
before; and the first step that does not keep them ends that. -/
theorem not_modified_sound (deployment : Deployment) (state : State)
    (reachable : (system deployment).Reachable (Keeps deployment) state) :
    Sound deployment state ∧
      ∀ event next, (system deployment).step state event = some next →
        (Sound deployment next ↔ Keeps deployment state event) := by
  obtain ⟨valid, sound⟩ := sound_of_reachable reachable
  exact ⟨sound, fun event next stepped => sound_step_iff valid sound stepped⟩

/-! ## A run in which an entry expires -/

/-- No prefix, and paths without escapes. -/
def plainDeployment : Deployment := ⟨[], some⟩

def plainKey : List Char := List.replicate 64 'a' ++ ".png".toList

def plainPath : List Char := downloadPathPrefix ++ plainKey

theorem second_bounds (n : Fin 100) : -(secondsBound * nanosPerSecond) ≤ (n : Int) * 1000000000 ∧
    (n : Int) * 1000000000 < secondsBound * nanosPerSecond := by
  simp [secondsBound, nanosPerSecond]
  omega

/-- This many seconds after the epoch. -/
def second (n : Fin 100) : Instant :=
  ⟨n * 1000000000, (second_bounds n).1, (second_bounds n).2⟩

def emptyState : State := ⟨⟨fun _ => none, second 0⟩, []⟩

/-- An entry was uploaded for a minute. -/
def uploadedServer : Server :=
  emptyState.server.call plainDeployment plainKey (.upload plainKey [1] (some 60000000000))

def plainEtag : List Char := '"' :: (plainKey ++ ['"'])

set_option maxRecDepth 8000 in
theorem uploaded_served :
    respond plainDeployment uploadedServer plainPath none = .ok (some plainEtag) [1] := by
  decide

/-- Then downloaded. -/
def servedState : State := ⟨uploadedServer, [⟨plainPath, plainEtag, [1]⟩]⟩

/-- A minute later. -/
def expiredState : State := ⟨{ uploadedServer with now := second 60 }, servedState.sent⟩

theorem served_reachable :
    (system plainDeployment).Reachable (Keeps plainDeployment) servedState := by
  have begun : (system plainDeployment).Reachable (Keeps plainDeployment) emptyState :=
    .init ⟨fun _ => rfl, rfl⟩
  have uploads : (system plainDeployment).step emptyState
      (.upload plainKey [1] (some 60000000000)) = some ⟨uploadedServer, []⟩ := rfl
  have keeps : Keeps plainDeployment emptyState (.upload plainKey [1] (some 60000000000)) :=
    fun _ member => absurd member List.not_mem_nil
  have downloads : (system plainDeployment).step ⟨uploadedServer, []⟩ (.get plainPath none) =
      some servedState := by
    simp only [system, uploaded_served]
    rfl
  have gets : Keeps plainDeployment ⟨uploadedServer, []⟩ (.get plainPath none) := trivial
  exact .step (.step begun keeps uploads) gets downloads

theorem served_expired :
    (system plainDeployment).step servedState (.wait (second 60)) = some expiredState := by
  simp only [system]
  exact if_pos (by decide)

set_option maxRecDepth 8000 in
/-- A minute after the upload the `ETag` still gives `304`, and the image is gone. -/
theorem not_modified_expired :
    (system plainDeployment).Reachable (fun _ _ => True) expiredState ∧
      ¬ Sound plainDeployment expiredState := by
  have reached : (system plainDeployment).Reachable (fun _ _ => True) servedState :=
    served_reachable.mono fun _ _ _ => trivial
  refine ⟨.step reached trivial served_expired, ?_⟩
  obtain ⟨valid, sound⟩ := sound_of_reachable served_reachable
  rw [sound_step_iff valid sound served_expired]
  intro keeps
  have visible := keeps ⟨plainPath, plainEtag, [1]⟩ List.mem_cons_self (by decide) plainKey
    ⟨[1], some (second 0, 60000000000)⟩ (by decide) rfl
  exact absurd visible (by decide)

/-- Within the minute it is there. -/
theorem not_modified_sound_served : Sound plainDeployment servedState :=
  (not_modified_sound plainDeployment servedState served_reachable).1

end ImageResizer.ConditionalGet
