import ImageResizer.KeyCompleteness
import ImageResizer.SingleFlight.Invariant

/-!
# The resize service and what it stores

`ResizeService` of `services/resize/handler.rs` with the data that the coalescing protocol
leaves out: what each leader downloads and makes, and what is stored under each key.  The
network answers every download anew, uploads fail, entries expire, and other processes write
to the same storage.
-/

namespace ImageResizer.ResizeService

open SourceGuard (UrlLibrary)
open SingleFlight (Phase Registry)
open Transition

/-- `get_cdn_url`. -/
def getCdnUrl (cdnBaseUrl key : String) : String :=
  String.ofList (cdnBaseUrl.toList.rdropWhile (· == '/')) ++ "/" ++ key

/-- What is stored under a key: the bytes and their content type. -/
abbrev Object := List UInt8 × String

/-- A running service and the requests that are made to it. -/
structure Setup (Content Caller : Type) where
  lib : Imaging Content
  codecs : Codecs Content
  encoders : Encoders Content
  urls : UrlLibrary
  statusText : Nat → String
  display : FloatDisplay
  sha256 : List UInt8 → Vector UInt8 32
  minioSubPath : String
  cdnBaseUrl : String
  config : PerformanceConfig
  maxConcurrentProcessing : UInt64
  query : Caller → ResizeQuery

/-- What a leader holds between two of its steps. -/
inductive Holding where
  | nothing
  | source (bytes : List UInt8)
  | processed (object : Object)

/-- The registry, the storage and what every leader holds.  `evicted` and the counters are
history. -/
structure State (Caller : Type) extends Registry Caller Failure where
  objects : String → Option Object
  evicted : String → Bool
  held : Caller → Holding
  downloads : String → Nat
  transforms : String → Nat
  uploads : String → Nat

inductive Action (urls : UrlLibrary) (Caller : Type) where
  | checkCache (caller : Caller)
  | checkCacheErr (caller : Caller)
  | lookup (caller : Caller)
  /-- `download_image`, answered by the network. -/
  | download (caller : Caller) (network : Network urls)
  /-- `process_image`, with a processing permit or without one. -/
  | process (caller : Caller) (network : Network urls) (admitted : Bool)
  | upload (caller : Caller)
  /-- The upload fails, and what it wrote has landed or not. -/
  | uploadFailed (caller : Caller) (failure : Failure) (landed : Bool)
  /-- A leader panics or is dropped; an upload under way has landed or not. -/
  | crash (caller : Caller) (landed : Bool)
  | removeEntry (caller : Caller)
  | broadcast (caller : Caller)
  | receive (caller : Caller)
  | abandon (caller : Caller)
  | evict (key : String)
  /-- Another process, or an upload whose leader is gone, writes to the storage. -/
  | appear (key : String) (object : Object)

variable {Content Caller : Type}

namespace State

variable (state : State Caller)

/-- The state of the coalescing protocol. -/
def view : SingleFlight.State Caller Failure where
  toRegistry := state.toRegistry
  stored key := (state.objects key).isSome
  downloads := state.downloads
  transforms := state.transforms
  uploads := state.uploads

/-- The protocol moves on. -/
def follow (next : SingleFlight.State Caller Failure) : State Caller :=
  { state with
    toRegistry := next.toRegistry
    downloads := next.downloads
    transforms := next.transforms
    uploads := next.uploads }

def hold [DecidableEq Caller] (caller : Caller) (holding : Holding) : State Caller :=
  { state with held := Function.update state.held caller holding }

def put (key : String) (object : Object) : State Caller :=
  { state with objects := Function.update state.objects key (some object) }

def remove (key : String) : State Caller :=
  { state with
    objects := Function.update state.objects key none
    evicted := Function.update state.evicted key true }

section Lemmas

variable {state} {key other : String} {object : Object}

@[simp]
theorem put_self : (state.put key object).objects key = some object := by
  simp [put]

theorem put_of_ne (distinct : other ≠ key) :
    (state.put key object).objects other = state.objects other := by
  simp [put, distinct]

@[simp]
theorem remove_self : (state.remove key).objects key = none := by
  simp [remove]

theorem remove_of_ne (distinct : other ≠ key) :
    (state.remove key).objects other = state.objects other := by
  simp [remove, distinct]

@[simp]
theorem remove_evicted : (state.remove key).evicted key = true := by
  simp [remove]

theorem evicted_of_ne (distinct : other ≠ key) :
    (state.remove key).evicted other = state.evicted other := by
  simp [remove, distinct]

variable [DecidableEq Caller]

@[simp]
theorem hold_self (caller : Caller) (holding : Holding) :
    (state.hold caller holding).held caller = holding := by
  simp [hold]

theorem hold_of_ne {caller someone : Caller} (holding : Holding) (distinct : someone ≠ caller) :
    (state.hold caller holding).held someone = state.held someone := by
  simp [hold, distinct]

end Lemmas

/-- An upload that may have landed. -/
def putIf (landed : Bool) (key : String) (object : Object) : State Caller :=
  if landed then state.put key object else state

end State

namespace Setup

variable (setup : Setup Content Caller)

def generateKey (query : ResizeQuery) : String :=
  CacheKey.generateKey setup.display (digestText setup.sha256) setup.minioSubPath query

/-- The key of a call. -/
def keyOf (caller : Caller) : String := setup.generateKey (setup.query caller)

def cdnUrl (key : String) : String := getCdnUrl setup.cdnBaseUrl key

/-- The service with other requests. -/
def calledBy (calls : Caller → ResizeQuery) : Setup Content Caller :=
  { setup with query := calls }

theorem calledBy_keyOf (calls : Caller → ResizeQuery) (caller : Caller) :
    (setup.calledBy calls).keyOf caller = setup.generateKey (calls caller) := rfl

theorem calledBy_cdnUrl (calls : Caller → ResizeQuery) :
    (setup.calledBy calls).cdnUrl = setup.cdnUrl := rfl

/-- `process_image`. -/
def processImage (network : Network setup.urls) (admitted : Bool) (query : ResizeQuery)
    (bytes : List UInt8) : Except Failure Object :=
  match (Fetch.downloadWatermarkIfNeeded setup.urls setup.config network setup.statusText
    query).result with
  | .error failure => .error failure
  | .ok watermarkBytes =>
      if admitted then
        match processImageBlocking setup.lib setup.codecs setup.encoders query setup.config bytes
          watermarkBytes with
        | .ok object => .ok object
        | .error (.failure failure) => .error failure
        -- The sender is dropped while the closure unwinds.
        | .error .panic =>
            .error ((Failure.message "channel closed").context
              "Image processing task was cancelled")
      else
        .error (.message
          s!"No processing permit available: {setup.maxConcurrentProcessing} concurrent image processing jobs already running")

variable [DecidableEq Caller]

/-- A step of the protocol that moves no data. -/
def advance (state : State Caller) (action : SingleFlight.Action Caller Failure) :
    Option (State Caller) :=
  (SingleFlight.step setup.keyOf setup.cdnUrl state.view action).map state.follow

/-- One step. -/
def step (state : State Caller) : Action setup.urls Caller → Option (State Caller)
  | .checkCache caller => setup.advance state (.checkCache caller)
  | .checkCacheErr caller => setup.advance state (.checkCacheErr caller)
  | .lookup caller => setup.advance state (.lookup caller)
  | .download caller network =>
      match (Fetch.downloadImage setup.urls setup.config network setup.statusText
        (setup.query caller).url).result with
      | .ok bytes =>
          (setup.advance state (.download caller)).map (·.hold caller (.source bytes))
      | .error failure =>
          match state.call caller with
          | .working _ .download => setup.advance state (.fail caller failure)
          | _ => none
  | .process caller network admitted =>
      match state.held caller with
      | .source bytes =>
          match setup.processImage network admitted (setup.query caller) bytes with
          | .ok object =>
              (setup.advance state (.transform caller)).map (·.hold caller (.processed object))
          | .error failure =>
              match state.call caller with
              | .working _ .transform => setup.advance state (.fail caller failure)
              | _ => none
      | _ => none
  | .upload caller =>
      match state.held caller with
      | .processed object =>
          (setup.advance state (.upload caller)).map (·.put (setup.keyOf caller) object)
      | _ => none
  | .uploadFailed caller failure landed =>
      match state.call caller, state.held caller with
      | .working _ .upload, .processed object =>
          (setup.advance state (.fail caller failure)).map
            (·.putIf landed (setup.keyOf caller) object)
      | _, _ => none
  | .crash caller landed =>
      match state.call caller, state.held caller with
      | .working _ .upload, .processed object =>
          (setup.advance state (.crash caller)).map (·.putIf landed (setup.keyOf caller) object)
      | _, _ => setup.advance state (.crash caller)
  | .removeEntry caller => setup.advance state (.removeEntry caller)
  | .broadcast caller => setup.advance state (.broadcast caller)
  | .receive caller => setup.advance state (.receive caller)
  | .abandon caller => setup.advance state (.abandon caller)
  | .evict key => some (state.remove key)
  | .appear key object => some (state.put key object)

end Setup

/-- Before any call, with an empty storage: what it holds already appears first. -/
structure Initial (state : State Caller) : Prop where
  protocol : SingleFlight.Initial state.view
  empty : ∀ key, state.objects key = none
  kept : ∀ key, state.evicted key = false
  idle : ∀ caller, state.held caller = .nothing

/-- The transition system of the service. -/
def system [DecidableEq Caller] (setup : Setup Content Caller) :
    System (State Caller) (Action setup.urls Caller) where
  Init := Initial
  step := setup.step

end ImageResizer.ResizeService
