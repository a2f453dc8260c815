import ImageResizer.KeyCommitment
import ImageResizer.ResizeService.Refinement

/-!
# Coalescing and caching are transparent

Whatever is stored under the key of a call is what the call's own request makes of answers that
the network gave, whoever made it and whichever way the call was answered.
-/

namespace ImageResizer.ResizeService

open SingleFlight (Phase)
open Transition

variable {Content Caller : Type}

/-! ## What is stored -/

section Contents

variable (setup : Setup Content Caller) (answers : Network setup.urls → Prop)
  (asked : ResizeQuery → Prop)

/-- What a request makes of answers that the network gave. -/
def MadeFor (query : ResizeQuery) (object : Object) : Prop :=
  ∃ source watermark, answers source ∧ answers watermark ∧
    doResizeWork setup.lib setup.codecs setup.encoders setup.urls setup.statusText
      ⟨setup.config, source, watermark⟩ query = .ok object

/-- What the key of some request is written for. -/
def MadeUnder (key : String) (object : Object) : Prop :=
  ∃ query, asked query ∧ setup.generateKey query = key ∧ MadeFor setup answers query object

/-- The network answers as it does, and the other writers of the storage run this code on
requests of their own. -/
def Permitted (_ : State Caller) : Action setup.urls Caller → Prop
  | .download _ network | .process _ network _ => answers network
  | .appear key object => MadeUnder setup answers asked key object
  | _ => True

/-- Everything held and stored was made by the code. -/
structure Sound (state : State Caller) : Prop where
  source : ∀ caller bytes, state.held caller = .source bytes → ∃ network, answers network ∧
    (Fetch.downloadImage setup.urls setup.config network setup.statusText
      (setup.query caller).url).result = .ok bytes
  processed : ∀ caller object, state.held caller = .processed object →
    MadeFor setup answers (setup.query caller) object
  objects : ∀ key object, state.objects key = some object →
    MadeUnder setup answers asked key object

/-- Whoever was told of success finds an object under its own URL, until it is evicted. -/
structure Answered (state : State Caller) : Prop where
  url : ∀ caller url, (state.call caller).outcome = some (.ok url) →
    url = setup.cdnUrl (setup.keyOf caller)
  present : ∀ caller url, (state.call caller).outcome = some (.ok url) →
    state.evicted (setup.keyOf caller) = false →
      (state.objects (setup.keyOf caller)).isSome

end Contents

variable {setup : Setup Content Caller} {answers : Network setup.urls → Prop}
variable {asked : ResizeQuery → Prop} {state next : State Caller}
variable {action : Action setup.urls Caller}

/-- What `process_image` returns is what the two downloads make together. -/
theorem madeFor_of_processImage {source watermark : Network setup.urls} {admitted : Bool}
    {query : ResizeQuery} {bytes : List UInt8} {object : Object} (answered : answers source)
    (answeredToo : answers watermark)
    (downloaded : (Fetch.downloadImage setup.urls setup.config source setup.statusText
      query.url).result = .ok bytes)
    (ok : setup.processImage watermark admitted query bytes = .ok object) :
    MadeFor setup answers query object := by
  refine ⟨source, watermark, answered, answeredToo, ?_⟩
  unfold Setup.processImage at ok
  split at ok
  case h_1 => cases ok
  case h_2 watermarkBytes marked =>
      split at ok
      case isTrue =>
          split at ok
          case h_1 made =>
              cases ok
              refine (Outcome.bind_ok_iff ..).mpr ⟨bytes, by rw [downloaded]; rfl, ?_⟩
              exact (Outcome.bind_ok_iff ..).mpr ⟨watermarkBytes, by rw [marked]; rfl, made⟩
          case h_2 => cases ok
          case h_3 => cases ok
      case isFalse => cases ok

/-- What is made for a request has the content type of its format. -/
theorem MadeFor.contentType {query : ResizeQuery} {object : Object}
    (made : MadeFor setup answers query object) : object.2 = query.format.contentType := by
  obtain ⟨source, watermark, -, -, made⟩ := made
  obtain ⟨bytes, -, rest⟩ := (Outcome.bind_ok_iff ..).mp made
  obtain ⟨watermarkBytes, -, processed⟩ := (Outcome.bind_ok_iff ..).mp rest
  exact processImageBlocking_reports _ _ _ _ _ _ _ _ processed

namespace Sound

theorem initial (start : Initial state) : Sound setup answers asked state where
  source caller bytes holds := by
    rw [start.idle] at holds
    cases holds
  processed caller object holds := by
    rw [start.idle] at holds
    cases holds
  objects key object stored := by
    rw [start.empty] at stored
    cases stored

theorem put {key : String} {object : Object} (sound : Sound setup answers asked state)
    (made : MadeUnder setup answers asked key object) :
    Sound setup answers asked (state.put key object) where
  source := sound.source
  processed := sound.processed
  objects other stored found := by
    by_cases same : other = key
    case pos =>
        subst same
        rw [State.put_self] at found
        cases found
        exact made
    case neg =>
        refine sound.objects other stored ?_
        rwa [State.put_of_ne same] at found

theorem remove {key : String} (sound : Sound setup answers asked state) :
    Sound setup answers asked (state.remove key) where
  source := sound.source
  processed := sound.processed
  objects other stored found := by
    by_cases same : other = key
    case pos =>
        subst same
        rw [State.remove_self] at found
        cases found
    case neg =>
        refine sound.objects other stored ?_
        rwa [State.remove_of_ne same] at found

variable [DecidableEq Caller]

theorem follow {move : SingleFlight.Action Caller Failure} (sound : Sound setup answers asked state)
    (follows : Follows setup state next move) : Sound setup answers asked next where
  source := follows.held ▸ sound.source
  processed := follows.held ▸ sound.processed
  objects := follows.objects ▸ sound.objects

/-- A leader comes to hold something. -/
theorem hold {caller : Caller} {holding : Holding} (sound : Sound setup answers asked state)
    (source : ∀ bytes, holding = .source bytes → ∃ network, answers network ∧
      (Fetch.downloadImage setup.urls setup.config network setup.statusText
        (setup.query caller).url).result = .ok bytes)
    (processed : ∀ object, holding = .processed object →
      MadeFor setup answers (setup.query caller) object) :
    Sound setup answers asked (state.hold caller holding) where
  source other bytes holds := by
    by_cases same : other = caller
    case pos =>
        subst same
        refine source bytes ?_
        rwa [State.hold_self] at holds
    case neg =>
        refine sound.source other bytes ?_
        rwa [State.hold_of_ne _ same] at holds
  processed other object holds := by
    by_cases same : other = caller
    case pos =>
        subst same
        refine processed object ?_
        rwa [State.hold_self] at holds
    case neg =>
        refine sound.processed other object ?_
        rwa [State.hold_of_ne _ same] at holds
  objects := sound.objects

theorem step (calls : ∀ caller, asked (setup.query caller))
    (sound : Sound setup answers asked state)
    (permitted : Permitted setup answers asked state action)
    (stepped : setup.step state action = some next) : Sound setup answers asked next := by
  have own {caller : Caller} {object : Object} (holds : state.held caller = .processed object) :
      MadeUnder setup answers asked (setup.keyOf caller) object :=
    ⟨setup.query caller, calls caller, rfl, sound.processed caller object holds⟩
  cases step_moves stepped with
  | coordinated follows => exact sound.follow follows
  | downloaded follows ok =>
      refine (sound.follow follows).hold (fun bytes same => ?_) nofun
      cases same
      exact ⟨_, permitted, ok⟩
  | processed follows source ok =>
      obtain ⟨network, answered, downloaded⟩ := sound.source _ _ source
      refine (sound.follow follows).hold nofun fun object same => ?_
      cases same
      exact madeFor_of_processImage answered permitted downloaded ok
  | @uploaded _ protocol _ _ made =>
      have followed : Sound setup answers asked (state.follow protocol) :=
        ⟨sound.source, sound.processed, sound.objects⟩
      exact followed.put (own made)
  | landed follows made => exact (sound.follow follows).put (own made)
  | removed key => exact sound.remove
  | appeared key object => exact sound.put permitted

end Sound

namespace Answered

theorem initial (start : Initial state) : Answered setup state := by
  have idle : ∀ caller, state.call caller = .start := start.protocol.1
  constructor
  case url =>
      intro caller url succeeded
      rw [idle] at succeeded
      cases succeeded
  case present =>
      intro caller url succeeded
      rw [idle] at succeeded
      cases succeeded

theorem put {key : String} {object : Object} (answered : Answered setup state) :
    Answered setup (state.put key object) where
  url := answered.url
  present caller url succeeded kept := by
    by_cases same : setup.keyOf caller = key
    case pos => rw [same, State.put_self, Option.isSome_some]
    case neg =>
        rw [State.put_of_ne same]
        exact answered.present caller url succeeded kept

theorem remove {key : String} (answered : Answered setup state) :
    Answered setup (state.remove key) where
  url := answered.url
  present caller url succeeded kept := by
    by_cases same : setup.keyOf caller = key
    case pos =>
        rw [same, State.remove_evicted] at kept
        cases kept
    case neg =>
        rw [State.evicted_of_ne same] at kept
        rw [State.remove_of_ne same]
        exact answered.present caller url succeeded kept

variable [DecidableEq Caller]

/-- Another success is a hit, or the call's own upload. -/
theorem follow {move : SingleFlight.Action Caller Failure} (answered : Answered setup state)
    (follows : Follows setup state next move) : Answered setup next := by
  have recorded {caller : Caller} {url : String}
      (succeeded : (next.call caller).outcome = some (.ok url)) :
      (state.call caller).outcome = some (.ok url) ∨ url = setup.cdnUrl (setup.keyOf caller) ∧
        (state.objects (setup.keyOf caller)).isSome := by
    rcases SingleFlight.outcome_of_step follows.stepped succeeded with
      before | ⟨same, hit | uploading⟩
    · exact .inl before
    · exact .inr ⟨same, hit⟩
    · have reads := follows.reads
      rw [uploading] at reads
      cases reads
  constructor
  case url =>
      intro caller url succeeded
      rcases recorded succeeded with before | ⟨same, -⟩
      · exact answered.url caller url before
      · exact same
  case present =>
      intro caller url succeeded kept
      rw [follows.evicted] at kept
      rw [follows.objects]
      rcases recorded succeeded with before | ⟨-, hit⟩
      · exact answered.present caller url before kept
      · exact hit

theorem upload {caller : Caller} {protocol : SingleFlight.State Caller Failure} {object : Object}
    (answered : Answered setup state)
    (stepped : SingleFlight.step setup.keyOf setup.cdnUrl state.view (.upload caller) =
      some protocol) :
    Answered setup ((state.follow protocol).put (setup.keyOf caller) object) := by
  constructor
  case url =>
      intro other url succeeded
      rcases SingleFlight.outcome_of_step stepped succeeded with before | ⟨same, -⟩
      · exact answered.url other url before
      · exact same
  case present =>
      intro other url succeeded kept
      by_cases same : setup.keyOf other = setup.keyOf caller
      case pos => rw [same, State.put_self, Option.isSome_some]
      case neg =>
          rw [State.put_of_ne same]
          rcases SingleFlight.outcome_of_step stepped succeeded with
            before | ⟨-, hit | uploading⟩
          · exact answered.present other url before kept
          · exact hit
          · cases uploading
            exact absurd rfl same

theorem step (answered : Answered setup state) (stepped : setup.step state action = some next) :
    Answered setup next := by
  cases step_moves stepped with
  | coordinated follows => exact answered.follow follows
  | downloaded follows _ =>
      have followed := answered.follow follows
      exact ⟨followed.url, followed.present⟩
  | processed follows _ _ =>
      have followed := answered.follow follows
      exact ⟨followed.url, followed.present⟩
  | uploaded matched _ => exact answered.upload matched
  | landed follows _ => exact (answered.follow follows).put
  | removed key => exact answered.remove
  | appeared key object => exact answered.put

end Answered

/-! ## Every call -/

variable [DecidableEq Caller] {caller : Caller} {url : String}

/-- The call has been told of success, on its own or by its leader. -/
def Told (state : State Caller) (caller : Caller) (url : String) : Prop :=
  state.call caller = .returned (.ok url) ∨ ∃ chan, state.call caller = .joined chan (.ok url)

/-- A follower is told of what its leader recorded under the same key. -/
theorem outcome_of_told {permitted : State Caller → Action setup.urls Caller → Prop}
    (reachable : (system setup).Reachable permitted state) (told : Told state caller url) :
    ∃ leader, setup.keyOf leader = setup.keyOf caller ∧
      (state.call leader).outcome = some (.ok url) := by
  rcases told with returned | ⟨chan, joined⟩
  case inl => exact ⟨caller, rfl, by rw [returned]; rfl⟩
  case inr =>
      have inv := SingleFlight.reachable_inv setup.keyOf setup.cdnUrl
        (refines_singleFlight reachable)
      obtain ⟨-, onKey, -, verdict⟩ := inv.joined_verdict joined
      refine ⟨(state.channels chan).leader, onKey, ?_⟩
      change Except.ok url = SingleFlight.outcomeText _
        (state.call (state.channels chan).leader).outcome at verdict
      match outcome : (state.call (state.channels chan).leader).outcome with
      | some (.ok recorded) =>
          rw [outcome] at verdict
          cases verdict
          rfl
      | some (.error failure) =>
          rw [outcome] at verdict
          cases verdict
      | none =>
          rw [outcome] at verdict
          cases verdict

theorem reachable_answered {permitted : State Caller → Action setup.urls Caller → Prop}
    (reachable : (system setup).Reachable permitted state) : Answered setup state := by
  induction reachable with
  | init start => exact Answered.initial start
  | step _ _ stepped ih => exact ih.step stepped

/-- Whoever is told of success is given the URL of its own key. -/
theorem url_of_told {permitted : State Caller → Action setup.urls Caller → Prop}
    (reachable : (system setup).Reachable permitted state) (told : Told state caller url) :
    url = setup.cdnUrl (setup.keyOf caller) := by
  obtain ⟨leader, onKey, recorded⟩ := outcome_of_told reachable told
  rw [← onKey]
  exact (reachable_answered reachable).url leader url recorded

theorem reachable_sound (calls : ∀ caller, asked (setup.query caller))
    (reachable : (system setup).Reachable (Permitted setup answers asked) state) :
    Sound setup answers asked state := by
  induction reachable with
  | init start => exact Sound.initial start
  | step _ allowed stepped ih => exact ih.step calls allowed stepped

/-- Whoever made it, what is stored under the key of a call is what the request of that call
makes of two answers that the network gave. -/
theorem stored_for_own (distinguished : Distinguished setup.display setup.sha256 asked)
    (calls : ∀ caller, asked (setup.query caller))
    (reachable : (system setup).Reachable (Permitted setup answers asked) state)
    {object : Object} (stored : state.objects (setup.keyOf caller) = some object) :
    MadeFor setup answers (setup.query caller) object := by
  obtain ⟨query, isAsked, onKey, source, watermark, answered, answeredToo, made⟩ :=
    (reachable_sound calls reachable).objects _ _ stored
  refine ⟨source, watermark, answered, answeredToo, ?_⟩
  rwa [← doResizeWork_canonicalBlur,
    ← canonicalBlur_of_key distinguished isAsked (calls caller) onKey, doResizeWork_canonicalBlur]

/-- **Coalescing and caching are transparent.**  A call that is told of success, by a hit, by
its own work or by the leader it joined, is given the URL of its own key, and there, until it
is evicted, is an object: what its own request makes of two answers that the network gave,
with the content type that the key announces. -/
theorem told_as_alone (distinguished : Distinguished setup.display setup.sha256 asked)
    (calls : ∀ caller, asked (setup.query caller))
    (reachable : (system setup).Reachable (Permitted setup answers asked) state)
    (told : Told state caller url) :
    url = setup.cdnUrl (setup.keyOf caller) ∧
      (state.evicted (setup.keyOf caller) = false →
        ∃ object, state.objects (setup.keyOf caller) = some object) ∧
      ∀ object, state.objects (setup.keyOf caller) = some object →
        MadeFor setup answers (setup.query caller) object ∧
          object.2 = contentTypeForKey (setup.keyOf caller).toList := by
  refine ⟨url_of_told reachable told, fun kept => ?_, fun object stored => ?_⟩
  · obtain ⟨leader, onKey, recorded⟩ := outcome_of_told reachable told
    rw [← onKey] at kept ⊢
    exact Option.isSome_iff_exists.mp
      ((reachable_answered reachable).present leader url recorded kept)
  · have made := stored_for_own distinguished calls reachable stored
    exact ⟨made, made.contentType.trans (contentTypeForKey_generateKey _).symm⟩

/-! ### Two calls for one photo -/

section Photo

/-- The plain request for `a.jpg`. -/
def photoQuery : ResizeQuery := { ResizeQuery.default with url := "a.jpg" }

/-- A service that two callers ask for the same photo. -/
def photoSetup : Setup Unit Bool where
  lib := .blank
  codecs := pixelCodecs
  encoders := .settings
  urls := plainUrls
  statusText := toString
  display := .plain
  sha256 _ := Vector.replicate 32 0
  minioSubPath := ""
  cdnBaseUrl := "https://cdn/"
  config := .default
  maxConcurrentProcessing := 4
  query _ := photoQuery

/-- A service that has not been called. -/
def fresh [Inhabited Caller] : State Caller where
  inFlight _ := none
  channels _ := { leader := default, receivers := ∅, message := none, senderAlive := true }
  nextChan := 0
  call _ := .start
  objects _ := none
  evicted _ := false
  held _ := .nothing
  downloads _ := 0
  transforms _ := 0
  uploads _ := 0

omit [DecidableEq Caller] in
theorem fresh_initial [Inhabited Caller] : Initial (fresh : State Caller) :=
  ⟨⟨fun _ => rfl, fun _ => rfl, rfl, fun _ => ⟨rfl, rfl, rfl⟩⟩, fun _ => rfl, fun _ => rfl,
    fun _ => rfl⟩

theorem photo_distinguished :
    Distinguished photoSetup.display photoSetup.sha256 (· = photoQuery) where
  sized := by
    rintro query rfl
    unfold CacheKey.Sized Framing.Fits
    decide +kernel
  collisionFree := by
    rintro query other rfl rfl _
    rfl
  named := by
    rintro query other rfl rfl named
    exact named.ne rfl

/-- The second call joins the first, and everybody is told of the photo. -/
def photoScript : List (Action plainUrls Bool) :=
  [.checkCache true, .checkCache false, .lookup true, .lookup false, .download true photoNetwork,
    .process true photoNetwork true, .upload true, .removeEntry true, .broadcast true,
    .receive false]

/-- Everything in the script is permitted when the photo is all that the network answers. -/
theorem photo_permitted : ∀ label ∈ photoScript, ∀ state : State Bool,
    Permitted photoSetup (· = photoNetwork) (· = photoQuery) state label := by
  intro label member state
  simp only [photoScript, List.mem_cons, List.not_mem_nil, or_false] at member
  rcases member with rfl | rfl | rfl | rfl | rfl | rfl | rfl | rfl | rfl | rfl <;> trivial

/-- The URL of the photo. -/
def photoUrl : String :=
  "https://cdn/0000000000000000000000000000000000000000000000000000000000000000.jpg"

/-- The follower is told of the photo that its leader stored. -/
theorem told_as_alone_photo :
    ∃ state, (system photoSetup).run (fun _ _ => True) fresh photoScript = some state ∧
      state.call false = .joined 0 (.ok photoUrl) ∧
      photoUrl = photoSetup.cdnUrl (photoSetup.keyOf false) ∧
      (state.evicted (photoSetup.keyOf false) = false →
        ∃ object, state.objects (photoSetup.keyOf false) = some object) ∧
      ∀ object, state.objects (photoSetup.keyOf false) = some object →
        MadeFor photoSetup (· = photoNetwork) (photoSetup.query false) object ∧
          object.2 = contentTypeForKey (photoSetup.keyOf false).toList := by
  have evaluates : ∃ state, (system photoSetup).run (fun _ _ => True) fresh photoScript =
      some state ∧ state.call false = .joined 0 (.ok photoUrl) := ⟨_, rfl, rfl⟩
  obtain ⟨state, run, joined⟩ := evaluates
  exact ⟨state, run, joined, told_as_alone photo_distinguished (fun _ => rfl)
    (System.reachable_of_labels _ _ photoScript photo_permitted (.init fresh_initial) run)
    (.inr ⟨0, joined⟩)⟩

end Photo

/-- With origins that always answer a URL alike, an object is exactly what the request of the
call makes whenever it succeeds. -/
theorem stored_alike (distinguished : Distinguished setup.display setup.sha256 asked)
    (calls : ∀ caller, asked (setup.query caller)) {origin : String → List UInt8}
    (constant : ∀ source watermark, answers source → answers watermark →
      Deployment.ServedBy setup.urls setup.statusText origin ⟨setup.config, source, watermark⟩)
    (reachable : (system setup).Reachable (Permitted setup answers asked) state)
    {object : Object} (stored : state.objects (setup.keyOf caller) = some object)
    {source watermark : Network setup.urls} (answered : answers source)
    (answeredToo : answers watermark) {result : Object}
    (alone : doResizeWork setup.lib setup.codecs setup.encoders setup.urls setup.statusText
      ⟨setup.config, source, watermark⟩ (setup.query caller) = .ok result) :
    object = result := by
  obtain ⟨before, beforeToo, earlier, earlierToo, made⟩ :=
    stored_for_own distinguished calls reachable stored
  refine doResizeWork_agree setup.lib setup.codecs setup.encoders (setup.query caller) setup.urls
    setup.statusText origin (constant _ _ earlier earlierToo) (constant _ _ answered answeredToo)
    (fun _ _ _ _ _ url other first second => ?_)
    (fun _ _ _ _ => ⟨fun _ => rfl, fun _ => rfl, fun _ _ => rfl⟩)
    (fun _ => ⟨rfl, rfl⟩) object result made alone
  cases first.symm.trans second
  rfl

/-- The stored photo is what the second caller would have made alone. -/
theorem stored_alike_photo :
    ∃ state object, (system photoSetup).run (fun _ _ => True) fresh photoScript = some state ∧
      state.objects (photoSetup.keyOf false) = some object ∧
      doResizeWork photoSetup.lib photoSetup.codecs photoSetup.encoders photoSetup.urls
        photoSetup.statusText ⟨photoSetup.config, photoNetwork, photoNetwork⟩
        (photoSetup.query false) = .ok (settingsBytes false false, "image/jpeg") ∧
      object = (settingsBytes false false, "image/jpeg") := by
  have evaluates : ∃ state object, (system photoSetup).run (fun _ _ => True) fresh photoScript =
      some state ∧ state.objects (photoSetup.keyOf false) = some object := ⟨_, _, rfl, rfl⟩
  obtain ⟨state, object, run, stored⟩ := evaluates
  have alone : doResizeWork photoSetup.lib photoSetup.codecs photoSetup.encoders photoSetup.urls
      photoSetup.statusText ⟨photoSetup.config, photoNetwork, photoNetwork⟩
      (photoSetup.query false) = .ok (settingsBytes false false, "image/jpeg") := rfl
  have constant : ∀ source watermark : Network plainUrls, source = photoNetwork →
      watermark = photoNetwork → Deployment.ServedBy plainUrls toString (fun _ => photo)
        ⟨photoSetup.config, source, watermark⟩ := by
    rintro source watermark rfl rfl
    exact photo_served false
  exact ⟨state, object, run, stored, alone, stored_alike photo_distinguished (fun _ => rfl)
    constant (System.reachable_of_labels _ _ photoScript photo_permitted (.init fresh_initial) run)
    stored rfl rfl alone⟩

end ImageResizer.ResizeService
