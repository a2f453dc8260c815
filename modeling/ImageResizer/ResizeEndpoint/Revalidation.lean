import ImageResizer.ResizeEndpoint.Download
import ImageResizer.ResizeService.Transparency

/-!
# A validator made of the path alone

The `ETag` of a download is its path, and a client that shows it is answered `304` before the
storage is asked.  That is sound because of what the service stores: whoever makes an object,
and whenever, there is one body for each key.
-/

namespace ImageResizer.ResizeEndpoint

open ConditionalGet (etagForRequest headerValue pathKey downloadHandler getImage respond
  respond_ok_iff)
open ResizeService (Setup Object State Permitted MadeUnder reachable_sound system)
open Storage (validateCacheKey)

variable {Content Caller : Type} {setup : Setup Content Caller}
variable {answers : Network setup.urls → Prop} {asked : ResizeQuery → Prop}

/-! ## One object for each key -/

/-- Origins that answer a URL alike. -/
def Constant (setup : Setup Content Caller) (answers : Network setup.urls → Prop)
    (origin : String → List UInt8) : Prop :=
  ∀ source watermark, answers source → answers watermark →
    Deployment.ServedBy setup.urls setup.statusText origin ⟨setup.config, source, watermark⟩

/-- Two objects made under one key, each for a request of its own, are the same. -/
theorem madeUnder_unique (distinguished : Distinguished setup.display setup.sha256 asked)
    {origin : String → List UInt8} (constant : Constant setup answers origin) {key : String}
    {object other : Object} (made : MadeUnder setup answers asked key object)
    (madeToo : MadeUnder setup answers asked key other) : object = other := by
  obtain ⟨query, isAsked, onKey, source, watermark, answered, answeredToo, made⟩ := made
  obtain ⟨again, againAsked, onKeyToo, later, laterToo, answered', answeredToo', madeToo⟩ := madeToo
  rw [← doResizeWork_canonicalBlur, ← canonicalBlur_of_key distinguished isAsked againAsked
    (onKey.trans onKeyToo.symm), doResizeWork_canonicalBlur] at madeToo
  refine doResizeWork_agree setup.lib setup.codecs setup.encoders query setup.urls
    setup.statusText origin (constant _ _ answered answeredToo)
    (constant _ _ answered' answeredToo') (fun _ _ _ _ _ url other first second => ?_)
    (fun _ _ _ _ => ⟨fun _ => rfl, fun _ => rfl, fun _ _ => rfl⟩) (fun _ => ⟨rfl, rfl⟩)
    object other made madeToo
  cases first.symm.trans second
  rfl

/-! ## What is sent -/

variable {deployment : ConditionalGet.Deployment} {server server' : ConditionalGet.Server}
variable {path : List Char}

/-- The storage of the download route is the one the service fills. -/
def Backs (server : ConditionalGet.Server) (state : State Caller) : Prop :=
  ∀ key, server.store.find Storage.lifetime key server.now =
    (state.objects (String.ofList key)).map Prod.fst

theorem getImage_backed {state : State Caller} {key : List Char} {body : List UInt8}
    (backs : Backs server state) (found : getImage deployment server key = some body) :
    ∃ object, state.objects (String.ofList key) = some object ∧ object.1 = body := by
  unfold getImage at found
  split at found
  case h_1 => cases found
  case h_2 =>
      rw [backs key] at found
      exact Option.map_eq_some_iff.mp found

/-- A body is sent with the tag of its path, and is what the storage has. -/
theorem sent_of_respond {header etag : Option (List Char)} {body : List UInt8}
    (sent : respond deployment server path header = .ok etag body) :
    etag = (etagForRequest path).bind headerValue ∧
      ∃ key, pathKey deployment path = some (some key) ∧
        getImage deployment server key = some body := by
  have handled : ∀ {shown : Option (List Char)},
      downloadHandler deployment server path = .ok shown body →
        shown = none ∧ ∃ key, pathKey deployment path = some (some key) ∧
          getImage deployment server key = some body := by
    intro shown ok
    unfold downloadHandler at ok
    split at ok
    case h_1 => cases ok
    case h_2 => cases ok
    case h_3 key keyed =>
        split at ok
        case h_1 found stored =>
            cases ok
            exact ⟨rfl, key, keyed, stored⟩
        case h_2 => cases ok
  unfold respond ConditionalGet.conditionalDownloadMiddleware at sent
  cases tagged : etagForRequest path with
  | none =>
      rw [tagged] at sent
      obtain ⟨rfl, found⟩ := handled sent
      exact ⟨rfl, found⟩
  | some tag =>
      rw [tagged] at sent
      dsimp only at sent
      split at sent
      case isTrue => cases sent
      case isFalse =>
          cases next : downloadHandler deployment server path with
          | ok shown held =>
              rw [next] at sent
              obtain ⟨rfl, rfl⟩ := ConditionalGet.Response.ok.inj sent
              exact ⟨rfl, (handled next).2⟩
          | notModified _ | badRequest | notFound | badGateway =>
              rw [next] at sent
              cases sent

/-- A revalidation is answered with the tag of its path. -/
theorem tag_of_notModified {header etag : Option (List Char)}
    (answered : respond deployment server path header = .notModified etag) :
    etag = (etagForRequest path).bind headerValue := by
  have plain : ∀ shown, downloadHandler deployment server path ≠ .notModified shown := by
    intro shown handled
    unfold downloadHandler at handled
    split at handled
    case h_3 => split at handled <;> cases handled
    all_goals cases handled
  unfold respond ConditionalGet.conditionalDownloadMiddleware at answered
  cases tagged : etagForRequest path with
  | none =>
      rw [tagged] at answered
      exact absurd answered (plain _)
  | some tag =>
      rw [tagged] at answered
      dsimp only at answered
      split at answered
      case isTrue => exact (ConditionalGet.Response.notModified.inj answered).symm
      case isFalse =>
          cases next : downloadHandler deployment server path with
          | notModified shown => exact absurd next (plain shown)
          | ok _ _ | badRequest | notFound | badGateway =>
              rw [next] at answered
              cases answered

variable [DecidableEq Caller]

/-- **The tag of a path is a strong validator.**  Whatever body a download of a path is
answered with, at any time and by any replica of the service, every other body sent for the
path, at any time and by any replica, is the same one under the same tag; and a `304` for it
carries that tag, and stands for that body if the storage still has one. -/
theorem validator_strong (distinguished : Distinguished setup.display setup.sha256 asked)
    {origin : String → List UInt8} (constant : Constant setup answers origin)
    (calls : ∀ caller, asked (setup.query caller)) {state state' : State Caller}
    (reachable : (system setup).Reachable (Permitted setup answers asked) state)
    (reachable' : (system setup).Reachable (Permitted setup answers asked) state')
    (backs : Backs server state) (backs' : Backs server' state')
    {header etag : Option (List Char)} {body : List UInt8}
    (sent : respond deployment server path header = .ok etag body) :
    (∀ header' etag' body', respond deployment server' path header' = .ok etag' body' →
      etag' = etag ∧ body' = body) ∧
    ∀ header' etag', respond deployment server' path header' = .notModified etag' →
      etag' = etag ∧ ∀ key, pathKey deployment path = some (some key) →
        ∀ body', getImage deployment server' key = some body' → body' = body := by
  obtain ⟨tagged, key, keyed, found⟩ := sent_of_respond sent
  obtain ⟨object, stored, rfl⟩ := getImage_backed backs found
  have one : ∀ body', getImage deployment server' key = some body' → body' = object.1 := by
    intro body' foundToo
    obtain ⟨other, storedToo, rfl⟩ := getImage_backed backs' foundToo
    have made := (reachable_sound calls reachable).objects _ _ stored
    have madeToo := (reachable_sound calls reachable').objects _ _ storedToo
    rw [madeUnder_unique distinguished constant made madeToo]
  refine ⟨fun header' etag' body' again => ?_, fun header' etag' unchanged => ?_⟩
  · obtain ⟨taggedToo, key', keyedToo, foundToo⟩ := sent_of_respond again
    cases keyed.symm.trans keyedToo
    exact ⟨taggedToo.trans tagged.symm, one body' foundToo⟩
  · refine ⟨(tag_of_notModified unchanged).trans tagged.symm, fun key' keyedToo body' => ?_⟩
    cases keyed.symm.trans keyedToo
    exact one body'

/-! ### A photo that is downloaded and revalidated -/

section Photo

open ResizeService (photoScript photoQuery fresh)

/-- A storage that shows what the service stored, without a lifetime. -/
def showing (state : State Bool) : ConditionalGet.Server where
  store key := (state.objects (String.ofList key)).map fun object => ⟨object.1, none⟩
  now := ConditionalGet.emptyState.server.now

theorem showing_backs (state : State Bool) : Backs (showing state) state := by
  intro key
  simp only [TtlMap.Store.find, showing]
  cases state.objects (String.ofList key) <;> rfl

theorem compose_permitted : ∀ label ∈ photoScript, ∀ state : State Bool,
    Permitted composeSetup (· = photoNetwork) (· = photoQuery) state label := by
  intro label member state
  simp only [photoScript, List.mem_cons, List.not_mem_nil, or_false] at member
  rcases member with rfl | rfl | rfl | rfl | rfl | rfl | rfl | rfl | rfl | rfl <;> trivial

theorem validator_strong_photo :
    ∃ state etag body path, (system composeSetup).run (fun _ _ => True) fresh photoScript =
        some state ∧
      respond ConditionalGet.plainDeployment (showing state) path none = .ok etag body ∧
      (∀ header' etag' body',
        respond ConditionalGet.plainDeployment (showing state) path header' = .ok etag' body' →
          etag' = etag ∧ body' = body) ∧
      ∀ header' etag',
        respond ConditionalGet.plainDeployment (showing state) path header' =
          .notModified etag' →
        etag' = etag ∧ ∀ key, pathKey ConditionalGet.plainDeployment path = some (some key) →
          ∀ body', getImage ConditionalGet.plainDeployment (showing state) key = some body' →
            body' = body := by
  have evaluates : ∃ state object, (system composeSetup).run (fun _ _ => True) fresh photoScript =
      some state ∧ state.objects (composeSetup.generateKey photoQuery) = some object :=
    ⟨_, _, rfl, rfl⟩
  obtain ⟨state, object, run, stored⟩ := evaluates
  have reachable := Transition.System.reachable_of_labels _ _ photoScript compose_permitted
    (.init ResizeService.fresh_initial) run
  have concrete : photoQuery.format ≠ .auto := by decide
  have valid := compose_selfHosted.valid concrete
  have found : getImage ConditionalGet.plainDeployment (showing state)
      (composeSetup.generateKey photoQuery).toList = some object.1 := by
    rw [getImage, valid]
    change (showing state).store.find _ _ _ = _
    rw [showing_backs, String.ofList_toList, stored]
    rfl
  have absent (c : Char) (delimiter : c ∈ ['/', '?', '#', '%']) :
      c ∉ (composeSetup.generateKey photoQuery).toList := by
    rw [mem_generateKey_iff concrete (delimiters_foreign c delimiter)]
    exact List.not_mem_nil
  obtain ⟨etag, sent⟩ := (downloads_iff valid (generateKey_ne_nil _)
    compose_selfHosted.shrinks).mpr ⟨absent '/' (by decide), absent '?' (by decide),
      absent '#' (by decide), compose_selfHosted.decodes_key concrete List.not_mem_nil⟩ _ _ found
  have constant : Constant composeSetup (· = photoNetwork) fun _ => photo := by
    rintro source watermark rfl rfl
    exact photo_served false
  have distinguished : Distinguished composeSetup.display composeSetup.sha256 (· = photoQuery) :=
    ResizeService.photo_distinguished
  exact ⟨state, etag, object.1, _, run, sent, validator_strong distinguished constant
    (fun _ => rfl) reachable reachable (showing_backs state) (showing_backs state) sent⟩

end Photo

end ImageResizer.ResizeEndpoint
