import ImageResizer.ConditionalGet
import ImageResizer.ResizeEndpoint

/-!
# From a redirect to a download

A deployment may serve its own results: its CDN is then the download route of the service.
Whoever follows a redirect is served what is stored for the request, as long as keys are single
path segments.
-/

namespace ImageResizer.ResizeEndpoint

open ConditionalGet (pathKey getImage downloadPathPrefix respond respond_ok_iff)
open Storage (validateCacheKey)

variable {Content Caller : Type} {setup : ResizeService.Setup Content Caller}
variable {deployment : ConditionalGet.Deployment}

/-- The deployment downloads from the storage that the service fills, under keys that can be
stored, and its CDN is its own download route. -/
structure SelfHosted (setup : ResizeService.Setup Content Caller)
    (deployment : ConditionalGet.Deployment) (host : List Char) : Prop where
  keyPrefix : deployment.keyPrefix = setup.minioSubPath.toList
  base : setup.cdnBaseUrl.toList.rdropWhile (· == '/') = host ++ "/api/images/files".toList
  clean : ∀ c ∈ setup.minioSubPath.toList, Storage.isControl c = false
  /-- What has no escapes stands for itself. -/
  decodes : ∀ text : List Char, '%' ∉ text → deployment.percentDecode text = some text
  /-- An escape stands for less than it takes. -/
  shrinks : ∀ text decoded : List Char, deployment.percentDecode text = some decoded →
    decoded.length ≤ text.length

/-- The path that is asked for behind a host: a query or a fragment is no part of it. -/
def requestedPath (target : List Char) : List Char :=
  target.takeWhile fun c => c ≠ '?' ∧ c ≠ '#'

/-- A generated key is hexadecimal behind its sub-path. -/
theorem mem_generateKey {asked : ResizeQuery} (concrete : asked.format ≠ .auto) {c : Char}
    (member : c ∈ (setup.generateKey asked).toList) :
    c ∈ setup.minioSubPath.toList ∨ Storage.isLowerHex c = true ∨ c = '.' ∨
      c ∈ asked.format.toString.toList := by
  rw [ResizeService.Setup.generateKey,
    Storage.generateKey_text setup.display setup.sha256 setup.minioSubPath asked concrete,
    Storage.KeyParts.text] at member
  simp only [List.mem_append, List.mem_cons] at member
  rcases member with fromPath | fromHash | dot | fromExt
  · exact .inl fromPath
  · exact .inr (.inl (List.all_eq_true.mp (Storage.generatedParts setup.display setup.sha256
      setup.minioSubPath asked concrete).hash_hex c fromHash))
  · exact .inr (.inr (.inl dot))
  · exact .inr (.inr (.inr fromExt))

/-- The character is no part of a digest or an extension. -/
def Foreign (c : Char) : Prop :=
  Storage.isLowerHex c = false ∧ c ≠ '.' ∧ ∀ format : ImageFormat, c ∉ format.toString.toList

/-- Such a character is in a key only by its sub-path. -/
theorem mem_generateKey_iff {asked : ResizeQuery} (concrete : asked.format ≠ .auto) {c : Char}
    (foreign : Foreign c) :
    c ∈ (setup.generateKey asked).toList ↔ c ∈ setup.minioSubPath.toList := by
  constructor
  · intro member
    rcases mem_generateKey concrete member with fromPath | hex | dot | fromExt
    · exact fromPath
    · exact absurd hex (by simp [foreign.1])
    · exact absurd dot foreign.2.1
    · exact absurd fromExt (foreign.2.2 _)
  · intro member
    simp only [ResizeService.Setup.generateKey, CacheKey.generateKey, String.toList_append,
      List.mem_append]
    exact .inl (.inl (.inl member))

theorem delimiters_foreign : ∀ c ∈ ['/', '?', '#', '%'], Foreign c := by
  intro c member
  fin_cases member <;>
    exact ⟨by decide, by decide, fun format => by cases format <;> decide⟩

/-! ## The route -/

variable {key : List Char}

/-- The route takes the keys of a single segment. -/
theorem pathKey_append {segment : List Char} :
    pathKey deployment (downloadPathPrefix ++ segment) =
      if segment ≠ [] ∧ '/' ∉ segment then some (deployment.percentDecode segment) else none := by
  have dropped : List.dropPrefix? (downloadPathPrefix ++ segment) downloadPathPrefix =
      some segment :=
    List.dropPrefix?_eq_some_iff.mpr ⟨downloadPathPrefix, rfl, beq_self_eq_true _⟩
  rw [pathKey, dropped, Option.filter_some]
  by_cases single : segment ≠ [] ∧ '/' ∉ segment <;> simp [single]

theorem requestedPath_append (segment : List Char) :
    requestedPath (downloadPathPrefix ++ segment) = downloadPathPrefix ++ requestedPath segment :=
  List.takeWhile_append_of_pos (List.all_eq_true.mp (by decide))

theorem requestedPath_eq_self_iff :
    requestedPath key = key ↔ '?' ∉ key ∧ '#' ∉ key := by
  rw [requestedPath, List.takeWhile_eq_self_iff]
  constructor
  · intro plain
    refine ⟨fun query => ?_, fun fragment => ?_⟩
    · simpa using plain _ query
    · simpa using plain _ fragment
  · rintro ⟨query, fragment⟩ c member
    have notQuery : c ≠ '?' := fun same => query (same ▸ member)
    have notFragment : c ≠ '#' := fun same => fragment (same ▸ member)
    simp [notQuery, notFragment]

/-- What is downloaded from a storage that holds nothing else is stored under the key. -/
theorem eq_of_only_stored {found : List Char} {body : List UInt8}
    (served : getImage deployment (ConditionalGet.emptyState.server.call deployment key
      (.upload key [] none)) found = some body) : found = key := by
  by_contra distinct
  have valid : validateCacheKey found deployment.keyPrefix = .ok () := by
    cases outcome : validateCacheKey found deployment.keyPrefix with
    | ok => rfl
    | error failure => simp [getImage, outcome] at served
  have leaves : TtlMap.Call.leaves found
      (.upload key [] none : TtlMap.Call _ (List UInt8) Storage.Duration) := Ne.symm distinct
  rw [ConditionalGet.getImage_leaves leaves valid, getImage, valid] at served
  cases served

/-- What is stored under a valid key can be downloaded by its name if and only if the name is
a single segment of a path and stands for itself there. -/
theorem downloads_iff (valid : validateCacheKey key deployment.keyPrefix = .ok ())
    (nonempty : key ≠ [])
    (shrinks : ∀ text decoded : List Char, deployment.percentDecode text = some decoded →
      decoded.length ≤ text.length) :
    (∀ server body, getImage deployment server key = some body →
      ∃ etag, respond deployment server (requestedPath (downloadPathPrefix ++ key)) none =
        .ok etag body) ↔
      '/' ∉ key ∧ '?' ∉ key ∧ '#' ∉ key ∧ deployment.percentDecode key = some key := by
  rw [requestedPath_append]
  constructor
  · intro served
    -- Something is stored under every valid key at some time.
    have stored : getImage deployment (ConditionalGet.emptyState.server.call deployment key
        (.upload key [] none)) key = some [] :=
      ConditionalGet.getImage_upload [] none valid
    obtain ⟨found, keyed, present⟩ := respond_ok_iff.mp (served _ [] stored)
    obtain rfl := eq_of_only_stored present
    rw [pathKey_append] at keyed
    obtain ⟨⟨-, single⟩, decoded⟩ := Option.ite_none_right_eq_some.mp keyed
    replace decoded := Option.some.inj decoded
    -- A part of the key is too short to stand for all of it.
    have whole : requestedPath found = found :=
      (List.takeWhile_prefix _).eq_of_length_le (shrinks _ _ decoded)
    rw [whole] at single decoded
    obtain ⟨query, fragment⟩ := requestedPath_eq_self_iff.mp whole
    exact ⟨single, query, fragment, decoded⟩
  · rintro ⟨single, query, fragment, decoded⟩ server body found
    refine respond_ok_iff.mpr ⟨key, ?_, found⟩
    rw [requestedPath_eq_self_iff.mpr ⟨query, fragment⟩, pathKey_append,
      if_pos ⟨nonempty, single⟩, decoded]

/-! ## The redirect -/

variable {host : List Char} {asked : ResizeQuery}

theorem SelfHosted.location (selfHosted : SelfHosted setup deployment host) (key : String) :
    (setup.cdnUrl key).toList = host ++ (downloadPathPrefix ++ key.toList) := by
  have route : downloadPathPrefix = "/api/images/files".toList ++ "/".toList := by decide
  simp only [ResizeService.Setup.cdnUrl, ResizeService.getCdnUrl, String.toList_append,
    String.toList_ofList, selfHosted.base, route, List.append_assoc]

theorem SelfHosted.valid (selfHosted : SelfHosted setup deployment host)
    (concrete : asked.format ≠ .auto) :
    validateCacheKey (setup.generateKey asked).toList deployment.keyPrefix = .ok () := by
  rw [selfHosted.keyPrefix, Storage.validateCacheKey_ok_iff, ResizeService.Setup.generateKey,
    Storage.generateKey_text setup.display setup.sha256 setup.minioSubPath asked concrete]
  exact ⟨⟨_, rfl⟩, Storage.text_clean selfHosted.clean _⟩

theorem SelfHosted.decodes_key (selfHosted : SelfHosted setup deployment host)
    (concrete : asked.format ≠ .auto) (unescaped : '%' ∉ setup.minioSubPath.toList) :
    deployment.percentDecode (setup.generateKey asked).toList =
      some (setup.generateKey asked).toList := by
  apply selfHosted.decodes
  rwa [mem_generateKey_iff concrete (delimiters_foreign _ (by decide))]

theorem generateKey_ne_nil (asked : ResizeQuery) : (setup.generateKey asked).toList ≠ [] := by
  simp [ResizeService.Setup.generateKey, CacheKey.generateKey]

/-- **A redirect can be followed.**  Behind the host of a deployment that serves its own
results, the redirect of a request is a path of the download route; and whoever asks for it is
served whatever is stored under the key of the request, with the content type of its format,
if and only if the sub-path of the keys has no `/`, `?` or `#` and percent-decoding leaves the
key as it is, which it does when there is no `%` in the sub-path. -/
theorem redirect_downloads_iff (selfHosted : SelfHosted setup deployment host)
    (concrete : asked.format ≠ .auto) :
    (setup.cdnUrl (setup.generateKey asked)).toList =
        host ++ (downloadPathPrefix ++ (setup.generateKey asked).toList) ∧
      contentTypeForKey (setup.generateKey asked).toList = asked.format.contentType ∧
      ((∀ server body, getImage deployment server (setup.generateKey asked).toList = some body →
          ∃ etag, respond deployment server
            (requestedPath (downloadPathPrefix ++ (setup.generateKey asked).toList)) none =
              .ok etag body) ↔
        ('/' ∉ setup.minioSubPath.toList ∧ '?' ∉ setup.minioSubPath.toList ∧
          '#' ∉ setup.minioSubPath.toList ∧
          deployment.percentDecode (setup.generateKey asked).toList =
            some (setup.generateKey asked).toList)) ∧
      ('%' ∉ setup.minioSubPath.toList →
        deployment.percentDecode (setup.generateKey asked).toList =
          some (setup.generateKey asked).toList) := by
  have foreign (c : Char) (delimiter : c ∈ ['/', '?', '#', '%']) :
      c ∈ (setup.generateKey asked).toList ↔ c ∈ setup.minioSubPath.toList :=
    mem_generateKey_iff concrete (delimiters_foreign c delimiter)
  refine ⟨selfHosted.location _, contentTypeForKey_generateKey asked, ?_,
    selfHosted.decodes_key concrete⟩
  rw [downloads_iff (selfHosted.valid concrete) (generateKey_ne_nil asked) selfHosted.shrinks,
    foreign '/' (by decide), foreign '?' (by decide), foreign '#' (by decide)]

/-- The deployment of `compose.yaml`, whose CDN is its own download route. -/
def composeSetup : ResizeService.Setup Unit Bool :=
  { ResizeService.photoSetup with cdnBaseUrl := "http://localhost:13001/api/images/files" }

theorem compose_selfHosted :
    SelfHosted composeSetup ConditionalGet.plainDeployment "http://localhost:13001".toList where
  keyPrefix := rfl
  base := by decide
  clean c member := absurd member List.not_mem_nil
  decodes _ _ := rfl
  shrinks := by
    rintro text _ ⟨⟩
    rfl

/-- The photo can be downloaded where its redirect leads. -/
theorem redirect_downloads_iff_compose :
    (composeSetup.cdnUrl (composeSetup.generateKey ResizeService.photoQuery)).toList =
        "http://localhost:13001".toList ++
          (downloadPathPrefix ++ (composeSetup.generateKey ResizeService.photoQuery).toList) ∧
      ∀ server body, getImage ConditionalGet.plainDeployment server
          (composeSetup.generateKey ResizeService.photoQuery).toList = some body →
        ∃ etag, respond ConditionalGet.plainDeployment server
          (requestedPath
            (downloadPathPrefix ++ (composeSetup.generateKey ResizeService.photoQuery).toList))
          none = .ok etag body := by
  have ⟨location, _, downloads, decodes⟩ :=
    redirect_downloads_iff compose_selfHosted (show ResizeService.photoQuery.format ≠ .auto by decide)
  exact ⟨location, downloads.mpr ⟨List.not_mem_nil, List.not_mem_nil, List.not_mem_nil,
    decodes List.not_mem_nil⟩⟩

end ImageResizer.ResizeEndpoint
