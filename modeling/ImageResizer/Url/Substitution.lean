import ImageResizer.Url.RoundTrip
import ImageResizer.Url.Writes

/-!
# Presets as substitution

A request with presets and an allowlist is the same as a request without them: every preset
invocation is replaced by the segments it stands for, the default preset is written in
front, and the path is read by the grammar alone.  The allowlist only ever refuses what the
request wrote itself.
-/

namespace ImageResizer

open Text

namespace Url

/-- A source that is read has a segment with something in it. -/
theorem nonempty_of_parseSource {codings : Codings} {source : List (List Char)}
    {spec : SourceSpec} (sourceRead : parseSource codings source = .ok spec) :
    ∃ segment ∈ source, segment ≠ [] := by
  cases source with
  | nil => cases sourceRead
  | cons first rest =>
      refine ⟨first, List.mem_cons_self, ?_⟩
      rintro rfl
      cases rest with
      | nil => cases sourceRead
      | cons second rest => cases sourceRead

theorem remainder_of_splits_pathOf {signature found remainder : List Char}
    {segments : List (List Char)} (clean : '/' ∉ signature)
    (splits : Splits (pathOf signature segments) found remainder) :
    found = signature ∧ remainder = ['/'].intercalate segments := by
  have path : ['/'].intercalate (signature :: segments) = found ++ '/' :: remainder := splits.path
  have first := splitOnce_eq_some_iff.mpr ⟨path, splits.one_segment⟩
  by_cases blank : segments = []
  · rw [blank, List.intercalate_singleton] at path
    exact absurd (path ▸ by simp) clean
  · rw [List.intercalate_cons_of_ne_nil blank, List.append_assoc, List.singleton_append] at first
    have own := splitOnce_eq_some_iff.mpr
      (⟨rfl, clean⟩ : signature ++ '/' :: ['/'].intercalate segments = _ ∧ '/' ∉ signature)
    rw [own, Option.some.injEq, Prod.mk.injEq] at first
    exact ⟨first.1.symm, first.2.symm⟩

theorem clean_of_split {rawPath : List Char} {request : SignedRequest}
    (isSplit : split rawPath = .ok request) :
    '/' ∉ request.signatureSegment ∧ ∀ segment ∈ request.remainderSegments, '/' ∉ segment := by
  obtain ⟨signature, remainder, splits, rfl⟩ := split_eq_ok_iff.mp isSplit
  exact ⟨splits.one_segment, fun _ member => not_mem_of_mem_splitOn member⟩

section Substituted

variable {registry : PresetRegistry} {request : SignedRequest}

/-- What every spliced segment is. -/
def Plain (segment : List Char) : Prop :=
  ':' ∈ segment ∧ '/' ∉ segment ∧ code segment ≠ presetCode

theorem plain_of_get (splices : registry.Splices)
    (colons : ∀ name segments, registry.get name = some segments → ∀ segment ∈ segments,
      ':' ∈ segment) (name : List Char) :
    ∀ segment ∈ (registry.get name).getD [], Plain segment := by
  intro segment member
  cases found : registry.get name with
  | none =>
      rw [found] at member
      exact absurd member List.not_mem_nil
  | some segments =>
      rw [found] at member
      obtain ⟨slash, direct⟩ := (splices name segments found).2 segment member
      exact ⟨colons name segments found segment member, slash, direct⟩

/-- After substitution nothing is left of the presets. -/
theorem plain_of_mem_substituted (splices : registry.Splices)
    (colons : ∀ name segments, registry.get name = some segments → ∀ segment ∈ segments,
      ':' ∈ segment)
    (clean : ∀ segment ∈ request.directSegments, '/' ∉ segment) :
    ∀ segment ∈ request.substituted registry, Plain segment := by
  intro segment member
  rcases List.mem_append.mp member with default | direct
  · exact plain_of_get splices colons _ segment default
  · obtain ⟨written, writtenMember, member⟩ := List.mem_flatMap.mp direct
    rw [substitute] at member
    split at member
    case isTrue =>
        obtain ⟨name, _, spliced⟩ := List.mem_flatMap.mp member
        exact plain_of_get splices colons name segment spliced
    case isFalse own =>
        obtain rfl := List.mem_singleton.mp member
        exact ⟨colon_of_mem_directSegments request segment writtenMember,
          clean segment writtenMember, own⟩

end Substituted

variable (codings : Codings)

/-- The path of the substituted request is read as the substituted options and the same
source. -/
theorem readPath_substituted {registry : PresetRegistry} {request : SignedRequest}
    (signatureClean : '/' ∉ request.signatureSegment)
    (plain : ∀ segment ∈ request.substituted registry, Plain segment)
    (sourceClean : ∀ segment ∈ request.sourceSegments, '/' ∉ segment) (result : ParsedRequest) :
    readPath codings (pathOf request.signatureSegment
        (request.substituted registry ++ request.sourceSegments)) = .ok result ↔
      ProcessingOptions.parse codings.base64 (request.substituted registry) =
          .ok result.options ∧
        parseSource codings request.sourceSegments = .ok result.source := by
  have boundary := endsOptions_of_head_sourceSegments request
  have colons : ∀ segment ∈ request.substituted registry, ':' ∈ segment :=
    fun segment member => (plain segment member).1
  have clean : ∀ segment ∈ request.substituted registry ++ request.sourceSegments,
      '/' ∉ segment := by
    intro segment member
    rcases List.mem_append.mp member with option | source
    · exact (plain segment option).2.1
    · exact sourceClean segment source
  have reads (nonempty : ['/'].intercalate
      (request.substituted registry ++ request.sourceSegments) ≠ []) :=
    have parts := List.splitOn_intercalate '/' clean (fun blank => nonempty (by rw [blank]; rfl))
    readPath_of_segments codings (splits_pathOf signatureClean nonempty) parts colons
      (fun segment member => (plain segment member).2.2) boundary result
  constructor
  · intro accepted
    obtain ⟨found, isSplit, _⟩ := (Outcome.bind_ok_iff _ _ _).mp accepted
    obtain ⟨signature, remainder, splits, _⟩ := split_eq_ok_iff.mp isSplit
    obtain ⟨_, rfl⟩ := remainder_of_splits_pathOf signatureClean splits
    exact (reads splits.nonempty).mp accepted
  · intro parsed
    obtain ⟨segment, member, nonblank⟩ := nonempty_of_parseSource parsed.2
    exact (reads (intercalate_ne_nil (List.mem_append_right _ member) nonblank)).mpr parsed

/-- What was not allowed and is there nevertheless came from a preset. -/
theorem spliced_of_refused {registry : PresetRegistry} {allowed : AllowedOptions}
    {request : SignedRequest}
    (accepted : ∀ segment ∈ request.directSegments, Accepted registry allowed segment) :
    ∀ segment ∈ request.substituted registry, allowed.isAllowed (code segment) = false →
      ∃ name segments, registry.get name = some segments ∧ segment ∈ segments := by
  have ofGet (name segment : List Char) (member : segment ∈ (registry.get name).getD []) :
      ∃ name segments, registry.get name = some segments ∧ segment ∈ segments := by
    cases found : registry.get name with
    | none =>
        rw [found] at member
        exact absurd member List.not_mem_nil
    | some segments =>
        rw [found] at member
        exact ⟨name, segments, found, member⟩
  intro segment member refused
  rcases List.mem_append.mp member with default | direct
  · exact ofGet _ segment default
  · obtain ⟨written, writtenMember, member⟩ := List.mem_flatMap.mp direct
    rw [substitute] at member
    split at member
    case isTrue =>
        obtain ⟨name, _, spliced⟩ := List.mem_flatMap.mp member
        exact ofGet name segment spliced
    case isFalse =>
        obtain rfl := List.mem_singleton.mp member
        rw [(accepted segment writtenMember).code_allowed] at refused
        cases refused

/-- A registry that was read, whose segments are options, changes what a request means by
substitution alone.  What the substituted request is refused is what the plain grammar
refuses; a code the allowlist leaves out is there only if a preset spelled it; and an
option the request wrote counts over every preset in front of it. -/
theorem parseWithConfig_substitution {raw : List Char} {registry : PresetRegistry}
    (read : PresetRegistry.parse raw = .ok registry)
    (colons : ∀ name segments, registry.get name = some segments → ∀ segment ∈ segments,
      ':' ∈ segment)
    (allowed : AllowedOptions) {rawPath : List Char} {request : SignedRequest}
    (isSplit : split rawPath = .ok request) (result : ParsedRequest) :
    (request.parseWithConfig codings registry allowed = .ok result ↔
      (∀ segment ∈ request.directSegments, Accepted registry allowed segment) ∧
        readPath codings (pathOf request.signatureSegment
          (request.substituted registry ++ request.sourceSegments)) = .ok result) ∧
    (request.parseWithConfig codings registry allowed = .ok result →
      (∀ segment ∈ request.substituted registry, allowed.isAllowed (code segment) = false →
        ∃ name segments, registry.get name = some segments ∧ segment ∈ segments) ∧
      ∀ before segment after, request.directSegments = before ++ segment :: after →
        code segment ≠ presetCode →
        ∃ scan alone, result.options = scan.finish ∧
          scanSegments codings.base64 [segment] = .ok alone ∧
          Scan.overlay (fun field => writes segment field &&
            !(after.flatMap (substitute registry)).any (writes · field)) alone scan = scan) := by
  obtain ⟨signatureClean, clean⟩ := clean_of_split isSplit
  have directClean : ∀ segment ∈ request.directSegments, '/' ∉ segment :=
    fun segment member => clean segment (List.mem_of_mem_take member)
  have sourceClean : ∀ segment ∈ request.sourceSegments, '/' ∉ segment :=
    fun segment member => clean segment (List.mem_of_mem_drop member)
  have plain := plain_of_mem_substituted (PresetRegistry.parse_splices read) colons directClean
  have whole := readPath_substituted codings signatureClean plain sourceClean result
  constructor
  · rw [parseWithConfig_ok_iff, whole]
  · intro accepted
    obtain ⟨allAccepted, optionsRead, _⟩ := (parseWithConfig_ok_iff ..).mp accepted
    constructor
    · intro segment member refused
      exact spliced_of_refused allAccepted segment member refused
    · intro before segment after written own
      have parts : request.substituted registry =
          (registry.defaultPreset.getD [] ++ before.flatMap (substitute registry)) ++
            segment :: after.flatMap (substitute registry) := by
        simp [SignedRequest.substituted, written, substitute, own]
      rw [parts, ProcessingOptions.parse] at optionsRead
      obtain ⟨scan, scanned, same⟩ := (Outcome.bind_ok_iff _ _ _).mp
        ((map_eq_pure_bind Scan.finish _).symm.trans optionsRead)
      have finished : scan.finish = result.options := Except.ok.inj same
      obtain ⟨alone, aloneScanned, kept⟩ := scanSegments_last scanned
      exact ⟨scan, alone, finished.symm, aloneScanned, kept⟩

section Sample

/-- `PRESETS=thumb=rs:fill:300:300/q:80,default=el:1`. -/
def sampleRegistry : PresetRegistry :=
  ⟨[("default".toList, ["el:1".toList]),
    ("thumb".toList, ["rs:fill:300:300".toList, "q:80".toList])]⟩

def sampleRequest : SignedRequest where
  signatureSegment := "SIG".toList
  signedPath := "/pr:thumb/q:50/YQ.png".toList
  remainderSegments := ["pr:thumb".toList, "q:50".toList, "YQ.png".toList]

def sampleResult : ParsedRequest where
  options :=
    { ProcessingOptions.default with
      width := some 300, height := some 300, resizeType := .fill, quality := some 50
      enlarge := some true }
  source := ⟨"a".toList, .png⟩

theorem sampleRegistry_colons (name : List Char) (segments : List (List Char))
    (found : sampleRegistry.get name = some segments) : ∀ segment ∈ segments, ':' ∈ segment := by
  have every : ∀ entry ∈ sampleRegistry.presets, ∀ segment ∈ entry.2, ':' ∈ segment := by decide
  obtain ⟨before, after, entries, _⟩ := List.lookup_eq_some_iff.mp found
  exact every (name, segments) (entries ▸ List.mem_append_right before List.mem_cons_self)

/-- Only `pr` and `q` may be written, and the request's `q:50` counts over the preset's. -/
theorem parseWithConfig_substitution_sample :
    readPath standardCodings (pathOf "SIG".toList ["el:1".toList, "rs:fill:300:300".toList,
        "q:80".toList, "q:50".toList, "YQ.png".toList]) = .ok sampleResult :=
  ((parseWithConfig_substitution standardCodings
    (by decide : PresetRegistry.parse "thumb=rs:fill:300:300/q:80,default=el:1".toList =
      .ok sampleRegistry)
    sampleRegistry_colons (AllowedOptions.parse "pr,q".toList)
    (by decide : split "/SIG/pr:thumb/q:50/YQ.png".toList = .ok sampleRequest)
    sampleResult).1.mp (by decide)).2

end Sample

end Url

end ImageResizer
