import ImageResizer.Url

/-!
# Writing a request URL and reading it back

A path built from option segments and an encoded source is read as those options, that URL
and that format.  The grammar finds the options by the `:` that every one of them holds and
no encoded source does, and the extension by the last `.`, which the extension itself does
not hold, so neither boundary depends on what the URL contains.
-/

namespace ImageResizer

open Text

namespace Url

/-- The preset code is no option of its own. -/
theorem applySegment_preset (base64 : Base64) (scan : Scan) {segment : List Char}
    (invokes : code segment = presetCode) :
    applySegment base64 scan segment = .error (.unknownOption (code segment)) := by
  have name : String.ofList (code segment) = "pr" := by
    rw [invokes]
    decide
  simp [applySegment, name]

theorem code_ne_preset_of_parse {base64 : Base64} {segments : List (List Char)}
    {options : ProcessingOptions} (meaning : ProcessingOptions.parse base64 segments = .ok options) :
    ∀ segment ∈ segments, code segment ≠ presetCode := by
  intro segment member invokes
  cases scanned : scanSegments base64 segments with
  | error error =>
      rw [ProcessingOptions.parse, scanned] at meaning
      cases meaning
  | ok scan =>
      obtain ⟨state, next, applied⟩ := Folding.accepted scanned segment member
      rw [applySegment_preset base64 state invokes] at applied
      cases applied

theorem substitute_empty {segments : List (List Char)}
    (direct : ∀ segment ∈ segments, code segment ≠ presetCode) :
    segments.flatMap (substitute .empty) = segments := by
  calc segments.flatMap (substitute .empty) = segments.flatMap fun segment => [segment] := by
        apply List.flatMap_congr
        intro segment member
        rw [substitute, if_neg (direct segment member)]
    _ = segments := List.flatMap_singleton' segments

section Boundaries

variable (codings : Codings)

/-- Segments that all hold a `:` and invoke no preset, in front of a source that starts with
none of them, are read as options, and the source as a source. -/
theorem readPath_of_segments {rawPath signature remainder : List Char}
    {segments source : List (List Char)} (splits : Splits rawPath signature remainder)
    (parts : remainder.splitOn '/' = segments ++ source)
    (colons : ∀ segment ∈ segments, ':' ∈ segment)
    (own : ∀ segment ∈ segments, code segment ≠ presetCode)
    (boundary : ∀ segment ∈ source.head?, EndsOptions segment) (result : ParsedRequest) :
    readPath codings rawPath = .ok result ↔
      ProcessingOptions.parse codings.base64 segments = .ok result.options ∧
        parseSource codings source = .ok result.source := by
  have found : split rawPath = .ok ⟨signature, '/' :: remainder, segments ++ source⟩ :=
    split_eq_ok_iff.mpr ⟨signature, remainder, splits, by rw [parts]⟩
  have index : sourceIndex (segments ++ source) = segments.length :=
    sourceIndex_append colons boundary
  have accepted : ∀ segment ∈ segments, Accepted .empty .unrestricted segment :=
    fun segment member => ⟨rfl, fun invokes => absurd invokes (own segment member)⟩
  have spliced : PresetRegistry.empty.defaultPreset.getD [] ++
      segments.flatMap (substitute .empty) = segments := substitute_empty own
  rw [readPath, found]
  apply (parseWithConfig_ok_iff _ _ codings _ _).trans
  simp only [SignedRequest.substituted, SignedRequest.directSegments,
    SignedRequest.sourceSegments, index, List.take_left, List.drop_left, spliced]
  exact and_iff_right accepted

end Boundaries

section Forms

variable (codings : Codings) {signature : List Char} {segments : List (List Char)}
variable {options : ProcessingOptions} {url ext : List Char} {format : ImageFormat}

/-- The source segment of a URL in base64. -/
def base64Source (url ext : List Char) : List Char :=
  codings.base64.encode (encodeUtf8 url) ++ '.' :: ext

theorem readPath_base64 (clean : '/' ∉ signature)
    (segmentsClean : ∀ segment ∈ segments, '/' ∉ segment)
    (colons : ∀ segment ∈ segments, ':' ∈ segment)
    (meaning : ProcessingOptions.parse codings.base64 segments = .ok options)
    (nonempty : url ≠ []) (listed : (ext, format) ∈ extensionFormats) :
    readPath codings (pathOf signature (segments ++ [base64Source codings url ext])) =
      .ok ⟨options, ⟨url, format⟩⟩ := by
  obtain ⟨_, _, _, noSlash, noColon⟩ := extension_known listed
  have slash : '/' ∉ base64Source codings url ext := by
    simp [base64Source, Base64.not_mem_encode, noSlash]
  have colon : ':' ∉ base64Source codings url ext := by
    simp [base64Source, Base64.not_mem_encode, noColon]
  have nonblank : base64Source codings url ext ≠ [] := by simp [base64Source]
  have parts : (['/'].intercalate (segments ++ [base64Source codings url ext])).splitOn '/' =
      segments ++ [base64Source codings url ext] := by
    rw [splitOn_intercalate_append _ segmentsClean, List.splitOn_eq_singleton slash]
  have boundary : ∀ segment ∈ [base64Source codings url ext].head?, EndsOptions segment := by
    intro segment first
    obtain rfl := Option.some.inj first
    exact Or.inr colon
  exact (readPath_of_segments codings (splits_pathOf clean (intercalate_ne_nil (by simp) nonblank)) parts
    colons (code_ne_preset_of_parse meaning) boundary _).mpr
      ⟨meaning, parseSource_base64 codings nonempty listed⟩

/-- Whatever text the URL is decoded from, its slashes kept or not. -/
theorem readPath_plain {escaped : List Char} (clean : '/' ∉ signature)
    (segmentsClean : ∀ segment ∈ segments, '/' ∉ segment)
    (colons : ∀ segment ∈ segments, ':' ∈ segment)
    (meaning : ProcessingOptions.parse codings.base64 segments = .ok options)
    (decoded : codings.percent.decode escaped = some url)
    (nonempty : url ≠ []) (listed : (ext, format) ∈ extensionFormats) :
    readPath codings (pathOf signature (segments ++ [plainMarker, escaped ++ '.' :: ext])) =
      .ok ⟨options, ⟨url, format⟩⟩ := by
  have markerClean : '/' ∉ plainMarker := by decide
  have allClean : ∀ segment ∈ segments ++ [plainMarker], '/' ∉ segment := by
    simpa [or_imp, forall_and, markerClean] using segmentsClean
  have nonblank : escaped ++ '.' :: ext ≠ [] := by simp
  have grouped : segments ++ [plainMarker, escaped ++ '.' :: ext] =
      (segments ++ [plainMarker]) ++ [escaped ++ '.' :: ext] := by simp
  have parts : (['/'].intercalate (segments ++ [plainMarker, escaped ++ '.' :: ext])).splitOn '/' =
      segments ++ plainMarker :: (escaped ++ '.' :: ext).splitOn '/' := by
    rw [grouped, splitOn_intercalate_append _ allClean, List.append_assoc, List.singleton_append]
  have boundary : ∀ segment ∈ (plainMarker :: (escaped ++ '.' :: ext).splitOn '/').head?,
      EndsOptions segment := by
    intro segment first
    obtain rfl := Option.some.inj first
    exact Or.inl rfl
  exact (readPath_of_segments codings (splits_pathOf clean (intercalate_ne_nil (by simp) nonblank)) parts
    colons (code_ne_preset_of_parse meaning) boundary _).mpr
      ⟨meaning, parseSource_plain codings decoded nonempty listed⟩

/-- A request URL is read as the options, the source URL and the format it was built from,
in its base64 form and in its plain form. -/
theorem readPath_round_trip (clean : '/' ∉ signature)
    (segmentsClean : ∀ segment ∈ segments, '/' ∉ segment)
    (colons : ∀ segment ∈ segments, ':' ∈ segment)
    (meaning : ProcessingOptions.parse codings.base64 segments = .ok options)
    (nonempty : url ≠ []) (listed : (ext, format) ∈ extensionFormats) :
    readPath codings (pathOf signature (segments ++ [base64Source codings url ext])) =
        .ok ⟨options, ⟨url, format⟩⟩ ∧
      ∀ keepSlashes, readPath codings (pathOf signature (segments ++
          [plainMarker, codings.percent.encode keepSlashes url ++ '.' :: ext])) =
        .ok ⟨options, ⟨url, format⟩⟩ := by
  constructor
  · exact readPath_base64 codings clean segmentsClean colons meaning nonempty listed
  · intro keepSlashes
    exact readPath_plain codings clean segmentsClean colons meaning
      (codings.percent.decode_encode keepSlashes url) nonempty listed

end Forms

/-- The codings by their definitions. -/
def standardCodings : Codings := ⟨.urlSafeNoPad, .utf8⟩

theorem readPath_round_trip_sample :
    readPath standardCodings (pathOf "SIG".toList
        (["q:80".toList, "g:true".toList] ++ [base64Source standardCodings "a/b.c".toList
          "webp".toList])) =
      .ok ⟨{ ProcessingOptions.default with quality := some 80, grayscale := some true },
        ⟨"a/b.c".toList, .webp⟩⟩ :=
  (readPath_round_trip standardCodings (by decide) (by decide) (by decide) (by decide) (by decide)
    (by decide)).1

end Url

end ImageResizer
