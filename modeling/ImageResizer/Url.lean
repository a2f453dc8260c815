import ImageResizer.Url.Presets
import ImageResizer.Url.Source

/-!
# The signed URL grammar

`modules/url/mod.rs`: a raw request path is split into its signature segment and the text
that was signed, and that text is parsed into options and a source.  Presets are spliced
into the options on the way, and the allowlist is checked on what the request itself wrote.
-/

namespace ImageResizer

open Text

namespace Url

/-- A request path whose signed part is not understood yet. -/
structure SignedRequest where
  signatureSegment : List Char
  /-- Everything behind the signature segment, with its leading `/`. -/
  signedPath : List Char
  remainderSegments : List (List Char)
  deriving DecidableEq

/-- `split`. -/
def split (rawPath : List Char) : Parsed SignedRequest :=
  match splitOnce '/' (dropLeading '/' rawPath) with
  | none => .error (.malformed rawPath)
  | some (signatureSegment, remainder) =>
      if remainder = [] then .error (.malformed rawPath)
      else .ok ⟨signatureSegment, '/' :: remainder, remainder.splitOn '/'⟩

structure ParsedRequest where
  options : ProcessingOptions
  source : SourceSpec
  deriving DecidableEq

section Expansion

variable (presets : PresetRegistry) (allowed : AllowedOptions)

/-- Splice in one preset of a `pr` segment. -/
def expandName (expanded : List (List Char)) (name : List Char) : Parsed (List (List Char)) :=
  match presets.get name with
  | none => .error (.unknownPreset name)
  | some segments => .ok (expanded ++ segments)

/-- One segment the request wrote: only these are checked against the allowlist. -/
def expandSegment (expanded : List (List Char)) (segment : List Char) :
    Parsed (List (List Char)) :=
  if !allowed.isAllowed (code segment) then .error (.optionNotAllowed (code segment))
  else if code segment = presetCode then
    (arguments segment).foldlM (expandName presets) expanded
  else .ok (expanded ++ [segment])

end Expansion

/-- The index of the first segment of the source. -/
def sourceIndex (segments : List (List Char)) : Nat :=
  segments.findIdx fun segment => segment == plainMarker || !looksLikeOption segment

namespace SignedRequest

variable (codings : Codings)

/-- The option segments the request wrote. -/
def directSegments (request : SignedRequest) : List (List Char) :=
  request.remainderSegments.take (sourceIndex request.remainderSegments)

def sourceSegments (request : SignedRequest) : List (List Char) :=
  request.remainderSegments.drop (sourceIndex request.remainderSegments)

/-- `parse_with_config`. -/
def parseWithConfig (request : SignedRequest) (presets : PresetRegistry)
    (allowed : AllowedOptions) : Parsed ParsedRequest := do
  let expanded ← request.directSegments.foldlM (expandSegment presets allowed)
    (presets.defaultPreset.getD [])
  let options ← ProcessingOptions.parse codings.base64 expanded
  let source ← parseSource codings request.sourceSegments
  return ⟨options, source⟩

/-- `parse`: no presets, and no restriction. -/
def parse (request : SignedRequest) : Parsed ParsedRequest :=
  request.parseWithConfig codings .empty .unrestricted

end SignedRequest

/-- The watermark of the request, on only if `wm` gave an opacity. -/
def watermarkQuery (options : ProcessingOptions) : Option WatermarkQuery :=
  options.watermarkOpacity.map fun opacity =>
    { opacity
      position := options.watermarkPosition
      xOffset := options.watermarkXOffset
      yOffset := options.watermarkYOffset
      scale := options.watermarkScale
      url := options.watermarkUrl.map String.ofList
      size := options.watermarkSize
      rotate := options.watermarkRotate
      shadow := options.watermarkShadow }

/-- `into_resize_query`. -/
def ParsedRequest.intoResizeQuery (request : ParsedRequest) : ResizeQuery where
  url := String.ofList request.source.url
  width := request.options.width
  height := request.options.height
  resizeType := request.options.resizeType
  format := request.source.format
  blurSigma := request.options.blurSigma
  grayscale := request.options.grayscale
  enlarge := request.options.enlarge.getD false
  quality := request.options.quality
  jpegQuality := request.options.jpegQuality
  webpQuality := request.options.webpQuality
  webpLossless := request.options.webpLossless
  jpegProgressive := request.options.jpegProgressive
  jpegNoSubsampling := request.options.jpegNoSubsampling
  maxBytes := request.options.maxBytes
  background := request.options.background
  autorotate := request.options.autorotate.getD true
  stripMetadata := request.options.stripMetadata.getD true
  crop := request.options.crop
  gravity := request.options.gravity
  rotate := request.options.rotate
  flipHorizontal := request.options.flipHorizontal
  flipVertical := request.options.flipVertical
  trim := request.options.trim
  extend := request.options.extend.getD false
  padding := request.options.padding
  zoomX := request.options.zoomX
  zoomY := request.options.zoomY
  dpr := request.options.dpr
  minWidth := request.options.minWidth
  minHeight := request.options.minHeight
  watermark := watermarkQuery request.options

/-- A raw path read by the grammar alone. -/
def readPath (codings : Codings) (rawPath : List Char) : Parsed ParsedRequest := do
  (← split rawPath).parse codings

/-! ## Paths and their segments -/

/-- A path is a signature segment and what follows it.  One leading `/` is optional. -/
structure Splits (rawPath signature remainder : List Char) : Prop where
  one_segment : '/' ∉ signature
  nonempty : remainder ≠ []
  path : dropLeading '/' rawPath = signature ++ '/' :: remainder

theorem split_eq_ok_iff {rawPath : List Char} {request : SignedRequest} :
    split rawPath = .ok request ↔
      ∃ signature remainder, Splits rawPath signature remainder ∧
        request = ⟨signature, '/' :: remainder, remainder.splitOn '/'⟩ := by
  rw [split]
  constructor
  · intro accepted
    split at accepted
    case h_1 => cases accepted
    case h_2 signature remainder found =>
        obtain ⟨path, clean⟩ := splitOnce_eq_some_iff.mp found
        split_ifs at accepted with blank
        exact ⟨signature, remainder, ⟨clean, blank, path⟩, (Except.ok.inj accepted).symm⟩
  · rintro ⟨signature, remainder, splits, rfl⟩
    have found := splitOnce_eq_some_iff.mpr ⟨splits.path, splits.one_segment⟩
    simp only [found, splits.nonempty, if_false]

/-- The request path with these segments behind its signature segment. -/
def pathOf (signature : List Char) (segments : List (List Char)) : List Char :=
  '/' :: ['/'].intercalate (signature :: segments)

theorem splits_pathOf {signature : List Char} {segments : List (List Char)}
    (clean : '/' ∉ signature) (nonempty : ['/'].intercalate segments ≠ []) :
    Splits (pathOf signature segments) signature (['/'].intercalate segments) := by
  have some_segment : segments ≠ [] := by
    rintro rfl
    exact nonempty rfl
  refine ⟨clean, nonempty, ?_⟩
  rw [pathOf, dropLeading, if_pos rfl, List.intercalate_cons_of_ne_nil some_segment,
    List.append_assoc, List.singleton_append]

theorem intercalate_ne_nil {segments : List (List Char)} {segment : List Char}
    (member : segment ∈ segments) (nonempty : segment ≠ []) :
    ['/'].intercalate segments ≠ [] := by
  induction segments with
  | nil => cases member
  | cons first rest ih =>
      cases rest with
      | nil => simpa [← List.mem_singleton.mp member] using nonempty
      | cons second rest =>
          rw [List.intercalate_cons_cons]
          simp

/-- Whether a segment ends the options. -/
def EndsOptions (segment : List Char) : Prop := segment = plainMarker ∨ ':' ∉ segment

theorem endsOptions_iff (segment : List Char) :
    EndsOptions segment ↔ (segment == plainMarker || !looksLikeOption segment) = true := by
  simp [EndsOptions, looksLikeOption]

theorem not_endsOptions_of_colon {segment : List Char} (colon : ':' ∈ segment) :
    ¬ EndsOptions segment := by
  rintro (rfl | none)
  · exact absurd colon (by decide)
  · exact none colon

/-- Options in front of something that is none are exactly what is read as options. -/
theorem sourceIndex_append {options source : List (List Char)}
    (colons : ∀ segment ∈ options, ':' ∈ segment)
    (boundary : ∀ segment ∈ source.head?, EndsOptions segment) :
    sourceIndex (options ++ source) = options.length := by
  have none_ends : options.findIdx (fun segment =>
      segment == plainMarker || !looksLikeOption segment) = options.length := by
    rw [List.findIdx_eq_length]
    intro segment member
    have inside := not_endsOptions_of_colon (colons segment member)
    rwa [endsOptions_iff, Bool.not_eq_true] at inside
  rw [sourceIndex, List.findIdx_append, none_ends, if_neg (lt_irrefl _)]
  cases source with
  | nil => simp
  | cons first rest =>
      have ends := (endsOptions_iff first).mp (boundary first rfl)
      rw [List.findIdx_cons, ends, cond_true, zero_add]

/-- The options of a request all hold a `:`. -/
theorem colon_of_mem_directSegments (request : SignedRequest) :
    ∀ segment ∈ request.directSegments, ':' ∈ segment := by
  intro segment member
  obtain ⟨index, inBounds, rfl⟩ := List.mem_iff_getElem.mp member
  simp only [SignedRequest.directSegments, List.length_take, lt_min_iff] at inBounds
  simp only [SignedRequest.directSegments, List.getElem_take]
  have inside := List.not_of_lt_findIdx inBounds.1
  rw [← Bool.not_eq_true, ← endsOptions_iff, EndsOptions, not_or, not_not] at inside
  exact inside.2

theorem endsOptions_of_head_sourceSegments (request : SignedRequest) :
    ∀ segment ∈ request.sourceSegments.head?, EndsOptions segment := by
  intro segment first
  rw [SignedRequest.sourceSegments, List.head?_drop, Option.mem_def,
    List.getElem?_eq_some_iff] at first
  obtain ⟨inBounds, rfl⟩ := first
  rw [endsOptions_iff]
  exact List.findIdx_getElem (w := inBounds)

/-! ## What expansion does -/

section Substitution

variable (presets : PresetRegistry) (allowed : AllowedOptions)

/-- The presets a `pr` segment names, in order; any other segment is itself. -/
def substitute (segment : List Char) : List (List Char) :=
  if code segment = presetCode then
    (arguments segment).flatMap fun name => (presets.get name).getD []
  else [segment]

/-- The code is allowed, and every preset named is there. -/
structure Accepted (segment : List Char) : Prop where
  code_allowed : allowed.isAllowed (code segment) = true
  presets_exist : code segment = presetCode →
    ∀ name ∈ arguments segment, (presets.get name).isSome = true

theorem expandName_ok_iff (expanded next : List (List Char)) (name : List Char) :
    expandName presets expanded name = .ok next ↔
      (presets.get name).isSome = true ∧ next = expanded ++ (presets.get name).getD [] := by
  rw [expandName]
  cases presets.get name with
  | none => simp
  | some segments => simp [eq_comm]

theorem expandSegment_ok_iff (expanded : List (List Char)) (segment : List Char)
    (next : List (List Char)) :
    expandSegment presets allowed expanded segment = .ok next ↔
      Accepted presets allowed segment ∧ next = expanded ++ substitute presets segment := by
  rw [expandSegment, substitute]
  cases isAllowed : allowed.isAllowed (code segment) with
  | false =>
      have refused : ¬ Accepted presets allowed segment := fun accepted => by
        rw [accepted.code_allowed] at isAllowed
        cases isAllowed
      simp [refused]
  | true =>
      rw [Bool.not_true, if_neg Bool.false_ne_true]
      by_cases invokes : code segment = presetCode
      · rw [if_pos invokes, if_pos invokes,
          Folding.append_iff fun state name next => expandName_ok_iff presets state next name]
        exact and_congr_left fun _ =>
          ⟨fun exist => ⟨isAllowed, fun _ => exist⟩, fun accepted => accepted.presets_exist invokes⟩
      · rw [if_neg invokes, if_neg invokes]
        have accepted : Accepted presets allowed segment :=
          ⟨isAllowed, fun again => absurd again invokes⟩
        simp [accepted, eq_comm]

/-- The options a request stands for once its presets are spliced in. -/
def SignedRequest.substituted (request : SignedRequest) : List (List Char) :=
  presets.defaultPreset.getD [] ++ request.directSegments.flatMap (substitute presets)

theorem parseWithConfig_ok_iff (codings : Codings) (request : SignedRequest)
    (result : ParsedRequest) :
    request.parseWithConfig codings presets allowed = .ok result ↔
      (∀ segment ∈ request.directSegments, Accepted presets allowed segment) ∧
        ProcessingOptions.parse codings.base64 (request.substituted presets) =
          .ok result.options ∧
        parseSource codings request.sourceSegments = .ok result.source := by
  have expansion := Folding.append_iff (expandSegment_ok_iff presets allowed)
    request.directSegments (presets.defaultPreset.getD [])
  rw [SignedRequest.parseWithConfig, Outcome.bind_ok_iff]
  simp only [expansion, Outcome.bind_ok_iff]
  constructor
  · rintro ⟨_, ⟨accepted, rfl⟩, options, optionsRead, source, sourceRead, same⟩
    obtain rfl := Except.ok.inj same
    exact ⟨accepted, optionsRead, sourceRead⟩
  · rintro ⟨accepted, optionsRead, sourceRead⟩
    exact ⟨_, ⟨accepted, rfl⟩, result.options, optionsRead, result.source, sourceRead, rfl⟩

end Substitution

end Url

end ImageResizer
