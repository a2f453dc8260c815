import ImageResizer.Params
import ImageResizer.Foundation.Framing

/-!
# The cache key

`CacheService::generate_key` (`services/cache/handler.rs`): the byte stream fed to
the hasher, field by field in the order of the source, and what that stream commits
to.

An absent optional field is rendered as the text `None`.  Everywhere but in one
field no present value renders to that text, so the stream fixes the request up to
the canonical blur sigma.  The exception is the watermark URL, which is rendered
verbatim.
-/

namespace ImageResizer

open Framing

/-- `Display` of the floating-point types: one text for each value, made of digits,
a sign, a point, `inf` or `NaN`. -/
structure FloatDisplay where
  f32 : F32 → String
  f64 : F64 → String
  f32_injective : ∀ x y, f32 x = f32 y → x = y
  f64_injective : ∀ x y, f64 x = f64 y → x = y
  f32_ne_none : ∀ x, f32 x ≠ "None"
  f64_no_colon : ∀ x, ':' ∉ (f64 x).toList

namespace CacheKey

/-- `CACHE_KEY_VERSION`. -/
def version : UInt8 := 11

variable (display : FloatDisplay)

def boolText : Bool → String
  | true => "true"
  | false => "false"

/-- `Display` of `Gravity`. -/
def gravityText : Gravity → String
  | .center => "ce"
  | .north => "no"
  | .south => "so"
  | .east => "ea"
  | .west => "we"
  | .northEast => "noea"
  | .northWest => "nowe"
  | .southEast => "soea"
  | .southWest => "sowe"
  | .focusPoint x y => "fp:" ++ (display.f64 x ++ ":" ++ display.f64 y)

/-- `Display` of `CropDimension`. -/
def cropDimensionText : CropDimension → String
  | .full => "full"
  | .absolute pixels => "abs:" ++ Nat.repr pixels.toNat
  | .relative fraction => "rel:" ++ display.f64 fraction

/-- `Debug` of `WatermarkPosition`. -/
def positionText : WatermarkPosition → String
  | .center => "Center"
  | .north => "North"
  | .south => "South"
  | .east => "East"
  | .west => "West"
  | .northEast => "NorthEast"
  | .northWest => "NorthWest"
  | .southEast => "SouthEast"
  | .southWest => "SouthWest"

/-- `params.format.to_string().to_lowercase()`. -/
def formatText (format : ImageFormat) : String :=
  String.ofList (format.toString.toList.map Char.toLower)

def colorBytes (color : Rgb) : Bytes := [color.r, color.g, color.b]

def sizeText (size : UInt32 × UInt32) : String :=
  Nat.repr size.1.toNat ++ "x" ++ Nat.repr size.2.toNat

def paddingText (padding : Padding) : String :=
  Nat.repr padding.top.toNat ++ ":" ++ (Nat.repr padding.right.toNat ++ ":" ++
    (Nat.repr padding.bottom.toNat ++ ":" ++ Nat.repr padding.left.toNat))

/-- `canonical_blur_sigma`, before rendering: only a positive sigma blurs. -/
def canonicalBlurSigma (sigma : Option F32) : Option F32 :=
  sigma.filter fun sigma => sigma.value.isPositive

/-- The field of an absent value. -/
def noneField : Bytes := text "None"

/-- One field for an optional value. -/
def orNone {α : Type} (render : α → Bytes) (value : Option α) : List Bytes :=
  value.elim [noneField] fun value => [render value]

def u32Field (n : UInt32) : Bytes := text (Nat.repr n.toNat)

def boolField (b : Bool) : Bytes := text (boolText b)

def cropFields (crop : Crop) : List Bytes :=
  [text (cropDimensionText display crop.width)] ++
  [text (cropDimensionText display crop.height)] ++
  [text (gravityText display crop.gravity)]

def trimFields (trim : TrimOptions) : List Bytes :=
  [text (display.f32 trim.threshold)] ++
  orNone colorBytes trim.color ++
  [boolField trim.equalHor] ++
  [boolField trim.equalVer]

def watermarkFields (watermark : WatermarkQuery) : List Bytes :=
  [text (display.f32 watermark.opacity)] ++
  [text (positionText watermark.position)] ++
  [text (display.f32 watermark.xOffset)] ++
  [text (display.f32 watermark.yOffset)] ++
  [text (display.f32 watermark.scale)] ++
  orNone text watermark.url ++
  orNone (fun size => text (sizeText size)) watermark.size ++
  [text (display.f32 watermark.rotate)] ++
  orNone (fun sigma => text (display.f32 sigma)) watermark.shadow

/-- The arguments of `update_field`, in the order of the calls. -/
def fields (params : ResizeQuery) : List Bytes :=
  [text params.url] ++
  orNone u32Field params.width ++
  orNone u32Field params.height ++
  [text params.resizeType.toString] ++
  [text (formatText params.format)] ++
  orNone (fun sigma => text (display.f32 sigma)) (canonicalBlurSigma params.blurSigma) ++
  orNone boolField params.grayscale ++
  [boolField params.enlarge] ++
  orNone (fun quality => [quality]) params.quality ++
  orNone (fun quality => [quality]) params.jpegQuality ++
  orNone (fun quality => [quality]) params.webpQuality ++
  orNone boolField params.webpLossless ++
  orNone boolField params.jpegProgressive ++
  orNone boolField params.jpegNoSubsampling ++
  orNone (fun maxBytes : UInt64 => text (Nat.repr maxBytes.toNat)) params.maxBytes ++
  orNone colorBytes params.background ++
  [boolField params.autorotate] ++
  [text (gravityText display params.gravity)] ++
  params.crop.elim [noneField] (cropFields display) ++
  [text (Int.repr params.rotate.toInt)] ++
  [boolField params.flipHorizontal] ++
  [boolField params.flipVertical] ++
  params.trim.elim [noneField] (trimFields display) ++
  params.watermark.elim [noneField] (watermarkFields display) ++
  [boolField params.extend] ++
  orNone (fun padding => text (paddingText padding)) params.padding ++
  [text (display.f32 params.zoomX)] ++
  [text (display.f32 params.zoomY)] ++
  [text (display.f32 params.dpr)] ++
  orNone u32Field params.minWidth ++
  orNone u32Field params.minHeight ++
  [boolField params.stripMetadata]

/-- Everything `generate_key` feeds to the hasher. -/
def stream (params : ResizeQuery) : Bytes :=
  version :: frames (fields display params)

/-- The key under which an output is stored: `digest` is SHA-256 in hexadecimal. -/
def generateKey (digest : Bytes → String) (minioSubPath : String) (params : ResizeQuery) :
    String :=
  minioSubPath ++ digest (stream display params) ++ "." ++ params.format.toString

/-! ## Renderings -/

theorem boolText_injective {first second : Bool} (same : boolText first = boolText second) :
    first = second := by
  cases first <;> cases second <;> first | rfl | exact absurd same (by decide)

theorem resizeType_injective {first second : ResizeType}
    (same : first.toString = second.toString) : first = second := by
  cases first <;> cases second <;> first | rfl | exact absurd same (by decide)

theorem formatText_injective {first second : ImageFormat}
    (same : formatText first = formatText second) : first = second := by
  cases first <;> cases second <;> first | rfl | exact absurd same (by decide)

theorem positionText_injective {first second : WatermarkPosition}
    (same : positionText first = positionText second) : first = second := by
  cases first <;> cases second <;> first | rfl | exact absurd same (by decide)

theorem colorBytes_injective {first second : Rgb} (same : colorBytes first = colorBytes second) :
    first = second := by
  cases first
  cases second
  simpa [colorBytes] using same

theorem repr_ne_none (n : Nat) : Nat.repr n ≠ "None" := by
  intro same
  exact not_mem_repr 'N' n (by decide) (by rw [same]; decide)

theorem repr_join_injective (sep : Char) (notDigit : sep.isDigit = false) {n n' : Nat}
    {rest rest' : String}
    (same : Nat.repr n ++ String.singleton sep ++ rest =
      Nat.repr n' ++ String.singleton sep ++ rest') : n = n' ∧ rest = rest' := by
  obtain ⟨numerals, rests⟩ :=
    join_injective (not_mem_repr sep n notDigit) (not_mem_repr sep n' notDigit) same
  exact ⟨Nat.repr_injective numerals, rests⟩

theorem sizeText_injective {first second : UInt32 × UInt32}
    (same : sizeText first = sizeText second) : first = second := by
  obtain ⟨widths, heights⟩ := repr_join_injective 'x' rfl same
  exact Prod.ext (UInt32.toNat_inj.mp widths)
    (UInt32.toNat_inj.mp (Nat.repr_injective heights))

theorem sizeText_ne_none (size : UInt32 × UInt32) : sizeText size ≠ "None" := by
  intro same
  have mem : 'x' ∈ (sizeText size).toList := by simp [sizeText]
  rw [same] at mem
  exact absurd mem (by decide)

theorem paddingText_injective {first second : Padding}
    (same : paddingText first = paddingText second) : first = second := by
  obtain ⟨tops, rest⟩ := repr_join_injective ':' rfl same
  obtain ⟨rights, rest⟩ := repr_join_injective ':' rfl rest
  obtain ⟨bottoms, lefts⟩ := repr_join_injective ':' rfl rest
  cases first
  cases second
  simp only [Padding.mk.injEq]
  exact ⟨UInt32.toNat_inj.mp tops, UInt32.toNat_inj.mp rights, UInt32.toNat_inj.mp bottoms,
    UInt32.toNat_inj.mp (Nat.repr_injective lefts)⟩

theorem paddingText_ne_none (padding : Padding) : paddingText padding ≠ "None" := by
  intro same
  have mem : ':' ∈ (paddingText padding).toList := by simp [paddingText]
  rw [same] at mem
  exact absurd mem (by decide)

theorem cropDimensionText_injective {first second : CropDimension}
    (same : cropDimensionText display first = cropDimensionText display second) :
    first = second := by
  have chars := congrArg String.toList same
  cases first with
  | full => cases second <;> simp [cropDimensionText] at chars ⊢
  | absolute pixels =>
      cases second with
      | full => simp [cropDimensionText] at chars
      | absolute pixels' =>
          rw [UInt32.toNat_inj.mp (Nat.repr_injective (append_right_injective same))]
      | relative fraction => simp [cropDimensionText] at chars
  | relative fraction =>
      cases second with
      | full => simp [cropDimensionText] at chars
      | absolute pixels => simp [cropDimensionText] at chars
      | relative fraction' =>
          rw [display.f64_injective _ _ (append_right_injective same)]

theorem cropDimensionText_ne_none (dimension : CropDimension) :
    cropDimensionText display dimension ≠ "None" := by
  intro same
  have chars := congrArg String.toList same
  cases dimension <;> simp [cropDimensionText] at chars

theorem gravityText_injective {first second : Gravity}
    (same : gravityText display first = gravityText display second) : first = second := by
  have chars := congrArg String.toList same
  by_cases focused : (∃ x y, first = .focusPoint x y) ∧ ∃ x y, second = .focusPoint x y
  · obtain ⟨⟨x, y, rfl⟩, x', y', rfl⟩ := focused
    obtain ⟨xs, ys⟩ := join_injective (display.f64_no_colon x) (display.f64_no_colon x')
      (append_right_injective same)
    rw [display.f64_injective _ _ xs, display.f64_injective _ _ ys]
  · -- at most one side is a focus point, and only its text starts with "fp:"
    cases first <;> cases second <;>
      first
      | rfl
      | exact absurd ⟨⟨_, _, rfl⟩, _, _, rfl⟩ focused
      | simp [gravityText] at chars

/-! ## What the stream commits to -/

/-- The watermark as its URL is rendered: an absent one reads `None`. -/
def namedUrl (watermark : WatermarkQuery) : WatermarkQuery :=
  { watermark with url := some (watermark.url.getD "None") }

/-- The request with its blur sigma in canonical form. -/
def canonicalBlur (params : ResizeQuery) : ResizeQuery :=
  { params with blurSigma := canonicalBlurSigma params.blurSigma }

/-- What the key stands for. -/
def keyed (params : ResizeQuery) : ResizeQuery :=
  { canonicalBlur params with watermark := params.watermark.map namedUrl }

section Determines

theorem text_ne_none {s : String} (distinct : s ≠ "None") : text s ≠ noneField :=
  fun same => distinct (text_injective same)

theorem noneField_length : noneField.length = 4 := by decide

theorem eq_of_rel {α : Type} {a b : Option α} (related : Option.Rel (fun a b => a = b) a b) :
    a = b := by
  cases related with
  | none => rfl
  | some same => rw [same]

/-- An optional field whose rendering is injective and never `None`. -/
theorem orNone_determines {α : Type} {render : α → Bytes}
    (injective : ∀ a b, render a = render b → a = b)
    (present : ∀ a, render a ≠ noneField) :
    Determines (orNone render) fun a b => a = b := by
  exact (Determines.optional noneField (Determines.single injective)
    fun a => ⟨render a, [], rfl, present a⟩).mono fun _ _ => eq_of_rel

theorem text_determines {α : Type} {render : α → String}
    (injective : ∀ a b, render a = render b → a = b) :
    Determines (fun a => [text (render a)]) fun a b => a = b :=
  .single fun a b same => injective a b (text_injective same)

theorem orNone_text_determines {α : Type} {render : α → String}
    (injective : ∀ a b, render a = render b → a = b)
    (present : ∀ a, render a ≠ "None") :
    Determines (orNone fun a => text (render a)) fun a b => a = b :=
  orNone_determines (fun a b same => injective a b (text_injective same))
    fun a => text_ne_none (present a)

theorem u32_determines : Determines (orNone u32Field) fun a b => a = b :=
  orNone_text_determines (fun _ _ same => UInt32.toNat_inj.mp (Nat.repr_injective same))
    fun n => repr_ne_none n.toNat

theorem quality_determines :
    Determines (orNone fun quality : UInt8 => [quality]) fun a b => a = b := by
  refine orNone_determines (fun a b same => (List.cons.inj same).1) fun a same => ?_
  have lengths := congrArg List.length same
  simp [noneField_length] at lengths

theorem bool_determines : Determines (fun b => [boolField b]) fun a b => a = b :=
  text_determines fun _ _ same => boolText_injective same

theorem orNone_bool_determines : Determines (orNone boolField) fun a b => a = b :=
  orNone_text_determines (fun _ _ same => boolText_injective same)
    fun b => by cases b <;> decide

theorem color_determines : Determines (orNone colorBytes) fun a b => a = b := by
  refine orNone_determines (fun a b same => colorBytes_injective same) fun a same => ?_
  have lengths := congrArg List.length same
  simp [noneField_length, colorBytes] at lengths

theorem f32_determines : Determines (fun x => [text (display.f32 x)]) fun a b => a = b :=
  text_determines display.f32_injective

theorem orNone_f32_determines :
    Determines (orNone fun x => text (display.f32 x)) fun a b => a = b :=
  orNone_text_determines display.f32_injective display.f32_ne_none

theorem url_determines :
    Determines (orNone text) fun a b => a.getD "None" = b.getD "None" := by
  intro a b rest rest' same
  cases a <;> cases b <;>
    exact ⟨text_injective (List.cons.inj same).1, (List.cons.inj same).2⟩

theorem crop_determines : Determines (cropFields display) fun a b => a = b := by
  refine ((((text_determines fun _ _ => cropDimensionText_injective display).part
    Crop.width).append ((text_determines fun _ _ => cropDimensionText_injective display).part
    Crop.height)).append ((text_determines fun _ _ => gravityText_injective display).part
    Crop.gravity)).mono ?_
  rintro ⟨⟩ ⟨⟩ ⟨⟨rfl, rfl⟩, rfl⟩
  rfl

theorem trim_determines : Determines (trimFields display) fun a b => a = b := by
  refine ((((f32_determines display).part TrimOptions.threshold).append
    (color_determines.part TrimOptions.color)).append
    (bool_determines.part TrimOptions.equalHor)).append
    (bool_determines.part TrimOptions.equalVer) |>.mono ?_
  rintro ⟨⟩ ⟨⟩ ⟨⟨⟨rfl, rfl⟩, rfl⟩, rfl⟩
  rfl

theorem watermark_determines :
    Determines (watermarkFields display) fun a b => namedUrl a = namedUrl b := by
  refine ((f32_determines display).part WatermarkQuery.opacity)
    |>.append ((text_determines fun _ _ => positionText_injective).part WatermarkQuery.position)
    |>.append ((f32_determines display).part WatermarkQuery.xOffset)
    |>.append ((f32_determines display).part WatermarkQuery.yOffset)
    |>.append ((f32_determines display).part WatermarkQuery.scale)
    |>.append (url_determines.part WatermarkQuery.url)
    |>.append ((orNone_text_determines (fun _ _ => sizeText_injective)
      sizeText_ne_none).part WatermarkQuery.size)
    |>.append ((f32_determines display).part WatermarkQuery.rotate)
    |>.append ((orNone_f32_determines display).part WatermarkQuery.shadow)
    |>.mono ?_
  rintro ⟨⟩ ⟨⟩ ⟨⟨⟨⟨⟨⟨⟨⟨rfl, rfl⟩, rfl⟩, rfl⟩, rfl⟩, urls⟩, rfl⟩, rfl⟩, rfl⟩
  simpa [namedUrl] using urls

theorem optionalCrop_determines :
    Determines (fun crop : Option Crop => crop.elim [noneField] (cropFields display))
      fun a b => a = b := by
  exact (Determines.optional noneField (crop_determines display) fun crop =>
    ⟨_, _, rfl, text_ne_none (cropDimensionText_ne_none display crop.width)⟩).mono
      fun _ _ => eq_of_rel

theorem optionalTrim_determines :
    Determines (fun trim : Option TrimOptions => trim.elim [noneField] (trimFields display))
      fun a b => a = b := by
  exact (Determines.optional noneField (trim_determines display) fun trim =>
    ⟨_, _, rfl, text_ne_none (display.f32_ne_none trim.threshold)⟩).mono
      fun _ _ => eq_of_rel

theorem optionalWatermark_determines :
    Determines
      (fun watermark : Option WatermarkQuery =>
        watermark.elim [noneField] (watermarkFields display))
      fun a b => a.map namedUrl = b.map namedUrl := by
  refine (Determines.optional noneField (watermark_determines display) fun watermark =>
    ⟨_, _, rfl, text_ne_none (display.f32_ne_none watermark.opacity)⟩).mono ?_
  intro a b related
  cases related with
  | none => rfl
  | some same => simpa using same

/-- The fields fix everything the key stands for. -/
theorem fields_determines : Determines (fields display) fun p q => keyed p = keyed q := by
  have blur : Determines
      (fun params : ResizeQuery =>
        orNone (fun sigma => text (display.f32 sigma)) (canonicalBlurSigma params.blurSigma))
      fun p q => canonicalBlurSigma p.blurSigma = canonicalBlurSigma q.blurSigma :=
    (orNone_f32_determines display).part fun params : ResizeQuery =>
      canonicalBlurSigma params.blurSigma
  have maxBytes : Determines (orNone fun n : UInt64 => text (Nat.repr n.toNat))
      fun a b => a = b :=
    orNone_text_determines (fun _ _ same => UInt64.toNat_inj.mp (Nat.repr_injective same))
      fun n => repr_ne_none n.toNat
  have rotate : Determines (fun n : Int32 => [text (Int.repr n.toInt)]) fun a b => a = b :=
    text_determines fun _ _ same => Int32.toInt_inj.mp (Int.repr_injective same)
  have padding : Determines (orNone fun padding => text (paddingText padding))
      fun a b => a = b :=
    orNone_text_determines (fun _ _ => paddingText_injective) paddingText_ne_none
  have gravity : Determines (fun gravity => [text (gravityText display gravity)])
      fun a b => a = b :=
    text_determines fun _ _ => gravityText_injective display
  refine ((text_determines fun _ _ same => same).part ResizeQuery.url)
    |>.append (u32_determines.part ResizeQuery.width)
    |>.append (u32_determines.part ResizeQuery.height)
    |>.append ((text_determines fun _ _ => resizeType_injective).part ResizeQuery.resizeType)
    |>.append ((text_determines fun _ _ => formatText_injective).part ResizeQuery.format)
    |>.append blur
    |>.append (orNone_bool_determines.part ResizeQuery.grayscale)
    |>.append (bool_determines.part ResizeQuery.enlarge)
    |>.append (quality_determines.part ResizeQuery.quality)
    |>.append (quality_determines.part ResizeQuery.jpegQuality)
    |>.append (quality_determines.part ResizeQuery.webpQuality)
    |>.append (orNone_bool_determines.part ResizeQuery.webpLossless)
    |>.append (orNone_bool_determines.part ResizeQuery.jpegProgressive)
    |>.append (orNone_bool_determines.part ResizeQuery.jpegNoSubsampling)
    |>.append (maxBytes.part ResizeQuery.maxBytes)
    |>.append (color_determines.part ResizeQuery.background)
    |>.append (bool_determines.part ResizeQuery.autorotate)
    |>.append (gravity.part ResizeQuery.gravity)
    |>.append ((optionalCrop_determines display).part ResizeQuery.crop)
    |>.append (rotate.part ResizeQuery.rotate)
    |>.append (bool_determines.part ResizeQuery.flipHorizontal)
    |>.append (bool_determines.part ResizeQuery.flipVertical)
    |>.append ((optionalTrim_determines display).part ResizeQuery.trim)
    |>.append ((optionalWatermark_determines display).part ResizeQuery.watermark)
    |>.append (bool_determines.part ResizeQuery.extend)
    |>.append (padding.part ResizeQuery.padding)
    |>.append ((f32_determines display).part ResizeQuery.zoomX)
    |>.append ((f32_determines display).part ResizeQuery.zoomY)
    |>.append ((f32_determines display).part ResizeQuery.dpr)
    |>.append (u32_determines.part ResizeQuery.minWidth)
    |>.append (u32_determines.part ResizeQuery.minHeight)
    |>.append (bool_determines.part ResizeQuery.stripMetadata)
    |>.mono ?_
  intro p q agrees
  simp only [keyed, canonicalBlur]
  simp only [ResizeQuery.mk.injEq]
  tauto

end Determines

/-- Every field fits its length prefix. -/
def Sized (params : ResizeQuery) : Prop := Fits (fields display params)

/-- The fields see only what the key stands for. -/
theorem fields_keyed (params : ResizeQuery) :
    fields display params = fields display (keyed params) := by
  have blur : canonicalBlurSigma (canonicalBlurSigma params.blurSigma) =
      canonicalBlurSigma params.blurSigma := by
    simp [canonicalBlurSigma]
  have urls : params.watermark.elim [noneField] (watermarkFields display) =
      (params.watermark.map namedUrl).elim [noneField] (watermarkFields display) := by
    cases params.watermark with
    | none => rfl
    | some watermark =>
        cases url : watermark.url <;> simp [watermarkFields, namedUrl, url, orNone, noneField]
  unfold fields
  rw [urls, ← blur]
  rfl

/-- Two requests feed the hasher the same bytes exactly when the key stands for the
same thing. -/
theorem stream_eq_iff {p q : ResizeQuery} (fits : Sized display p) (fits' : Sized display q) :
    stream display p = stream display q ↔ keyed p = keyed q := by
  constructor
  case mp =>
    intro same
    have framed := (List.cons.inj same).2
    exact (fields_determines display).of_eq (frames_injective fits fits' framed)
  case mpr =>
    intro same
    rw [stream, stream, fields_keyed display p, fields_keyed display q, same]

/-- Two requests that agree on everything except that one names no watermark URL and
the other names the URL `None`. -/
def UrlNamedNone (p q : ResizeQuery) : Prop :=
  ∃ (base : ResizeQuery) (watermark : WatermarkQuery),
    canonicalBlur p = { base with watermark := some { watermark with url := none } } ∧
    canonicalBlur q = { base with watermark := some { watermark with url := some "None" } }

theorem UrlNamedNone.ne {p q : ResizeQuery} (named : UrlNamedNone p q) :
    canonicalBlur p ≠ canonicalBlur q := by
  obtain ⟨base, watermark, unnamed, none⟩ := named
  simp [unnamed, none]

theorem UrlNamedNone.keyed_eq {p q : ResizeQuery} (named : UrlNamedNone p q) :
    keyed p = keyed q := by
  obtain ⟨base, watermark, unnamed, none⟩ := named
  have watermarks := congrArg ResizeQuery.watermark unnamed
  have watermarks' := congrArg ResizeQuery.watermark none
  simp only [canonicalBlur] at watermarks watermarks'
  simp [keyed, unnamed, none, watermarks, watermarks', namedUrl]

/-- The rendered URL loses nothing but the difference between no URL and `None`. -/
theorem namedUrl_eq {first second : WatermarkQuery} (same : namedUrl first = namedUrl second) :
    first = second ∨
      (first = { first with url := none } ∧ second = { first with url := some "None" }) ∨
      (second = { first with url := none } ∧ first = { first with url := some "None" }) := by
  obtain ⟨_, _, _, _, _, url, _, _, _⟩ := first
  obtain ⟨_, _, _, _, _, url', _, _, _⟩ := second
  simp only [namedUrl, WatermarkQuery.mk.injEq, Option.some.injEq] at same
  obtain ⟨rfl, rfl, rfl, rfl, rfl, urls, rfl, rfl, rfl⟩ := same
  cases url <;> cases url' <;> simp_all

/-- Requests with the same key agree outside the watermark. -/
theorem rest_of_keyed {p q : ResizeQuery} (same : keyed p = keyed q) :
    canonicalBlur q = { canonicalBlur p with watermark := q.watermark } := by
  simp only [keyed, canonicalBlur, ResizeQuery.mk.injEq] at same ⊢
  tauto

theorem keyed_eq_iff {p q : ResizeQuery} :
    keyed p = keyed q ↔
      canonicalBlur p = canonicalBlur q ∨ UrlNamedNone p q ∨ UrlNamedNone q p := by
  constructor
  case mp =>
    intro same
    have rest := rest_of_keyed same
    have watermarks := congrArg ResizeQuery.watermark same
    simp only [keyed] at watermarks
    cases first : p.watermark with
    | none =>
        cases second : q.watermark with
        | none =>
            left
            rw [rest, second, ← first]
            rfl
        | some watermark => simp [first, second] at watermarks
    | some watermark =>
        cases second : q.watermark with
        | none => simp [first, second] at watermarks
        | some watermark' =>
            simp only [first, second, Option.map_some, Option.some.injEq] at watermarks
            have unchanged : canonicalBlur p =
                { canonicalBlur p with watermark := some watermark } := by
              rw [← first]
              rfl
            rw [second] at rest
            rcases namedUrl_eq watermarks with same | ⟨unnamed, none⟩ | ⟨unnamed, none⟩
            · left
              rw [rest, ← same]
              exact unchanged
            · right; left
              exact ⟨canonicalBlur p, watermark, by rw [← unnamed]; exact unchanged,
                by rw [← none]; exact rest⟩
            · right; right
              exact ⟨canonicalBlur p, watermark, by rw [← unnamed]; exact rest,
                by rw [← none]; exact unchanged⟩
  case mpr =>
    rintro (same | named | named)
    · have watermarks := congrArg ResizeQuery.watermark same
      simp only [canonicalBlur] at watermarks
      rw [keyed, keyed, same, watermarks]
    · exact named.keyed_eq
    · exact named.keyed_eq.symm

/-- The key tells two requests apart, up to the canonical blur sigma, unless they
differ exactly in an absent watermark URL against one that reads `None`. -/
theorem stream_injective_iff {p q : ResizeQuery} (fits : Sized display p)
    (fits' : Sized display q) :
    (stream display p = stream display q ↔ canonicalBlur p = canonicalBlur q) ↔
      ¬ (UrlNamedNone p q ∨ UrlNamedNone q p) := by
  rw [stream_eq_iff display fits fits', keyed_eq_iff]
  constructor
  case mp =>
    rintro exact (named | named)
    · exact named.ne (exact.mp (.inr (.inl named)))
    · exact named.ne (exact.mp (.inr (.inr named))).symm
  case mpr =>
    intro unnamed
    exact ⟨fun same => same.resolve_right unnamed, .inl⟩

/-! ## A concrete display -/

/-- A magnitude as it is displayed when it is an integer, and as a fraction otherwise. -/
def magnitudeText (magnitude : NNRat) : String :=
  Nat.repr magnitude.num ++ if magnitude.den = 1 then "" else "/" ++ Nat.repr magnitude.den

def displayText : FloatVal → String
  | .nan => "NaN"
  | .inf false => "inf"
  | .inf true => "-inf"
  | .finite false magnitude => magnitudeText magnitude
  | .finite true magnitude => "-" ++ magnitudeText magnitude

theorem not_mem_magnitudeText (c : Char) (magnitude : NNRat)
    (other : c.isDigit = false ∧ c ≠ '/') : c ∉ (magnitudeText magnitude).toList := by
  have num := not_mem_repr c magnitude.num other.1
  have den := not_mem_repr c magnitude.den other.1
  simp only [Nat.repr, String.toList_ofList] at num den
  by_cases whole : magnitude.den = 1 <;> simp [magnitudeText, whole, num, den, other.2]

theorem not_mem_displayText (c : Char) (negative : Bool) (magnitude : NNRat)
    (other : c.isDigit = false ∧ c ≠ '/' ∧ c ≠ '-') :
    c ∉ (displayText (.finite negative magnitude)).toList := by
  have digits := not_mem_magnitudeText c magnitude ⟨other.1, other.2.1⟩
  cases negative with
  | false => exact digits
  | true => simp [displayText, digits, other.2.2]

theorem magnitudeText_injective {first second : NNRat}
    (same : magnitudeText first = magnitudeText second) : first = second := by
  have chars := congrArg String.toList same
  have free := not_mem_repr '/' first.num (by decide)
  have free' := not_mem_repr '/' second.num (by decide)
  by_cases whole : first.den = 1
  · by_cases whole' : second.den = 1
    · simp only [magnitudeText, whole, whole', if_true, String.append_empty] at same
      exact NNRat.ext_num_den (Nat.repr_injective same) (whole.trans whole'.symm)
    · simp only [magnitudeText, whole, whole', if_true, if_false, String.append_empty,
        String.toList_append] at chars
      rw [chars] at free
      simp at free
  · by_cases whole' : second.den = 1
    · simp only [magnitudeText, whole, whole', if_true, if_false, String.append_empty,
        String.toList_append] at chars
      rw [← chars] at free'
      simp at free'
    · simp only [magnitudeText, whole, whole', if_false, ← String.append_assoc] at same
      obtain ⟨nums, dens⟩ := join_injective free free' same
      exact NNRat.ext_num_den (Nat.repr_injective nums) (Nat.repr_injective dens)

/-- No other value is displayed like a finite one. -/
theorem displayText_finite {negative : Bool} {magnitude : NNRat} {other : FloatVal}
    (same : displayText (.finite negative magnitude) = displayText other) :
    ∃ negative' magnitude', other = .finite negative' magnitude' := by
  have noN := not_mem_displayText 'N' negative magnitude (by decide)
  have noI := not_mem_displayText 'i' negative magnitude (by decide)
  rw [same] at noN noI
  cases other with
  | nan => exact absurd (by decide) noN
  | inf negative' => cases negative' <;> exact absurd (by decide) noI
  | finite negative' magnitude' => exact ⟨_, _, rfl⟩

/-- A minus sign is displayed for negative values only. -/
theorem minus_ne (first second : NNRat) : "-" ++ magnitudeText first ≠ magnitudeText second := by
  intro same
  have free := not_mem_magnitudeText '-' second (by decide)
  rw [← same] at free
  simp at free

theorem displayText_injective {first second : FloatVal}
    (same : displayText first = displayText second) : first = second := by
  cases first with
  | finite negative magnitude =>
      obtain ⟨negative', magnitude', rfl⟩ := displayText_finite same
      cases negative with
      | false =>
          cases negative' with
          | false => rw [magnitudeText_injective same]
          | true => exact absurd same.symm (minus_ne _ _)
      | true =>
          cases negative' with
          | false => exact absurd same (minus_ne _ _)
          | true => rw [magnitudeText_injective (append_right_injective same)]
  | nan =>
      cases second with
      | finite negative magnitude =>
          obtain ⟨_, _, finite⟩ := displayText_finite same.symm
          cases finite
      | nan => rfl
      | inf negative => cases negative <;> exact absurd same (by decide)
  | inf negative =>
      cases second with
      | finite negative' magnitude =>
          obtain ⟨_, _, finite⟩ := displayText_finite same.symm
          cases finite
      | nan => cases negative <;> exact absurd same (by decide)
      | inf negative' =>
          cases negative <;> cases negative' <;>
            first
            | rfl
            | exact absurd same (by decide)

theorem displayText_ne_none (value : FloatVal) : displayText value ≠ "None" := by
  intro same
  cases value with
  | nan => exact absurd same (by decide)
  | inf negative => cases negative <;> exact absurd same (by decide)
  | finite negative magnitude =>
      have free := not_mem_displayText 'N' negative magnitude (by decide)
      rw [same] at free
      exact free (by decide)

theorem displayText_no_colon (value : FloatVal) : ':' ∉ (displayText value).toList := by
  cases value with
  | nan => decide
  | inf negative => cases negative <;> decide
  | finite negative magnitude => exact not_mem_displayText ':' negative magnitude (by decide)

end CacheKey

/-- A display that shows integers as Rust does. -/
def FloatDisplay.plain : FloatDisplay where
  f32 x := CacheKey.displayText x.value
  f64 x := CacheKey.displayText x.value
  f32_injective _ _ same := BinaryFloat.ext (CacheKey.displayText_injective same)
  f64_injective _ _ same := BinaryFloat.ext (CacheKey.displayText_injective same)
  f32_ne_none x := CacheKey.displayText_ne_none x.value
  f64_no_colon x := CacheKey.displayText_no_colon x.value

namespace CacheKey

/-- A request for `a.jpg` under a centred, opaque watermark at the given URL. -/
def watermarked (url : Option String) : ResizeQuery :=
  { ResizeQuery.default with
    url := "a.jpg"
    watermark := some
      { opacity := F32.one, position := .center, xOffset := F32.zero, yOffset := F32.zero,
        scale := F32.zero, url, size := none, rotate := F32.zero, shadow := none } }

/-- Two requests with different watermarks under one key: the second names the
watermark URL `None`. -/
theorem none_url_collides :
    ∃ p q, Sized FloatDisplay.plain p ∧ Sized FloatDisplay.plain q ∧
      stream FloatDisplay.plain p = stream FloatDisplay.plain q ∧
      canonicalBlur p ≠ canonicalBlur q :=
  ⟨watermarked none, watermarked (some "None"), by unfold Sized Fits; decide +kernel,
    by unfold Sized Fits; decide +kernel, rfl, by decide⟩

theorem stream_injective_iff_watermarked :
    (stream FloatDisplay.plain (watermarked none) =
        stream FloatDisplay.plain (watermarked (some "b.png")) ↔
      canonicalBlur (watermarked none) = canonicalBlur (watermarked (some "b.png"))) ↔
    ¬ (UrlNamedNone (watermarked none) (watermarked (some "b.png")) ∨
      UrlNamedNone (watermarked (some "b.png")) (watermarked none)) :=
  stream_injective_iff FloatDisplay.plain (by unfold Sized Fits; decide +kernel)
    (by unfold Sized Fits; decide +kernel)

end CacheKey

end ImageResizer
