import ImageResizer.Foundation.FloatArith
import ImageResizer.Foundation.Numeral
import ImageResizer.Foundation.UrlCoding
import ImageResizer.Params

/-!
# Processing options

The option segments of the URL grammar (`modules/url/options.rs`).  A segment is a code
and its arguments, separated by `:`; each segment in turn changes the options gathered so
far, and an explicit crop takes its gravity from the top level once all of them are known.
-/

namespace ImageResizer

open Text

/-- A piece of an error text: literal text, a value the text shows, or what a library says
about an input it could not decode. -/
inductive Piece where
  | text (literal : String)
  | display (s : List Char)
  | debug (s : List Char)
  | integer (value : Int)
  | float (value : FloatVal)
  | base64 (encoded : List Char)
  | utf8 (bytes : List UInt8)
  | percent (raw : List Char)
  deriving DecidableEq

abbrev Message := List Piece

inductive UrlParseError where
  | malformed (path : List Char)
  | unknownOption (code : List Char)
  | invalidOptionValue (option : List Char) (reason : Message)
  | emptySource
  | invalidSource (reason : Message)
  | optionNotAllowed (code : List Char)
  | unknownPreset (name : List Char)
  deriving DecidableEq

/-- `Display` of the error. -/
def UrlParseError.message : UrlParseError → Message
  | .malformed path =>
      [.text "malformed signed URL, expected /\x7bsignature\x7d/\x7boptions\x7d/\x7bsource\x7d: ",
        .debug path]
  | .unknownOption code => [.text "unknown processing option ", .debug code]
  | .invalidOptionValue option reason =>
      [.text "invalid value for processing option ", .debug option, .text ": "] ++ reason
  | .emptySource => [.text "source URL segment is missing or empty"]
  | .invalidSource reason => .text "invalid source: " :: reason
  | .optionNotAllowed code =>
      [.text "processing option ", .debug code,
        .text " is not allowed by this deployment's configuration"]
  | .unknownPreset name => [.text "unknown preset ", .debug name]

/-- The options a request gives, `none` where it leaves one to its default. -/
structure ProcessingOptions where
  width : Option UInt32
  height : Option UInt32
  resizeType : ResizeType
  blurSigma : Option F32
  grayscale : Option Bool
  enlarge : Option Bool
  quality : Option UInt8
  jpegQuality : Option UInt8
  webpQuality : Option UInt8
  webpLossless : Option Bool
  jpegProgressive : Option Bool
  jpegNoSubsampling : Option Bool
  maxBytes : Option UInt64
  background : Option Rgb
  autorotate : Option Bool
  stripMetadata : Option Bool
  crop : Option Crop
  gravity : Gravity
  rotate : Int32
  flipHorizontal : Bool
  flipVertical : Bool
  trim : Option TrimOptions
  extend : Option Bool
  padding : Option Padding
  zoomX : F32
  zoomY : F32
  dpr : F32
  minWidth : Option UInt32
  minHeight : Option UInt32
  watermarkOpacity : Option F32
  watermarkPosition : WatermarkPosition
  watermarkXOffset : F32
  watermarkYOffset : F32
  watermarkScale : F32
  watermarkUrl : Option (List Char)
  watermarkSize : Option (UInt32 × UInt32)
  watermarkRotate : F32
  watermarkShadow : Option F32
  deriving DecidableEq

def ProcessingOptions.default : ProcessingOptions where
  width := none
  height := none
  resizeType := .fit
  blurSigma := none
  grayscale := none
  enlarge := none
  quality := none
  jpegQuality := none
  webpQuality := none
  webpLossless := none
  jpegProgressive := none
  jpegNoSubsampling := none
  maxBytes := none
  background := none
  autorotate := none
  stripMetadata := none
  crop := none
  gravity := .center
  rotate := 0
  flipHorizontal := false
  flipVertical := false
  trim := none
  extend := none
  padding := none
  zoomX := F32.one
  zoomY := F32.one
  dpr := F32.one
  minWidth := none
  minHeight := none
  watermarkOpacity := none
  watermarkPosition := .center
  watermarkXOffset := F32.zero
  watermarkYOffset := F32.zero
  watermarkScale := F32.zero
  watermarkUrl := none
  watermarkSize := none
  watermarkRotate := F32.zero
  watermarkShadow := none

namespace Url

abbrev Parsed := Except UrlParseError

/-- A base64url source segment never holds a `:`, so this tells the two apart. -/
def looksLikeOption (segment : List Char) : Bool := segment.contains ':'

/-- The part of an option segment before its first `:`. -/
def code (segment : List Char) : List Char := (segment.splitOn ':').headD []

def arguments (segment : List Char) : List (List Char) := (segment.splitOn ':').tail

def invalid {α : Type} (segment : List Char) (reason : Message) : Parsed α :=
  .error (.invalidOptionValue segment reason)

def require (condition : Bool) (segment : List Char) (reason : Message) : Parsed Unit :=
  if condition then .ok () else invalid segment reason

section Values

def requireArgs (n : Nat) (args : List (List Char)) (segment : List Char) :
    Parsed (Fin n → List Char) :=
  if exact : args.length = n then .ok fun i => args[i]
  else invalid segment [.text "expected exactly ", .integer n, .text " argument(s)"]

/-- `args.get(index).filter(|s| !s.is_empty())`. -/
def slot (args : List (List Char)) (index : Nat) : Option (List Char) :=
  args[index]?.filter (· ≠ [])

/-- Read a slot that may be left out. -/
def optional {α : Type} (read : List Char → Parsed α) : Option (List Char) → Parsed (Option α)
  | some raw => some <$> read raw
  | none => .ok none

def parseInteger (largest : Nat) (raw segment : List Char) (complaint : Message) : Parsed Nat :=
  match parseUnsigned largest raw with
  | some value => .ok value
  | none => invalid segment complaint

def parseU32 (kind : String) (raw segment : List Char) : Parsed UInt32 :=
  UInt32.ofNat <$>
    parseInteger (2 ^ 32 - 1) raw segment [.debug raw, .text (" is not a valid " ++ kind)]

def parseDimensionAllowZero (raw segment : List Char) : Parsed UInt32 :=
  parseU32 "unsigned integer" raw segment

/-- `0` means "not set". -/
def parseDimension (raw segment : List Char) : Parsed (Option UInt32) :=
  (fun value => if value = 0 then none else some value) <$>
    parseU32 "unsigned integer" raw segment

def parseNonNegativeInt (raw segment : List Char) : Parsed UInt32 :=
  parseU32 "non-negative integer" raw segment

/-- The `u64` of `mb`, for which `0` means "not set". -/
def parseMaxBytes (raw segment : List Char) : Parsed (Option UInt64) :=
  (fun bytes => if bytes = 0 then none else some (UInt64.ofNat bytes)) <$>
    parseInteger (2 ^ 64 - 1) raw segment [.debug raw, .text " is not a valid unsigned integer"]

def parseBounded (raw segment : List Char) (min max : Nat) : Parsed UInt8 := do
  let value ← parseInteger 255 raw segment
    [.debug raw, .text " is not a valid integer in [", .integer min, .text ", ", .integer max,
      .text "]"]
  require (min ≤ value ∧ value ≤ max) segment
    [.integer value, .text " is out of range [", .integer min, .text ", ", .integer max, .text "]"]
  return UInt8.ofNat value

def parseFloat (raw segment : List Char) : Parsed F32 :=
  match F32.parse raw with
  | some value => .ok value
  | none => invalid segment [.debug raw, .text " is not a valid number"]

/-- `ResizeType::from_str`. -/
def resizeTypeFromStr (raw : List Char) : Except Message ResizeType :=
  match String.ofList raw with
  | "" | "fit" => .ok .fit
  | "fill" => .ok .fill
  | "force" => .ok .force
  | "auto" => .ok .auto
  | _ =>
      .error [.text "unsupported resize type ", .debug raw,
        .text " (expected fit, fill, force or auto)"]

def parseResizeType (raw segment : List Char) : Parsed ResizeType :=
  (resizeTypeFromStr raw).mapError (.invalidOptionValue segment)

def parseBool (raw segment : List Char) : Parsed Bool :=
  match String.ofList raw with
  | "true" | "1" => .ok true
  | "false" | "0" => .ok false
  | _ =>
      invalid segment [.debug raw, .text " is not a valid boolean (expected true/false/1/0)"]

/-- `char::to_digit(16)`. -/
def hexDigit (c : Char) : Option Nat :=
  if '0' ≤ c ∧ c ≤ '9' then some (c.toNat - 48)
  else if 'a' ≤ c ∧ c ≤ 'f' then some (c.toNat - 87)
  else if 'A' ≤ c ∧ c ≤ 'F' then some (c.toNat - 55)
  else none

/-- A colour of three or six hexadecimal digits, without a leading `#`. -/
def parseHexColor (hex segment : List Char) : Parsed Rgb :=
  let expand (digit : Nat) : UInt8 := UInt8.ofNat (digit * 16 + digit)
  let channel (high low : Nat) : UInt8 := UInt8.ofNat (high * 16 + low)
  match hex.mapM hexDigit with
  | some [r, g, b] => .ok ⟨expand r, expand g, expand b⟩
  | some [r, r', g, g', b, b'] => .ok ⟨channel r r', channel g g', channel b b'⟩
  | _ =>
      invalid segment
        [.debug hex, .text " is not a valid hex colour (expected 3 or 6 hex digits)"]

def parseBackground (args : List (List Char)) (segment : List Char) : Parsed Rgb :=
  match args with
  | [r, g, b] => do
      let red ← parseBounded r segment 0 255
      let green ← parseBounded g segment 0 255
      let blue ← parseBounded b segment 0 255
      return ⟨red, green, blue⟩
  | [hex] => parseHexColor hex segment
  | _ =>
      invalid segment
        [.text "expected either 3 arguments (R:G:B) or 1 argument (hex colour)"]

/-- One axis of an explicit crop: `0` is the whole axis, a fraction is relative, and
anything from one on is rounded to pixels. -/
def parseCropDimension (raw segment : List Char) : Parsed CropDimension :=
  match F64.parse raw with
  | none => invalid segment [.debug raw, .text " is not a valid number"]
  | some fraction =>
      let value := fraction.value
      if !value.isFinite || value.less (.ofNat 0) then
        invalid segment [.float value, .text " must be a non-negative, finite number"]
      else if !value.nonzero then .ok .full
      else if value.less (.ofNat 1) then .ok (.relative fraction)
      else .ok (.absolute (UInt32.ofNat (value.round.toUnsigned (2 ^ 32 - 1))))

/-- A coordinate of a focus point. -/
def parseFocus (axis : String) (raw segment : List Char) : Parsed F64 :=
  match F64.parse raw with
  | some value => .ok value
  | none => invalid segment [.debug raw, .text (" is not a valid focus-point " ++ axis)]

def parseFocusPoint (x y segment : List Char) : Parsed Gravity := do
  let x ← parseFocus "x" x segment
  let y ← parseFocus "y" y segment
  require (x.value.withinUnit && y.value.withinUnit) segment
    [.text "focus point (", .float x.value, .text ", ", .float y.value,
      .text ") must be within [0, 1] on both axes"]
  return .focusPoint x y

def unsupportedGravity (token segment : List Char) : Parsed Gravity :=
  invalid segment
    [.text "unsupported gravity type ", .debug token,
      .text (" (expected no/so/ea/we/noea/nowe/soea/sowe/ce/fp:x:y; " ++
        "smart gravity (sm) is not yet supported)")]

def parseGravity (tokens : List (List Char)) (segment : List Char) : Parsed Gravity :=
  match tokens with
  | [token] =>
      match String.ofList token with
      | "ce" => .ok .center
      | "no" => .ok .north
      | "so" => .ok .south
      | "ea" => .ok .east
      | "we" => .ok .west
      | "noea" => .ok .northEast
      | "nowe" => .ok .northWest
      | "soea" => .ok .southEast
      | "sowe" => .ok .southWest
      | _ => unsupportedGravity token segment
  | [['f', 'p'], x, y] => parseFocusPoint x y segment
  | [] => invalid segment [.text "expected a gravity type"]
  | other :: _ => unsupportedGravity other segment

/-- The gravity tokens of a crop, which may be left out. -/
def parseCropGravity (tokens : List (List Char)) (segment : List Char) : Parsed (Option Gravity) :=
  if tokens = [] then .ok none else some <$> parseGravity tokens segment

/-- A multiple of 90, brought into `0..360`. -/
def parseRotateAngle (raw segment : List Char) : Parsed Int32 := do
  let angle ←
    match parseSigned (-2 ^ 31) (2 ^ 31 - 1) raw with
    | some angle => Except.ok angle
    | none => invalid segment [.debug raw, .text " is not a valid integer"]
  require (angle % 90 = 0) segment [.integer angle, .text " is not a multiple of 90"]
  return Int32.ofInt (angle % 360)

def parsePositiveNonzeroFloat (raw segment : List Char) : Parsed F32 := do
  let value ← parseFloat raw segment
  require value.value.isPositive segment [.float value.value, .text " is not a positive number"]
  return value

def parseZoom (args : List (List Char)) (segment : List Char) : Parsed (F32 × F32) :=
  match args with
  | [zoom] => (fun z => (z, z)) <$> parsePositiveNonzeroFloat zoom segment
  | [zoomX, zoomY] => do
      let x ← parsePositiveNonzeroFloat zoomX segment
      let y ← parsePositiveNonzeroFloat zoomY segment
      return (x, y)
  | _ => invalid segment [.text "expected 1 argument (zoom) or 2 arguments (zoom_x:zoom_y)"]

/-- A slot left out takes the value of the slot it falls back to: right and bottom that of
top, left that of right. -/
def parsePadding (args : List (List Char)) (segment : List Char) : Parsed Padding := do
  require (args ≠ [] ∧ args.length ≤ 4) segment
    [.text "expected 1 to 4 arguments (top:right:bottom:left)"]
  let value (index : Nat) := optional (parseNonNegativeInt · segment) (slot args index)
  match ← value 0 with
  | none => invalid segment [.text "at least the top argument must be set"]
  | some top => do
      let right := (← value 1).getD top
      let bottom := (← value 2).getD top
      let left := (← value 3).getD right
      return ⟨top, right, bottom, left⟩

def parseTrim (args : List (List Char)) (segment : List Char) : Parsed TrimOptions := do
  require (args ≠ [] ∧ args.length ≤ 4) segment
    [.text "expected 1 to 4 arguments (threshold:color:equal_hor:equal_ver)"]
  require (args.headD [] ≠ []) segment [.text "threshold is required"]
  let threshold ← parseFloat (args.headD []) segment
  require (!threshold.value.less (.ofNat 0)) segment
    [.float threshold.value, .text " is not a non-negative number"]
  let color ← optional (parseHexColor · segment) (slot args 1)
  let equalHor ← optional (parseBool · segment) (slot args 2)
  let equalVer ← optional (parseBool · segment) (slot args 3)
  return ⟨threshold, color, equalHor.getD false, equalVer.getD false⟩

def parseWatermarkPosition (raw segment : List Char) : Parsed WatermarkPosition :=
  match String.ofList raw with
  | "ce" => .ok .center
  | "no" => .ok .north
  | "so" => .ok .south
  | "ea" => .ok .east
  | "we" => .ok .west
  | "noea" => .ok .northEast
  | "nowe" => .ok .northWest
  | "soea" => .ok .southEast
  | "sowe" => .ok .southWest
  | _ =>
      invalid segment
        [.debug raw,
          .text (" is not a supported watermark position (expected ce, no, so, ea, we, " ++
            "noea, nowe, soea or sowe - re/ch tiling is not supported)")]

def parseWebpCompression (raw segment : List Char) : Parsed Bool :=
  match String.ofList raw with
  | "lossy" => .ok false
  | "lossless" => .ok true
  | _ =>
      invalid segment
        [.debug raw,
          .text (" is not a supported webp compression mode (expected lossy or lossless - " ++
            "this encoder has no mixed mode, and does not support imgproxy's " ++
            "smart_subsample/preset slots)")]

def parseWatermarkUrl (base64 : Base64) (encoded segment : List Char) : Parsed (List Char) :=
  match base64.decode encoded with
  | none => invalid segment [.text "invalid base64url watermark URL: ", .base64 encoded]
  | some bytes =>
      match decodeUtf8 bytes with
      | none => invalid segment [.text "watermark URL is not valid UTF-8: ", .utf8 bytes]
      | some url => .ok url

end Values

/-- What the segments read so far have set.  The crop is kept as it was written, with its
own gravity only if it names one. -/
structure Scan where
  opts : ProcessingOptions
  cropRaw : Option (CropDimension × CropDimension × Option Gravity)
  deriving DecidableEq

namespace Scan

def initial : Scan := ⟨.default, none⟩

def update (scan : Scan) (change : ProcessingOptions → ProcessingOptions) : Scan :=
  { scan with opts := change scan.opts }

/-- A crop without a gravity of its own takes the top-level one. -/
def finish (scan : Scan) : ProcessingOptions :=
  { scan.opts with
    crop := scan.cropRaw.map fun (width, height, gravity) =>
      ⟨width, height, gravity.getD scan.opts.gravity⟩ }

end Scan

section Segments

/-- The arguments two at a time. -/
def pairs : List (List Char) → List (List Char × List Char)
  | format :: value :: rest => (format, value) :: pairs rest
  | _ => []

/-- One `format:quality` pair of `fq`. -/
def applyFormatQuality (segment : List Char) (scan : Scan) (pair : List Char × List Char) :
    Parsed Scan := do
  let quality ← parseBounded pair.2 segment 0 100
  match String.ofList pair.1 with
  | "jpg" | "jpeg" => .ok (scan.update fun opts => { opts with jpegQuality := some quality })
  | "webp" => .ok (scan.update fun opts => { opts with webpQuality := some quality })
  | "png" =>
      invalid segment
        [.text ("png has no adjustable quality in this encoder " ++
          "(PNG output always uses fixed CompressionType::Best)")]
  | _ =>
      invalid segment
        [.text "unsupported format ", .debug pair.1,
          .text " for format_quality (expected jpg, jpeg or webp)"]

def parseWatermark (args : List (List Char)) (segment : List Char) (scan : Scan) :
    Parsed Scan := do
  require (args ≠ [] ∧ args.length ≤ 5) segment
    [.text "expected 1 to 5 arguments: opacity[:position[:x_offset[:y_offset[:scale]]]]"]
  let opacity ← parseFloat (args.headD []) segment
  let position ← optional (parseWatermarkPosition · segment) (slot args 1)
  let xOffset ← optional (parseFloat · segment) (slot args 2)
  let yOffset ← optional (parseFloat · segment) (slot args 3)
  let scale ← optional (parseFloat · segment) (slot args 4)
  return scan.update fun opts =>
    { opts with
      watermarkOpacity := some opacity
      watermarkPosition := position.getD opts.watermarkPosition
      watermarkXOffset := xOffset.getD opts.watermarkXOffset
      watermarkYOffset := yOffset.getD opts.watermarkYOffset
      watermarkScale := scale.getD opts.watermarkScale }

/-- The body of the loop of `ProcessingOptions::parse`. -/
def applySegment (base64 : Base64) (scan : Scan) (segment : List Char) : Parsed Scan :=
  let args := arguments segment
  match String.ofList (code segment) with
  | "rs" => do
      let given ← requireArgs 3 args segment
      let resizeType ← parseResizeType (given 0) segment
      let width ← parseDimension (given 1) segment
      let height ← parseDimension (given 2) segment
      return scan.update fun opts => { opts with resizeType, width, height }
  | "q" => do
      let given ← requireArgs 1 args segment
      let quality ← parseBounded (given 0) segment 0 100
      return scan.update fun opts => { opts with quality := some quality }
  | "fq" => do
      require (args ≠ [] ∧ args.length % 2 = 0) segment
        [.text "expected one or more format:quality pairs"]
      (pairs args).foldlM (applyFormatQuality segment) scan
  | "webpo" => do
      let given ← requireArgs 1 args segment
      let lossless ← parseWebpCompression (given 0) segment
      return scan.update fun opts => { opts with webpLossless := some lossless }
  | "jpgo" => do
      require (args ≠ [] ∧ args.length ≤ 2) segment
        [.text ("expected 1 or 2 arguments: progressive[:no_subsample] " ++
          "(trellis_quant/overshoot_deringing/optimize_scans/quant_table are not supported)")]
      let progressive ← optional (parseBool · segment) (slot args 0)
      let noSubsample ← optional (parseBool · segment) (slot args 1)
      return scan.update fun opts =>
        { opts with
          jpegProgressive := progressive <|> opts.jpegProgressive
          jpegNoSubsampling := noSubsample <|> opts.jpegNoSubsampling }
  | "mb" => do
      let given ← requireArgs 1 args segment
      let maxBytes ← parseMaxBytes (given 0) segment
      return scan.update fun opts => { opts with maxBytes }
  | "bl" => do
      let given ← requireArgs 1 args segment
      let sigma ← parseFloat (given 0) segment
      return scan.update fun opts => { opts with blurSigma := some sigma }
  | "g" => do
      let given ← requireArgs 1 args segment
      let grayscale ← parseBool (given 0) segment
      return scan.update fun opts => { opts with grayscale := some grayscale }
  | "el" => do
      let given ← requireArgs 1 args segment
      let enlarge ← parseBool (given 0) segment
      return scan.update fun opts => { opts with enlarge := some enlarge }
  | "bg" => do
      let background ← parseBackground args segment
      return scan.update fun opts => { opts with background := some background }
  | "ar" => do
      let given ← requireArgs 1 args segment
      let autorotate ← parseBool (given 0) segment
      return scan.update fun opts => { opts with autorotate := some autorotate }
  | "sm" => do
      let given ← requireArgs 1 args segment
      let stripMetadata ← parseBool (given 0) segment
      return scan.update fun opts => { opts with stripMetadata := some stripMetadata }
  | "c" => do
      require (2 ≤ args.length) segment
        [.text "expected at least 2 arguments (width:height[:gravity...])"]
      let width ← parseCropDimension (args.getD 0 []) segment
      let height ← parseCropDimension (args.getD 1 []) segment
      let gravity ← parseCropGravity (args.drop 2) segment
      return { scan with cropRaw := some (width, height, gravity) }
  | "gr" => do
      require (args ≠ []) segment [.text "expected at least 1 argument (gravity type)"]
      let gravity ← parseGravity args segment
      return scan.update fun opts => { opts with gravity }
  | "rot" => do
      let given ← requireArgs 1 args segment
      let rotate ← parseRotateAngle (given 0) segment
      return scan.update fun opts => { opts with rotate }
  | "fl" => do
      require (args.length ≤ 2) segment
        [.text "expected at most 2 arguments (horizontal:vertical)"]
      let horizontal ← optional (parseBool · segment) (slot args 0)
      let vertical ← optional (parseBool · segment) (slot args 1)
      return scan.update fun opts =>
        { opts with
          flipHorizontal := horizontal.getD opts.flipHorizontal
          flipVertical := vertical.getD opts.flipVertical }
  | "t" => do
      let trim ← parseTrim args segment
      return scan.update fun opts => { opts with trim := some trim }
  | "ex" => do
      let given ← requireArgs 1 args segment
      let extend ← parseBool (given 0) segment
      return scan.update fun opts => { opts with extend := some extend }
  | "pd" => do
      let padding ← parsePadding args segment
      return scan.update fun opts => { opts with padding := some padding }
  | "z" => do
      let zoom ← parseZoom args segment
      return scan.update fun opts => { opts with zoomX := zoom.1, zoomY := zoom.2 }
  | "dpr" => do
      let given ← requireArgs 1 args segment
      let dpr ← parsePositiveNonzeroFloat (given 0) segment
      return scan.update fun opts => { opts with dpr }
  | "mw" => do
      let given ← requireArgs 1 args segment
      let minWidth ← parseDimension (given 0) segment
      return scan.update fun opts => { opts with minWidth }
  | "mh" => do
      let given ← requireArgs 1 args segment
      let minHeight ← parseDimension (given 0) segment
      return scan.update fun opts => { opts with minHeight }
  | "wm" => parseWatermark args segment scan
  | "wmu" => do
      let given ← requireArgs 1 args segment
      let url ← parseWatermarkUrl base64 (given 0) segment
      return scan.update fun opts => { opts with watermarkUrl := some url }
  | "wms" => do
      let given ← requireArgs 2 args segment
      let width ← parseDimensionAllowZero (given 0) segment
      let height ← parseDimensionAllowZero (given 1) segment
      return scan.update fun opts => { opts with watermarkSize := some (width, height) }
  | "wmr" => do
      let given ← requireArgs 1 args segment
      let angle ← parseFloat (given 0) segment
      return scan.update fun opts => { opts with watermarkRotate := angle }
  | "wmsh" => do
      let given ← requireArgs 1 args segment
      let sigma ← parseFloat (given 0) segment
      return scan.update fun opts => { opts with watermarkShadow := some sigma }
  | _ => .error (.unknownOption (code segment))

/-- The loop of `ProcessingOptions::parse`. -/
def scanSegments (base64 : Base64) (segments : List (List Char)) : Parsed Scan :=
  segments.foldlM (applySegment base64) .initial

end Segments

end Url

/-- `ProcessingOptions::parse`. -/
def ProcessingOptions.parse (base64 : Base64) (segments : List (List Char)) :
    Except UrlParseError ProcessingOptions :=
  Url.Scan.finish <$> Url.scanSegments base64 segments

example :
    ProcessingOptions.parse .urlSafeNoPad ["q:80".toList, "g:true".toList] =
      .ok { ProcessingOptions.default with quality := some 80, grayscale := some true } := by
  decide

end ImageResizer
