import ImageResizer.Foundation.FloatVal

/-!
# Request parameters

The request model of `models/params.rs`: what the URL grammar builds and every
other layer consumes.
-/

namespace ImageResizer

/-- Output image format.  `auto` is resolved by content negotiation before a
`ResizeQuery` is built. -/
inductive ImageFormat where
  | jpg
  | png
  | webp
  | avif
  | gif
  | auto
  deriving DecidableEq, Repr

/-- `Display` of the format, also the extension of the cache key. -/
def ImageFormat.toString : ImageFormat → String
  | .jpg => "jpg"
  | .png => "png"
  | .webp => "webp"
  | .avif => "avif"
  | .gif => "gif"
  | .auto => "auto"

/-- How the source is fit into the requested box. -/
inductive ResizeType where
  | fit
  | fill
  | force
  | auto
  deriving DecidableEq, Repr

def ResizeType.toString : ResizeType → String
  | .fit => "fit"
  | .fill => "fill"
  | .force => "force"
  | .auto => "auto"

/-- Which part of the image survives a crop. -/
inductive Gravity where
  | center
  | north
  | south
  | east
  | west
  | northEast
  | northWest
  | southEast
  | southWest
  /-- Fractions of the container's width and height. -/
  | focusPoint (x y : F64)
  deriving DecidableEq

/-- One axis of an explicit crop region. -/
inductive CropDimension where
  | full
  | absolute (pixels : UInt32)
  | relative (fraction : F64)
  deriving DecidableEq

structure Crop where
  width : CropDimension
  height : CropDimension
  gravity : Gravity
  deriving DecidableEq

structure Padding where
  top : UInt32
  right : UInt32
  bottom : UInt32
  left : UInt32
  deriving DecidableEq

/-- A colour without alpha. -/
structure Rgb where
  r : UInt8
  g : UInt8
  b : UInt8
  deriving DecidableEq

structure TrimOptions where
  threshold : F32
  /-- `none` means the colour of the top-left pixel. -/
  color : Option Rgb
  equalHor : Bool
  equalVer : Bool
  deriving DecidableEq

/-- Placement anchor of a watermark. -/
inductive WatermarkPosition where
  | center
  | north
  | south
  | east
  | west
  | northEast
  | northWest
  | southEast
  | southWest
  deriving DecidableEq, Repr

structure WatermarkQuery where
  opacity : F32
  position : WatermarkPosition
  xOffset : F32
  yOffset : F32
  scale : F32
  /-- `none` falls back to the configured default watermark. -/
  url : Option String
  size : Option (UInt32 × UInt32)
  rotate : F32
  shadow : Option F32
  deriving DecidableEq

/-- The fully parsed set of resize parameters. -/
structure ResizeQuery where
  url : String
  width : Option UInt32
  height : Option UInt32
  resizeType : ResizeType
  format : ImageFormat
  blurSigma : Option F32
  grayscale : Option Bool
  enlarge : Bool
  quality : Option UInt8
  jpegQuality : Option UInt8
  webpQuality : Option UInt8
  webpLossless : Option Bool
  jpegProgressive : Option Bool
  jpegNoSubsampling : Option Bool
  maxBytes : Option UInt64
  background : Option Rgb
  autorotate : Bool
  stripMetadata : Bool
  crop : Option Crop
  gravity : Gravity
  rotate : Int32
  flipHorizontal : Bool
  flipVertical : Bool
  trim : Option TrimOptions
  extend : Bool
  padding : Option Padding
  zoomX : F32
  zoomY : F32
  dpr : F32
  minWidth : Option UInt32
  minHeight : Option UInt32
  watermark : Option WatermarkQuery
  deriving DecidableEq

namespace F32

/-- `1.0`. -/
def one : F32 := BinaryFloat.ofNat 1 (by decide) (by decide)

/-- `0.0`. -/
def zero : F32 := BinaryFloat.ofNat 0 (by decide) (by decide)

end F32

/-- Every option off: multipliers of one, no box, no crop, autorotation and
metadata stripping on. -/
def ResizeQuery.default : ResizeQuery where
  url := ""
  width := none
  height := none
  resizeType := .fit
  format := .jpg
  blurSigma := none
  grayscale := none
  enlarge := false
  quality := none
  jpegQuality := none
  webpQuality := none
  webpLossless := none
  jpegProgressive := none
  jpegNoSubsampling := none
  maxBytes := none
  background := none
  autorotate := true
  stripMetadata := true
  crop := none
  gravity := .center
  rotate := 0
  flipHorizontal := false
  flipVertical := false
  trim := none
  extend := false
  padding := none
  zoomX := F32.one
  zoomY := F32.one
  dpr := F32.one
  minWidth := none
  minHeight := none
  watermark := none

end ImageResizer
