/-!
# Orientation

The eight EXIF orientations (`image::metadata::Orientation`).
-/

namespace ImageResizer

inductive Orientation where
  | noTransforms
  | rotate90
  | rotate180
  | rotate270
  | flipHorizontal
  | flipVertical
  | rotate90FlipH
  | rotate270FlipH
  deriving DecidableEq, Repr

/-- Whether applying the orientation exchanges width and height. -/
def Orientation.swapsAxes : Orientation → Bool
  | .rotate90 | .rotate270 | .rotate90FlipH | .rotate270FlipH => true
  | _ => false

end ImageResizer
