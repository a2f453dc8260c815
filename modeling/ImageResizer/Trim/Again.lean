import ImageResizer.Trim

/-!
# Trimming again

With a background that the request names, what a trim leaves is trimmed already: each side of
the bounding box has a pixel that is not background, and equal cuts have used up the smaller
side.
-/

namespace ImageResizer

variable {Content : Type}

/-- A library that crops and converts pixel by pixel. -/
structure Imaging.Positional (lib : Imaging Content) : Prop where
  copiesWhole : lib.CopiesWhole
  converts : ∀ (image : Raster Content) (x y : Nat),
    lib.rgba8At { image with color := .rgba8, content := lib.convert .rgba8 image } x y =
      lib.rgba8At image x y
  crops : ∀ (image : Raster Content) (window : Window),
    window.x + window.size.width ≤ image.size.width →
    window.y + window.size.height ≤ image.size.height →
    ∀ x y, x < window.size.width → y < window.size.height →
      lib.rgba8At (image.crop lib window) x y = lib.rgba8At image (window.x + x) (window.y + y)

theorem pixels_positional : Imaging.pixels.Positional where
  copiesWhole := pixels_copiesWhole
  converts _ _ _ := rfl
  crops _ _ _ _ _ _ _ _ := rfl

variable {lib : Imaging Content} {image rgba kept rgbaKept : Raster Content} {trim : TrimOptions}
variable {color : Rgb}

theorem rgba8At_toRgba8 (positional : lib.Positional) (converted : image.toRgba8 lib = .ok rgba)
    (x y : Nat) : lib.rgba8At rgba x y = lib.rgba8At image x y := by
  unfold Raster.toRgba8 Raster.toColor at converted
  split at converted
  case isTrue => rw [Except.ok.inj converted]
  case isFalse =>
      obtain ⟨_, _, made⟩ := (Outcome.bind_ok_iff _ _ _).mp converted
      obtain rfl := Except.ok.inj made
      exact positional.converts image x y

/-- A cropped image shows the content that is inside the window, moved to its corner. -/
theorem foreground_crop (positional : lib.Positional) (named : trim.color = some color)
    (converted : image.toRgba8 lib = .ok rgba) {edges : TrimEdges} {window : Window}
    (leaves : edges.Leaves image.size window)
    (convertedKept : (image.crop lib window).toRgba8 lib = .ok rgbaKept) {x y : Nat} :
    Foreground lib rgbaKept trim x y ↔
      x < window.size.width ∧ y < window.size.height ∧
        Foreground lib rgba trim (edges.left + x) (edges.top + y) := by
  obtain ⟨left, width, top, height⟩ := leaves
  have size := toColor_size lib converted
  have sizeKept := toColor_size lib convertedKept
  have same (inWidth : x < window.size.width) (inHeight : y < window.size.height) :
      lib.rgba8At rgbaKept x y = lib.rgba8At rgba (edges.left + x) (edges.top + y) := by
    rw [rgba8At_toRgba8 positional convertedKept, rgba8At_toRgba8 positional converted,
      positional.crops image window (by omega) (by omega) x y inWidth inHeight, left, top]
  unfold Foreground trimTarget
  rw [named, Option.getD_some, sizeKept, size]
  change x < window.size.width ∧ y < window.size.height ∧ _ ↔ _
  constructor
  · rintro ⟨inWidth, inHeight, content⟩
    rw [same inWidth inHeight] at content
    exact ⟨inWidth, inHeight, by omega, by omega, content⟩
  · rintro ⟨inWidth, inHeight, -, -, content⟩
    rw [← same inWidth inHeight] at content
    exact ⟨inWidth, inHeight, content⟩

/-- What of some cuts is left to do after others. -/
def TrimEdges.less (edges done : TrimEdges) : TrimEdges where
  top := edges.top - done.top
  bottom := edges.bottom - done.bottom
  left := edges.left - done.left
  right := edges.right - done.right

/-- Equal cuts leave nothing to cut equally. -/
theorem TrimEdges.equalized_less (edges : TrimEdges) :
    (edges.less (edges.equalized trim)).equalized trim = ⟨0, 0, 0, 0⟩ := by
  unfold equalized less
  cases trim.equalVer <;> cases trim.equalHor <;> simp <;> omega

/-- The scans of what is left find the cuts that were not made. -/
theorem scannedEdges_crop (positional : lib.Positional) (named : trim.color = some color)
    (converted : image.toRgba8 lib = .ok rgba) {edges : TrimEdges} {window : Window}
    (leaves : edges.Leaves image.size window)
    (convertedKept : (image.crop lib window).toRgba8 lib = .ok rgbaKept)
    (top : edges.top ≤ (scannedEdges lib rgba trim).top)
    (bottom : edges.bottom ≤ (scannedEdges lib rgba trim).bottom)
    (left : edges.left ≤ (scannedEdges lib rgba trim).left)
    (right : edges.right ≤ (scannedEdges lib rgba trim).right)
    {x y : Nat} (content : Foreground lib rgba trim x y) :
    scannedEdges lib rgbaKept trim = (scannedEdges lib rgba trim).less edges := by
  have width := leaves.width
  have height := leaves.height
  have moved {x y : Nat} := @foreground_crop _ lib image rgba rgbaKept trim color positional named
    converted edges window leaves convertedKept x y
  have widthIs := congrArg Size.width (toColor_size lib converted)
  have heightIs := congrArg Size.height (toColor_size lib converted)
  have widthKept : rgbaKept.size.width = window.size.width :=
    congrArg Size.width (toColor_size lib convertedKept)
  have heightKept : rgbaKept.size.height = window.size.height :=
    congrArg Size.height (toColor_size lib convertedKept)
  -- a pixel of the image that is not background, seen in what is left
  have inside {x y : Nat} (pixel : Foreground lib rgba trim x y) :
      Foreground lib rgbaKept trim (x - edges.left) (y - edges.top) := by
    obtain ⟨columns, rows⟩ := scannedEdges_enclose pixel
    refine moved.mpr ⟨by omega, by omega, ?_⟩
    rwa [Nat.add_sub_of_le (by omega), Nat.add_sub_of_le (by omega)]
  obtain ⟨⟨_, leftMost⟩, ⟨_, rightMost⟩, ⟨_, topMost⟩, ⟨_, bottomMost⟩⟩ :=
    scannedEdges_tight content
  obtain ⟨⟨_, leftKept⟩, ⟨_, rightKept⟩, ⟨_, topKept⟩, ⟨_, bottomKept⟩⟩ :=
    scannedEdges_tight (inside content)
  have leftEq : (scannedEdges lib rgbaKept trim).left =
      (scannedEdges lib rgba trim).left - edges.left := by
    have bound := (scannedEdges_enclose (inside leftMost)).1
    have back := (scannedEdges_enclose (moved.mp leftKept).2.2).1
    omega
  have rightEq : (scannedEdges lib rgbaKept trim).right =
      (scannedEdges lib rgba trim).right - edges.right := by
    have bound := (scannedEdges_enclose (inside rightMost)).1
    have back := (scannedEdges_enclose (moved.mp rightKept).2.2).1
    omega
  have topEq : (scannedEdges lib rgbaKept trim).top =
      (scannedEdges lib rgba trim).top - edges.top := by
    have bound := (scannedEdges_enclose (inside topMost)).2
    have back := (scannedEdges_enclose (moved.mp topKept).2.2).2
    omega
  have bottomEq : (scannedEdges lib rgbaKept trim).bottom =
      (scannedEdges lib rgba trim).bottom - edges.bottom := by
    have bound := (scannedEdges_enclose (inside bottomMost)).2
    have back := (scannedEdges_enclose (moved.mp bottomKept).2.2).2
    omega
  unfold TrimEdges.less
  rw [← leftEq, ← rightEq, ← topEq, ← bottomEq]

/-- No cuts leave the whole. -/
theorem TrimEdges.window_zero (size : Size) :
    (⟨0, 0, 0, 0⟩ : TrimEdges).window size = .whole size := by
  have left : TrimEdges.Leaves ⟨0, 0, 0, 0⟩ size (.whole size) :=
    ⟨rfl, Nat.zero_add _, rfl, Nat.zero_add _⟩
  have cuts := @TrimEdges.leaves_window ⟨0, 0, 0, 0⟩ size size.heightPos size.widthPos
  exact cuts.unique left

/-- What of an image was converted can be converted of a part of it. -/
theorem toRgba8_crop (converted : image.toRgba8 lib = .ok rgba) {window : Window}
    (width : window.size.width ≤ image.size.width)
    (height : window.size.height ≤ image.size.height) :
    ∃ rgbaKept, (image.crop lib window).toRgba8 lib = .ok rgbaKept := by
  have fits := (toColor_ok lib converted).1
  have fitsKept : ConvertFits (image.crop lib window).shape .rgba8 :=
    fits.imp_right fun canvas => canvas.anti width height
  exact ⟨_, toColor_ends lib fitsKept⟩

/-- **A trimmed image is trimmed.**  With a background that the request names, a second trim
of what a trim left, with equal cuts or without, leaves it as it is. -/
theorem applyTrim_idempotent (positional : lib.Positional) (named : trim.color = some color)
    (trimmed : applyTrim lib image trim = .ok kept) : applyTrim lib kept trim = .ok kept := by
  obtain ⟨rgba, converted, -⟩ := (Outcome.bind_ok_iff _ _ _).mp trimmed
  by_cases content : ∃ x y, Foreground lib rgba trim x y
  case neg =>
      have blank : ∀ x y, ¬ Foreground lib rgba trim x y :=
        fun x y pixel => content ⟨x, y, pixel⟩
      rw [applyTrim_background converted positional.copiesWhole blank] at trimmed
      obtain rfl := Except.ok.inj trimmed
      exact applyTrim_background converted positional.copiesWhole blank
  case pos =>
      obtain ⟨x, y, pixel⟩ := content
      obtain ⟨columns, rows⟩ := scannedEdges_enclose pixel
      obtain ⟨top, bottom, left, right⟩ := (scannedEdges lib rgba trim).equalized_le trim
      have widthIs := congrArg Size.width (toColor_size lib converted)
      have heightIs := congrArg Size.height (toColor_size lib converted)
      have leaves : (trimEdges lib rgba trim).Leaves image.size
          ((trimEdges lib rgba trim).window image.size) := by
        rw [trimEdges_eq]
        exact TrimEdges.leaves_window (by omega) (by omega)
      have width := leaves.width
      have height := leaves.height
      rw [applyTrim_ok converted, if_neg (by rw [trimEdges_eq]; omega)] at trimmed
      obtain rfl := Except.ok.inj trimmed
      obtain ⟨rgbaKept, convertedKept⟩ := toRgba8_crop converted
        (show ((trimEdges lib rgba trim).window image.size).size.width ≤ _ by omega)
        (show ((trimEdges lib rgba trim).window image.size).size.height ≤ _ by omega)
      have nothing : trimEdges lib rgbaKept trim = ⟨0, 0, 0, 0⟩ := by
        rw [trimEdges_eq, scannedEdges_crop positional named converted leaves convertedKept top
          bottom left right pixel, trimEdges_eq, TrimEdges.equalized_less]
      rw [applyTrim_ok convertedKept, nothing, TrimEdges.window_zero,
        crop_whole positional.copiesWhole, ite_self]

/-- `trim:1:ffffff:0:1`. -/
def whiteTrim : TrimOptions := ⟨F32.one, some ⟨255, 255, 255⟩, false, true⟩

theorem applyTrim_idempotent_dotted :
    ∃ kept, applyTrim .pixels dotted whiteTrim = .ok kept ∧
      applyTrim .pixels kept whiteTrim = .ok kept := by
  have converted : dotted.toRgba8 .pixels = .ok dotted := rfl
  have trimmed := @applyTrim_ok _ Imaging.pixels dotted dotted whiteTrim converted
  exact ⟨_, trimmed, applyTrim_idempotent pixels_positional rfl trimmed⟩

end ImageResizer
