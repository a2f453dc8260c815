import ImageResizer.NoPanic.Geometry
import ImageResizer.PixelGrid
import ImageResizer.Sizing.FinalOrientation

/-!
# What a trim keeps

`apply_trim` scans inward from each side and stops at the first line that is not all
background.  The four scans are ordered, and each is bounded by what the one before it left,
so on a raster with content they stop at the sides of its bounding box, and on a raster
without any they meet and nothing is cut.
-/

namespace ImageResizer

variable {Content : Type} (lib : Imaging Content)

section Scan

/-- A prefix of a `takeWhile` is a prefix of the list on which the test holds. -/
theorem le_length_takeWhile_iff {α : Type} (test : α → Bool) (values : List α) (count : Nat) :
    count ≤ (values.takeWhile test).length ↔
      count ≤ values.length ∧ ∀ value ∈ values.take count, test value = true := by
  induction values generalizing count with
  | nil => simp
  | cons value rest ih =>
      cases count with
      | zero => simp
      | succ count =>
          cases passes : test value with
          | false => simp [passes]
          | true => simp [passes, ih]

theorem le_leadingLines_iff (limit : Nat) (line : Nat → Bool) (count : Nat) :
    count ≤ leadingLines limit line ↔ count ≤ limit ∧ ∀ i < count, line i = true := by
  unfold leadingLines
  rw [le_length_takeWhile_iff, List.length_range, List.take_range]
  constructor
  · rintro ⟨fits, passes⟩
    exact ⟨fits, fun i small => passes i (by simp; omega)⟩
  · rintro ⟨fits, passes⟩
    exact ⟨fits, fun i member => passes i (by simp at member; omega)⟩

/-- One `while` loop of `apply_trim`, from a line on, with the additions it makes. -/
def scanLines (limit : Nat) (line : Nat → Stage Bool) (counted : Nat) : Stage Nat :=
  if counted < limit then do
    if ← line counted then do
      .assert (counted + 1 ≤ u32Max)
      scanLines limit line (counted + 1)
    else pure counted
  else pure counted
  termination_by limit - counted

variable {limit : Nat} {line : Nat → Bool} {checked : Nat → Stage Bool}

theorem scanLines_from (limitFits : limit ≤ u32Max)
    (reads : ∀ i < limit, checked i = .ok (line i)) (counted : Nat)
    (reached : counted ≤ leadingLines limit line) :
    scanLines limit checked counted = .ok (leadingLines limit line) := by
  have bounded := leadingLines_le limit line
  -- the lines left to scan decrease
  induction left : limit - counted generalizing counted with
  | zero =>
      have last : counted = leadingLines limit line := by omega
      rw [scanLines, if_neg (by omega), last]
      rfl
  | succ remaining ih =>
      rw [scanLines, if_pos (by omega), reads counted (by omega)]
      cases blank : line counted with
      | true =>
          have further : counted + 1 ≤ leadingLines limit line := by
            rw [le_leadingLines_iff] at reached ⊢
            refine ⟨by omega, fun i small => ?_⟩
            rcases Nat.lt_succ_iff_lt_or_eq.mp small with earlier | rfl
            · exact reached.2 i earlier
            · exact blank
          have fits : counted + 1 ≤ u32Max := by omega
          simp only [bind, Except.bind, if_true, Outcome.assert_ok fits]
          exact ih (counted + 1) further (by omega)
      | false =>
          have stops : leadingLines limit line ≤ counted := by
            by_contra further
            have passes := ((le_leadingLines_iff limit line (counted + 1)).mp (by omega)).2 counted
              (Nat.lt_succ_self counted)
            rw [blank] at passes
            cases passes
          rw [le_antisymm reached stops]
          rfl

theorem scanLines_eq (limitFits : limit ≤ u32Max)
    (reads : ∀ i < limit, checked i = .ok (line i)) :
    scanLines limit checked 0 = .ok (leadingLines limit line) :=
  scanLines_from limitFits reads 0 (Nat.zero_le _)

end Scan

section Axis

/-- The lines blank from one end, and from the other end among those left. -/
def blankEnds (length : Nat) (line : Nat → Bool) : Nat × Nat :=
  (leadingLines length line,
    leadingLines (length - leadingLines length line) fun i => line (length - 1 - i))

variable {length : Nat} {line : Nat → Bool}

theorem blankEnds_of_blank (blank : ∀ i < length, line i = true) :
    blankEnds length line = (length, 0) := by
  have all : leadingLines length line = length := by
    apply le_antisymm (leadingLines_le length line)
    rw [le_leadingLines_iff]
    exact ⟨le_rfl, blank⟩
  unfold blankEnds
  rw [all, Nat.sub_self]
  rfl

/-- Every line with content is between the two ends. -/
theorem blankEnds_enclose {i : Nat} (inside : i < length) (content : line i = false) :
    (blankEnds length line).1 ≤ i ∧ i + (blankEnds length line).2 < length := by
  have start : leadingLines length line ≤ i := by
    by_contra passes
    have blank := ((le_leadingLines_iff length line (i + 1)).mp (by omega)).2 i (by omega)
    rw [content] at blank
    cases blank
  refine ⟨start, ?_⟩
  by_contra passes
  unfold blankEnds at passes
  dsimp only at passes
  have blank := ((le_leadingLines_iff (length - leadingLines length line)
    (fun i => line (length - 1 - i)) (length - i)).mp (by omega)).2 (length - 1 - i) (by omega)
  have back : length - 1 - (length - 1 - i) = i := by omega
  simp only [back, content, Bool.false_eq_true] at blank

/-- The scans stop at lines with content. -/
theorem blankEnds_tight {i : Nat} (inside : i < length) (content : line i = false) :
    line (blankEnds length line).1 = false ∧
      line (length - 1 - (blankEnds length line).2) = false := by
  have enclosed := blankEnds_enclose inside content
  constructor
  · by_contra blank
    have further : (blankEnds length line).1 + 1 ≤ leadingLines length line := by
      rw [le_leadingLines_iff]
      refine ⟨by omega, fun j small => ?_⟩
      rcases Nat.lt_succ_iff_lt_or_eq.mp small with earlier | rfl
      · exact ((le_leadingLines_iff length line _).mp le_rfl).2 j earlier
      · exact Bool.eq_true_of_not_eq_false blank
    exact absurd further (Nat.not_succ_le_self _)
  · by_contra blank
    have further : (blankEnds length line).2 + 1 ≤
        leadingLines (length - leadingLines length line) fun i => line (length - 1 - i) := by
      rw [le_leadingLines_iff]
      unfold blankEnds at enclosed ⊢
      refine ⟨by dsimp only at enclosed ⊢; omega, fun j small => ?_⟩
      rcases Nat.lt_succ_iff_lt_or_eq.mp small with earlier | rfl
      · exact ((le_leadingLines_iff _ _ _).mp le_rfl).2 j earlier
      · exact Bool.eq_true_of_not_eq_false blank
    exact absurd further (Nat.not_succ_le_self _)

end Axis

section Edges

variable (rgba : Raster Content) (trim : TrimOptions)

/-- The colour `apply_trim` takes for the background. -/
def trimTarget : Rgb :=
  trim.color.getD
    ⟨(lib.rgba8At rgba 0 0).r, (lib.rgba8At rgba 0 0).g, (lib.rgba8At rgba 0 0).b⟩

/-- A pixel of the raster that is not background. -/
def Foreground (x y : Nat) : Prop :=
  x < rgba.size.width ∧ y < rgba.size.height ∧
    isBackground trim.threshold.value (trimTarget lib rgba trim) (lib.rgba8At rgba x y) = false

/-- `row_is_background`. -/
def rowIsBackground (y : Nat) : Bool :=
  (List.range rgba.size.width).all fun x =>
    isBackground trim.threshold.value (trimTarget lib rgba trim) (lib.rgba8At rgba x y)

/-- `col_is_background`. -/
def colIsBackground (x : Nat) : Bool :=
  (List.range rgba.size.height).all fun y =>
    isBackground trim.threshold.value (trimTarget lib rgba trim) (lib.rgba8At rgba x y)

/-- The equal cuts a request asks for. -/
def TrimEdges.equalized (edges : TrimEdges) (trim : TrimOptions) : TrimEdges where
  top := if trim.equalVer then min edges.top edges.bottom else edges.top
  bottom := if trim.equalVer then min edges.top edges.bottom else edges.bottom
  left := if trim.equalHor then min edges.left edges.right else edges.left
  right := if trim.equalHor then min edges.left edges.right else edges.right

/-- What the four scans find. -/
def scannedEdges : TrimEdges where
  top := (blankEnds rgba.size.height (rowIsBackground lib rgba trim)).1
  bottom := (blankEnds rgba.size.height (rowIsBackground lib rgba trim)).2
  left := (blankEnds rgba.size.width (colIsBackground lib rgba trim)).1
  right := (blankEnds rgba.size.width (colIsBackground lib rgba trim)).2

theorem trimEdges_eq :
    trimEdges lib rgba trim = (scannedEdges lib rgba trim).equalized trim := rfl

/-- A line counted from the far end. -/
def lineFromEnd (length : Nat) (line : Nat → Bool) (i : Nat) : Stage Bool := do
  let last ← u32Sub length 1
  let i ← u32Sub last i
  pure (line i)

/-- Two scans from the ends of an axis, with the subtractions they make. -/
def scanEnds (length : Nat) (line : Nat → Bool) : Stage (Nat × Nat) := do
  let start ← scanLines length (fun i => pure (line i)) 0
  let left ← u32Sub length start
  let finish ← scanLines left (lineFromEnd length line) 0
  pure (start, finish)

/-- The scans of `apply_trim` as loops over checked arithmetic. -/
def scanEdges : Stage TrimEdges := do
  let (top, bottom) ← scanEnds rgba.size.height (rowIsBackground lib rgba trim)
  let (left, right) ← scanEnds rgba.size.width (colIsBackground lib rgba trim)
  pure (TrimEdges.equalized ⟨top, bottom, left, right⟩ trim)

theorem scanEnds_eq {length : Nat} (line : Nat → Bool) (positive : 0 < length)
    (fits : length ≤ u32Max) : scanEnds length line = .ok (blankEnds length line) := by
  have startFits := leadingLines_le length line
  have forward := @scanLines_eq length line (fun i => pure (line i)) fits fun _ _ => rfl
  have reads (i : Nat) (small : i < length - leadingLines length line) :
      lineFromEnd length line i = .ok (line (length - 1 - i)) := by
    have last : u32Sub length 1 = .ok (length - 1) := u32Sub_ok positive
    have inside : u32Sub (length - 1) i = .ok (length - 1 - i) := u32Sub_ok (by omega)
    unfold lineFromEnd
    simp only [last, inside, bind, Except.bind]
    rfl
  have backward := scanLines_eq (by omega) reads
  unfold scanEnds
  simp only [forward, u32Sub_ok startFits, backward, bind, Except.bind]
  rfl

/-- The scans end, and no addition or subtraction leaves its range. -/
theorem scanEdges_eq : scanEdges lib rgba trim = .ok (trimEdges lib rgba trim) := by
  unfold scanEdges
  simp only [scanEnds_eq _ rgba.size.heightPos rgba.size.heightFits,
    scanEnds_eq _ rgba.size.widthPos rgba.size.widthFits, bind, Except.bind]
  rfl

variable {lib rgba trim}

theorem row_of_foreground {x y : Nat} (content : Foreground lib rgba trim x y) :
    y < rgba.size.height ∧ rowIsBackground lib rgba trim y = false := by
  obtain ⟨column, row, pixel⟩ := content
  refine ⟨row, List.all_eq_false.mpr ⟨x, List.mem_range.mpr column, ?_⟩⟩
  simp [pixel]

theorem column_of_foreground {x y : Nat} (content : Foreground lib rgba trim x y) :
    x < rgba.size.width ∧ colIsBackground lib rgba trim x = false := by
  obtain ⟨column, row, pixel⟩ := content
  refine ⟨column, List.all_eq_false.mpr ⟨y, List.mem_range.mpr row, ?_⟩⟩
  simp [pixel]

theorem foreground_of_row {y : Nat} (row : y < rgba.size.height)
    (content : rowIsBackground lib rgba trim y = false) :
    ∃ x, Foreground lib rgba trim x y := by
  obtain ⟨x, column, pixel⟩ := List.all_eq_false.mp content
  exact ⟨x, List.mem_range.mp column, row, Bool.eq_false_iff.mpr pixel⟩

theorem foreground_of_column {x : Nat} (column : x < rgba.size.width)
    (content : colIsBackground lib rgba trim x = false) :
    ∃ y, Foreground lib rgba trim x y := by
  obtain ⟨y, row, pixel⟩ := List.all_eq_false.mp content
  exact ⟨y, column, List.mem_range.mp row, Bool.eq_false_iff.mpr pixel⟩

end Edges

section Window

/-- The positions of a raster inside a rectangle. -/
def Window.Holds (window : Window) (x y : Nat) : Prop :=
  (window.x ≤ x ∧ x < window.x + window.size.width) ∧
    window.y ≤ y ∧ y < window.y + window.size.height

/-- The smallest rectangle that holds a content. -/
structure Window.BoundingBox (window : Window) (content : Nat → Nat → Prop) : Prop where
  holds : ∀ x y, content x y → window.Holds x y
  least : ∀ other : Window, (∀ x y, content x y → other.Holds x y) →
    ∀ x y, window.Holds x y → other.Holds x y

/-- The rectangle left of a raster by the cuts from its sides. -/
structure TrimEdges.Leaves (edges : TrimEdges) (size : Size) (window : Window) : Prop where
  left : window.x = edges.left
  width : edges.left + window.size.width + edges.right = size.width
  top : window.y = edges.top
  height : edges.top + window.size.height + edges.bottom = size.height

/-- The whole of a raster. -/
def Window.whole (size : Size) : Window := ⟨0, 0, size⟩

/-- `crop_imm` of a whole raster is a copy of it. -/
def Imaging.CopiesWhole : Prop :=
  ∀ image : Raster Content, lib.crop image (.whole image.size) = image.content

variable {lib}

theorem crop_whole (copies : lib.CopiesWhole) (image : Raster Content) :
    image.crop lib (.whole image.size) = image := by
  unfold Raster.crop
  rw [copies image]
  rfl

theorem pixels_copiesWhole : Imaging.pixels.CopiesWhole := by
  intro image
  funext x y
  simp [Imaging.pixels, Window.whole]

/-- Cuts that leave something leave this window of it. -/
def TrimEdges.window (edges : TrimEdges) (size : Size) : Window :=
  cropImm size edges.left edges.top (size.width - edges.left - edges.right)
    (size.height - edges.top - edges.bottom)

variable {edges : TrimEdges} {size : Size}

theorem TrimEdges.leaves_window (vertical : edges.top + edges.bottom < size.height)
    (horizontal : edges.left + edges.right < size.width) :
    edges.Leaves size (edges.window size) := by
  have widthFits := size.widthFits
  have heightFits := size.heightFits
  have dimensions := @cropImm_inside size (size.width - edges.left - edges.right)
    (size.height - edges.top - edges.bottom) edges.left edges.top (by omega) (by omega) (by omega)
    (by omega)
  obtain ⟨width, height⟩ := Prod.mk.inj dimensions
  constructor
  · exact min_eq_left (by omega)
  · rw [window, width]
    omega
  · exact min_eq_left (by omega)
  · rw [window, height]
    omega

theorem TrimEdges.Leaves.holds_iff {window : Window} (leaves : edges.Leaves size window)
    {x y : Nat} : window.Holds x y ↔
      (edges.left ≤ x ∧ x + edges.right < size.width) ∧
        edges.top ≤ y ∧ y + edges.bottom < size.height := by
  have left := leaves.left
  have width := leaves.width
  have top := leaves.top
  have height := leaves.height
  unfold Window.Holds
  omega

/-- Equal cuts are no deeper than the cuts they were made of. -/
theorem TrimEdges.equalized_le (edges : TrimEdges) (trim : TrimOptions) :
    (edges.equalized trim).top ≤ edges.top ∧ (edges.equalized trim).bottom ≤ edges.bottom ∧
      (edges.equalized trim).left ≤ edges.left ∧ (edges.equalized trim).right ≤ edges.right := by
  unfold equalized
  dsimp only
  refine ⟨?_, ?_, ?_, ?_⟩ <;> split <;> omega

end Window

section Trimmed

variable {lib} {image rgba : Raster Content} {trim : TrimOptions}

/-- Every pixel that is not background is inside the cuts. -/
theorem scannedEdges_enclose {x y : Nat} (content : Foreground lib rgba trim x y) :
    ((scannedEdges lib rgba trim).left ≤ x ∧
        x + (scannedEdges lib rgba trim).right < rgba.size.width) ∧
      (scannedEdges lib rgba trim).top ≤ y ∧
        y + (scannedEdges lib rgba trim).bottom < rgba.size.height := by
  obtain ⟨column, columnContent⟩ := column_of_foreground content
  obtain ⟨row, rowContent⟩ := row_of_foreground content
  exact ⟨blankEnds_enclose column columnContent, blankEnds_enclose row rowContent⟩

/-- Each of the four sides of the rectangle the scans leave has such a pixel. -/
theorem scannedEdges_tight {x y : Nat} (content : Foreground lib rgba trim x y) :
    (∃ y, Foreground lib rgba trim (scannedEdges lib rgba trim).left y) ∧
      (∃ y, Foreground lib rgba trim
        (rgba.size.width - 1 - (scannedEdges lib rgba trim).right) y) ∧
      (∃ x, Foreground lib rgba trim x (scannedEdges lib rgba trim).top) ∧
      ∃ x, Foreground lib rgba trim x
        (rgba.size.height - 1 - (scannedEdges lib rgba trim).bottom) := by
  obtain ⟨column, columnContent⟩ := column_of_foreground content
  obtain ⟨row, rowContent⟩ := row_of_foreground content
  obtain ⟨columns, rows⟩ := scannedEdges_enclose content
  obtain ⟨left, right⟩ := blankEnds_tight column columnContent
  obtain ⟨top, bottom⟩ := blankEnds_tight row rowContent
  refine ⟨foreground_of_column ?_ left, foreground_of_column ?_ right,
    foreground_of_row ?_ top, foreground_of_row ?_ bottom⟩
  · exact columns.1.trans_lt column
  · omega
  · exact rows.1.trans_lt row
  · omega

/-- The rectangle the scans leave is the bounding box of what is not background. -/
theorem scannedEdges_boundingBox {x y : Nat} (content : Foreground lib rgba trim x y)
    {window : Window} (leaves : (scannedEdges lib rgba trim).Leaves rgba.size window) :
    window.BoundingBox (Foreground lib rgba trim) := by
  constructor
  · intro column row pixel
    exact leaves.holds_iff.mpr (scannedEdges_enclose pixel)
  · intro other holds column row inside
    obtain ⟨⟨_, left⟩, ⟨_, right⟩, ⟨_, top⟩, ⟨_, bottom⟩⟩ := scannedEdges_tight content
    have leftHeld := holds _ _ left
    have rightHeld := holds _ _ right
    have topHeld := holds _ _ top
    have bottomHeld := holds _ _ bottom
    have between := leaves.holds_iff.mp inside
    unfold Window.Holds at *
    omega

/-- A trim ends in the image or in the rectangle its cuts leave. -/
theorem applyTrim_ok (converted : image.toRgba8 lib = .ok rgba) :
    applyTrim lib image trim = .ok
      (if image.size.height ≤ (trimEdges lib rgba trim).top + (trimEdges lib rgba trim).bottom ∨
          image.size.width ≤ (trimEdges lib rgba trim).left + (trimEdges lib rgba trim).right then
        image
      else image.crop lib ((trimEdges lib rgba trim).window image.size)) := by
  have size := toColor_size lib converted
  have vertical := trimEdges_vertical lib rgba trim
  have horizontal := trimEdges_horizontal lib rgba trim
  rw [size] at vertical horizontal
  have window := trimWindow_ok vertical horizontal
  unfold applyTrim
  simp only [converted, window, bind, Except.bind]
  split <;> rfl

/-- A raster that is all background stays as it is. -/
theorem applyTrim_background (converted : image.toRgba8 lib = .ok rgba)
    (copies : lib.CopiesWhole) (background : ∀ x y, ¬ Foreground lib rgba trim x y) :
    applyTrim lib image trim = .ok image := by
  have size := toColor_size lib converted
  have rows : ∀ y < rgba.size.height, rowIsBackground lib rgba trim y = true := by
    intro y row
    by_contra content
    obtain ⟨x, pixel⟩ := foreground_of_row row (Bool.eq_false_iff.mpr content)
    exact background x y pixel
  have columns : ∀ x < rgba.size.width, colIsBackground lib rgba trim x = true := by
    intro x column
    by_contra content
    obtain ⟨y, pixel⟩ := foreground_of_column column (Bool.eq_false_iff.mpr content)
    exact background x y pixel
  have scanned : scannedEdges lib rgba trim = ⟨image.size.height, 0, image.size.width, 0⟩ := by
    unfold scannedEdges
    rw [blankEnds_of_blank rows, blankEnds_of_blank columns, size]
  have heightPos := image.size.heightPos
  have widthPos := image.size.widthPos
  rw [applyTrim_ok converted, trimEdges_eq, scanned]
  cases vertical : trim.equalVer with
  | false => simp [TrimEdges.equalized, vertical]
  | true =>
      cases horizontal : trim.equalHor with
      | false => simp [TrimEdges.equalized, horizontal]
      | true =>
          -- both cuts are equalized to nothing, and the whole raster is cropped out of itself
          have whole : (TrimEdges.equalized ⟨image.size.height, 0, image.size.width, 0⟩
              trim).window image.size = .whole image.size := by
            unfold TrimEdges.equalized TrimEdges.window cropImm Window.whole
            simp only [vertical, horizontal, if_true, Nat.min_zero, Nat.zero_min, Nat.sub_zero,
              min_self]
            congr 1
            have widthFits := image.size.widthFits
            have heightFits := image.size.heightFits
            rw [Size.floored_of_fits widthPos heightPos widthFits heightFits]
          rw [whole, crop_whole copies]
          split <;> rfl

/-- With a pixel that is not background, a trim keeps the bounding box of those pixels, or
what equal cuts leave around it. -/
theorem applyTrim_content (converted : image.toRgba8 lib = .ok rgba)
    {x y : Nat} (content : Foreground lib rgba trim x y) :
    ∃ (sides : TrimEdges) (box kept : Window),
      applyTrim lib image trim = .ok (image.crop lib kept) ∧
      box.BoundingBox (Foreground lib rgba trim) ∧ sides.Leaves image.size box ∧
      (sides.equalized trim).Leaves image.size kept := by
  have size := toColor_size lib converted
  obtain ⟨columns, rows⟩ := scannedEdges_enclose content
  rw [size] at columns rows
  obtain ⟨top, bottom, left, right⟩ := (scannedEdges lib rgba trim).equalized_le trim
  have scanned : (scannedEdges lib rgba trim).Leaves image.size
      ((scannedEdges lib rgba trim).window image.size) :=
    TrimEdges.leaves_window (by omega) (by omega)
  have kept : ((scannedEdges lib rgba trim).equalized trim).Leaves image.size
      (((scannedEdges lib rgba trim).equalized trim).window image.size) :=
    TrimEdges.leaves_window (by omega) (by omega)
  refine ⟨scannedEdges lib rgba trim, _, _, ?_, ?_, scanned, kept⟩
  · rw [applyTrim_ok converted, trimEdges_eq, if_neg (by omega)]
  · apply scannedEdges_boundingBox content
    rw [size]
    exact scanned

/-- Two windows left by the same cuts are the same. -/
theorem TrimEdges.Leaves.unique {edges : TrimEdges} {size : Size} {first second : Window}
    (left : edges.Leaves size first) (right : edges.Leaves size second) : first = second := by
  obtain ⟨firstX, firstWidth, firstY, firstHeight⟩ := left
  obtain ⟨secondX, secondWidth, secondY, secondHeight⟩ := right
  cases first with
  | mk firstLeft firstTop firstSize =>
      cases second with
      | mk secondLeft secondTop secondSize =>
          dsimp only at *
          congr 1
          · omega
          · omega
          · ext <;> omega

theorem TrimEdges.equalized_none (edges : TrimEdges) (free : trim.equalHor = false)
    (freely : trim.equalVer = false) : edges.equalized trim = edges := by
  unfold equalized
  rw [free, freely]
  rfl

/-- A trim reads its scans without leaving the range of a `u32`; it keeps an image without
content, and of any other what equal cuts leave around the bounding box of its content, which
is the bounding box itself when none are asked for.  Only background is removed. -/
theorem applyTrim_exact (copies : lib.CopiesWhole) (converted : image.toRgba8 lib = .ok rgba) :
    scanEdges lib rgba trim = .ok (trimEdges lib rgba trim) ∧
      ((∀ x y, ¬ Foreground lib rgba trim x y) → applyTrim lib image trim = .ok image) ∧
      ((∃ x y, Foreground lib rgba trim x y) →
        ∃ (sides : TrimEdges) (box kept : Window),
          applyTrim lib image trim = .ok (image.crop lib kept) ∧
          box.BoundingBox (Foreground lib rgba trim) ∧ sides.Leaves image.size box ∧
          (sides.equalized trim).Leaves image.size kept ∧
          (trim.equalHor = false → trim.equalVer = false → kept = box) ∧
          ∀ x y, x < image.size.width → y < image.size.height → ¬ kept.Holds x y →
            isBackground trim.threshold.value (trimTarget lib rgba trim)
              (lib.rgba8At rgba x y) = true) := by
  refine ⟨scanEdges_eq lib rgba trim, applyTrim_background converted copies, ?_⟩
  rintro ⟨x, y, content⟩
  obtain ⟨sides, box, kept, result, bounding, boxed, left⟩ := applyTrim_content converted content
  refine ⟨sides, box, kept, result, bounding, boxed, left, ?_, ?_⟩
  · intro free freely
    rw [sides.equalized_none free freely] at left
    exact left.unique boxed
  · intro column row inWidth inHeight removed
    by_contra pixel
    have size := toColor_size lib converted
    have held := boxed.holds_iff.mp (bounding.holds column row
      ⟨size ▸ inWidth, size ▸ inHeight, Bool.eq_false_iff.mpr pixel⟩)
    obtain ⟨top, bottom, leftCut, rightCut⟩ := sides.equalized_le trim
    exact removed (left.holds_iff.mpr (by omega))

/-- A dot on a white ground, off centre. -/
def dotted : Raster PixelGrid where
  size := .floored 5 3
  color := .rgba8
  content x y := if x = 3 ∧ y = 1 then ⟨0, 0, 0, 255⟩ else ⟨255, 255, 255, 255⟩

theorem applyTrim_exact_dotted :
    ∃ kept, applyTrim Imaging.pixels dotted ⟨F32.one, none, false, false⟩ =
        .ok (dotted.crop Imaging.pixels kept) ∧ kept.Holds 3 1 := by
  obtain ⟨-, -, bounded⟩ := @applyTrim_exact PixelGrid Imaging.pixels dotted dotted
    ⟨F32.one, none, false, false⟩ pixels_copiesWhole rfl
  have dot : Foreground Imaging.pixels dotted ⟨F32.one, none, false, false⟩ 3 1 :=
    ⟨by decide, by decide, by decide +kernel⟩
  obtain ⟨sides, box, kept, result, bounding, -, -, same, -⟩ := bounded ⟨3, 1, dot⟩
  refine ⟨kept, result, ?_⟩
  rw [same rfl rfl]
  exact bounding.holds 3 1 dot

end Trimmed

end ImageResizer
