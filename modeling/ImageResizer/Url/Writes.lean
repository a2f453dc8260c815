import ImageResizer.Url

/-!
# What an option segment writes

Each segment writes certain options and leaves the others alone, and what it writes does not
depend on the options gathered before it.  So of several segments that write one option the
last one counts, wherever the others came from.
-/

namespace ImageResizer

namespace Url

/-- The options a segment can write. -/
inductive OptionField where
  | width
  | height
  | resizeType
  | blurSigma
  | grayscale
  | enlarge
  | quality
  | jpegQuality
  | webpQuality
  | webpLossless
  | jpegProgressive
  | jpegNoSubsampling
  | maxBytes
  | background
  | autorotate
  | stripMetadata
  | crop
  | gravity
  | rotate
  | flipHorizontal
  | flipVertical
  | trim
  | extend
  | padding
  | zoomX
  | zoomY
  | dpr
  | minWidth
  | minHeight
  | watermarkOpacity
  | watermarkPosition
  | watermarkXOffset
  | watermarkYOffset
  | watermarkScale
  | watermarkUrl
  | watermarkSize
  | watermarkRotate
  | watermarkShadow
  deriving DecidableEq

namespace Scan

/-- Some options of one state laid over another. -/
def overlay (mask : OptionField → Bool) (top bottom : Scan) : Scan where
  opts :=
    { bottom.opts with
      width := bif mask .width then top.opts.width else bottom.opts.width
      height := bif mask .height then top.opts.height else bottom.opts.height
      resizeType := bif mask .resizeType then top.opts.resizeType else bottom.opts.resizeType
      blurSigma := bif mask .blurSigma then top.opts.blurSigma else bottom.opts.blurSigma
      grayscale := bif mask .grayscale then top.opts.grayscale else bottom.opts.grayscale
      enlarge := bif mask .enlarge then top.opts.enlarge else bottom.opts.enlarge
      quality := bif mask .quality then top.opts.quality else bottom.opts.quality
      jpegQuality := bif mask .jpegQuality then top.opts.jpegQuality else bottom.opts.jpegQuality
      webpQuality := bif mask .webpQuality then top.opts.webpQuality else bottom.opts.webpQuality
      webpLossless := bif mask .webpLossless then top.opts.webpLossless else bottom.opts.webpLossless
      jpegProgressive := bif mask .jpegProgressive then top.opts.jpegProgressive else bottom.opts.jpegProgressive
      jpegNoSubsampling := bif mask .jpegNoSubsampling then top.opts.jpegNoSubsampling else bottom.opts.jpegNoSubsampling
      maxBytes := bif mask .maxBytes then top.opts.maxBytes else bottom.opts.maxBytes
      background := bif mask .background then top.opts.background else bottom.opts.background
      autorotate := bif mask .autorotate then top.opts.autorotate else bottom.opts.autorotate
      stripMetadata := bif mask .stripMetadata then top.opts.stripMetadata else bottom.opts.stripMetadata
      gravity := bif mask .gravity then top.opts.gravity else bottom.opts.gravity
      rotate := bif mask .rotate then top.opts.rotate else bottom.opts.rotate
      flipHorizontal := bif mask .flipHorizontal then top.opts.flipHorizontal else bottom.opts.flipHorizontal
      flipVertical := bif mask .flipVertical then top.opts.flipVertical else bottom.opts.flipVertical
      trim := bif mask .trim then top.opts.trim else bottom.opts.trim
      extend := bif mask .extend then top.opts.extend else bottom.opts.extend
      padding := bif mask .padding then top.opts.padding else bottom.opts.padding
      zoomX := bif mask .zoomX then top.opts.zoomX else bottom.opts.zoomX
      zoomY := bif mask .zoomY then top.opts.zoomY else bottom.opts.zoomY
      dpr := bif mask .dpr then top.opts.dpr else bottom.opts.dpr
      minWidth := bif mask .minWidth then top.opts.minWidth else bottom.opts.minWidth
      minHeight := bif mask .minHeight then top.opts.minHeight else bottom.opts.minHeight
      watermarkOpacity := bif mask .watermarkOpacity then top.opts.watermarkOpacity else bottom.opts.watermarkOpacity
      watermarkPosition := bif mask .watermarkPosition then top.opts.watermarkPosition else bottom.opts.watermarkPosition
      watermarkXOffset := bif mask .watermarkXOffset then top.opts.watermarkXOffset else bottom.opts.watermarkXOffset
      watermarkYOffset := bif mask .watermarkYOffset then top.opts.watermarkYOffset else bottom.opts.watermarkYOffset
      watermarkScale := bif mask .watermarkScale then top.opts.watermarkScale else bottom.opts.watermarkScale
      watermarkUrl := bif mask .watermarkUrl then top.opts.watermarkUrl else bottom.opts.watermarkUrl
      watermarkSize := bif mask .watermarkSize then top.opts.watermarkSize else bottom.opts.watermarkSize
      watermarkRotate := bif mask .watermarkRotate then top.opts.watermarkRotate else bottom.opts.watermarkRotate
      watermarkShadow := bif mask .watermarkShadow then top.opts.watermarkShadow else bottom.opts.watermarkShadow }
  cropRaw := bif mask .crop then top.cropRaw else bottom.cropRaw

theorem cond_cond {α : Type} (outer inner : Bool) (first second third : α) :
    (bif outer then first else bif inner then second else third) =
      bif outer || inner then (bif outer then first else second) else third := by
  cases outer <;> cases inner <;> rfl

theorem overlay_overlay (outer inner : OptionField → Bool) (first second third : Scan) :
    overlay outer first (overlay inner second third) =
      overlay (fun field => outer field || inner field) (overlay outer first second) third := by
  simp only [overlay, cond_cond]

theorem cond_repeat {α : Type} (outer inner : Bool) (first second third : α) :
    (bif inner && !outer then second else bif outer then first else bif inner then second else third)
      = bif outer then first else bif inner then second else third := by
  cases outer <;> cases inner <;> rfl

/-- Repeating a lower layer where the upper one left it visible changes nothing. -/
theorem overlay_repeat (outer inner : OptionField → Bool) (first second third : Scan) :
    overlay (fun field => inner field && !outer field) second
        (overlay outer first (overlay inner second third)) =
      overlay outer first (overlay inner second third) := by
  simp only [overlay, cond_repeat]

end Scan

/-- The quality a format of `fq` stands for. -/
def writesQuality (format : List Char) : OptionField → Bool :=
  match String.ofList format with
  | "jpg" | "jpeg" => fun field => field = .jpegQuality
  | "webp" => fun field => field = .webpQuality
  | _ => fun _ => false

/-- The options a segment writes. -/
def writes (segment : List Char) : OptionField → Bool :=
  let args := arguments segment
  match String.ofList (code segment) with
  | "rs" => fun field => field = .resizeType ∨ field = .width ∨ field = .height
  | "q" => fun field => field = .quality
  | "fq" => fun field => (pairs args).any fun pair => writesQuality pair.1 field
  | "webpo" => fun field => field = .webpLossless
  | "jpgo" => fun field =>
      (field = .jpegProgressive ∧ (slot args 0).isSome) ∨
        (field = .jpegNoSubsampling ∧ (slot args 1).isSome)
  | "mb" => fun field => field = .maxBytes
  | "bl" => fun field => field = .blurSigma
  | "g" => fun field => field = .grayscale
  | "el" => fun field => field = .enlarge
  | "bg" => fun field => field = .background
  | "ar" => fun field => field = .autorotate
  | "sm" => fun field => field = .stripMetadata
  | "c" => fun field => field = .crop
  | "gr" => fun field => field = .gravity
  | "rot" => fun field => field = .rotate
  | "fl" => fun field =>
      (field = .flipHorizontal ∧ (slot args 0).isSome) ∨
        (field = .flipVertical ∧ (slot args 1).isSome)
  | "t" => fun field => field = .trim
  | "ex" => fun field => field = .extend
  | "pd" => fun field => field = .padding
  | "z" => fun field => field = .zoomX ∨ field = .zoomY
  | "dpr" => fun field => field = .dpr
  | "mw" => fun field => field = .minWidth
  | "mh" => fun field => field = .minHeight
  | "wm" => fun field =>
      field = .watermarkOpacity ∨ (field = .watermarkPosition ∧ (slot args 1).isSome) ∨
        (field = .watermarkXOffset ∧ (slot args 2).isSome) ∨
        (field = .watermarkYOffset ∧ (slot args 3).isSome) ∨
        (field = .watermarkScale ∧ (slot args 4).isSome)
  | "wmu" => fun field => field = .watermarkUrl
  | "wms" => fun field => field = .watermarkSize
  | "wmr" => fun field => field = .watermarkRotate
  | "wmsh" => fun field => field = .watermarkShadow
  | _ => fun _ => false

section Folds

variable {α : Type} {step : Scan → α → Parsed Scan} {mask : α → OptionField → Bool}

/-- Steps that write whatever was there make a run that does. -/
theorem foldlM_overlay
    (each : ∀ element scan,
      step scan element =
        (fun written => Scan.overlay (mask element) written scan) <$> step .initial element)
    (list : List α) (scan : Scan) :
    list.foldlM step scan =
      (fun written => Scan.overlay (fun field => list.any (mask · field)) written scan) <$>
        list.foldlM step .initial := by
  induction list generalizing scan with
  | nil => rfl
  | cons element list ih =>
      rw [List.foldlM_cons, List.foldlM_cons, each element scan]
      cases step .initial element with
      | error error => rfl
      | ok written =>
          change list.foldlM step (Scan.overlay (mask element) written scan) =
            _ <$> list.foldlM step written
          rw [ih (Scan.overlay (mask element) written scan), ih written]
          cases list.foldlM step .initial with
          | error error => rfl
          | ok later =>
              apply congrArg Except.ok
              simp only [Scan.overlay_overlay, List.any_cons, Bool.or_comm]

end Folds

theorem applyFormatQuality_overlay (segment : List Char) (pair : List Char × List Char)
    (scan : Scan) :
    applyFormatQuality segment scan pair =
      (fun written => Scan.overlay (writesQuality pair.1) written scan) <$>
        applyFormatQuality segment .initial pair := by
  unfold applyFormatQuality writesQuality
  generalize String.ofList pair.1 = name
  split <;> (simp only [map_bind]; rfl)

/-- A segment writes its options whatever was there. -/
theorem applySegment_overlay (base64 : Base64) (segment : List Char) (scan : Scan) :
    applySegment base64 scan segment =
      (fun written => Scan.overlay (writes segment) written scan) <$>
        applySegment base64 .initial segment := by
  unfold applySegment writes
  generalize String.ofList (code segment) = name
  split
  case h_3 =>
      simp only [map_bind, foldlM_overlay (applyFormatQuality_overlay segment) _ scan]
  -- A slot that is left out is not written.
  case h_5 | h_16 =>
      simp only [map_bind, map_pure]
      cases slot (arguments segment) 0 <;> cases slot (arguments segment) 1 <;>
        (simp only [optional, bind_map_left]; rfl)
  case h_24 =>
      simp only [parseWatermark, map_bind, map_pure]
      cases slot (arguments segment) 1 <;> cases slot (arguments segment) 2 <;>
        cases slot (arguments segment) 3 <;> cases slot (arguments segment) 4 <;>
          (simp only [optional, bind_map_left]; rfl)
  all_goals (simp only [map_bind, map_pure]; rfl)

/-- Of the segments that write an option the last one counts: what it gives by itself is
what the whole list gives. -/
theorem scanSegments_last {base64 : Base64} {before after : List (List Char)}
    {segment : List Char} {scan : Scan}
    (scanned : scanSegments base64 (before ++ segment :: after) = .ok scan) :
    ∃ alone, scanSegments base64 [segment] = .ok alone ∧
      Scan.overlay (fun field => writes segment field && !after.any (writes · field)) alone scan =
        scan := by
  rw [scanSegments, List.foldlM_append, Outcome.bind_ok_iff] at scanned
  obtain ⟨earlier, _, scanned⟩ := scanned
  rw [List.foldlM_cons, Outcome.bind_ok_iff] at scanned
  obtain ⟨reached, applied, rest⟩ := scanned
  rw [applySegment_overlay] at applied
  rw [foldlM_overlay (applySegment_overlay base64)] at rest
  cases given : applySegment base64 .initial segment with
  | error error =>
      rw [given] at applied
      cases applied
  | ok alone =>
      rw [given] at applied
      obtain rfl := Except.ok.inj applied
      cases later : after.foldlM (applySegment base64) .initial with
      | error error =>
          rw [later] at rest
          cases rest
      | ok written =>
          rw [later] at rest
          obtain rfl := Except.ok.inj rest
          refine ⟨alone, ?_, Scan.overlay_repeat _ _ written alone earlier⟩
          rw [scanSegments, List.foldlM_cons, given]
          rfl

end Url

end ImageResizer
