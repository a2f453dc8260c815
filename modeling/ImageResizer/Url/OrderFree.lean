import ImageResizer.Foundation.Reordering
import ImageResizer.Url.Writes

/-!
# The order of the option segments

Two segments of different codes write different options, so they commute, the crop's late
resolution included.  Only segments of one code have to keep their order for a request to
mean the same.
-/

namespace ImageResizer

namespace Url

/-- The option code whose segments write the option. -/
def OptionField.writer : OptionField → String
  | .width | .height | .resizeType => "rs"
  | .blurSigma => "bl"
  | .grayscale => "g"
  | .enlarge => "el"
  | .quality => "q"
  | .jpegQuality | .webpQuality => "fq"
  | .webpLossless => "webpo"
  | .jpegProgressive | .jpegNoSubsampling => "jpgo"
  | .maxBytes => "mb"
  | .background => "bg"
  | .autorotate => "ar"
  | .stripMetadata => "sm"
  | .crop => "c"
  | .gravity => "gr"
  | .rotate => "rot"
  | .flipHorizontal | .flipVertical => "fl"
  | .trim => "t"
  | .extend => "ex"
  | .padding => "pd"
  | .zoomX | .zoomY => "z"
  | .dpr => "dpr"
  | .minWidth => "mw"
  | .minHeight => "mh"
  | .watermarkOpacity | .watermarkPosition | .watermarkXOffset | .watermarkYOffset
  | .watermarkScale => "wm"
  | .watermarkUrl => "wmu"
  | .watermarkSize => "wms"
  | .watermarkRotate => "wmr"
  | .watermarkShadow => "wmsh"

theorem writer_of_writesQuality {format : List Char} {field : OptionField}
    (written : writesQuality format field = true) : field.writer = "fq" := by
  unfold writesQuality at written
  generalize String.ofList format = name at written
  split at written
  case h_4 => cases written
  all_goals
    obtain rfl := of_decide_eq_true written
    rfl

theorem writer_of_writes {segment : List Char} {field : OptionField}
    (written : writes segment field = true) :
    field.writer = String.ofList (code segment) := by
  unfold writes at written
  generalize String.ofList (code segment) = name at written ⊢
  split at written
  case h_1 =>
      obtain rfl | rfl | rfl := of_decide_eq_true written <;> rfl
  case h_3 =>
      obtain ⟨pair, _, byPair⟩ := List.any_eq_true.mp written
      exact writer_of_writesQuality byPair
  case h_5 | h_16 =>
      obtain ⟨rfl, _⟩ | ⟨rfl, _⟩ := of_decide_eq_true written <;> rfl
  case h_20 =>
      obtain rfl | rfl := of_decide_eq_true written <;> rfl
  case h_24 =>
      obtain rfl | ⟨rfl, _⟩ | ⟨rfl, _⟩ | ⟨rfl, _⟩ | ⟨rfl, _⟩ := of_decide_eq_true written <;> rfl
  case h_29 => cases written
  all_goals
    obtain rfl := of_decide_eq_true written
    rfl

/-- Segments of different codes write different options. -/
theorem writes_disjoint {first second : List Char} (differ : code first ≠ code second)
    (field : OptionField) : (writes first field && writes second field) = false := by
  apply Bool.eq_false_iff.mpr
  intro both
  obtain ⟨byFirst, bySecond⟩ := Bool.and_eq_true_iff.mp both
  have same := (writer_of_writes byFirst).symm.trans (writer_of_writes bySecond)
  exact differ (String.ofList_injective same)

theorem Scan.cond_exclusive {α : Type} (outer inner : Bool) (first second third : α) :
    (bif !inner && outer then first else bif inner then second else third) =
      bif inner then second else bif !inner && outer then first else third := by
  cases outer <;> cases inner <;> rfl

/-- Layers that cover different options may be laid in either order. -/
theorem Scan.overlay_comm {outer inner : OptionField → Bool}
    (disjoint : ∀ field, (outer field && inner field) = false) (first second third : Scan) :
    overlay outer first (overlay inner second third) =
      overlay inner second (overlay outer first third) := by
  have apart : outer = fun field => !inner field && outer field := by
    funext field
    have either := disjoint field
    cases covered : inner field with
    | false => rfl
    | true =>
        rw [covered, Bool.and_true] at either
        exact either
  rw [apart]
  simp only [overlay, cond_exclusive]

/-- A segment that is accepted is accepted wherever it stands. -/
theorem applySegment_ok_iff (base64 : Base64) (segment : List Char) (scan next : Scan) :
    applySegment base64 scan segment = .ok next ↔
      ∃ written, applySegment base64 .initial segment = .ok written ∧
        next = Scan.overlay (writes segment) written scan := by
  rw [applySegment_overlay]
  cases applySegment base64 .initial segment with
  | error error =>
      constructor
      · intro failed
        cases failed
      · rintro ⟨written, failed, _⟩
        cases failed
  | ok written =>
      constructor
      · intro applied
        exact ⟨written, rfl, (Except.ok.inj applied).symm⟩
      · rintro ⟨other, same, rfl⟩
        obtain rfl := Except.ok.inj same
        rfl

theorem applySegment_commute (base64 : Base64) {first second : List Char}
    (differ : code first ≠ code second) :
    Reordering.Commute (applySegment base64) first second := by
  intro start middle result firstApplied secondApplied
  obtain ⟨byFirst, firstAlone, rfl⟩ := (applySegment_ok_iff ..).mp firstApplied
  obtain ⟨bySecond, secondAlone, rfl⟩ := (applySegment_ok_iff ..).mp secondApplied
  refine ⟨Scan.overlay (writes second) bySecond start, ?_, ?_⟩
  · exact (applySegment_ok_iff ..).mpr ⟨bySecond, secondAlone, rfl⟩
  · apply (applySegment_ok_iff ..).mpr
    refine ⟨byFirst, firstAlone, ?_⟩
    exact Scan.overlay_comm (writes_disjoint differ.symm) bySecond byFirst start

/-- The segments in another order, those of one code among themselves in the same. -/
abbrev Reordered (segments permuted : List (List Char)) : Prop :=
  Reordering.KeepsOrder code segments permuted

/-- A request means the same in every order of its segments that keeps those of one code
in theirs. -/
theorem parse_reordered (base64 : Base64) {segments permuted : List (List Char)}
    {opts : ProcessingOptions} (reordered : Reordered segments permuted)
    (accepted : ProcessingOptions.parse base64 segments = .ok opts) :
    ProcessingOptions.parse base64 permuted = .ok opts := by
  unfold ProcessingOptions.parse scanSegments at accepted ⊢
  cases scanned : segments.foldlM (applySegment base64) .initial with
  | error error =>
      rw [scanned] at accepted
      cases accepted
  | ok scan =>
      have same := Reordering.foldlM_keepsOrder
        (fun _ _ differ => applySegment_commute base64 differ) reordered scanned
      rw [same, ← scanned]
      exact accepted

/-- A crop before the gravity it takes over, two qualities of which the last one counts, and
the same request told in another order. -/
theorem parse_reordered_crop :
    ProcessingOptions.parse .urlSafeNoPad
        ["q:10".toList, "gr:no".toList, "q:80".toList, "c:40:30".toList] =
      .ok { ProcessingOptions.default with
        quality := some 80
        gravity := .north
        crop := some ⟨.absolute 40, .absolute 30, .north⟩ } :=
  parse_reordered .urlSafeNoPad
    (show Reordered ["c:40:30".toList, "q:10".toList, "q:80".toList, "gr:no".toList] _ from
      .of_keys (by decide) (by decide))
    (by decide +kernel)

end Url

end ImageResizer
