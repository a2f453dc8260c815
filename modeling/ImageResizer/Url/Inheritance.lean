import ImageResizer.Url.Writes

/-!
# What a request inherits

The `default` preset stands before whatever a request says for itself.  It decides exactly the
options that the request leaves open.
-/

namespace ImageResizer.Url

/-- The options that some of the segments write. -/
def written (segments : List (List Char)) (field : OptionField) : Bool :=
  segments.any (writes · field)

/-- Two lists of segments are read each for itself, and the later one laid over the earlier. -/
theorem scanSegments_append_ok_iff (base64 : Base64) (earlier later : List (List Char))
    (scan : Scan) :
    scanSegments base64 (earlier ++ later) = .ok scan ↔
      ∃ lower upper, scanSegments base64 earlier = .ok lower ∧
        scanSegments base64 later = .ok upper ∧ scan = .overlay (written later) upper lower := by
  unfold scanSegments
  rw [List.foldlM_append, Outcome.bind_ok_iff]
  have layered (lower : Scan) : later.foldlM (applySegment base64) lower = .ok scan ↔
      ∃ upper, later.foldlM (applySegment base64) .initial = .ok upper ∧
        scan = .overlay (written later) upper lower := by
    rw [foldlM_overlay (applySegment_overlay base64) later lower]
    exact (Outcome.map_ok_iff ..).trans
      (exists_congr fun upper => and_congr_right fun _ => eq_comm)
  simp only [layered]
  constructor
  · rintro ⟨lower, below, upper, above, same⟩
    exact ⟨lower, upper, below, above, same⟩
  · rintro ⟨lower, upper, below, above, same⟩
    exact ⟨lower, below, upper, above, same⟩

variable (presets : PresetRegistry) (allowed : AllowedOptions)

/-- What the request says for itself, with the presets that it names spliced in. -/
def SignedRequest.ownSegments (request : SignedRequest) : List (List Char) :=
  request.directSegments.flatMap (substitute presets)

/-- **A request overrides its default preset, option by option.**  It is accepted if and only if
its codes are allowed, its presets known, its source good, and the default preset and its own
segments are each good alone; and then every option that its own segments write has the value
that they give it without the default, and every other one the value of the default alone.
Only the gravity of a crop is taken from the two together. -/
theorem parseWithConfig_inherits (codings : Codings) (request : SignedRequest)
    (result : ParsedRequest) :
    request.parseWithConfig codings presets allowed = .ok result ↔
      (∀ segment ∈ request.directSegments, Accepted presets allowed segment) ∧
        parseSource codings request.sourceSegments = .ok result.source ∧
        ∃ inherited own,
          scanSegments codings.base64 (presets.defaultPreset.getD []) = .ok inherited ∧
          scanSegments codings.base64 (request.ownSegments presets) = .ok own ∧
          result.options =
            (Scan.overlay (written (request.ownSegments presets)) own inherited).finish := by
  have read : ProcessingOptions.parse codings.base64 (request.substituted presets) =
      .ok result.options ↔
      ∃ scan, scanSegments codings.base64 (presets.defaultPreset.getD [] ++
        request.ownSegments presets) = .ok scan ∧ scan.finish = result.options :=
    Outcome.map_ok_iff ..
  rw [parseWithConfig_ok_iff, read]
  simp only [scanSegments_append_ok_iff]
  constructor
  · rintro ⟨accepted, ⟨_, ⟨inherited, own, below, above, rfl⟩, finished⟩, source⟩
    exact ⟨accepted, source, inherited, own, below, above, finished.symm⟩
  · rintro ⟨accepted, source, inherited, own, below, above, finished⟩
    exact ⟨accepted, ⟨_, ⟨inherited, own, below, above, rfl⟩, finished.symm⟩, source⟩

end ImageResizer.Url
