import ImageResizer.Foundation.NumeralRange
import ImageResizer.Url.OrderFree

/-!
# The numbers of a request

Every floating-point option holds what the last numeral given for it reads as, or its
default.  The range checks of the grammar hold of every accepted request, except that
`parse_float` takes NaN and infinities too: a request has finite numbers only if each of
those last numerals reads as one.
-/

namespace ImageResizer

/-- `(0.0..=1.0).contains` on both coordinates of a focus point. -/
def Gravity.Within : Gravity → Prop
  | .focusPoint x y => x.value.withinUnit = true ∧ y.value.withinUnit = true
  | _ => True

/-- A relative crop dimension is a number strictly between zero and one. -/
def CropDimension.Within : CropDimension → Prop
  | .relative fraction =>
      fraction.value.isFinite = true ∧ fraction.value.isPositive = true ∧
        fraction.value.less (.ofNat 1) = true
  | _ => True

namespace Url

section Reading

variable {args : List (List Char)} {segment raw : List Char} {α β : Type}

theorem requireArgs_one_ok_iff (given : Fin 1 → List Char) :
    requireArgs 1 args segment = .ok given ↔ args = [given 0] := by
  unfold requireArgs
  split
  case isTrue exact =>
      obtain ⟨only, rfl⟩ := List.length_eq_one_iff.mp exact
      constructor
      · intro same
        obtain rfl := Except.ok.inj same
        rfl
      · intro same
        apply congrArg Except.ok
        funext i
        obtain rfl := Fin.eq_zero i
        exact (List.cons.inj same).1
  case isFalse other =>
      constructor
      · intro failed
        cases failed
      · intro same
        exact absurd (congrArg List.length same) other

theorem parseFloat_ok_iff (value : F32) :
    parseFloat raw segment = .ok value ↔ F32.parse raw = some value := by
  unfold parseFloat
  cases F32.parse raw with
  | none => exact iff_of_false (fun failed => by cases failed) (fun absent => by cases absent)
  | some found =>
      constructor
      · intro same
        exact congrArg some (Except.ok.inj same)
      · intro same
        exact congrArg Except.ok (Option.some.inj same)

theorem require_ok_iff (condition : Bool) (reason : Message) (result : Unit) :
    require condition segment reason = .ok result ↔ condition = true := by
  cases condition with
  | true => exact iff_of_true rfl rfl
  | false => exact iff_of_false (fun failed => by cases failed) Bool.false_ne_true

theorem optional_ok_iff (read : List Char → Parsed α) (found : Option (List Char))
    (value : Option α) :
    optional read found = .ok value ↔
      (found = none ∧ value = none) ∨
        ∃ raw result, found = some raw ∧ read raw = .ok result ∧ value = some result := by
  cases found with
  | none => simp [optional, eq_comm]
  | some raw =>
      cases result : read raw with
      | error error => simp [optional, result]
      | ok held => simp [optional, result, eq_comm]

theorem parse_nil : F32.parse [] = none := by decide

/-- A numeral that can be read fills its slot. -/
theorem slot_of_parse {index : Nat} {value : F32} (stands : args[index]? = some raw)
    (parsed : F32.parse raw = some value) : slot args index = some raw := by
  have filled : raw ≠ [] := by
    rintro rfl
    rw [parse_nil] at parsed
    cases parsed
  rw [slot, stands, Option.filter_some, if_pos (decide_eq_true filled)]

theorem getElem?_zero_of_ne_nil (present : args ≠ []) : args[0]? = some (args.headD []) := by
  cases args with
  | nil => exact absurd rfl present
  | cons first rest => rfl

end Reading

/-- The single-precision number an option holds. -/
def number (opts : ProcessingOptions) : OptionField → Option F32
  | .blurSigma => opts.blurSigma
  | .trim => opts.trim.map (·.threshold)
  | .zoomX => some opts.zoomX
  | .zoomY => some opts.zoomY
  | .dpr => some opts.dpr
  | .watermarkOpacity => opts.watermarkOpacity
  | .watermarkXOffset => some opts.watermarkXOffset
  | .watermarkYOffset => some opts.watermarkYOffset
  | .watermarkScale => some opts.watermarkScale
  | .watermarkRotate => some opts.watermarkRotate
  | .watermarkShadow => opts.watermarkShadow
  | _ => none

/-- The numeral for an option among the arguments of its segment.  One zoom factor stands
for both. -/
def numeralAmong (args : List (List Char)) : OptionField → Option (List Char)
  | .blurSigma | .trim | .zoomX | .dpr | .watermarkOpacity | .watermarkRotate
  | .watermarkShadow => slot args 0
  | .zoomY => slot args 1 <|> slot args 0
  | .watermarkXOffset => slot args 2
  | .watermarkYOffset => slot args 3
  | .watermarkScale => slot args 4
  | _ => none

/-- The numeral a segment gives for an option. -/
def numeral (segment : List Char) (field : OptionField) : Option (List Char) :=
  if field.writer = String.ofList (code segment) then numeralAmong (arguments segment) field
  else none

/-- The last numeral given for an option. -/
def lastNumeral (segments : List (List Char)) (field : OptionField) : Option (List Char) :=
  (segments.filterMap (numeral · field)).getLast?

/-- What an option holds after a numeral was given for it, or none was. -/
inductive Reads : Option (List Char) → Option F32 → Option F32 → Prop where
  | kept (value : Option F32) : Reads none value value
  | read {raw : List Char} {value : F32} (before : Option F32) :
      F32.parse raw = some value → Reads (some raw) before (some value)

theorem Reads.trans {first second : Option (List Char)} {start middle result : Option F32}
    (earlier : Reads first start middle) (later : Reads second middle result) :
    Reads (second.or first) start result := by
  cases later with
  | kept => exact earlier
  | read _ parsed => exact .read start parsed

section Step

variable {base64 : Base64} {segment : List Char} {scan next : Scan}

/-- A segment leaves the options of other codes alone. -/
theorem unwritten {field : OptionField} (other : field.writer ≠ String.ofList (code segment)) :
    writes segment field = false :=
  Bool.eq_false_iff.mpr fun written => other (writer_of_writes written)

theorem number_overlay (mask : OptionField → Bool) (top bottom : Scan) (field : OptionField) :
    number (Scan.overlay mask top bottom).opts field =
      bif mask field then number top.opts field else number bottom.opts field := by
  cases covered : mask field with
  | true => cases field <;> simp only [number, Scan.overlay, covered, cond_true]
  | false => cases field <;> simp only [number, Scan.overlay, covered, cond_false]

/-- An option with a single argument that is a number. -/
theorem single_number {read : List Char → List Char → Parsed F32}
    {change : F32 → ProcessingOptions → ProcessingOptions}
    (reads : ∀ raw value, read raw segment = .ok value → F32.parse raw = some value)
    (applied : (do
        let given ← requireArgs 1 (arguments segment) segment
        let value ← read (given 0) segment
        return scan.update (change value) : Parsed Scan) = .ok next) :
    ∃ raw value, slot (arguments segment) 0 = some raw ∧ read raw segment = .ok value ∧
      F32.parse raw = some value ∧ next = scan.update (change value) := by
  obtain ⟨given, single, applied⟩ := (Outcome.bind_ok_iff _ _ _).mp applied
  obtain ⟨value, valueRead, applied⟩ := (Outcome.bind_ok_iff _ _ _).mp applied
  obtain rfl := Except.ok.inj applied
  have stands : (arguments segment)[0]? = some (given 0) := by
    rw [(requireArgs_one_ok_iff given).mp single]
    rfl
  have parsed := reads _ value valueRead
  exact ⟨given 0, value, slot_of_parse stands parsed, valueRead, parsed, rfl⟩

theorem parsePositiveNonzeroFloat_ok {raw : List Char} {value : F32}
    (parsed : parsePositiveNonzeroFloat raw segment = .ok value) :
    F32.parse raw = some value ∧ value.value.isPositive = true := by
  obtain ⟨found, read, parsed⟩ := (Outcome.bind_ok_iff _ _ _).mp parsed
  obtain ⟨_, positive, parsed⟩ := (Outcome.bind_ok_iff _ _ _).mp parsed
  obtain rfl := Except.ok.inj parsed
  exact ⟨(parseFloat_ok_iff found).mp read, (require_ok_iff ..).mp positive⟩

/-- The numbers a segment does not write are what they were. -/
theorem number_kept {field : OptionField}
    (applied : applySegment base64 scan segment = .ok next)
    (unwritten : writes segment field = false) :
    number next.opts field = number scan.opts field := by
  obtain ⟨written, _, rfl⟩ := (applySegment_ok_iff ..).mp applied
  rw [number_overlay, unwritten, cond_false]

theorem parseTrim_ok {trim : TrimOptions}
    (parsed : parseTrim (arguments segment) segment = .ok trim) :
    ∃ raw, slot (arguments segment) 0 = some raw ∧ F32.parse raw = some trim.threshold ∧
      trim.threshold.value.less (.ofNat 0) = false := by
  obtain ⟨_, some, parsed⟩ := (Outcome.bind_ok_iff _ _ _).mp parsed
  obtain ⟨_, _, parsed⟩ := (Outcome.bind_ok_iff _ _ _).mp parsed
  obtain ⟨threshold, read, parsed⟩ := (Outcome.bind_ok_iff _ _ _).mp parsed
  obtain ⟨_, checked, parsed⟩ := (Outcome.bind_ok_iff _ _ _).mp parsed
  obtain ⟨color, _, parsed⟩ := (Outcome.bind_ok_iff _ _ _).mp parsed
  obtain ⟨equalHor, _, parsed⟩ := (Outcome.bind_ok_iff _ _ _).mp parsed
  obtain ⟨equalVer, _, parsed⟩ := (Outcome.bind_ok_iff _ _ _).mp parsed
  obtain rfl := Except.ok.inj parsed
  have present := (of_decide_eq_true ((require_ok_iff ..).mp some)).1
  have value := (parseFloat_ok_iff threshold).mp read
  refine ⟨_, slot_of_parse (getElem?_zero_of_ne_nil present) value, value, ?_⟩
  have nonnegative := (require_ok_iff ..).mp checked
  exact Bool.not_eq_true' _ |>.mp nonnegative

theorem parseZoom_ok {zoom : F32 × F32}
    (parsed : parseZoom (arguments segment) segment = .ok zoom) :
    (∃ x y, slot (arguments segment) 0 = some x ∧
      (slot (arguments segment) 1 <|> slot (arguments segment) 0) = some y ∧
      F32.parse x = some zoom.1 ∧ F32.parse y = some zoom.2) ∧
      zoom.1.value.isPositive = true ∧ zoom.2.value.isPositive = true := by
  unfold parseZoom at parsed
  split at parsed
  case h_1 only args =>
      cases read : parsePositiveNonzeroFloat only segment with
      | error error =>
          rw [read] at parsed
          cases parsed
      | ok value =>
          rw [read] at parsed
          obtain rfl := Except.ok.inj parsed
          obtain ⟨numeral, positive⟩ := parsePositiveNonzeroFloat_ok read
          have stands : slot [only] 0 = some only := slot_of_parse rfl numeral
          rw [args]
          exact ⟨⟨only, only, stands, stands, numeral, numeral⟩, positive, positive⟩
  case h_2 zoomX zoomY args =>
      obtain ⟨x, readX, parsed⟩ := (Outcome.bind_ok_iff _ _ _).mp parsed
      obtain ⟨y, readY, parsed⟩ := (Outcome.bind_ok_iff _ _ _).mp parsed
      obtain rfl := Except.ok.inj parsed
      obtain ⟨numeralX, positiveX⟩ := parsePositiveNonzeroFloat_ok readX
      obtain ⟨numeralY, positiveY⟩ := parsePositiveNonzeroFloat_ok readY
      have standsX : slot [zoomX, zoomY] 0 = some zoomX := slot_of_parse rfl numeralX
      have standsY : slot [zoomX, zoomY] 1 = some zoomY := slot_of_parse rfl numeralY
      rw [args, standsX, standsY]
      exact ⟨⟨zoomX, zoomY, rfl, rfl, numeralX, numeralY⟩, positiveX, positiveY⟩
  case h_3 => cases parsed

/-- A slot of `wm` that holds a number. -/
theorem reads_slot {index : Nat} {found : Option F32} (before : F32)
    (read : optional (parseFloat · segment) (slot (arguments segment) index) = .ok found) :
    Reads (slot (arguments segment) index) (some before) (some (found.getD before)) := by
  rcases (optional_ok_iff ..).mp read with ⟨empty, rfl⟩ | ⟨raw, value, filled, valueRead, rfl⟩
  · rw [empty]
    exact .kept _
  · rw [filled]
    exact .read _ ((parseFloat_ok_iff value).mp valueRead)

theorem parseWatermark_reads
    (applied : parseWatermark (arguments segment) segment scan = .ok next) {field : OptionField}
    (written : field = .watermarkOpacity ∨ field = .watermarkXOffset ∨
      field = .watermarkYOffset ∨ field = .watermarkScale) :
    Reads (numeralAmong (arguments segment) field) (number scan.opts field)
      (number next.opts field) := by
  obtain ⟨_, some, applied⟩ := (Outcome.bind_ok_iff _ _ _).mp applied
  obtain ⟨opacity, read, applied⟩ := (Outcome.bind_ok_iff _ _ _).mp applied
  obtain ⟨position, _, applied⟩ := (Outcome.bind_ok_iff _ _ _).mp applied
  obtain ⟨xOffset, readX, applied⟩ := (Outcome.bind_ok_iff _ _ _).mp applied
  obtain ⟨yOffset, readY, applied⟩ := (Outcome.bind_ok_iff _ _ _).mp applied
  obtain ⟨scale, readScale, applied⟩ := (Outcome.bind_ok_iff _ _ _).mp applied
  obtain rfl := Except.ok.inj applied
  rcases written with rfl | rfl | rfl | rfl
  · have present := (of_decide_eq_true ((require_ok_iff ..).mp some)).1
    have value := (parseFloat_ok_iff opacity).mp read
    have stands := slot_of_parse (getElem?_zero_of_ne_nil present) value
    rw [numeralAmong, stands]
    exact .read _ value
  · exact reads_slot _ readX
  · exact reads_slot _ readY
  · exact reads_slot _ readScale

/-- What a segment does to the numbers: the one it gives a numeral for becomes what the
numeral reads as. -/
theorem applySegment_reads (applied : applySegment base64 scan segment = .ok next)
    (field : OptionField) :
    Reads (numeral segment field) (number scan.opts field) (number next.opts field) := by
  by_cases other : field.writer ≠ String.ofList (code segment)
  · rw [numeral, if_neg other, number_kept applied (unwritten other)]
    exact .kept _
  have same := not_not.mp other
  rw [numeral, if_pos same]
  unfold applySegment at applied
  rw [← same] at applied
  cases field
  case blurSigma | watermarkRotate | watermarkShadow =>
      simp only [OptionField.writer] at applied
      obtain ⟨raw, value, stands, _, parsed, rfl⟩ :=
        single_number (fun raw value => (parseFloat_ok_iff value).mp) applied
      rw [numeralAmong, stands]
      exact .read _ parsed
  case dpr =>
      simp only [OptionField.writer] at applied
      obtain ⟨raw, value, stands, _, parsed, rfl⟩ :=
        single_number (fun raw value read => (parsePositiveNonzeroFloat_ok read).1) applied
      rw [numeralAmong, stands]
      exact .read _ parsed
  case trim =>
      simp only [OptionField.writer] at applied
      obtain ⟨trim, read, applied⟩ := (Outcome.bind_ok_iff _ _ _).mp applied
      obtain rfl := Except.ok.inj applied
      obtain ⟨raw, stands, parsed, _⟩ := parseTrim_ok read
      rw [numeralAmong, stands]
      exact .read _ parsed
  case zoomX =>
      simp only [OptionField.writer] at applied
      obtain ⟨zoom, read, applied⟩ := (Outcome.bind_ok_iff _ _ _).mp applied
      obtain rfl := Except.ok.inj applied
      obtain ⟨⟨x, _, stands, _, parsed, _⟩, _⟩ := parseZoom_ok read
      rw [numeralAmong, stands]
      exact .read _ parsed
  case zoomY =>
      simp only [OptionField.writer] at applied
      obtain ⟨zoom, read, applied⟩ := (Outcome.bind_ok_iff _ _ _).mp applied
      obtain rfl := Except.ok.inj applied
      obtain ⟨⟨_, y, _, stands, _, parsed⟩, _⟩ := parseZoom_ok read
      rw [numeralAmong, stands]
      exact .read _ parsed
  case watermarkOpacity | watermarkXOffset | watermarkYOffset | watermarkScale =>
      simp only [OptionField.writer] at applied
      apply parseWatermark_reads applied
      decide
  all_goals exact .kept none

end Step

section Run

variable {base64 : Base64} {segments : List (List Char)} {start result : Scan}

theorem lastNumeral_cons (segment : List Char) (segments : List (List Char))
    (field : OptionField) :
    lastNumeral (segment :: segments) field =
      (lastNumeral segments field).or (numeral segment field) := by
  rw [lastNumeral, lastNumeral, List.filterMap_cons]
  cases numeral segment field with
  | none => rw [Option.or_none]
  | some raw =>
      rw [List.getLast?_cons]
      cases (segments.filterMap (numeral · field)).getLast? with
      | none => rfl
      | some later => rfl

/-- Every number is what the last numeral given for it reads as. -/
theorem foldlM_reads (scanned : segments.foldlM (applySegment base64) start = .ok result)
    (field : OptionField) :
    Reads (lastNumeral segments field) (number start.opts field) (number result.opts field) := by
  induction segments generalizing start with
  | nil =>
      obtain rfl := Except.ok.inj scanned
      exact .kept _
  | cons segment segments ih =>
      rw [List.foldlM_cons] at scanned
      obtain ⟨next, applied, rest⟩ := (Outcome.bind_ok_iff _ _ _).mp scanned
      rw [lastNumeral_cons]
      exact (applySegment_reads applied field).trans (ih rest)

end Run

/-! ## The checks of the grammar -/

section Checks

variable {base64 : Base64} {segment raw : List Char} {scan next : Scan}

theorem parseFocusPoint_within {x y : List Char} {gravity : Gravity}
    (parsed : parseFocusPoint x y segment = .ok gravity) : gravity.Within := by
  obtain ⟨x, _, parsed⟩ := (Outcome.bind_ok_iff _ _ _).mp parsed
  obtain ⟨y, _, parsed⟩ := (Outcome.bind_ok_iff _ _ _).mp parsed
  obtain ⟨_, checked, parsed⟩ := (Outcome.bind_ok_iff _ _ _).mp parsed
  obtain rfl := Except.ok.inj parsed
  exact Bool.and_eq_true_iff.mp ((require_ok_iff ..).mp checked)

theorem parseGravity_within {tokens : List (List Char)} {gravity : Gravity}
    (parsed : parseGravity tokens segment = .ok gravity) : gravity.Within := by
  unfold parseGravity at parsed
  split at parsed
  case h_1 token =>
      generalize String.ofList token = name at parsed
      split at parsed
      case h_10 => cases parsed
      all_goals
        obtain rfl := Except.ok.inj parsed
        trivial
  case h_2 => exact parseFocusPoint_within parsed
  case h_3 => cases parsed
  case h_4 => cases parsed

theorem parseCropGravity_within {tokens : List (List Char)} {gravity : Option Gravity}
    (parsed : parseCropGravity tokens segment = .ok gravity) :
    ∀ own ∈ gravity, own.Within := by
  unfold parseCropGravity at parsed
  split at parsed
  case isTrue absent =>
      obtain rfl := Except.ok.inj parsed
      intro own member
      cases member
  case isFalse given =>
      cases read : parseGravity tokens segment with
      | error error =>
          rw [read] at parsed
          cases parsed
      | ok own =>
          rw [read] at parsed
          obtain rfl := Except.ok.inj parsed
          intro other member
          obtain rfl := Option.some.inj member
          exact parseGravity_within read

theorem parseCropDimension_within {dimension : CropDimension}
    (parsed : parseCropDimension raw segment = .ok dimension) : dimension.Within := by
  unfold parseCropDimension at parsed
  split at parsed
  case h_1 => cases parsed
  case h_2 fraction read =>
      by_cases refused : (!fraction.value.isFinite || fraction.value.less (.ofNat 0)) = true
      · rw [if_pos refused] at parsed
        cases parsed
      rw [if_neg refused] at parsed
      by_cases zero : (!fraction.value.nonzero) = true
      · rw [if_pos zero] at parsed
        obtain rfl := Except.ok.inj parsed
        trivial
      rw [if_neg zero] at parsed
      by_cases below : fraction.value.less (.ofNat 1) = true
      · rw [if_pos below] at parsed
        obtain rfl := Except.ok.inj parsed
        obtain ⟨finite, notNegative⟩ := Bool.or_eq_false_iff.mp (Bool.eq_false_iff.mpr refused)
        have finite := Bool.not_eq_false' _ |>.mp finite
        have nonzero := Bool.not_eq_false' _ |>.mp (Bool.eq_false_iff.mpr zero)
        exact ⟨finite, FloatVal.isPositive_of_nonzero finite notNegative nonzero, below⟩
      · rw [if_neg below] at parsed
        obtain rfl := Except.ok.inj parsed
        trivial

/-- `0` is not a dimension. -/
theorem parseDimension_nonzero {dimension : Option UInt32}
    (parsed : parseDimension raw segment = .ok dimension) : dimension ≠ some 0 := by
  obtain ⟨value, -, rfl⟩ := (Outcome.map_ok_iff ..).mp parsed
  split
  case isTrue => exact nofun
  case isFalse nonzero => exact fun zero => nonzero (Option.some.inj zero)

/-- The ranges the grammar checks, of what the segments read so far have set. -/
structure InRange (scan : Scan) : Prop where
  zoomX : scan.opts.zoomX.value.isPositive = true
  zoomY : scan.opts.zoomY.value.isPositive = true
  dpr : scan.opts.dpr.value.isPositive = true
  trim : ∀ trim ∈ scan.opts.trim, trim.threshold.value.less (.ofNat 0) = false
  gravity : scan.opts.gravity.Within
  crop : ∀ crop ∈ scan.cropRaw,
    crop.1.Within ∧ crop.2.1.Within ∧ ∀ own ∈ crop.2.2, own.Within

theorem inRange_initial : InRange .initial where
  zoomX := by decide
  zoomY := by decide
  dpr := by decide
  trim := fun _ member => by cases member
  gravity := trivial
  crop := fun _ member => by cases member

section Components

variable (applied : applySegment base64 scan segment = .ok next)

include applied

theorem zoom_inRange (x : scan.opts.zoomX.value.isPositive = true)
    (y : scan.opts.zoomY.value.isPositive = true) :
    next.opts.zoomX.value.isPositive = true ∧ next.opts.zoomY.value.isPositive = true := by
  by_cases other : "z" ≠ String.ofList (code segment)
  · obtain ⟨written, _, rfl⟩ := (applySegment_ok_iff ..).mp applied
    simp only [Scan.overlay, @unwritten segment .zoomX other, @unwritten segment .zoomY other,
      cond_false]
    exact ⟨x, y⟩
  · unfold applySegment at applied
    rw [← not_not.mp other] at applied
    simp only at applied
    obtain ⟨zoom, read, applied⟩ := (Outcome.bind_ok_iff _ _ _).mp applied
    obtain rfl := Except.ok.inj applied
    exact (parseZoom_ok read).2

theorem dpr_inRange (positive : scan.opts.dpr.value.isPositive = true) :
    next.opts.dpr.value.isPositive = true := by
  by_cases other : "dpr" ≠ String.ofList (code segment)
  · obtain ⟨written, _, rfl⟩ := (applySegment_ok_iff ..).mp applied
    simp only [Scan.overlay, @unwritten segment .dpr other, cond_false]
    exact positive
  · unfold applySegment at applied
    rw [← not_not.mp other] at applied
    simp only at applied
    obtain ⟨raw, value, _, read, _, rfl⟩ :=
      single_number (fun raw value read => (parsePositiveNonzeroFloat_ok read).1) applied
    exact (parsePositiveNonzeroFloat_ok read).2

theorem trim_inRange
    (checked : ∀ trim ∈ scan.opts.trim, trim.threshold.value.less (.ofNat 0) = false) :
    ∀ trim ∈ next.opts.trim, trim.threshold.value.less (.ofNat 0) = false := by
  by_cases other : "t" ≠ String.ofList (code segment)
  · obtain ⟨written, _, rfl⟩ := (applySegment_ok_iff ..).mp applied
    simp only [Scan.overlay, @unwritten segment .trim other, cond_false]
    exact checked
  · unfold applySegment at applied
    rw [← not_not.mp other] at applied
    simp only at applied
    obtain ⟨trim, read, applied⟩ := (Outcome.bind_ok_iff _ _ _).mp applied
    obtain rfl := Except.ok.inj applied
    intro given member
    obtain rfl := Option.some.inj member
    obtain ⟨_, _, _, notNegative⟩ := parseTrim_ok read
    exact notNegative

theorem gravity_inRange (within : scan.opts.gravity.Within) : next.opts.gravity.Within := by
  by_cases other : "gr" ≠ String.ofList (code segment)
  · obtain ⟨written, _, rfl⟩ := (applySegment_ok_iff ..).mp applied
    simp only [Scan.overlay, @unwritten segment .gravity other, cond_false]
    exact within
  · unfold applySegment at applied
    rw [← not_not.mp other] at applied
    simp only at applied
    obtain ⟨_, _, applied⟩ := (Outcome.bind_ok_iff _ _ _).mp applied
    obtain ⟨gravity, read, applied⟩ := (Outcome.bind_ok_iff _ _ _).mp applied
    obtain rfl := Except.ok.inj applied
    exact parseGravity_within read

theorem crop_inRange
    (within : ∀ crop ∈ scan.cropRaw,
      crop.1.Within ∧ crop.2.1.Within ∧ ∀ own ∈ crop.2.2, own.Within) :
    ∀ crop ∈ next.cropRaw, crop.1.Within ∧ crop.2.1.Within ∧ ∀ own ∈ crop.2.2, own.Within := by
  by_cases other : "c" ≠ String.ofList (code segment)
  · obtain ⟨written, _, rfl⟩ := (applySegment_ok_iff ..).mp applied
    simp only [Scan.overlay, @unwritten segment .crop other, cond_false]
    exact within
  · unfold applySegment at applied
    rw [← not_not.mp other] at applied
    simp only at applied
    obtain ⟨_, _, applied⟩ := (Outcome.bind_ok_iff _ _ _).mp applied
    obtain ⟨width, readWidth, applied⟩ := (Outcome.bind_ok_iff _ _ _).mp applied
    obtain ⟨height, readHeight, applied⟩ := (Outcome.bind_ok_iff _ _ _).mp applied
    obtain ⟨gravity, readGravity, applied⟩ := (Outcome.bind_ok_iff _ _ _).mp applied
    obtain rfl := Except.ok.inj applied
    intro crop member
    obtain rfl := Option.some.inj member
    exact ⟨parseCropDimension_within readWidth, parseCropDimension_within readHeight,
      parseCropGravity_within readGravity⟩

theorem dimensions_nonzero (given : scan.opts.width ≠ some 0 ∧ scan.opts.height ≠ some 0) :
    next.opts.width ≠ some 0 ∧ next.opts.height ≠ some 0 := by
  by_cases other : "rs" ≠ String.ofList (code segment)
  · obtain ⟨written, _, rfl⟩ := (applySegment_ok_iff ..).mp applied
    simp only [Scan.overlay, @unwritten segment .width other, @unwritten segment .height other,
      cond_false]
    exact given
  · unfold applySegment at applied
    rw [← not_not.mp other] at applied
    simp only at applied
    obtain ⟨_, _, applied⟩ := (Outcome.bind_ok_iff _ _ _).mp applied
    obtain ⟨_, _, applied⟩ := (Outcome.bind_ok_iff _ _ _).mp applied
    obtain ⟨width, readWidth, applied⟩ := (Outcome.bind_ok_iff _ _ _).mp applied
    obtain ⟨height, readHeight, applied⟩ := (Outcome.bind_ok_iff _ _ _).mp applied
    obtain rfl := Except.ok.inj applied
    exact ⟨parseDimension_nonzero readWidth, parseDimension_nonzero readHeight⟩

theorem InRange.step (checked : InRange scan) : InRange next where
  zoomX := (zoom_inRange applied checked.zoomX checked.zoomY).1
  zoomY := (zoom_inRange applied checked.zoomX checked.zoomY).2
  dpr := dpr_inRange applied checked.dpr
  trim := trim_inRange applied checked.trim
  gravity := gravity_inRange applied checked.gravity
  crop := crop_inRange applied checked.crop

end Components

theorem scanSegments_inRange {segments : List (List Char)} {scan : Scan}
    (scanned : scanSegments base64 segments = .ok scan) : InRange scan :=
  Folding.keeps (fun _ _ _ checked applied => checked.step applied) inRange_initial scanned

/-- No accepted request has a width or a height of zero. -/
theorem parse_dimensions_nonzero {segments : List (List Char)} {opts : ProcessingOptions}
    (accepted : ProcessingOptions.parse base64 segments = .ok opts) :
    opts.width ≠ some 0 ∧ opts.height ≠ some 0 := by
  obtain ⟨scan, scanned, rfl⟩ := (Outcome.map_ok_iff ..).mp accepted
  have initial : Scan.initial.opts.width ≠ some 0 ∧ Scan.initial.opts.height ≠ some 0 :=
    ⟨nofun, nofun⟩
  exact Folding.keeps (fun _ _ _ given applied => dimensions_nonzero applied given) initial scanned

end Checks

/-! ## Usable requests -/

/-- Every floating-point option is a finite number in its range. -/
structure Usable (opts : ProcessingOptions) : Prop where
  /-- Blur sigma, trim threshold, zoom, dpr, and the numbers of the watermark. -/
  finite : ∀ field value, number opts field = some value → value.value.isFinite = true
  zoomX : opts.zoomX.value.isPositive = true
  zoomY : opts.zoomY.value.isPositive = true
  dpr : opts.dpr.value.isPositive = true
  trim : ∀ trim ∈ opts.trim, trim.threshold.value.nonnegative = true
  gravity : opts.gravity.Within
  crop : ∀ crop ∈ opts.crop, crop.width.Within ∧ crop.height.Within ∧ crop.gravity.Within

theorem default_finite (field : OptionField) (value : F32)
    (held : number .default field = some value) : value.value.isFinite = true := by
  cases field <;> cases held <;> decide

/-- The crop's late resolution changes none of the numbers. -/
theorem number_finish (scan : Scan) (field : OptionField) :
    number scan.finish field = number scan.opts field := by
  cases field <;> rfl

theorem InRange.usable {scan : Scan} (checked : InRange scan)
    (finite : ∀ field value, number scan.opts field = some value →
      value.value.isFinite = true) : Usable scan.finish where
  finite := fun field value held => finite field value (number_finish scan field ▸ held)
  zoomX := checked.zoomX
  zoomY := checked.zoomY
  dpr := checked.dpr
  trim := by
    intro trim member
    have held : number scan.opts .trim = some trim.threshold :=
      congrArg (Option.map TrimOptions.threshold) member
    exact FloatVal.nonnegative_of_finite (finite .trim _ held) (checked.trim trim member)
  gravity := checked.gravity
  crop := by
    intro crop member
    obtain ⟨⟨width, height, gravity⟩, given, rfl⟩ := Option.map_eq_some_iff.mp member
    obtain ⟨widthWithin, heightWithin, own⟩ := checked.crop _ given
    refine ⟨widthWithin, heightWithin, ?_⟩
    cases gravity with
    | none => exact checked.gravity
    | some gravity => exact own gravity rfl

/-- The numbers of an accepted request are usable exactly when the last numeral given for
each of them is a number that `f32` does not round to an infinity. -/
theorem parse_usable_iff (base64 : Base64) {segments : List (List Char)}
    {opts : ProcessingOptions} (accepted : ProcessingOptions.parse base64 segments = .ok opts) :
    Usable opts ↔
      ∀ field raw, lastNumeral segments field = some raw → F32.readsFinite raw = true := by
  unfold ProcessingOptions.parse at accepted
  cases scanned : scanSegments base64 segments with
  | error error =>
      rw [scanned] at accepted
      cases accepted
  | ok scan =>
      rw [scanned] at accepted
      obtain rfl := Except.ok.inj accepted
      have reads := foldlM_reads scanned
      constructor
      · intro usable field raw last
        have read := reads field
        rw [last] at read
        generalize isHeld : number scan.opts field = held at read
        cases read with
        | read _ parsed =>
            rw [← F32.parse_isFinite_iff parsed]
            exact usable.finite field _ ((number_finish scan field).trans isHeld)
      · intro finite
        apply (scanSegments_inRange scanned).usable
        intro field value held
        have read := reads field
        rw [held] at read
        generalize isLast : lastNumeral segments field = last at read
        generalize isDefault : number Scan.initial.opts field = default at read
        cases read with
        | kept => exact default_finite field value isDefault
        | read _ parsed =>
            rw [F32.parse_isFinite_iff parsed]
            exact finite field _ isLast

/-- An infinite blur that a later segment takes back: only the last numeral counts. -/
theorem parse_usable_overridden :
    Usable { ProcessingOptions.default with
      blurSigma := some (BinaryFloat.ofNat 2 (by decide) (by decide)) } :=
  (parse_usable_iff .urlSafeNoPad
    (show ProcessingOptions.parse .urlSafeNoPad ["bl:inf".toList, "bl:2".toList] = _ from by
      decide +kernel)).mpr fun field raw last => by
        cases field <;> cases last
        decide +kernel

/-- The grammar takes `bl:NaN`, and the request then carries a blur of NaN. -/
theorem parse_accepts_nan :
    ¬ ∀ segments opts, ProcessingOptions.parse .urlSafeNoPad segments = .ok opts → Usable opts := by
  intro always
  have usable := always ["bl:NaN".toList]
    { ProcessingOptions.default with blurSigma := some ⟨.nan, trivial⟩ } (by decide +kernel)
  exact absurd (usable.finite .blurSigma _ rfl) (by decide)

end Url

end ImageResizer
