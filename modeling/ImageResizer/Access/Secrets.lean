import ImageResizer.Foundation.FailingSide
import ImageResizer.Foundation.UrlCoding
import ImageResizer.KeyCompleteness
import ImageResizer.Url.Options

/-!
# Secrets in the environment

`decode_hex_env` of `modules/signing/config.rs`: the variables that hold secrets are
hexadecimal, and whatever does not spell bytes is refused under the name of its variable.
-/

namespace ImageResizer

open Text

/-- `hex_nibble`. -/
def hexNibble (b : UInt8) : Option UInt8 :=
  if 48 ≤ b ∧ b ≤ 57 then some (b - 48)
  else if 97 ≤ b ∧ b ≤ 102 then some (b - 97 + 10)
  else if 65 ≤ b ∧ b ≤ 70 then some (b - 65 + 10)
  else none

/-- A nibble of the variable of this name. -/
def requiredNibble (name : String) (b : UInt8) : Except Message UInt8 :=
  match hexNibble b with
  | some nibble => .ok nibble
  | none =>
      .error [.text name, .text " contains a non-hex character: ", .debug [Char.ofNat b.toNat]]

/-- The loop of `decode_hex_env`, over pairs of bytes. -/
def decodeHexPairs (name : String) : List UInt8 → Except Message (List UInt8)
  | first :: second :: rest => do
      let hi ← requiredNibble name first
      let lo ← requiredNibble name second
      let bytes ← decodeHexPairs name rest
      return (hi <<< 4 ||| lo) :: bytes
  | _ => .ok []

def decodeHexEnv (name : String) (raw : Option (List Char)) : Except Message (List UInt8) :=
  match raw.filter (· ≠ []) with
  | none => .ok []
  | some text =>
      let bytes := encodeUtf8 text
      if bytes.length % 2 ≠ 0 then
        .error [.text name, .text " must be an even-length hex string, got ",
          .integer bytes.length, .text " chars"]
      else decodeHexPairs name bytes

/-- The characters of bytes that are ASCII. -/
def asciiText (bytes : List UInt8) : List Char := bytes.map fun b => Char.ofNat b.toNat

/-- The text is a hexadecimal spelling of the bytes, in letters of either case. -/
def Spells (text : List Char) (bytes : List UInt8) : Prop :=
  text.map Char.toLower = (lowerHex bytes).toList

instance (text : List Char) (bytes : List UInt8) : Decidable (Spells text bytes) :=
  inferInstanceAs (Decidable (_ = _))

theorem Spells.unique {text : List Char} {bytes other : List UInt8} (first : Spells text bytes)
    (second : Spells text other) : bytes = other :=
  lowerHex_injective (String.toList_inj.mp (first.symm.trans second))

theorem hexNibble_small : ∀ n < 256, ∀ nibble,
    hexNibble (UInt8.ofNat n) = some nibble → n < 128 ∧ nibble.toNat < 16 ∧
      (Char.ofNat n).toLower = lowerHexDigit nibble.toNat := by
  have all : ∀ n < 256, (hexNibble (UInt8.ofNat n)).all fun nibble =>
      n < 128 ∧ nibble.toNat < 16 ∧ (Char.ofNat n).toLower = lowerHexDigit nibble.toNat := by
    decide +kernel
  intro n bound nibble found
  have one := all n bound
  rw [found] at one
  exact of_decide_eq_true one

theorem hexNibble_of_digit : ∀ n < 128, ∀ digit < 16,
    (Char.ofNat n).toLower = lowerHexDigit digit →
      hexNibble (UInt8.ofNat n) = some (UInt8.ofNat digit) := by
  decide +kernel

theorem joined_nibbles : ∀ hi < 16, ∀ lo < 16,
    (UInt8.ofNat hi <<< 4 ||| UInt8.ofNat lo).toNat = 16 * hi + lo := by
  decide +kernel

theorem lowerHex_cons (byte : UInt8) (bytes : List UInt8) :
    (lowerHex (byte :: bytes)).toList =
      lowerHexDigit (byte.toNat / 16) :: lowerHexDigit (byte.toNat % 16) ::
        (lowerHex bytes).toList := by
  simp [lowerHex]

theorem hexNibble_eq_some_iff {b nibble : UInt8} :
    hexNibble b = some nibble ↔
      b.toNat < 128 ∧ nibble.toNat < 16 ∧
        (Char.ofNat b.toNat).toLower = lowerHexDigit nibble.toNat := by
  constructor
  · intro found
    exact hexNibble_small b.toNat b.toNat_lt nibble (by rwa [UInt8.ofNat_toNat])
  · rintro ⟨ascii, small, same⟩
    have found := hexNibble_of_digit b.toNat ascii nibble.toNat small same
    rwa [UInt8.ofNat_toNat, UInt8.ofNat_toNat] at found

theorem requiredNibble_ok_iff {name : String} {b nibble : UInt8} :
    requiredNibble name b = .ok nibble ↔ hexNibble b = some nibble := by
  rw [requiredNibble]
  cases hexNibble b <;> simp

theorem toNat_joined {hi lo : UInt8} (high : hi.toNat < 16) (low : lo.toNat < 16) :
    (hi <<< 4 ||| lo).toNat = 16 * hi.toNat + lo.toNat := by
  have joined := joined_nibbles hi.toNat high lo.toNat low
  rwa [UInt8.ofNat_toNat, UInt8.ofNat_toNat] at joined

/-- An even number of bytes decodes exactly when they are ASCII and spell the result. -/
theorem decodeHexPairs_ok_iff (name : String) : ∀ bytes out : List UInt8,
    (decodeHexPairs name bytes = .ok out ∧ bytes.length % 2 = 0) ↔
      (∀ b ∈ bytes, b.toNat < 128) ∧ Spells (asciiText bytes) out
  | [], out => by
      have empty : Spells [] out ↔ out = [] := by
        cases out with
        | nil => simp [Spells, lowerHex]
        | cons byte rest => simp [Spells, lowerHex_cons]
      rw [asciiText, List.map_nil, empty]
      simp [decodeHexPairs, eq_comm]
  | [b], out => by
      have odd : ¬ Spells (asciiText [b]) out := by
        intro spells
        have length := congrArg List.length spells
        rw [length_lowerHex] at length
        simp only [asciiText, List.length_map, List.length_singleton] at length
        omega
      simp [odd]
  | first :: second :: rest, out => by
      have tail := decodeHexPairs_ok_iff name rest
      simp only [List.length_cons, List.forall_mem_cons, asciiText, List.map_cons]
      constructor
      · rintro ⟨decoded, even⟩
        rw [decodeHexPairs] at decoded
        obtain ⟨hi, hiOk, decoded⟩ := (Outcome.bind_ok_iff ..).mp decoded
        obtain ⟨lo, loOk, decoded⟩ := (Outcome.bind_ok_iff ..).mp decoded
        obtain ⟨bytes, bytesOk, made⟩ := (Outcome.bind_ok_iff ..).mp decoded
        obtain rfl := Except.ok.inj made
        obtain ⟨hiAscii, hiSmall, hiSame⟩ :=
          hexNibble_eq_some_iff.mp (requiredNibble_ok_iff.mp hiOk)
        obtain ⟨loAscii, loSmall, loSame⟩ :=
          hexNibble_eq_some_iff.mp (requiredNibble_ok_iff.mp loOk)
        obtain ⟨ascii, spells⟩ := (tail bytes).mp ⟨bytesOk, by omega⟩
        refine ⟨⟨hiAscii, loAscii, ascii⟩, ?_⟩
        rw [Spells, lowerHex_cons, toNat_joined hiSmall loSmall, List.map_cons, List.map_cons,
          hiSame, loSame]
        have high : (16 * hi.toNat + lo.toNat) / 16 = hi.toNat := by omega
        have low : (16 * hi.toNat + lo.toNat) % 16 = lo.toNat := by omega
        rw [high, low]
        exact congrArg _ (congrArg _ spells)
      · rintro ⟨⟨hiAscii, loAscii, ascii⟩, spells⟩
        cases out with
        | nil => simp [Spells, lowerHex] at spells
        | cons byte bytes =>
            rw [Spells, lowerHex_cons, List.map_cons, List.map_cons, List.cons.injEq,
              List.cons.injEq] at spells
            obtain ⟨hiSame, loSame, rest⟩ := spells
            have bound := byte.toNat_lt
            have hiOk := hexNibble_of_digit first.toNat hiAscii (byte.toNat / 16) (by omega) hiSame
            have loOk := hexNibble_of_digit second.toNat loAscii (byte.toNat % 16) (by omega) loSame
            rw [UInt8.ofNat_toNat] at hiOk loOk
            obtain ⟨bytesOk, even⟩ := (tail bytes).mpr ⟨ascii, rest⟩
            refine ⟨?_, by omega⟩
            rw [decodeHexPairs]
            refine (Outcome.bind_ok_iff ..).mpr ⟨_, requiredNibble_ok_iff.mpr hiOk, ?_⟩
            refine (Outcome.bind_ok_iff ..).mpr ⟨_, requiredNibble_ok_iff.mpr loOk, ?_⟩
            refine (Outcome.bind_ok_iff ..).mpr ⟨_, bytesOk, ?_⟩
            have joined := joined_nibbles (byte.toNat / 16) (by omega) (byte.toNat % 16) (by omega)
            have same : UInt8.ofNat (byte.toNat / 16) <<< 4 ||| UInt8.ofNat (byte.toNat % 16) =
                byte := UInt8.toNat_inj.mp (by omega)
            rw [same]
            rfl

/-- ASCII bytes are the encoding of their characters. -/
theorem encodeUtf8_asciiText {bytes : List UInt8} (ascii : ∀ b ∈ bytes, b.toNat < 128) :
    encodeUtf8 (asciiText bytes) = bytes := by
  induction bytes with
  | nil => rfl
  | cons b rest ih =>
      obtain ⟨bAscii, restAscii⟩ := List.forall_mem_cons.mp ascii
      have valid : (Char.ofNat b.toNat).toNat = b.toNat := by
        rw [Char.toNat_ofNat, if_pos (.inl (by omega))]
      rw [asciiText, List.map_cons, encodeUtf8, List.flatMap_cons,
        PercentCoding.utf8EncodeChar_ascii (by omega), valid, UInt8.ofNat_toNat]
      exact congrArg (b :: ·) (ih restAscii)

theorem encodeUtf8_injective {text other : List Char} (same : encodeUtf8 text = encodeUtf8 other) :
    text = other :=
  Option.some.inj (by rw [← decodeUtf8_encodeUtf8, same, decodeUtf8_encodeUtf8])

/-- Characters with the lower case of a digit are ASCII. -/
theorem ascii_of_spells {text : List Char} {bytes : List UInt8} (spells : Spells text bytes) :
    ∀ c ∈ text, c.toNat < 128 := by
  intro c member
  by_cases upper : c.isUpper
  case pos =>
      simp only [Char.isUpper, ge_iff_le, decide_eq_true_eq, UInt32.le_iff_toNat_le] at upper
      change c.val.toNat < 128
      have bound : c.val.toNat ≤ 90 := upper.2
      omega
  case neg =>
      have hex : Storage.isLowerHex c.toLower = true :=
        List.all_eq_true.mp (lowerHex_hex bytes) _ (spells ▸ List.mem_map_of_mem member)
      have bounds := Storage.isLowerHex_bounds hex
      rw [Char.toLower_eq_of_not_isUpper upper] at bounds
      omega

theorem encodeUtf8_ascii {text : List Char} (ascii : ∀ c ∈ text, c.toNat < 128) :
    encodeUtf8 text = text.map fun c => UInt8.ofNat c.toNat := by
  rw [encodeUtf8, List.map_eq_flatMap]
  exact List.flatMap_congr fun c member => PercentCoding.utf8EncodeChar_ascii (ascii c member)

theorem asciiText_encodeUtf8 {text : List Char} (ascii : ∀ c ∈ text, c.toNat < 128) :
    (∀ b ∈ encodeUtf8 text, b.toNat < 128) ∧ asciiText (encodeUtf8 text) = text := by
  have small : ∀ c ∈ text, (UInt8.ofNat c.toNat).toNat = c.toNat := fun c member =>
    UInt8.toNat_ofNat_of_lt' ((ascii c member).trans (by decide))
  rw [encodeUtf8_ascii ascii]
  constructor
  · intro b member
    obtain ⟨c, own, rfl⟩ := List.mem_map.mp member
    rw [small c own]
    exact ascii c own
  · rw [asciiText, List.map_map]
    refine (List.map_congr_left fun c member => ?_).trans text.map_id
    rw [Function.comp_apply, small c member, Char.ofNat_toNat]
    rfl

/-- **Secrets are hexadecimal.**  A variable decodes to bytes exactly when it spells them in
hexadecimal, in letters of either case; an unset one to none at all. -/
theorem decodeHexEnv_ok_iff (name : String) (raw : Option (List Char)) (bytes : List UInt8) :
    decodeHexEnv name raw = .ok bytes ↔ Spells (raw.getD []) bytes := by
  have pairs (text : List Char) :
      (decodeHexPairs name (encodeUtf8 text) = .ok bytes ∧ (encodeUtf8 text).length % 2 = 0) ↔
        Spells text bytes := by
    rw [decodeHexPairs_ok_iff]
    constructor
    · rintro ⟨ascii, spells⟩
      have same : asciiText (encodeUtf8 text) = text :=
        encodeUtf8_injective (encodeUtf8_asciiText ascii)
      rwa [same] at spells
    · intro spells
      obtain ⟨ascii, same⟩ := asciiText_encodeUtf8 (ascii_of_spells spells)
      exact ⟨ascii, same.symm ▸ spells⟩
  cases raw with
  | none =>
      rw [← pairs]
      simp [decodeHexEnv, encodeUtf8, decodeHexPairs]
  | some text =>
      rw [Option.getD_some, ← pairs]
      cases text with
      | nil => exact (and_iff_left rfl).symm
      | cons first rest =>
          change (if _ then _ else _) = _ ↔ _
          by_cases even : (encodeUtf8 (first :: rest)).length % 2 = 0
          · rw [if_neg (by simpa using even)]
            exact (and_iff_left even).symm
          · rw [if_pos (by simpa using even)]
            simp [even]

/-- The error begins with the name of the variable. -/
abbrev Names (name : String) (outcome : Except Message (List UInt8)) : Prop :=
  FailingSide.Fails outcome fun message => ∃ reason, message = .text name :: reason

theorem decodeHexPairs_names (name : String) (bytes : List UInt8) :
    Names name (decodeHexPairs name bytes) := by
  have nibble (b : UInt8) : FailingSide.Fails (requiredNibble name b)
      fun message => ∃ reason, message = .text name :: reason := by
    rw [requiredNibble]
    cases hexNibble b with
    | none => exact (FailingSide.fails_error_iff _).mpr ⟨_, rfl⟩
    | some value => exact FailingSide.fails_ok _
  fun_induction decodeHexPairs name bytes with
  | case1 first second rest ih =>
      refine (FailingSide.fails_bind_of (nibble first)).mpr fun hi _ => ?_
      refine (FailingSide.fails_bind_of (nibble second)).mpr fun lo _ => ?_
      exact (FailingSide.fails_bind_of ih).mpr fun _ _ => FailingSide.fails_ok _
  | case2 => exact FailingSide.fails_ok _

/-- Whatever is wrong with a secret, the error begins with the name of its variable. -/
theorem decodeHexEnv_names (name : String) (raw : Option (List Char)) :
    Names name (decodeHexEnv name raw) := by
  unfold decodeHexEnv
  split
  case h_1 => exact FailingSide.fails_ok _
  case h_2 =>
      dsimp only
      split
      case isTrue => exact (FailingSide.fails_error_iff _).mpr ⟨_, rfl⟩
      case isFalse => exact decodeHexPairs_names name _

end ImageResizer
