import ImageResizer.Foundation.Text
import ImageResizer.Foundation.Outcome

/-!
# Cache keys as storage names

`services/storage/key_validation.rs`: the check every key passes before it reaches a
backend, and the split of a key into the parts the on-disk layout is made of.  A string
is the list of its characters.
-/

namespace ImageResizer.Storage

open Text

/-- `HASH_LEN`. -/
def hashLen : Nat := 64

/-- `ALLOWED_EXTENSIONS`. -/
def allowedExtensions : List (List Char) :=
  [['j', 'p', 'g'], ['p', 'n', 'g'], ['w', 'e', 'b', 'p'], ['a', 'v', 'i', 'f'], ['g', 'i', 'f']]

/-- `InvalidKeyError`. -/
structure InvalidKeyError where
  key : List Char

def InvalidKeyError.toString (error : InvalidKeyError) : String :=
  "Image not found in storage: " ++ String.ofList error.key

def isControl (c : Char) : Bool := c.toNat < 0x20 || c.toNat == 0x7f

def isLowerHex (c : Char) : Bool := c.isDigit || ('a' ≤ c && c ≤ 'f')

/-- `u8::is_ascii_hexdigit`. -/
def isHexDigit (c : Char) : Bool := isLowerHex c || ('A' ≤ c && c ≤ 'F')

def validateCacheKey (key subPath : List Char) : Except InvalidKeyError Unit :=
  let invalid : Except InvalidKeyError Unit := .error ⟨key⟩
  if key.any isControl then invalid
  else
    match List.dropPrefix? key subPath with
    | none => invalid
    | some rest =>
        match splitOnce '.' rest with
        | none => invalid
        | some (hash, ext) =>
            if utf8Len hash ≠ hashLen ∨ ¬ hash.all isLowerHex then invalid
            else if ext ∉ allowedExtensions then invalid
            else .ok ()

/-- `split_key`: the last 64 bytes before the final dot are the hash.  Slicing inside a
character panics. -/
def splitKey {ε : Type} (key : List Char) :
    Outcome ε (Option (List Char × List Char × List Char)) :=
  match rsplitOnce '.' key with
  | none => .ok none
  | some (beforeExt, ext) =>
      if utf8Len beforeExt < hashLen then .ok none
      else
        match splitAtByte (utf8Len beforeExt - hashLen) beforeExt with
        | none => Outcome.panic
        | some (subPath, hash) => .ok (some (subPath, hash, ext))

/-! ## Valid keys -/

theorem isLowerHex_bounds {c : Char} (hex : isLowerHex c) :
    (48 ≤ c.toNat ∧ c.toNat ≤ 57) ∨ (97 ≤ c.toNat ∧ c.toNat ≤ 102) := by
  simp only [isLowerHex, Bool.or_eq_true, Bool.and_eq_true, decide_eq_true_eq] at hex
  rcases hex with digit | letter
  case inl => exact .inl (isDigit_bounds digit)
  case inr => exact .inr letter

theorem utf8Size_of_isLowerHex {c : Char} (hex : isLowerHex c) : c.utf8Size = 1 := by
  have bounds := isLowerHex_bounds hex
  rw [Char.utf8Size_eq_one_iff, UInt32.le_iff_toNat_le]
  change c.toNat ≤ 127
  omega

theorem dot_not_lowerHex {hash : List Char} (hex : hash.all isLowerHex) : '.' ∉ hash := by
  intro member
  have bounds := isLowerHex_bounds (List.all_eq_true.mp hex _ member)
  simp at bounds

theorem utf8Len_of_lowerHex {hash : List Char} (hex : hash.all isLowerHex) :
    utf8Len hash = hash.length := by
  induction hash with
  | nil => rfl
  | cons c hash ih =>
      rw [List.all_cons, Bool.and_eq_true] at hex
      rw [utf8Len_cons, utf8Size_of_isLowerHex hex.1, ih hex.2, List.length_cons, Nat.add_comm]

theorem dot_not_allowed {ext : List Char} (known : ext ∈ allowedExtensions) : '.' ∉ ext := by
  revert ext
  decide

/-- The parts of a key that passes the check. -/
structure KeyParts (subPath : List Char) where
  hash : List Char
  ext : List Char
  hash_length : hash.length = hashLen
  hash_hex : hash.all isLowerHex
  ext_known : ext ∈ allowedExtensions
  deriving DecidableEq

def KeyParts.text {subPath : List Char} (key : KeyParts subPath) : List Char :=
  subPath ++ (key.hash ++ '.' :: key.ext)

/-- The keys that pass are the sub-path, 64 lower-case hex digits, a dot and a known
extension, without control characters. -/
theorem validateCacheKey_ok_iff {key subPath : List Char} :
    validateCacheKey key subPath = .ok () ↔
      (∃ parts : KeyParts subPath, parts.text = key) ∧ ∀ c ∈ key, isControl c = false := by
  constructor
  · intro valid
    simp only [validateCacheKey] at valid
    split at valid
    case isTrue => cases valid
    case isFalse clean =>
        have noControl : ∀ c ∈ key, isControl c = false := by simpa using clean
        refine ⟨?_, noControl⟩
        split at valid
        case h_1 => cases valid
        case h_2 rest stripped =>
            have keyEq : key = subPath ++ rest := by
              obtain ⟨front, whole, same⟩ := List.dropPrefix?_eq_some_iff.mp stripped
              rw [whole, eq_of_beq same]
            split at valid
            case h_1 => cases valid
            case h_2 hash ext split =>
                obtain ⟨rfl, _⟩ := splitOnce_eq_some_iff.mp split
                split at valid
                case isTrue => cases valid
                case isFalse shape =>
                    simp only [not_or, not_not] at shape
                    split at valid
                    case isTrue => cases valid
                    case isFalse known =>
                        rw [not_not] at known
                        exact ⟨⟨hash, ext, utf8Len_of_lowerHex shape.2 ▸ shape.1, shape.2, known⟩,
                          keyEq.symm⟩
  · rintro ⟨⟨parts, rfl⟩, noControl⟩
    have clean : parts.text.any isControl = false := by simpa using noControl
    have stripped : List.dropPrefix? parts.text subPath =
        some (parts.hash ++ '.' :: parts.ext) :=
      List.dropPrefix?_eq_some_iff.mpr ⟨subPath, rfl, beq_self_eq_true _⟩
    have split : splitOnce '.' (parts.hash ++ '.' :: parts.ext) = some (parts.hash, parts.ext) :=
      splitOnce_eq_some_iff.mpr ⟨rfl, dot_not_lowerHex parts.hash_hex⟩
    have length : utf8Len parts.hash = hashLen := by
      rw [utf8Len_of_lowerHex parts.hash_hex, parts.hash_length]
    simp [validateCacheKey, clean, stripped, split, length, parts.hash_hex, parts.ext_known]

/-- Splitting a valid key finds its parts. -/
theorem splitKey_text {ε : Type} {subPath : List Char} (key : KeyParts subPath) :
    (splitKey key.text : Outcome ε _) = .ok (some (subPath, key.hash, key.ext)) := by
  have atDot : rsplitOnce '.' key.text = some (subPath ++ key.hash, key.ext) :=
    rsplitOnce_eq_some_iff.mpr
      ⟨by rw [KeyParts.text, List.append_assoc], dot_not_allowed key.ext_known⟩
  have hashBytes : utf8Len key.hash = hashLen := by
    rw [utf8Len_of_lowerHex key.hash_hex, key.hash_length]
  have enough : ¬ utf8Len (subPath ++ key.hash) < hashLen := by
    rw [utf8Len_append, hashBytes]
    omega
  have start : utf8Len (subPath ++ key.hash) - hashLen = utf8Len subPath := by
    rw [utf8Len_append, hashBytes]
    omega
  simp only [splitKey, atDot, if_neg enough, start, splitAtByte_utf8Len]

end ImageResizer.Storage
