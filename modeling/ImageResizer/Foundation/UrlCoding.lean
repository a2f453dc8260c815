import ImageResizer.Foundation.Text

/-!
# Codings for texts inside a URL

The two ways a URL carries bytes that its own grammar would misread: unpadded base64 over
the URL-safe alphabet, and percent-encoding.  A coding is a pair of functions with the laws
a reader relies on, so a development can stay generic in the library that supplies it.  Each
comes with an instance that follows its definition.
-/

/-- Unpadded URL-safe base64 with a strict decoder: a byte string has one spelling. -/
structure Base64 where
  encode : List UInt8 → List Char
  decode : List Char → Option (List UInt8)
  decode_eq_some_iff : ∀ text bytes, decode text = some bytes ↔ text = encode bytes
  alphabet : ∀ bytes, ∀ c ∈ encode bytes, c.isAlphanum ∨ c = '-' ∨ c = '_'
  length_encode : ∀ bytes, (encode bytes).length = (4 * bytes.length + 2) / 3

/-- Percent-encoding of strings, `/` kept or not, and its decoder. -/
structure PercentCoding where
  encode : (keepSlashes : Bool) → List Char → List Char
  decode : List Char → Option (List Char)
  decode_encode : ∀ keepSlashes text, decode (encode keepSlashes text) = some text

namespace Base64

theorem decode_encode (base64 : Base64) (bytes : List UInt8) :
    base64.decode (base64.encode bytes) = some bytes :=
  (base64.decode_eq_some_iff _ _).mpr rfl

/-- The separators of a URL path never occur in an encoding. -/
theorem not_mem_encode (base64 : Base64) (bytes : List UInt8) {c : Char}
    (separator : c = '/' ∨ c = '.' ∨ c = ':') : c ∉ base64.encode bytes := by
  intro member
  have allowed := base64.alphabet bytes c member
  rcases separator with rfl | rfl | rfl <;> exact absurd allowed (by decide)

section Groups

/-- The 64 symbols, in order. -/
def symbols : List Char := "ABCDEFGHIJKLMNOPQRSTUVWXYZabcdefghijklmnopqrstuvwxyz0123456789-_".toList

def symbol (sextet : Nat) : Char := symbols.getD sextet 'A'

def sextet? (c : Char) : Option Nat := symbols.idxOf? c

/-- Three bytes make four sextets; a last group of one or two bytes is filled up with zero
bits and drops the sextets that hold nothing else. -/
def sextets : List UInt8 → List Nat
  | [] => []
  | [a] => [a.toNat / 4, a.toNat % 4 * 16]
  | [a, b] => [a.toNat / 4, a.toNat % 4 * 16 + b.toNat / 16, b.toNat % 16 * 4]
  | a :: b :: c :: rest =>
      a.toNat / 4 :: (a.toNat % 4 * 16 + b.toNat / 16) ::
        (b.toNat % 16 * 4 + c.toNat / 64) :: (c.toNat % 64) :: sextets rest

/-- The bits a short last group does not use have to be zero. -/
def decodeSextets : List Nat → Option (List UInt8)
  | [] => some []
  | [_] => none
  | [w, x] => if x % 16 = 0 then some [UInt8.ofNat (w * 4 + x / 16)] else none
  | [w, x, y] =>
      if y % 4 = 0 then some [UInt8.ofNat (w * 4 + x / 16), UInt8.ofNat (x % 16 * 16 + y / 4)]
      else none
  | w :: x :: y :: z :: rest =>
      (decodeSextets rest).map fun bytes =>
        UInt8.ofNat (w * 4 + x / 16) :: UInt8.ofNat (x % 16 * 16 + y / 4) ::
          UInt8.ofNat (y % 4 * 64 + z) :: bytes

def decodeGroups (text : List Char) : Option (List UInt8) := do
  decodeSextets (← text.mapM sextet?)

def encodeGroups (bytes : List UInt8) : List Char := (sextets bytes).map symbol

theorem symbols_nodup : symbols.Nodup := by decide +kernel

theorem symbols_allowed {c : Char} (member : c ∈ symbols) : c.isAlphanum ∨ c = '-' ∨ c = '_' := by
  have every : symbols.all fun c => c.isAlphanum || c == '-' || c == '_' := by decide
  simpa [or_assoc] using List.all_eq_true.mp every c member

theorem symbol_eq_getElem {n : Nat} (small : n < 64) :
    ∃ inBounds : n < symbols.length, symbol n = symbols[n] :=
  ⟨small, List.getD_eq_getElem _ _ small⟩

theorem sextet?_eq_some_iff {c : Char} {n : Nat} :
    sextet? c = some n ↔ n < 64 ∧ symbol n = c := by
  rw [sextet?, List.idxOf?_eq_some_iff]
  constructor
  · rintro ⟨small, found, _⟩
    obtain ⟨_, same⟩ := symbol_eq_getElem small
    exact ⟨small, same.trans found⟩
  · rintro ⟨small, rfl⟩
    obtain ⟨inBounds, same⟩ := symbol_eq_getElem small
    refine ⟨inBounds, same.symm, fun earlier before repeated => ?_⟩
    rw [same] at repeated
    have := symbols_nodup.getElem_inj_iff.mp repeated
    omega

theorem symbol_allowed {n : Nat} (small : n < 64) :
    (symbol n).isAlphanum ∨ symbol n = '-' ∨ symbol n = '_' := by
  obtain ⟨_, same⟩ := symbol_eq_getElem small
  rw [same]
  exact symbols_allowed (List.getElem_mem _)

theorem sextets_small (bytes : List UInt8) : ∀ n ∈ sextets bytes, n < 64 := by
  fun_induction sextets bytes with
  | case1 => exact fun _ member => absurd member List.not_mem_nil
  | case2 a =>
      have := a.toNat_lt
      simp only [List.mem_cons, List.not_mem_nil, or_false, forall_eq_or_imp, forall_eq]
      omega
  | case3 a b =>
      have := a.toNat_lt
      have := b.toNat_lt
      simp only [List.mem_cons, List.not_mem_nil, or_false, forall_eq_or_imp, forall_eq]
      omega
  | case4 a b c rest ih =>
      have := a.toNat_lt
      have := b.toNat_lt
      have := c.toNat_lt
      simp only [List.mem_cons, forall_eq_or_imp]
      exact ⟨by omega, by omega, by omega, by omega, ih⟩

theorem length_sextets (bytes : List UInt8) :
    (sextets bytes).length = (4 * bytes.length + 2) / 3 := by
  fun_induction sextets bytes with
  | case1 => rfl
  | case2 => simp
  | case3 => simp
  | case4 a b c rest ih =>
      simp only [List.length_cons, ih]
      omega

theorem decodeSextets_sextets (bytes : List UInt8) :
    decodeSextets (sextets bytes) = some bytes := by
  fun_induction sextets bytes with
  | case1 => rfl
  | case2 a =>
      have whole : a.toNat / 4 * 4 + a.toNat % 4 * 16 / 16 = a.toNat := by omega
      rw [decodeSextets, if_pos (by omega), whole, UInt8.ofNat_toNat]
  | case3 a b =>
      have := b.toNat_lt
      have first : a.toNat / 4 * 4 + (a.toNat % 4 * 16 + b.toNat / 16) / 16 = a.toNat := by omega
      have second : (a.toNat % 4 * 16 + b.toNat / 16) % 16 * 16 + b.toNat % 16 * 4 / 4 =
          b.toNat := by omega
      rw [decodeSextets, if_pos (by omega), first, second, UInt8.ofNat_toNat, UInt8.ofNat_toNat]
  | case4 a b c rest ih =>
      have := b.toNat_lt
      have := c.toNat_lt
      have first : a.toNat / 4 * 4 + (a.toNat % 4 * 16 + b.toNat / 16) / 16 = a.toNat := by omega
      have second : (a.toNat % 4 * 16 + b.toNat / 16) % 16 * 16 +
          (b.toNat % 16 * 4 + c.toNat / 64) / 4 = b.toNat := by omega
      have third : (b.toNat % 16 * 4 + c.toNat / 64) % 4 * 64 + c.toNat % 64 = c.toNat := by omega
      rw [decodeSextets, ih, Option.map_some, first, second, third]
      simp only [UInt8.ofNat_toNat]

theorem toNat_ofNat_small {n : Nat} (small : n < 256) : (UInt8.ofNat n).toNat = n :=
  UInt8.toNat_ofNat_of_lt' small

/-- What the decoder accepts is the spelling of its result. -/
theorem sextets_decodeSextets (text : List Nat) (small : ∀ n ∈ text, n < 64)
    {bytes : List UInt8} (decoded : decodeSextets text = some bytes) : sextets bytes = text := by
  fun_induction decodeSextets text generalizing bytes with
  | case1 =>
      obtain rfl := Option.some.inj decoded
      rfl
  | case2 => cases decoded
  | case3 w x zero =>
      obtain rfl := Option.some.inj decoded
      simp only [List.mem_cons, List.not_mem_nil, or_false, forall_eq_or_imp, forall_eq] at small
      have byte : (UInt8.ofNat (w * 4 + x / 16)).toNat = w * 4 + x / 16 :=
        toNat_ofNat_small (by omega)
      simp only [sextets, byte, List.cons.injEq, and_true]
      omega
  | case4 => cases decoded
  | case5 w x y zero =>
      obtain rfl := Option.some.inj decoded
      simp only [List.mem_cons, List.not_mem_nil, or_false, forall_eq_or_imp, forall_eq] at small
      have first : (UInt8.ofNat (w * 4 + x / 16)).toNat = w * 4 + x / 16 :=
        toNat_ofNat_small (by omega)
      have second : (UInt8.ofNat (x % 16 * 16 + y / 4)).toNat = x % 16 * 16 + y / 4 :=
        toNat_ofNat_small (by omega)
      simp only [sextets, first, second, List.cons.injEq, and_true]
      omega
  | case6 => cases decoded
  | case7 w x y z rest ih =>
      obtain ⟨tail, tailDecoded, rfl⟩ := Option.map_eq_some_iff.mp decoded
      simp only [List.mem_cons, forall_eq_or_imp] at small
      obtain ⟨wSmall, xSmall, ySmall, zSmall, restSmall⟩ := small
      have first : (UInt8.ofNat (w * 4 + x / 16)).toNat = w * 4 + x / 16 :=
        toNat_ofNat_small (by omega)
      have second : (UInt8.ofNat (x % 16 * 16 + y / 4)).toNat = x % 16 * 16 + y / 4 :=
        toNat_ofNat_small (by omega)
      have third : (UInt8.ofNat (y % 4 * 64 + z)).toNat = y % 4 * 64 + z :=
        toNat_ofNat_small (by omega)
      simp only [sextets, first, second, third, ih restSmall tailDecoded, List.cons.injEq,
        and_true]
      omega

theorem mapM_sextet?_eq_some_iff {text : List Char} {values : List Nat} :
    text.mapM sextet? = some values ↔ (∀ n ∈ values, n < 64) ∧ values.map symbol = text := by
  induction text generalizing values with
  | nil => cases values <;> simp
  | cons c rest ih =>
      rw [List.mapM_cons]
      cases values with
      | nil => simp [Option.bind_eq_some_iff]
      | cons n values =>
          simp only [Option.bind_eq_bind, Option.bind_eq_some_iff, ih, sextet?_eq_some_iff,
            Option.pure_def, Option.some.injEq, List.cons.injEq, List.mem_cons, forall_eq_or_imp,
            List.map_cons]
          constructor
          · rintro ⟨first, ⟨small, spelled⟩, others, ⟨smaller, rest⟩, rfl, rfl⟩
            exact ⟨⟨small, smaller⟩, spelled, rest⟩
          · rintro ⟨⟨small, smaller⟩, spelled, rest⟩
            exact ⟨n, ⟨small, spelled⟩, values, ⟨smaller, rest⟩, rfl, rfl⟩

theorem decodeGroups_eq_some_iff (text : List Char) (bytes : List UInt8) :
    decodeGroups text = some bytes ↔ text = encodeGroups bytes := by
  rw [decodeGroups, encodeGroups, Option.bind_eq_bind, Option.bind_eq_some_iff]
  constructor
  · rintro ⟨values, spelled, decoded⟩
    obtain ⟨small, rfl⟩ := mapM_sextet?_eq_some_iff.mp spelled
    rw [sextets_decodeSextets values small decoded]
  · rintro rfl
    exact ⟨sextets bytes, mapM_sextet?_eq_some_iff.mpr ⟨sextets_small bytes, rfl⟩,
      decodeSextets_sextets bytes⟩

/-- The coding by its definition. -/
def urlSafeNoPad : Base64 where
  encode := encodeGroups
  decode := decodeGroups
  decode_eq_some_iff := decodeGroups_eq_some_iff
  alphabet bytes c member := by
    obtain ⟨n, sextet, rfl⟩ := List.mem_map.mp member
    exact symbol_allowed (sextets_small bytes n sextet)
  length_encode bytes := by rw [encodeGroups, List.length_map, length_sextets]

example : urlSafeNoPad.encode [102, 111, 111, 98] = "Zm9vYg".toList := by decide

end Groups

end Base64

namespace PercentCoding

section Bytes

def hexDigit (n : Nat) : Char := "0123456789ABCDEF".toList.getD n '0'

/-- The value of a hexadecimal digit in ASCII, of either case. -/
def hexValue? (byte : UInt8) : Option Nat :=
  if 48 ≤ byte.toNat ∧ byte.toNat ≤ 57 then some (byte.toNat - 48)
  else if 65 ≤ byte.toNat ∧ byte.toNat ≤ 70 then some (byte.toNat - 55)
  else if 97 ≤ byte.toNat ∧ byte.toNat ≤ 102 then some (byte.toNat - 87)
  else none

/-- The characters that stand for themselves, as bytes. -/
def unreserved (keepSlashes : Bool) (byte : UInt8) : Bool :=
  (48 ≤ byte.toNat && byte.toNat ≤ 57) || (65 ≤ byte.toNat && byte.toNat ≤ 90) ||
    (97 ≤ byte.toNat && byte.toNat ≤ 122) || byte == 45 || byte == 46 || byte == 95 ||
    byte == 126 || (keepSlashes && byte == 47)

def escapeByte (keepSlashes : Bool) (byte : UInt8) : List Char :=
  if unreserved keepSlashes byte then [Char.ofNat byte.toNat]
  else ['%', hexDigit (byte.toNat / 16), hexDigit (byte.toNat % 16)]

/-- A `%` that no two hexadecimal digits follow stands for itself. -/
def unescape : List UInt8 → List UInt8
  | [] => []
  | byte :: high :: low :: rest =>
      if byte = 37 then
        match hexValue? high, hexValue? low with
        | some first, some second => UInt8.ofNat (first * 16 + second) :: unescape rest
        | _, _ => byte :: unescape (high :: low :: rest)
      else byte :: unescape (high :: low :: rest)
  | byte :: rest => byte :: unescape rest

theorem utf8EncodeChar_ascii {c : Char} (ascii : c.toNat < 128) :
    String.utf8EncodeChar c = [UInt8.ofNat c.toNat] :=
  if_pos (Nat.le_of_lt_succ ascii)

theorem hexDigit_spells {n : Nat} (small : n < 16) :
    (hexDigit n).toNat < 128 ∧ hexValue? (UInt8.ofNat (hexDigit n).toNat) = some n := by
  revert n
  decide

/-- What stands for itself is no `%`. -/
theorem unreserved_ascii {keepSlashes : Bool} {byte : UInt8}
    (kept : unreserved keepSlashes byte = true) : byte.toNat < 128 ∧ byte ≠ 37 := by
  simp only [unreserved, Bool.or_eq_true, Bool.and_eq_true, decide_eq_true_eq, beq_iff_eq] at kept
  constructor
  · rcases kept with (((((⟨_, high⟩ | ⟨_, high⟩) | ⟨_, high⟩) | rfl) | rfl) | rfl | rfl) | ⟨_, rfl⟩
    all_goals first | omega | decide
  · rintro rfl
    revert kept
    cases keepSlashes <;> decide

theorem unescape_literal {byte : UInt8} (rest : List UInt8) (plain : byte ≠ 37) :
    unescape (byte :: rest) = byte :: unescape rest := by
  match rest with
  | [] => rfl
  | [_] => rfl
  | _ :: _ :: _ => rw [unescape, if_neg plain]

theorem unescape_escapeByte (keepSlashes : Bool) (byte : UInt8) (rest : List UInt8) :
    unescape (Text.encodeUtf8 (escapeByte keepSlashes byte) ++ rest) = byte :: unescape rest := by
  rw [escapeByte]
  split
  case isTrue kept =>
      obtain ⟨ascii, plain⟩ := unreserved_ascii kept
      have char : (Char.ofNat byte.toNat).toNat = byte.toNat := by
        have valid : byte.toNat.isValidChar := Or.inl (by omega)
        rw [Char.ofNat, dif_pos valid]
        rfl
      have spelled : Text.encodeUtf8 [Char.ofNat byte.toNat] = [byte] := by
        rw [Text.encodeUtf8, List.flatMap_singleton, utf8EncodeChar_ascii (char.symm ▸ ascii), char,
          UInt8.ofNat_toNat]
      rw [spelled]
      exact unescape_literal rest plain
  case isFalse =>
      have high : byte.toNat / 16 < 16 := by
        have := byte.toNat_lt
        omega
      have low : byte.toNat % 16 < 16 := Nat.mod_lt _ (by decide)
      obtain ⟨highAscii, highValue⟩ := hexDigit_spells high
      obtain ⟨lowAscii, lowValue⟩ := hexDigit_spells low
      have spelled : Text.encodeUtf8 ['%', hexDigit (byte.toNat / 16), hexDigit (byte.toNat % 16)] =
          [37, UInt8.ofNat (hexDigit (byte.toNat / 16)).toNat,
            UInt8.ofNat (hexDigit (byte.toNat % 16)).toNat] := by
        rw [Text.encodeUtf8, List.flatMap_cons, List.flatMap_cons, List.flatMap_cons,
          List.flatMap_nil, utf8EncodeChar_ascii highAscii, utf8EncodeChar_ascii lowAscii]
        rfl
      have whole : byte.toNat / 16 * 16 + byte.toNat % 16 = byte.toNat := Nat.div_add_mod' _ _
      rw [spelled, List.cons_append, List.cons_append, List.cons_append, List.nil_append, unescape,
        if_pos rfl, highValue, lowValue]
      simp only [whole, UInt8.ofNat_toNat]

theorem unescape_escapeBytes (keepSlashes : Bool) (bytes : List UInt8) :
    unescape (Text.encodeUtf8 (bytes.flatMap (escapeByte keepSlashes))) = bytes := by
  induction bytes with
  | nil => rfl
  | cons byte bytes ih =>
      rw [List.flatMap_cons, Text.encodeUtf8_append, unescape_escapeByte, ih]

end Bytes

/-- The coding of a string's UTF-8 bytes. -/
def utf8 : PercentCoding where
  encode keepSlashes text := (Text.encodeUtf8 text).flatMap (escapeByte keepSlashes)
  decode text := Text.decodeUtf8 (unescape (Text.encodeUtf8 text))
  decode_encode keepSlashes text := by
    rw [unescape_escapeBytes, Text.decodeUtf8_encodeUtf8]

example : utf8.encode true "a/b c".toList = "a/b%20c".toList := by decide

end PercentCoding
