import Mathlib

/-!
# Strings as lists of characters

What programs over UTF-8 strings use of them: the encoding, byte offsets that may fall
inside a character, splitting at a separator, trimming, and decimal numerals.  Each
function comes with the equation that lets a writer and a reader be matched up.
-/

namespace Text

/-- The UTF-8 bytes of a string. -/
def encodeUtf8 (s : List Char) : List UInt8 := s.flatMap String.utf8EncodeChar

/-- The string with these UTF-8 bytes, if they are valid. -/
def decodeUtf8 (bytes : List UInt8) : Option (List Char) :=
  (String.fromUTF8? bytes.toByteArray).map String.toList

theorem encodeUtf8_append (s t : List Char) :
    encodeUtf8 (s ++ t) = encodeUtf8 s ++ encodeUtf8 t :=
  List.flatMap_append

theorem decodeUtf8_encodeUtf8 (s : List Char) : decodeUtf8 (encodeUtf8 s) = some s := by
  have valid : (encodeUtf8 s).toByteArray.IsValidUTF8 := ⟨s, rfl⟩
  have same : String.fromUTF8 (encodeUtf8 s).toByteArray valid = String.ofList s := rfl
  rw [decodeUtf8, String.fromUTF8?, dif_pos valid, same, Option.map_some, String.toList_ofList]

/-- The number of UTF-8 bytes of a string. -/
def utf8Len (s : List Char) : Nat := (s.map Char.utf8Size).sum

@[simp]
theorem utf8Len_nil : utf8Len [] = 0 := rfl

@[simp]
theorem utf8Len_cons (c : Char) (s : List Char) : utf8Len (c :: s) = c.utf8Size + utf8Len s := rfl

@[simp]
theorem utf8Len_append (s t : List Char) : utf8Len (s ++ t) = utf8Len s + utf8Len t := by
  simp [utf8Len]

/-- Split at a byte offset; `none` when the offset is past the end or inside a
character. -/
def splitAtByte : Nat → List Char → Option (List Char × List Char)
  | 0, s => some ([], s)
  | _ + 1, [] => none
  | offset + 1, c :: rest =>
      if c.utf8Size ≤ offset + 1 then
        (splitAtByte (offset + 1 - c.utf8Size) rest).map fun (front, back) => (c :: front, back)
      else none

theorem splitAtByte_utf8Len (front back : List Char) :
    splitAtByte (utf8Len front) (front ++ back) = some (front, back) := by
  induction front with
  | nil => cases back <;> rfl
  | cons c front ih =>
      have positive := c.utf8Size_pos
      obtain ⟨offset, offsetEq⟩ : ∃ offset, utf8Len (c :: front) = offset + 1 :=
        ⟨utf8Len (c :: front) - 1, by rw [utf8Len_cons]; omega⟩
      have reached : c.utf8Size ≤ offset + 1 := by rw [← offsetEq, utf8Len_cons]; omega
      have left : offset + 1 - c.utf8Size = utf8Len front := by
        rw [← offsetEq, utf8Len_cons]; omega
      rw [offsetEq, List.cons_append, splitAtByte, if_pos reached, left, ih, Option.map_some]

theorem splitAtByte_eq_some {offset : Nat} {s front back : List Char}
    (split : splitAtByte offset s = some (front, back)) :
    s = front ++ back ∧ utf8Len front = offset := by
  induction s generalizing offset front with
  | nil =>
      cases offset with
      | zero =>
          rw [splitAtByte, Option.some.injEq, Prod.mk.injEq] at split
          obtain ⟨rfl, rfl⟩ := split
          exact ⟨rfl, rfl⟩
      | succ offset => cases split
  | cons c rest ih =>
      cases offset with
      | zero =>
          rw [splitAtByte, Option.some.injEq, Prod.mk.injEq] at split
          obtain ⟨rfl, rfl⟩ := split
          exact ⟨rfl, rfl⟩
      | succ offset =>
          rw [splitAtByte] at split
          split at split
          case isTrue reached =>
              obtain ⟨⟨inner, innerBack⟩, innerSplit, pair⟩ := Option.map_eq_some_iff.mp split
              rw [Prod.mk.injEq] at pair
              obtain ⟨rfl, rfl⟩ := pair
              obtain ⟨rfl, length⟩ := ih innerSplit
              refine ⟨rfl, ?_⟩
              rw [utf8Len_cons, length]
              omega
          case isFalse => cases split

/-- `str::split_once` on a character: around its first occurrence. -/
def splitOnce (sep : Char) : List Char → Option (List Char × List Char)
  | [] => none
  | c :: rest =>
      if c = sep then some ([], rest)
      else (splitOnce sep rest).map fun (front, back) => (c :: front, back)

theorem splitOnce_eq_some_iff {sep : Char} {s front back : List Char} :
    splitOnce sep s = some (front, back) ↔ s = front ++ sep :: back ∧ sep ∉ front := by
  induction s generalizing front with
  | nil => simp [splitOnce]
  | cons c rest ih =>
      rw [splitOnce]
      split
      case isTrue found =>
          subst found
          cases front with
          | nil => simp
          | cons d front => simp; rintro rfl; simp
      case isFalse differs =>
          cases front with
          | nil => simp [differs]
          | cons d front =>
              simp only [Option.map_eq_some_iff, Prod.exists, Prod.mk.injEq, List.cons.injEq,
                List.cons_append, List.mem_cons, not_or]
              constructor
              · rintro ⟨inner, innerBack, split, ⟨rfl, rfl⟩, rfl⟩
                obtain ⟨rfl, clean⟩ := ih.mp split
                exact ⟨⟨rfl, rfl⟩, Ne.symm differs, clean⟩
              · rintro ⟨⟨rfl, rfl⟩, _, clean⟩
                exact ⟨front, back, ih.mpr ⟨rfl, clean⟩, ⟨rfl, rfl⟩, rfl⟩

/-- `str::rsplit_once` on a character: around its last occurrence. -/
def rsplitOnce (sep : Char) (s : List Char) : Option (List Char × List Char) :=
  (splitOnce sep s.reverse).map fun (back, front) => (front.reverse, back.reverse)

theorem rsplitOnce_eq_some_iff {sep : Char} {s front back : List Char} :
    rsplitOnce sep s = some (front, back) ↔ s = front ++ sep :: back ∧ sep ∉ back := by
  simp only [rsplitOnce, Option.map_eq_some_iff, Prod.exists, Prod.mk.injEq]
  constructor
  · rintro ⟨backward, forward, split, rfl, rfl⟩
    obtain ⟨reversed, clean⟩ := splitOnce_eq_some_iff.mp split
    refine ⟨?_, by simpa using clean⟩
    rw [← List.reverse_reverse s, reversed]
    simp
  · rintro ⟨rfl, clean⟩
    exact ⟨back.reverse, front.reverse, splitOnce_eq_some_iff.mpr ⟨by simp, by simpa using clean⟩,
      by simp, by simp⟩

theorem not_mem_of_mem_splitOn {sep : Char} {text part : List Char}
    (member : part ∈ text.splitOn sep) : sep ∉ part := by
  induction text generalizing part with
  | nil =>
      rw [List.splitOn_nil, List.mem_singleton] at member
      simp [member]
  | cons c rest ih =>
      rw [List.splitOn_cons_eq_if_modifyHead] at member
      split at member
      case isTrue =>
          rcases List.mem_cons.mp member with rfl | later
          · simp
          · exact ih later
      case isFalse other =>
          cases parts : rest.splitOn sep with
          | nil => exact absurd parts (List.splitOn_ne_nil _ _)
          | cons first more =>
              rw [parts] at member
              rcases List.mem_cons.mp member with rfl | later
              · have clean : sep ∉ first := ih (by rw [parts]; exact List.mem_cons_self)
                have differs : sep ≠ c := fun same => other (beq_iff_eq.mpr same.symm)
                simp [clean, differs]
              · exact ih (by rw [parts]; exact List.mem_cons_of_mem _ later)

/-- Parts free of the separator are found again, and what is joined after them is split as
it would be by itself. -/
theorem splitOn_intercalate_append {sep : Char} {parts : List (List Char)} (rest : List Char)
    (clean : ∀ part ∈ parts, sep ∉ part) :
    ([sep].intercalate (parts ++ [rest])).splitOn sep = parts ++ rest.splitOn sep := by
  induction parts with
  | nil => simp
  | cons part parts ih =>
      have tail : parts ++ [rest] ≠ [] := by simp
      rw [List.cons_append, List.intercalate_cons_of_ne_nil tail, List.append_assoc,
        List.singleton_append, List.splitOn_append_cons_self_of_not_mem (clean part (by simp)),
        ih fun other member => clean other (List.mem_cons_of_mem _ member), List.cons_append]

/-- `str::strip_prefix` on a character, keeping the string when it is not there. -/
def dropLeading (lead : Char) : List Char → List Char
  | [] => []
  | c :: rest => if c = lead then rest else c :: rest

/-- `char::is_whitespace`: the Unicode property `White_Space`. -/
def isWhitespace (c : Char) : Bool :=
  let n := c.toNat
  (9 ≤ n && n ≤ 13) || n == 32 || n == 0x85 || n == 0xa0 || n == 0x1680 ||
    (0x2000 ≤ n && n ≤ 0x200a) || n == 0x2028 || n == 0x2029 || n == 0x202f || n == 0x205f ||
    n == 0x3000

/-- `str::trim`. -/
def trim (s : List Char) : List Char := (s.dropWhile isWhitespace).rdropWhile isWhitespace

/-- `str::split_whitespace`. -/
def splitWhitespace (s : List Char) : List (List Char) :=
  (s.splitOnP isWhitespace).filter (· ≠ [])

theorem trim_sublist (text : List Char) : (trim text).Sublist text :=
  (List.rdropWhile_prefix ..).sublist.trans (List.dropWhile_suffix ..).sublist

theorem trim_eq_self {s : List Char} (clean : ∀ c ∈ s, isWhitespace c = false) : trim s = s := by
  have front : s.dropWhile isWhitespace = s := by
    cases s with
    | nil => rfl
    | cons c rest => simp [clean c (List.mem_cons_self ..)]
  rw [trim, front, List.rdropWhile_eq_self_iff]
  intro nonempty
  simp [clean _ (List.getLast_mem nonempty)]

/-- `str::parse` of an unsigned integer type with the given largest value: an optional
`+`, at least one digit, and no overflow. -/
def parseUnsigned (max : Nat) (s : List Char) : Option Nat :=
  let digits := dropLeading '+' s
  if digits ≠ [] ∧ digits.all Char.isDigit then
    let value := Nat.ofDigitChars 10 digits 0
    if value ≤ max then some value else none
  else none

/-- The shortest decimal numeral. -/
def decimal (n : Nat) : List Char := Nat.toDigits 10 n

theorem isDigit_of_mem_decimal {n : Nat} {c : Char} (member : c ∈ decimal n) : c.isDigit :=
  Nat.isDigit_of_mem_toDigits (by decide) (by decide) member

theorem isDigit_bounds {c : Char} (digit : c.isDigit) : 48 ≤ c.toNat ∧ c.toNat ≤ 57 := by
  simp only [Char.isDigit, ge_iff_le, Bool.and_eq_true, decide_eq_true_eq,
    UInt32.le_iff_toNat_le] at digit
  exact digit

theorem not_isWhitespace_of_isDigit {c : Char} (digit : c.isDigit) : isWhitespace c = false := by
  obtain ⟨low, high⟩ := isDigit_bounds digit
  simp only [isWhitespace, Bool.or_eq_false_iff, Bool.and_eq_false_iff, decide_eq_false_iff_not,
    beq_eq_false_iff_ne]
  omega

theorem trim_decimal (n : Nat) : trim (decimal n) = decimal n :=
  trim_eq_self fun _ member => not_isWhitespace_of_isDigit (isDigit_of_mem_decimal member)

/-- A numeral is read back, up to the largest value of the type. -/
theorem parseUnsigned_decimal {max n : Nat} (bound : n ≤ max) :
    parseUnsigned max (decimal n) = some n := by
  have digits : ∀ c ∈ decimal n, c.isDigit := fun _ => isDigit_of_mem_decimal
  have nonempty : decimal n ≠ [] := Nat.toDigits_ne_nil
  have unsigned : dropLeading '+' (decimal n) = decimal n := by
    cases shape : decimal n with
    | nil => rfl
    | cons c rest =>
        have digit := digits c (shape ▸ List.mem_cons_self ..)
        rw [dropLeading, if_neg]
        rintro rfl
        simp at digit
  have value : Nat.ofDigitChars 10 (decimal n) 0 = n := Nat.ofDigitChars_ten_toDigits
  simp only [parseUnsigned, unsigned, value, bound, if_true]
  exact if_pos ⟨nonempty, List.all_eq_true.mpr digits⟩

/-- A word without the character between two texts occurs in one of them. -/
theorem infix_append_cons_iff {word front back : List Char} {c : Char} (absent : c ∉ word) :
    word <:+: front ++ c :: back ↔ word <:+: front ∨ word <:+: back := by
  constructor
  · rintro ⟨before, after, split⟩
    rw [List.append_assoc] at split
    rcases List.append_eq_append_iff.mp split with ⟨middle, rfl, tail⟩ | ⟨middle, rfl, tail⟩
    case inl =>
      rcases List.append_eq_append_iff.mp tail with ⟨rest, rfl, _⟩ | ⟨rest, rfl, ends⟩
      · left; exact ⟨before, rest, by simp⟩
      · cases rest with
        | nil => left; exact ⟨before, [], by simp⟩
        | cons d rest =>
            rw [List.cons_append, List.cons.injEq] at ends
            simp [ends.1] at absent
    case inr =>
      cases middle with
      | nil =>
          cases word with
          | nil => exact .inl (by simp)
          | cons d rest =>
            rw [List.nil_append, List.cons_append, List.cons.injEq] at tail
            simp [tail.1] at absent
      | cons d rest =>
          rw [List.cons_append, List.cons.injEq] at tail
          exact .inr ⟨rest, after, by rw [tail.2, List.append_assoc]⟩
  · rintro (inFront | inBack)
    · exact inFront.trans (List.prefix_append ..).isInfix
    · exact inBack.trans ((List.suffix_cons ..).isInfix.trans (List.suffix_append ..).isInfix)

/-- What shares no character with a word does not help it to occur. -/
theorem infix_of_clean_start {word clean back : List Char} (nonempty : word ≠ [])
    (absent : ∀ c ∈ clean, c ∉ word) : word <:+: clean ++ back ↔ word <:+: back := by
  induction clean with
  | nil => rfl
  | cons c clean ih =>
      have here := @infix_append_cons_iff word [] (clean ++ back) c (absent c (by simp))
      rw [List.cons_append]
      rw [List.nil_append] at here
      rw [here, ih fun d member => absent d (List.mem_cons_of_mem _ member)]
      simp [nonempty]

/-- A word that a text neither holds nor begins at its end occurs only behind it. -/
theorem infix_append_iff_of_apart {word front back : List Char}
    (apart : ∀ rest ∈ front.tails, rest ≠ [] → ¬ rest <+: word ∧ ¬ word <+: rest) :
    word <:+: front ++ back ↔ word <:+: back := by
  induction front with
  | nil => rfl
  | cons c front ih =>
      have later := ih fun rest member => apart rest (by simp at member ⊢; exact Or.inr member)
      rw [List.cons_append, List.infix_cons_iff, later]
      refine or_iff_right ?_
      intro here
      obtain ⟨notBegun, notHeld⟩ := apart (c :: front) (by simp) (by simp)
      rcases List.prefix_or_prefix_of_prefix here
        (List.prefix_append (c :: front) back) with within | beyond
      · exact notHeld within
      · exact notBegun beyond

end Text
