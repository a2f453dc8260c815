import ImageResizer.Foundation.Text
import ImageResizer.SourceGuard.Address

/-!
# Spellings of one address

`inet_aton` reads an IPv4 address in one to four parts, each in one of three radices.  Every
such spelling is read as the address it stands for, whether the standard parser reads it or
the guard's own one does.
-/

namespace ImageResizer.SourceGuard

/-! ## What a spelling is -/

/-- A character is this digit of the radix. -/
def IsDigit (radix : Nat) (c : Char) (digit : Nat) : Prop := digitValue radix c = some digit

/-- Digits of a radix, and the number they write. -/
def WritesNumber (radix : Nat) (text : List Char) (value : Nat) : Prop :=
  text ≠ [] ∧ ∃ digits, List.Forall₂ (IsDigit radix) text digits ∧
    digitsValue radix digits = value

/-- One part: decimal without a leading zero, octal after a zero, or hexadecimal after its
marker.  Octal and hexadecimal digits may themselves start with zeros. -/
inductive SpellsPart : List Char → Nat → Prop where
  | decimal {text : List Char} {value : Nat} :
      WritesNumber 10 text value → (text.head? = some '0' → text.length = 1) →
      SpellsPart text value
  | octal {text : List Char} {value : Nat} :
      WritesNumber 8 text value → SpellsPart ('0' :: text) value
  | hexadecimal {marker : Char} {text : List Char} {value : Nat} :
      marker = 'x' ∨ marker = 'X' → WritesNumber 16 text value →
      SpellsPart ('0' :: marker :: text) value

/-- The numbers fill this many bytes: one byte each, and the last one what is left. -/
inductive FillsBytes : Nat → List Nat → Nat → Prop where
  | last {bytes value : Nat} :
      value < 256 ^ (bytes + 1) → FillsBytes (bytes + 1) [value] value
  | byte {bytes first value : Nat} {rest : List Nat} :
      first < 256 → FillsBytes bytes rest value →
      FillsBytes (bytes + 1) (first :: rest) (first * 256 ^ bytes + value)

/-- A text spells an address. -/
def Spells (host : List Char) (addr : Ipv4Addr) : Prop :=
  ∃ texts values, List.Forall₂ SpellsPart texts values ∧
    FillsBytes 4 values addr.bits.toNat ∧ host = ['.'].intercalate texts

/-! ## Two lists side by side -/

section Sides

variable {α β : Type} {related : α → β → Prop} {list : List α} {others : List β}

theorem related_of_mem (paired : List.Forall₂ related list others) {element : α}
    (member : element ∈ list) : ∃ other, related element other := by
  induction paired with
  | nil => cases member
  | cons first _ ih =>
      rcases List.mem_cons.mp member with rfl | later
      · exact ⟨_, first⟩
      · exact ih later

/-- A partial function that has each of these values has all of them at once. -/
theorem mapM_of_related {f : α → Option β} (paired : List.Forall₂ related list others)
    (each : ∀ element other, other ∈ others → related element other → f element = some other) :
    list.mapM f = some others := by
  induction paired with
  | nil => rfl
  | @cons element other list others first _ ih =>
      have rest := ih fun element other member => each element other (List.mem_cons_of_mem _ member)
      rw [List.mapM_cons, each element other List.mem_cons_self first, rest]
      rfl

end Sides

/-! ## Digits -/

theorem digitValue_marker (radix : Nat) {c : Char} (marker : c ∈ ['.', ':', '+', 'x', 'X']) :
    digitValue radix c = none := by
  simp only [List.mem_cons, List.not_mem_nil, or_false] at marker
  rcases marker with rfl | rfl | rfl | rfl | rfl <;> rfl

theorem isDigit_of_digitValue {radix digit : Nat} {c : Char} (small : radix ≤ 10)
    (read : digitValue radix c = some digit) : c.isDigit = true := by
  obtain ⟨found, below⟩ := Option.filter_eq_some_iff.mp read
  have digitSmall : digit < 10 := (of_decide_eq_true below).trans_le small
  split_ifs at found with decimal lower upper
  · simp only [Char.isDigit, Bool.and_eq_true, decide_eq_true_eq]
    exact decimal
  all_goals
    have value := Option.some.inj found
    omega

/-- Digits that are all read are all taken. -/
theorem takeDigits_of_digits {radix : Nat} {text : List Char} {digits : List Nat}
    (read : List.Forall₂ (IsDigit radix) text digits) :
    takeDigits radix text = (digits, []) := by
  induction read with
  | nil => rfl
  | cons first _ ih =>
      rw [IsDigit] at first
      rw [takeDigits, first, ih]
      rfl

/-- What is taken are the digits at the front. -/
theorem takeDigits_front (radix : Nat) (input : List Char) :
    ∃ text, input = text ++ (takeDigits radix input).2 ∧
      List.Forall₂ (IsDigit radix) text (takeDigits radix input).1 := by
  induction input with
  | nil => exact ⟨[], rfl, .nil⟩
  | cons c input ih =>
      cases read : digitValue radix c with
      | none =>
          refine ⟨[], ?_, ?_⟩
          · simp [takeDigits, read]
          · simp [takeDigits, read]
      | some digit =>
          obtain ⟨text, split, rest⟩ := ih
          refine ⟨c :: text, ?_, ?_⟩
          · simpa [takeDigits, read] using split
          · simpa [takeDigits, read] using And.intro (by exact read) rest

namespace WritesNumber

variable {radix value : Nat} {text : List Char}

theorem not_mem_marker (written : WritesNumber radix text value) {c : Char}
    (marker : c ∈ ['.', ':', '+', 'x', 'X']) : c ∉ text := by
  obtain ⟨-, digits, read, -⟩ := written
  intro member
  obtain ⟨digit, isDigit⟩ := related_of_mem read member
  rw [IsDigit, digitValue_marker radix marker] at isDigit
  cases isDigit

theorem all_isDigit (small : radix ≤ 10) (written : WritesNumber radix text value) :
    ∀ c ∈ text, c.isDigit = true := by
  obtain ⟨-, digits, read, -⟩ := written
  intro c member
  obtain ⟨digit, isDigit⟩ := related_of_mem read member
  exact isDigit_of_digitValue small isDigit

theorem u64FromStrRadix_eq (written : WritesNumber radix text value) (small : value < 2 ^ 64) :
    u64FromStrRadix radix text = some value := by
  have noPlus : text.head? ≠ some '+' := fun plus =>
    written.not_mem_marker (by simp) (List.mem_of_mem_head? plus)
  obtain ⟨nonempty, digits, read, rfl⟩ := written
  have given : digits ≠ [] := fun none_ => nonempty (List.forall₂_nil_right_iff.mp (none_ ▸ read))
  have unsigned : (if text.head? == some '+' then text.tail else text) = text :=
    if_neg (by simpa using noPlus)
  have taken : digits.isEmpty = false := by simpa using given
  simp only [u64FromStrRadix, unsigned, takeDigits_of_digits read, taken, List.isEmpty_nil,
    Bool.not_true, Bool.or_false, Bool.false_or, decide_eq_true_eq]
  rw [if_neg (not_le.mpr small)]

/-- A zero in front changes nothing. -/
theorem zero_cons (written : WritesNumber radix text value) (positive : 0 < radix) :
    WritesNumber radix ('0' :: text) value := by
  obtain ⟨nonempty, digits, read, rfl⟩ := written
  refine ⟨List.cons_ne_nil _ _, 0 :: digits, .cons ?_ read, ?_⟩
  · simp [IsDigit, digitValue, positive]
  · simp [digitsValue]

end WritesNumber

/-! ## The guard's own parser -/

/-- Every spelling of a part is read as its number. -/
theorem SpellsPart.parseFlexibleU64_eq {text : List Char} {value : Nat}
    (spelled : SpellsPart text value) (small : value < 2 ^ 64) :
    parseFlexibleU64 text = some value := by
  cases spelled with
  | decimal written unpadded =>
      rw [← written.u64FromStrRadix_eq small]
      cases text with
      | nil => exact absurd rfl written.1
      | cons c rest =>
          by_cases zero : c = '0'
          case pos =>
              obtain rfl := List.length_eq_zero_iff.mp (Nat.succ.inj (unpadded (by rw [zero]; rfl)))
              rw [zero]
              rfl
          case neg => simp [parseFlexibleU64, zero]
  | @octal text value written =>
      have padded := written.zero_cons (by decide)
      rw [← padded.u64FromStrRadix_eq small]
      have noLower := written.not_mem_marker (c := 'x') (by simp)
      have noUpper := written.not_mem_marker (c := 'X') (by simp)
      have digits := padded.all_isDigit (by decide)
      cases text with
      | nil => exact absurd rfl written.1
      | cons c rest =>
          have lower : c ≠ 'x' := fun same => noLower (by simp [same])
          have upper : c ≠ 'X' := fun same => noUpper (by simp [same])
          have octal : (1 < ('0' :: c :: rest).length && ('0' :: c :: rest).head? == some '0' &&
              ('0' :: c :: rest).all (·.isDigit)) = true := by
            simp only [Bool.and_eq_true, List.all_eq_true]
            exact ⟨⟨by simp, rfl⟩, digits⟩
          rw [parseFlexibleU64, if_pos octal]
          all_goals simp [lower, upper]
  | hexadecimal marker written =>
      rcases marker with rfl | rfl
      · exact written.u64FromStrRadix_eq small
      · exact written.u64FromStrRadix_eq small

theorem SpellsPart.no_separator {text : List Char} {value : Nat} (spelled : SpellsPart text value) :
    '.' ∉ text ∧ ':' ∉ text := by
  have markers {radix value : Nat} {text : List Char} (written : WritesNumber radix text value) :
      '.' ∉ text ∧ ':' ∉ text :=
    ⟨written.not_mem_marker (by simp), written.not_mem_marker (by simp)⟩
  cases spelled with
  | decimal written _ => exact markers written
  | octal written =>
      obtain ⟨noDot, noColon⟩ := markers written
      simp [noDot, noColon]
  | hexadecimal marker written =>
      obtain ⟨noDot, noColon⟩ := markers written
      rcases marker with rfl | rfl <;> simp [noDot, noColon]

theorem FillsBytes.lt {bytes value : Nat} {values : List Nat}
    (fills : FillsBytes bytes values value) : value < 256 ^ bytes := by
  induction fills with
  | last small => exact small
  | @byte bytes first value rest small _ ih =>
      have whole : first * 256 ^ bytes + 256 ^ bytes ≤ 256 * 256 ^ bytes := by
        rw [← Nat.succ_mul]
        exact Nat.mul_le_mul_right _ small
      rw [pow_succ']
      omega

/-- No part is larger than the whole. -/
theorem FillsBytes.mem_le {bytes value : Nat} {values : List Nat}
    (fills : FillsBytes bytes values value) : ∀ part ∈ values, part ≤ value := by
  induction fills with
  | last _ => simp
  | @byte bytes first value rest _ _ ih =>
      intro part member
      rcases List.mem_cons.mp member with rfl | later
      · exact (Nat.le_mul_of_pos_right part (by positivity)).trans (Nat.le_add_right _ _)
      · exact (ih part later).trans (Nat.le_add_left _ _)

theorem FillsBytes.ipv4Value_eq {values : List Nat} {value : Nat}
    (fills : FillsBytes 4 values value) : ipv4Value values = some value ∧ values.length ≤ 4 := by
  cases fills with
  | last small => exact ⟨rfl, by simp⟩
  | byte first fills =>
      cases fills with
      | last small =>
          refine ⟨?_, by simp⟩
          rw [ipv4Value, if_neg (by simp; omega)]
          simp
      | byte second fills =>
          cases fills with
          | last small =>
              refine ⟨?_, by simp⟩
              rw [ipv4Value, if_neg (by simp; omega)]
              simp [add_assoc]
          | byte third fills =>
              cases fills with
              | last small =>
                  refine ⟨?_, by simp⟩
                  rw [ipv4Value, if_neg (by simp; omega)]
                  simp [add_assoc]
              | byte _ fills => cases fills

/-- The guard's parser reads every spelling of an address as that address. -/
theorem parseIpv4Literal_eq {host : List Char} {addr : Ipv4Addr} (spelled : Spells host addr) :
    parseIpv4Literal host = some addr := by
  obtain ⟨texts, values, parts, fills, rfl⟩ := spelled
  have clean : ∀ text ∈ texts, '.' ∉ text := by
    intro text member
    obtain ⟨value, part⟩ := related_of_mem parts member
    exact part.no_separator.1
  obtain ⟨value, length⟩ := fills.ipv4Value_eq
  have small := fills.lt
  have read : texts.mapM parseFlexibleU64 = some values := by
    apply mapM_of_related parts
    intro text part member spelled
    have below := fills.mem_le part member
    exact spelled.parseFlexibleU64_eq (by omega)
  have nonempty : texts ≠ [] := by
    rintro rfl
    obtain rfl := List.forall₂_nil_left_iff.mp parts
    cases fills
  have split : (['.'].intercalate texts).splitOn '.' = texts :=
    List.splitOn_intercalate _ clean nonempty
  have same : (⟨BitVec.ofNat 32 addr.bits.toNat⟩ : Ipv4Addr) = addr := by simp
  unfold parseIpv4Literal
  rw [split, if_neg (by rw [parts.length_eq]; omega), read]
  simp only [Option.bind_eq_bind, Option.bind_some, value]
  rw [if_pos (by omega), same]

/-! ## The standard parser -/

/-- A number in the standard parser's decimal form is a part of its own. -/
theorem readNumber_part {bound value : Nat} {input rest : List Char}
    (read : readNumber 10 3 bound false input = some (value, rest)) :
    ∃ text, input = text ++ rest ∧ SpellsPart text value ∧ value < bound := by
  obtain ⟨text, front, digits⟩ := takeDigits_front 10 input
  unfold readNumber at read
  dsimp only at read
  split_ifs at read with refused padded
  simp only [Option.some.injEq, Prod.mk.injEq] at read
  obtain ⟨rfl, rfl⟩ := read
  simp only [Bool.or_eq_true, decide_eq_true_eq, not_or, not_lt, not_le] at refused
  have given : text ≠ [] := by
    rintro rfl
    have none_ := List.forall₂_nil_left_iff.mp digits
    exact refused.1.1 (by simp [none_])
  refine ⟨text, front, .decimal ⟨given, _, digits, rfl⟩ ?_, refused.2⟩
  intro zero
  have first : (text ++ (takeDigits 10 input).2).head? = some '0' := by
    cases text with
    | nil => exact absurd rfl given
    | cons c text => exact zero
  rw [← front] at first
  have length := digits.length_eq
  have positive := List.length_pos_of_ne_nil given
  simp only [first, Bool.not_false, Bool.true_and, beq_self_eq_true, decide_eq_true_eq] at padded
  omega

theorem readGivenChar_eq {target : Char} {input rest : List Char}
    (read : readGivenChar target input = some rest) : input = target :: rest := by
  cases input with
  | nil => cases read
  | cons c input =>
      rw [readGivenChar] at read
      split at read
      case isTrue same => rw [beq_iff_eq.mp same, Option.some.inj read]
      case isFalse other => cases read

/-- After the first element a separator comes first. -/
theorem readSeparator_next {α : Type} {separator : Char} {index : Nat}
    {inner : List Char → Option (α × List Char)} {input : List Char} {result : α × List Char}
    (later : 0 < index) (read : readSeparator separator index inner input = some result) :
    ∃ rest, input = separator :: rest ∧ inner rest = some result := by
  rw [readSeparator, if_pos later] at read
  obtain ⟨rest, given, innerRead⟩ := Option.bind_eq_some_iff.mp read
  exact ⟨rest, readGivenChar_eq given, innerRead⟩

theorem ofOctets_toNat {a b c d : Nat} (first : a < 256) (second : b < 256) (third : c < 256)
    (fourth : d < 256) : (Ipv4Addr.ofOctets a b c d).bits.toNat =
      a * 256 ^ 3 + (b * 256 ^ 2 + (c * 256 ^ 1 + d)) := by
  rw [Ipv4Addr.ofOctets, BitVec.toNat_ofNat, Nat.mod_eq_of_lt]
  · omega
  · omega

/-- The standard parser reads a dotted quad as the address it spells. -/
theorem readIpv4Addr_spells {input rest : List Char} {addr : Ipv4Addr}
    (read : readIpv4Addr input = some (addr, rest)) :
    ∃ host, input = host ++ rest ∧ Spells host addr := by
  unfold readIpv4Addr at read
  obtain ⟨⟨a, input₁⟩, readA, read⟩ := Option.bind_eq_some_iff.mp read
  obtain ⟨⟨b, input₂⟩, separatedB, read⟩ := Option.bind_eq_some_iff.mp read
  obtain ⟨⟨c, input₃⟩, separatedC, read⟩ := Option.bind_eq_some_iff.mp read
  obtain ⟨⟨d, input₄⟩, separatedD, read⟩ := Option.bind_eq_some_iff.mp read
  obtain ⟨rfl, rfl⟩ := Prod.mk.inj (Option.some.inj read)
  obtain ⟨textB, rfl, readB⟩ := readSeparator_next (by decide) separatedB
  obtain ⟨textC, rfl, readC⟩ := readSeparator_next (by decide) separatedC
  obtain ⟨textD, rfl, readD⟩ := readSeparator_next (by decide) separatedD
  obtain ⟨first, rfl, partA, smallA⟩ := readNumber_part readA
  obtain ⟨second, rfl, partB, smallB⟩ := readNumber_part readB
  obtain ⟨third, rfl, partC, smallC⟩ := readNumber_part readC
  obtain ⟨fourth, rfl, partD, smallD⟩ := readNumber_part readD
  refine ⟨['.'].intercalate [first, second, third, fourth], by simp [List.intercalate],
    [first, second, third, fourth], [a, b, c, d],
    .cons partA (.cons partB (.cons partC (.cons partD .nil))), ?_, rfl⟩
  rw [ofOctets_toNat smallA smallB smallC smallD]
  exact .byte smallA (.byte smallB (.byte smallC (.last (by simpa using smallD))))

/-- What is left after a number was at its end. -/
theorem readNumber_suffix {radix maxDigits bound value : Nat} {zeros : Bool}
    {input rest : List Char}
    (read : readNumber radix maxDigits bound zeros input = some (value, rest)) : rest <:+ input := by
  obtain ⟨text, front, -⟩ := takeDigits_front radix input
  unfold readNumber at read
  dsimp only at read
  split_ifs at read
  obtain ⟨-, rfl⟩ := Prod.mk.inj (Option.some.inj read)
  exact ⟨text, front.symm⟩

theorem readSeparator_suffix {α : Type} {separator : Char} {index : Nat}
    {inner : List Char → Option (α × List Char)} {input rest : List Char} {value : α}
    (inside : ∀ {text rest value}, inner text = some (value, rest) → rest <:+ text)
    (read : readSeparator separator index inner input = some (value, rest)) : rest <:+ input := by
  by_cases later : 0 < index
  case pos =>
      obtain ⟨text, rfl, innerRead⟩ := readSeparator_next later read
      exact (inside innerRead).trans (List.suffix_cons _ _)
  case neg =>
      rw [readSeparator, if_neg later] at read
      exact inside read

theorem readGroups_suffix (limit index : Nat) (input : List Char) :
    (readGroups limit index input).2.2 <:+ input := by
  induction limit generalizing index input with
  | zero => exact List.suffix_rfl
  | succ left ih =>
      unfold readGroups
      dsimp only
      split
      case h_1 addr rest embedded =>
          split_ifs at embedded
          apply readSeparator_suffix _ embedded
          intro text rest addr read
          obtain ⟨host, split, -⟩ := readIpv4Addr_spells read
          exact ⟨host, split.symm⟩
      case h_2 =>
          split
          case h_1 group rest separated =>
              exact (ih (index + 1) rest).trans (readSeparator_suffix readNumber_suffix separated)
          case h_2 => exact List.suffix_rfl

/-- A group after the first one follows a colon. -/
theorem readGroups_colon {limit index : Nat} {input : List Char} (later : 0 < index)
    (some_ : (readGroups limit index input).1 ≠ []) : ':' ∈ input := by
  cases limit with
  | zero => exact absurd rfl some_
  | succ left =>
      unfold readGroups at some_
      dsimp only at some_
      split at some_
      case h_1 addr rest embedded =>
          split_ifs at embedded
          obtain ⟨text, rfl, -⟩ := readSeparator_next later embedded
          exact List.mem_cons_self
      case h_2 =>
          split at some_
          case h_1 group rest separated =>
              obtain ⟨text, rfl, -⟩ := readSeparator_next later separated
              exact List.mem_cons_self
          case h_2 => exact absurd rfl some_

/-- Eight groups are separated by colons. -/
theorem readGroups_eight {input : List Char} (eight : (readGroups 8 0 input).1.length = 8) :
    ':' ∈ input := by
  unfold readGroups at eight
  dsimp only at eight
  split at eight
  case h_1 => simp at eight
  case h_2 =>
      split at eight
      case h_1 group rest separated =>
          simp only [List.length_cons] at eight
          have more : (readGroups 7 1 rest).1 ≠ [] := by
            intro none_
            rw [none_] at eight
            simp at eight
          exact (readSeparator_suffix readNumber_suffix separated).subset
            (readGroups_colon (by decide) more)
      case h_2 => simp at eight

/-- What the standard parser reads as an IPv6 address has a colon. -/
theorem readIpv6Addr_colon {input rest : List Char} {addr : Ipv6Addr}
    (read : readIpv6Addr input = some (addr, rest)) : ':' ∈ input := by
  have after := readGroups_suffix 8 0 input
  unfold readIpv6Addr at read
  dsimp only at read
  split_ifs at read with eight embedded
  · exact readGroups_eight eight
  · obtain ⟨left, given, -⟩ := Option.bind_eq_some_iff.mp read
    rw [readGivenChar_eq given] at after
    exact after.subset List.mem_cons_self

/-! ## Either parser -/

theorem not_mem_intercalate {separator c : Char} {texts : List (List Char)}
    (other : c ≠ separator) (each : ∀ text ∈ texts, c ∉ text) :
    c ∉ [separator].intercalate texts := by
  induction texts with
  | nil => simp [List.intercalate]
  | cons text texts ih =>
      have rest := ih fun later member => each later (List.mem_cons_of_mem _ member)
      cases texts with
      | nil => simpa [List.intercalate] using each text List.mem_cons_self
      | cons next texts =>
          rw [List.intercalate_cons_of_ne_nil (List.cons_ne_nil next texts)]
          simp [each text List.mem_cons_self, other, rest]

theorem Spells.no_colon {host : List Char} {addr : Ipv4Addr} (spelled : Spells host addr) :
    ':' ∉ host := by
  obtain ⟨texts, values, parts, -, rfl⟩ := spelled
  apply not_mem_intercalate (by decide)
  intro text member
  obtain ⟨value, part⟩ := related_of_mem parts member
  exact part.no_separator.2

/-- Where both parsers read a host, they read one address. -/
theorem parseIpAddr_spelled {host : List Char} {addr : Ipv4Addr} {ip : IpAddr}
    (spelled : Spells host addr) (read : parseIpAddr host = some ip) : ip = .v4 addr := by
  unfold parseIpAddr at read
  obtain ⟨⟨found, rest⟩, chosen, whole⟩ := Option.bind_eq_some_iff.mp read
  split at whole
  case isFalse leftover => cases whole
  case isTrue ended =>
      obtain rfl := Option.some.inj whole
      obtain rfl : rest = [] := List.isEmpty_iff.mp ended
      cases quad : readIpv4Addr host with
      | none =>
          simp only [quad, Option.map_none] at chosen
          obtain ⟨⟨addr6, left⟩, read6, -⟩ := Option.map_eq_some_iff.mp chosen
          exact absurd (readIpv6Addr_colon read6) spelled.no_colon
      | some result =>
          obtain ⟨other, left⟩ := result
          simp only [quad, Option.map_some] at chosen
          obtain ⟨rfl, rfl⟩ := Prod.mk.inj (Option.some.inj chosen)
          obtain ⟨text, split, otherSpelled⟩ := readIpv4Addr_spells quad
          rw [List.append_nil] at split
          subst split
          have same := (parseIpv4Literal_eq otherSpelled).symm.trans (parseIpv4Literal_eq spelled)
          rw [Option.some.inj same]

/-- Every spelling of an address is read as that address. -/
theorem parseIpLiteral_spelled {host : String} {addr : Ipv4Addr}
    (spelled : Spells host.toList addr) : parseIpLiteral host = some (.v4 addr) := by
  unfold parseIpLiteral
  cases read : parseIpAddr host.toList with
  | none => simp [parseIpv4Literal_eq spelled]
  | some ip => simp [parseIpAddr_spelled spelled read]

/-! ## The block decision -/

/-- `::ffff:a.b.c.d`. -/
def Ipv4Addr.toIpv6Mapped (addr : Ipv4Addr) : Ipv6Addr :=
  ⟨BitVec.ofNat 128 (0xffff * 2 ^ 32 + addr.bits.toNat)⟩

theorem toIpv4Mapped_toIpv6Mapped (addr : Ipv4Addr) :
    addr.toIpv6Mapped.toIpv4Mapped = some addr := by
  have small := addr.bits.isLt
  have bits : addr.toIpv6Mapped.bits.toNat = 0xffff * 2 ^ 32 + addr.bits.toNat := by
    rw [Ipv4Addr.toIpv6Mapped, BitVec.toNat_ofNat]
    omega
  have inside : addr.toIpv6Mapped.bits.truncate 32 = addr.bits := by
    apply BitVec.eq_of_toNat_eq
    rw [BitVec.truncate_eq_setWidth, BitVec.toNat_setWidth, bits]
    omega
  rw [Ipv6Addr.toIpv4Mapped, if_pos (by omega), inside]

/-- An override of the policy. -/
inductive Override where
  | loopback
  | linkLocal
  | privateRanges
  deriving DecidableEq

namespace Override

def enable (policy : Policy) : Override → Policy
  | .loopback => { policy with allowLoopback := true }
  | .linkLocal => { policy with allowLinkLocal := true }
  | .privateRanges => { policy with allowPrivate := true }

/-- The ranges an override is for. -/
def covers (ip : IpAddr) : Override → Bool
  | .loopback => ip.isLoopback
  | .linkLocal => ip.isLinkLocal
  | .privateRanges => ip.isPrivate

variable {ip : IpAddr} {policy : Policy}

/-- With an override enabled no address is blocked that was not before. -/
theorem blocked_of_enabled (override : Override)
    (blocked : isBlockedIpWithPolicy ip (override.enable policy) = true) :
    isBlockedIpWithPolicy ip policy = true := by
  rw [isBlocked_iff] at blocked ⊢
  have loopback : (override.enable policy).allowLoopback = false → policy.allowLoopback = false := by
    cases override <;> simp [enable]
  have linkLocal : (override.enable policy).allowLinkLocal = false →
      policy.allowLinkLocal = false := by
    cases override <;> simp [enable]
  have privateRanges : (override.enable policy).allowPrivate = false →
      policy.allowPrivate = false := by
    cases override <;> simp [enable]
  exact blocked.imp (And.imp_right loopback)
    (Or.imp (And.imp_right linkLocal) (Or.imp_left (And.imp_right privateRanges)))

/-- What an override unblocks lies in its ranges. -/
theorem covers_of_unblocked (override : Override)
    (blocked : isBlockedIpWithPolicy ip policy = true)
    (allowed : isBlockedIpWithPolicy ip (override.enable policy) ≠ true) :
    override.covers ip = true := by
  rw [isBlocked_iff] at blocked
  rw [Ne, isBlocked_iff] at allowed
  cases override with
  | loopback =>
      rcases blocked with ⟨range, -⟩ | other
      · exact range
      · exact absurd (.inr other) allowed
  | linkLocal =>
      rcases blocked with first | ⟨range, -⟩ | other
      · exact absurd (.inl first) allowed
      · exact range
      · exact absurd (.inr (.inr other)) allowed
  | privateRanges =>
      rcases blocked with first | second | ⟨range, -⟩ | other
      · exact absurd (.inl first) allowed
      · exact absurd (.inr (.inl second)) allowed
      · exact range
      · exact absurd (.inr (.inr (.inr other))) allowed

/-- An override changes a decision only from blocked to allowed, and only in its ranges. -/
theorem changes (override : Override)
    (changed : isBlockedIpWithPolicy ip (override.enable policy) ≠ isBlockedIpWithPolicy ip policy) :
    isBlockedIpWithPolicy ip policy = true ∧
      isBlockedIpWithPolicy ip (override.enable policy) = false ∧ override.covers ip = true := by
  cases now : isBlockedIpWithPolicy ip (override.enable policy) with
  | true => exact absurd (now.trans (override.blocked_of_enabled now).symm) changed
  | false =>
      have blocked : isBlockedIpWithPolicy ip policy = true := by
        rw [now] at changed
        simpa using changed.symm
      exact ⟨blocked, rfl, override.covers_of_unblocked blocked (by simp [now])⟩

end Override

/-- The decision about an IPv4 address does not depend on how it is spelled, nor on whether
it is given as an IPv6 address; and each override lifts blocks of its own ranges only. -/
theorem block_decisions :
    (∀ (host : String) (addr : Ipv4Addr), Spells host.toList addr →
      parseIpLiteral host = some (.v4 addr)) ∧
    (∀ (addr : Ipv4Addr) (policy : Policy),
      isBlockedIpWithPolicy (.v6 addr.toIpv6Mapped) policy =
        isBlockedIpWithPolicy (.v4 addr) policy) ∧
    ∀ (ip : IpAddr) (policy : Policy) (override : Override),
      isBlockedIpWithPolicy ip (override.enable policy) ≠ isBlockedIpWithPolicy ip policy →
      isBlockedIpWithPolicy ip policy = true ∧
        isBlockedIpWithPolicy ip (override.enable policy) = false ∧
        override.covers ip = true := by
  refine ⟨fun host addr => parseIpLiteral_spelled, fun addr policy => ?_,
    fun ip policy override => override.changes⟩
  change isBlockedIpv6 addr.toIpv6Mapped policy = isBlockedIpv4 addr policy
  unfold isBlockedIpv6
  rw [toIpv4Mapped_toIpv6Mapped]

theorem loopback_spelled : Spells "0x7f.00.0001".toList (.ofOctets 127 0 0 1) := by
  have text : "0x7f.00.0001".toList =
      ['.'].intercalate [['0', 'x', '7', 'f'], ['0', '0'], ['0', '0', '0', '1']] := by decide
  have first : SpellsPart ['0', 'x', '7', 'f'] 127 :=
    .hexadecimal (.inl rfl) ⟨by decide, [7, 15], .cons rfl (.cons rfl .nil), rfl⟩
  have second : SpellsPart ['0', '0'] 0 := .octal ⟨by decide, [0], .cons rfl .nil, rfl⟩
  have third : SpellsPart ['0', '0', '0', '1'] 1 :=
    .octal ⟨by decide, [0, 0, 1], .cons rfl (.cons rfl (.cons rfl .nil)), rfl⟩
  exact ⟨_, [127, 0, 1], .cons first (.cons second (.cons third .nil)),
    .byte (by decide) (.byte (by decide) (.last (by decide))), text⟩

/-- A hexadecimal, an octal and a padded part. -/
theorem block_decisions_loopback :
    parseIpLiteral "0x7f.00.0001" = some (.v4 (.ofOctets 127 0 0 1)) :=
  block_decisions.1 "0x7f.00.0001" (.ofOctets 127 0 0 1) loopback_spelled

end ImageResizer.SourceGuard
