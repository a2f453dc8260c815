import Mathlib
import Std.Data.String

/-!
# Length-prefixed framing and self-delimiting records

Two layers of unambiguous concatenation.  A frame is a byte string behind its
length as a four-byte big-endian integer, and a sequence of frames can be read back
in only one way.  Over frames, a record is rendered as a sequence of fields whose
number may depend on the value; `Determines` says that the fields fix the value, up
to a relation, whatever fields come after them.
-/

namespace Framing

/-- A byte string. -/
abbrev Bytes := List UInt8

/-- The UTF-8 bytes of a string. -/
def text (s : String) : Bytes := s.toByteArray.data.toList

theorem text_injective {first second : String} (same : text first = text second) :
    first = second := by
  apply String.toByteArray_inj.mp
  apply ByteArray.ext
  exact Array.toList_inj.mp same

/-- A text up to the first separator can be told from what follows. -/
theorem separator_injective {sep : Char} {first second rest rest' : List Char}
    (firstFree : sep ∉ first) (secondFree : sep ∉ second)
    (same : first ++ sep :: rest = second ++ sep :: rest') : first = second ∧ rest = rest' := by
  induction first generalizing second with
  | nil =>
      cases second with
      | nil => exact ⟨rfl, (List.cons.inj same).2⟩
      | cons c second =>
          have head : sep = c := (List.cons.inj same).1
          exact absurd (head ▸ List.mem_cons_self) secondFree
  | cons c first ih =>
      cases second with
      | nil =>
          have head : c = sep := (List.cons.inj same).1
          exact absurd (head ▸ List.mem_cons_self) firstFree
      | cons c' second =>
          obtain ⟨head, tail⟩ := List.cons.inj same
          obtain ⟨texts, rests⟩ := ih (fun member => firstFree (by simp [member]))
            (fun member => secondFree (by simp [member])) tail
          exact ⟨by rw [head, texts], rests⟩

/-- The same for strings joined by a one-character separator. -/
theorem join_injective {sep : Char} {first second rest rest' : String}
    (firstFree : sep ∉ first.toList) (secondFree : sep ∉ second.toList)
    (same : first ++ String.singleton sep ++ rest = second ++ String.singleton sep ++ rest') :
    first = second ∧ rest = rest' := by
  have chars := congrArg String.toList same
  simp only [String.toList_append, String.toList_singleton, List.append_assoc,
    List.singleton_append] at chars
  obtain ⟨heads, tails⟩ := separator_injective firstFree secondFree chars
  exact ⟨String.toList_inj.mp heads, String.toList_inj.mp tails⟩

/-- A decimal numeral holds no character but digits. -/
theorem not_mem_repr (c : Char) (n : Nat) (notDigit : c.isDigit = false) :
    c ∉ (Nat.repr n).toList := by
  intro member
  rw [Nat.repr, String.toList_ofList] at member
  have digit := Nat.isDigit_of_mem_toDigits (by decide) (by decide) member
  simp [notDigit] at digit

/-- Texts with a common first part differ in the rest. -/
theorem append_right_injective {start first second : String}
    (same : start ++ first = start ++ second) : first = second := by
  have chars := congrArg String.toList same
  simp only [String.toList_append] at chars
  exact String.toList_inj.mp (List.append_cancel_left chars)

/-! ## Frames -/

/-- A length as a four-byte big-endian integer, truncated to 32 bits. -/
def lengthPrefix (n : Nat) : Bytes :=
  [UInt8.ofNat (n / 2 ^ 24), UInt8.ofNat (n / 2 ^ 16), UInt8.ofNat (n / 2 ^ 8), UInt8.ofNat n]

theorem lengthPrefix_injective {first second : Nat} (firstFits : first < 2 ^ 32)
    (secondFits : second < 2 ^ 32) (same : lengthPrefix first = lengthPrefix second) :
    first = second := by
  simp only [lengthPrefix, List.cons.injEq, ← UInt8.toNat_inj, UInt8.toNat_ofNat'] at same
  omega

/-- One field behind its length. -/
def frame (field : Bytes) : Bytes := lengthPrefix field.length ++ field

/-- A sequence of fields, one frame after another. -/
def frames (fields : List Bytes) : Bytes := fields.flatMap frame

/-- A field whose length fits the prefix. -/
def Fits (fields : List Bytes) : Prop := ∀ field ∈ fields, field.length < 2 ^ 32

/-- The boundary of a frame does not depend on what follows it. -/
theorem frame_append {first second : Bytes} {rest rest' : Bytes}
    (firstFits : first.length < 2 ^ 32) (secondFits : second.length < 2 ^ 32)
    (same : frame first ++ rest = frame second ++ rest') : first = second ∧ rest = rest' := by
  simp only [frame, List.append_assoc] at same
  obtain ⟨lengths, bodies⟩ := List.append_inj same rfl
  exact List.append_inj bodies (lengthPrefix_injective firstFits secondFits lengths)

theorem frame_ne_nil (field : Bytes) : frame field ≠ [] := by
  simp [frame, lengthPrefix]

/-- A stream of frames can be cut into fields in only one way. -/
theorem frames_injective {first second : List Bytes} (firstFits : Fits first)
    (secondFits : Fits second) (same : frames first = frames second) : first = second := by
  induction first generalizing second with
  | nil =>
      cases second with
      | nil => rfl
      | cons field fields =>
          simp only [frames, List.flatMap_nil, List.flatMap_cons] at same
          exact absurd (List.append_eq_nil_iff.mp same.symm).1 (frame_ne_nil field)
  | cons field fields ih =>
      cases second with
      | nil =>
          simp only [frames, List.flatMap_nil, List.flatMap_cons] at same
          exact absurd (List.append_eq_nil_iff.mp same).1 (frame_ne_nil field)
      | cons field' fields' =>
          simp only [frames, List.flatMap_cons] at same
          obtain ⟨heads, tails⟩ :=
            frame_append (firstFits _ (by simp)) (secondFits _ (by simp)) same
          rw [heads, ih (fun x member => firstFits x (by simp [member]))
            (fun x member => secondFits x (by simp [member])) tails]

/-! ## Records -/

variable {α β Field : Type}

/-- The fields rendered for a value fix it, up to `agree`, whatever follows them. -/
def Determines (render : α → List Field) (agree : α → α → Prop) : Prop :=
  ∀ a b rest rest', render a ++ rest = render b ++ rest' → agree a b ∧ rest = rest'

namespace Determines

/-- One field per value. -/
theorem single {field : α → Field} {agree : α → α → Prop}
    (injective : ∀ a b, field a = field b → agree a b) :
    Determines (fun a => [field a]) agree := by
  intro a b rest rest' same
  simp only [List.singleton_append, List.cons.injEq] at same
  exact ⟨injective a b same.1, same.2⟩

/-- One group of fields after another. -/
theorem append {first second : α → List Field} {agree agree' : α → α → Prop}
    (before : Determines first agree) (after : Determines second agree') :
    Determines (fun a => first a ++ second a) fun a b => agree a b ∧ agree' a b := by
  intro a b rest rest' same
  simp only [List.append_assoc] at same
  obtain ⟨agrees, remaining⟩ := before _ _ _ _ same
  obtain ⟨agrees', ends⟩ := after _ _ _ _ remaining
  exact ⟨⟨agrees, agrees'⟩, ends⟩

/-- A part of a value. -/
theorem part {render : β → List Field} {agree : β → β → Prop}
    (determines : Determines render agree) (project : α → β) :
    Determines (fun a => render (project a)) fun a b => agree (project a) (project b) :=
  fun a b rest rest' same => determines (project a) (project b) rest rest' same

/-- An optional group, replaced by one marker field when it is absent.  The group's
own first field never is the marker. -/
theorem optional {render : α → List Field} {agree : α → α → Prop} (marker : Field)
    (determines : Determines render agree)
    (unmarked : ∀ a, ∃ first fields, render a = first :: fields ∧ first ≠ marker) :
    Determines (fun o : Option α => o.elim [marker] render) (Option.Rel agree) := by
  intro a b rest rest' same
  cases a with
  | none =>
      cases b with
      | none => exact ⟨.none, (List.cons.inj same).2⟩
      | some b =>
          obtain ⟨first, fields, renders, distinct⟩ := unmarked b
          simp only [Option.elim_none, Option.elim_some, renders] at same
          exact absurd (List.cons.inj same).1.symm distinct
  | some a =>
      cases b with
      | none =>
          obtain ⟨first, fields, renders, distinct⟩ := unmarked a
          simp only [Option.elim_none, Option.elim_some, renders] at same
          exact absurd (List.cons.inj same).1 distinct
      | some b =>
          obtain ⟨agrees, ends⟩ := determines a b rest rest' same
          exact ⟨.some agrees, ends⟩

/-- A weaker relation is fixed too. -/
theorem mono {render : α → List Field} {agree weaker : α → α → Prop}
    (determines : Determines render agree) (weaken : ∀ a b, agree a b → weaker a b) :
    Determines render weaker := by
  intro a b rest rest' same
  obtain ⟨agrees, ends⟩ := determines a b rest rest' same
  exact ⟨weaken a b agrees, ends⟩

/-- Rendering is injective up to the relation. -/
theorem of_eq {render : α → List Field} {agree : α → α → Prop}
    (determines : Determines render agree) {a b : α} (same : render a = render b) :
    agree a b :=
  (determines a b [] [] (by simpa using same)).1

end Determines

end Framing
