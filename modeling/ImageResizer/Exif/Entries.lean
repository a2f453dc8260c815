import ImageResizer.Exif

/-!
# The first directory of an EXIF block

A block's orientation is that of the first entry with the orientation tag, the type of a
short and a count of one.  Neutralising overwrites the value of that entry and nothing
else, so a block that comes out of it asks for no turn.
-/

namespace ImageResizer

/-- `Orientation::from_exif`. -/
def Orientation.fromExif : Nat → Option Orientation
  | 1 => some .noTransforms
  | 2 => some .flipHorizontal
  | 3 => some .rotate180
  | 4 => some .flipVertical
  | 5 => some .rotate90FlipH
  | 6 => some .rotate90
  | 7 => some .rotate270FlipH
  | 8 => some .rotate270
  | _ => none

namespace Exif

open AvifMeta (slice checkedAdd)

/-! ## Entries -/

/-- An entry of a directory, at its place in the block. -/
structure IfdEntry where
  start : Nat
  tag : Nat
  kind : Nat
  count : Nat
  value : Nat

/-- An entry at a place, if the block has all of it. -/
def ifdEntry (exif : List UInt8) (littleEndian : Bool) (start : Nat) : Option IfdEntry := do
  let tag ← slice exif start (start + 2)
  let kind ← slice exif (start + 2) (start + 4)
  let count ← slice exif (start + 4) (start + 8)
  let value ← slice exif (start + 8) (start + 10)
  let _ ← slice exif (start + 10) (start + 12)
  pure
    { start
      tag := readUint littleEndian tag
      kind := readUint littleEndian kind
      count := readUint littleEndian count
      value := readUint littleEndian value }

/-- The entries from a place on, up to the first that the block cuts off. -/
def entriesFrom (exif : List UInt8) (littleEndian : Bool) : (remaining start : Nat) → List IfdEntry
  | 0, _ => []
  | remaining + 1, start =>
      match ifdEntry exif littleEndian start with
      | none => []
      | some entry => entry :: entriesFrom exif littleEndian remaining (start + ifdEntryLen)

/-- The first directory: its byte order, the place of its entries and how many it has. -/
def directory (exif : List UInt8) : Option EntryTable := do
  let littleEndian ← byteOrder (← slice exif 0 2)
  guard (readUint littleEndian (← slice exif 2 4) = 42)
  let offset := readUint littleEndian (← slice exif 4 8)
  let count := readUint littleEndian (← slice exif offset (offset + 2))
  pure { littleEndian, start := offset + 2, count }

/-- The entries of the first directory. -/
def ifd0Entries (exif : List UInt8) : List IfdEntry :=
  match directory exif with
  | none => []
  | some table => entriesFrom exif table.littleEndian table.count table.start

namespace IfdEntry

/-- The entry holds an orientation. -/
def HoldsOrientation (entry : IfdEntry) : Prop :=
  entry.tag = orientationTag ∧ entry.kind = typeShort ∧ entry.count = 1

instance (entry : IfdEntry) : Decidable entry.HoldsOrientation :=
  inferInstanceAs (Decidable (_ ∧ _ ∧ _))

end IfdEntry

/-- The orientation of a block: that of the first entry that holds one. -/
def readOrientation (exif : List UInt8) : Option Orientation :=
  ((ifd0Entries exif).find? fun entry => decide entry.HoldsOrientation).bind fun entry =>
    Orientation.fromExif entry.value

/-- A viewer of the block turns nothing. -/
def AsksNoTurn (exif : List UInt8) : Prop :=
  (readOrientation exif).getD .noTransforms = .noTransforms

instance (exif : List UInt8) : Decidable (AsksNoTurn exif) :=
  inferInstanceAs (Decidable (_ = _))

/-- Bytes differ only where entries with the orientation tag have their value. -/
def DiffersInOrientation (exif other : List UInt8) : Prop :=
  other.length = exif.length ∧ ∀ i, other[i]? ≠ exif[i]? →
    ∃ entry ∈ ifd0Entries exif, entry.tag = orientationTag ∧
      entry.start + 8 ≤ i ∧ i < entry.start + 12

/-! ## Overwriting a value -/

/-- The block with two bytes overwritten. -/
def patched (exif : List UInt8) (position : Nat) (value : List UInt8) : List UInt8 :=
  exif.take position ++ value ++ exif.drop (position + 2)

section Patch

variable {exif value : List UInt8} {position start stop : Nat}

theorem length_patched (fits : position + 2 ≤ exif.length) (two : value.length = 2) :
    (patched exif position value).length = exif.length := by
  rw [patched, List.length_append, List.length_append, List.length_take, List.length_drop, two]
  omega

/-- Bytes elsewhere stay. -/
theorem patched_getElem? (fits : position + 2 ≤ exif.length) (two : value.length = 2) {i : Nat}
    (outside : i < position ∨ position + 2 ≤ i) : (patched exif position value)[i]? = exif[i]? := by
  have front : (exif.take position).length = position := by
    rw [List.length_take]
    omega
  rw [patched, List.append_assoc]
  rcases outside with before | after
  · rw [List.getElem?_append_left (by omega), List.getElem?_take_of_lt before]
  · rw [List.getElem?_append_right (by omega), List.getElem?_append_right (by omega),
      List.getElem?_drop]
    congr 1
    omega

/-- A slice beside the overwritten bytes reads as before. -/
theorem slice_patched (fits : position + 2 ≤ exif.length) (two : value.length = 2)
    (beside : stop ≤ position ∨ position + 2 ≤ start) :
    slice (patched exif position value) start stop = slice exif start stop := by
  have same : ((patched exif position value).take stop).drop start =
      (exif.take stop).drop start := by
    apply List.ext_getElem?
    intro i
    rw [List.getElem?_drop, List.getElem?_drop, List.getElem?_take, List.getElem?_take]
    split
    · apply patched_getElem? fits two
      omega
    · rfl
  rw [slice, slice, length_patched fits two, same]

/-- The overwritten bytes read as they were written. -/
theorem slice_patched_self (fits : position + 2 ≤ exif.length) (two : value.length = 2) :
    slice (patched exif position value) position (position + 2) = some value := by
  have front : (exif.take position).length = position := by
    rw [List.length_take]
    omega
  have inside : (exif.take position ++ value).length = position + 2 := by
    rw [List.length_append, front, two]
  rw [slice, length_patched fits two, if_pos (by simpa using fits), patched,
    List.take_left' inside, List.drop_left' front]

end Patch

/-- An entry beside the overwritten bytes reads as before. -/
theorem ifdEntry_patched {exif value : List UInt8} {position start : Nat}
    (fits : position + 2 ≤ exif.length) (two : value.length = 2)
    (beside : start + 12 ≤ position ∨ position + 2 ≤ start) (littleEndian : Bool) :
    ifdEntry (patched exif position value) littleEndian start =
      ifdEntry exif littleEndian start := by
  rw [ifdEntry, ifdEntry]
  repeat rw [slice_patched fits two (by omega)]

/-- The directory of a block does not see values. -/
theorem directory_patched {exif value : List UInt8} {position : Nat}
    (fits : position + 2 ≤ exif.length) (two : value.length = 2) {table : EntryTable}
    (found : directory exif = some table) (behind : table.start + 8 ≤ position) :
    directory (patched exif position value) = some table := by
  simp only [directory, Option.bind_eq_bind, Option.bind_eq_some_iff, Option.guard_eq_some',
    Option.pure_def, Option.some.injEq] at found ⊢
  obtain ⟨mark, isMark, littleEndian, isOrder, magic, isMagic, _, fortyTwo, offset, isOffset,
    count, isCount, rfl⟩ := found
  simp only at behind
  refine ⟨mark, ?_, littleEndian, isOrder, magic, ?_, (), fortyTwo, offset, ?_, count, ?_, rfl⟩
  · rw [slice_patched fits two (by omega)]
    exact isMark
  · rw [slice_patched fits two (by omega)]
    exact isMagic
  · rw [slice_patched fits two (by omega)]
    exact isOffset
  · rw [slice_patched fits two (by omega)]
    exact isCount

/-! ## Neutralising -/

theorem length_normalBytes (littleEndian : Bool) : (normalBytes littleEndian).length = 2 := by
  cases littleEndian with
  | false => rfl
  | true => rfl

theorem readUint_normalBytes (littleEndian : Bool) :
    readUint littleEndian (normalBytes littleEndian) = 1 := by
  cases littleEndian with
  | false => rfl
  | true => rfl

/-- A slice inside the block is there. -/
theorem slice_inside {exif : List UInt8} {start stop : Nat} (order : start ≤ stop)
    (inside : stop ≤ exif.length) : ∃ part, slice exif start stop = some part := by
  rw [slice, if_pos (by simp [order, inside])]
  exact ⟨_, rfl⟩

theorem ifdEntry_inside {exif : List UInt8} {start : Nat} (inside : start + 12 ≤ exif.length)
    (littleEndian : Bool) : ∃ entry, ifdEntry exif littleEndian start = some entry := by
  obtain ⟨tag, isTag⟩ := @slice_inside exif start (start + 2) (by omega) (by omega)
  obtain ⟨kind, isKind⟩ := @slice_inside exif (start + 2) (start + 4) (by omega) (by omega)
  obtain ⟨count, isCount⟩ := @slice_inside exif (start + 4) (start + 8) (by omega) (by omega)
  obtain ⟨value, isValue⟩ := @slice_inside exif (start + 8) (start + 10) (by omega) (by omega)
  obtain ⟨unused, isUnused⟩ := @slice_inside exif (start + 10) (start + 12) (by omega) (by omega)
  rw [ifdEntry, isTag, isKind, isCount, isValue, isUnused]
  exact ⟨_, rfl⟩

section Entry

variable {exif : List UInt8} {littleEndian : Bool} {start : Nat} {entry : IfdEntry}

theorem start_of_ifdEntry (read : ifdEntry exif littleEndian start = some entry) :
    entry.start = start := by
  simp only [ifdEntry, Option.bind_eq_bind, Option.bind_eq_some_iff, Option.pure_def,
    Option.some.injEq] at read
  obtain ⟨_, _, _, _, _, _, _, _, _, _, rfl⟩ := read
  rfl

/-- One step of the walk, on the entry it reads. -/
theorem neutralizeFrom_succ (read : ifdEntry exif littleEndian start = some entry)
    (remaining : Nat) :
    neutralizeFrom exif littleEndian (remaining + 1) start =
      if entry.tag ≠ orientationTag then
        neutralizeFrom exif littleEndian remaining (start + ifdEntryLen)
      else if entry.kind ≠ typeShort ∨ entry.count ≠ 1 then pure none
      else some <$> patch exif (start + 8) (normalBytes littleEndian) := by
  simp only [ifdEntry, Option.bind_eq_bind, Option.bind_eq_some_iff, Option.pure_def,
    Option.some.injEq] at read
  obtain ⟨tag, isTag, kind, isKind, count, isCount, _, _, _, _, rfl⟩ := read
  rw [neutralizeFrom, isTag, isKind, isCount]

/-- An entry whose value was overwritten, read again. -/
theorem ifdEntry_patched_self (inside : start + 12 ≤ exif.length)
    (read : ifdEntry exif littleEndian start = some entry) :
    ifdEntry (patched exif (start + 8) (normalBytes littleEndian)) littleEndian start =
      some { entry with value := 1 } := by
  have two := length_normalBytes littleEndian
  have fits : start + 8 + 2 ≤ exif.length := by omega
  have overwritten := slice_patched_self fits two
  have kept {low high : Nat} {part : List UInt8} (isPart : slice exif low high = some part)
      (beside : high ≤ start + 8 ∨ start + 8 + 2 ≤ low) :
      slice (patched exif (start + 8) (normalBytes littleEndian)) low high = some part :=
    (slice_patched fits two beside).trans isPart
  simp only [ifdEntry, Option.bind_eq_bind, Option.bind_eq_some_iff, Option.pure_def,
    Option.some.injEq] at read
  obtain ⟨tag, isTag, kind, isKind, count, isCount, value, isValue, unused, isUnused, rfl⟩ := read
  rw [ifdEntry, kept isTag (by omega), kept isKind (by omega), kept isCount (by omega),
    overwritten, kept isUnused (by omega)]
  simp only [Option.bind_eq_bind, Option.bind_some, readUint_normalBytes]
  rfl

end Entry

/-- What the walk returns is the block with the value of an orientation entry overwritten,
and that entry is then the first that holds an orientation. -/
theorem neutralizeFrom_some {exif result : List UInt8} {littleEndian : Bool}
    {remaining start : Nat} (inside : start + remaining * ifdEntryLen ≤ exif.length)
    (walked : neutralizeFrom exif littleEndian remaining start = .ok (some result)) :
    ∃ entry ∈ entriesFrom exif littleEndian remaining start,
      entry.tag = orientationTag ∧ start ≤ entry.start ∧ entry.start + 12 ≤ exif.length ∧
      result = patched exif (entry.start + 8) (normalBytes littleEndian) ∧
      (entriesFrom result littleEndian remaining start).find?
        (fun entry => decide entry.HoldsOrientation) = some { entry with value := 1 } := by
  induction remaining generalizing start with
  | zero => cases walked
  | succ remaining ih =>
      rw [ifdEntryLen] at inside
      have here : start + 12 ≤ exif.length := by omega
      obtain ⟨entry, read⟩ := ifdEntry_inside here littleEndian
      have place := start_of_ifdEntry read
      rw [neutralizeFrom_succ read] at walked
      by_cases orientation : entry.tag = orientationTag
      · rw [if_neg (not_not.mpr orientation)] at walked
        by_cases short : entry.kind ≠ typeShort ∨ entry.count ≠ 1
        · rw [if_pos short] at walked
          cases walked
        · rw [if_neg short, patch, Outcome.assert_ok (by omega)] at walked
          cases walked
          have holds : IfdEntry.HoldsOrientation { entry with value := 1 } := by
            refine ⟨orientation, ?_, ?_⟩
            · exact not_not.mp fun other => short (.inl other)
            · exact not_not.mp fun other => short (.inr other)
          have again := ifdEntry_patched_self here read
          refine ⟨entry, ?_, orientation, place.ge, by omega, by rw [place]; rfl, ?_⟩
          · rw [entriesFrom, read]
            exact List.mem_cons_self ..
          · rw [patched] at again
            rw [entriesFrom, again, List.find?_cons_of_pos (by simpa using holds)]
      · rw [if_pos orientation] at walked
        obtain ⟨found, member, tagged, later, fits, isResult, first⟩ :=
          ih (by rw [ifdEntryLen]; omega) walked
        refine ⟨found, ?_, tagged, by rw [ifdEntryLen] at later; omega, fits, isResult, ?_⟩
        · rw [entriesFrom, read]
          exact List.mem_cons_of_mem _ member
        · have unturned : ¬ entry.HoldsOrientation := fun holds => orientation holds.1
          have again : ifdEntry result littleEndian start = some entry := by
            rw [isResult, ifdEntry_patched (by omega) (length_normalBytes _)
              (.inl (by rw [ifdEntryLen] at later; omega)), read]
          rw [entriesFrom, again, List.find?_cons_of_neg (by simpa using unturned)]
          exact first

/-- A table that lies inside the block is that of its first directory. -/
theorem directory_of_entryTable {exif : List UInt8} {table : EntryTable}
    (found : entryTable exif = some table) :
    directory exif = some table ∧ table.start + table.count * ifdEntryLen ≤ exif.length := by
  simp only [entryTable, directory, checkedAdd, Option.bind_eq_bind, Option.bind_eq_some_iff,
    Option.guard_eq_some', Option.ite_none_right_eq_some, Option.pure_def, Option.some.injEq]
    at found ⊢
  obtain ⟨mark, isMark, littleEndian, isOrder, magic, isMagic, _, fortyTwo, offset, isOffset,
    _, ⟨_, rfl⟩, count, isCount, _, ⟨_, rfl⟩, _, inside, rfl⟩ := found
  exact ⟨⟨mark, isMark, littleEndian, isOrder, magic, isMagic, (), fortyTwo, offset, isOffset,
    count, isCount, rfl⟩, inside⟩

/-- Neutralising changes nothing but the value of an orientation entry, and what comes out
asks for no turn. -/
theorem neutralizeExifOrientation_some {exif result : List UInt8}
    (neutralized : neutralizeExifOrientation exif = .ok (some result)) :
    DiffersInOrientation exif result ∧ AsksNoTurn result := by
  rw [neutralizeExifOrientation] at neutralized
  cases found : entryTable exif with
  | none =>
      rw [found] at neutralized
      cases neutralized
  | some table =>
      rw [found] at neutralized
      obtain ⟨isDirectory, inside⟩ := directory_of_entryTable found
      obtain ⟨entry, member, tagged, behind, fits, isResult, first⟩ :=
        neutralizeFrom_some inside neutralized
      have two := length_normalBytes table.littleEndian
      have room : entry.start + 8 + 2 ≤ exif.length := by omega
      have same : directory result = some table := by
        rw [isResult]
        exact directory_patched room two isDirectory (by omega)
      refine ⟨⟨?_, ?_⟩, ?_⟩
      · rw [isResult, length_patched room two]
      · intro i differs
        rw [isResult] at differs
        refine ⟨entry, ?_, tagged, ?_⟩
        · rw [ifd0Entries, isDirectory]
          exact member
        · by_contra outside
          exact differs (patched_getElem? room two (by omega))
      · rw [AsksNoTurn, readOrientation, ifd0Entries, same]
        simp only [first, Option.bind_some]
        rfl

end Exif

end ImageResizer
