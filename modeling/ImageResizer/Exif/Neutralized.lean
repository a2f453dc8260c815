import ImageResizer.Exif.Entries
import ImageResizer.Foundation.ReaderWriter

/-!
# When an orientation is neutralised

`neutralize_exif_orientation` accepts exactly the blocks whose first directory lies inside
them and whose first entry with the orientation tag is one short.  It overwrites the value of
that entry, which the walk to it never reads, so doing it again changes nothing.
-/

namespace ImageResizer.Exif

open AvifMeta (slice checkedAdd)

/-- An entry with the orientation tag. -/
def isOrientation (entry : IfdEntry) : Bool := decide (entry.tag = orientationTag)

/-- The first directory lies inside the block, and its first entry with the orientation tag
is one short. -/
structure Neutralizable (exif : List UInt8) (table : EntryTable) (entry : IfdEntry) : Prop where
  directory : directory exif = some table
  inside : table.start + table.count * ifdEntryLen ≤ exif.length
  first : (entriesFrom exif table.littleEndian table.count table.start).find? isOrientation =
    some entry
  short : entry.kind = typeShort
  single : entry.count = 1

section Table

variable {exif : List UInt8} {table : EntryTable}

theorem readUint_lt (littleEndian : Bool) (digits : List UInt8) :
    readUint littleEndian digits < 256 ^ digits.length := by
  unfold readUint
  cases littleEndian with
  | false => exact Reader.bigEndian_lt digits
  | true =>
      have bound := Reader.bigEndian_lt digits.reverse
      rwa [List.length_reverse] at bound

theorem length_slice {part : List UInt8} {start stop : Nat}
    (found : slice exif start stop = some part) : part.length = stop - start := by
  unfold slice at found
  split at found
  case isTrue inside =>
      simp only [Bool.and_eq_true, decide_eq_true_eq] at inside
      cases found
      rw [List.length_drop, List.length_take, min_eq_left inside.2]
  case isFalse outside => cases found

/-- The sums of offsets cannot overflow: an offset has four bytes and a count two. -/
theorem entryTable_of_directory (found : directory exif = some table)
    (inside : table.start + table.count * ifdEntryLen ≤ exif.length) :
    entryTable exif = some table := by
  simp only [directory, entryTable, checkedAdd, Option.bind_eq_bind, Option.bind_eq_some_iff,
    Option.guard_eq_some', Option.ite_none_right_eq_some, Option.pure_def, Option.some.injEq]
    at found ⊢
  obtain ⟨mark, isMark, littleEndian, isOrder, magic, isMagic, _, fortyTwo, offset, isOffset,
    count, isCount, rfl⟩ := found
  have offsetSmall := readUint_lt littleEndian offset
  have countSmall := readUint_lt littleEndian count
  rw [length_slice isOffset] at offsetSmall
  rw [length_slice isCount, Nat.add_sub_cancel_left] at countSmall
  norm_num at offsetSmall countSmall
  dsimp only at inside
  refine ⟨mark, isMark, littleEndian, isOrder, magic, isMagic, (), fortyTwo, offset, isOffset,
    _, ⟨?_, rfl⟩, count, isCount, _, ⟨?_, rfl⟩, (), inside, rfl⟩
  · omega
  · rw [ifdEntryLen]
    omega

end Table

section Walk

variable {exif : List UInt8} {littleEndian : Bool} {remaining start : Nat} {entry : IfdEntry}

/-- What a walk makes of the entry it stops at. -/
def neutralizedAt (exif : List UInt8) (littleEndian : Bool) (entry : IfdEntry) :
    Option (List UInt8) :=
  if entry.kind ≠ typeShort ∨ entry.count ≠ 1 then none
  else some (patched exif (entry.start + 8) (normalBytes littleEndian))

/-- The walk stops at the first entry with the orientation tag, and decides there. -/
theorem neutralizeFrom_eq (inside : start + remaining * ifdEntryLen ≤ exif.length) :
    neutralizeFrom exif littleEndian remaining start =
      .ok (((entriesFrom exif littleEndian remaining start).find? isOrientation).bind
        (neutralizedAt exif littleEndian)) := by
  induction remaining generalizing start with
  | zero => rfl
  | succ remaining ih =>
      rw [ifdEntryLen] at inside
      have here : start + 12 ≤ exif.length := by omega
      obtain ⟨entry, read⟩ := ifdEntry_inside here littleEndian
      have place := start_of_ifdEntry read
      rw [neutralizeFrom_succ read, entriesFrom, read]
      by_cases orientation : entry.tag = orientationTag
      case neg =>
          rw [if_pos orientation, List.find?_cons_of_neg (by simpa [isOrientation] using orientation)]
          exact ih (by rw [ifdEntryLen]; omega)
      case pos =>
          rw [if_neg (not_not.mpr orientation),
            List.find?_cons_of_pos (by simpa [isOrientation] using orientation)]
          simp only [Option.bind_some, neutralizedAt]
          split
          case isTrue other => rfl
          case isFalse short =>
              rw [patch, Outcome.assert_ok (by omega), place]
              rfl

/-- The entry a search finds lies inside the table. -/
theorem start_of_find (inside : start + remaining * ifdEntryLen ≤ exif.length)
    (found : (entriesFrom exif littleEndian remaining start).find? isOrientation = some entry) :
    start ≤ entry.start ∧ entry.start + ifdEntryLen ≤ exif.length := by
  induction remaining generalizing start with
  | zero => cases found
  | succ remaining ih =>
      rw [ifdEntryLen] at inside
      obtain ⟨next, read⟩ := @ifdEntry_inside exif start (by omega) littleEndian
      have place := start_of_ifdEntry read
      rw [entriesFrom, read] at found
      cases orientation : isOrientation next with
      | true =>
          rw [List.find?_cons_of_pos orientation] at found
          cases found
          rw [ifdEntryLen]
          omega
      | false =>
          rw [List.find?_cons_of_neg (by rw [orientation]; decide)] at found
          have later := ih (by rw [ifdEntryLen]; omega) found
          rw [ifdEntryLen] at later ⊢
          omega

/-- Overwriting the value of the entry a search finds leaves the search as it was. -/
theorem find_patched (inside : start + remaining * ifdEntryLen ≤ exif.length)
    (found : (entriesFrom exif littleEndian remaining start).find? isOrientation = some entry) :
    (entriesFrom (patched exif (entry.start + 8) (normalBytes littleEndian)) littleEndian remaining
      start).find? isOrientation = some { entry with value := 1 } := by
  induction remaining generalizing start with
  | zero => cases found
  | succ remaining ih =>
      obtain ⟨behind, fits⟩ := start_of_find inside found
      rw [ifdEntryLen] at inside fits
      obtain ⟨next, read⟩ := @ifdEntry_inside exif start (by omega) littleEndian
      have place := start_of_ifdEntry read
      rw [entriesFrom, read] at found
      cases orientation : isOrientation next with
      | true =>
          rw [List.find?_cons_of_pos orientation] at found
          cases found
          subst place
          have held : isOrientation { entry with value := 1 } = true := orientation
          rw [entriesFrom, ifdEntry_patched_self (by omega) read]
          exact List.find?_cons_of_pos held
      | false =>
          rw [List.find?_cons_of_neg (by rw [orientation]; decide)] at found
          obtain ⟨later, -⟩ := start_of_find (by rw [ifdEntryLen]; omega) found
          rw [ifdEntryLen] at later
          have again : ifdEntry (patched exif (entry.start + 8) (normalBytes littleEndian))
              littleEndian start = some next := by
            rw [ifdEntry_patched (by omega) (length_normalBytes _) (.inl (by omega)), read]
          rw [entriesFrom, again]
          rw [List.find?_cons_of_neg (by rw [orientation]; decide)]
          exact ih (by rw [ifdEntryLen]; omega) found

end Walk

/-- Writing the same bytes over themselves. -/
theorem patched_patched {exif value : List UInt8} {position : Nat}
    (fits : position + 2 ≤ exif.length) (two : value.length = 2) :
    patched (patched exif position value) position value = patched exif position value := by
  apply List.ext_getElem?
  intro i
  by_cases outside : i < position ∨ position + 2 ≤ i
  case pos =>
      have room : position + 2 ≤ (patched exif position value).length := by
        rw [length_patched fits two]
        exact fits
      exact patched_getElem? room two outside
  case neg =>
      have front : (exif.take position).length = position := by
        rw [List.length_take]
        omega
      have again : ((patched exif position value).take position).length = position := by
        rw [List.length_take, length_patched fits two]
        omega
      rw [patched, List.append_assoc, List.getElem?_append_right (by omega), again,
        List.getElem?_append_left (by omega), patched, List.append_assoc,
        List.getElem?_append_right (by omega), front, List.getElem?_append_left (by omega)]

section Result

variable {exif : List UInt8} {table : EntryTable} {entry : IfdEntry}

/-- The block with the orientation of an entry overwritten. -/
def neutralized (exif : List UInt8) (table : EntryTable) (entry : IfdEntry) : List UInt8 :=
  patched exif (entry.start + 8) (normalBytes table.littleEndian)

theorem neutralize_of_neutralizable (holds : Neutralizable exif table entry) :
    neutralizeExifOrientation exif = .ok (some (neutralized exif table entry)) := by
  unfold neutralizeExifOrientation
  rw [entryTable_of_directory holds.directory holds.inside]
  dsimp only
  rw [neutralizeFrom_eq holds.inside, holds.first, Option.bind_some, neutralizedAt, if_neg]
  · rfl
  · rintro (kind | count)
    · exact kind holds.short
    · exact count holds.single

theorem neutralizable_of_neutralize {result : List UInt8}
    (ended : neutralizeExifOrientation exif = .ok (some result)) :
    ∃ table entry, Neutralizable exif table entry := by
  unfold neutralizeExifOrientation at ended
  cases found : entryTable exif with
  | none =>
      rw [found] at ended
      cases ended
  | some table =>
      rw [found] at ended
      obtain ⟨isDirectory, inside⟩ := directory_of_entryTable found
      dsimp only at ended
      rw [neutralizeFrom_eq inside] at ended
      obtain ⟨entry, first, decided⟩ := Option.bind_eq_some_iff.mp (Except.ok.inj ended)
      unfold neutralizedAt at decided
      split at decided
      case isTrue other => cases decided
      case isFalse short =>
          obtain ⟨kind, count⟩ := not_or.mp short
          exact ⟨table, entry, isDirectory, inside, first, not_not.mp kind, not_not.mp count⟩

/-- A neutralised block is accepted again, at the same entry. -/
theorem neutralizable_neutralized (holds : Neutralizable exif table entry) :
    Neutralizable (neutralized exif table entry) table { entry with value := 1 } := by
  obtain ⟨behind, fits⟩ := start_of_find holds.inside holds.first
  rw [ifdEntryLen] at fits
  have two := length_normalBytes table.littleEndian
  have room : entry.start + 8 + 2 ≤ exif.length := by omega
  constructor
  · exact directory_patched room two holds.directory (by omega)
  · rw [neutralized, length_patched room two]
    exact holds.inside
  · exact find_patched holds.inside holds.first
  · exact holds.short
  · exact holds.single

/-- Neutralising never leaves the block, and has a result exactly for a block with an
orientation to overwrite.  The result is as long, differs in the two bytes of the value at
most, reads one there, and is its own neutralisation. -/
theorem neutralizeExifOrientation_exact (exif : List UInt8) :
    ∃ result, neutralizeExifOrientation exif = .ok result ∧
      ((∃ p, result = some p) ↔ ∃ table entry, Neutralizable exif table entry) ∧
      ∀ table entry, Neutralizable exif table entry →
        ∃ p, result = some p ∧ p.length = exif.length ∧
          (∀ i, p[i]? ≠ exif[i]? → i = entry.start + 8 ∨ i = entry.start + 9) ∧
          (slice p (entry.start + 8) (entry.start + 10)).map (readUint table.littleEndian) =
            some 1 ∧
          neutralizeExifOrientation p = .ok (some p) := by
  have ends : ∃ result, neutralizeExifOrientation exif = .ok result := by
    unfold neutralizeExifOrientation
    cases found : entryTable exif with
    | none => exact ⟨none, rfl⟩
    | some table => exact ⟨_, neutralizeFrom_eq (directory_of_entryTable found).2⟩
  obtain ⟨result, ended⟩ := ends
  refine ⟨result, ended, ?_, ?_⟩
  · constructor
    · rintro ⟨p, rfl⟩
      exact neutralizable_of_neutralize ended
    · rintro ⟨table, entry, holds⟩
      rw [neutralize_of_neutralizable holds] at ended
      exact ⟨_, (Except.ok.inj ended).symm⟩
  · intro table entry holds
    obtain ⟨behind, fits⟩ := start_of_find holds.inside holds.first
    rw [ifdEntryLen] at fits
    have two := length_normalBytes table.littleEndian
    have room : entry.start + 8 + 2 ≤ exif.length := by omega
    have again := neutralize_of_neutralizable (neutralizable_neutralized holds)
    rw [neutralize_of_neutralizable holds] at ended
    refine ⟨neutralized exif table entry, (Except.ok.inj ended).symm,
      length_patched room two, ?_, ?_, ?_⟩
    · intro i differs
      by_contra outside
      apply differs
      apply patched_getElem? room two
      omega
    · rw [neutralized, slice_patched_self room two, Option.map_some, readUint_normalBytes]
    · rw [again]
      congr 2
      exact patched_patched room two

/-- A big-endian block of one entry, a quarter turn. -/
def motorolaBlock : List UInt8 :=
  [0x4d, 0x4d, 0, 42, 0, 0, 0, 8, 0, 1, 0x01, 0x12, 0, 3, 0, 0, 0, 1, 0, 6, 0, 0]

deriving instance DecidableEq for EntryTable

deriving instance DecidableEq for IfdEntry

theorem neutralizeExifOrientation_exact_motorola :
    ∃ p, neutralizeExifOrientation motorolaBlock = .ok (some p) ∧ p.length = 22 := by
  obtain ⟨result, ended, -, each⟩ := neutralizeExifOrientation_exact motorolaBlock
  obtain ⟨p, rfl, length, -⟩ := each ⟨false, 10, 1⟩ ⟨10, 0x0112, 3, 1, 6⟩
    ⟨by decide +kernel, by decide, by decide +kernel, rfl, rfl⟩
  exact ⟨p, ended, length⟩

end Result

end ImageResizer.Exif
