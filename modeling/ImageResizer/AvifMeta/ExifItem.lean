import ImageResizer.AvifMeta.Layout
import ImageResizer.AvifMeta.Work

/-!
# The EXIF item of a container

A payload is the distance to its TIFF block, as many bytes of filler and the block.  It lies
in the file in pieces, `iloc` says where and `iinf` says which item it is.  What is stored
so is what `parse` recovers, and whatever `parse` recovers was stored so.
-/

namespace ImageResizer.AvifMeta

open Reader

/-! ## Item information -/

/-- An `infe` entry of a version that carries an item type. -/
structure ItemInfo where
  version : Nat
  typed : version = 2 ∨ version = 3
  flags : Bytes
  flagsFit : flags.length = 3
  itemId : Nat
  itemIdFits : itemId < 256 ^ shortOrLongWidth (version = 2)
  protection : Bytes
  protectionFits : protection.length = 2
  itemType : Bytes
  itemTypeFits : itemType.length = 4
  trailing : Bytes

/-- A child of `iinf`: an entry with an item type, one of another version, or a box of
another kind. -/
inductive InfoBox where
  | entry (info : ItemInfo)
  | untyped (version : UInt8) (rest : Bytes) (older : version.toNat ≠ 2 ∧ version.toNat ≠ 3)
  | other (box : Box) (unlike : box.boxType ≠ fourCC 'i' 'n' 'f' 'e')

namespace ItemInfo

variable (info : ItemInfo)

def write : Bytes :=
  uintBytes 1 info.version ++ (info.flags ++
    (uintBytes (shortOrLongWidth (info.version = 2)) info.itemId ++
      (info.protection ++ info.itemType))) ++ info.trailing

theorem infeItem_reads :
    Reads infeItem (uintBytes 1 info.version ++ (info.flags ++
      (uintBytes (shortOrLongWidth (info.version = 2)) info.itemId ++
        (info.protection ++ info.itemType)))) (info.itemId, info.itemType) := by
  have version : info.version < 256 ^ 1 := by
    rcases info.typed with two | three
    · omega
    · omega
  rw [infeItem]
  apply (Reads.uint version).bind
  apply (Reads.bytes_of_length info.flagsFit).bind
  rw [infeItemId, if_pos info.typed]
  apply (shortOrLong_reads info.itemIdFits).bind
  apply (Reads.bytes_of_length info.protectionFits).bind
  exact (Reads.bytes_of_length info.itemTypeFits).done (Reads.pure _)

end ItemInfo

namespace InfoBox

/-- The box of `iinf` that a child is written as. -/
def box : InfoBox → Box
  | .entry info => ⟨fourCC 'i' 'n' 'f' 'e', info.write⟩
  | .untyped version rest _ => ⟨fourCC 'i' 'n' 'f' 'e', version :: rest⟩
  | .other box _ => box

/-- The item of an entry of type `Exif`. -/
def exif : InfoBox → Option Nat
  | .entry info => if info.itemType = fourCC 'E' 'x' 'i' 'f' then some info.itemId else none
  | .untyped _ _ _ => none
  | .other _ _ => none

/-- An entry of a version without an item type announces nothing. -/
theorem parseInfeExifItemId_untyped {version : UInt8} {rest : Bytes}
    (older : version.toNat ≠ 2 ∧ version.toNat ≠ 3) :
    parseInfeExifItemId (version :: rest) = none := by
  have first : (uint 1).run (version :: rest) = some (version.toNat, rest) := by
    simp [uint, Reader.bytes, bigEndian, StateT.run, Functor.map, StateT.map]
  have failed : infeItem.run (version :: rest) = none := by
    rw [infeItem, StateT.run_bind, first]
    change ((Reader.bytes 3).run rest).bind _ = none
    cases (Reader.bytes 3).run rest with
    | none => rfl
    | some read =>
        rw [Option.bind_some, infeItemId, if_neg (not_or.mpr older)]
        rfl
  rw [parseInfeExifItemId, failed]

/-- A child announces the EXIF item when it is an entry of that type. -/
theorem exifItem_box (child : InfoBox) : exifItem child.box = child.exif := by
  cases child with
  | entry info =>
      rw [exifItem, box, if_pos rfl, parseInfeExifItemId, ItemInfo.write, info.infeItem_reads]
      rfl
  | untyped version rest older =>
      rw [exifItem, box, if_pos rfl, parseInfeExifItemId_untyped older]
      rfl
  | other box unlike => exact if_neg unlike

end InfoBox

/-- `iinf`: which items there are.  Its count is not used. -/
structure ItemInfos where
  version : Nat
  versionFits : version < 256
  flags : Bytes
  flagsFit : flags.length = 3
  count : Nat
  countFits : count < 256 ^ shortOrLongWidth (version = 0)
  children : List InfoBox
  written : Bytes
  childrenWritten : Written (children.map InfoBox.box) written

namespace ItemInfos

variable (iinf : ItemInfos)

def write : Bytes :=
  uintBytes 1 iinf.version ++ (iinf.flags ++
    uintBytes (shortOrLongWidth (iinf.version = 0)) iinf.count) ++ iinf.written

theorem iinfChildren_write : iinfChildren iinf.write = some iinf.written := by
  have reads : Reads iinfHeader (uintBytes 1 iinf.version ++ (iinf.flags ++
      uintBytes (shortOrLongWidth (iinf.version = 0)) iinf.count)) () := by
    rw [iinfHeader]
    apply (Reads.uint (by simpa using iinf.versionFits)).bind
    apply (Reads.bytes_of_length iinf.flagsFit).bind
    exact (shortOrLong_reads iinf.countFits).done (Reads.pure _)
  rw [iinfChildren, write, reads]
  rfl

/-- The EXIF item is that of the first entry of its type. -/
theorem findExifItemId_write {budget : Nat} (enough : iinf.children.length ≤ budget) :
    (findExifItemId iinf.write budget).1 = iinf.children.findSome? InfoBox.exif := by
  have walked : walkBoxes iinf.written 2 budget =
      ⟨iinf.children.map InfoBox.box, budget - (iinf.children.map InfoBox.box).length⟩ :=
    walkBoxes_written (by decide) iinf.childrenWritten (by rw [List.length_map]; exact enough)
  rw [findExifItemId, iinf.iinfChildren_write]
  simp only [walked, List.findSome?_map]
  congr 1
  funext child
  exact child.exifItem_box

end ItemInfos

/-! ## Item locations -/

theorem readUint_reads {size value : Nat} (narrow : size ≤ 8) (fits : value < 256 ^ size) :
    Reads (readUint size) (uintBytes size value) value := by
  rw [readUint]
  by_cases empty : size = 0
  · subst empty
    have zero : value = 0 := by simpa using fits
    rw [if_pos rfl, zero]
    exact Reads.pure 0
  · rw [if_neg empty, if_neg (Nat.not_lt.mpr narrow)]
    exact Reads.uint fits

/-- An extent: an index, and the place of a piece in the file. -/
structure Extent where
  index : Nat
  offset : Nat
  length : Nat

/-- The entry of an item in `iloc`.  The construction method has reserved bits in front. -/
structure Location where
  itemId : Nat
  reserved : Nat
  constructionMethod : Nat
  dataReference : Bytes
  baseOffset : Nat
  extents : List Extent

/-- `iloc`: where the items are. -/
structure ItemLocations where
  version : Nat
  flags : Bytes
  offsetSize : Nat
  lengthSize : Nat
  baseOffsetSize : Nat
  indexSize : Nat
  entries : List Location
  trailing : Bytes

namespace ItemLocations

variable (iloc : ItemLocations)

/-- The front of the box as it is read. -/
def header : IlocHeader where
  version := iloc.version
  offsetSize := iloc.offsetSize
  lengthSize := iloc.lengthSize
  baseOffsetSize := iloc.baseOffsetSize
  indexSize := iloc.indexSize
  itemCount := iloc.entries.length

def writeExtent (extent : Extent) : Bytes :=
  uintBytes iloc.header.indexWidth extent.index ++
    (uintBytes iloc.offsetSize extent.offset ++ uintBytes iloc.lengthSize extent.length)

/-- The bytes of a construction method: none in a version without it. -/
def methodWidth : Nat := if iloc.header.indexed then 2 else 0

def writeEntryHeader (entry : Location) : Bytes :=
  uintBytes (shortOrLongWidth (iloc.version < 2)) entry.itemId ++
    (uintBytes iloc.methodWidth (entry.reserved * 16 + entry.constructionMethod) ++
      (entry.dataReference ++ (uintBytes iloc.baseOffsetSize entry.baseOffset ++
        uintBytes 2 entry.extents.length)))

def writeEntry (entry : Location) : Bytes :=
  iloc.writeEntryHeader entry ++ entry.extents.flatMap iloc.writeExtent

def writeHeader : Bytes :=
  uintBytes 1 iloc.version ++ (iloc.flags ++
    (uintBytes 1 (iloc.offsetSize * 16 + iloc.lengthSize) ++
      (uintBytes 1 (iloc.baseOffsetSize * 16 + iloc.indexSize) ++
        uintBytes (shortOrLongWidth (iloc.version < 2)) iloc.entries.length)))

def write : Bytes :=
  iloc.writeHeader ++ (iloc.entries.flatMap iloc.writeEntry ++ iloc.trailing)

structure ExtentFits (extent : Extent) : Prop where
  index : extent.index < 256 ^ iloc.header.indexWidth
  offset : extent.offset < 256 ^ iloc.offsetSize
  length : extent.length < 256 ^ iloc.lengthSize

structure EntryFits (entry : Location) : Prop where
  itemId : entry.itemId < 256 ^ shortOrLongWidth (iloc.version < 2)
  method : entry.constructionMethod < 16
  methodBits : entry.reserved * 16 + entry.constructionMethod < 256 ^ iloc.methodWidth
  dataReference : entry.dataReference.length = 2
  baseOffset : entry.baseOffset < 256 ^ iloc.baseOffsetSize
  count : entry.extents.length < 256 ^ 2
  extent : ∀ extent ∈ entry.extents, iloc.ExtentFits extent

structure Fits : Prop where
  version : iloc.version ≤ 2
  flags : iloc.flags.length = 3
  offsetSize : iloc.offsetSize ≤ 8
  lengthSize : iloc.lengthSize ≤ 8
  baseOffsetSize : iloc.baseOffsetSize ≤ 8
  indexSize : iloc.indexSize < 16
  indexWidth : iloc.header.indexWidth ≤ 8
  count : iloc.entries.length < 256 ^ shortOrLongWidth (iloc.version < 2)
  entry : ∀ entry ∈ iloc.entries, iloc.EntryFits entry

variable {iloc}

/-- Two fields of four bits each, apart again. -/
theorem nibbles {high low : Nat} (small : low < 16) :
    (high * 16 + low) / 16 = high ∧ (high * 16 + low) % 16 = low := by
  omega

theorem Fits.header_reads (fits : iloc.Fits) :
    Reads ilocHeader iloc.writeHeader iloc.header := by
  obtain ⟨version, flags, offsetSize, lengthSize, baseOffsetSize, indexSize, _, count, _⟩ := fits
  have sizes := @nibbles iloc.offsetSize iloc.lengthSize (by omega)
  have sizes2 := @nibbles iloc.baseOffsetSize iloc.indexSize indexSize
  have reads : Reads ilocHeader iloc.writeHeader
      { version := iloc.version
        offsetSize := (iloc.offsetSize * 16 + iloc.lengthSize) / 16
        lengthSize := (iloc.offsetSize * 16 + iloc.lengthSize) % 16
        baseOffsetSize := (iloc.baseOffsetSize * 16 + iloc.indexSize) / 16
        indexSize := (iloc.baseOffsetSize * 16 + iloc.indexSize) % 16
        itemCount := iloc.entries.length } := by
    apply (Reads.uint (by omega)).bind
    apply (Reads.bytes_of_length flags).bind
    apply (Reads.uint (by omega)).bind
    apply (Reads.uint (by omega)).bind
    exact (shortOrLong_reads count).done (Reads.pure _)
  rw [sizes.1, sizes.2, sizes2.1, sizes2.2] at reads
  exact reads

theorem method_reads {entry : Location} (method : entry.constructionMethod < 16)
    (bits : entry.reserved * 16 + entry.constructionMethod < 256 ^ iloc.methodWidth) :
    Reads (constructionMethod iloc.header.indexed)
      (uintBytes iloc.methodWidth (entry.reserved * 16 + entry.constructionMethod))
      entry.constructionMethod := by
  rw [constructionMethod]
  rw [methodWidth] at bits ⊢
  cases indexed : iloc.header.indexed with
  | false =>
      rw [indexed] at bits
      have zero : entry.constructionMethod = 0 := by
        simp only [Bool.false_eq_true, if_false, Nat.pow_zero] at bits
        omega
      rw [zero]
      exact Reads.pure 0
  | true =>
      rw [indexed] at bits
      have reads := (Reads.uint bits).map (· % 16)
      rw [(nibbles method).2] at reads
      exact reads

theorem entryHeader_reads {entry : Location} (fits : iloc.Fits) (entryFits : iloc.EntryFits entry) :
    Reads (ilocItem iloc.header) (iloc.writeEntryHeader entry)
      { itemId := entry.itemId
        constructionMethod := entry.constructionMethod
        baseOffset := entry.baseOffset
        extentCount := entry.extents.length } := by
  apply (shortOrLong_reads entryFits.itemId).bind
  apply (method_reads entryFits.method entryFits.methodBits).bind
  apply (Reads.bytes_of_length entryFits.dataReference).bind
  apply (readUint_reads fits.baseOffsetSize entryFits.baseOffset).bind
  exact (Reads.uint entryFits.count).done (Reads.pure _)

theorem extent_reads {extent : Extent} (fits : iloc.Fits) (extentFits : iloc.ExtentFits extent) :
    Reads (ilocExtent iloc.header) (iloc.writeExtent extent) (extent.offset, extent.length) := by
  apply (readUint_reads fits.indexWidth extentFits.index).bind
  apply (readUint_reads fits.offsetSize extentFits.offset).bind
  exact (readUint_reads fits.lengthSize extentFits.length).done (Reads.pure _)

theorem entry_reads {entry : Location} (fits : iloc.Fits) (entryFits : iloc.EntryFits entry) :
    ReadsEntry (ilocItem iloc.header) (fun _ => ilocExtent iloc.header) IlocItem.extentCount
      (iloc.writeEntry entry)
      { itemId := entry.itemId
        constructionMethod := entry.constructionMethod
        baseOffset := entry.baseOffset
        extentCount := entry.extents.length }
      (entry.extents.map fun extent => (extent.offset, extent.length)) where
  reads rest := by
    refine ⟨entry.extents.flatMap iloc.writeExtent ++ rest, ?_, ?_⟩
    · rw [writeEntry, List.append_assoc]
      exact entryHeader_reads fits entryFits _
    · apply times_reads
      intro extent member
      exact extent_reads fits (entryFits.extent extent member)

/-- The location found is that of the first entry for the item. -/
theorem Fits.find (fits : iloc.Fits) (target : Nat) :
    (findIlocEntry iloc.write target).1 =
      (iloc.entries.find? fun entry => entry.itemId == target).map fun entry =>
        ({ itemId := entry.itemId
           constructionMethod := entry.constructionMethod
           baseOffset := entry.baseOffset
           extentCount := entry.extents.length },
          entry.extents.map fun extent => (extent.offset, extent.length)) := by
  rw [findIlocEntry, write, fits.header_reads]
  exact @scan_reads _ _ _ _ _ _ (fun item => item.itemId == target) iloc.writeEntry
    (fun entry => IlocItem.mk entry.itemId entry.constructionMethod entry.baseOffset
      entry.extents.length)
    (fun entry => entry.extents.map fun extent => (extent.offset, extent.length)) _
    (fun entry member => entry_reads fits (fits.entry entry member)) iloc.trailing

end ItemLocations

/-! ## Payloads in pieces -/

/-- A piece of the file at a position. -/
def StoredAt (data piece : Bytes) (position : Nat) : Prop :=
  ∃ before after, data = before ++ (piece ++ after) ∧ before.length = position

/-- Extents of positions and lengths, counted from a base, and the pieces they locate. -/
def Located (data : Bytes) (baseOffset : Nat) : List (Nat × Nat) → List Bytes → Prop :=
  List.Forall₂ fun extent piece =>
    StoredAt data piece (baseOffset + extent.1) ∧ piece.length = extent.2

/-- A slice in bounds is the piece at its start. -/
theorem slice_eq_some_iff {data piece : Bytes} {start stop : Nat} :
    slice data start stop = some piece ↔
      StoredAt data piece start ∧ start + piece.length = stop := by
  rw [slice]
  constructor
  · intro sliced
    split at sliced
    · rename_i bounds
      simp only [Bool.and_eq_true, decide_eq_true_eq] at bounds
      cases sliced
      have front : (data.take stop).take start = data.take start := by
        rw [List.take_take, Nat.min_eq_left bounds.1]
      refine ⟨⟨data.take start, data.drop stop, ?_, ?_⟩, ?_⟩
      · rw [← List.append_assoc, ← front, List.take_append_drop, List.take_append_drop]
      · rw [List.length_take]
        omega
      · rw [List.length_drop, List.length_take]
        omega
    · cases sliced
  · rintro ⟨⟨before, after, whole, position⟩, rfl⟩
    subst whole position
    rw [if_pos (by simp), ← List.append_assoc, ← List.length_append,
      List.take_left, List.drop_left]

/-- An extent that is read is a piece of the file. -/
theorem storedAt_of_extent {data piece : Bytes} {baseOffset offset length : Nat}
    (read : (do
      let start ← checkedAdd baseOffset offset
      let stop ← checkedAdd start length
      slice data start stop) = some piece) :
    StoredAt data piece (baseOffset + offset) ∧ piece.length = length := by
  simp only [Option.bind_eq_bind, Option.bind_eq_some_iff, checkedAdd,
    Option.ite_none_right_eq_some, Option.some.injEq, slice_eq_some_iff] at read
  obtain ⟨start, ⟨_, rfl⟩, stop, ⟨_, rfl⟩, stored, fits⟩ := read
  exact ⟨stored, Nat.add_left_cancel fits⟩

/-- A piece of a file whose bytes 64 bits can count is read. -/
theorem extent_of_storedAt {data piece : Bytes} (addressable : data.length < 2 ^ 64)
    {baseOffset offset : Nat} (stored : StoredAt data piece (baseOffset + offset)) :
    (do
      let start ← checkedAdd baseOffset offset
      let stop ← checkedAdd start piece.length
      slice data start stop) = some piece := by
  simp only [Option.bind_eq_bind, Option.bind_eq_some_iff, checkedAdd,
    Option.ite_none_right_eq_some, Option.some.injEq, slice_eq_some_iff]
  obtain ⟨before, after, whole, position⟩ := stored
  have inside : baseOffset + offset + piece.length ≤ data.length := by
    rw [whole, List.length_append, List.length_append]
    omega
  exact ⟨_, ⟨by omega, rfl⟩, _, ⟨by omega, rfl⟩, ⟨before, after, whole, position⟩, rfl⟩

theorem assemble_cons (data : Bytes) (baseOffset offset length : Nat) (before : Bytes)
    (extents : List (Nat × Nat)) :
    assemble data baseOffset before ((offset, length) :: extents) =
      (do
        let start ← checkedAdd baseOffset offset
        let stop ← checkedAdd start length
        slice data start stop).bind fun extent =>
          if maxExifLen < before.length + extent.length then none
          else assemble data baseOffset (before ++ extent) extents := by
  rw [assemble]
  simp only [Option.bind_eq_bind, Option.bind_assoc]

/-- Located pieces are assembled, one behind the other, when they are not too many. -/
theorem assemble_of_located {data : Bytes} (addressable : data.length < 2 ^ 64)
    {baseOffset : Nat} {extents : List (Nat × Nat)} {pieces : List Bytes} {before : Bytes}
    (located : Located data baseOffset extents pieces)
    (capped : (before ++ pieces.flatten).length ≤ maxExifLen) :
    assemble data baseOffset before extents = some (before ++ pieces.flatten) := by
  induction located generalizing before with
  | nil => rw [assemble, List.flatten_nil, List.append_nil]
  | @cons extent piece extents pieces here _ ih =>
      obtain ⟨offset, length⟩ := extent
      obtain ⟨stored, rfl⟩ := here
      have whole : before ++ (piece :: pieces).flatten = (before ++ piece) ++ pieces.flatten := by
        rw [List.flatten_cons, List.append_assoc]
      rw [whole] at capped ⊢
      have more : (before ++ piece).length ≤ maxExifLen := by
        rw [List.length_append] at capped
        omega
      rw [assemble_cons, extent_of_storedAt addressable stored, Option.bind_some,
        ← List.length_append, if_neg (Nat.not_lt.mpr more)]
      exact ih capped

/-- What is assembled are located pieces, one behind the other and not too many. -/
theorem located_of_assemble {data : Bytes} {baseOffset : Nat} {extents : List (Nat × Nat)}
    {before payload : Bytes} (small : before.length ≤ maxExifLen)
    (assembled : assemble data baseOffset before extents = some payload) :
    ∃ pieces, Located data baseOffset extents pieces ∧ payload = before ++ pieces.flatten ∧
      payload.length ≤ maxExifLen := by
  induction extents generalizing before with
  | nil =>
      rw [assemble, Option.some.injEq] at assembled
      subst assembled
      exact ⟨[], List.Forall₂.nil, (List.append_nil _).symm, small⟩
  | cons extent extents ih =>
      obtain ⟨offset, length⟩ := extent
      rw [assemble_cons] at assembled
      obtain ⟨piece, here, later⟩ := Option.bind_eq_some_iff.mp assembled
      split at later
      · cases later
      · rename_i bounded
        have more : (before ++ piece).length ≤ maxExifLen := by
          rw [List.length_append]
          omega
        obtain ⟨pieces, located, rfl, capped⟩ := ih more later
        refine ⟨piece :: pieces, List.Forall₂.cons (storedAt_of_extent here) located, ?_, capped⟩
        rw [List.flatten_cons, List.append_assoc]

/-- A payload: the distance of the TIFF block, as many bytes of filler, and the block. -/
def payload (filler tiff : Bytes) : Bytes := uintBytes 4 filler.length ++ (filler ++ tiff)

/-- A byte-order mark in front. -/
def Marked (tiff : Bytes) : Prop := ∃ mark ∈ tiffMarks, mark <+: tiff

theorem any_tiffMarks {tiff : Bytes} : tiffMarks.any (·.isPrefixOf tiff) = true ↔ Marked tiff := by
  simp only [List.any_eq_true, List.isPrefixOf_iff_prefix, Marked]

/-- The TIFF block of a payload that was stored in pieces. -/
theorem extractExifTiff_of_located {data filler tiff : Bytes} {pieces : List Bytes}
    {item : IlocItem} {extents : List (Nat × Nat)} (addressable : data.length < 2 ^ 64)
    (method : item.constructionMethod = 0) (marked : Marked tiff)
    (located : Located data item.baseOffset extents pieces)
    (whole : pieces.flatten = payload filler tiff)
    (capped : (payload filler tiff).length ≤ maxExifLen) :
    extractExifTiff data item extents = some tiff := by
  have assembled := @assemble_of_located data addressable _ _ _ [] located
    (by rw [List.nil_append, whole]; exact capped)
  rw [List.nil_append, whole] at assembled
  have small : filler.length < 256 ^ 4 := by
    rw [payload, List.length_append, List.length_append, maxExifLen] at capped
    omega
  have skipped : slice (filler ++ tiff) filler.length (filler ++ tiff).length = some tiff := by
    apply slice_eq_some_iff.mpr
    refine ⟨⟨filler, [], ?_, rfl⟩, ?_⟩
    · rw [List.append_nil]
    · rw [List.length_append]
  rw [extractExifTiff, if_neg (not_not.mpr method), assembled]
  simp only [Option.bind_eq_bind, Option.bind_some, payload, Reads.uint small (filler ++ tiff),
    skipped]
  exact if_pos (any_tiffMarks.mpr marked)

/-- A TIFF block that is extracted is the end of what its extents hold. -/
theorem located_of_extractExifTiff {data tiff : Bytes} {item : IlocItem}
    {extents : List (Nat × Nat)} (extracted : extractExifTiff data item extents = some tiff) :
    Marked tiff ∧ ∃ pieces, Located data item.baseOffset extents pieces ∧
      tiff <:+ pieces.flatten ∧ pieces.flatten.length ≤ maxExifLen := by
  rw [extractExifTiff] at extracted
  split at extracted
  · cases extracted
  · simp only [Option.bind_eq_bind, Option.bind_eq_some_iff, Option.ite_none_right_eq_some,
      Option.some.injEq] at extracted
    obtain ⟨payload, assembled, ⟨skip, tail⟩, read, found, sliced, marked, rfl⟩ := extracted
    obtain ⟨pieces, located, rfl, capped⟩ := located_of_assemble (Nat.zero_le _) assembled
    obtain ⟨⟨before, after, whole, position⟩, ends⟩ := slice_eq_some_iff.mp sliced
    have nothing : after = [] := by
      have lengths := congrArg List.length whole
      rw [List.length_append, List.length_append] at lengths
      apply List.eq_nil_of_length_eq_zero
      omega
    subst nothing
    rw [List.append_nil] at whole
    have inTail : found <:+ tail := ⟨before, whole.symm⟩
    exact ⟨any_tiffMarks.mp marked, pieces, located, inTail.trans (suffix_of_uint read), capped⟩

/-! ## What is recovered -/

/-- The file `data` with an EXIF item: the first of its type, and its first location.  The
other items are as they like. -/
structure ExifLayout (data : Bytes) extends MetaLayout data where
  addressable : data.length < 2 ^ 64
  iinf : ItemInfos
  hasIinf : contentOf children (fourCC 'i' 'i' 'n' 'f') = some iinf.write
  iloc : ItemLocations
  ilocFits : iloc.Fits
  hasIloc : contentOf children (fourCC 'i' 'l' 'o' 'c') = some iloc.write
  itemId : Nat
  isExif : iinf.children.findSome? InfoBox.exif = some itemId
  location : Location
  isLocation : (iloc.entries.find? fun entry => entry.itemId == itemId) = some location
  inFile : location.constructionMethod = 0
  filler : Bytes
  tiff : Bytes
  marked : Marked tiff
  pieces : List Bytes
  located : Located data location.baseOffset
    (location.extents.map fun extent => (extent.offset, extent.length)) pieces
  whole : pieces.flatten = payload filler tiff
  capped : (payload filler tiff).length ≤ maxExifLen
  affordable :
    (resolveOrientation (contentOf children (fourCC 'p' 'i' 't' 'm'))
        (contentOf children (fourCC 'i' 'p' 'r' 'p')) toMetaLayout.budget).2.1.boxes.length +
      iinf.children.length ≤ toMetaLayout.budget

/-- What was stored is recovered. -/
theorem ExifLayout.recovered {data : Bytes} (layout : ExifLayout data) :
    (parse data).exif = some layout.tiff := by
  have spent := (resolveOrientation_work (contentOf layout.children (fourCC 'p' 'i' 't' 'm'))
    (contentOf layout.children (fourCC 'i' 'p' 'r' 'p')) layout.budget).1
  have enough := layout.affordable
  have item := @ItemInfos.findExifItemId_write layout.iinf (resolveOrientation
    (contentOf layout.children (fourCC 'p' 'i' 't' 'm'))
    (contentOf layout.children (fourCC 'i' 'p' 'r' 'p')) layout.budget).2.2 (by omega)
  rw [layout.isExif] at item
  have entry := layout.ilocFits.find layout.itemId
  rw [layout.isLocation] at entry
  rw [parse, parseCounted, layout.metaBody_eq]
  simp only [layout.walk_children, first_eq, layout.hasIinf, layout.hasIloc, extractExifPayload,
    item, entry, Option.map_some, Option.bind_some]
  exact extractExifTiff_of_located layout.addressable layout.inFile layout.marked layout.located
    layout.whole layout.capped

/-- The entry of the EXIF item in the tables of a file: `iinf` announces the item, and
`iloc` has its first location. -/
structure ExifEntry (data : Bytes) (item : IlocItem) (extents : List (Nat × Nat)) : Prop where
  tables : ∃ body budget iinf iloc infos left,
    (metaBody data).1 = some body ∧
    (walkBoxes body 1 budget).first (fourCC 'i' 'i' 'n' 'f') = some iinf ∧
    (walkBoxes body 1 budget).first (fourCC 'i' 'l' 'o' 'c') = some iloc ∧
    iinfChildren iinf = some infos ∧
    (walkBoxes infos 2 left).boxes.findSome? exifItem = some item.itemId ∧
    (findIlocEntry iloc item.itemId).1 = some (item, extents)

theorem findIlocEntry_itemId {content : Bytes} {target : Nat} {item : IlocItem}
    {extents : List (Nat × Nat)}
    (found : (findIlocEntry content target).1 = some (item, extents)) : item.itemId = target := by
  rw [findIlocEntry] at found
  split at found
  · cases found
  · have isWanted := scan_wanted found
    exact beq_iff_eq.mp isWanted

/-- An EXIF payload that is extracted comes from the item the tables name. -/
theorem extractExifPayload_eq_some {data iinf iloc tiff : Bytes} {budget : Nat}
    (extracted : (extractExifPayload data (some iinf) (some iloc) budget).1 = some tiff) :
    ∃ item extents infos, iinfChildren iinf = some infos ∧
      (walkBoxes infos 2 budget).boxes.findSome? exifItem = some item.itemId ∧
      (findIlocEntry iloc item.itemId).1 = some (item, extents) ∧
      extractExifTiff data item extents = some tiff := by
  simp only [extractExifPayload, findExifItemId] at extracted
  cases children : iinfChildren iinf with
  | none => simp [children] at extracted
  | some infos =>
      simp only [children] at extracted
      cases announced : (walkBoxes infos 2 budget).boxes.findSome? exifItem with
      | none => simp [announced] at extracted
      | some itemId =>
          simp only [announced] at extracted
          obtain ⟨⟨item, extents⟩, found, taken⟩ := Option.bind_eq_some_iff.mp extracted
          have same := findIlocEntry_itemId found
          subst same
          exact ⟨item, extents, infos, rfl, announced, found, taken⟩

/-- Without locations nothing is extracted. -/
theorem extractExifPayload_none (data : Bytes) (iinf : Option Bytes) (budget : Nat) :
    (extractExifPayload data iinf none budget).1 = none := by
  cases iinf with
  | none => rfl
  | some iinf =>
      rw [extractExifPayload]
      obtain ⟨itemId, boxes⟩ := findExifItemId iinf budget
      cases itemId with
      | none => rfl
      | some itemId => rfl

/-- What is recovered was stored. -/
theorem exifEntry_of_parse {data tiff : Bytes} (parsed : (parse data).exif = some tiff) :
    ∃ item extents, ExifEntry data item extents ∧ extractExifTiff data item extents = some tiff := by
  simp only [parse, parseCounted] at parsed
  cases isBody : (metaBody data).1 with
  | none => simp [isBody] at parsed
  | some body =>
      simp only [isBody] at parsed
      generalize isChildren : walkBoxes body 1 (metaBody data).2.budget = children at parsed
      cases hasIinf : children.first (fourCC 'i' 'i' 'n' 'f') with
      | none => simp [hasIinf, extractExifPayload] at parsed
      | some iinf =>
          cases hasIloc : children.first (fourCC 'i' 'l' 'o' 'c') with
          | none => simp [hasIloc, extractExifPayload_none] at parsed
          | some iloc =>
              rw [hasIinf, hasIloc] at parsed
              obtain ⟨item, extents, infos, isInfos, announced, found, extracted⟩ :=
                extractExifPayload_eq_some parsed
              subst isChildren
              exact ⟨item, extents, ⟨⟨body, _, iinf, iloc, infos, _, isBody, hasIinf, hasIloc,
                isInfos, announced, found⟩⟩, extracted⟩

/-- A TIFF block that is stored as the EXIF item is recovered, and any TIFF block that is
recovered is the end of what the EXIF item's extents hold in the file. -/
theorem parse_exif :
    (∀ (data : Bytes) (layout : ExifLayout data), (parse data).exif = some layout.tiff) ∧
    (∀ data tiff : Bytes, (parse data).exif = some tiff →
      Marked tiff ∧ tiff.length ≤ maxExifLen ∧
        ∃ item extents pieces, ExifEntry data item extents ∧
          Located data item.baseOffset extents pieces ∧ tiff <:+ pieces.flatten) := by
  constructor
  · intro data layout
    exact layout.recovered
  · intro data tiff parsed
    obtain ⟨item, extents, entry, extracted⟩ := exifEntry_of_parse parsed
    obtain ⟨marked, pieces, located, ending, capped⟩ := located_of_extractExifTiff extracted
    exact ⟨marked, ending.length_le.trans capped, item, extents, pieces, entry, located, ending⟩

/-- A payload in two pieces, the second of which lies before the first. -/
def splitPieces : List Bytes := [[0, 0, 0, 2, 7], [7, 0x4d, 0x4d, 0, 0x2a, 9]]

def splitChildren : List InfoBox :=
  [.untyped 0 [1, 2] (by decide),
    .entry ⟨2, by decide, [0, 0, 0], rfl, 5, by decide, [0, 0], rfl, fourCC 'E' 'x' 'i' 'f', rfl, []⟩]

def splitInfos : ItemInfos where
  version := 0
  versionFits := by decide
  flags := [0, 0, 0]
  flagsFit := rfl
  count := 2
  countFits := by decide
  children := splitChildren
  written := placed (splitChildren.map InfoBox.box)
  childrenWritten := written_placed (by decide)

def splitLocation : Location := ⟨5, 0, 0, [0, 1], 8, [⟨0, 6, 5⟩, ⟨0, 0, 6⟩]⟩

/-- Another item first, then the EXIF item. -/
def splitLocations : ItemLocations where
  version := 1
  flags := [0, 0, 0]
  offsetSize := 2
  lengthSize := 1
  baseOffsetSize := 4
  indexSize := 0
  entries := [⟨4, 0, 1, [0, 1], 0, []⟩, splitLocation]
  trailing := []

theorem splitLocations_fits : splitLocations.Fits := by
  refine ⟨by decide, by decide, by decide, by decide, by decide, by decide, by decide, by decide,
    ?_⟩
  intro entry member
  simp only [splitLocations, List.mem_cons, List.not_mem_nil, or_false] at member
  rcases member with rfl | rfl
  · exact ⟨by decide, by decide, by decide, rfl, by decide, by decide, by simp⟩
  · refine ⟨by decide, by decide, by decide, rfl, by decide, by decide, ?_⟩
    intro extent listed
    simp only [splitLocation, List.mem_cons, List.not_mem_nil, or_false] at listed
    rcases listed with rfl | rfl
    · exact ⟨by decide, by decide, by decide⟩
    · exact ⟨by decide, by decide, by decide⟩

def splitMeta : List Box :=
  [⟨fourCC 'i' 'i' 'n' 'f', splitInfos.write⟩, ⟨fourCC 'i' 'l' 'o' 'c', splitLocations.write⟩]

def splitFile : List Box :=
  [⟨fourCC 'm' 'd' 'a' 't', [7, 0x4d, 0x4d, 0, 0x2a, 9] ++ [0, 0, 0, 2, 7]⟩,
    ⟨fourCC 'm' 'e' 't' 'a', [0, 0, 0, 0] ++ placed splitMeta⟩]

theorem splitExif_located :
    Located (placed splitFile) splitLocation.baseOffset
      (splitLocation.extents.map fun extent => (extent.offset, extent.length)) splitPieces :=
  .cons ⟨⟨(placed splitFile).take 14, (placed splitFile).drop 19, by decide, by decide⟩, rfl⟩
    (.cons ⟨⟨(placed splitFile).take 8, (placed splitFile).drop 14, by decide, by decide⟩, rfl⟩ .nil)

theorem splitExif_marked : Marked [0x4d, 0x4d, 0, 0x2a, 9] :=
  ⟨[0x4d, 0x4d, 0, 0x2a], by decide, ⟨[9], rfl⟩⟩

theorem splitExif_capped : (payload [7, 7] [0x4d, 0x4d, 0, 0x2a, 9]).length ≤ maxExifLen := by
  decide

theorem splitFile_written : Written splitFile (placed splitFile) := written_placed (by decide)

theorem splitMeta_written : Written splitMeta (placed splitMeta) := written_placed (by decide)

theorem splitFile_versioned : ([0, 0, 0, 0] : Bytes).length = 4 := by decide

theorem splitFile_reachable : splitFile.length + splitMeta.length ≤ maxBoxesVisited := by decide

theorem splitFile_addressable : (placed splitFile).length < 2 ^ 64 := by decide +kernel

def splitExif : ExifLayout (placed splitFile) where
  file := splitFile
  fileWritten := splitFile_written
  versionAndFlags := [0, 0, 0, 0]
  versioned := splitFile_versioned
  body := placed splitMeta
  hasMeta := rfl
  children := splitMeta
  childrenWritten := splitMeta_written
  reachable := splitFile_reachable
  addressable := splitFile_addressable
  iinf := splitInfos
  hasIinf := rfl
  iloc := splitLocations
  ilocFits := splitLocations_fits
  hasIloc := rfl
  itemId := 5
  isExif := rfl
  location := splitLocation
  isLocation := rfl
  inFile := rfl
  filler := [7, 7]
  tiff := [0x4d, 0x4d, 0, 0x2a, 9]
  marked := splitExif_marked
  pieces := splitPieces
  located := splitExif_located
  whole := rfl
  capped := splitExif_capped
  affordable := by decide

theorem parse_exif_split :
    (parse (placed splitFile)).exif = some [0x4d, 0x4d, 0, 0x2a, 9] ∧
      ∃ item extents pieces, ExifEntry (placed splitFile) item extents ∧
        Located (placed splitFile) item.baseOffset extents pieces ∧
        [0x4d, 0x4d, 0, 0x2a, 9] <:+ pieces.flatten :=
  ⟨parse_exif.1 _ splitExif, (parse_exif.2 _ _ (parse_exif.1 _ splitExif)).2.2⟩

end ImageResizer.AvifMeta
