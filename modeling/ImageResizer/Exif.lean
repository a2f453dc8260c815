import ImageResizer.AvifMeta
import ImageResizer.Raster

/-!
# EXIF orientation

`neutralize_exif_orientation`: the first orientation entry of the first directory of a
TIFF block is rewritten to the identity.  Anything that is not a well-formed block with
such an entry gives nothing, and the caller drops the metadata.
-/

namespace ImageResizer.Exif

open AvifMeta (slice checkedAdd)

def orientationTag : Nat := 0x0112

def typeShort : Nat := 3

def ifdEntryLen : Nat := 12

/-- An unsigned integer in the byte order of the block. -/
def readUint (littleEndian : Bool) (digits : List UInt8) : Nat :=
  Reader.bigEndian (if littleEndian then digits.reverse else digits)

/-- `II` for little endian, `MM` for big endian. -/
def byteOrder (mark : List UInt8) : Option Bool :=
  if mark = [0x49, 0x49] then some true
  else if mark = [0x4d, 0x4d] then some false
  else none

/-- The entry table of the first directory. -/
structure EntryTable where
  littleEndian : Bool
  start : Nat
  count : Nat

/-- The header of the block, up to the entry table lying inside it. -/
def entryTable (exif : List UInt8) : Option EntryTable := do
  let littleEndian ← byteOrder (← slice exif 0 2)
  guard (readUint littleEndian (← slice exif 2 4) = 42)
  let offset := readUint littleEndian (← slice exif 4 8)
  let start ← checkedAdd offset 2
  let count := readUint littleEndian (← slice exif offset start)
  let stop ← checkedAdd start (count * ifdEntryLen)
  guard (stop ≤ exif.length)
  pure { littleEndian, start, count }

/-- The value bytes of the identity orientation. -/
def normalBytes (littleEndian : Bool) : List UInt8 :=
  if littleEndian then [1, 0] else [0, 1]

/-- Overwrite two bytes; out of range is a panic. -/
def patch (exif : List UInt8) (position : Nat) (value : List UInt8) : Stage (List UInt8) := do
  .assert (position + 2 ≤ exif.length)
  pure (exif.take position ++ value ++ exif.drop (position + 2))

/-- The walk over the entries from a position on, `remaining` of them. -/
def neutralizeFrom (exif : List UInt8) (littleEndian : Bool) :
    (remaining entryStart : Nat) → Stage (Option (List UInt8))
  | 0, _ => pure none
  | remaining + 1, entryStart =>
      match slice exif entryStart (entryStart + 2) with
      | none => pure none
      | some tag =>
          if readUint littleEndian tag ≠ orientationTag then
            neutralizeFrom exif littleEndian remaining (entryStart + ifdEntryLen)
          else
            match slice exif (entryStart + 2) (entryStart + 4),
                slice exif (entryStart + 4) (entryStart + 8) with
            | some kind, some count =>
                if readUint littleEndian kind ≠ typeShort ∨ readUint littleEndian count ≠ 1 then
                  pure none
                else some <$> patch exif (entryStart + 8) (normalBytes littleEndian)
            | _, _ => pure none

/-- `neutralize_exif_orientation`. -/
def neutralizeExifOrientation (exif : List UInt8) : Stage (Option (List UInt8)) :=
  match entryTable exif with
  | none => pure none
  | some table => neutralizeFrom exif table.littleEndian table.count table.start

end ImageResizer.Exif
