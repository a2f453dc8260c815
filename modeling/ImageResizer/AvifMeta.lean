import ImageResizer.Foundation.Reader
import ImageResizer.Orientation

/-!
# AVIF container metadata

`services/image/avif_meta.rs`: the EXIF payload and the orientation of an AVIF file,
read from the raw bytes of its `meta` box.

A cursor is the unread tail of its slice.  Box walks return the boxes they visited
and table loops the records they examined, which the source discards and the
resource bounds are about.
-/

namespace ImageResizer.AvifMeta

open Reader

abbrev Bytes := List UInt8

def maxNestingDepth : Nat := 8

def maxBoxesVisited : Nat := 4096

def maxExifLen : Nat := 1024 * 1024

/-! ## Boxes -/

/-- One visited box: its four-byte type and its content. -/
structure Box where
  boxType : Bytes
  content : Bytes

/-- A four-character box type. -/
def fourCC (a b c d : Char) : Bytes := [a, b, c, d].map fun x => UInt8.ofNat x.toNat

/-- The header length and total size a 32-bit size field stands for: one announces a
64-bit size behind the type, zero a box up to the end of its container. -/
def declaredSizes (remaining size32 : Nat) : Reader (Nat × Nat) :=
  if size32 = 1 then (fun large => (16, large)) <$> uint 8
  else if size32 = 0 then pure (8, remaining)
  else pure (8, size32)

/-- The fields of a box header. -/
def boxHeader (remaining : Nat) : Reader (Bytes × Nat × Nat) := do
  let size32 ← uint 4
  let boxType ← bytes 4
  let sizes ← declaredSizes remaining size32
  return (boxType, sizes)

/-- `read_box_header`: the type, the header length and the total size of the box at
the front. -/
def readBoxHeader (data : Bytes) : Option (Bytes × Nat × Nat) :=
  match (boxHeader data.length).run data with
  | none => none
  | some ((boxType, headerLen, totalSize), _) =>
      if totalSize < headerLen || data.length < totalSize then none
      else some (boxType, headerLen, totalSize)

/-- The boxes visited and the budget left. -/
structure Walk where
  boxes : List Box
  budget : Nat

/-- The loop of `walk_boxes`: one unit of budget for each visited box. -/
def walk : (budget : Nat) → Bytes → Walk
  | 0, _ => ⟨[], 0⟩
  | budget + 1, data =>
      if data.isEmpty then ⟨[], budget + 1⟩
      else
        match readBoxHeader data with
        | none => ⟨[], budget + 1⟩
        | some (boxType, headerLen, totalSize) =>
            let content := (data.take totalSize).drop headerLen
            let rest := walk budget (data.drop totalSize)
            ⟨⟨boxType, content⟩ :: rest.boxes, rest.budget⟩

def walkBoxes (data : Bytes) (depth budget : Nat) : Walk :=
  if maxNestingDepth < depth then ⟨[], budget⟩ else walk budget data

/-- The content of the first visited box of a type. -/
def Walk.first (walk : Walk) (target : Bytes) : Option Bytes :=
  (walk.boxes.find? fun box => box.boxType == target).map Box.content

/-! ## Orientation -/

inductive TransformProperty where
  /-- `irot`: counter-clockwise quarter turns. -/
  | rotate (steps : Nat)
  /-- `imir`: mirror axis. -/
  | mirror (axis : Nat)
  deriving DecidableEq

/-- A rotation `z ↦ z·iᵃ` or a reflection `z ↦ conj z·iᶜ`. -/
inductive Transform where
  | rotation (a : Nat)
  | reflection (c : Nat)
  deriving DecidableEq

namespace Transform

def identity : Transform := .rotation 0

/-- `before` applied first, `op` second. -/
def andThen (before op : Transform) : Transform :=
  match before, op with
  | .rotation a, .rotation b => .rotation ((a + b) % 4)
  | .rotation a, .reflection c => .reflection ((c + 4 - a % 4) % 4)
  | .reflection c, .rotation b => .reflection ((c + b) % 4)
  | .reflection c₁, .reflection c₂ => .rotation ((c₂ + 4 - c₁ % 4) % 4)

def intoOrientation : Transform → Orientation
  | .rotation 0 => .noTransforms
  | .rotation 1 => .rotate270
  | .rotation 2 => .rotate180
  | .rotation 3 => .rotate90
  | .reflection 0 => .flipVertical
  | .reflection 1 => .rotate270FlipH
  | .reflection 2 => .flipHorizontal
  | .reflection 3 => .rotate90FlipH
  | _ => .noTransforms

end Transform

/-- A field of 16 bits in one version of a box and of 32 in another. -/
def shortOrLong (short : Bool) : Reader Nat := if short then uint 2 else uint 4

def primaryItemId : Reader Nat := do
  let version ← uint 1
  let _ ← bytes 3
  shortOrLong (version = 0)

/-- `parse_primary_item_id`. -/
def parsePrimaryItemId (content : Bytes) : Option Nat :=
  (primaryItemId.run content).map Prod.fst

/-- The property a box of `ipco` stands for, if it is one of the two understood. -/
def transformProperty (box : Box) : Option TransformProperty :=
  if box.boxType = fourCC 'i' 'r' 'o' 't' then
    box.content.head?.map fun angle => .rotate (angle.toNat % 4)
  else if box.boxType = fourCC 'i' 'm' 'i' 'r' then
    box.content.head?.map fun axis => .mirror (axis.toNat % 2)
  else none

/-- `collect_properties`: the understood properties under their one-based indices,
every box counting towards the index. -/
def collectProperties (walk : Walk) : List (Nat × TransformProperty) :=
  walk.boxes.zipIdx.filterMap fun (box, i) =>
    (transformProperty box).map fun property => (i + 1, property)

/-- An entry of `ipma`. -/
structure IpmaItem where
  itemId : Nat
  associationCount : Nat

def ipmaItem (wideItemId : Bool) : Reader IpmaItem := do
  let itemId ← shortOrLong (!wideItemId)
  let associationCount ← uint 1
  return { itemId, associationCount }

/-- One association: a property index under an essential bit. -/
def ipmaAssociation (largeIndex : Bool) : Reader Nat :=
  if largeIndex then (· % 2 ^ 15) <$> uint 2 else (· % 2 ^ 7) <$> uint 1

/-- The version, flags and entry count at the front of `ipma`. -/
structure IpmaHeader where
  version : Nat
  flags : Nat
  entryCount : Nat

def ipmaHeader : Reader IpmaHeader := do
  let version ← uint 1
  let flags ← uint 3
  let entryCount ← uint 4
  return { version, flags, entryCount }

/-- `parse_primary_item_associations`. -/
def parsePrimaryItemAssociations (content : Bytes) (target : Nat) : Option (List Nat) × Log :=
  match ipmaHeader.run content with
  | none => (none, [])
  | some (header, rest) =>
      let (found, log) := scan (ipmaItem (1 ≤ header.version))
        (fun _ => ipmaAssociation (header.flags % 2 = 1)) IpmaItem.associationCount
        (fun item => item.itemId == target) header.entryCount rest
      (found.map Prod.snd, log)

/-- The transform of one associated property. -/
def TransformProperty.op : TransformProperty → Transform
  | .rotate steps => .rotation steps
  | .mirror axis => .reflection (if axis = 0 then 2 else 0)

/-- Compose the properties the indices name, in order; other indices are ignored. -/
def composeProperties (properties : List (Nat × TransformProperty)) (indices : List Nat) :
    Transform :=
  indices.foldl (fun transform index =>
    match properties.find? fun property => property.1 == index with
    | some (_, property) => transform.andThen property.op
    | none => transform) .identity

/-! ## EXIF -/

/-- The item ID of an `infe` entry, in the two versions that carry an item type. -/
def infeItemId (version : Nat) : Reader Nat :=
  if version = 2 ∨ version = 3 then shortOrLong (version = 2) else failure

/-- The item ID and item type of an `infe` entry. -/
def infeItem : Reader (Nat × Bytes) := do
  let version ← uint 1
  let _ ← bytes 3
  let itemId ← infeItemId version
  let _ ← bytes 2
  let itemType ← bytes 4
  return (itemId, itemType)

/-- `parse_infe_exif_item_id`. -/
def parseInfeExifItemId (content : Bytes) : Option Nat :=
  match infeItem.run content with
  | some ((itemId, itemType), _) =>
      if itemType = fourCC 'E' 'x' 'i' 'f' then some itemId else none
  | none => none

/-- The item a visited box of `iinf` announces as EXIF. -/
def exifItem (box : Box) : Option Nat :=
  if box.boxType = fourCC 'i' 'n' 'f' 'e' then parseInfeExifItemId box.content else none

/-- The version, flags and entry count at the front of `iinf`; the count is not used. -/
def iinfHeader : Reader Unit := do
  let version ← uint 1
  let _ ← bytes 3
  let _ ← shortOrLong (version = 0)
  return ()

/-- The children of `iinf`, past its header. -/
def iinfChildren (content : Bytes) : Option Bytes := (iinfHeader.run content).map Prod.snd

/-- The header of an `iloc` entry. -/
structure IlocItem where
  itemId : Nat
  constructionMethod : Nat
  baseOffset : Nat
  extentCount : Nat

/-- The field widths and counts at the front of `iloc`. -/
structure IlocHeader where
  version : Nat
  offsetSize : Nat
  lengthSize : Nat
  baseOffsetSize : Nat
  indexSize : Nat
  itemCount : Nat

/-- `read_uint`: no bytes for a width of zero, and no read wider than eight. -/
def readUint (size : Nat) : Reader Nat :=
  if size = 0 then pure 0 else if 8 < size then failure else uint size

def ilocHeader : Reader IlocHeader := do
  let version ← uint 1
  let _ ← bytes 3
  let sizes ← uint 1
  let sizes2 ← uint 1
  let itemCount ← shortOrLong (version < 2)
  return { version, offsetSize := sizes / 16, lengthSize := sizes % 16,
           baseOffsetSize := sizes2 / 16, indexSize := sizes2 % 16, itemCount }

/-- Versions 1 and 2 carry a construction method and extent indices. -/
def IlocHeader.indexed (header : IlocHeader) : Bool := header.version == 1 || header.version == 2

/-- `construction_method`, in the versions that have it. -/
def constructionMethod (indexed : Bool) : Reader Nat :=
  if indexed then (· % 16) <$> uint 2 else pure 0

def ilocItem (header : IlocHeader) : Reader IlocItem := do
  let itemId ← shortOrLong (header.version < 2)
  let constructionMethod ← constructionMethod header.indexed
  let _ ← bytes 2
  let baseOffset ← readUint header.baseOffsetSize
  let extentCount ← uint 2
  return { itemId, constructionMethod, baseOffset, extentCount }

/-- The width of an extent's index: none in the versions without one. -/
def IlocHeader.indexWidth (header : IlocHeader) : Nat :=
  if header.indexed then header.indexSize else 0

def ilocExtent (header : IlocHeader) : Reader (Nat × Nat) := do
  let _ ← readUint header.indexWidth
  let offset ← readUint header.offsetSize
  let length ← readUint header.lengthSize
  return (offset, length)

/-- `find_iloc_entry`. -/
def findIlocEntry (content : Bytes) (target : Nat) :
    Option (IlocItem × List (Nat × Nat)) × Log :=
  match ilocHeader.run content with
  | none => (none, [])
  | some (header, rest) =>
      scan (ilocItem header) (fun _ => ilocExtent header) IlocItem.extentCount
        (fun item => item.itemId == target) header.itemCount rest

/-- `u64::checked_add`. -/
def checkedAdd (a b : Nat) : Option Nat := if a + b < 2 ^ 64 then some (a + b) else none

/-- `bytes.get(start..end)`. -/
def slice (data : Bytes) (start stop : Nat) : Option Bytes :=
  if start ≤ stop && stop ≤ data.length then some ((data.take stop).drop start) else none

/-- The payload assembled from a list of extents, after what was assembled before. -/
def assemble (data : Bytes) (baseOffset : Nat) (payload : Bytes) :
    List (Nat × Nat) → Option Bytes
  | [] => some payload
  | (offset, length) :: extents => do
      let start ← checkedAdd baseOffset offset
      let stop ← checkedAdd start length
      let extent ← slice data start stop
      if maxExifLen < payload.length + extent.length then none
      else assemble data baseOffset (payload ++ extent) extents

/-- The two TIFF byte-order marks, `II*\0` and `MM\0*`. -/
def tiffMarks : List Bytes := [[0x49, 0x49, 0x2a, 0x00], [0x4d, 0x4d, 0x00, 0x2a]]

/-- `extract_exif_tiff`. -/
def extractExifTiff (data : Bytes) (item : IlocItem) (extents : List (Nat × Nat)) :
    Option Bytes :=
  if item.constructionMethod ≠ 0 then none
  else do
    let payload ← assemble data item.baseOffset [] extents
    let (skip, tail) ← (uint 4).run payload
    let tiff ← slice tail skip tail.length
    if tiffMarks.any (·.isPrefixOf tiff) then some tiff else none

/-! ## The parse -/

structure AvifMetadata where
  orientation : Orientation
  exif : Option Bytes
  deriving DecidableEq

/-- What one parse examined: the boxes its walks visited and the table records its
loops went through. -/
structure Work where
  boxes : List Box
  records : Log

namespace Work

def none : Work := ⟨[], []⟩

def add (first second : Work) : Work :=
  ⟨first.boxes ++ second.boxes, first.records ++ second.records⟩

end Work

/-- `resolve_orientation`, with its work and the budget it leaves. -/
def resolveOrientation (pitm iprp : Option Bytes) (budget : Nat) :
    Option Orientation × Work × Nat :=
  match pitm.bind parsePrimaryItemId, iprp with
  | some primary, some iprp =>
      let top := walkBoxes iprp 2 budget
      match top.first (fourCC 'i' 'p' 'c' 'o') with
      | none => (none, ⟨top.boxes, []⟩, top.budget)
      | some ipco =>
          let children := walkBoxes ipco 3 top.budget
          let boxes := top.boxes ++ children.boxes
          match top.first (fourCC 'i' 'p' 'm' 'a') with
          | none => (none, ⟨boxes, []⟩, children.budget)
          | some ipma =>
              let (indices, log) := parsePrimaryItemAssociations ipma primary
              (indices.map fun indices =>
                (composeProperties (collectProperties children) indices).intoOrientation,
                ⟨boxes, log⟩, children.budget)
  | _, _ => (none, .none, budget)

/-- `find_exif_item_id`, with the boxes it visited. -/
def findExifItemId (iinf : Bytes) (budget : Nat) : Option Nat × List Box :=
  match iinfChildren iinf with
  | none => (none, [])
  | some children =>
      let walk := walkBoxes children 2 budget
      (walk.boxes.findSome? exifItem, walk.boxes)

/-- `extract_exif_payload`. -/
def extractExifPayload (data : Bytes) (iinf iloc : Option Bytes) (budget : Nat) :
    Option Bytes × Work :=
  match iinf with
  | none => (none, .none)
  | some iinf =>
      let (itemId, boxes) := findExifItemId iinf budget
      match itemId, iloc with
      | some itemId, some iloc =>
          let (entry, log) := findIlocEntry iloc itemId
          (entry.bind fun entry => extractExifTiff data entry.1 entry.2, ⟨boxes, log⟩)
      | _, _ => (none, ⟨boxes, []⟩)

/-- The children of the first `meta` box, past its version and flags, and the walk that
found it. -/
def metaBody (data : Bytes) : Option Bytes × Walk :=
  let top := walkBoxes data 0 maxBoxesVisited
  ((top.first (fourCC 'm' 'e' 't' 'a')).bind fun content =>
    ((bytes 4).run content).map Prod.snd, top)

/-- `parse`, with the work it does. -/
def parseCounted (data : Bytes) : AvifMetadata × Work :=
  let (body, top) := metaBody data
  match body with
  | none => (⟨.noTransforms, none⟩, ⟨top.boxes, []⟩)
  | some body =>
      let children := walkBoxes body 1 top.budget
      let (orientation, orientationWork, budget) := resolveOrientation
        (children.first (fourCC 'p' 'i' 't' 'm')) (children.first (fourCC 'i' 'p' 'r' 'p'))
        children.budget
      let (exif, exifWork) := extractExifPayload data
        (children.first (fourCC 'i' 'i' 'n' 'f')) (children.first (fourCC 'i' 'l' 'o' 'c'))
        budget
      (⟨orientation.getD .noTransforms, exif⟩,
        ((Work.mk (top.boxes ++ children.boxes) []).add orientationWork).add exifWork)

def parse (data : Bytes) : AvifMetadata := (parseCounted data).1

end ImageResizer.AvifMeta
