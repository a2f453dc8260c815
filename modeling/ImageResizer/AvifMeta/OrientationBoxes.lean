import ImageResizer.AvifMeta.Layout
import ImageResizer.Foundation.Turning

/-!
# Orientation from item properties

The orientation that `parse` reports is the one a container describes: the `irot` and
`imir` properties associated with the primary item, one after another.  Both sides are
compared on pixels; a transform is a number of quarter turns, after a mirror or not.
-/

namespace ImageResizer

open Turning

/-- `DynamicImage::apply_orientation`, on pixels. -/
def Orientation.applyTo {α : Type} (grid : Grid α) : Orientation → Grid α
  | .noTransforms => grid
  | .rotate90 => grid.quarterTurnBack
  | .rotate180 => grid.halfTurn
  | .rotate270 => grid.quarterTurn
  | .flipHorizontal => grid.mirrorLeftRight
  | .flipVertical => grid.mirrorTopBottom
  | .rotate90FlipH => grid.quarterTurnBack.mirrorLeftRight
  | .rotate270FlipH => grid.quarterTurn.mirrorLeftRight

namespace AvifMeta

open Reader

/-! ## Transforms on pixels -/

namespace Transform

variable {α : Type} (grid : Grid α)

/-- The exponent is one of a quarter turn's four. -/
def Reduced : Transform → Prop
  | .rotation a => a < 4
  | .reflection c => c < 4

/-- What a transform does to pixels. -/
def act : Transform → Grid α
  | .rotation a => grid.turned a
  | .reflection c => grid.mirrorTopBottom.turned c

theorem andThen_reduced (before op : Transform) : (before.andThen op).Reduced := by
  cases before with
  | rotation a =>
      cases op with
      | rotation b => exact Nat.mod_lt _ (by decide)
      | reflection c => exact Nat.mod_lt _ (by decide)
  | reflection c =>
      cases op with
      | rotation b => exact Nat.mod_lt _ (by decide)
      | reflection c' => exact Nat.mod_lt _ (by decide)

/-- Composing transforms is applying one after the other. -/
theorem act_andThen (before op : Transform) :
    (before.andThen op).act grid = op.act (before.act grid) := by
  cases before with
  | rotation a =>
      cases op with
      | rotation b =>
          rw [andThen, act, act, act, Grid.turned_turned, Grid.turned_mod, Nat.add_comm]
      | reflection c =>
          rw [andThen, act, act, act, Grid.mirrorTopBottom_turned, Grid.turned_turned]
          apply Grid.turned_congr
          omega
  | reflection c =>
      cases op with
      | rotation b =>
          rw [andThen, act, act, act, Grid.turned_turned, Grid.turned_mod, Nat.add_comm]
      | reflection c' =>
          rw [andThen, act, act, act, Grid.mirrorTopBottom_turned, Grid.mirrorTopBottom_twice,
            Grid.turned_turned]
          apply Grid.turned_congr
          omega

/-- A mirror left to right is one top to bottom and a half turn. -/
theorem mirrorLeftRight_turned (turns : Nat) :
    (grid.turned turns).mirrorLeftRight = grid.mirrorTopBottom.turned (2 + 3 * turns) := by
  rw [← Grid.mirrorTopBottom_halfTurn, ← Grid.turned_two, Grid.mirrorTopBottom_turned,
    Grid.turned_turned]

/-- The orientation a composed transform is reported as does to pixels what it does. -/
theorem applyTo_intoOrientation {transform : Transform} (reduced : transform.Reduced) :
    transform.intoOrientation.applyTo grid = transform.act grid := by
  cases transform with
  | rotation a =>
      have small : a < 4 := reduced
      interval_cases a
      · rfl
      · rfl
      · exact (Grid.turned_two grid).symm
      · exact (Grid.turned_three grid).symm
  | reflection c =>
      have small : c < 4 := reduced
      interval_cases c
      · rfl
      · exact (mirrorLeftRight_turned grid 1).trans (Grid.turned_congr _ rfl)
      · exact mirrorLeftRight_turned grid 0
      · change grid.quarterTurnBack.mirrorLeftRight = _
        rw [← Grid.turned_three, mirrorLeftRight_turned]
        exact Grid.turned_congr _ rfl

end Transform

/-! ## What a container describes -/

/-- An item property: a rotation, a mirror, or a box of another kind. -/
inductive ItemProperty where
  | irot (angle : UInt8) (rest : Bytes)
  | imir (axis : UInt8) (rest : Bytes)
  | other (box : Box) (unknown : box.boxType ≠ fourCC 'i' 'r' 'o' 't' ∧
      box.boxType ≠ fourCC 'i' 'm' 'i' 'r')

namespace ItemProperty

/-- The box of `ipco` that a property is written as. -/
def box : ItemProperty → Box
  | .irot angle rest => ⟨fourCC 'i' 'r' 'o' 't', angle :: rest⟩
  | .imir axis rest => ⟨fourCC 'i' 'm' 'i' 'r', axis :: rest⟩
  | .other box _ => box

/-- What a property does to pixels: quarter turns anticlockwise, or a mirror about the
vertical or the horizontal axis. -/
def apply {α : Type} (grid : Grid α) : ItemProperty → Grid α
  | .irot angle _ => grid.turned (angle.toNat % 4)
  | .imir axis _ => if axis.toNat % 2 = 0 then grid.mirrorLeftRight else grid.mirrorTopBottom
  | .other _ _ => grid

end ItemProperty

/-- A property's index, counted from one, and whether a reader must understand it. -/
structure Association where
  essential : Bool
  index : Nat

/-- The property an index names; zero names none. -/
def numbered (properties : List ItemProperty) : Nat → Option ItemProperty
  | 0 => none
  | index + 1 => properties[index]?

/-- One associated property after another. -/
def applyAssociated {α : Type} (properties : List ItemProperty) (grid : Grid α)
    (associations : List Association) : Grid α :=
  associations.foldl (fun grid association =>
    (numbered properties association.index).elim grid (·.apply grid)) grid

/-! ## Properties by their index -/

/-- An understood property is the transform it stands for; the others stand for none. -/
theorem act_transformProperty {α : Type} (grid : Grid α) (property : ItemProperty) :
    (transformProperty property.box).elim grid (fun understood => understood.op.act grid) =
      property.apply grid := by
  cases property with
  | irot angle rest => rfl
  | imir axis rest =>
      change (Transform.reflection (if axis.toNat % 2 = 0 then 2 else 0)).act grid = _
      by_cases vertical : axis.toNat % 2 = 0
      · rw [if_pos vertical, ItemProperty.apply, if_pos vertical]
        exact (Transform.mirrorLeftRight_turned grid 0).symm
      · rw [if_neg vertical, ItemProperty.apply, if_neg vertical]
        rfl
  | other box unknown =>
      have silent : transformProperty box = none := by
        rw [transformProperty, if_neg unknown.1, if_neg unknown.2]
      rw [ItemProperty.box, silent]
      rfl

/-- The understood boxes of a list, numbered from a start. -/
def numberedFrom (start : Nat) (boxes : List Box) : List (Nat × TransformProperty) :=
  (boxes.zipIdx start).filterMap fun (box, i) =>
    (transformProperty box).map fun property => (i + 1, property)

theorem numberedFrom_cons (start : Nat) (box : Box) (boxes : List Box) :
    numberedFrom start (box :: boxes) =
      ((transformProperty box).map fun property => (start + 1, property)).toList ++
        numberedFrom (start + 1) boxes := by
  rw [numberedFrom, List.zipIdx_cons]
  cases understood : transformProperty box with
  | none => simp [understood, numberedFrom]
  | some property => simp [understood, numberedFrom]

/-- Numbers begin behind the start. -/
theorem find_numberedFrom_low {start index : Nat} (low : index ≤ start) (boxes : List Box) :
    (numberedFrom start boxes).find? (fun property => property.1 == index) = none := by
  induction boxes generalizing start with
  | nil => rfl
  | cons box boxes ih =>
      rw [numberedFrom_cons, List.find?_append, ih (Nat.le_succ_of_le low), Option.or_none]
      cases transformProperty box with
      | none => rfl
      | some property =>
          have apart : (start + 1 == index) = false := by
            rw [beq_eq_false_iff_ne]
            omega
          simp [apart]

/-- A number finds the box it counts to, if that box is understood. -/
theorem find_numberedFrom (start position : Nat) (boxes : List Box) :
    ((numberedFrom start boxes).find? (fun property => property.1 == start + position + 1)).map
        Prod.snd = boxes[position]?.bind transformProperty := by
  induction boxes generalizing start position with
  | nil => rfl
  | cons box boxes ih =>
      rw [numberedFrom_cons, List.find?_append]
      cases position with
      | zero =>
          rw [find_numberedFrom_low (Nat.le_refl _), Option.or_none, List.getElem?_cons_zero]
          cases understood : transformProperty box with
          | none => simp [understood]
          | some property => simp [understood]
      | succ position =>
          have later := ih (start + 1) position
          rw [List.getElem?_cons_succ, ← later]
          have same : start + 1 + position + 1 = start + (position + 1) + 1 := by omega
          rw [same]
          cases transformProperty box with
          | none => rfl
          | some property =>
              have apart : (start + 1 == start + (position + 1) + 1) = false := by
                rw [beq_eq_false_iff_ne]
                omega
              simp [apart]

/-- An index finds in `ipco` the property it names. -/
theorem find_collectProperties (properties : List ItemProperty) (budget index : Nat) :
    ((collectProperties ⟨properties.map ItemProperty.box, budget⟩).find?
        (fun property => property.1 == index)).map Prod.snd =
      (numbered properties index).bind fun property => transformProperty property.box := by
  change ((numberedFrom 0 (properties.map ItemProperty.box)).find? _).map _ = _
  cases index with
  | zero => rw [find_numberedFrom_low (Nat.le_refl 0)]; rfl
  | succ position =>
      have found := find_numberedFrom 0 position (properties.map ItemProperty.box)
      rw [Nat.zero_add] at found
      rw [found, List.getElem?_map, numbered]
      cases properties[position]? with
      | none => rfl
      | some property => rfl

/-- A transform composed index by index stands for the pixels moved property by property.
The induction carries that the transform so far stands for the pixels so far. -/
theorem foldl_act {α : Type} {grid pixels : Grid α} {properties : List ItemProperty}
    {table : List (Nat × TransformProperty)} {step : Transform → Nat → Transform}
    (found : ∀ index, (table.find? fun property => property.1 == index).map Prod.snd =
      (numbered properties index).bind fun property => transformProperty property.box)
    (hit : ∀ before index entry, (table.find? fun property => property.1 == index) = some entry →
      step before index = before.andThen entry.2.op)
    (miss : ∀ before index, (table.find? fun property => property.1 == index) = none →
      step before index = before)
    (associations : List Association) {before : Transform} (reduced : before.Reduced)
    (same : before.act grid = pixels) :
    ((associations.map Association.index).foldl step before).intoOrientation.applyTo grid =
      applyAssociated properties pixels associations := by
  induction associations generalizing before pixels with
  | nil => exact (Transform.applyTo_intoOrientation grid reduced).trans same
  | cons association others ih =>
      rw [List.map_cons, List.foldl_cons, applyAssociated, List.foldl_cons]
      have here := found association.index
      cases named : numbered properties association.index with
      | none =>
          rw [named, Option.bind_none, Option.map_eq_none_iff] at here
          rw [miss before association.index here]
          exact ih reduced same
      | some property =>
          rw [named, Option.bind_some] at here
          have moved := act_transformProperty pixels property
          cases understood : transformProperty property.box with
          | none =>
              rw [understood] at here moved
              rw [miss before association.index (Option.map_eq_none_iff.mp here)]
              exact ih reduced (same.trans moved)
          | some transform =>
              rw [understood] at here moved
              obtain ⟨entry, isEntry, isTransform⟩ := Option.map_eq_some_iff.mp here
              rw [hit before association.index entry isEntry]
              apply ih (Transform.andThen_reduced _ _)
              rw [Transform.act_andThen, same, isTransform]
              exact moved

/-- Composed transforms do to pixels what the associated properties do, one after
another. -/
theorem composeProperties_act {α : Type} (grid : Grid α) (properties : List ItemProperty)
    (budget : Nat) (associations : List Association) :
    (composeProperties (collectProperties ⟨properties.map ItemProperty.box, budget⟩)
        (associations.map Association.index)).intoOrientation.applyTo grid =
      applyAssociated properties grid associations := by
  rw [composeProperties]
  apply foldl_act (find_collectProperties properties budget)
  · intro before index entry isEntry
    simp only [isEntry]
  · intro before index none
    simp only [none]
  · exact Nat.zero_lt_succ 3
  · rfl

/-! ## The boxes that say so -/

/-- `pitm`: the item that the properties of interest belong to. -/
structure PrimaryItem where
  version : Nat
  flags : Bytes
  itemId : Nat
  trailing : Bytes

namespace PrimaryItem

variable (pitm : PrimaryItem)

structure Fits : Prop where
  version : pitm.version < 256
  flags : pitm.flags.length = 3
  itemId : pitm.itemId < 256 ^ shortOrLongWidth (pitm.version = 0)

def write : Bytes :=
  uintBytes 1 pitm.version ++ (pitm.flags ++
    uintBytes (shortOrLongWidth (pitm.version = 0)) pitm.itemId) ++ pitm.trailing

variable {pitm}

theorem Fits.parse (fits : pitm.Fits) : parsePrimaryItemId pitm.write = some pitm.itemId := by
  have reads : Reads primaryItemId (uintBytes 1 pitm.version ++ (pitm.flags ++
      uintBytes (shortOrLongWidth (pitm.version = 0)) pitm.itemId)) pitm.itemId := by
    apply (Reads.uint (by simpa using fits.version)).bind
    apply (Reads.bytes_of_length fits.flags).bind
    exact shortOrLong_reads fits.itemId
  rw [parsePrimaryItemId, write, reads]
  rfl

end PrimaryItem

/-- An item and the properties associated with it, in order. -/
structure AssociationEntry where
  itemId : Nat
  associations : List Association

/-- `ipma`: which properties belong to which item. -/
structure PropertyAssociations where
  version : Nat
  flags : Nat
  entries : List AssociationEntry
  trailing : Bytes

namespace PropertyAssociations

variable (ipma : PropertyAssociations)

def wideItemId : Bool := 1 ≤ ipma.version

def largeIndex : Bool := ipma.flags % 2 = 1

/-- The bytes of an association, the essential bit in front of the index. -/
def indexWidth : Nat := if ipma.largeIndex then 2 else 1

/-- The indices that an association has bits for. -/
def indexLimit : Nat := if ipma.largeIndex then 2 ^ 15 else 2 ^ 7

def writeAssociation (association : Association) : Bytes :=
  uintBytes ipma.indexWidth
    (association.index + if association.essential then ipma.indexLimit else 0)

def writeEntry (entry : AssociationEntry) : Bytes :=
  uintBytes (shortOrLongWidth (!ipma.wideItemId)) entry.itemId ++
    (uintBytes 1 entry.associations.length ++ entry.associations.flatMap ipma.writeAssociation)

def write : Bytes :=
  uintBytes 1 ipma.version ++ (uintBytes 3 ipma.flags ++ uintBytes 4 ipma.entries.length) ++
    (ipma.entries.flatMap ipma.writeEntry ++ ipma.trailing)

structure EntryFits (entry : AssociationEntry) : Prop where
  itemId : entry.itemId < 256 ^ shortOrLongWidth (!ipma.wideItemId)
  count : entry.associations.length < 256
  index : ∀ association ∈ entry.associations, association.index < ipma.indexLimit

structure Fits : Prop where
  version : ipma.version < 256
  flags : ipma.flags < 256 ^ 3
  count : ipma.entries.length < 256 ^ 4
  entry : ∀ entry ∈ ipma.entries, ipma.EntryFits entry

variable {ipma}

theorem indexLimit_twice : ipma.indexLimit + ipma.indexLimit = 256 ^ ipma.indexWidth := by
  rw [indexLimit, indexWidth]
  cases ipma.largeIndex with
  | false => rfl
  | true => rfl

theorem ipmaAssociation_eq :
    ipmaAssociation ipma.largeIndex = (· % ipma.indexLimit) <$> uint ipma.indexWidth := by
  rw [indexLimit, indexWidth]
  cases ipma.largeIndex with
  | false => rfl
  | true => rfl

theorem association_reads {association : Association}
    (fits : association.index < ipma.indexLimit) :
    Reads (ipmaAssociation ipma.largeIndex) (ipma.writeAssociation association)
      association.index := by
  rw [ipmaAssociation_eq, writeAssociation]
  have both := ipma.indexLimit_twice
  cases association.essential with
  | false =>
      have reads := (Reads.uint (by omega : association.index + 0 < 256 ^ ipma.indexWidth)).map
        (· % ipma.indexLimit)
      rw [Nat.add_zero, Nat.mod_eq_of_lt fits] at reads
      exact reads
  | true =>
      have reads := (Reads.uint
        (by omega : association.index + ipma.indexLimit < 256 ^ ipma.indexWidth)).map
        (· % ipma.indexLimit)
      rw [Nat.add_mod_right, Nat.mod_eq_of_lt fits] at reads
      exact reads

/-- The header of an entry as it is read. -/
theorem ipmaItem_reads {entry : AssociationEntry} (fits : ipma.EntryFits entry) :
    Reads (ipmaItem ipma.wideItemId)
      (uintBytes (shortOrLongWidth (!ipma.wideItemId)) entry.itemId ++
        uintBytes 1 entry.associations.length)
      ⟨entry.itemId, entry.associations.length⟩ := by
  rw [ipmaItem]
  apply (shortOrLong_reads fits.itemId).bind
  exact (Reads.uint (by simpa using fits.count)).done (Reads.pure _)

theorem entry_reads {entry : AssociationEntry} (fits : ipma.EntryFits entry) :
    ReadsEntry (ipmaItem ipma.wideItemId) (fun _ => ipmaAssociation ipma.largeIndex)
      IpmaItem.associationCount (ipma.writeEntry entry)
      ⟨entry.itemId, entry.associations.length⟩ (entry.associations.map Association.index) where
  reads rest := by
    refine ⟨entry.associations.flatMap ipma.writeAssociation ++ rest, ?_, ?_⟩
    · rw [writeEntry, ← List.append_assoc, List.append_assoc _ _ rest]
      exact ipmaItem_reads fits _
    · apply times_reads
      intro association member
      exact association_reads (fits.index association member)

/-- The associations found are those of the first entry for the item. -/
theorem Fits.parse (fits : ipma.Fits) (target : Nat) :
    (parsePrimaryItemAssociations ipma.write target).1 =
      (ipma.entries.find? fun entry => entry.itemId == target).map fun entry =>
        entry.associations.map Association.index := by
  have header : Reads ipmaHeader
      (uintBytes 1 ipma.version ++ (uintBytes 3 ipma.flags ++ uintBytes 4 ipma.entries.length))
      ⟨ipma.version, ipma.flags, ipma.entries.length⟩ := by
    apply (Reads.uint (by simpa using fits.version)).bind
    apply (Reads.uint fits.flags).bind
    exact (Reads.uint fits.count).done (Reads.pure _)
  rw [parsePrimaryItemAssociations, write, header]
  have scanned := @scan_reads _ _ _ _ _ _ (fun item => item.itemId == target) ipma.writeEntry
    (fun entry => IpmaItem.mk entry.itemId entry.associations.length)
    (fun entry => entry.associations.map Association.index) _
    (fun entry member => entry_reads (fits.entry entry member)) ipma.trailing
  simp only [wideItemId, largeIndex] at scanned
  simp only [scanned, Option.map_map]
  rfl

end PropertyAssociations

/-! ## Where they are -/

/-- The file `data` with what its `meta` box says about orientation: the primary item, the
item properties and which belong to which item, each in the first box of its type. -/
structure OrientationLayout (data : Bytes) extends MetaLayout data where
  pitm : PrimaryItem
  pitmFits : pitm.Fits
  hasPitm : contentOf children (fourCC 'p' 'i' 't' 'm') = some pitm.write
  iprp : Bytes
  hasIprp : contentOf children (fourCC 'i' 'p' 'r' 'p') = some iprp
  groups : List Box
  groupsWritten : Written groups iprp
  ipco : Bytes
  hasIpco : contentOf groups (fourCC 'i' 'p' 'c' 'o') = some ipco
  properties : List ItemProperty
  propertiesWritten : Written (properties.map ItemProperty.box) ipco
  ipma : PropertyAssociations
  ipmaFits : ipma.Fits
  hasIpma : contentOf groups (fourCC 'i' 'p' 'm' 'a') = some ipma.write
  affordable : groups.length + properties.length ≤ toMetaLayout.budget

namespace OrientationLayout

variable {data : Bytes} (layout : OrientationLayout data)

/-- The associations of the primary item: those of the first entry for it. -/
def associations : List Association :=
  ((layout.ipma.entries.find? fun entry => entry.itemId == layout.pitm.itemId).map
    AssociationEntry.associations).getD []

/-- The pixels as the container has them shown. -/
def shown {α : Type} (grid : Grid α) : Grid α :=
  applyAssociated layout.properties grid layout.associations

/-- The orientation is resolved to what the container describes. -/
theorem resolveOrientation_applyTo {α : Type} (grid : Grid α) {budget : Nat}
    (enough : layout.groups.length + layout.properties.length ≤ budget) :
    ((resolveOrientation (some layout.pitm.write) (some layout.iprp) budget).1.getD
      .noTransforms).applyTo grid = layout.shown grid := by
  have groups : walkBoxes layout.iprp 2 budget =
      ⟨layout.groups, budget - layout.groups.length⟩ :=
    walkBoxes_written (by decide) layout.groupsWritten (by omega)
  have properties : walkBoxes layout.ipco 3 (budget - layout.groups.length) =
      ⟨layout.properties.map ItemProperty.box,
        budget - layout.groups.length - (layout.properties.map ItemProperty.box).length⟩ :=
    walkBoxes_written (by decide) layout.propertiesWritten (by rw [List.length_map]; omega)
  simp only [resolveOrientation, Option.bind_some, layout.pitmFits.parse, groups, first_eq,
    layout.hasIpco, layout.hasIpma, properties, layout.ipmaFits.parse layout.pitm.itemId,
    Option.map_map]
  rw [shown, associations]
  cases layout.ipma.entries.find? fun entry => entry.itemId == layout.pitm.itemId with
  | none => rfl
  | some entry => exact composeProperties_act grid layout.properties _ entry.associations

end OrientationLayout

/-- The orientation reported for a container does to pixels what the container says. -/
theorem parse_orientation {α : Type} {data : Bytes} (layout : OrientationLayout data)
    (grid : Grid α) : (parse data).orientation.applyTo grid = layout.shown grid := by
  rw [parse, parseCounted, layout.metaBody_eq]
  simp only [layout.walk_children, first_eq, layout.hasPitm, layout.hasIprp]
  exact layout.resolveOrientation_applyTo grid layout.affordable

/-- A property of another kind before a rotation and a mirror, which belong to the primary
item; another item has a rotation of its own. -/
def mirroredTurnBoxes : PropertyAssociations × List ItemProperty :=
  (⟨0, 0, [⟨2, [⟨true, 4⟩]⟩, ⟨1, [⟨false, 1⟩, ⟨true, 2⟩, ⟨true, 3⟩]⟩], []⟩,
    [.other ⟨fourCC 'i' 's' 'p' 'e', []⟩ (by decide), .irot 1 [], .imir 0 [], .irot 2 []])

def mirroredTurnGroups : List Box :=
  [⟨fourCC 'i' 'p' 'c' 'o', placed (mirroredTurnBoxes.2.map ItemProperty.box)⟩,
    ⟨fourCC 'i' 'p' 'm' 'a', mirroredTurnBoxes.1.write⟩]

def mirroredTurnChildren : List Box :=
  [⟨fourCC 'p' 'i' 't' 'm', PrimaryItem.write ⟨0, [0, 0, 0], 1, []⟩⟩,
    ⟨fourCC 'i' 'p' 'r' 'p', placed mirroredTurnGroups⟩]

def mirroredTurnFile : List Box :=
  [⟨fourCC 'm' 'e' 't' 'a', [0, 0, 0, 0] ++ placed mirroredTurnChildren⟩]

def mirroredTurn : OrientationLayout (placed mirroredTurnFile) where
  file := mirroredTurnFile
  fileWritten := written_placed (by decide)
  versionAndFlags := [0, 0, 0, 0]
  versioned := rfl
  body := placed mirroredTurnChildren
  hasMeta := rfl
  children := mirroredTurnChildren
  childrenWritten := written_placed (by decide)
  reachable := by decide
  pitm := ⟨0, [0, 0, 0], 1, []⟩
  pitmFits := ⟨by decide, rfl, by decide⟩
  hasPitm := rfl
  iprp := placed mirroredTurnGroups
  hasIprp := rfl
  groups := mirroredTurnGroups
  groupsWritten := written_placed (by decide)
  ipco := placed (mirroredTurnBoxes.2.map ItemProperty.box)
  hasIpco := rfl
  properties := mirroredTurnBoxes.2
  propertiesWritten := written_placed (by decide)
  ipma := mirroredTurnBoxes.1
  ipmaFits := by
    refine ⟨by decide, by decide, by decide, ?_⟩
    intro entry member
    simp only [mirroredTurnBoxes, List.mem_cons, List.not_mem_nil, or_false] at member
    rcases member with rfl | rfl
    · exact ⟨by decide, by decide, by decide⟩
    · exact ⟨by decide, by decide, by decide⟩
  hasIpma := rfl
  affordable := by decide

/-- A row of two pixels. -/
def darkAndLight : Grid Bool where
  width := 2
  height := 1
  pixel x y := if y = 0 then [false, true][x]? else none
  outside x y out := by
    by_cases row : y = 0
    · rw [if_pos row, List.getElem?_eq_none_iff]
      simp only [List.length_cons, List.length_nil]
      omega
    · exact if_neg row

theorem parse_orientation_mirroredTurn :
    (parse (placed mirroredTurnFile)).orientation.applyTo darkAndLight =
      mirroredTurn.shown darkAndLight :=
  parse_orientation mirroredTurn darkAndLight

example : (parse (placed mirroredTurnFile)).orientation = .rotate270FlipH := by decide +kernel

end AvifMeta

end ImageResizer
