import ImageResizer.AvifMeta
import Mathlib.Algebra.Order.BigOperators.Group.List
import Mathlib.Algebra.Order.Ring.Nat
import Mathlib.Tactic.Common

/-!
# The work of an AVIF metadata parse

The walks visit at most as many boxes as the budget allows, and every table record
whose fields take at least one byte is paid for by the input.  The one record that
can be free is an `iloc` extent: with zero widths for its offset, length and index
an entry announces up to 65535 of them in the two bytes of its count.
-/

namespace ImageResizer.AvifMeta

open Reader

/-! ## Boxes -/

/-- Every visited box costs one unit of the budget. -/
theorem walk_budget (budget : Nat) (data : Bytes) :
    (walk budget data).boxes.length + (walk budget data).budget = budget := by
  induction budget generalizing data with
  | zero => rfl
  | succ budget ih =>
      simp only [walk]
      split
      · simp
      · split
        · simp
        · rename_i totalSize _
          have rest := ih (data.drop totalSize)
          simp only [List.length_cons]
          omega

theorem walkBoxes_budget (data : Bytes) (depth budget : Nat) :
    (walkBoxes data depth budget).boxes.length + (walkBoxes data depth budget).budget =
      budget := by
  unfold walkBoxes
  split
  · simp
  · exact walk_budget budget data

/-- The header of a box is inside the box, and the box inside the data. -/
theorem readBoxHeader_bounds {data boxType : Bytes} {headerLen totalSize : Nat}
    (read : readBoxHeader data = some (boxType, headerLen, totalSize)) :
    headerLen ≤ totalSize ∧ totalSize ≤ data.length := by
  unfold readBoxHeader at read
  split at read
  · cases read
  · split at read
    · cases read
    · rename_i inside
      simp only [Bool.or_eq_true, decide_eq_true_eq, not_or, Nat.not_lt] at inside
      cases read
      exact inside

/-- The contents of the visited boxes lie side by side in the data. -/
theorem walk_contents (budget : Nat) (data : Bytes) :
    ((walk budget data).boxes.map fun box => box.content.length).sum ≤ data.length := by
  induction budget generalizing data with
  | zero => simp [walk]
  | succ budget ih =>
      simp only [walk]
      split
      · simp
      · split
        · simp
        · rename_i boxType headerLen totalSize read
          have rest := ih (data.drop totalSize)
          have bounds := readBoxHeader_bounds read
          simp only [List.map_cons, List.sum_cons, List.length_drop, List.length_take] at rest ⊢
          omega

theorem walkBoxes_contents (data : Bytes) (depth budget : Nat) :
    ((walkBoxes data depth budget).boxes.map fun box => box.content.length).sum ≤
      data.length := by
  unfold walkBoxes
  split
  · simp
  · exact walk_contents budget data

/-- The first box of a type is one of those visited. -/
theorem first_length {walk : Walk} {target content : Bytes}
    (found : walk.first target = some content) :
    content.length ≤ (walk.boxes.map fun box => box.content.length).sum := by
  simp only [Walk.first, Option.map_eq_some_iff] at found
  obtain ⟨box, located, rfl⟩ := found
  exact List.le_sum_of_mem (List.mem_map_of_mem (List.mem_of_find?_eq_some located))

/-- The first boxes of two types are two boxes. -/
theorem firsts_length {walk : Walk} {target other content content' : Bytes}
    (distinct : target ≠ other) (found : walk.first target = some content)
    (found' : walk.first other = some content') :
    content.length + content'.length ≤
      (walk.boxes.map fun box => box.content.length).sum := by
  obtain ⟨boxes, budget⟩ := walk
  simp only [Walk.first] at found found' ⊢
  induction boxes with
  | nil => simp at found
  | cons box boxes ih =>
      simp only [List.find?_cons] at found found'
      simp only [List.map_cons, List.sum_cons]
      split at found
      · rename_i isTarget
        have notOther : (box.boxType == other) = false := by
          simp only [beq_iff_eq] at isTarget
          simpa [isTarget] using distinct
        rw [notOther] at found'
        cases found
        have later := @first_length ⟨boxes, budget⟩ _ _ found'
        simp only at later
        omega
      · split at found'
        · cases found'
          have later := @first_length ⟨boxes, budget⟩ _ _ found
          simp only at later
          omega
        · have later := ih found found'
          omega

/-! ## Records -/

theorem shortOrLong_takes (short : Bool) : AtLeast 2 (shortOrLong short) := by
  unfold shortOrLong
  split
  · exact AtLeast.uint 2
  · exact (AtLeast.uint 4).mono (by decide)

theorem readUint_takes (size : Nat) : AtLeast (min size 1) (readUint size) := by
  unfold readUint
  split
  · rename_i zero
    subst zero
    exact AtLeast.pure 0
  · split
    · exact AtLeast.fail
    · exact (AtLeast.uint size).mono (by omega)

theorem ipmaItem_takes (wide : Bool) : AtLeast 1 (ipmaItem wide) :=
  ((shortOrLong_takes _).bind fun _ => (AtLeast.uint 1).bind fun _ => AtLeast.pure _).mono
    (by decide)

theorem ipmaAssociation_takes (large : Bool) : AtLeast 1 (ipmaAssociation large) := by
  unfold ipmaAssociation
  split
  · exact ((AtLeast.uint 2).map _).mono (by decide)
  · exact (AtLeast.uint 1).map _

theorem ipmaHeader_takes : AtLeast 8 ipmaHeader :=
  (AtLeast.uint 1).bind fun _ => (AtLeast.uint 3).bind fun _ =>
    (AtLeast.uint 4).bind fun _ => AtLeast.pure _

theorem ilocHeader_takes : AtLeast 8 ilocHeader :=
  (AtLeast.uint 1).bind fun _ => (AtLeast.bytes 3).bind fun _ => (AtLeast.uint 1).bind fun _ =>
    (AtLeast.uint 1).bind fun _ => (shortOrLong_takes _).bind fun _ => AtLeast.pure _

theorem constructionMethod_takes (indexed : Bool) : AtLeast 0 (constructionMethod indexed) := by
  unfold constructionMethod
  split
  · exact ((AtLeast.uint 2).map _).mono (Nat.zero_le _)
  · exact AtLeast.pure 0

theorem ilocItem_takes (header : IlocHeader) : AtLeast 1 (ilocItem header) :=
  ((shortOrLong_takes _).bind fun _ => (constructionMethod_takes _).bind fun _ =>
    (AtLeast.bytes 2).bind fun _ => ((readUint_takes _).mono (Nat.zero_le _)).bind fun _ =>
      (AtLeast.uint 2).bind fun _ => AtLeast.pure _).mono (by decide)

/-- The widths that make an extent free. -/
def IlocHeader.zeroWidths (header : IlocHeader) : Bool :=
  header.indexWidth == 0 && header.offsetSize == 0 && header.lengthSize == 0

theorem ilocExtent_takes {header : IlocHeader} (widths : header.zeroWidths = false) :
    AtLeast 1 (ilocExtent header) := by
  refine ((readUint_takes _).bind fun _ => (readUint_takes _).bind fun _ =>
    (readUint_takes _).bind fun _ => AtLeast.pure _).mono ?_
  simp only [IlocHeader.zeroWidths, Bool.and_eq_false_iff, beq_eq_false_iff_ne] at widths
  omega

theorem ilocExtent_free {header : IlocHeader} (widths : header.zeroWidths = true)
    (input : Bytes) : (ilocExtent header).run input = some ((0, 0), input) := by
  simp only [IlocHeader.zeroWidths, Bool.and_eq_true, beq_iff_eq] at widths
  obtain ⟨⟨index, offset⟩, length⟩ := widths
  simp [ilocExtent, readUint, index, offset, length]

/-- What a table scan may cost: every examined record takes something, and there are no
more of them than bytes in the table. -/
def Paid (table : Bytes) (log : Log) : Prop := Log.Consuming log ∧ log.length ≤ table.length

theorem Paid.nil (table : Bytes) : Paid table [] := by
  simp [Paid, Log.Consuming]

theorem ipma_paid (content : Bytes) (target : Nat) :
    Paid content (parsePrimaryItemAssociations content target).2 := by
  unfold parsePrimaryItemAssociations
  split
  · exact Paid.nil content
  · rename_i header rest ran
    have taken := ipmaHeader_takes content header rest ran
    obtain ⟨consuming, bounded⟩ := @scan_work _ _ _ (fun _ => ipmaAssociation _) _
      (fun item => item.itemId == target) (ipmaItem_takes (1 ≤ header.version))
      (fun _ => ipmaAssociation_takes (header.flags % 2 = 1)) header.entryCount rest
    exact ⟨consuming, by simp only at bounded ⊢; omega⟩

/-- The table declares free extents, and an item up to the one searched for has some. -/
def freeExtents (content : Bytes) (target : Nat) : Bool :=
  match ilocHeader.run content with
  | none => false
  | some (header, rest) =>
      header.zeroWidths &&
        announces (ilocItem header) IlocItem.extentCount (fun item => item.itemId == target)
          header.itemCount rest

theorem iloc_paid_iff (content : Bytes) (target : Nat) :
    (freeExtents content target = false → Paid content (findIlocEntry content target).2) ∧
      (freeExtents content target = true → some 0 ∈ (findIlocEntry content target).2) := by
  unfold freeExtents findIlocEntry
  cases ran : ilocHeader.run content with
  | none => exact ⟨fun _ => Paid.nil content, by simp⟩
  | some read =>
      obtain ⟨header, rest⟩ := read
      have taken := ilocHeader_takes content header rest ran
      simp only
      cases widths : header.zeroWidths with
      | false =>
          obtain ⟨consuming, bounded⟩ := @scan_work _ _ _ (fun _ => ilocExtent header)
            IlocItem.extentCount (fun item => item.itemId == target) (ilocItem_takes header)
            (fun _ => ilocExtent_takes widths) header.itemCount rest
          exact ⟨fun _ => ⟨consuming, by omega⟩, by simp⟩
      | true =>
          obtain ⟨announced, silent⟩ := @scan_work_empty _ _ _ (fun _ => ilocExtent header)
            IlocItem.extentCount (fun item => item.itemId == target) _ (ilocItem_takes header)
            (fun _ => ilocExtent_free widths) header.itemCount rest
          simp only [Bool.true_and]
          refine ⟨fun quiet => ?_, announced⟩
          obtain ⟨consuming, bounded⟩ := silent quiet
          exact ⟨consuming, by omega⟩

/-! ## The whole parse -/

/-- What resolving the orientation visits, examines and leaves. -/
theorem resolveOrientation_work (pitm iprp : Option Bytes) (budget : Nat) :
    (resolveOrientation pitm iprp budget).2.1.boxes.length +
        (resolveOrientation pitm iprp budget).2.2 = budget ∧
      Log.Consuming (resolveOrientation pitm iprp budget).2.1.records ∧
      (resolveOrientation pitm iprp budget).2.1.records.length ≤
        (iprp.map List.length).getD 0 := by
  unfold resolveOrientation
  cases pitm.bind parsePrimaryItemId with
  | none => simp [Work.none, Log.Consuming]
  | some primary =>
      cases iprp with
      | none => simp [Work.none, Log.Consuming]
      | some content =>
          have top := walkBoxes_budget content 2 budget
          simp only
          cases (walkBoxes content 2 budget).first (fourCC 'i' 'p' 'c' 'o') with
          | none => exact ⟨top, by simp [Log.Consuming], Nat.zero_le _⟩
          | some ipco =>
              have children := walkBoxes_budget ipco 3 (walkBoxes content 2 budget).budget
              simp only
              cases found : (walkBoxes content 2 budget).first (fourCC 'i' 'p' 'm' 'a') with
              | none =>
                  refine ⟨?_, by simp [Log.Consuming], Nat.zero_le _⟩
                  simp only [List.length_append]
                  omega
              | some ipma =>
                  obtain ⟨consuming, bounded⟩ := ipma_paid ipma primary
                  have inside := (first_length found).trans (walkBoxes_contents content 2 budget)
                  refine ⟨?_, consuming, ?_⟩
                  · simp only [List.length_append]
                    omega
                  · simp only [Option.map_some, Option.getD_some]
                    omega

/-- The `iloc` table a parse searches and the item it searches for. -/
def searchedIloc (iinf iloc : Option Bytes) (budget : Nat) : Option (Bytes × Nat) :=
  match iinf.bind fun iinf => (findExifItemId iinf budget).1, iloc with
  | some itemId, some iloc => some (iloc, itemId)
  | _, _ => none

theorem findExifItemId_work (iinf : Bytes) (budget : Nat) :
    (findExifItemId iinf budget).2.length ≤ budget := by
  unfold findExifItemId
  split
  · exact Nat.zero_le _
  · rename_i children _
    have walked := walkBoxes_budget children 2 budget
    simp only
    omega

/-- What extracting the EXIF payload visits and examines. -/
theorem extractExifPayload_work (data : Bytes) (iinf iloc : Option Bytes) (budget : Nat) :
    (extractExifPayload data iinf iloc budget).2.boxes.length ≤ budget ∧
      (extractExifPayload data iinf iloc budget).2.records =
        ((searchedIloc iinf iloc budget).map fun searched =>
          (findIlocEntry searched.1 searched.2).2).getD [] := by
  unfold extractExifPayload searchedIloc
  cases iinf with
  | none => simp [Work.none]
  | some content =>
      have walked := findExifItemId_work content budget
      simp only [Option.bind_some]
      cases item : (findExifItemId content budget).1 with
      | none => simp [walked]
      | some itemId =>
          cases iloc with
          | none => simp [walked]
          | some table => simp [walked]

/-- Where a parse searches for the EXIF item's location. -/
def parseSearch (data : Bytes) : Option (Bytes × Nat) :=
  let (body, top) := metaBody data
  body.bind fun body =>
    let children := walkBoxes body 1 top.budget
    let (_, _, budget) := resolveOrientation
      (children.first (fourCC 'p' 'i' 't' 'm')) (children.first (fourCC 'i' 'p' 'r' 'p'))
      children.budget
    searchedIloc (children.first (fourCC 'i' 'i' 'n' 'f'))
      (children.first (fourCC 'i' 'l' 'o' 'c')) budget

/-- The file makes the parse examine free extents. -/
def examinesFreeExtents (data : Bytes) : Bool :=
  (parseSearch data).any fun searched => freeExtents searched.1 searched.2

/-- The work of a parse is bounded: the box budget holds, no more table records are
examined than there are bytes, and every examined record takes at least one. -/
def BoundedWork (data : Bytes) (work : Work) : Prop :=
  work.boxes.length ≤ maxBoxesVisited ∧ work.records.length ≤ data.length ∧
    Log.Consuming work.records

/-- The tables of a parse lie side by side in its file. -/
theorem tables_length {walk : Walk} {data : Bytes} {iprp iloc : Option Bytes}
    (contents : (walk.boxes.map fun box => box.content.length).sum ≤ data.length)
    (first : iprp = walk.first (fourCC 'i' 'p' 'r' 'p'))
    (second : iloc = walk.first (fourCC 'i' 'l' 'o' 'c')) :
    (iprp.map List.length).getD 0 + (iloc.map List.length).getD 0 ≤ data.length := by
  cases iprp with
  | none =>
      cases iloc with
      | none => simp
      | some table =>
          have inside := first_length second.symm
          simp only [Option.map_none, Option.map_some, Option.getD_none, Option.getD_some]
          omega
  | some properties =>
      have inside := first_length first.symm
      cases iloc with
      | none =>
          simp only [Option.map_none, Option.map_some, Option.getD_none, Option.getD_some]
          omega
      | some table =>
          have apart := firsts_length (by decide) first.symm second.symm
          simp only [Option.map_some, Option.getD_some]
          omega

/-- The search reads the `iloc` box it was given. -/
theorem searchedIloc_table {iinf iloc : Option Bytes} {budget : Nat} {table : Bytes}
    {target : Nat} (searched : searchedIloc iinf iloc budget = some (table, target)) :
    iloc = some table := by
  unfold searchedIloc at searched
  split at searched
  · cases searched
    rfl
  · cases searched

theorem metaBody_length {data body : Bytes} (found : (metaBody data).1 = some body) :
    body.length ≤ data.length := by
  simp only [metaBody] at found
  obtain ⟨content, first, rest⟩ := Option.bind_eq_some_iff.mp found
  obtain ⟨read, ran, rfl⟩ := Option.map_eq_some_iff.mp rest
  have inside := (first_length first).trans (walkBoxes_contents data 0 maxBoxesVisited)
  have taken := AtLeast.bytes 4 content read.1 read.2 ran
  omega

/-- The log of the search, when it pays for itself and when it does not. -/
theorem search_work (iinf iloc : Option Bytes) (budget : Nat) :
    let log := ((searchedIloc iinf iloc budget).map fun searched =>
      (findIlocEntry searched.1 searched.2).2).getD []
    ((searchedIloc iinf iloc budget).any
        (fun searched => freeExtents searched.1 searched.2) = false →
      Log.Consuming log ∧ log.length ≤ (iloc.map List.length).getD 0) ∧
    ((searchedIloc iinf iloc budget).any
        (fun searched => freeExtents searched.1 searched.2) = true → some 0 ∈ log) := by
  cases searched : searchedIloc iinf iloc budget with
  | none => simp [Log.Consuming]
  | some found =>
      obtain ⟨table, target⟩ := found
      obtain ⟨paid, free⟩ := iloc_paid_iff table target
      simpa [searchedIloc_table searched, Paid] using And.intro paid free

/-- The work of a parse is bounded exactly when it examines no free extent. -/
theorem parse_work_iff (data : Bytes) :
    BoundedWork data (parseCounted data).2 ↔ examinesFreeExtents data = false := by
  unfold parseCounted examinesFreeExtents parseSearch
  have top := walkBoxes_budget data 0 maxBoxesVisited
  have metaWalk : (metaBody data).2 = walkBoxes data 0 maxBoxesVisited := rfl
  cases found : (metaBody data).1 with
  | none =>
      simp only [found, metaWalk, Option.bind_none, Option.any_none, iff_true]
      exact ⟨by simp only; omega, Nat.zero_le _, by simp [Log.Consuming]⟩
  | some body =>
      simp only [found, metaWalk, Option.bind_some]
      generalize (walkBoxes data 0 maxBoxesVisited) = start at top ⊢
      have walked := walkBoxes_budget body 1 start.budget
      have contents := (walkBoxes_contents body 1 start.budget).trans (metaBody_length found)
      generalize (walkBoxes body 1 start.budget) = children at walked contents ⊢
      have tables := tables_length contents rfl rfl
      obtain ⟨resolved, paid, bounded⟩ := resolveOrientation_work
        (children.first (fourCC 'p' 'i' 't' 'm')) (children.first (fourCC 'i' 'p' 'r' 'p'))
        children.budget
      generalize resolveOrientation (children.first (fourCC 'p' 'i' 't' 'm'))
        (children.first (fourCC 'i' 'p' 'r' 'p')) children.budget = orientation
        at resolved paid bounded ⊢
      obtain ⟨_, work, left⟩ := orientation
      obtain ⟨visited, examined⟩ := extractExifPayload_work data
        (children.first (fourCC 'i' 'i' 'n' 'f')) (children.first (fourCC 'i' 'l' 'o' 'c')) left
      obtain ⟨quiet, free⟩ := search_work
        (children.first (fourCC 'i' 'i' 'n' 'f')) (children.first (fourCC 'i' 'l' 'o' 'c')) left
      simp only [BoundedWork, Work.add, List.length_append, List.nil_append, examined]
        at resolved paid bounded ⊢
      constructor
      case mp =>
        rintro ⟨_, _, consuming⟩
        by_contra announced
        have zero := free (by simpa using announced)
        have positive := consuming 0 (List.mem_append_right _ zero)
        omega
      case mpr =>
        intro silent
        obtain ⟨consuming, count⟩ := quiet silent
        refine ⟨by omega, by omega, ?_⟩
        intro taken member
        rcases List.mem_append.mp member with here | there
        · exact paid taken here
        · exact consuming taken there

/-- A file of 68 bytes whose one `iloc` entry announces 255 extents of zero widths. -/
def zeroWidthFile : Bytes :=
  [0, 0, 0, 68] ++ fourCC 'm' 'e' 't' 'a' ++ [0, 0, 0, 0] ++
    [0, 0, 0, 34] ++ fourCC 'i' 'i' 'n' 'f' ++ [0, 0, 0, 0, 0, 1] ++
      [0, 0, 0, 20] ++ fourCC 'i' 'n' 'f' 'e' ++ [2, 0, 0, 0, 0, 1, 0, 0] ++
        fourCC 'E' 'x' 'i' 'f' ++
    [0, 0, 0, 22] ++ fourCC 'i' 'l' 'o' 'c' ++
      [0, 0, 0, 0, 0, 0, 0, 1] ++ [0, 1, 0, 0, 0, 255]

theorem unbounded_work :
    zeroWidthFile.length = 68 ∧ (parseCounted zeroWidthFile).2.records.length = 256 ∧
      ¬ BoundedWork zeroWidthFile (parseCounted zeroWidthFile).2 := by
  have length : zeroWidthFile.length = 68 := by decide
  have examined : (parseCounted zeroWidthFile).2.records.length = 256 := by decide +kernel
  refine ⟨length, examined, ?_⟩
  rintro ⟨_, bounded, _⟩
  omega

end ImageResizer.AvifMeta
