import ImageResizer.AvifMeta
import ImageResizer.Foundation.ReaderWriter

/-!
# How a container is laid out

The boxes of ISOBMFF as they are written: a size in one of its three forms, a type and a
content.  A walk whose budget suffices visits the boxes that were written, in order.
-/

namespace ImageResizer.AvifMeta

open Reader

/-- Boxes written one after another.  A size is of 32 bits or, behind a one, of 64; the
last box may announce none and reach to the end. -/
inductive Written : List Box → Bytes → Prop where
  | none : Written [] []
  | short {box : Box} {rest : List Box} {data : Bytes} :
      box.boxType.length = 4 → 8 + box.content.length < 2 ^ 32 → Written rest data →
      Written (box :: rest)
        (uintBytes 4 (8 + box.content.length) ++ (box.boxType ++ (box.content ++ data)))
  | large {box : Box} {rest : List Box} {data : Bytes} :
      box.boxType.length = 4 → 16 + box.content.length < 2 ^ 64 → Written rest data →
      Written (box :: rest)
        (uintBytes 4 1 ++ (box.boxType ++
          (uintBytes 8 (16 + box.content.length) ++ (box.content ++ data))))
  | toEnd {box : Box} :
      box.boxType.length = 4 →
      Written [box] (uintBytes 4 0 ++ (box.boxType ++ box.content))

/-- Boxes in the short form. -/
def placed (boxes : List Box) : Bytes :=
  boxes.flatMap fun box => uintBytes 4 (8 + box.content.length) ++ (box.boxType ++ box.content)

theorem written_placed {boxes : List Box}
    (fits : ∀ box ∈ boxes, box.boxType.length = 4 ∧ 8 + box.content.length < 2 ^ 32) :
    Written boxes (placed boxes) := by
  induction boxes with
  | nil => exact Written.none
  | cons box rest ih =>
      obtain ⟨typed, small⟩ := fits box (List.mem_cons_self ..)
      have later := ih fun other member => fits other (List.mem_cons_of_mem _ member)
      rw [placed, List.flatMap_cons, List.append_assoc, List.append_assoc]
      exact Written.short typed small later

/-- The header of a box in front of its content and what follows. -/
structure Announces (data : Bytes) (box : Box) (rest : Bytes) : Prop where
  header : ∃ headerLen totalSize, readBoxHeader data = some (box.boxType, headerLen, totalSize) ∧
    (data.take totalSize).drop headerLen = box.content ∧ data.drop totalSize = rest
  nonempty : data.isEmpty = false

/-- What a walk comes past: box after box, up to the end of the data or to a header that
is not accepted. -/
inductive Visits : Bytes → List Box → Prop where
  | ended : Visits [] []
  | refused {data : Bytes} : readBoxHeader data = none → Visits data []
  | box {data boxType : Bytes} {headerLen totalSize : Nat} {boxes : List Box} :
      data ≠ [] → readBoxHeader data = some (boxType, headerLen, totalSize) →
      Visits (data.drop totalSize) boxes →
      Visits data (⟨boxType, (data.take totalSize).drop headerLen⟩ :: boxes)

namespace Visits

variable {data rest : Bytes} {box : Box} {boxes : List Box}

/-- A walk visits these boxes in order while its budget lasts. -/
theorem walk_eq (visits : Visits data boxes) (budget : Nat) :
    walk budget data = ⟨boxes.take budget, budget - boxes.length⟩ := by
  induction visits generalizing budget with
  | ended =>
      cases budget with
      | zero => rfl
      | succ budget => rfl
  | refused read =>
      cases budget with
      | zero => rfl
      | succ budget => simp [walk, read]
  | box nonempty read visits ih =>
      cases budget with
      | zero => simp [walk]
      | succ budget => simp [walk, nonempty, read, ih]

theorem announced (announces : Announces data box rest) (visits : Visits rest boxes) :
    Visits data (box :: boxes) := by
  obtain ⟨⟨headerLen, totalSize, header, content, rfl⟩, nonempty⟩ := announces
  have visited := Visits.box (by simpa using nonempty) header visits
  rw [content] at visited
  exact visited

end Visits

/-- Cutting a header, a content and a rest apart again. -/
theorem announces_of_header {front content rest boxType : Bytes} {box : Box}
    (isType : box.boxType = boxType) (isContent : box.content = content)
    (header : readBoxHeader (front ++ (content ++ rest)) =
      some (boxType, front.length, front.length + content.length))
    (nonempty : front ≠ []) : Announces (front ++ (content ++ rest)) box rest := by
  subst isType isContent
  refine ⟨⟨_, _, header, ?_, ?_⟩, by cases front <;> simp_all⟩
  · rw [← List.append_assoc, ← List.length_append, List.take_left, List.drop_left]
  · rw [← List.append_assoc, ← List.length_append, List.drop_left]

section Header

variable {box : Box}

/-- The fields of a header, from the size field and what it stands for. -/
theorem boxHeader_reads (typed : box.boxType.length = 4) {remaining size32 : Nat} {large : Bytes}
    {sizes : Nat × Nat}
    (fits : size32 < 256 ^ 4) (declared : Reads (declaredSizes remaining size32) large sizes) :
    Reads (boxHeader remaining) (uintBytes 4 size32 ++ (box.boxType ++ large))
      (box.boxType, sizes) := by
  rw [boxHeader]
  apply (Reads.uint fits).bind
  apply (Reads.bytes_of_length typed).bind
  exact declared.done (Reads.pure _)

/-- A header that was read, of a box that lies inside its container. -/
theorem readBoxHeader_of_reads {data front rest : Bytes} {headerLen totalSize : Nat}
    (split : data = front ++ rest)
    (reads : Reads (boxHeader data.length) front (box.boxType, headerLen, totalSize))
    (holds : headerLen ≤ totalSize) (inside : totalSize ≤ data.length) :
    readBoxHeader data = some (box.boxType, headerLen, totalSize) := by
  rw [readBoxHeader]
  have ran : (boxHeader data.length).run data =
      some ((box.boxType, headerLen, totalSize), rest) := by
    rw [split] at reads ⊢
    exact reads rest
  rw [ran]
  simp only [Bool.or_eq_true, decide_eq_true_eq]
  exact if_neg (by omega)

theorem declaredSizes_short (remaining : Nat) {size : Nat} (header : 8 ≤ size) :
    Reads (declaredSizes remaining size) [] (8, size) := by
  rw [declaredSizes, if_neg (by omega), if_neg (by omega)]
  exact Reads.pure _

theorem declaredSizes_large (remaining : Nat) {size : Nat} (fits : size < 2 ^ 64) :
    Reads (declaredSizes remaining 1) (uintBytes 8 size) (16, size) := by
  rw [declaredSizes, if_pos rfl]
  exact (Reads.uint (by simpa using fits)).map fun large => (16, large)

theorem declaredSizes_toEnd (remaining : Nat) :
    Reads (declaredSizes remaining 0) [] (8, remaining) := by
  rw [declaredSizes, if_neg (by omega), if_pos rfl]
  exact Reads.pure _

end Header

/-- A header written in front of a content announces its box. -/
theorem announces_of_front {box : Box} {front rest : Bytes} (nonempty : front ≠ [])
    (reads : Reads (boxHeader (front ++ (box.content ++ rest)).length) front
      (box.boxType, front.length, front.length + box.content.length)) :
    Announces (front ++ (box.content ++ rest)) box rest := by
  apply announces_of_header rfl rfl _ nonempty
  apply readBoxHeader_of_reads rfl reads (Nat.le_add_right ..)
  simp only [List.length_append]
  omega

theorem announces_short {box : Box} (typed : box.boxType.length = 4)
    (fits : 8 + box.content.length < 2 ^ 32) (rest : Bytes) :
    Announces (uintBytes 4 (8 + box.content.length) ++ (box.boxType ++ (box.content ++ rest)))
      box rest := by
  have length : (uintBytes 4 (8 + box.content.length) ++ box.boxType).length = 8 := by
    rw [List.length_append, length_uintBytes, typed]
  rw [← List.append_assoc]
  apply announces_of_front
  · exact List.ne_nil_of_length_eq_add_one length
  · rw [length]
    have reads := boxHeader_reads typed (by simpa using fits)
      (declaredSizes_short (uintBytes 4 (8 + box.content.length) ++ box.boxType ++
        (box.content ++ rest)).length (Nat.le_add_right 8 box.content.length))
    rw [List.append_nil] at reads
    exact reads

theorem announces_large {box : Box} (typed : box.boxType.length = 4)
    (fits : 16 + box.content.length < 2 ^ 64) (rest : Bytes) :
    Announces (uintBytes 4 1 ++ (box.boxType ++
      (uintBytes 8 (16 + box.content.length) ++ (box.content ++ rest)))) box rest := by
  have length : (uintBytes 4 1 ++ (box.boxType ++
      uintBytes 8 (16 + box.content.length))).length = 16 := by
    rw [List.length_append, List.length_append, length_uintBytes, length_uintBytes, typed]
  have regrouped : uintBytes 4 1 ++ (box.boxType ++
      (uintBytes 8 (16 + box.content.length) ++ (box.content ++ rest))) =
        (uintBytes 4 1 ++ (box.boxType ++ uintBytes 8 (16 + box.content.length))) ++
          (box.content ++ rest) := by
    simp only [List.append_assoc]
  rw [regrouped]
  apply announces_of_front
  · exact List.ne_nil_of_length_eq_add_one length
  · rw [length]
    exact boxHeader_reads typed (by decide) (declaredSizes_large _ fits)

theorem announces_toEnd {box : Box} (typed : box.boxType.length = 4) :
    Announces (uintBytes 4 0 ++ (box.boxType ++ box.content)) box [] := by
  have length : (uintBytes 4 0 ++ box.boxType).length = 8 := by
    rw [List.length_append, length_uintBytes, typed]
  have regrouped : uintBytes 4 0 ++ (box.boxType ++ box.content) =
      (uintBytes 4 0 ++ box.boxType) ++ (box.content ++ []) := by
    simp only [List.append_assoc, List.append_nil]
  rw [regrouped]
  apply announces_of_front
  · exact List.ne_nil_of_length_eq_add_one length
  · have total : ((uintBytes 4 0 ++ box.boxType) ++ (box.content ++ [])).length =
        8 + box.content.length := by
      rw [List.length_append, length, List.append_nil]
    have reads := boxHeader_reads typed (by decide) (declaredSizes_toEnd (8 + box.content.length))
    rw [List.append_nil] at reads
    rw [length, total]
    exact reads

/-- On boxes that were written a walk comes past them all. -/
theorem visits_written {boxes : List Box} {data : Bytes} (written : Written boxes data) :
    Visits data boxes := by
  induction written with
  | none => exact Visits.ended
  | short typed fits written ih => exact ih.announced (announces_short typed fits _)
  | large typed fits written ih => exact ih.announced (announces_large typed fits _)
  | toEnd typed => exact Visits.ended.announced (announces_toEnd typed)

/-- A walk that can afford them visits the boxes that were written. -/
theorem walk_written {boxes : List Box} {data : Bytes} (written : Written boxes data)
    {budget : Nat} (enough : boxes.length ≤ budget) :
    walk budget data = ⟨boxes, budget - boxes.length⟩ := by
  rw [(visits_written written).walk_eq, List.take_of_length_le enough]

/-- A walk that is not too deep. -/
theorem walkBoxes_written {boxes : List Box} {data : Bytes} {depth budget : Nat}
    (shallow : depth ≤ maxNestingDepth) (written : Written boxes data)
    (enough : boxes.length ≤ budget) :
    walkBoxes data depth budget = ⟨boxes, budget - boxes.length⟩ := by
  rw [walkBoxes, if_neg (Nat.not_lt.mpr shallow)]
  exact walk_written written enough

/-- The content of the first box of a type. -/
def contentOf (boxes : List Box) (target : Bytes) : Option Bytes :=
  (boxes.find? fun box => box.boxType == target).map Box.content

theorem first_eq (boxes : List Box) (budget : Nat) (target : Bytes) :
    Walk.first ⟨boxes, budget⟩ target = contentOf boxes target := rfl

/-- A field of 16 bits in one version of a box and of 32 in another, as written. -/
def shortOrLongWidth (short : Bool) : Nat := if short then 2 else 4

theorem shortOrLong_reads {short : Bool} {value : Nat}
    (fits : value < 256 ^ shortOrLongWidth short) :
    Reads (shortOrLong short) (uintBytes (shortOrLongWidth short) value) value := by
  cases short with
  | false => exact Reads.uint fits
  | true => exact Reads.uint fits

/-! ## The metadata box -/

/-- The file `data` with the children of its first `meta` box. -/
structure MetaLayout (data : Bytes) where
  file : List Box
  fileWritten : Written file data
  versionAndFlags : Bytes
  versioned : versionAndFlags.length = 4
  body : Bytes
  hasMeta : contentOf file (fourCC 'm' 'e' 't' 'a') = some (versionAndFlags ++ body)
  children : List Box
  childrenWritten : Written children body
  reachable : file.length + children.length ≤ maxBoxesVisited

namespace MetaLayout

variable {data : Bytes} (layout : MetaLayout data)

/-- The budget that is left once the children are visited. -/
def budget : Nat := maxBoxesVisited - layout.file.length - layout.children.length

theorem metaBody_eq :
    metaBody data = (some layout.body, ⟨layout.file, maxBoxesVisited - layout.file.length⟩) := by
  have reachable := layout.reachable
  have top : walkBoxes data 0 maxBoxesVisited =
      ⟨layout.file, maxBoxesVisited - layout.file.length⟩ :=
    walkBoxes_written (by decide) layout.fileWritten (by omega)
  rw [metaBody, top]
  simp only [first_eq, layout.hasMeta, Option.bind_some]
  rw [Reads.bytes_of_length layout.versioned layout.body]
  rfl

theorem walk_children :
    walkBoxes layout.body 1 (maxBoxesVisited - layout.file.length) =
      ⟨layout.children, layout.budget⟩ := by
  have reachable := layout.reachable
  exact walkBoxes_written (by decide) layout.childrenWritten (by omega)

end MetaLayout

end ImageResizer.AvifMeta
