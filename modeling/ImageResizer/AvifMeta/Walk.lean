import ImageResizer.AvifMeta.Layout
import ImageResizer.AvifMeta.Work

/-!
# Box walks are exact

Every byte string has the boxes a walk comes past on it, whatever its budget: each header
that is accepted lies inside its box and each box inside the data, so the walk advances by
at least a header and comes to an end.  On boxes that were written these are the boxes, and
a budget only cuts their list short.
-/

namespace ImageResizer.AvifMeta

open Reader

/-- A header takes eight bytes, or sixteen with its large size. -/
theorem declaredSizes_headerLen {remaining size32 headerLen totalSize : Nat} {input rest : Bytes}
    (read : (declaredSizes remaining size32).run input = some ((headerLen, totalSize), rest)) :
    headerLen = 8 ∨ headerLen = 16 := by
  unfold declaredSizes at read
  split at read
  case isTrue =>
      rw [StateT.run_map] at read
      obtain ⟨_, -, same⟩ := Option.map_eq_some_iff.mp read
      cases same
      exact Or.inr rfl
  case isFalse =>
      split at read
      all_goals
        cases read
        exact Or.inl rfl

/-- A walk advances by at least eight bytes. -/
theorem readBoxHeader_advances {data boxType : Bytes} {headerLen totalSize : Nat}
    (read : readBoxHeader data = some (boxType, headerLen, totalSize)) : 8 ≤ headerLen := by
  unfold readBoxHeader at read
  split at read
  case h_1 => cases read
  case h_2 boxType headerLen totalSize _ ran =>
      split at read
      case isTrue => cases read
      case isFalse =>
          cases read
          simp only [boxHeader, StateT.run_bind, Option.bind_eq_bind,
            Option.bind_eq_some_iff] at ran
          obtain ⟨_, -, _, -, ⟨_, sizes⟩, declared, made⟩ := ran
          cases made
          have header := declaredSizes_headerLen declared
          omega

namespace Visits

variable {data : Bytes} {boxes : List Box}

/-- The walk stops on every byte string. -/
theorem exists_visits (data : Bytes) : ∃ boxes, Visits data boxes := by
  induction lengthIs : data.length using Nat.strongRecOn generalizing data with
  | ind length ih =>
      by_cases empty : data = []
      case pos => exact ⟨[], empty ▸ ended⟩
      case neg =>
          cases read : readBoxHeader data with
          | none => exact ⟨[], refused read⟩
          | some header =>
              obtain ⟨boxType, headerLen, totalSize⟩ := header
              have bounds := readBoxHeader_bounds read
              have advances := readBoxHeader_advances read
              have shorter : (data.drop totalSize).length < length := by
                rw [List.length_drop]
                omega
              obtain ⟨boxes, visits⟩ := ih _ shorter (data.drop totalSize) rfl
              exact ⟨_, box empty read visits⟩

/-- Every box has a header of its own. -/
theorem length_le (visits : Visits data boxes) : 8 * boxes.length ≤ data.length := by
  induction visits with
  | ended => simp
  | refused => simp
  | box nonempty read visits ih =>
      have bounds := readBoxHeader_bounds read
      have advances := readBoxHeader_advances read
      rw [List.length_drop] at ih
      rw [List.length_cons]
      omega

/-- The walk has one course. -/
theorem unique {others : List Box} (visits : Visits data boxes) (visits' : Visits data others) :
    boxes = others := by
  have same := (visits.walk_eq (boxes.length + others.length)).symm.trans (visits'.walk_eq _)
  have taken := congrArg Walk.boxes same
  simp only at taken
  rwa [List.take_of_length_le (Nat.le_add_right ..), List.take_of_length_le (Nat.le_add_left ..)]
    at taken

end Visits

/-- **Box walks are exact.**  On every byte string a walk has one list of boxes, those that
were written where any were, and visits its first ones in order, as many as the budget
allows; an accepted header lies inside its box and the box inside the data. -/
theorem walkBoxes_exact (data : Bytes) :
    ∃ boxes, Visits data boxes ∧ 8 * boxes.length ≤ data.length ∧
      (∀ written, Written written data → boxes = written) ∧
      (∀ depth budget, walkBoxes data depth budget =
        if maxNestingDepth < depth then ⟨[], budget⟩
        else ⟨boxes.take budget, budget - boxes.length⟩) ∧
      ∀ boxType headerLen totalSize,
        readBoxHeader data = some (boxType, headerLen, totalSize) →
          8 ≤ headerLen ∧ headerLen ≤ totalSize ∧ totalSize ≤ data.length := by
  obtain ⟨boxes, visits⟩ := Visits.exists_visits data
  refine ⟨boxes, visits, visits.length_le, ?written, ?walks, ?headers⟩
  case written =>
      intro written isWritten
      exact visits.unique (visits_written isWritten)
  case walks =>
      intro depth budget
      rw [walkBoxes, visits.walk_eq]
  case headers =>
      intro boxType headerLen totalSize read
      exact ⟨readBoxHeader_advances read, readBoxHeader_bounds read⟩

end ImageResizer.AvifMeta
