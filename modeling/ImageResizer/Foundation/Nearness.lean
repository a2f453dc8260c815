import Mathlib

/-!
# Sets of points that are near

Two sets of points in the plane are near up to a tolerance on each axis when every point of
either has one of the other within it.  Rectangles are near exactly when their corners are.
-/

variable {α : Type} [AddCommGroup α] [LinearOrder α]

/-- Two points differ by no more than the tolerance on either axis. -/
def AxesWithin (tolerance first second : α × α) : Prop :=
  |first.1 - second.1| ≤ tolerance.1 ∧ |first.2 - second.2| ≤ tolerance.2

/-- Every point of either set is within the tolerance of one of the other. -/
def NearSets (tolerance : α × α) (first second : Set (α × α)) : Prop :=
  (∀ point ∈ first, ∃ other ∈ second, AxesWithin tolerance point other) ∧
    ∀ other ∈ second, ∃ point ∈ first, AxesWithin tolerance point other

section Rectangles

variable {tolerance first last first' last' : α × α}

theorem AxesWithin.symm {point other : α × α} (near : AxesWithin tolerance point other) :
    AxesWithin tolerance other point := by
  rw [AxesWithin, abs_sub_comm, abs_sub_comm other.2]
  exact near

theorem NearSets.symm {set other : Set (α × α)} (near : NearSets tolerance set other) :
    NearSets tolerance other set := by
  constructor
  · intro point member
    obtain ⟨partner, inside, close⟩ := near.2 point member
    exact ⟨partner, inside, close.symm⟩
  · intro point member
    obtain ⟨partner, inside, close⟩ := near.1 point member
    exact ⟨partner, inside, close.symm⟩

variable [IsOrderedAddMonoid α]

theorem AxesWithin.refl (nonneg : 0 ≤ tolerance) (point : α × α) :
    AxesWithin tolerance point point := by
  rw [AxesWithin, sub_self, sub_self, abs_zero]
  exact nonneg

/-- A point of a segment has one near it in a segment with near ends. -/
theorem exists_near_of_mem {bound low high low' high' : α} (ordered' : low' ≤ high')
    (lows : |low - low'| ≤ bound) (highs : |high - high'| ≤ bound) {value : α}
    (above : low ≤ value) (below : value ≤ high) :
    ∃ other, (low' ≤ other ∧ other ≤ high') ∧ |value - other| ≤ bound := by
  obtain ⟨lowLeft, lowRight⟩ := abs_sub_le_iff.mp lows
  obtain ⟨highLeft, highRight⟩ := abs_sub_le_iff.mp highs
  rcases le_total value low' with small | large
  · refine ⟨low', ⟨le_rfl, ordered'⟩, ?_⟩
    rw [abs_sub_comm, abs_of_nonneg (sub_nonneg.mpr small)]
    exact (sub_le_sub_left above low').trans lowRight
  rcases le_total value high' with inside | beyond
  · refine ⟨value, ⟨large, inside⟩, ?_⟩
    rw [sub_self, abs_zero]
    exact (abs_nonneg _).trans lows
  · refine ⟨high', ⟨ordered', le_rfl⟩, ?_⟩
    rw [abs_of_nonneg (sub_nonneg.mpr beyond)]
    exact (sub_le_sub_right below high').trans highLeft

theorem exists_near_of_mem_Icc (ordered' : first' ≤ last')
    (firsts : AxesWithin tolerance first first') (lasts : AxesWithin tolerance last last')
    {point : α × α} (member : point ∈ Set.Icc first last) :
    ∃ other ∈ Set.Icc first' last', AxesWithin tolerance point other := by
  obtain ⟨across, ⟨left, right⟩, nearAcross⟩ :=
    exists_near_of_mem ordered'.1 firsts.1 lasts.1 member.1.1 member.2.1
  obtain ⟨down, ⟨top, bottom⟩, nearDown⟩ :=
    exists_near_of_mem ordered'.2 firsts.2 lasts.2 member.1.2 member.2.2
  exact ⟨(across, down), ⟨⟨left, top⟩, ⟨right, bottom⟩⟩, nearAcross, nearDown⟩

/-- The corner of a rectangle that is near another is not far beyond its corner. -/
theorem corners_of_near (ordered : first ≤ last)
    (near : ∀ point ∈ Set.Icc first last, ∃ other ∈ Set.Icc first' last',
      AxesWithin tolerance point other) :
    (first'.1 - first.1 ≤ tolerance.1 ∧ first'.2 - first.2 ≤ tolerance.2) ∧
      last.1 - last'.1 ≤ tolerance.1 ∧ last.2 - last'.2 ≤ tolerance.2 := by
  obtain ⟨low, ⟨lowInside, -⟩, lowAcross, lowDown⟩ := near first ⟨le_rfl, ordered⟩
  obtain ⟨high, ⟨-, highInside⟩, highAcross, highDown⟩ := near last ⟨ordered, le_rfl⟩
  refine ⟨⟨?_, ?_⟩, ?_, ?_⟩
  · exact (sub_le_sub_right lowInside.1 _).trans (abs_sub_le_iff.mp lowAcross).2
  · exact (sub_le_sub_right lowInside.2 _).trans (abs_sub_le_iff.mp lowDown).2
  · exact (sub_le_sub_left highInside.1 _).trans (abs_sub_le_iff.mp highAcross).1
  · exact (sub_le_sub_left highInside.2 _).trans (abs_sub_le_iff.mp highDown).1

/-- Rectangles are near exactly when their corners are. -/
theorem nearSets_Icc_iff (ordered : first ≤ last) (ordered' : first' ≤ last') :
    NearSets tolerance (Set.Icc first last) (Set.Icc first' last') ↔
      AxesWithin tolerance first first' ∧ AxesWithin tolerance last last' := by
  constructor
  · intro near
    obtain ⟨⟨left, top⟩, right, bottom⟩ := corners_of_near ordered near.1
    obtain ⟨⟨left', top'⟩, right', bottom'⟩ := corners_of_near ordered' near.symm.1
    exact ⟨⟨abs_sub_le_iff.mpr ⟨left', left⟩, abs_sub_le_iff.mpr ⟨top', top⟩⟩,
      abs_sub_le_iff.mpr ⟨right, right'⟩, abs_sub_le_iff.mpr ⟨bottom, bottom'⟩⟩
  · rintro ⟨firsts, lasts⟩
    constructor
    · intro point member
      exact exists_near_of_mem_Icc ordered' firsts lasts member
    · intro point member
      obtain ⟨other, inside, near⟩ :=
        exists_near_of_mem_Icc ordered firsts.symm lasts.symm member
      exact ⟨other, inside, near.symm⟩

end Rectangles
