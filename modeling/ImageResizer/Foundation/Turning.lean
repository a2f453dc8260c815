import Mathlib.Logic.Function.Iterate
import Mathlib.Tactic.Common

/-!
# Grids of pixels, turned and mirrored

A grid holds pixels, its rows counted from the top.  Quarter turns and
mirrors move the pixels of one grid to another, and satisfy the relations of the
symmetries of a square: four quarter turns are none, a mirror undoes itself, and a quarter
turn before a mirror is three after it.
-/

namespace Turning

/-- A grid of pixels, with nothing outside it. -/
@[ext]
structure Grid (α : Type) where
  width : Nat
  height : Nat
  pixel : Nat → Nat → Option α
  outside : ∀ x y, ¬ (x < width ∧ y < height) → pixel x y = none

namespace Grid

variable {α : Type} (p : Grid α)

/-- A grid whose pixels are taken from other places of a grid. -/
def gather (width height : Nat) (origin : Nat → Nat → Nat × Nat) : Grid α where
  width
  height
  pixel x y :=
    if x < width ∧ y < height then p.pixel (origin x y).1 (origin x y).2 else none
  outside _ _ out := if_neg out

/-- A quarter turn anticlockwise. -/
def quarterTurn : Grid α := p.gather p.height p.width fun x y => (p.width - 1 - y, x)

/-- Mirrored left to right. -/
def mirrorLeftRight : Grid α := p.gather p.width p.height fun x y => (p.width - 1 - x, y)

/-- Mirrored top to bottom. -/
def mirrorTopBottom : Grid α := p.gather p.width p.height fun x y => (x, p.height - 1 - y)

/-- A quarter turn clockwise. -/
def quarterTurnBack : Grid α := p.gather p.height p.width fun x y => (y, p.height - 1 - x)

/-- A half turn. -/
def halfTurn : Grid α :=
  p.gather p.width p.height fun x y => (p.width - 1 - x, p.height - 1 - y)

/-- Taking pixels from pixels that were taken. -/
theorem gather_gather {width height width' height' : Nat} {origin origin' : Nat → Nat → Nat × Nat}
    (inside : ∀ x y, x < width' → y < height' →
      (origin' x y).1 < width ∧ (origin' x y).2 < height) :
    (p.gather width height origin).gather width' height' origin' =
      p.gather width' height' fun x y => origin (origin' x y).1 (origin' x y).2 := by
  ext x y
  · rfl
  · rfl
  · simp only [gather]
    by_cases within : x < width' ∧ y < height'
    · simp only [within, and_self, if_true, inside x y within.1 within.2]
    · simp only [within, if_false]

/-- Taking every pixel from its own place. -/
theorem gather_self {origin : Nat → Nat → Nat × Nat}
    (same : ∀ x y, x < p.width → y < p.height → origin x y = (x, y)) :
    p.gather p.width p.height origin = p := by
  ext x y
  · rfl
  · rfl
  · simp only [gather]
    by_cases within : x < p.width ∧ y < p.height
    · rw [if_pos within, same x y within.1 within.2]
    · rw [if_neg within, p.outside x y within]

theorem gather_congr {width height : Nat} {origin origin' : Nat → Nat → Nat × Nat}
    (same : ∀ x y, x < width → y < height → origin x y = origin' x y) :
    p.gather width height origin = p.gather width height origin' := by
  ext x y
  · rfl
  · rfl
  · simp only [gather]
    by_cases within : x < width ∧ y < height
    · rw [if_pos within, if_pos within, same x y within.1 within.2]
    · rw [if_neg within, if_neg within]

theorem quarterTurn_twice : p.quarterTurn.quarterTurn = p.halfTurn := by
  rw [quarterTurn, quarterTurn, gather_gather]
  · apply gather_congr
    intro x y _ _
    rfl
  · intro x y left right
    simp only [gather] at *
    omega

theorem halfTurn_twice : p.halfTurn.halfTurn = p := by
  rw [halfTurn, halfTurn, gather_gather]
  · apply gather_self
    intro x y left right
    simp only [gather, Prod.mk.injEq]
    constructor
    · omega
    · omega
  · intro x y left right
    simp only [gather] at *
    omega

theorem mirrorTopBottom_twice : p.mirrorTopBottom.mirrorTopBottom = p := by
  rw [mirrorTopBottom, mirrorTopBottom, gather_gather]
  · apply gather_self
    intro x y left right
    simp only [gather, Prod.mk.injEq, true_and]
    omega
  · intro x y left right
    simp only [gather] at *
    omega

theorem halfTurn_quarterTurn : p.halfTurn.quarterTurn = p.quarterTurnBack := by
  rw [quarterTurn, halfTurn, gather_gather]
  · apply gather_congr
    intro x y left right
    simp only [gather, Prod.mk.injEq, and_true] at *
    omega
  · intro x y left right
    simp only [gather] at *
    omega

/-- A quarter turn before a mirror is one the other way after it. -/
theorem mirrorTopBottom_quarterTurn :
    p.quarterTurn.mirrorTopBottom = p.mirrorTopBottom.quarterTurnBack := by
  rw [quarterTurn, mirrorTopBottom, mirrorTopBottom, quarterTurnBack, gather_gather,
    gather_gather]
  · apply gather_congr
    intro x y left right
    simp only [gather, Prod.mk.injEq] at *
    omega
  · intro x y left right
    simp only [gather] at *
    omega
  · intro x y left right
    simp only [gather] at *
    omega

theorem mirrorTopBottom_halfTurn : p.mirrorTopBottom.halfTurn = p.mirrorLeftRight := by
  rw [mirrorTopBottom, halfTurn, gather_gather]
  · apply gather_congr
    intro x y left right
    simp only [gather, Prod.mk.injEq, true_and] at *
    omega
  · intro x y left right
    simp only [gather] at *
    omega

/-! ## Counted turns -/

/-- A number of quarter turns anticlockwise. -/
def turned (turns : Nat) : Grid α := quarterTurn^[turns] p

@[simp]
theorem turned_zero : p.turned 0 = p := rfl

theorem turned_turned (first second : Nat) :
    (p.turned first).turned second = p.turned (second + first) :=
  (Function.iterate_add_apply ..).symm

theorem turned_one : p.turned 1 = p.quarterTurn := rfl

theorem turned_two : p.turned 2 = p.halfTurn := p.quarterTurn_twice

theorem turned_three : p.turned 3 = p.quarterTurnBack := by
  rw [← halfTurn_quarterTurn, ← turned_two, ← turned_one, turned_turned]

theorem turned_four : p.turned 4 = p := by
  rw [← turned_turned p 2 2, turned_two, turned_two, halfTurn_twice]

/-- Whole rounds do not count. -/
theorem turned_add_rounds (turns rounds : Nat) : p.turned (turns + 4 * rounds) = p.turned turns := by
  induction rounds with
  | zero => rfl
  | succ rounds ih =>
      rw [Nat.mul_succ, ← Nat.add_assoc, Nat.add_comm, ← turned_turned, turned_four, ih]

theorem turned_mod (turns : Nat) : p.turned (turns % 4) = p.turned turns := by
  rw [← turned_add_rounds p (turns % 4) (turns / 4), Nat.mod_add_div]

/-- Turns count up to whole rounds. -/
theorem turned_congr {turns turns' : Nat} (same : turns % 4 = turns' % 4) :
    p.turned turns = p.turned turns' := by
  rw [← turned_mod p turns, same, turned_mod]

/-- Turns before a mirror are turns the other way after it. -/
theorem mirrorTopBottom_turned (turns : Nat) :
    (p.turned turns).mirrorTopBottom = p.mirrorTopBottom.turned (3 * turns) := by
  induction turns with
  | zero => rfl
  | succ turns ih =>
      rw [Nat.add_comm, ← turned_turned, turned_one, mirrorTopBottom_quarterTurn, ih,
        ← turned_three, turned_turned]
      congr 1
      omega

end Grid

end Turning
