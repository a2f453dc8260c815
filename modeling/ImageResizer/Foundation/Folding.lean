import ImageResizer.Foundation.Outcome
import Mathlib.Data.List.Basic

/-!
# Folds whose steps may fail

A fold over a list with an accumulator, stopped by the first step that fails.  What every
step keeps, the fold keeps; and a fold whose steps only ever add to the end of the
accumulator succeeds exactly when every element may be added.
-/

namespace Folding

variable {ε α σ : Type}

/-- What every successful step keeps holds of the result. -/
theorem keeps {step : σ → α → Except ε σ} {holds : σ → Prop}
    (each : ∀ state element next, holds state → step state element = .ok next → holds next)
    {list : List α} {start result : σ} (held : holds start)
    (folded : list.foldlM step start = .ok result) : holds result := by
  induction list generalizing start with
  | nil =>
      obtain rfl := Except.ok.inj folded
      exact held
  | cons element list ih =>
      rw [List.foldlM_cons] at folded
      obtain ⟨next, stepped, rest⟩ := (Outcome.bind_ok_iff _ _ _).mp folded
      exact ih (each start element next held stepped) rest

/-- Every element of a fold that succeeds was accepted in some state. -/
theorem accepted {step : σ → α → Except ε σ} {list : List α} {start result : σ}
    (folded : list.foldlM step start = .ok result) :
    ∀ element ∈ list, ∃ state next, step state element = .ok next := by
  induction list generalizing start with
  | nil => exact fun _ member => absurd member List.not_mem_nil
  | cons first list ih =>
      rw [List.foldlM_cons] at folded
      obtain ⟨next, stepped, rest⟩ := (Outcome.bind_ok_iff _ _ _).mp folded
      intro element member
      rcases List.mem_cons.mp member with rfl | later
      · exact ⟨start, next, stepped⟩
      · exact ih rest element later

/-- A fold over the first numbers goes through the states its steps lead to. -/
theorem follows {step : σ → Nat → Except ε σ} {state : Nat → σ} {count : Nat}
    (each : ∀ i < count, step (state i) i = .ok (state (i + 1))) :
    (List.range count).foldlM step (state 0) = .ok (state count) := by
  induction count with
  | zero => rfl
  | succ count ih =>
      have before := ih fun i below => each i (Nat.lt_succ_of_lt below)
      rw [List.range_succ, List.foldlM_append, before]
      change step (state count) count >>= pure = _
      rw [bind_pure]
      exact each count (Nat.lt_succ_self count)

/-- Steps that append. -/
theorem append_iff {step : List σ → α → Except ε (List σ)} {accepted : α → Prop}
    {added : α → List σ}
    (each : ∀ state element next,
      step state element = .ok next ↔ accepted element ∧ next = state ++ added element)
    (list : List α) (start result : List σ) :
    list.foldlM step start = .ok result ↔
      (∀ element ∈ list, accepted element) ∧ result = start ++ list.flatMap added := by
  induction list generalizing start with
  | nil =>
      have same : start = result ↔ result = start := eq_comm
      simpa [pure, Except.pure] using same
  | cons element list ih =>
      rw [List.foldlM_cons, Outcome.bind_ok_iff]
      simp only [each, ih, List.mem_cons, forall_eq_or_imp, List.flatMap_cons]
      constructor
      · rintro ⟨_, ⟨first, rfl⟩, rest, rfl⟩
        exact ⟨⟨first, rest⟩, List.append_assoc ..⟩
      · rintro ⟨⟨first, rest⟩, rfl⟩
        exact ⟨_, ⟨first, rfl⟩, rest, (List.append_assoc ..).symm⟩

end Folding
