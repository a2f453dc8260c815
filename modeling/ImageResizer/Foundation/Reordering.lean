import ImageResizer.Foundation.Outcome
import Mathlib.Data.List.Perm.Basic

/-!
# Reordering the steps of a fold

Elements carry a key, and a reordering may move an element past those of other keys but
keeps the elements of one key in their order.  When steps of different keys commute as far
as they succeed, a fold that succeeds has the same result in every such order.
-/

namespace Reordering

variable {ε α κ σ : Type} [DecidableEq κ]

/-- A permutation that keeps the elements of one key in their order. -/
structure KeepsOrder (key : α → κ) (list permuted : List α) : Prop where
  rearranged : permuted.Perm list
  kept : ∀ k, permuted.filter (key · = k) = list.filter (key · = k)

/-- Two steps that succeed one after the other do so in the other order, with the same result. -/
def Commute (step : σ → α → Except ε σ) (first second : α) : Prop :=
  ∀ start middle result, step start first = .ok middle → step middle second = .ok result →
    ∃ other, step start second = .ok other ∧ step other first = .ok result

namespace KeepsOrder

variable {key : α → κ} {element : α} {list permuted : List α}

/-- Only the keys that occur have to be looked at. -/
theorem of_keys (rearranged : permuted.Perm list)
    (kept : ∀ k ∈ list.map key, permuted.filter (key · = k) = list.filter (key · = k)) :
    KeepsOrder key list permuted := by
  refine ⟨rearranged, fun k => ?_⟩
  by_cases occurs : k ∈ list.map key
  · exact kept k occurs
  · have absent : ∀ other ∈ list, ¬ decide (key other = k) = true := by
      intro other member same
      exact occurs (of_decide_eq_true same ▸ List.mem_map_of_mem member)
    rw [List.filter_eq_nil_iff.mpr absent]
    apply List.filter_eq_nil_iff.mpr
    intro other member
    exact absent other (rearranged.mem_iff.mp member)

/-- The first element is found behind elements of other keys only, and without it the rest
is a reordering again. -/
theorem split (reordered : KeepsOrder key (element :: list) permuted) :
    ∃ before after, permuted = before ++ element :: after ∧
      (∀ other ∈ before, key element ≠ key other) ∧ KeepsOrder key list (before ++ after) := by
  have found := reordered.kept (key element)
  rw [List.filter_cons_of_pos (by simp), List.filter_eq_cons_iff] at found
  obtain ⟨before, after, rfl, others, _, rest⟩ := found
  refine ⟨before, after, rfl, fun other member same => ?_, ?_, fun k => ?_⟩
  · exact others other member (by simp [same])
  · have moved := List.perm_middle.symm.trans reordered.rearranged
    exact moved.cons_inv
  · by_cases same : key element = k
    · subst same
      have none : before.filter (key · = key element) = [] :=
        List.filter_eq_nil_iff.mpr others
      rw [List.filter_append, none, List.nil_append]
      exact rest
    · have kept := reordered.kept k
      rw [List.filter_append, List.filter_cons_of_neg (by simp [same]),
        List.filter_cons_of_neg (by simp [same])] at kept
      rw [List.filter_append]
      exact kept

end KeepsOrder

/-- A step that commutes with each step of a fold may be taken after it. -/
theorem foldlM_postponed {step : σ → α → Except ε σ} {element : α} {list : List α}
    {start middle result : σ} (each : ∀ other ∈ list, Commute step element other)
    (stepped : step start element = .ok middle) (folded : list.foldlM step middle = .ok result) :
    ∃ last, list.foldlM step start = .ok last ∧ step last element = .ok result := by
  induction list generalizing start middle with
  | nil =>
      obtain rfl := Except.ok.inj folded
      exact ⟨start, rfl, stepped⟩
  | cons other list ih =>
      rw [List.foldlM_cons] at folded
      obtain ⟨next, secondStep, rest⟩ := (Outcome.bind_ok_iff _ _ _).mp folded
      obtain ⟨passed, otherStep, swapped⟩ :=
        each other List.mem_cons_self start middle next stepped secondStep
      obtain ⟨last, reached, finished⟩ :=
        ih (fun later member => each later (List.mem_cons_of_mem _ member)) swapped rest
      refine ⟨last, ?_, finished⟩
      rw [List.foldlM_cons, otherStep]
      exact reached

/-- A fold that succeeds does so in every order that keeps equal keys in theirs. -/
theorem foldlM_keepsOrder {key : α → κ} {step : σ → α → Except ε σ}
    (each : ∀ first second, key first ≠ key second → Commute step first second)
    {list permuted : List α} {start result : σ} (reordered : KeepsOrder key list permuted)
    (folded : list.foldlM step start = .ok result) :
    permuted.foldlM step start = .ok result := by
  induction list generalizing permuted start with
  | nil =>
      obtain rfl := reordered.rearranged.eq_nil
      exact folded
  | cons element list ih =>
      rw [List.foldlM_cons] at folded
      obtain ⟨middle, stepped, rest⟩ := (Outcome.bind_ok_iff _ _ _).mp folded
      obtain ⟨before, after, rfl, others, without⟩ := reordered.split
      have later := ih without rest
      rw [List.foldlM_append] at later
      obtain ⟨between, reached, finished⟩ := (Outcome.bind_ok_iff _ _ _).mp later
      -- The element that came first is taken only after those that now stand before it.
      obtain ⟨last, passed, taken⟩ :=
        foldlM_postponed (fun other member => each element other (others other member))
          stepped reached
      rw [List.foldlM_append, passed]
      change (element :: after).foldlM step last = .ok result
      rw [List.foldlM_cons, taken]
      exact finished

end Reordering
