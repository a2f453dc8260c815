import ImageResizer.Foundation.Outcome
import Mathlib.Data.List.Forall2

/-!
# Two runs

Two fallible computations are compared by what they end with when both end with a value.
The rules follow the structure of the computations: a bind relates its results when its
parts are related, whatever either side does when it fails.
-/

/-- A traversal without an error has the value of each element. -/
theorem Outcome.mapM_ok_iff {α β ε : Type} (f : α → Except ε β) (list : List α)
    (values : List β) :
    list.mapM f = .ok values ↔
      List.Forall₂ (fun element value => f element = .ok value) list values := by
  induction list generalizing values with
  | nil =>
      cases values with
      | nil => exact iff_of_true rfl .nil
      | cons value rest => exact iff_of_false nofun nofun
  | cons element list ih =>
      rw [List.mapM_cons, Outcome.bind_ok_iff]
      constructor
      · rintro ⟨value, first, rest⟩
        obtain ⟨others, made, both⟩ := (Outcome.bind_ok_iff ..).mp rest
        cases both
        exact .cons first ((ih others).mp made)
      · intro pairs
        cases pairs with
        | cons first others =>
            refine ⟨_, first, ?_⟩
            rw [(ih _).mpr others]
            rfl

/-- If both computations end with a value, the values are related. -/
def BothOk {ε δ α β : Type} (related : α → β → Prop) (first : Except ε α) (second : Except δ β) :
    Prop :=
  ∀ a b, first = .ok a → second = .ok b → related a b

namespace BothOk

variable {ε δ α β γ η : Type} {related : α → β → Prop} {next : γ → η → Prop}
variable {first : Except ε α} {second : Except δ β}

theorem mono {weaker : α → β → Prop} (both : BothOk related first second)
    (weaken : ∀ a b, related a b → weaker a b) : BothOk weaker first second :=
  fun a b firstOk secondOk => weaken a b (both a b firstOk secondOk)

/-- A computation agrees with itself. -/
theorem refl (first : Except ε α) : BothOk Eq first first := by
  intro a b firstOk secondOk
  exact Except.ok.inj (firstOk.symm.trans secondOk)

theorem of_eq {first second : Except ε α} (same : first = second) : BothOk Eq first second :=
  same ▸ refl first

@[simp]
theorem ok_ok (a : α) (b : β) :
    BothOk related (.ok a : Except ε α) (.ok b : Except δ β) ↔ related a b := by
  simp [BothOk]

@[simp]
theorem error_left (error : ε) (second : Except δ β) :
    BothOk related (.error error) second := by
  intro a b firstOk
  cases firstOk

@[simp]
theorem error_right (first : Except ε α) (error : δ) :
    BothOk related first (.error error) := by
  intro a b _ secondOk
  cases secondOk

theorem pure_pure {a : α} {b : β} (holds : related a b) :
    BothOk related (pure a : Except ε α) (pure b : Except δ β) := (ok_ok a b).mpr holds

/-- Nothing is claimed of the results. -/
theorem any (first : Except ε α) (second : Except δ β) : BothOk (fun _ _ => True) first second :=
  fun _ _ _ _ => trivial

/-- Results that carry no information agree. -/
theorem unit (first : Except ε Unit) (second : Except δ Unit) : BothOk Eq first second :=
  fun _ _ _ _ => rfl

theorem bind {f : α → Except ε γ} {g : β → Except δ η} (both : BothOk related first second)
    (rest : ∀ a b, first = .ok a → second = .ok b → related a b → BothOk next (f a) (g b)) :
    BothOk next (first >>= f) (second >>= g) := by
  cases first with
  | error error => exact error_left error _
  | ok a =>
      cases second with
      | error error => exact error_right _ error
      | ok b => exact rest a b rfl rfl (both a b rfl rfl)

/-- After parts that agree, the same rest agrees. -/
theorem bind_eq {first second : Except ε α} {f g : α → Except ε γ}
    (both : BothOk Eq first second) (rest : ∀ a, BothOk Eq (f a) (g a)) :
    BothOk Eq (first >>= f) (second >>= g) :=
  both.bind fun a _ _ _ same => same ▸ rest a

theorem map {f : α → γ} {g : β → η} (both : BothOk related first second)
    (rest : ∀ a b, related a b → next (f a) (g b)) :
    BothOk next (f <$> first) (g <$> second) := by
  cases first with
  | error error => exact error_left error _
  | ok a =>
      cases second with
      | error error => exact error_right _ error
      | ok b => exact (ok_ok ..).mpr (rest a b (both a b rfl rfl))

theorem lift (both : BothOk related first second) :
    BothOk related (Outcome.lift first) (Outcome.lift second) :=
  fun a b firstOk secondOk =>
    both a b ((Outcome.lift_ok_iff ..).mp firstOk) ((Outcome.lift_ok_iff ..).mp secondOk)

end BothOk
