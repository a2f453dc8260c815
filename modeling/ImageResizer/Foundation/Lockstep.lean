import ImageResizer.Foundation.Outcome

/-!
# Computations in lockstep

Two fallible computations fail alike, or both end with values that are related.  Where the
values are related by equality the computations are the same one, so a fact about what two
runs may differ in becomes an equation at the end.
-/

/-- Both fail alike, or both succeed with related values. -/
inductive Lockstep {ε α β : Type} (related : α → β → Prop) : Except ε α → Except ε β → Prop
  | ok {a : α} {b : β} (holds : related a b) : Lockstep related (.ok a) (.ok b)
  | error (error : ε) : Lockstep related (.error error) (.error error)

namespace Lockstep

variable {ε α β γ δ : Type} {related : α → β → Prop} {next : γ → δ → Prop}
variable {first : Except ε α} {second : Except ε β}

theorem of_eq {first second : Except ε α} (same : first = second) : Lockstep Eq first second := by
  subst same
  cases first with
  | ok _ => exact .ok rfl
  | error error => exact .error error

theorem eq {first second : Except ε α} (steps : Lockstep Eq first second) : first = second := by
  cases steps with
  | ok same => rw [same]
  | error _ => rfl

theorem bind {f : α → Except ε γ} {g : β → Except ε δ} (steps : Lockstep related first second)
    (rest : ∀ a b, related a b → Lockstep next (f a) (g b)) :
    Lockstep next (first >>= f) (second >>= g) := by
  cases steps with
  | ok holds => exact rest _ _ holds
  | error error => exact .error error

/-- After values that are related, the same rest. -/
theorem bind_eq {f : α → Except ε γ} {g : β → Except ε γ} (steps : Lockstep related first second)
    (rest : ∀ a b, related a b → f a = g b) : first >>= f = second >>= g :=
  (steps.bind fun a b holds => of_eq (rest a b holds)).eq

/-- For a recovery, which looks at how the first attempt ended. -/
theorem ok_or_error (steps : Lockstep related first second) :
    (∃ a b, first = .ok a ∧ second = .ok b ∧ related a b) ∨
      ∃ error, first = .error error ∧ second = .error error := by
  cases steps with
  | ok holds => exact .inl ⟨_, _, rfl, rfl, holds⟩
  | error error => exact .inr ⟨error, rfl, rfl⟩

theorem lift (steps : Lockstep related first second) :
    Lockstep related (Outcome.lift first) (Outcome.lift second) := by
  cases steps with
  | ok holds => exact .ok holds
  | error error => exact .error _

end Lockstep
