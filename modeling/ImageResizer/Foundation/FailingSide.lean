import ImageResizer.Foundation.Outcome

/-!
# The failing side

What every error of a computation satisfies.  A sequence fails only with what its first
part or, after it, the rest fails with, so the errors of a program are those of its steps
in the states they are reached in.
-/

namespace FailingSide

variable {ε α β : Type}

/-- Every error the computation ends with satisfies the condition. -/
def Fails (outcome : Except ε α) (condition : ε → Prop) : Prop :=
  ∀ error, outcome = .error error → condition error

variable {condition : ε → Prop}

@[simp]
theorem fails_ok (value : α) : Fails (.ok value) condition := by
  intro error failed
  cases failed

@[simp]
theorem fails_pure (value : α) : Fails (pure value) condition := fails_ok value

@[simp]
theorem fails_error_iff (error : ε) :
    Fails (.error error : Except ε α) condition ↔ condition error := by
  constructor
  · intro fails
    exact fails error rfl
  · intro holds other failed
    cases failed
    exact holds

/-- A sequence fails with the errors of its first part and, after it, of the rest. -/
theorem fails_bind_iff (first : Except ε α) (next : α → Except ε β) :
    Fails (first >>= next) condition ↔
      Fails first condition ∧ ∀ value, first = .ok value → Fails (next value) condition := by
  cases first with
  | ok value => simp [bind, Except.bind]
  | error error => simp [bind, Except.bind]

/-- The first part never fails in any other way, so only the rest decides. -/
theorem fails_bind_of {first : Except ε α} {next : α → Except ε β}
    (fails : Fails first condition) :
    Fails (first >>= next) condition ↔
      ∀ value, first = .ok value → Fails (next value) condition := by
  rw [fails_bind_iff]
  exact and_iff_right fails

/-- A value there must be and what holds of every value hold of one value together. -/
theorem ends_and_iff (outcome : Except ε α) (holds : α → Prop) :
    ((∃ value, outcome = .ok value) ∧ ∀ value, outcome = .ok value → holds value) ↔
      ∃ value, outcome = .ok value ∧ holds value := by
  cases outcome with
  | ok value => simp
  | error error => simp

theorem fails_map_iff (f : α → β) (outcome : Except ε α) :
    Fails (f <$> outcome) condition ↔ Fails outcome condition := by
  cases outcome with
  | ok value => simp [Functor.map, Except.map]
  | error error => simp [Functor.map, Except.map]

/-- A traversal whose steps fail in one way fails in that way. -/
theorem fails_mapM {f : α → Except ε β} (list : List α)
    (each : ∀ element ∈ list, Fails (f element) condition) : Fails (list.mapM f) condition := by
  induction list with
  | nil => exact fails_pure []
  | cons head tail ih =>
      rw [List.mapM_cons, fails_bind_of (each head (List.mem_cons_self ..))]
      intro value _
      rw [fails_bind_of (ih fun element member => each element (List.mem_cons_of_mem _ member))]
      intro values _
      exact fails_pure _

/-- A condition on errors, of a computation that may also panic. -/
def OnFailure (condition : ε → Prop) : Stop ε → Prop
  | .failure error => condition error
  | .panic => True

@[simp]
theorem fails_fail_iff (error : ε) :
    Fails (Outcome.fail error : Outcome ε α) (OnFailure condition) ↔ condition error :=
  fails_error_iff _

@[simp]
theorem fails_panic : Fails (Outcome.panic : Outcome ε α) (OnFailure condition) := by
  rw [Outcome.panic, fails_error_iff]
  trivial

@[simp]
theorem fails_assert (holds : Prop) [Decidable holds] :
    Fails (Outcome.assert holds : Outcome ε Unit) (OnFailure condition) := by
  rw [Outcome.assert]
  by_cases assured : holds
  · rw [if_pos assured]
    exact fails_ok ()
  · rw [if_neg assured]
    exact fails_panic

@[simp]
theorem fails_lift_iff (outcome : Except ε α) :
    Fails (Outcome.lift outcome) (OnFailure condition) ↔ Fails outcome condition := by
  cases outcome with
  | ok value => simp [Outcome.lift]
  | error error => simp [Outcome.lift]

theorem fails_onFailure_iff (outcome : Outcome ε α) :
    Fails outcome (OnFailure condition) ↔
      ∀ error, outcome = Outcome.fail error → condition error := by
  constructor
  · intro fails error failed
    exact fails _ failed
  · intro every stop stopped
    cases stop with
    | failure error => exact every error stopped
    | panic => trivial

end FailingSide
