/-!
# Computations that may panic

A computation ends with a value, with an error it reports, or in a panic.  `Returns`
says that it does not panic, and `After` speaks of the value it ends with, if any: a
sequence of computations returns exactly when its first part does and, after it, the
rest does.
-/

/-- Why a computation has no value. -/
inductive Stop (ε : Type) where
  | failure (error : ε)
  | panic

/-- A value, a reported error, or a panic. -/
abbrev Outcome (ε α : Type) := Except (Stop ε) α

namespace Outcome

variable {ε α β γ : Type}

def panic : Outcome ε α := .error .panic

def fail (error : ε) : Outcome ε α := .error (.failure error)

/-- A computation that reports errors and never panics. -/
def lift : Except ε α → Outcome ε α
  | .ok value => .ok value
  | .error error => fail error

/-- An assertion: a panic unless it holds. -/
def assert (condition : Prop) [Decidable condition] : Outcome ε Unit :=
  if condition then .ok () else panic

/-- The computation does not panic. -/
def Returns (outcome : Outcome ε α) : Prop := outcome ≠ panic

/-- The value the computation ends with, if it ends with one, satisfies the condition. -/
def After (outcome : Outcome ε α) (condition : α → Prop) : Prop :=
  ∀ value, outcome = .ok value → condition value

@[simp]
theorem returns_ok (value : α) : Returns (.ok value : Outcome ε α) := by
  intro stopped
  cases stopped

@[simp]
theorem returns_pure (value : α) : Returns (pure value : Outcome ε α) := returns_ok value

@[simp]
theorem returns_fail (error : ε) : Returns (fail error : Outcome ε α) := by
  intro stopped
  cases stopped

@[simp]
theorem not_returns_panic : ¬ Returns (panic : Outcome ε α) := fun returns => returns rfl

@[simp]
theorem returns_lift (outcome : Except ε α) : Returns (lift outcome) := by
  cases outcome with
  | ok value => exact returns_ok value
  | error error => exact returns_fail error

@[simp]
theorem returns_assert_iff (condition : Prop) [Decidable condition] :
    Returns (assert condition : Outcome ε Unit) ↔ condition := by
  unfold assert
  split
  case isTrue holds => exact ⟨fun _ => holds, fun _ => returns_ok ()⟩
  case isFalse fails =>
      exact ⟨fun returns => absurd returns not_returns_panic, fun holds => absurd holds fails⟩

theorem assert_ok {condition : Prop} [Decidable condition] (holds : condition) :
    (assert condition : Outcome ε Unit) = .ok () := if_pos holds

@[simp]
theorem lift_ok_iff (outcome : Except ε α) (value : α) :
    lift outcome = .ok value ↔ outcome = .ok value := by
  cases outcome <;> simp [lift, fail]

theorem after_congr {outcome : Outcome ε α} {p q : α → Prop}
    (same : ∀ value, outcome = .ok value → (p value ↔ q value)) : After outcome p ↔ After outcome q :=
  forall_congr' fun value => ⟨fun holds ended => (same value ended).mp (holds ended),
    fun holds ended => (same value ended).mpr (holds ended)⟩

@[simp]
theorem after_ok (value : α) (p : α → Prop) : After (.ok value : Outcome ε α) p ↔ p value := by
  simp [After]

@[simp]
theorem after_pure (value : α) (p : α → Prop) : After (pure value : Outcome ε α) p ↔ p value :=
  after_ok value p

theorem after_lift (outcome : Except ε α) (p : α → Prop) :
    After (lift outcome) p ↔ ∀ value, outcome = .ok value → p value := by
  simp [After]

theorem ok_bind (value : α) (next : α → Outcome ε β) :
    ((.ok value : Outcome ε α) >>= next) = next value := rfl

/-- A sequence returns when its first part does and, after it, the rest does. -/
theorem returns_bind_iff (first : Outcome ε α) (next : α → Outcome ε β) :
    Returns (first >>= next) ↔ Returns first ∧ After first fun value => Returns (next value) := by
  cases first with
  | ok value => simp [bind, Except.bind]
  | error stop =>
      cases stop with
      | failure error => simp [bind, Except.bind, Returns, After, panic]
      | panic => simp [bind, Except.bind, Returns, panic]

/-- After a part that only reports errors, the rest is asked on the value it has. -/
theorem returns_lift_bind_iff (first : Except ε α) (next : α → Outcome ε β) :
    Returns (lift first >>= next) ↔ ∀ value, first = .ok value → Returns (next value) := by
  rw [returns_bind_iff, after_lift]
  exact and_iff_right (returns_lift first)

/-- The same, with both parts known by the conditions they return under. -/
theorem returns_bind {first : Outcome ε α} {next : α → Outcome ε β} {p : Prop} {q : α → Prop}
    (firstIff : Returns first ↔ p)
    (nextIff : ∀ value, first = .ok value → (Returns (next value) ↔ q value)) :
    Returns (first >>= next) ↔ p ∧ After first q := by
  rw [returns_bind_iff, firstIff, after_congr nextIff]

/-- Before a rest that never panics, only the first part decides. -/
theorem returns_bind_of_returns {first : Outcome ε α} {next : α → Outcome ε β} {p : Prop}
    (firstIff : Returns first ↔ p) (rest : ∀ value, first = .ok value → Returns (next value)) :
    Returns (first >>= next) ↔ p := by
  rw [returns_bind_iff, firstIff]
  exact and_iff_left rest

/-- The computation panics unless the condition holds, and under it ends with such a value. -/
structure EndsWhen (outcome : Outcome ε α) (condition : Prop) (result : α → Prop) : Prop where
  needs : Returns outcome → condition
  ends : condition → ∃ value, outcome = .ok value ∧ result value

section EndsWhen

variable {outcome : Outcome ε α} {p q : Prop} {result : α → Prop} {result' : β → Prop}

theorem endsWhen_pure {value : α} (holds : result value) :
    EndsWhen (pure value : Outcome ε α) True result where
  needs _ := trivial
  ends _ := ⟨value, rfl, holds⟩

theorem endsWhen_assert (condition : Prop) [Decidable condition] :
    EndsWhen (assert condition : Outcome ε Unit) condition fun _ => True where
  needs := (returns_assert_iff condition).mp
  ends holds := ⟨(), assert_ok holds, trivial⟩

theorem EndsWhen.congr (first : EndsWhen outcome p result) (same : p ↔ q) :
    EndsWhen outcome q result where
  needs returns := same.mp (first.needs returns)
  ends holds := first.ends (same.mpr holds)

theorem EndsWhen.weaken (first : EndsWhen outcome p result) {weaker : α → Prop}
    (implies : ∀ value, result value → weaker value) : EndsWhen outcome p weaker where
  needs := first.needs
  ends holds := by
    obtain ⟨value, ended, shown⟩ := first.ends holds
    exact ⟨value, ended, implies value shown⟩

theorem EndsWhen.returns_iff (first : EndsWhen outcome p result) : Returns outcome ↔ p := by
  refine ⟨first.needs, fun holds => ?_⟩
  obtain ⟨value, rfl, -⟩ := first.ends holds
  exact returns_ok value

theorem EndsWhen.of_ok (first : EndsWhen outcome p result) {value : α} (ended : outcome = .ok value) :
    result value := by
  obtain ⟨other, otherEnded, holds⟩ := first.ends (first.needs (ended ▸ returns_ok value))
  rw [ended] at otherEnded
  exact Except.ok.inj otherEnded ▸ holds

/-- After a first part that ends whenever it returns, the rest is asked what it needs on such a
value. -/
theorem EndsWhen.bind_returns_iff (first : EndsWhen outcome p result)
    {next : α → Outcome ε β} (rest : ∀ value, result value → (Returns (next value) ↔ q)) :
    Returns (outcome >>= next) ↔ p ∧ q := by
  rw [returns_bind_iff, first.returns_iff]
  refine and_congr_right fun holds => ?_
  obtain ⟨value, rfl, shown⟩ := first.ends holds
  rw [after_ok, rest value shown]

theorem EndsWhen.bind (first : EndsWhen outcome p result) {next : α → Outcome ε β}
    (rest : ∀ value, result value → EndsWhen (next value) q result') :
    EndsWhen (outcome >>= next) (p ∧ q) result' where
  needs := (first.bind_returns_iff fun value shown => (rest value shown).returns_iff).mp
  ends := by
    rintro ⟨holds, restHolds⟩
    obtain ⟨value, rfl, shown⟩ := first.ends holds
    exact (rest value shown).ends restHolds

theorem EndsWhen.bind_pure (first : EndsWhen outcome p result) {f : α → β}
    (holds : ∀ value, result value → result' (f value)) :
    EndsWhen (outcome >>= fun value => pure (f value)) p result' :=
  .congr (.bind first fun value shown => endsWhen_pure (holds value shown)) (by simp)

/-- A traversal whose steps all end under one condition needs it once there is a step. -/
theorem EndsWhen.mapM {f : α → Outcome ε β} {list : List α}
    (each : ∀ element ∈ list, EndsWhen (f element) p result') :
    EndsWhen (list.mapM f) (list ≠ [] → p) fun _ => True := by
  induction list with
  | nil => exact (endsWhen_pure trivial).congr (by simp)
  | cons head tail ih =>
      have others := ih fun element member => each element (List.mem_cons_of_mem _ member)
      rw [List.mapM_cons]
      refine .congr (.bind (each head (List.mem_cons_self ..)) fun _ _ =>
        .bind_pure others fun _ _ => trivial) ?_
      simp only [ne_eq, reduceCtorEq, not_false_eq_true, true_imp_iff]
      exact and_iff_left_of_imp fun holds _ => holds

end EndsWhen

theorem returns_map_iff (outcome : Outcome ε α) (f : α → β) :
    Returns (f <$> outcome) ↔ Returns outcome := by
  cases outcome with
  | ok value => simp [Functor.map, Except.map]
  | error stop =>
      cases stop with
      | failure error => simp [Functor.map, Except.map, Returns, panic]
      | panic => simp [Functor.map, Except.map, Returns, panic]

/-- A sequence that has a value has one after its first part. -/
theorem bind_ok_iff (first : Except ε α) (next : α → Except ε β) (value : β) :
    (first >>= next) = .ok value ↔ ∃ middle, first = .ok middle ∧ next middle = .ok value := by
  cases first with
  | ok middle => simp [bind, Except.bind]
  | error stop => simp [bind, Except.bind]

theorem map_ok_iff (f : α → β) (outcome : Except ε α) (value : β) :
    f <$> outcome = .ok value ↔ ∃ inner, outcome = .ok inner ∧ f inner = value := by
  cases outcome with
  | ok inner => simp [Functor.map, Except.map]
  | error stop => simp [Functor.map, Except.map]

/-- What the rest of a sequence ends with, whatever its first part does. -/
theorem after_bind {first : Outcome ε α} {next : α → Outcome ε β} {p : β → Prop}
    (rest : ∀ value, After (next value) p) : After (first >>= next) p := by
  intro result ended
  obtain ⟨value, -, nextEnded⟩ := (bind_ok_iff first next result).mp ended
  exact rest value result nextEnded

@[simp]
theorem after_fail (error : ε) (p : α → Prop) : After (fail error : Outcome ε α) p := by
  intro value ended
  cases ended

@[simp]
theorem after_panic (p : α → Prop) : After (panic : Outcome ε α) p := by
  intro value ended
  cases ended

/-- What every step of a traversal ends with, its values are. -/
theorem after_mapM {f : α → Outcome ε β} {p : β → Prop} (each : ∀ element, After (f element) p)
    (list : List α) : After (list.mapM f) fun values => ∀ value ∈ values, p value := by
  induction list with
  | nil => simp
  | cons head tail ih =>
      intro values ended
      rw [List.mapM_cons] at ended
      obtain ⟨value, headEnded, ended⟩ := (bind_ok_iff ..).mp ended
      obtain ⟨others, tailEnded, made⟩ := (bind_ok_iff ..).mp ended
      cases made
      simpa using ⟨each head value headEnded, ih others tailEnded⟩

/-- Every element of a list that a traversal gets to satisfies the condition. -/
def Reached (f : α → Outcome ε β) (condition : α → Prop) (list : List α) : Prop :=
  ∀ done element rest, list = done ++ element :: rest →
    (∀ earlier ∈ done, ∃ value, f earlier = .ok value) → condition element

/-- The first element is reached, and the others once it has a value. -/
theorem reached_cons_iff (f : α → Outcome ε β) (condition : α → Prop) (head : α)
    (tail : List α) :
    Reached f condition (head :: tail) ↔
      condition head ∧ After (f head) fun _ => Reached f condition tail := by
  constructor
  · intro every
    refine ⟨every [] head tail rfl (by simp), fun value headOk done element rest split ok => ?_⟩
    apply every (head :: done) element rest (by rw [split, List.cons_append])
    intro earlier member
    rcases List.mem_cons.mp member with rfl | later
    case inl => exact ⟨value, headOk⟩
    case inr => exact ok earlier later
  · rintro ⟨headHolds, tailHolds⟩ done element rest split ok
    cases done with
    | nil =>
        obtain ⟨rfl, rfl⟩ := List.cons.inj split
        exact headHolds
    | cons first others =>
        rw [List.cons_append] at split
        obtain ⟨rfl, tailSplit⟩ := List.cons.inj split
        obtain ⟨value, headOk⟩ := ok head (List.mem_cons_self ..)
        exact tailHolds value headOk others element rest tailSplit fun earlier member =>
          ok earlier (List.mem_cons_of_mem _ member)

/-- A traversal returns exactly when every step it gets to does. -/
theorem returns_mapM_iff {f : α → Outcome ε β} {condition : α → Prop}
    (each : ∀ element, Returns (f element) ↔ condition element) (list : List α) :
    Returns (list.mapM f) ↔ Reached f condition list := by
  induction list with
  | nil => simp [Reached]
  | cons head tail ih =>
      rw [List.mapM_cons, reached_cons_iff]
      exact returns_bind (each head) fun _ _ =>
        returns_bind_of_returns ih fun _ _ => returns_pure _

/-- A traversal whose steps are all like the first once that has a value is decided by it. -/
theorem reached_iff_head {f : α → Outcome ε β} {condition : α → Prop} {head : α} {tail : List α}
    (alike : condition head → ∀ value, f head = .ok value → ∀ element ∈ tail, condition element) :
    Reached f condition (head :: tail) ↔ condition head := by
  rw [reached_cons_iff]
  refine and_iff_left_of_imp fun holds value ended done element rest split _ => ?_
  exact alike holds value ended element (split ▸ by simp)

end Outcome
