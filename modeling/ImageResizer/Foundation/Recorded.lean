import ImageResizer.Foundation.Outcome

/-!
# Computations that record what they do

A recorded computation has the result of an ordinary one and, beside it, the events it
gave rise to on the way, those before a failure included.  Its result is that of the
computation without the record; its events are in order when each is permitted by those
before it, which is shown step by step, like a postcondition.
-/

namespace Recording

/-- A result, and the events on the way to it. -/
structure Recorded (Event ε α : Type) where
  events : List Event
  result : Except ε α

namespace Recorded

variable {Event ε α β : Type}

/-- A computation that gives rise to no event. -/
def silent (result : Except ε α) : Recorded Event ε α := ⟨[], result⟩

/-- A computation that is itself an event. -/
def perform (event : Event) (result : Except ε α) : Recorded Event ε α := ⟨[event], result⟩

instance : Monad (Recorded Event ε) where
  pure value := silent (.ok value)
  bind first next :=
    match first.result with
    | .ok value => ⟨first.events ++ (next value).events, (next value).result⟩
    | .error error => ⟨first.events, .error error⟩

/-- The first computation, or the second when the first fails. -/
def orElse (first second : Recorded Event ε α) : Recorded Event ε α :=
  match first.result with
  | .ok value => ⟨first.events, .ok value⟩
  | .error _ => ⟨first.events ++ second.events, second.result⟩

/-- The same events, and the errors among those of a computation that may also panic. -/
def lift (recorded : Recorded Event ε α) : Recorded Event (Stop ε) α :=
  ⟨recorded.events, Outcome.lift recorded.result⟩

/-! ## The result -/

@[simp]
theorem result_silent (result : Except ε α) : (silent result : Recorded Event ε α).result = result :=
  rfl

@[simp]
theorem result_perform (event : Event) (result : Except ε α) :
    (perform event result).result = result := rfl

@[simp]
theorem result_pure (value : α) : (pure value : Recorded Event ε α).result = pure value := rfl

@[simp]
theorem result_lift (recorded : Recorded Event ε α) :
    recorded.lift.result = Outcome.lift recorded.result := rfl

@[simp]
theorem result_bind (first : Recorded Event ε α) (next : α → Recorded Event ε β) :
    (first >>= next).result = first.result >>= fun value => (next value).result := by
  cases first with
  | mk events result =>
      cases result with
      | ok value => rfl
      | error error => rfl

@[simp]
theorem result_map (f : α → β) (recorded : Recorded Event ε α) :
    (f <$> recorded).result = f <$> recorded.result := by
  cases recorded with
  | mk events result =>
      cases result with
      | ok value => rfl
      | error error => rfl

theorem result_orElse (first second : Recorded Event ε α) :
    (first.orElse second).result =
      match first.result with
      | .ok value => .ok value
      | .error _ => second.result := by
  rw [orElse]
  cases first.result with
  | ok value => rfl
  | error error => rfl

/-! ## The events -/

@[simp]
theorem events_silent (result : Except ε α) : (silent result : Recorded Event ε α).events = [] :=
  rfl

@[simp]
theorem events_pure (value : α) : (pure value : Recorded Event ε α).events = [] := rfl

theorem events_bind_of_ok {first : Recorded Event ε α} {value : α}
    (ends : first.result = .ok value) (next : α → Recorded Event ε β) :
    (first >>= next).events = first.events ++ (next value).events := by
  simp [bind, ends]

theorem events_bind_of_error {first : Recorded Event ε α} {error : ε}
    (fails : first.result = .error error) (next : α → Recorded Event ε β) :
    (first >>= next).events = first.events := by
  simp [bind, fails]

@[simp]
theorem events_perform (event : Event) (result : Except ε α) :
    (perform event result).events = [event] := rfl

theorem mem_events_bind_iff {event : Event} {first : Recorded Event ε α}
    {next : α → Recorded Event ε β} :
    event ∈ (first >>= next).events ↔
      event ∈ first.events ∨ ∃ value, first.result = .ok value ∧ event ∈ (next value).events := by
  cases ends : first.result with
  | ok value => simp [events_bind_of_ok ends]
  | error error => simp [events_bind_of_error ends]

/-- A rest that gives rise to no event leaves the record as it is. -/
theorem events_bind_of_quiet (first : Recorded Event ε α) {next : α → Recorded Event ε β}
    (quiet : ∀ value, (next value).events = []) : (first >>= next).events = first.events := by
  cases ends : first.result with
  | ok value => rw [events_bind_of_ok ends, quiet, List.append_nil]
  | error error => rw [events_bind_of_error ends]

instance : LawfulMonad (Recorded Event ε) := by
  refine LawfulMonad.mk' _ ?_ ?_ ?_
  case refine_1 =>
    intro α recorded
    cases recorded with
    | mk events result =>
        cases result with
        | ok value => simp [Functor.map, silent]
        | error error => rfl
  case refine_2 =>
    intro α β value next
    rfl
  case refine_3 =>
    intro α β γ first next last
    cases first with
    | mk events result =>
        cases result with
        | error error => rfl
        | ok value =>
            cases ends : (next value).result with
            | ok middle => simp [bind, ends]
            | error error => simp [bind, ends]

/-- Recording a traversal is recording its steps. -/
theorem result_mapM (f : α → Recorded Event ε β) (list : List α) :
    (list.mapM f).result = list.mapM fun element => (f element).result := by
  induction list with
  | nil => rfl
  | cons head tail ih => simp [List.mapM_cons, ih]

end Recorded

/-! ## Events in order -/

variable {Event ε α β : Type} (permits : List Event → Event → Prop)

/-- Every event is permitted by those before it. -/
def Orderly : (past : List Event) → List Event → Prop
  | _, [] => True
  | past, event :: rest => permits past event ∧ Orderly (past ++ [event]) rest

theorem orderly_append_iff (past first second : List Event) :
    Orderly permits past (first ++ second) ↔
      Orderly permits past first ∧ Orderly permits (past ++ first) second := by
  induction first generalizing past with
  | nil => simp [Orderly]
  | cons event rest ih =>
      rw [List.cons_append, Orderly, Orderly, ih, and_assoc, List.append_assoc,
        List.singleton_append]

/-- An event of an ordered record is permitted by what it comes after. -/
theorem Orderly.permitted {permits : List Event → Event → Prop} {past events : List Event}
    {event : Event} (orderly : Orderly permits past events) (member : event ∈ events) :
    ∃ earlier later, events = earlier ++ event :: later ∧ permits (past ++ earlier) event := by
  obtain ⟨earlier, later, rfl⟩ := List.append_of_mem member
  exact ⟨earlier, later, rfl, ((orderly_append_iff ..).mp orderly).2.1⟩

/-- Events in order stay in order when more is permitted. -/
theorem Orderly.mono {permits weaker : List Event → Event → Prop}
    (weaken : ∀ past event, permits past event → weaker past event) {past events : List Event}
    (orderly : Orderly permits past events) : Orderly weaker past events := by
  induction events generalizing past with
  | nil => trivial
  | cons event rest ih => exact ⟨weaken past event orderly.1, ih orderly.2⟩

/-- After a past that satisfies the precondition the events are in order, and the past that
a value is reached with satisfies the postcondition. -/
def Keeps (before : List Event → Prop) (recorded : Recorded Event ε α)
    (after : α → List Event → Prop) : Prop :=
  ∀ past, before past → Orderly permits past recorded.events ∧
    ∀ value, recorded.result = .ok value → after value (past ++ recorded.events)

variable {permits} {before : List Event → Prop} {after : α → List Event → Prop}

theorem keeps_silent {result : Except ε α}
    (holds : ∀ value, result = .ok value → ∀ past, before past → after value past) :
    Keeps permits before (.silent result) after := by
  intro past holdsBefore
  refine ⟨trivial, fun value ends => ?_⟩
  rw [Recorded.events_silent, List.append_nil]
  exact holds value ends past holdsBefore

theorem keeps_perform {event : Event} {result : Except ε α}
    (permitted : ∀ past, before past → permits past event)
    (holds : ∀ value, result = .ok value → ∀ past, before past → after value (past ++ [event])) :
    Keeps permits before (.perform event result) after := fun past holdsBefore =>
  ⟨⟨permitted past holdsBefore, trivial⟩, fun value ends => holds value ends past holdsBefore⟩

/-- The rule of consequence. -/
theorem Keeps.weaken {recorded : Recorded Event ε α} {weaker : α → List Event → Prop}
    (keeps : Keeps permits before recorded after)
    (weaken : ∀ value past, after value past → weaker value past) :
    Keeps permits before recorded weaker := by
  intro past holdsBefore
  obtain ⟨orderly, holdsAfter⟩ := keeps past holdsBefore
  exact ⟨orderly, fun value ends => weaken value _ (holdsAfter value ends)⟩

/-- The rule of sequencing. -/
theorem keeps_bind {first : Recorded Event ε α} {next : α → Recorded Event ε β}
    {last : β → List Event → Prop} (opens : Keeps permits before first after)
    (rest : ∀ value, first.result = .ok value → Keeps permits (after value) (next value) last) :
    Keeps permits before (first >>= next) last := by
  intro past holdsBefore
  obtain ⟨orderly, holdsAfter⟩ := opens past holdsBefore
  cases ends : first.result with
  | error error =>
      rw [Recorded.events_bind_of_error ends]
      refine ⟨orderly, fun value reached => ?_⟩
      rw [Recorded.result_bind, ends] at reached
      cases reached
  | ok value =>
      obtain ⟨restOrderly, holdsLast⟩ := rest value ends _ (holdsAfter value ends)
      rw [Recorded.events_bind_of_ok ends, orderly_append_iff, ← List.append_assoc]
      refine ⟨⟨orderly, restOrderly⟩, fun final reached => holdsLast final ?_⟩
      rw [Recorded.result_bind, ends] at reached
      exact reached

theorem keeps_pure {value : α} (holds : ∀ past, before past → after value past) :
    Keeps permits before (pure value : Recorded Event ε α) after := by
  apply keeps_silent
  intro other ends
  cases ends
  exact holds

/-- What one more event does not end, no events do. -/
theorem lasting_append (lasting : ∀ past event, before past → before (past ++ [event]))
    {past : List Event} (events : List Event) (holds : before past) :
    before (past ++ events) := by
  induction events generalizing past with
  | nil => simpa using holds
  | cons event rest ih =>
      rw [← List.singleton_append, ← List.append_assoc]
      exact ih (lasting past event holds)

/-- A fallback is reached with what the first part did before it failed. -/
theorem keeps_orElse {first second : Recorded Event ε α}
    (lasting : ∀ past event, before past → before (past ++ [event]))
    (opens : Keeps permits before first after) (falls : Keeps permits before second after) :
    Keeps permits before (first.orElse second) after := by
  intro past holdsBefore
  obtain ⟨orderly, holdsAfter⟩ := opens past holdsBefore
  rw [Recorded.orElse]
  cases ends : first.result with
  | ok value =>
      refine ⟨orderly, fun other reached => holdsAfter other ?_⟩
      exact ends.trans reached
  | error error =>
      obtain ⟨secondOrderly, holdsSecond⟩ := falls _ (lasting_append lasting first.events holdsBefore)
      refine ⟨(orderly_append_iff ..).mpr ⟨orderly, secondOrderly⟩, fun value reached => ?_⟩
      rw [← List.append_assoc]
      exact holdsSecond value reached

/-- A traversal whose steps keep a condition keeps it. -/
theorem keeps_mapM {f : α → Recorded Event ε β} (list : List α)
    (each : ∀ element ∈ list, Keeps permits before (f element) fun _ => before) :
    Keeps permits before (list.mapM f) fun _ => before := by
  induction list with
  | nil => exact keeps_pure fun _ holds => holds
  | cons head tail ih =>
      rw [List.mapM_cons]
      apply keeps_bind (each head (List.mem_cons_self ..))
      intro value _
      apply keeps_bind (ih fun element member => each element (List.mem_cons_of_mem _ member))
      intro values _
      exact keeps_pure fun _ holds => holds

theorem keeps_lift {recorded : Recorded Event ε α} (keeps : Keeps permits before recorded after) :
    Keeps permits before recorded.lift after := by
  intro past holdsBefore
  obtain ⟨orderly, holdsAfter⟩ := keeps past holdsBefore
  refine ⟨orderly, fun value ends => holdsAfter value ?_⟩
  exact (Outcome.lift_ok_iff _ _).mp ends

theorem keeps_map {f : α → β} {recorded : Recorded Event ε α} {last : β → List Event → Prop}
    (keeps : Keeps permits before recorded fun value => last (f value)) :
    Keeps permits before (f <$> recorded) last := by
  rw [map_eq_pure_bind]
  apply keeps_bind keeps
  intro value _
  exact keeps_pure fun _ holds => holds

end Recording
