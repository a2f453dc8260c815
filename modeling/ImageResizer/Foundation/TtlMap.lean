import Mathlib.Order.Basic
import Mathlib.Logic.Function.Basic

/-!
# Maps whose entries expire

A map from keys to values with an optional lifetime each, as the specification of a cache,
and what it means that a backend refines it.  A backend is compared by what a read would
report at any later time, so it is free to remove an expired entry whenever it likes.
-/

namespace TtlMap

/-- When an entry stored at an instant with a lifetime is still there. -/
structure Policy (Time Ttl : Type) [Preorder Time] where
  alive : Time → Ttl → Time → Bool
  antitone : ∀ {stored ttl earlier later},
    earlier ≤ later → alive stored ttl later → alive stored ttl earlier

/-- A value, and when it was stored for how long. -/
structure Stored (Value Time Ttl : Type) where
  value : Value
  expiry : Option (Time × Ttl)

abbrev Store (Key Value Time Ttl : Type) := Key → Option (Stored Value Time Ttl)

inductive Call (Key Value Ttl : Type) where
  | upload (key : Key) (value : Value) (ttl : Option Ttl)
  | check (key : Key)
  | get (key : Key)
  | delete (key : Key)

inductive Observation (Value : Type) where
  | uploaded
  | cached (present : Bool)
  | image (found : Option Value)
  | deleted
  /-- The call itself did not go through. -/
  | failed
  deriving DecidableEq

variable {Key Value Time Ttl State : Type} [Preorder Time] (policy : Policy Time Ttl)

def Stored.visible (stored : Stored Value Time Ttl) (now : Time) : Bool :=
  stored.expiry.all fun (start, ttl) => policy.alive start ttl now

namespace Store

/-- What a read reports at an instant. -/
def find (store : Store Key Value Time Ttl) (key : Key) (now : Time) : Option Value :=
  ((store key).filter (·.visible policy now)).map (·.value)

variable [DecidableEq Key]

def step (now : Time) : Call Key Value Ttl → Store Key Value Time Ttl →
    Observation Value × Store Key Value Time Ttl
  | .upload key value ttl, store =>
      (.uploaded, Function.update store key (some ⟨value, ttl.map (now, ·)⟩))
  | .check key, store => (.cached (store.find policy key now).isSome, store)
  | .get key, store => (.image (store.find policy key now), store)
  | .delete key, store => (.deleted, Function.update store key none)

/-- The store after a run of calls, each with its instant. -/
def after : List (Call Key Value Ttl × Time) → Store Key Value Time Ttl →
    Store Key Value Time Ttl
  | [], store => store
  | (call, now) :: rest, store => after rest (store.step policy now call).2

end Store

/-- The call neither replaces nor removes the key. -/
def Call.leaves (key : Key) : Call Key Value Ttl → Prop
  | .upload changed _ _ | .delete changed => changed ≠ key
  | .check _ | .get _ => True

section Laws

variable [DecidableEq Key] {store : Store Key Value Time Ttl} {key : Key}

/-- A call on one key does not change what is stored for another. -/
theorem step_of_leaves {call : Call Key Value Ttl} (leaves : call.leaves key) (now : Time) :
    (store.step policy now call).2 key = store key := by
  cases call with
  | upload changed value ttl => exact Function.update_of_ne (Ne.symm leaves) ..
  | check queried => rfl
  | get queried => rfl
  | delete changed => exact Function.update_of_ne (Ne.symm leaves) ..

theorem after_of_leaves {run : List (Call Key Value Ttl × Time)}
    (leaves : ∀ step ∈ run, step.1.leaves key) : store.after policy run key = store key := by
  induction run generalizing store with
  | nil => rfl
  | cons first rest ih =>
      rw [Store.after, ih fun step member => leaves step (List.mem_cons_of_mem _ member),
        step_of_leaves policy (leaves first List.mem_cons_self)]

/-- What a read reports some time after an upload. -/
theorem find_after_upload (value : Value) (ttl : Option Ttl) (start now : Time)
    {between : List (Call Key Value Ttl × Time)}
    (leaves : ∀ step ∈ between, step.1.leaves key) :
    (store.after policy ((.upload key value ttl, start) :: between)).find policy key now =
      if ttl.all (policy.alive start · now) then some value else none := by
  rw [Store.after, Store.find, after_of_leaves policy leaves]
  simp only [Store.step, Function.update_self, Option.filter_some, Stored.visible]
  cases ttl with
  | none => rfl
  | some ttl =>
      simp only [Option.map_some, Option.all_some]
      split <;> rfl

/-- What a read reports some time after a deletion. -/
theorem find_after_delete (start now : Time) {between : List (Call Key Value Ttl × Time)}
    (leaves : ∀ step ∈ between, step.1.leaves key) :
    (store.after policy ((.delete key, start) :: between)).find policy key now = none := by
  rw [Store.after, Store.find, after_of_leaves policy leaves]
  simp only [Store.step, Function.update_self, Option.filter_none, Option.map_none]

/-- Deleting twice is deleting once. -/
theorem delete_idempotent (first second : Time) :
    ((store.step policy first (.delete key)).2.step policy second (.delete key)) =
      store.step policy first (.delete key) := by
  simp [Store.step]

end Laws

/-! ## Refinement -/

/-- Something that answers the calls, the time its state shows, and what a read of a key
would report at an instant. -/
structure Backend (Key Value Time Ttl State : Type) where
  answer : Call Key Value Ttl → State → Observation Value × State
  now : State → Time
  find : State → Key → Time → Option Value

/-- What one call does, seen from outside, if it happens at an instant. -/
def Effect (policy : Policy Time Ttl) (start : Time) (call : Call Key Value Ttl)
    (observed : Observation Value) (before after : Key → Time → Option Value) : Prop :=
  (∀ key, call.leaves key → ∀ now, start ≤ now → after key now = before key now) ∧
  match call with
  | .upload key value ttl => observed = .uploaded ∧ ∀ now, start ≤ now →
      after key now = if ttl.all (policy.alive start · now) then some value else none
  | .check key => observed = .cached (before key start).isSome
  | .get key => observed = .image (before key start)
  | .delete key => observed = .deleted ∧ ∀ now, start ≤ now → after key now = none

namespace Backend

variable (backend : Backend Key Value Time Ttl State)

/-- The state shows this store: from now on every read reports the same. -/
def Shows (state : State) (store : Store Key Value Time Ttl) : Prop :=
  ∀ key now, backend.now state ≤ now → backend.find state key now = store.find policy key now

variable [DecidableEq Key]

/-- The calls are answered as the store answers them, each at an instant between its start
and its end, up to the first call that does not go through. -/
def Refines : List (Call Key Value Ttl) → State → Store Key Value Time Ttl → Prop
  | [], _, _ => True
  | call :: rest, state, store =>
      (backend.answer call state).1 ≠ .failed →
        ∃ start, backend.now state ≤ start ∧ start ≤ backend.now (backend.answer call state).2 ∧
          (backend.answer call state).1 = (store.step policy start call).1 ∧
          Refines rest (backend.answer call state).2 (store.step policy start call).2

omit [DecidableEq Key] in
/-- Every call goes through. -/
def NeverFails : List (Call Key Value Ttl) → State → Prop
  | [], _ => True
  | call :: rest, state =>
      (backend.answer call state).1 ≠ .failed ∧ NeverFails rest (backend.answer call state).2

variable {policy backend}

/-- One call keeps the store shown. -/
theorem Shows.step {state : State} {store : Store Key Value Time Ttl} {start : Time}
    {call : Call Key Value Ttl} {next : State} {observed : Observation Value}
    (shows_ : backend.Shows policy state store) (from_ : backend.now state ≤ start)
    (until_ : start ≤ backend.now next)
    (effect : Effect policy start call observed (backend.find state) (backend.find next)) :
    observed = (store.step policy start call).1 ∧
      backend.Shows policy next (store.step policy start call).2 := by
  obtain ⟨frame, own⟩ := effect
  have framed : ∀ key, call.leaves key → ∀ now, backend.now next ≤ now →
      backend.find next key now = (store.step policy start call).2.find policy key now := by
    intro key leaves now later
    rw [frame key leaves now (until_.trans later),
      shows_ key now ((from_.trans until_).trans later), Store.find, Store.find,
      step_of_leaves policy leaves]
  cases call with
  | upload changed value ttl =>
      refine ⟨own.1, fun key now later => ?_⟩
      by_cases same : changed = key
      case neg => exact framed key same now later
      case pos =>
          have reported : (store.after policy [(.upload key value ttl, start)]).find policy key
              now = _ := find_after_upload policy value ttl start now nofun
          rw [← same] at reported ⊢
          rw [own.2 now (until_.trans later)]
          exact reported.symm
  | check key =>
      refine ⟨?_, fun other now later => framed other trivial now later⟩
      rw [own, shows_ key start from_]
      rfl
  | get key =>
      refine ⟨?_, fun other now later => framed other trivial now later⟩
      rw [own, shows_ key start from_]
      rfl
  | delete changed =>
      refine ⟨own.1, fun key now later => ?_⟩
      by_cases same : changed = key
      case neg => exact framed key same now later
      case pos =>
          have reported : (store.after policy [(.delete key, start)]).find policy key now = _ :=
            find_after_delete policy start now nofun
          rw [← same] at reported ⊢
          rw [own.2 now (until_.trans later)]
          exact reported.symm

/-- A backend whose every call has the effect of the store's refines the store. -/
theorem refines (valid : State → Prop)
    (effect : ∀ call state, valid state → (backend.answer call state).1 ≠ .failed →
      valid (backend.answer call state).2 ∧
      ∃ start, backend.now state ≤ start ∧ start ≤ backend.now (backend.answer call state).2 ∧
        Effect policy start call (backend.answer call state).1 (backend.find state)
          (backend.find (backend.answer call state).2))
    (calls : List (Call Key Value Ttl)) {state : State} (holds : valid state)
    {store : Store Key Value Time Ttl} (shows_ : backend.Shows policy state store) :
    backend.Refines policy calls state store := by
  induction calls generalizing state store with
  | nil => trivial
  | cons call rest ih =>
      intro through
      obtain ⟨kept, start, from_, until_, effect⟩ := effect call state holds through
      obtain ⟨observed, shown⟩ := shows_.step from_ until_ effect
      exact ⟨start, from_, until_, observed, ih kept shown⟩

omit [Preorder Time] [DecidableEq Key] in
theorem neverFails (valid : State → Prop)
    (through : ∀ call state, valid state → (backend.answer call state).1 ≠ .failed ∧
      valid (backend.answer call state).2)
    (calls : List (Call Key Value Ttl)) {state : State} (holds : valid state) :
    backend.NeverFails calls state := by
  induction calls generalizing state with
  | nil => trivial
  | cons call rest ih =>
      have answered := through call state holds
      exact ⟨answered.1, ih answered.2⟩

end Backend

end TtlMap
