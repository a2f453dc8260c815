import Mathlib.Logic.Basic
import Mathlib.Data.Option.Basic

/-!
# Labelled transition systems with restricted steps

A system is an initial predicate and a partial, deterministic step function on
labels.  Everything nondeterministic (which party moves next, what the
environment answers) is in the label, so a run is a list of labels and can be
evaluated.

Reachability is relative to a predicate on pairs of a state and a label: a run
counts only if every step it takes is permitted in the state it is taken from.
Unrestricted reachability is the instance that permits everything.
-/

namespace Transition

variable {State Label : Type*}

/-- A labelled transition system whose step is a partial function. -/
structure System (State Label : Type*) where
  Init : State → Prop
  step : State → Label → Option State

namespace System

variable (system : System State Label)

/-- States reached from an initial state by steps that are all permitted. -/
inductive Reachable (permitted : State → Label → Prop) : State → Prop where
  | init {state : State} : system.Init state → Reachable permitted state
  | step {state next : State} {label : Label} :
      Reachable permitted state → permitted state label →
      system.step state label = some next → Reachable permitted next

variable {system} {permitted weaker : State → Label → Prop}

/-- The induction principle of a run: what holds initially and is kept by every
permitted step holds of every reachable state. -/
theorem Reachable.invariant {holds : State → Prop}
    (initial : ∀ state, system.Init state → holds state)
    (preserved : ∀ state label next, holds state → permitted state label →
      system.step state label = some next → holds next)
    {state : State} (reachable : system.Reachable permitted state) :
    holds state := by
  induction reachable with
  | init isInit => exact initial _ isInit
  | step _ allowed stepped ih => exact preserved _ _ _ ih allowed stepped

/-- An invariant that has been established may be assumed while the next one is
shown to be preserved. -/
theorem Reachable.invariant_assuming {known holds : State → Prop}
    (established : ∀ state, system.Reachable permitted state → known state)
    (initial : ∀ state, system.Init state → holds state)
    (preserved : ∀ state label next, known state → holds state →
      permitted state label → system.step state label = some next → holds next)
    {state : State} (reachable : system.Reachable permitted state) :
    holds state := by
  induction reachable with
  | init isInit => exact initial _ isInit
  | step before allowed stepped ih =>
      exact preserved _ _ _ (established _ before) ih allowed stepped

/-- Permitting fewer steps reaches fewer states. -/
theorem Reachable.mono (weaken : ∀ state label, permitted state label → weaker state label)
    {state : State} (reachable : system.Reachable permitted state) :
    system.Reachable weaker state := by
  induction reachable with
  | init isInit => exact .init isInit
  | step _ allowed stepped ih => exact .step ih (weaken _ _ allowed) stepped

variable (system) (permitted)

/-- The runs from one state on. -/
def startingAt (first : State) : System State Label := { system with Init := (· = first) }

/-- Evaluate a list of labels, stopping at the first step that is not permitted
or not enabled. -/
def run [∀ state label, Decidable (permitted state label)] :
    State → List Label → Option State
  | state, [] => some state
  | state, label :: labels =>
      if permitted state label then
        (system.step state label).bind fun next => run next labels
      else none

/-- A run that evaluates ends in a reachable state. -/
theorem reachable_of_run [∀ state label, Decidable (permitted state label)]
    {state final : State} (labels : List Label)
    (reachable : system.Reachable permitted state)
    (evaluates : system.run permitted state labels = some final) :
    system.Reachable permitted final := by
  induction labels generalizing state with
  | nil =>
      simp only [run, Option.some.injEq] at evaluates
      exact evaluates ▸ reachable
  | cons label labels ih =>
      simp only [run] at evaluates
      split at evaluates
      · rename_i allowed
        obtain ⟨next, stepped, rest⟩ := Option.bind_eq_some_iff.mp evaluates
        exact ih (.step reachable allowed stepped) rest
      · simp at evaluates

/-- A run may be evaluated without restrictions where every label of it is permitted. -/
theorem reachable_of_labels {state final : State} (labels : List Label)
    (known : ∀ label ∈ labels, ∀ state, permitted state label)
    (reachable : system.Reachable permitted state)
    (evaluates : system.run (fun _ _ => True) state labels = some final) :
    system.Reachable permitted final := by
  induction labels generalizing state with
  | nil =>
      simp only [run, Option.some.injEq] at evaluates
      exact evaluates ▸ reachable
  | cons label labels ih =>
      simp only [run, if_true] at evaluates
      obtain ⟨next, stepped, rest⟩ := Option.bind_eq_some_iff.mp evaluates
      obtain ⟨first, others⟩ := List.forall_mem_cons.mp known
      exact ih others (.step reachable (first _) stepped) rest

variable {system} {permitted} in
/-- A system whose every step a second one can match by a run of its own only reaches what the
second one reaches. -/
theorem Reachable.simulated {Spec Move : Type*} {spec : System Spec Move} (view : State → Spec)
    (initial : ∀ state, system.Init state → spec.Init (view state))
    (matched : ∀ state label next, permitted state label → system.step state label = some next →
      ∃ moves, spec.run (fun _ _ => True) (view state) moves = some (view next))
    {state : State} (reachable : system.Reachable permitted state) :
    spec.Reachable (fun _ _ => True) (view state) := by
  induction reachable with
  | init isInit => exact .init (initial _ isInit)
  | step _ allowed stepped ih =>
      obtain ⟨moves, evaluates⟩ := matched _ _ _ allowed stepped
      exact reachable_of_run _ _ moves ih evaluates

/-- A run whose steps all make a measure smaller is no longer than the measure. -/
theorem run_length_le [∀ state label, Decidable (permitted state label)] (measure : State → Nat)
    {known : State → Prop}
    (kept : ∀ state label next, known state → permitted state label →
      system.step state label = some next → known next)
    (shrinks : ∀ state label next, known state → permitted state label →
      system.step state label = some next → measure next < measure state)
    {state final : State} (labels : List Label) (start : known state)
    (evaluates : system.run permitted state labels = some final) :
    labels.length + measure final ≤ measure state ∧ known final := by
  induction labels generalizing state with
  | nil =>
      simp only [run, Option.some.injEq] at evaluates
      subst evaluates
      exact ⟨Nat.le_of_eq (Nat.zero_add _), start⟩
  | cons label labels ih =>
      simp only [run] at evaluates
      split at evaluates
      · rename_i allowed
        obtain ⟨next, stepped, rest⟩ := Option.bind_eq_some_iff.mp evaluates
        obtain ⟨shorter, ended⟩ := ih (kept _ _ _ start allowed stepped) rest
        have smaller := shrinks _ _ _ start allowed stepped
        refine ⟨?_, ended⟩
        rw [List.length_cons]
        omega
      · simp at evaluates

/-- In a run where the steps of one kind make a measure smaller, and no step makes it larger,
those of the kind are no more than the measure. -/
theorem run_countP_le [∀ state label, Decidable (permitted state label)] (counts : Label → Bool)
    (measure : State → Nat) (known : State → Prop)
    (kept : ∀ state label next, known state → permitted state label →
      system.step state label = some next → known next)
    (lowers : ∀ state label next, known state → permitted state label →
      system.step state label = some next →
      measure next ≤ measure state ∧ (counts label = true → measure next < measure state))
    {state final : State} (labels : List Label) (start : known state)
    (evaluates : system.run permitted state labels = some final) :
    labels.countP counts + measure final ≤ measure state ∧ known final := by
  induction labels generalizing state with
  | nil =>
      simp only [run, Option.some.injEq] at evaluates
      subst evaluates
      exact ⟨Nat.le_of_eq (Nat.zero_add _), start⟩
  | cons label labels ih =>
      simp only [run] at evaluates
      split at evaluates
      · rename_i allowed
        obtain ⟨next, stepped, rest⟩ := Option.bind_eq_some_iff.mp evaluates
        obtain ⟨shorter, ended⟩ := ih (kept _ _ _ start allowed stepped) rest
        obtain ⟨atMost, less⟩ := lowers _ _ _ start allowed stepped
        refine ⟨?_, ended⟩
        rw [List.countP_cons]
        split
        · have smaller := less ‹_›
          omega
        · omega
      · simp at evaluates

end System

end Transition
