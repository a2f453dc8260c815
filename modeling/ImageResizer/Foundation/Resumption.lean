import ImageResizer.Foundation.Transition
import Mathlib.Logic.Function.Basic

/-!
# Programs that ask their environment

A program is a tree: it is done, or it asks its environment for one operation and goes
on with the reply.  What a program does is fixed by what answers it, so one program can
be run alone, run under interruptions, or run among others that act on the same world
between any two of its operations.

For the last reading there is a rely/guarantee rule.  A program is `Safe` in a world if
each of its operations keeps the invariant and the program's guarantee, whatever the
others did before it within what the program relies on, and if its value satisfies a
condition that survives them.  Safety is established once for each program, by going
down its tree, and holds in every state of every interleaving.
-/

namespace Resumption

open Transition

/-- A program over the operations `Op`, each with its own type of replies. -/
inductive Program (Op : Type) (Reply : Op → Type) (α : Type) where
  | done (value : α)
  | call (op : Op) (next : Reply op → Program Op Reply α)

variable {Op : Type} {Reply : Op → Type} {α β World : Type}

namespace Program

protected def bind : Program Op Reply α → (α → Program Op Reply β) → Program Op Reply β
  | .done value, rest => rest value
  | .call op next, rest => .call op fun reply => (next reply).bind rest

instance : Monad (Program Op Reply) where
  pure := .done
  bind := Program.bind

/-- The program of a single operation. -/
def perform (op : Op) : Program Op Reply (Reply op) := .call op .done

@[simp]
theorem pure_eq_done (value : α) : (pure value : Program Op Reply α) = .done value := rfl

@[simp]
theorem done_bind (value : α) (rest : α → Program Op Reply β) :
    (Program.done value >>= rest) = rest value := rfl

@[simp]
theorem call_bind (op : Op) (next : Reply op → Program Op Reply α)
    (rest : α → Program Op Reply β) :
    (Program.call op next >>= rest) = .call op fun reply => next reply >>= rest := rfl

@[simp]
theorem perform_bind (op : Op) (rest : Reply op → Program Op Reply β) :
    (perform op >>= rest) = .call op rest := rfl

theorem bind_assoc {γ : Type} (program : Program Op Reply α) (first : α → Program Op Reply β)
    (second : β → Program Op Reply γ) :
    (program >>= first) >>= second = program >>= fun value => first value >>= second := by
  induction program with
  | done value => rfl
  | call op next ih => exact congrArg (Program.call op) (funext ih)

theorem id_map (program : Program Op Reply α) : id <$> program = program := by
  induction program with
  | done value => rfl
  | call op next ih => exact congrArg (Program.call op) (funext ih)

instance : LawfulMonad (Program Op Reply) :=
  LawfulMonad.mk' (Program Op Reply) id_map (fun _ _ => rfl) bind_assoc

end Program

/-! ## Running alone -/

/-- An environment that answers every operation. -/
abbrev Handler (Op : Type) (Reply : Op → Type) (World : Type) :=
  (op : Op) → World → Reply op × World

namespace Program

/-- The value a program ends with when it runs alone, and the world it leaves. -/
def run (handler : Handler Op Reply World) : Program Op Reply α → World → α × World
  | .done value, world => (value, world)
  | .call op next, world =>
      (next (handler op world).1).run handler (handler op world).2

variable (handler : Handler Op Reply World)

@[simp]
theorem run_done (value : α) (world : World) :
    (Program.done value : Program Op Reply α).run handler world = (value, world) := rfl

@[simp]
theorem run_call (op : Op) (next : Reply op → Program Op Reply α) (world : World) :
    (Program.call op next).run handler world =
      (next (handler op world).1).run handler (handler op world).2 := rfl

theorem run_perform (op : Op) (world : World) :
    (perform op : Program Op Reply (Reply op)).run handler world = handler op world := rfl

theorem run_bind (program : Program Op Reply α) (rest : α → Program Op Reply β)
    (world : World) :
    (program >>= rest).run handler world =
      (rest (program.run handler world).1).run handler (program.run handler world).2 := by
  induction program generalizing world with
  | done value => rfl
  | call op next ih => exact ih ..

end Program

/-! ## Interruptions -/

/-- An environment in which an operation can go wrong.  What becomes of the operation is
its fate; without a reply the program stops there. -/
abbrev Attempt (Op : Type) (Reply : Op → Type) (World Fate : Type) :=
  Fate → (op : Op) → World → Option (Reply op) × World

namespace Program

variable {Fate : Type} (attempt : Attempt Op Reply World Fate)

/-- Run under the given fates, one for each operation.  A program that asks for one more
operation than there are fates is stopped before it.  With the value come the fates that
are left. -/
def interrupted : Program Op Reply α → List Fate → World → Option (α × List Fate) × World
  | .done value, fates, world => (some (value, fates), world)
  | .call _ _, [], world => (none, world)
  | .call op next, fate :: fates, world =>
      match attempt fate op world with
      | (none, left) => (none, left)
      | (some reply, left) => (next reply).interrupted fates left

@[simp]
theorem interrupted_done (value : α) (fates : List Fate) (world : World) :
    (Program.done value : Program Op Reply α).interrupted attempt fates world =
      (some (value, fates), world) := by
  cases fates <;> rfl

theorem interrupted_bind (program : Program Op Reply α) (rest : α → Program Op Reply β)
    (fates : List Fate) (world : World) :
    (program >>= rest).interrupted attempt fates world =
      match program.interrupted attempt fates world with
      | (none, left) => (none, left)
      | (some (value, later), left) => (rest value).interrupted attempt later left := by
  induction program generalizing fates world with
  | done value => rw [interrupted_done, done_bind]
  | call op next ih =>
      rw [call_bind]
      cases fates with
      | nil => rfl
      | cons fate fates =>
          simp only [interrupted]
          rcases attempt fate op world with ⟨reply, left⟩
          cases reply with
          | none => rfl
          | some reply => exact ih ..

/-- A sequence ends with a value after its first part did. -/
theorem interrupted_bind_some {program : Program Op Reply α}
    {rest : α → Program Op Reply β} {fates later : List Fate} {world left : World} {value : β}
    (ended : (program >>= rest).interrupted attempt fates world = (some (value, later), left)) :
    ∃ middle between onward,
      program.interrupted attempt fates world = (some (middle, between), onward) ∧
      (rest middle).interrupted attempt between onward = (some (value, later), left) := by
  rw [interrupted_bind] at ended
  rcases began : program.interrupted attempt fates world with ⟨stage, onward⟩
  rw [began] at ended
  rcases stage with _ | ⟨middle, between⟩
  case none => cases ended
  case some => exact ⟨middle, between, onward, rfl, ended⟩

/-- Every operation the program may ask for is allowed, and every value it may end with
satisfies the condition, whatever is answered. -/
def Uses (allowed : Op → Prop) (returns : α → Prop) : Program Op Reply α → Prop
  | .done value => returns value
  | .call op next => allowed op ∧ ∀ reply, (next reply).Uses allowed returns

theorem uses_bind {allowed : Op → Prop} {reached : α → Prop} {returns : β → Prop}
    {program : Program Op Reply α} {rest : α → Program Op Reply β}
    (first : program.Uses allowed reached)
    (second : ∀ value, reached value → (rest value).Uses allowed returns) :
    (program >>= rest).Uses allowed returns := by
  induction program with
  | done value => exact second value first
  | call op next ih => exact ⟨first.1, fun reply => ih reply (first.2 reply)⟩

theorem uses_mono {allowed weaker : Op → Prop} {returns : α → Prop}
    {program : Program Op Reply α} (weaken : ∀ op, allowed op → weaker op)
    (uses : program.Uses allowed returns) : program.Uses weaker returns := by
  induction program with
  | done value => exact uses
  | call op next ih => exact ⟨weaken op uses.1, fun reply => ih reply (uses.2 reply)⟩

theorem uses_perform {allowed : Op → Prop} {op : Op} (permitted : allowed op) :
    (perform op : Program Op Reply (Reply op)).Uses allowed fun _ => True :=
  ⟨permitted, fun _ => trivial⟩

/-- What every allowed operation keeps, under every fate, is kept by the program. -/
theorem interrupted_keeps {allowed : Op → Prop} {returns : α → Prop} {kept : World → Prop}
    (keeps : ∀ fate op world, allowed op → kept world → kept (attempt fate op world).2)
    {program : Program Op Reply α} (uses : program.Uses allowed returns) {fates : List Fate}
    {world : World} (before : kept world) :
    kept (program.interrupted attempt fates world).2 := by
  induction program generalizing fates world with
  | done value => rwa [interrupted_done]
  | call op next ih =>
      cases fates with
      | nil => exact before
      | cons fate fates =>
          have after := keeps fate op world uses.1 before
          simp only [interrupted]
          rcases attempted : attempt fate op world with ⟨reply, left⟩
          rw [attempted] at after
          cases reply with
          | none => exact after
          | some reply => exact ih reply (uses.2 reply) after

/-- A value the program ends with under some fates is one it may end with. -/
theorem interrupted_returns {allowed : Op → Prop} {returns : α → Prop}
    {program : Program Op Reply α} (uses : program.Uses allowed returns)
    {fates later : List Fate} {world left : World} {value : α}
    (ended : program.interrupted attempt fates world = (some (value, later), left)) :
    returns value := by
  induction program generalizing fates world with
  | done only =>
      rw [interrupted_done, Prod.mk.injEq, Option.some.injEq, Prod.mk.injEq] at ended
      exact ended.1.1 ▸ uses
  | call op next ih =>
      cases fates with
      | nil => cases ended
      | cons fate fates =>
          simp only [interrupted] at ended
          rcases attempted : attempt fate op world with ⟨reply, onward⟩
          rw [attempted] at ended
          cases reply with
          | none => cases ended
          | some reply => exact ih reply (uses.2 reply) ended

/-- What every allowed operation keeps is kept by a program that runs alone. -/
theorem run_keeps {handler : Handler Op Reply World} {allowed : Op → Prop}
    {returns : α → Prop} {kept : World → Prop}
    (keeps : ∀ op world, allowed op → kept world → kept (handler op world).2)
    {program : Program Op Reply α} (uses : program.Uses allowed returns) {world : World}
    (before : kept world) : kept (program.run handler world).2 := by
  induction program generalizing world with
  | done value => exact before
  | call op next ih => exact ih _ (uses.2 _) (keeps op world uses.1 before)

/-- With enough operations completed, a program ends as it does when it runs alone. -/
theorem interrupted_complete {handler : Handler Op Reply World} {complete : Fate}
    (completes : ∀ op world,
      attempt complete op world = (some (handler op world).1, (handler op world).2))
    (program : Program Op Reply α) (world : World) :
    ∃ count, ∀ later,
      program.interrupted attempt (List.replicate count complete ++ later) world =
        (some ((program.run handler world).1, later), (program.run handler world).2) := by
  induction program generalizing world with
  | done value => exact ⟨0, fun later => interrupted_done ..⟩
  | call op next ih =>
      obtain ⟨count, ended⟩ := ih (handler op world).1 (handler op world).2
      refine ⟨count + 1, fun later => ?_⟩
      rw [List.replicate_succ, List.cons_append, run_call, ← ended later]
      simp only [interrupted, completes]

end Program

/-! ## Programs with a failing side -/

section Failing

variable {ε : Type} (first : ExceptT ε (Program Op Reply) α)
variable (rest : α → ExceptT ε (Program Op Reply) β)

theorem run_bindExcept (handler : Handler Op Reply World) (world : World) :
    (first >>= rest).run.run handler world =
      match first.run.run handler world with
      | (.ok value, left) => (rest value).run.run handler left
      | (.error error, left) => (.error error, left) := by
  rw [ExceptT.run_bind, Program.run_bind]
  rcases first.run.run handler world with ⟨outcome, left⟩
  cases outcome <;> rfl

theorem uses_bindExcept {allowed : Op → Prop} {reached : Except ε α → Prop}
    {returns : Except ε β → Prop} (uses : first.run.Uses allowed reached)
    (onward : ∀ value, reached (.ok value) → (rest value).run.Uses allowed returns)
    (failed : ∀ error, reached (.error error) → returns (.error error)) :
    (first >>= rest).run.Uses allowed returns := by
  rw [ExceptT.run_bind]
  refine Program.uses_bind uses fun outcome holds => ?_
  cases outcome with
  | ok value => exact onward value holds
  | error error => exact failed error holds

variable {Fate : Type} (attempt : Attempt Op Reply World Fate)

/-- A sequence ends with a value after its first part did. -/
theorem interrupted_bindExcept_ok {fates later : List Fate} {world left : World} {value : β}
    (ended : (first >>= rest).run.interrupted attempt fates world =
      (some (.ok value, later), left)) :
    ∃ middle between onward,
      first.run.interrupted attempt fates world = (some (.ok middle, between), onward) ∧
      (rest middle).run.interrupted attempt between onward =
        (some (.ok value, later), left) := by
  rw [ExceptT.run_bind] at ended
  obtain ⟨outcome, between, onward, began, ended⟩ := Program.interrupted_bind_some _ ended
  cases outcome with
  | ok middle => exact ⟨middle, between, onward, began, ended⟩
  | error error =>
      simp only [Program.pure_eq_done, Program.interrupted_done] at ended
      cases ended

theorem interrupted_bindExcept (fates : List Fate) (world : World) :
    (first >>= rest).run.interrupted attempt fates world =
      match first.run.interrupted attempt fates world with
      | (none, left) => (none, left)
      | (some (.ok value, later), left) => (rest value).run.interrupted attempt later left
      | (some (.error error, later), left) => (some (.error error, later), left) := by
  rw [ExceptT.run_bind, Program.interrupted_bind]
  rcases first.run.interrupted attempt fates world with ⟨ended, left⟩
  rcases ended with _ | ⟨outcome, later⟩
  case none => rfl
  case some =>
      cases outcome with
      | ok value => rfl
      | error error => exact Program.interrupted_done ..

end Failing

/-! ## Running among others -/

/-- What the members of a group of programs promise each other. -/
structure Discipline (Caller Op : Type) (Reply : Op → Type) (World : Type) where
  handler : Caller → Handler Op Reply World
  /-- Steps that do not satisfy this are left out of the runs considered. -/
  permitted : Caller → Op → World → Prop
  invariant : World → Prop
  /-- What the others may do to the world between two operations of the caller. -/
  rely : Caller → World → World → Prop
  rely_refl : ∀ caller world, rely caller world world
  rely_trans : ∀ {caller first second third},
    rely caller first second → rely caller second third → rely caller first third

variable {Caller : Type} (discipline : Discipline Caller Op Reply World)

namespace Discipline

/-- A program keeps the discipline from this world on, and its value satisfies the
condition. -/
def Safe (caller : Caller) (post : α → World → Prop) : Program Op Reply α → World → Prop
  | .done value, world =>
      ∀ later, discipline.rely caller world later → discipline.invariant later →
        post value later
  | .call op next, world =>
      ∀ later, discipline.rely caller world later → discipline.invariant later →
        discipline.permitted caller op later →
        discipline.invariant (discipline.handler caller op later).2 ∧
        (∀ other, other ≠ caller →
          discipline.rely other later (discipline.handler caller op later).2) ∧
        Safe caller post (next (discipline.handler caller op later).1)
          (discipline.handler caller op later).2

variable {discipline} {caller : Caller} {post : α → World → Prop}

theorem Safe.later {program : Program Op Reply α} {world later : World}
    (safe : discipline.Safe caller post program world)
    (moved : discipline.rely caller world later) :
    discipline.Safe caller post program later := by
  cases program with
  | done value => exact fun last relied => safe last (discipline.rely_trans moved relied)
  | call op next => exact fun last relied => safe last (discipline.rely_trans moved relied)

theorem Safe.bind {condition : β → World → Prop} {program : Program Op Reply α}
    {rest : α → Program Op Reply β} {world : World}
    (first : discipline.Safe caller post program world)
    (second : ∀ value later, discipline.invariant later → post value later →
      discipline.Safe caller condition (rest value) later)
    (holds : discipline.invariant world) :
    discipline.Safe caller condition (program >>= rest) world := by
  induction program generalizing world with
  | done value => exact second value world holds (first world (discipline.rely_refl ..) holds)
  | call op next ih =>
      intro later relied kept allowed
      obtain ⟨keeps, others, onward⟩ := first later relied kept allowed
      exact ⟨keeps, others, ih _ onward keeps⟩

theorem Safe.weaken {condition : α → World → Prop} {program : Program Op Reply α}
    {world : World} (safe : discipline.Safe caller post program world)
    (implies : ∀ value later, discipline.invariant later → post value later →
      condition value later) :
    discipline.Safe caller condition program world := by
  induction program generalizing world with
  | done value => exact fun later relied kept => implies value later kept (safe later relied kept)
  | call op next ih =>
      intro later relied kept allowed
      obtain ⟨keeps, others, onward⟩ := safe later relied kept allowed
      exact ⟨keeps, others, ih _ onward⟩

theorem Safe.bindExcept {ε : Type} {first : ExceptT ε (Program Op Reply) β}
    {rest : β → ExceptT ε (Program Op Reply) α} {condition : Except ε α → World → Prop}
    {reached : Except ε β → World → Prop} {world : World}
    (safe : discipline.Safe caller reached first.run world)
    (onward : ∀ value later, discipline.invariant later → reached (.ok value) later →
      discipline.Safe caller condition (rest value).run later)
    (failed : ∀ error later, discipline.invariant later → reached (.error error) later →
      discipline.Safe caller condition (.done (.error error)) later)
    (holds : discipline.invariant world) :
    discipline.Safe caller condition (first >>= rest).run world := by
  rw [ExceptT.run_bind]
  refine safe.bind (fun outcome later kept known => ?_) holds
  cases outcome with
  | ok value => exact onward value later kept known
  | error error => exact failed error later kept known

/-- What is established of one program in two ways holds together. -/
theorem Safe.and {also : α → World → Prop} {program : Program Op Reply α} {world : World}
    (safe : discipline.Safe caller post program world)
    (more : discipline.Safe caller also program world) :
    discipline.Safe caller (fun value left => post value left ∧ also value left) program world := by
  induction program generalizing world with
  | done value => exact fun later relied kept => ⟨safe later relied kept, more later relied kept⟩
  | call op next ih =>
      intro later relied kept allowed
      obtain ⟨keeps, others, onward⟩ := safe later relied kept allowed
      exact ⟨keeps, others, ih _ onward (more later relied kept allowed).2.2⟩

/-- A value computed from that of a safe program. -/
theorem Safe.map {condition : β → World → Prop} {f : α → β} {program : Program Op Reply α}
    {world : World}
    (safe : discipline.Safe caller (fun value => condition (f value)) program world) :
    discipline.Safe caller condition (f <$> program) world := by
  induction program generalizing world with
  | done value => exact safe
  | call op next ih =>
      intro later relied kept allowed
      obtain ⟨keeps, others, onward⟩ := safe later relied kept allowed
      exact ⟨keeps, others, ih _ onward⟩

/-- A program is safe whose operations keep to the discipline, and keep what it knows of
the world, if the others keep that too. -/
theorem Safe.of_uses {allowed : Op → Prop} {returns : α → Prop} {known : World → Prop}
    {program : Program Op Reply α}
    (stable : ∀ before after, discipline.rely caller before after → known before → known after)
    (keeps : ∀ op world, allowed op → discipline.invariant world →
      discipline.permitted caller op world → known world →
        discipline.invariant (discipline.handler caller op world).2 ∧
        (∀ other, other ≠ caller →
          discipline.rely other world (discipline.handler caller op world).2) ∧
        known (discipline.handler caller op world).2)
    (uses : program.Uses allowed returns) {world : World} (holds : known world) :
    discipline.Safe caller (fun value left => returns value ∧ known left) program world := by
  induction program generalizing world with
  | done value => exact fun later relied _ => ⟨uses, stable world later relied holds⟩
  | call op next ih =>
      intro later relied kept permitted
      have stands := stable world later relied holds
      obtain ⟨keptAfter, others, knownAfter⟩ := keeps op later uses.1 kept permitted stands
      exact ⟨keptAfter, others, ih _ (uses.2 _) knownAfter⟩

end Discipline

/-- Programs running among each other: the shared world, and what each caller that has
been started still has to do. -/
structure Tasks (Caller Op : Type) (Reply : Op → Type) (α World : Type) where
  world : World
  program : Caller → Option (Program Op Reply α)

/-- The next operation of a program that is not done. -/
def Program.next? : Program Op Reply α → Option Op
  | .done _ => none
  | .call op _ => some op

/-- The value of a program that is done. -/
def Program.value? : Program Op Reply α → Option α
  | .done value => some value
  | .call _ _ => none

namespace Tasks

variable (tasks : Tasks Caller Op Reply α World) (caller : Caller)

/-- The operation that a running caller takes next. -/
def pending : Option Op := (tasks.program caller).bind Program.next?

/-- What a caller has ended with. -/
def result : Option α := (tasks.program caller).bind Program.value?

variable {tasks caller}

theorem pending_of_call {op : Op} {next : Reply op → Program Op Reply α}
    (running : tasks.program caller = some (.call op next)) : tasks.pending caller = some op := by
  rw [pending, running]
  rfl

theorem result_eq_some {value : α} (ended : tasks.result caller = some value) :
    tasks.program caller = some (.done value) := by
  obtain ⟨program, running, done⟩ := Option.bind_eq_some_iff.mp ended
  cases program with
  | done only => rw [running, Option.some.inj done]
  | call op next => cases done

/-- A program that has nothing to do is done. -/
theorem program_of_idle {program : Program Op Reply α}
    (running : tasks.program caller = some program) (idle : tasks.pending caller = none) :
    ∃ value, program = .done value := by
  rw [pending, running] at idle
  cases program with
  | done value => exact ⟨value, rfl⟩
  | call op next => cases idle

end Tasks

/-- One move of a group: a caller starts, or a running one takes its next operation. -/
inductive Move (Caller : Type) where
  | start (caller : Caller)
  | step (caller : Caller)

variable [DecidableEq Caller]

/-- The interleavings of a group of programs, one operation at a time.  Every caller
starts at most once. -/
def interleaving (handler : Caller → Handler Op Reply World)
    (code : Caller → Program Op Reply α) (initial : World → Prop) :
    System (Tasks Caller Op Reply α World) (Move Caller) where
  Init tasks := initial tasks.world ∧ ∀ caller, tasks.program caller = none
  step tasks
    | .start caller =>
        match tasks.program caller with
        | some _ => none
        | none => some ⟨tasks.world, Function.update tasks.program caller (some (code caller))⟩
    | .step caller =>
        match tasks.program caller with
        | some (.call op next) =>
            let answered := handler caller op tasks.world
            some ⟨answered.2, Function.update tasks.program caller (some (next answered.1))⟩
        | _ => none

section Steps

variable {handler : Caller → Handler Op Reply World} {code : Caller → Program Op Reply α}
  {initial : World → Prop} {tasks next : Tasks Caller Op Reply α World} {caller : Caller}

/-- All that a start does. -/
theorem started (stepped : (interleaving handler code initial).step tasks (.start caller) =
      some next) :
    tasks.program caller = none ∧
      next = ⟨tasks.world, Function.update tasks.program caller (some (code caller))⟩ := by
  simp only [interleaving] at stepped
  split at stepped
  case h_1 => cases stepped
  case h_2 idle => exact ⟨idle, (Option.some.inj stepped).symm⟩

/-- All that an operation does. -/
theorem performed (stepped : (interleaving handler code initial).step tasks (.step caller) =
      some next) :
    ∃ op rest, tasks.program caller = some (.call op rest) ∧
      next = ⟨(handler caller op tasks.world).2,
        Function.update tasks.program caller (some (rest (handler caller op tasks.world).1))⟩ := by
  simp only [interleaving] at stepped
  split at stepped
  case h_1 op rest running => exact ⟨op, rest, running, (Option.some.inj stepped).symm⟩
  case h_2 => cases stepped

/-- Every running program asks for its caller's operations only. -/
def Tasks.Use (tasks : Tasks Caller Op Reply α World) (allowed : Caller → Op → Prop) : Prop :=
  ∀ caller program, tasks.program caller = some program →
    program.Uses (allowed caller) fun _ => True

theorem Tasks.Use.step {allowed : Caller → Op → Prop} {move : Move Caller}
    (uses : tasks.Use allowed)
    (starts : ∀ caller, move = .start caller →
      (code caller).Uses (allowed caller) fun _ => True)
    (stepped : (interleaving handler code initial).step tasks move = some next) :
    next.Use allowed := by
  intro other program running
  cases move with
  | start caller =>
      obtain ⟨-, rfl⟩ := started stepped
      dsimp only at running
      by_cases same : other = caller
      case pos =>
          rw [same, Function.update_self, Option.some.injEq] at running
          rw [same, ← running]
          exact starts caller rfl
      case neg =>
          rw [Function.update_of_ne same] at running
          exact uses other program running
  | step caller =>
      obtain ⟨op, rest, asking, rfl⟩ := performed stepped
      dsimp only at running
      by_cases same : other = caller
      case pos =>
          rw [same, Function.update_self, Option.some.injEq] at running
          rw [same, ← running]
          exact (uses caller _ asking).2 _
      case neg =>
          rw [Function.update_of_ne same] at running
          exact uses other program running

theorem Tasks.Use.run {allowed : Caller → Op → Prop}
    {restricted : Tasks Caller Op Reply α World → Move Caller → Prop}
    (starts : ∀ tasks caller, restricted tasks (.start caller) →
      (code caller).Uses (allowed caller) fun _ => True)
    {first last : Tasks Caller Op Reply α World} (uses : first.Use allowed)
    (reachable : ((interleaving handler code initial).startingAt first).Reachable restricted
      last) : last.Use allowed := by
  induction reachable with
  | init same => exact same ▸ uses
  | @step tasks next move _ permitted stepped ih =>
      have stepped : (interleaving handler code initial).step tasks move = some next := stepped
      exact ih.step (fun caller same => starts tasks caller (same ▸ permitted)) stepped

end Steps

namespace Discipline

/-- The steps a run is restricted to. -/
def allowed (tasks : Tasks Caller Op Reply α World) : Move Caller → Prop
  | .start _ => True
  | .step caller =>
      ∀ op, tasks.pending caller = some op → discipline.permitted caller op tasks.world

/-- The invariant holds and every running program is safe. -/
structure Holds (post : Caller → α → World → Prop)
    (tasks : Tasks Caller Op Reply α World) : Prop where
  invariant : discipline.invariant tasks.world
  safe : ∀ caller program, tasks.program caller = some program →
    discipline.Safe caller (post caller) program tasks.world

variable {discipline} {code : Caller → Program Op Reply α} {initial : World → Prop}
  {post : Caller → α → World → Prop}

/-- A move of one caller that keeps to what the others rely on. -/
theorem Holds.moved {tasks : Tasks Caller Op Reply α World} {caller : Caller}
    {program : Program Op Reply α} {world : World} (holds : discipline.Holds post tasks)
    (kept : discipline.invariant world)
    (others : ∀ other, other ≠ caller → discipline.rely other tasks.world world)
    (safe : discipline.Safe caller (post caller) program world) :
    discipline.Holds post ⟨world, Function.update tasks.program caller (some program)⟩ := by
  refine ⟨kept, fun other its running => ?_⟩
  dsimp only at running
  by_cases same : other = caller
  case pos =>
      subst same
      rw [Function.update_self, Option.some.injEq] at running
      exact running ▸ safe
  case neg =>
      rw [Function.update_of_ne same] at running
      exact (holds.safe other its running).later (others other same)

/-- One move of a group keeps everyone safe. -/
theorem Holds.step {tasks next : Tasks Caller Op Reply α World} {move : Move Caller}
    (holds : discipline.Holds post tasks) (allowed : discipline.allowed tasks move)
    (starts : ∀ caller, move = .start caller →
      discipline.Safe caller (post caller) (code caller) tasks.world)
    (stepped : (interleaving discipline.handler code initial).step tasks move = some next) :
    discipline.Holds post next := by
  cases move with
  | start caller =>
      obtain ⟨-, rfl⟩ := started stepped
      exact holds.moved holds.invariant (fun other _ => discipline.rely_refl ..)
        (starts caller rfl)
  | step caller =>
      obtain ⟨op, rest, running, rfl⟩ := performed stepped
      obtain ⟨kept, others, safe⟩ := holds.safe caller _ running _ (discipline.rely_refl ..)
        holds.invariant (allowed op (Tasks.pending_of_call running))
      exact holds.moved kept others safe

/-- A run that starts with everyone safe ends so. -/
theorem Holds.run {restricted : Tasks Caller Op Reply α World → Move Caller → Prop}
    (within : ∀ tasks move, restricted tasks move → discipline.allowed tasks move)
    (starts : ∀ tasks caller, restricted tasks (.start caller) →
      discipline.invariant tasks.world →
        discipline.Safe caller (post caller) (code caller) tasks.world)
    {first last : Tasks Caller Op Reply α World} (holds : discipline.Holds post first)
    (reachable : ((interleaving discipline.handler code initial).startingAt first).Reachable
      restricted last) :
    discipline.Holds post last := by
  induction reachable with
  | init same => exact same ▸ holds
  | @step tasks next move _ permitted stepped ih =>
      have stepped : (interleaving discipline.handler code initial).step tasks move =
        some next := stepped
      refine ih.step (within _ _ permitted) (fun caller same => ?_) stepped
      subst same
      exact starts _ caller permitted ih.invariant

omit [DecidableEq Caller] in
/-- A value that a safe program has ended with satisfies its condition. -/
theorem Holds.ended {tasks : Tasks Caller Op Reply α World} {caller : Caller} {value : α}
    (holds : discipline.Holds post tasks) (ended : tasks.result caller = some value) :
    post caller value tasks.world :=
  holds.safe caller _ (Tasks.result_eq_some ended) _ (discipline.rely_refl ..) holds.invariant

end Discipline

end Resumption
