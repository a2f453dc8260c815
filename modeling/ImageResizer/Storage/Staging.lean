import ImageResizer.Storage.Layout

/-!
# Staging a file

What the two staged writes of an upload do to the file system: they touch a temp file
only, they produce it exactly when all their operations are completed, and a rename then
puts its whole contents under the final name.
-/

namespace ImageResizer.Storage

open Resumption Text

variable {α : Type} (clock : Nat → Instant)

/-! ## Which operations were completed -/

/-- The reply reports success. -/
def FsOp.succeeded : (op : FsOp) → op.Reply → Prop
  | .createDirAll _, reply => reply = .ok ()
  | .canonicalize _, reply => ∃ path, reply = .ok path
  | .createFile _, reply => reply = .ok ()
  | .writeAll _ _, reply => reply = .ok ()
  | .syncAll _, reply => reply = .ok ()
  | .rename _ _, reply => reply = .ok ()
  | .removeFile _, reply => reply = .ok ()
  | .metadata _, reply => ∃ isFile, reply = .ok isFile
  | .read _, reply => ∃ contents, reply = .ok contents
  | .systemTime, _ => True
  | .fetchAddCounter, _ => True

theorem FsOp.not_succeeded_of_failed {op : FsOp} {error : IoError} {reply : op.Reply}
    (failed : op.failed error = some reply) : ¬ op.succeeded reply := by
  cases op <;> simp only [FsOp.failed, Option.some.injEq, reduceCtorEq] at failed <;>
    subst failed <;> simp [FsOp.succeeded]

/-- An operation that reports success was completed. -/
theorem perform_completed (op : FsOp) {reply : op.Reply} (ok : op.succeeded reply)
    {fates later : List Fate} {machine left : Machine}
    (ended : (Program.perform op).interrupted (FsOp.attempt clock) fates machine =
      (some (reply, later), left)) :
    fates = .complete :: later ∧ op.perform clock machine = (reply, left) := by
  cases fates with
  | nil => simp [Program.perform, Program.interrupted] at ended
  | cons fate fates =>
      cases fate with
      | complete =>
          simp only [Program.perform, Program.interrupted, FsOp.attempt, Prod.mk.injEq,
            Option.some.injEq] at ended
          obtain ⟨⟨rfl, rfl⟩, rfl⟩ := ended
          exact ⟨rfl, rfl⟩
      | fail progress error =>
          simp only [Program.perform, Program.interrupted, FsOp.attempt] at ended
          cases failed : op.failed error with
          | none => simp [failed] at ended
          | some answered =>
              simp only [failed, Prod.mk.injEq, Option.some.injEq] at ended
              obtain ⟨⟨rfl, -⟩, -⟩ := ended
              exact absurd ok (FsOp.not_succeeded_of_failed failed)
      | stop progress => simp [Program.perform, Program.interrupted, FsOp.attempt] at ended

theorem perform_complete {op : FsOp} (later : List Fate) (machine : Machine) :
    (Program.perform op).interrupted (FsOp.attempt clock) (.complete :: later) machine =
      (some ((op.perform clock machine).1, later), (op.perform clock machine).2) := by
  simp only [Program.perform, Program.interrupted, FsOp.attempt]

/-- The rest of a program after a first operation that is completed. -/
theorem bind_completes {first : FsM α} {β : Type} {rest : α → FsM β} {value : α}
    {fates later : List Fate} {machine onward : Machine}
    (ended : first.run.interrupted (FsOp.attempt clock) fates machine =
      (some (.ok value, later), onward)) :
    (first >>= rest).run.interrupted (FsOp.attempt clock) fates machine =
      (rest value).run.interrupted (FsOp.attempt clock) later onward := by
  rw [interrupted_bindExcept, ended]

namespace FsM

variable {program : FsProgram (Except IoError α)} {text : String}

/-- A step with a context succeeds as the step itself does. -/
theorem interrupted_context_ok {value : α} {fates later : List Fate}
    {machine left : Machine} :
    (context text program).run.interrupted (FsOp.attempt clock) fates machine =
        (some (.ok value, later), left) ↔
      program.interrupted (FsOp.attempt clock) fates machine =
        (some (.ok value, later), left) := by
  rw [context, ExceptT.run_mk, Program.interrupted_bind]
  rcases program.interrupted (FsOp.attempt clock) fates machine with ⟨ended, stopped⟩
  rcases ended with _ | ⟨outcome, rest⟩
  case none => simp
  case some =>
      cases outcome with
      | ok got => simp
      | error cause => simp [Outcome.fail]

theorem ofOutcome_ok_bind {β : Type} (value : α) (rest : α → FsM β) :
    (ofOutcome (.ok value) >>= rest) = rest value := rfl

theorem required_some_bind {β : Type} (value : α) (rest : α → FsM β) :
    (required text (some value) >>= rest) = rest value := rfl

theorem uses_context {allowed : FsOp → Prop}
    (uses : program.Uses allowed fun _ => True) :
    (context text program).run.Uses allowed fun _ => True := by
  rw [context, ExceptT.run_mk]
  refine Program.uses_bind uses fun outcome _ => ?_
  cases outcome <;> trivial

end FsM

/-! ## The temp file -/

variable {storage : LocalFSStorage} {dir : Path} {finalName : List Char}
  {data : List UInt8}

theorem uses_stage {allowed : FsOp → Prop} {tmpPath : Path}
    (created : allowed (.createFile tmpPath)) (written : allowed (.writeAll tmpPath data))
    (synced : allowed (.syncAll tmpPath)) :
    (stage tmpPath data).run.Uses allowed fun _ => True := by
  refine uses_bindExcept _ _ (FsM.uses_context (Program.uses_perform created))
    (fun _ _ => ?_) fun _ _ => trivial
  refine uses_bindExcept _ _ (FsM.uses_context (Program.uses_perform written))
    (fun _ _ => ?_) fun _ _ => trivial
  exact FsM.uses_context (Program.uses_perform synced)

theorem uses_tempFileName {allowed : FsOp → Prop} (reads : allowed .systemTime)
    (counts : allowed .fetchAddCounter) :
    (tempFileName storage finalName).Uses allowed (IsTempName finalName) := by
  refine ⟨reads, fun now => ⟨counts, fun counter => ?_⟩⟩
  refine ⟨decimal storage.processId ++ '.' :: (decimal (now.sinceEpoch.getD 0) ++ '.' ::
    decimal counter), ?_⟩
  simp

/-- A path next to `finalName` under a temp name. -/
def IsTempPath (dir : Path) (finalName : List Char) (path : Path) : Prop :=
  ∃ name, IsTempName finalName name ∧ path = dir ++ [name]

/-- Staging only acts on a temp file. -/
theorem uses_stageAs {allowed : FsOp → Prop} (reads : allowed .systemTime)
    (counts : allowed .fetchAddCounter)
    (temp : ∀ path, IsTempPath dir finalName path →
      allowed (.createFile path) ∧ allowed (.writeAll path data) ∧ allowed (.syncAll path)) :
    (stageAs storage dir finalName data).Uses allowed fun staged =>
      IsTempPath dir finalName staged.1 := by
  refine Program.uses_bind (uses_tempFileName reads counts) fun name named => ?_
  obtain ⟨created, written, synced⟩ := temp (dir ++ [name]) ⟨name, named, rfl⟩
  exact Program.uses_bind (uses_stage created written synced) fun _ _ => ⟨name, named, rfl⟩

/-- What a completed staging leaves: the whole data under a temp name. -/
structure Staged (dir : Path) (finalName : List Char) (data : List UInt8)
    (before after : Machine) (tmpPath : Path) : Prop where
  temp : IsTempPath dir finalName tmpPath
  files : after.files = Function.update before.files tmpPath (some (.file data))
  steps : after.steps = before.steps + 5

theorem createFile_ok {files left : FileSystem} {path : Path}
    (ok : files.createFile path = (.ok (), left)) :
    left = Function.update files path (some (.file [])) := by
  simp only [FileSystem.createFile] at ok
  split at ok
  case isTrue => cases ok
  case isFalse =>
      split at ok
      case isTrue => cases ok
      case isFalse => exact (congrArg Prod.snd ok).symm

theorem createDirAll_ok {files left : FileSystem} {path : Path}
    (ok : files.createDirAll path = (.ok (), left)) : left path = some .directory := by
  simp only [FileSystem.createDirAll] at ok
  split at ok
  case isTrue => cases ok
  case isFalse =>
      have same := congrArg Prod.snd ok
      dsimp only at same
      subst same
      exact if_pos (List.prefix_refl path)

/-- A staging that succeeds was completed. -/
theorem stage_completed {tmpPath : Path} {fates later : List Fate} {machine left : Machine}
    (ended : (stage tmpPath data).run.interrupted (FsOp.attempt clock) fates machine =
      (some (.ok (), later), left)) :
    fates = .complete :: .complete :: .complete :: later ∧
      left.files = Function.update machine.files tmpPath (some (.file data)) ∧
      left.steps = machine.steps + 3 := by
  obtain ⟨⟨⟩, fates₁, machine₁, created, ended⟩ := interrupted_bindExcept_ok _ _ _ ended
  obtain ⟨⟨⟩, fates₂, machine₂, written, synced⟩ := interrupted_bindExcept_ok _ _ _ ended
  rw [FsM.interrupted_context_ok] at created written synced
  obtain ⟨rfl, creating⟩ := perform_completed clock (.createFile tmpPath) rfl created
  obtain ⟨rfl, writing⟩ := perform_completed clock (.writeAll tmpPath data) rfl written
  obtain ⟨rfl, syncing⟩ := perform_completed clock (.syncAll tmpPath) rfl synced
  simp only [FsOp.perform, Prod.mk.injEq] at creating writing syncing
  obtain ⟨createdOk, rfl⟩ := creating
  obtain ⟨-, rfl⟩ := writing
  obtain ⟨-, rfl⟩ := syncing
  have files₁ := createFile_ok (Prod.ext createdOk rfl)
  refine ⟨rfl, ?_, rfl⟩
  simp [Machine.leaving, files₁, FileSystem.writeAll]

/-- The three operations on the temp file, all completed. -/
theorem stage_complete (tmpPath : Path) (data : List UInt8) (machine : Machine)
    (later : List Fate)
    (present : machine.files tmpPath.dropLast = some .directory)
    (regular : machine.files tmpPath ≠ some .directory) :
    ∃ left : Machine, (stage tmpPath data).run.interrupted (FsOp.attempt clock)
        (.complete :: .complete :: .complete :: later) machine =
          (some (.ok (), later), left) := by
  simp [stage, FsM.context, ExceptT.run_bind, Program.perform, Program.interrupted,
    FsOp.attempt, FsOp.perform, FileSystem.createFile, FileSystem.writeAll, present, regular]

theorem tempFileName_completed {fates later : List Fate} {machine left : Machine}
    {name : List Char}
    (ended : (tempFileName storage finalName).interrupted (FsOp.attempt clock) fates machine =
      (some (name, later), left)) :
    fates = .complete :: .complete :: later ∧ IsTempName finalName name ∧
      left.files = machine.files ∧ left.steps = machine.steps + 2 := by
  have named : IsTempName finalName name :=
    Program.interrupted_returns _ (uses_tempFileName trivial trivial :
      (tempFileName storage finalName).Uses (fun _ => True) _) ended
  obtain ⟨now, fates₁, machine₁, reading, ended₁⟩ := Program.interrupted_bind_some _ ended
  obtain ⟨counter, fates₂, machine₂, counting, ended₂⟩ :=
    Program.interrupted_bind_some _ ended₁
  obtain ⟨rfl, read⟩ := perform_completed clock .systemTime trivial reading
  obtain ⟨rfl, counted⟩ := perform_completed clock .fetchAddCounter trivial counting
  simp only [FsOp.perform, Prod.mk.injEq] at read counted
  rw [Program.pure_eq_done, Program.interrupted_done, Prod.mk.injEq, Option.some.injEq,
    Prod.mk.injEq] at ended₂
  obtain ⟨⟨-, rfl⟩, rfl⟩ := ended₂
  refine ⟨rfl, named, ?_, ?_⟩
  · rw [← counted.2, ← read.2]
    rfl
  · rw [← counted.2, ← read.2]
    rfl

/-- A staging whose outcome is a success was completed, and left the data. -/
theorem stageAs_completed {fates later : List Fate} {machine left : Machine} {tmpPath : Path}
    (ended : (stageAs storage dir finalName data).interrupted (FsOp.attempt clock) fates
      machine = (some ((tmpPath, .ok ()), later), left)) :
    fates = List.replicate 5 .complete ++ later ∧
      Staged dir finalName data machine left tmpPath := by
  obtain ⟨name, fates₁, machine₁, naming, ended₁⟩ := Program.interrupted_bind_some _ ended
  obtain ⟨outcome, fates₂, machine₂, staging, ended₂⟩ :=
    Program.interrupted_bind_some _ ended₁
  rw [Program.pure_eq_done, Program.interrupted_done, Prod.mk.injEq, Option.some.injEq,
    Prod.mk.injEq, Prod.mk.injEq] at ended₂
  obtain ⟨⟨⟨rfl, rfl⟩, rfl⟩, rfl⟩ := ended₂
  obtain ⟨rfl, named, files₁, steps₁⟩ := tempFileName_completed clock naming
  obtain ⟨rfl, files₂, steps₂⟩ := stage_completed clock staging
  exact ⟨rfl, ⟨name, named, rfl⟩, files₁ ▸ files₂, by omega⟩

/-- With all its operations completed, a staging succeeds in a directory that holds
regular files. -/
theorem stageAs_complete (storage : LocalFSStorage) (finalName : List Char)
    (data : List UInt8) (machine : Machine) (later : List Fate)
    (present : machine.files dir = some .directory)
    (regular : ∀ name, machine.files (dir ++ [name]) ≠ some .directory) :
    ∃ tmpPath left, (stageAs storage dir finalName data).interrupted (FsOp.attempt clock)
        (List.replicate 5 .complete ++ later) machine =
          (some ((tmpPath, .ok ()), later), left) ∧
      Staged dir finalName data machine left tmpPath := by
  suffices ended : ∃ tmpPath left, (stageAs storage dir finalName data).interrupted
      (FsOp.attempt clock) (List.replicate 5 .complete ++ later) machine =
        (some ((tmpPath, .ok ()), later), left) by
    obtain ⟨tmpPath, left, ended⟩ := ended
    exact ⟨tmpPath, left, ended, (stageAs_completed clock ended).2⟩
  let name := '.' :: (finalName ++ '.' :: (decimal storage.processId ++ '.' ::
    (decimal ((clock machine.steps).sinceEpoch.getD 0) ++ '.' ::
      (decimal machine.counter ++ tmpSuffix))))
  let named : Machine := ⟨machine.files, machine.steps + 2, machine.counter + 1⟩
  obtain ⟨left, staged⟩ := stage_complete clock (dir ++ [name]) data named later
    (by simpa [named] using present) (regular name)
  refine ⟨dir ++ [name], left, ?_⟩
  have naming : (tempFileName storage finalName).interrupted (FsOp.attempt clock)
      (List.replicate 5 .complete ++ later) machine =
        (some (name, .complete :: .complete :: .complete :: later), named) := rfl
  rw [stageAs, Program.interrupted_bind, naming]
  simp only [Program.interrupted_bind, staged, Program.pure_eq_done, Program.interrupted_done]

end ImageResizer.Storage
