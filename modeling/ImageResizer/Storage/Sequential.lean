import ImageResizer.Storage.Staging

/-!
# One call at a time

What `get_image`, `check_cache` and `delete` answer and leave behind when nothing else
acts on the files meanwhile.  Everything a call reports about a key is a function of the
key's entry, that is of its data file and its sidecar, and of one reading of the clock.
-/

namespace ImageResizer.Storage

open Resumption Text

/-- What the files of a key say: its bytes, and the second it expires at. -/
structure Entry where
  bytes : List UInt8
  expiry : Option Nat
  deriving DecidableEq

/-- The clock has not reached the expiry second. -/
def Entry.live (entry : Entry) (now : Instant) : Bool :=
  match entry.expiry with
  | none => true
  | some expiresAtSecs => decide (now.nowSecs < expiresAtSecs)

/-- The expiry second that a sidecar at this path gives. -/
def expiryAt (files : FileSystem) (path : Path) : Option Nat :=
  (files.bytes path).bind parseExpiry

theorem Ready.mono {shards fewer : Shards} {files : FileSystem} (ready : Ready shards files)
    (among : ∀ {dir}, fewer.dirs dir → shards.dirs dir) : Ready fewer files :=
  ⟨ready.ancestors, fun inside => ready.regular (among inside),
    fun inside => ready.unobstructed (among inside)⟩

/-- Removing a path that is not a directory: it is gone, and if it was absent the reply
says so. -/
theorem FileSystem.removeFile_regular {files : FileSystem} {path : Path}
    (regular : files path ≠ some .directory) :
    ∃ reply, files.removeFile path = (reply, Function.update files path none) ∧
      (reply = .ok () ∨ reply = .error .notFound) := by
  cases found : files path with
  | none =>
      have same : Function.update files path none = files := by rw [← found, Function.update_eq_self]
      exact ⟨.error .notFound, by simp only [removeFile, found, same], .inr rfl⟩
  | some node =>
      cases node with
      | directory => exact absurd found regular
      | file contents => exact ⟨.ok (), by simp only [removeFile, found], .inl rfl⟩

theorem FileSystem.read_toOption (files : FileSystem) (path : Path) :
    (files.read path).toOption = files.bytes path := by
  cases found : files path with
  | none => simp only [read, bytes, found, Except.toOption]
  | some node => cases node <;> simp only [read, bytes, found, Except.toOption]

variable (clock : Nat → Instant)

/-- The expiry check reads the sidecar, and the clock if there is an expiry. -/
theorem isExpired_run (path : Path) (machine : Machine) :
    (isExpired path).run (FsOp.perform clock) machine =
      match expiryAt machine.files path with
      | none => (false, machine.leaving machine.files)
      | some expiresAtSecs =>
          (decide ((clock (machine.steps + 1)).nowSecs ≥ expiresAtSecs),
            (machine.leaving machine.files).leaving machine.files) := by
  rw [expiryAt, ← machine.files.read_toOption, isExpired, Program.perform_bind, Program.run_call]
  simp only [FsOp.perform]
  cases machine.files.read path with
  | error cause => rfl
  | ok contents =>
      simp only [Except.toOption, Option.bind_some]
      cases parseExpiry contents with
      | none => rfl
      | some expiresAtSecs => rfl

theorem FsM.run_context {α : Type} (text : String) (program : FsProgram (Except IoError α))
    (machine : Machine) :
    (context text program).run.run (FsOp.perform clock) machine =
      match program.run (FsOp.perform clock) machine with
      | (.ok value, left) => (.ok value, left)
      | (.error cause, left) =>
          (Outcome.fail ((Failure.message cause.toString).context text), left) := by
  rw [context, ExceptT.run_mk, Program.run_bind]
  rcases program.run (FsOp.perform clock) machine with ⟨outcome, left⟩
  cases outcome <;> rfl

theorem FsM.run_ignore_ok {α : Type} {program : FsM α} {value : α} {machine left : Machine}
    (ran : program.run.run (FsOp.perform clock) machine = (.ok value, left)) :
    (ignore program).run.run (FsOp.perform clock) machine = (.ok (), left) := by
  rw [ignore, ExceptT.run_mk, Program.run_bind, ran]
  rfl

namespace Located

variable {storage : LocalFSStorage} {key : List Char} (spot : Located storage key)

/-- The entry of the key in these files. -/
def entry (files : FileSystem) : Option Entry :=
  (files.bytes spot.dataPath).map fun bytes => ⟨bytes, expiryAt files spot.sidecarPath⟩

/-- The files without the two of the key. -/
def evicted (files : FileSystem) : FileSystem :=
  Function.update (Function.update files spot.dataPath none) spot.sidecarPath none

theorem inside : spot.shard.dirs spot.dir := rfl

theorem resolve_eq : resolve storage key = .ok spot.dataPath := spot.resolves

variable {machine : Machine}

theorem delete_run (ready : Ready spot.shard machine.files) :
    (delete storage key).run.run (FsOp.perform clock) machine =
      (.ok (), ⟨spot.evicted machine.files, machine.steps + 2, machine.counter⟩) := by
  have dataRegular : machine.files spot.dataPath ≠ some .directory := ready.regular spot.inside
  have sidecarRegular : Function.update machine.files spot.dataPath none spot.sidecarPath ≠
      some .directory := by
    rw [Function.update_of_ne spot.dataPath_ne_sidecarPath.symm]
    exact ready.regular spot.inside
  obtain ⟨reply, removed, told⟩ := FileSystem.removeFile_regular dataRegular
  obtain ⟨_, cleared, -⟩ := FileSystem.removeFile_regular sidecarRegular
  simp only [delete, spot.resolves, FsM.ofOutcome_ok_bind]
  change (ExceptT.lift (Fs.removeFile spot.dataPath) >>= fun reply => _).run.run _ _ = _
  rw [ExceptT.run_bind_lift, Program.perform_bind, Program.run_call]
  have sidecar : expiresSidecarPath (spot.dir ++ [spot.name]) = spot.sidecarPath :=
    spot.sidecarPath_eq
  simp only [FsOp.perform, removed, sidecar]
  rcases told with rfl | rfl
  all_goals
    dsimp only
    rw [ExceptT.run_bind_lift, Program.perform_bind, Program.run_call]
    simp only [FsOp.perform, Machine.leaving, cleared]
    rfl

/-- The entry that a reader finds at this instant. -/
def found (files : FileSystem) (now : Instant) : Option Entry :=
  (spot.entry files).filter (·.live now)

/-- What a reader leaves: an expired entry is removed. -/
def swept (files : FileSystem) (now : Instant) : FileSystem :=
  if (spot.entry files).all (·.live now) then files else spot.evicted files

theorem entry_of_file {files : FileSystem} {bytes : List UInt8}
    (present : files spot.dataPath = some (.file bytes)) :
    spot.entry files = some ⟨bytes, expiryAt files spot.sidecarPath⟩ := by
  simp only [entry, FileSystem.bytes, present, Option.map_some]

theorem entry_of_absent {files : FileSystem} (absent : files spot.dataPath = none) :
    spot.entry files = none := by
  simp only [entry, FileSystem.bytes, absent, Option.map_none]

/-- The expiry check says whether an entry is live. -/
theorem isExpired_ended (bytes : List UInt8) :
    ∃ live left, (isExpired spot.sidecarPath).run (FsOp.perform clock)
        (machine.leaving machine.files) = (!live, left) ∧
      left.files = machine.files ∧ left.counter = machine.counter ∧
      machine.steps + 2 ≤ left.steps ∧
      ∃ reading, machine.steps ≤ reading ∧ reading < left.steps ∧
        live = Entry.live ⟨bytes, expiryAt machine.files spot.sidecarPath⟩ (clock reading) := by
  have checked := isExpired_run clock spot.sidecarPath (machine.leaving machine.files)
  rw [Machine.leaving_files, Machine.leaving_steps] at checked
  cases recorded : expiryAt machine.files spot.sidecarPath with
  | none =>
      rw [recorded] at checked
      exact ⟨true, _, checked, rfl, rfl, le_refl _, machine.steps, le_refl _, by simp,
        by simp [Entry.live]⟩
  | some expiresAtSecs =>
      rw [recorded] at checked
      have flipped : decide ((clock (machine.steps + 1 + 1)).nowSecs ≥ expiresAtSecs) =
          !decide ((clock (machine.steps + 2)).nowSecs < expiresAtSecs) := by
        rw [← decide_not]
        exact decide_eq_decide.mpr not_lt.symm
      dsimp only at checked
      rw [flipped] at checked
      exact ⟨_, _, checked, rfl, rfl, Nat.le_succ _, machine.steps + 2, Nat.le_add_right _ _,
        Nat.lt_succ_self _, rfl⟩

/-- The path of a file that is there is canonical and below the base. -/
theorem assertWithinBase_run {bytes : List UInt8} (ready : Ready spot.shard machine.files)
    (present : machine.files spot.dataPath = some (.file bytes)) :
    (assertWithinBase storage spot.dataPath).run.run (FsOp.perform clock) machine =
      (.ok spot.dataPath, ⟨machine.files, machine.steps + 2, machine.counter⟩) := by
  have below : storage.basePath <+: spot.dataPath := spot.within.trans (List.prefix_append ..)
  have short : storage.basePath ≠ spot.dataPath := by
    intro same
    have lengths := spot.within.length_le
    rw [same, dataPath, List.length_append, List.length_singleton] at lengths
    omega
  have base : machine.files storage.basePath = some .directory :=
    ready.ancestors (by rw [present]; exact Option.some_ne_none _) below short
  simp only [assertWithinBase, run_bindExcept, FsM.run_context, Program.run_perform, FsOp.perform,
    FileSystem.canonicalize, base, present, Machine.leaving, if_pos below]
  rfl

/-- The outcome of a lookup: the bytes, or an error that says the image is not there. -/
def Answers (outcome : Outcome Failure (List UInt8)) (entry : Option Entry) : Prop :=
  match entry with
  | some entry => outcome = .ok entry.bytes
  | none => ∃ failure, outcome = Outcome.fail failure ∧
      (failure.toString = notFoundText spot.dataPath ∨
        failure.toString = notFoundText spot.dataPath ++ " (expired)")

theorem getImage_run (ready : Ready spot.shard machine.files) :
    ∃ outcome left reading,
      (getImage storage key).run.run (FsOp.perform clock) machine = (outcome, left) ∧
      machine.steps ≤ reading ∧ reading < left.steps ∧ left.counter = machine.counter ∧
      spot.Answers outcome (spot.found machine.files (clock reading)) ∧
      left.files = spot.swept machine.files (clock reading) := by
  rw [getImage, spot.resolve_eq, FsM.ofOutcome_ok_bind, run_bindExcept, FsM.run_context,
    Program.run_perform, spot.sidecarPath_eq]
  have regular : machine.files spot.dataPath ≠ some .directory := ready.regular spot.inside
  cases present : machine.files spot.dataPath with
  | none =>
      have missing : machine.files.metadata spot.dataPath = .error .notFound := by
        simp only [FileSystem.metadata, present]
      simp only [FsOp.perform, missing]
      refine ⟨_, _, machine.steps, rfl, le_refl _, Nat.lt_succ_self _, rfl, ?_, ?_⟩
      · rw [found, spot.entry_of_absent present]
        exact ⟨_, rfl, .inl rfl⟩
      · rw [swept, spot.entry_of_absent present]
        rfl
  | some node =>
      cases node with
      | directory => exact absurd present regular
      | file bytes =>
          have isFile : machine.files.metadata spot.dataPath = .ok true := by
            simp only [FileSystem.metadata, present]
          simp only [FsOp.perform, isFile, if_true, ExceptT.run_bind_lift]
          obtain ⟨live, checked, ran, kept, counted, later, reading, from_, until_, rfl⟩ :=
            spot.isExpired_ended clock bytes
          rw [Program.run_bind, ran]
          simp only [found, swept, spot.entry_of_file present]
          cases live : Entry.live ⟨bytes, expiryAt machine.files spot.sidecarPath⟩ (clock reading)
          case false =>
              have stays : Ready spot.shard checked.files := kept ▸ ready
              simp only [Bool.not_false, if_true]
              rw [run_bindExcept, FsM.run_ignore_ok clock (spot.delete_run clock stays)]
              refine ⟨_, _, reading, rfl, from_, Nat.lt_add_right 2 until_, counted, ?_, ?_⟩
              · simp only [Answers, Option.filter_some, live, Bool.false_eq_true, if_false]
                exact ⟨_, rfl, .inr rfl⟩
              · simp only [Option.all_some, live, Bool.false_eq_true, if_false, kept]
          case true =>
              have read : checked.files.read spot.dataPath = .ok bytes := by
                simp only [kept, FileSystem.read, present]
              simp only [Bool.not_true, Bool.false_eq_true, if_false]
              rw [run_bindExcept, spot.assertWithinBase_run clock (kept ▸ ready) (kept ▸ present)]
              dsimp only
              rw [FsM.run_context, Program.run_perform]
              simp only [FsOp.perform, read]
              refine ⟨_, _, reading, rfl, from_, Nat.lt_add_right 3 until_, counted, ?_, ?_⟩
              · simp only [Answers, Option.filter_some, live, if_true]
              · simp only [Machine.leaving_files, kept, Option.all_some, live, if_true]

theorem checkCache_run (ready : Ready spot.shard machine.files) :
    ∃ left reading,
      (checkCache storage key).run.run (FsOp.perform clock) machine =
        (.ok (spot.found machine.files (clock reading)).isSome, left) ∧
      machine.steps ≤ reading ∧ reading < left.steps ∧ left.counter = machine.counter ∧
      left.files = spot.swept machine.files (clock reading) := by
  rw [checkCache, spot.resolve_eq, FsM.ofOutcome_ok_bind, ExceptT.run_bind_lift, Program.perform_bind,
    Program.run_call, spot.sidecarPath_eq]
  have regular : machine.files spot.dataPath ≠ some .directory := ready.regular spot.inside
  cases present : machine.files spot.dataPath with
  | none =>
      have missing : machine.files.metadata spot.dataPath = .error .notFound := by
        simp only [FileSystem.metadata, present]
      simp only [FsOp.perform, missing, found, swept, spot.entry_of_absent present]
      exact ⟨_, machine.steps, rfl, le_refl _, Nat.lt_succ_self _, rfl, rfl⟩
  | some node =>
      cases node with
      | directory => exact absurd present regular
      | file bytes =>
          have isFile : machine.files.metadata spot.dataPath = .ok true := by
            simp only [FileSystem.metadata, present]
          simp only [FsOp.perform, isFile, ExceptT.run_bind_lift]
          obtain ⟨live, checked, ran, kept, counted, later, reading, from_, until_, rfl⟩ :=
            spot.isExpired_ended clock bytes
          rw [Program.run_bind, ran]
          simp only [found, swept, spot.entry_of_file present]
          cases live : Entry.live ⟨bytes, expiryAt machine.files spot.sidecarPath⟩ (clock reading)
          case false =>
              have stays : Ready spot.shard checked.files := kept ▸ ready
              simp only [Bool.not_false, if_true]
              rw [run_bindExcept, FsM.run_ignore_ok clock (spot.delete_run clock stays)]
              refine ⟨⟨spot.evicted checked.files, checked.steps + 2, checked.counter⟩, reading, ?_,
                from_, Nat.lt_add_right 2 until_, counted, ?_⟩
              · simp only [Option.filter_some, live, Bool.false_eq_true, if_false,
                  Option.isSome_none]
                rfl
              · simp only [Option.all_some, live, Bool.false_eq_true, if_false, kept]
          case true =>
              simp only [Bool.not_true, Bool.false_eq_true, if_false]
              refine ⟨checked, reading, ?_, from_, until_, counted, ?_⟩
              · simp only [Option.filter_some, live, if_true, Option.isSome_some]
                rfl
              · simp only [kept, Option.all_some, live, if_true]

/-! ## Files that hold one entry -/

/-- The directory of the key and those above it, and nothing else. -/
def bare : FileSystem := fun queried => if queried <+: spot.dir then some .directory else none

/-- These bytes, and this text in the sidecar. -/
def holding (bytes : List UInt8) (sidecar : Option (List UInt8)) : FileSystem :=
  let withData := Function.update spot.bare spot.dataPath (some (.file bytes))
  match sidecar with
  | none => withData
  | some text => Function.update withData spot.sidecarPath (some (.file text))

theorem bare_ready : Ready spot.shard spot.bare where
  ancestors := by
    intro path above present below _
    by_cases inside : path <+: spot.dir
    case pos => exact if_pos (below.trans inside)
    case neg => exact absurd (if_neg inside) present
  regular := by
    rintro _ name rfl
    have outside : ¬ spot.dir ++ [name] <+: spot.dir := by
      intro inside
      have lengths := inside.length_le
      rw [List.length_append, List.length_singleton] at lengths
      omega
    simp [bare, outside]
  unobstructed := by
    rintro _ above rfl below
    simp [FileSystem.isFile, bare, below]

theorem holding_ready (bytes : List UInt8) (sidecar : Option (List UInt8)) :
    Ready spot.shard (spot.holding bytes sidecar) := by
  have present : spot.bare spot.dir = some .directory := if_pos (List.prefix_refl _)
  have withData : Ready spot.shard
      (Function.update spot.bare spot.dataPath (some (.file bytes))) :=
    spot.bare_ready.put spot.inside present bytes
  cases sidecar with
  | none => exact withData
  | some text => exact withData.put spot.inside (withData.directory_of_file (Function.update_self ..)) text

@[simp]
theorem bytes_holding (bytes : List UInt8) (sidecar : Option (List UInt8)) :
    (spot.holding bytes sidecar).bytes spot.dataPath = some bytes := by
  cases sidecar with
  | none => simp [holding, FileSystem.bytes]
  | some text => simp [holding, FileSystem.bytes, spot.dataPath_ne_sidecarPath]

@[simp]
theorem expiryAt_holding (bytes text : List UInt8) :
    expiryAt (spot.holding bytes (some text)) spot.sidecarPath = parseExpiry text := by
  simp [holding, expiryAt, FileSystem.bytes]

end Located

/-- A key of the sub-path `img/`. -/
def sampleKey : KeyParts ['i', 'm', 'g', '/'] :=
  ⟨List.replicate hashLen 'a', ['p', 'n', 'g'], by decide, by decide, by decide⟩

def sampleStorage : LocalFSStorage := ⟨[['s', 'r', 'v']], 1⟩

def sampleSpot : Located sampleStorage sampleKey.text := sampleKey.located sampleStorage

end ImageResizer.Storage
