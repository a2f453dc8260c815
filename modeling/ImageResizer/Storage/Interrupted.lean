import ImageResizer.Storage.Sequential

/-!
# Interrupted uploads

What `upload_image_with_ttl` leaves on disk when any of its operations fails or the
process stops at any point.  An upload has two commit points, the rename of the data and
then the rename or removal of the sidecar.  Stopped before the first it changes nothing a
reader can see; stopped between the two it leaves the new bytes with whatever sidecar was
there before.
-/

namespace ImageResizer.Storage

open Resumption Text

/-- The operations up to and including the rename of the data. -/
def dataSteps : Nat := 9

/-- The operations after it: removing the sidecar, or replacing it. -/
def sidecarSteps : Option Duration → Nat
  | none => 1
  | some _ => 7

/-- The first operations are all completed. -/
def Completes (count : Nat) (fates : List Fate) : Prop :=
  ∃ later, fates = List.replicate count .complete ++ later

theorem completes_cons_iff {count : Nat} {fates : List Fate} :
    Completes (count + 1) (.complete :: fates) ↔ Completes count fates := by
  simp only [Completes, List.replicate_succ, List.cons_append, List.cons.injEq, true_and]

theorem completes_append_iff {count more : Nat} {later : List Fate} :
    Completes (count + more) (List.replicate count .complete ++ later) ↔
      Completes more later := by
  induction count with
  | zero => simp
  | succ count ih =>
      rw [Nat.add_right_comm, List.replicate_succ, List.cons_append, completes_cons_iff, ih]

variable {storage : LocalFSStorage} {key : List Char} (spot : Located storage key)
  (clock : Nat → Instant)

/-- A last operation whose reply is dropped. -/
theorem interrupted_last (op : FsOp) (fates : List Fate) (machine : Machine) :
    ((Program.perform op >>= fun _ => pure () : FsProgram Unit).interrupted
        (FsOp.attempt clock) fates machine).2 =
      match fates with
      | [] => machine
      | fate :: _ => (FsOp.attempt clock fate op machine).2 := by
  cases fates with
  | nil => rfl
  | cons fate fates =>
      simp only [Program.perform_bind, Program.interrupted]
      rcases FsOp.attempt clock fate op machine with ⟨reply, left⟩
      cases reply with
      | none => rfl
      | some reply => simp

namespace Located

/-- Operations that leave the key's data and sidecar alone. -/
def Behind (op : FsOp) : Prop :=
  spot.Own op ∧ Spares spot.dataPath op ∧ Spares spot.sidecarPath op

theorem spares_createDirAll (name : List Char) :
    Spares (spot.dir ++ [name]) (.createDirAll spot.dir) := by
  intro below
  have short := below.length_le
  rw [List.length_append, List.length_singleton] at short
  omega

theorem behind_createDirAll : spot.Behind (.createDirAll spot.dir) :=
  ⟨rfl, spot.spares_createDirAll _, spot.spares_createDirAll _⟩

/-- A path under a temp name of the key. -/
def Aside (path : Path) : Prop :=
  IsTempPath spot.dir spot.name path ∨ IsTempPath spot.dir (spot.name ++ expiresSuffix) path

theorem aside_of_temp {path : Path} (temp : IsTempPath spot.dir spot.name path) :
    spot.Aside path := .inl temp

theorem aside_of_sidecarTemp {path : Path}
    (temp : IsTempPath spot.dir (spot.name ++ expiresSuffix) path) : spot.Aside path := .inr temp

variable {spot} in
theorem Aside.named {path : Path} (aside : spot.Aside path) :
    ∃ name, IsOwnName spot.name name ∧ path = spot.dir ++ [name] ∧ name ≠ spot.name ∧
      name ≠ spot.name ++ expiresSuffix := by
  rcases aside with ⟨name, temp, rfl⟩ | ⟨name, temp, rfl⟩
  case inl => exact ⟨name, .inr (.inr (.inl temp)), rfl, temp.ne, temp.ne_sidecar⟩
  case inr => exact ⟨name, .inr (.inr (.inr temp)), rfl, temp.ne_of_sidecar, temp.ne⟩

variable {spot} in
theorem Aside.behind {path : Path} (data : List UInt8) (aside : spot.Aside path) :
    spot.Behind (.createFile path) ∧ spot.Behind (.writeAll path data) ∧
      spot.Behind (.syncAll path) ∧ spot.Behind (.removeFile path) := by
  obtain ⟨name, own, rfl, notData, notSidecar⟩ := aside.named
  have data : spot.dir ++ [name] ≠ spot.dataPath := by simpa [dataPath] using notData
  have sidecar : spot.dir ++ [name] ≠ spot.sidecarPath := by
    simpa [sidecarPath] using notSidecar
  exact ⟨⟨⟨name, own, rfl⟩, data, sidecar⟩, ⟨⟨name, own, rfl⟩, data, sidecar⟩,
    ⟨trivial, trivial, trivial⟩, ⟨⟨name, own, rfl⟩, data, sidecar⟩⟩

variable {spot} in
theorem Aside.removes {path : Path} (aside : spot.Aside path) :
    spot.Behind (.removeFile path) := (aside.behind []).2.2.2

variable {data : List UInt8}

/-! ## Up to the rename of the data -/

theorem uses_stageUpload :
    (stageUpload storage key spot.dataPath spot.dir data).run.Uses spot.Behind fun outcome =>
      ∀ path, outcome = .ok path → IsTempPath spot.dir spot.name path := by
  have lastName : spot.dataPath.getLast? = some spot.name := by simp [dataPath]
  refine uses_bindExcept _ _ (FsM.uses_context (Program.uses_perform spot.behind_createDirAll))
    (fun _ _ => ?_) fun _ _ => by simp
  refine uses_bindExcept _ _ (FsM.uses_context
    (Program.uses_perform ⟨trivial, trivial, trivial⟩)) (fun base _ => ?_) fun _ _ => by simp
  refine uses_bindExcept _ _ (FsM.uses_context
    (Program.uses_perform ⟨trivial, trivial, trivial⟩)) (fun dir _ => ?_) fun _ _ => by simp
  split
  case isFalse =>
      intro path same
      exact absurd same (by simp [Outcome.fail])
  case isTrue =>
      rw [lastName, FsM.required_some_bind, ExceptT.run_bind_lift]
      have staged : (stageAs storage spot.dir spot.name data).Uses spot.Behind _ :=
        uses_stageAs ⟨trivial, trivial, trivial⟩ ⟨trivial, trivial, trivial⟩ fun path temp =>
          have behind := (spot.aside_of_temp temp).behind data
          ⟨behind.1, behind.2.1, behind.2.2.1⟩
      refine Program.uses_bind staged fun result temp => ?_
      obtain ⟨tmpPath, outcome⟩ := result
      cases outcome with
      | ok _ =>
          intro path same
          rw [← Except.ok.inj same]
          exact temp
      | error stop =>
          have removes := (spot.aside_of_temp temp).removes
          dsimp only
          rw [ExceptT.run_bind_lift]
          refine Program.uses_bind (Program.uses_perform removes) fun _ _ path same => ?_
          exact absurd same (by simp)

/-- The staging of an upload that succeeds was completed, and left the data. -/
theorem stageUpload_completed {fates later : List Fate} {machine left : Machine}
    {tmpPath : Path}
    (ended : (stageUpload storage key spot.dataPath spot.dir data).run.interrupted
      (FsOp.attempt clock) fates machine = (some (.ok tmpPath, later), left)) :
    fates = List.replicate 8 .complete ++ later ∧
      IsTempPath spot.dir spot.name tmpPath ∧ left.files tmpPath = some (.file data) ∧
      left.files spot.dir = some .directory ∧ left.steps = machine.steps + 8 := by
  have temp := Program.interrupted_returns _ spot.uses_stageUpload ended tmpPath rfl
  have lastName : spot.dataPath.getLast? = some spot.name := by simp [dataPath]
  obtain ⟨⟨⟩, fates₁, machine₁, making, ended₁⟩ := interrupted_bindExcept_ok _ _ _ ended
  obtain ⟨base, fates₂, machine₂, finding, ended₂⟩ := interrupted_bindExcept_ok _ _ _ ended₁
  obtain ⟨parent, fates₃, machine₃, locating, ended₃⟩ :=
    interrupted_bindExcept_ok _ _ _ ended₂
  rw [FsM.interrupted_context_ok] at making finding locating
  obtain ⟨rfl, made⟩ := perform_completed clock (.createDirAll spot.dir) rfl making
  obtain ⟨rfl, found⟩ :=
    perform_completed clock (.canonicalize storage.basePath) ⟨base, rfl⟩ finding
  obtain ⟨rfl, located⟩ := perform_completed clock (.canonicalize spot.dir) ⟨parent, rfl⟩ locating
  simp only [FsOp.perform, Prod.mk.injEq] at made found located
  split at ended₃
  case isFalse => cases ended₃
  case isTrue =>
      rw [lastName, FsM.required_some_bind, ExceptT.run_bind_lift] at ended₃
      obtain ⟨⟨staged, outcome⟩, fates₄, machine₄, staging, ended₄⟩ :=
        Program.interrupted_bind_some _ ended₃
      cases outcome with
      | error stop =>
          dsimp only at ended₄
          rw [ExceptT.run_bind_lift] at ended₄
          obtain ⟨_, _, _, _, ended₅⟩ := Program.interrupted_bind_some _ ended₄
          simp [FsM.ofOutcome] at ended₅
      | ok _ =>
          simp only [ExceptT.run_pure, Program.pure_eq_done, Program.interrupted_done,
            Prod.mk.injEq, Option.some.injEq, Except.ok.injEq] at ended₄
          obtain ⟨⟨rfl, rfl⟩, rfl⟩ := ended₄
          obtain ⟨rfl, result⟩ := stageAs_completed clock staging
          have files₃ : machine₃.files = (machine.files.createDirAll spot.dir).2 := by
            rw [← located.2, ← found.2, ← made.2]
            rfl
          have steps₃ : machine₃.steps = machine.steps + 3 := by
            rw [← located.2, ← found.2, ← made.2]
            rfl
          have notDir : spot.dir ≠ staged := by
            obtain ⟨name, -, rfl⟩ := temp
            simp
          refine ⟨rfl, temp, ?_, ?_, ?_⟩
          · rw [result.files, Function.update_self]
          · rw [result.files, Function.update_of_ne notDir, files₃]
            exact createDirAll_ok (Prod.ext made.1 rfl)
          · rw [result.steps, steps₃]

/-- With its operations completed, the staging of an upload succeeds. -/
theorem stageUpload_complete (data : List UInt8) (later : List Fate) {machine : Machine}
    (ready : Ready spot.shard machine.files) :
    ∃ tmpPath left, (stageUpload storage key spot.dataPath spot.dir data).run.interrupted
      (FsOp.attempt clock) (List.replicate 8 .complete ++ later) machine =
        (some (.ok tmpPath, later), left) := by
  have lastName : spot.dataPath.getLast? = some spot.name := by simp [dataPath]
  have made := ready.createDirAll_eq spot.inside
  have after := ready.createDirAll spot.inside
  rw [made] at after
  have above : ∀ path, path <+: spot.dir →
      (fun queried => if queried <+: spot.dir then some Node.directory
        else machine.files queried) path = some Node.directory :=
    fun path below => if_pos below
  generalize (fun queried => if queried <+: spot.dir then some Node.directory
    else machine.files queried) = files at made after above
  let machine₃ : Machine := ⟨files, machine.steps + 3, machine.counter⟩
  obtain ⟨tmpPath, left, staged, -⟩ := stageAs_complete clock storage spot.name data machine₃
    later (above _ (List.prefix_refl _)) fun name => after.regular spot.inside
  refine ⟨tmpPath, left, ?_⟩
  have making : (Fs.createDirAll spot.dir).interrupted (FsOp.attempt clock)
      (List.replicate 8 .complete ++ later) machine =
        (some (.ok (), List.replicate 7 .complete ++ later),
          ⟨files, machine.steps + 1, machine.counter⟩) := by
    simp [Program.perform, Program.interrupted, FsOp.attempt, FsOp.perform, made,
      Machine.leaving, List.replicate]
  have finding : (Fs.canonicalize storage.basePath).interrupted (FsOp.attempt clock)
      (List.replicate 7 .complete ++ later) ⟨files, machine.steps + 1, machine.counter⟩ =
        (some (.ok storage.basePath, List.replicate 6 .complete ++ later),
          ⟨files, machine.steps + 2, machine.counter⟩) := by
    simp [Program.perform, Program.interrupted, FsOp.attempt, FsOp.perform,
      FileSystem.canonicalize, above _ spot.within, Machine.leaving, List.replicate]
  have locating : (Fs.canonicalize spot.dir).interrupted (FsOp.attempt clock)
      (List.replicate 6 .complete ++ later) ⟨files, machine.steps + 2, machine.counter⟩ =
        (some (.ok spot.dir, List.replicate 5 .complete ++ later), machine₃) := by
    simp [Program.perform, Program.interrupted, FsOp.attempt, FsOp.perform,
      FileSystem.canonicalize, above _ (List.prefix_refl _), Machine.leaving, List.replicate,
      machine₃]
  rw [stageUpload, bind_completes clock ((FsM.interrupted_context_ok clock).mpr making),
    bind_completes clock ((FsM.interrupted_context_ok clock).mpr finding),
    bind_completes clock ((FsM.interrupted_context_ok clock).mpr locating),
    if_pos spot.within, lastName, FsM.required_some_bind, ExceptT.run_bind_lift,
    Program.interrupted_bind, staged]
  rfl

/-! ## From the rename of the data on -/

theorem sidecarPath_getLast : spot.sidecarPath.getLast? = some (spot.name ++ expiresSuffix) := by
  simp [sidecarPath]

/-- Operations of the sidecar's update. -/
def BehindData (op : FsOp) : Prop := spot.Own op ∧ Spares spot.dataPath op

theorem uses_stageSidecar (text : List UInt8) :
    (stageAs storage spot.dir (spot.name ++ expiresSuffix) text).Uses spot.Behind
      fun staged => IsTempPath spot.dir (spot.name ++ expiresSuffix) staged.1 :=
  uses_stageAs ⟨trivial, trivial, trivial⟩ ⟨trivial, trivial, trivial⟩ fun _ temp =>
    have behind := (spot.aside_of_sidecarTemp temp).behind text
    ⟨behind.1, behind.2.1, behind.2.2.1⟩

variable {spot} in
theorem Aside.renames {path : Path} (aside : spot.Aside path) :
    spot.BehindData (.rename path spot.sidecarPath) := by
  obtain ⟨name, own, rfl, notData, -⟩ := aside.named
  refine ⟨⟨name, spot.name ++ expiresSuffix, own, .inr (.inl rfl), rfl, rfl⟩, ?_, ?_⟩
  · simpa [dataPath] using notData
  · exact spot.dataPath_ne_sidecarPath.symm

theorem uses_recordExpiry (ttl : Option Duration) :
    (recordExpiry storage spot.dir spot.sidecarPath ttl).Uses spot.BehindData
      fun _ => True := by
  cases ttl with
  | none =>
      refine Program.uses_bind (Program.uses_perform ⟨?_, ?_⟩) fun _ _ => trivial
      · exact ⟨_, .inr (.inl rfl), rfl⟩
      · exact spot.dataPath_ne_sidecarPath.symm
  | some ttl =>
      refine Program.uses_bind (Program.uses_perform ⟨trivial, trivial⟩) fun now _ => ?_
      rw [spot.sidecarPath_getLast]
      refine Program.uses_bind (Program.uses_mono (fun _ behind => ⟨behind.1, behind.2.1⟩)
        (spot.uses_stageSidecar _)) fun staged temp => ?_
      have aside := spot.aside_of_sidecarTemp temp
      obtain ⟨tmpSidecar, outcome⟩ := staged
      cases outcome with
      | ok _ => exact Program.uses_bind (Program.uses_perform aside.renames) fun _ _ => trivial
      | error stop =>
          exact Program.uses_bind
            (Program.uses_perform ⟨aside.removes.1, aside.removes.2.1⟩) fun _ _ => trivial

/-- Stage a text and rename it over the sidecar; a failed staging is cleaned up. -/
def replaceSidecar (text : List UInt8) : FsProgram Unit := do
  let (tmpSidecar, staged) ← stageAs storage spot.dir (spot.name ++ expiresSuffix) text
  match staged with
  | .ok () => do
      let _ ← Fs.rename tmpSidecar spot.sidecarPath
      pure ()
  | .error _ => do
      let _ ← Fs.removeFile tmpSidecar
      pure ()

theorem recordExpiry_some (ttl : Duration) :
    recordExpiry storage spot.dir spot.sidecarPath (some ttl) =
      Fs.systemTime >>= fun now =>
        spot.replaceSidecar (encodeUtf8 (decimal (expiresAtSecs now ttl))) := by
  simp only [recordExpiry, spot.sidecarPath_getLast]
  rfl

/-- The expiry that an upload with this TTL asks for, counted from this instant. -/
def requested (now : Instant) (ttl : Option Duration) : Option Nat :=
  ttl.map (expiresAtSecs now)

/-- Replacing one file of a shard by another. -/
theorem rename_complete {files : FileSystem} {old new : List Char} {contents : List UInt8}
    (ready : Ready spot.shard files)
    (found : files (spot.dir ++ [old]) = some (.file contents)) :
    files.rename (spot.dir ++ [old]) (spot.dir ++ [new]) =
      (.ok (), Function.update (Function.update files (spot.dir ++ [old]) none)
        (spot.dir ++ [new]) (some (.file contents))) := by
  have present := ready.directory_of_file found
  have regular : files (spot.dir ++ [new]) ≠ some .directory := ready.regular spot.inside
  simp only [FileSystem.rename, found, List.dropLast_concat, present, ne_eq, not_true, if_false,
    if_neg regular]

theorem replaceSidecar_finished (text : List UInt8) {fates : List Fate}
    (finished : Completes (5 + 1) fates) (machine : Machine)
    (ready : Ready spot.shard machine.files)
    (present : machine.files spot.dir = some .directory) :
    ((spot.replaceSidecar text).interrupted (FsOp.attempt clock) fates machine).2.files
      spot.sidecarPath = some (.file text) := by
  obtain ⟨later, rfl⟩ := finished
  obtain ⟨tmpSidecar, left, staging, staged⟩ := stageAs_complete clock storage
    (spot.name ++ expiresSuffix) text machine (.complete :: later) present
    fun name => ready.regular spot.inside
  have leftReady : Ready spot.shard left.files := by
    have uses := Program.uses_mono (fun _ behind => behind.1.inShards spot.inside)
      (spot.uses_stageSidecar text)
    have kept := ready.interrupted clock uses (List.replicate 5 .complete ++ .complete :: later)
    rwa [staging] at kept
  have whole : List.replicate (5 + 1) Fate.complete ++ later =
    List.replicate 5 .complete ++ .complete :: later := rfl
  rw [replaceSidecar, Program.interrupted_bind, whole, staging]
  dsimp only
  rw [interrupted_last]
  obtain ⟨name, -, rfl⟩ := staged.temp
  have found : left.files (spot.dir ++ [name]) = some (.file text) := by
    rw [staged.files, Function.update_self]
  simp only [FsOp.attempt, FsOp.perform, sidecarPath, spot.rename_complete leftReady found,
    Machine.leaving_files, Function.update_self]

/-- Once all its operations are completed, the sidecar gives the requested expiry. -/
theorem recordExpiry_finished {ttl : Option Duration} {fates : List Fate}
    (finished : Completes (sidecarSteps ttl) fates) {machine : Machine}
    (ready : Ready spot.shard machine.files)
    (present : machine.files spot.dir = some .directory) :
    expiryAt ((recordExpiry storage spot.dir spot.sidecarPath ttl).interrupted
      (FsOp.attempt clock) fates machine).2.files spot.sidecarPath =
        requested (clock machine.steps) ttl := by
  cases ttl with
  | none =>
      obtain ⟨later, rfl⟩ := finished
      have regular : machine.files spot.sidecarPath ≠ some .directory :=
        ready.regular spot.inside
      rw [recordExpiry, interrupted_last]
      have removed : (machine.files.removeFile spot.sidecarPath).2 spot.sidecarPath = none := by
        simp only [FileSystem.removeFile]
        split
        case h_1 => exact Function.update_self ..
        case h_2 found => exact absurd found regular
        case h_3 found => exact found
      simp only [List.replicate_succ, List.cons_append, FsOp.attempt, FsOp.perform,
        sidecarSteps, expiryAt, FileSystem.bytes, Machine.leaving_files, removed, requested,
        Option.map_none, Option.bind_none]
  | some ttl =>
      obtain ⟨later, rfl⟩ := finished
      have replaced := spot.replaceSidecar_finished clock
        (encodeUtf8 (decimal (expiresAtSecs (clock machine.steps) ttl))) ⟨later, rfl⟩
        (machine.leaving machine.files) ready present
      have whole : List.replicate 7 Fate.complete ++ later =
        .complete :: (List.replicate (5 + 1) .complete ++ later) := rfl
      rw [spot.recordExpiry_some, sidecarSteps, whole, Program.perform_bind]
      change expiryAt ((spot.replaceSidecar _).interrupted (FsOp.attempt clock) _
        (machine.leaving machine.files)).2.files _ = _
      rw [expiryAt, FileSystem.bytes, replaced]
      exact parseExpiry_recorded (clock machine.steps) ttl

/-! ## The whole upload -/

variable (ttl : Option Duration) (contentType : String)

/-- The files an interrupted upload leaves. -/
def left (storage : LocalFSStorage) (key : List Char) (data : List UInt8) (fates : List Fate)
    (machine : Machine) : FileSystem :=
  ((uploadImageWithTtl storage key contentType data ttl).run.interrupted (FsOp.attempt clock)
    fates machine).2.files

theorem upload_eq : uploadImageWithTtl storage key contentType data ttl =
    stageUpload storage key spot.dataPath spot.dir data >>= fun tmpPath =>
      FsM.context "Failed to atomically rename temp file into place"
          (Fs.rename tmpPath spot.dataPath) >>= fun _ =>
        ExceptT.lift (recordExpiry storage spot.dir spot.sidecarPath ttl) := by
  rw [uploadImageWithTtl, spot.resolve_eq, FsM.ofOutcome_ok_bind, spot.parent_eq,
    FsM.required_some_bind, spot.sidecarPath_eq]

/-- The entry depends on the two files of the key alone. -/
theorem entry_congr {files others : FileSystem} (data : files spot.dataPath = others spot.dataPath)
    (sidecar : files spot.sidecarPath = others spot.sidecarPath) :
    spot.entry files = spot.entry others := by
  simp only [entry, expiryAt, FileSystem.bytes, data, sidecar]

/-- Once the data has been renamed into place, what is left is the update of the
sidecar. -/
theorem upload_committed (data : List UInt8) {fates : List Fate}
    (finished : Completes dataSteps fates)
    {machine : Machine} (ready : Ready spot.shard machine.files) :
    ∃ later onward, fates = List.replicate dataSteps .complete ++ later ∧
      (uploadImageWithTtl storage key contentType data ttl).run.interrupted
          (FsOp.attempt clock) fates machine =
        (ExceptT.lift (recordExpiry storage spot.dir spot.sidecarPath ttl) : FsM Unit).run.interrupted
          (FsOp.attempt clock) later onward ∧
      Ready spot.shard onward.files ∧ onward.files spot.dataPath = some (.file data) ∧
      onward.files spot.sidecarPath = machine.files spot.sidecarPath ∧
      onward.files spot.dir = some .directory ∧ onward.steps = machine.steps + dataSteps := by
  obtain ⟨later, rfl⟩ := finished
  obtain ⟨tmpPath, staged, staging⟩ :=
    spot.stageUpload_complete clock data (.complete :: later) ready
  obtain ⟨-, temp, found, present, steps⟩ := spot.stageUpload_completed clock staging
  have behind : (stageUpload storage key spot.dataPath spot.dir data).run.Uses spot.Behind _ :=
    spot.uses_stageUpload
  have stagedReady : Ready spot.shard staged.files := by
    have kept := ready.interrupted clock (Program.uses_mono
      (fun _ op => op.1.inShards spot.inside) behind)
      (List.replicate 8 .complete ++ .complete :: later)
    rwa [staging] at kept
  have sidecar : staged.files spot.sidecarPath = machine.files spot.sidecarPath := by
    let Kept : Machine → Prop := fun left =>
      left.files spot.sidecarPath = machine.files spot.sidecarPath
    have kept : Kept ((stageUpload storage key spot.dataPath spot.dir data).run.interrupted
        (FsOp.attempt clock) (List.replicate 8 .complete ++ .complete :: later) machine).2 :=
      Program.interrupted_keeps (FsOp.attempt clock)
        (fun fate _ stage op before => (op.2.2.attempt clock fate stage).trans before) behind rfl
    rwa [staging] at kept
  obtain ⟨name, named, rfl⟩ := temp
  let files := Function.update (Function.update staged.files (spot.dir ++ [name]) none)
    spot.dataPath (some (.file data))
  have moved : staged.files.rename (spot.dir ++ [name]) spot.dataPath = (.ok (), files) :=
    spot.rename_complete stagedReady found
  have renamed : (Fs.rename (spot.dir ++ [name]) spot.dataPath).interrupted (FsOp.attempt clock)
      (.complete :: later) staged = (some (.ok (), later), staged.leaving files) := by
    rw [perform_complete]
    simp only [FsOp.perform, moved]
  have sidecarPath : spot.sidecarPath ≠ spot.dir ++ [name] := by
    simpa [Located.sidecarPath] using named.ne_sidecar.symm
  have whole : List.replicate dataSteps Fate.complete ++ later =
    List.replicate 8 .complete ++ .complete :: later := rfl
  refine ⟨later, staged.leaving files, rfl, ?_, ?_, ?_, ?_, ?_, ?_⟩
  · rw [spot.upload_eq, whole, bind_completes clock staging,
      bind_completes clock ((FsM.interrupted_context_ok clock).mpr renamed)]
  · have inShard : InShards spot.shard (.rename (spot.dir ++ [name]) spot.dataPath) :=
      ⟨spot.dir, name, spot.name, spot.inside, rfl, rfl⟩
    have kept := stagedReady.perform clock inShard
    simpa only [FsOp.perform, moved] using kept
  · exact Function.update_self ..
  · dsimp only [Machine.leaving_files, files]
    rw [Function.update_of_ne spot.dataPath_ne_sidecarPath.symm,
      Function.update_of_ne sidecarPath, sidecar]
  · dsimp only [Machine.leaving_files, files]
    rw [Function.update_of_ne (by simp [dataPath]), Function.update_of_ne (by simp), present]
  · rw [Machine.leaving_steps, steps, dataSteps]

theorem lift_interrupted (program : FsProgram Unit) (fates : List Fate) (machine : Machine) :
    ((ExceptT.lift program : FsM Unit).run.interrupted (FsOp.attempt clock) fates machine).2 =
      (program.interrupted (FsOp.attempt clock) fates machine).2 := by
  rw [ExceptT.run_lift, map_eq_pure_bind, Program.interrupted_bind]
  rcases program.interrupted (FsOp.attempt clock) fates machine with ⟨ended, stopped⟩
  cases ended with
  | none => rfl
  | some ended => simp

/-- The update of the sidecar leaves the data alone. -/
theorem recordExpiry_data (fates : List Fate) (machine : Machine) :
    ((recordExpiry storage spot.dir spot.sidecarPath ttl).interrupted (FsOp.attempt clock)
      fates machine).2.files spot.dataPath = machine.files spot.dataPath := by
  let Kept : Machine → Prop := fun left =>
    left.files spot.dataPath = machine.files spot.dataPath
  have kept : Kept ((recordExpiry storage spot.dir spot.sidecarPath ttl).interrupted
      (FsOp.attempt clock) fates machine).2 :=
    Program.interrupted_keeps (FsOp.attempt clock)
      (fun fate _ stage op before => (op.2.attempt clock fate stage).trans before)
      (spot.uses_recordExpiry ttl) rfl
  exact kept

/-- Completed, the new bytes stand under the expiry that was asked for. -/
theorem upload_finished (data : List UInt8) {fates : List Fate}
    (finished : Completes (dataSteps + sidecarSteps ttl) fates) {machine : Machine}
    (ready : Ready spot.shard machine.files) :
    spot.entry (left clock ttl contentType storage key data fates machine) =
      some ⟨data, requested (clock (machine.steps + dataSteps)) ttl⟩ := by
  have committed : Completes dataSteps fates := by
    obtain ⟨later, rfl⟩ := finished
    exact ⟨_, by rw [List.replicate_add, List.append_assoc]⟩
  obtain ⟨later, onward, rfl, ended, onwardReady, found, -, present, steps⟩ :=
    spot.upload_committed clock ttl contentType data committed ready
  have rest : Completes (sidecarSteps ttl) later := completes_append_iff.mp finished
  have dataKept := spot.recordExpiry_data clock ttl later onward
  have recorded := spot.recordExpiry_finished clock rest onwardReady present
  rw [left, ended, lift_interrupted, spot.entry_of_file (dataKept.trans found), recorded, steps]

/-- An upload acts on the key's own files only. -/
theorem uses_upload (data : List UInt8) :
    (uploadImageWithTtl storage key contentType data ttl).run.Uses spot.Own fun _ => True := by
  have renames : ∀ path, IsTempPath spot.dir spot.name path →
      spot.Own (.rename path spot.dataPath) := by
    rintro _ ⟨name, temp, rfl⟩
    exact ⟨name, spot.name, .inr (.inr (.inl temp)), .inl rfl, rfl, rfl⟩
  rw [spot.upload_eq]
  refine uses_bindExcept _ _ (Program.uses_mono (fun _ op => op.1) spot.uses_stageUpload)
    (fun tmpPath temp => ?_) fun _ _ => trivial
  refine uses_bindExcept _ _ (FsM.uses_context (Program.uses_perform (renames _ (temp _ rfl))))
    (fun _ _ => ?_) fun _ _ => trivial
  rw [ExceptT.run_lift, map_eq_pure_bind]
  exact Program.uses_bind (Program.uses_mono (fun _ op => op.1) (spot.uses_recordExpiry ttl))
    fun _ _ => trivial

end Located

/-- The epoch. -/
def epoch : Instant := ⟨0, by decide, by decide⟩

/-- A host with an entry of bytes `1` that expires at second 5. -/
def expiringMachine : Machine := ⟨sampleSpot.holding [1] (some [53]), 0, 0⟩

end ImageResizer.Storage
