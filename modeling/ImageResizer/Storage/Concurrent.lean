import ImageResizer.Storage.Interrupted

/-!
# An upload among lookups

Calls of one key, each taking its operations on the files whenever it pleases.  However
the operations of `check_cache` and `get_image` fall between those of an upload, the
upload that returns has stored its bytes and its expiry, unless a lookup removed them.
-/

namespace ImageResizer.Storage

open Resumption Transition Text

/-! ## Calls of one key -/

inductive KeyCall where
  | upload (contentType : String) (data : List UInt8) (ttl : Option Duration)
  | checkCache
  | getImage

inductive KeyAnswer where
  | stored
  | cached (hit : Bool)
  | image (bytes : List UInt8)
  deriving DecidableEq

namespace KeyCall

def uploads : KeyCall → Bool
  | .upload _ _ _ => true
  | _ => false

def code (storage : LocalFSStorage) (key : List Char) :
    KeyCall → FsProgram (Outcome Failure KeyAnswer)
  | .upload contentType data ttl =>
      (uploadImageWithTtl storage key contentType data ttl >>= fun _ => pure .stored : FsM _).run
  | .checkCache => (Storage.checkCache storage key >>= fun hit => pure (.cached hit) : FsM _).run
  | .getImage => (Storage.getImage storage key >>= fun bytes => pure (.image bytes) : FsM _).run

end KeyCall

abbrev KeyTasks (Caller : Type) :=
  Tasks Caller FsOp FsOp.Reply (Outcome Failure KeyAnswer) Machine

variable {Caller : Type} {storage : LocalFSStorage} {key : List Char}
  (spot : Located storage key) (clock : Nat → Instant) (calls : Caller → KeyCall)

/-- The runs of a group of calls on one host, which carries out every operation. -/
def keyCalls [DecidableEq Caller] (storage : LocalFSStorage) (key : List Char)
    (initial : Machine → Prop) : System (KeyTasks Caller) (Move Caller) :=
  interleaving (fun _ => FsOp.perform clock) (fun caller => (calls caller).code storage key)
    initial

/-- An upload starts only while no other is under way. -/
def Separate (tasks : KeyTasks Caller) : Move Caller → Prop
  | .start caller => (calls caller).uploads →
      ∀ other, (calls other).uploads → tasks.pending other = none
  | .step _ => True

/-- No upload starts. -/
def Quiet (_ : KeyTasks Caller) : Move Caller → Prop
  | .start caller => (calls caller).uploads = false
  | .step _ => True

/-- The clock shows that the entry is live whenever it is read. -/
def Unexpired (entry : Entry) (tasks : KeyTasks Caller) : Move Caller → Prop
  | .start _ => True
  | .step caller => tasks.pending caller = some .systemTime →
      entry.live (clock tasks.world.steps)

namespace Located

/-- None of these callers removes the data file while it holds these bytes. -/
def Undisturbed (bytes : List UInt8) (among : Caller → Prop) (tasks : KeyTasks Caller) :
    Move Caller → Prop
  | .start _ => True
  | .step caller => among caller → tasks.pending caller = some (.removeFile spot.dataPath) →
      tasks.world.files.bytes spot.dataPath ≠ some bytes

/-! ## The operations of a call -/

/-- What a lookup may do: read, and remove an entry that has expired. -/
def Lookup : FsOp → Prop
  | .metadata _ | .read _ | .canonicalize _ | .systemTime => True
  | .removeFile path => path = spot.dataPath ∨ path = spot.sidecarPath
  | _ => False

variable {spot} in
theorem Lookup.own {op : FsOp} (lookup : spot.Lookup op) : spot.Own op := by
  cases op with
  | removeFile path =>
      rcases lookup with rfl | rfl
      · exact ⟨spot.name, .inl rfl, rfl⟩
      · exact ⟨spot.name ++ expiresSuffix, .inr (.inl rfl), rfl⟩
  | metadata path => trivial
  | read path => trivial
  | canonicalize path => trivial
  | systemTime => trivial
  | createDirAll path => exact lookup.elim
  | createFile path => exact lookup.elim
  | writeAll path data => exact lookup.elim
  | syncAll path => exact lookup.elim
  | rename source target => exact lookup.elim
  | fetchAddCounter => exact lookup.elim

theorem uses_isExpired (path : Path) : (isExpired path).Uses spot.Lookup fun _ => True := by
  refine Program.uses_bind (Program.uses_perform trivial) fun outcome _ => ?_
  cases outcome with
  | error cause => trivial
  | ok contents =>
      dsimp only
      cases parseExpiry contents with
      | none => trivial
      | some expiresAtSecs =>
          exact Program.uses_bind (Program.uses_perform trivial) fun _ _ => trivial

theorem uses_delete : (delete storage key).run.Uses spot.Lookup Outcome.Returns := by
  rw [delete, spot.resolve_eq, FsM.ofOutcome_ok_bind, spot.sidecarPath_eq, ExceptT.run_bind_lift]
  have removesSidecar : (ExceptT.lift (Fs.removeFile spot.sidecarPath) >>= fun _ =>
      pure () : FsM Unit).run.Uses spot.Lookup Outcome.Returns := by
    rw [ExceptT.run_bind_lift]
    exact Program.uses_bind (Program.uses_perform (.inr rfl)) fun _ _ => Outcome.returns_ok ()
  refine Program.uses_bind (Program.uses_perform (.inl rfl)) fun outcome _ => ?_
  rcases outcome with cause | ⟨⟩
  case ok => exact removesSidecar
  case error =>
      cases cause with
      | notFound => exact removesSidecar
      | other text => exact Outcome.returns_fail _

/-- Whatever becomes of an eviction, the lookup goes on. -/
theorem uses_evict : (FsM.ignore (delete storage key)).run.Uses spot.Lookup (· = .ok ()) := by
  rw [FsM.ignore, ExceptT.run_mk]
  refine Program.uses_bind spot.uses_delete fun outcome returns => ?_
  split
  case h_1 => exact absurd returns Outcome.not_returns_panic
  case h_2 => rfl

theorem uses_checkCache : (checkCache storage key).run.Uses spot.Lookup fun _ => True := by
  rw [checkCache, spot.resolve_eq, FsM.ofOutcome_ok_bind, ExceptT.run_bind_lift]
  refine Program.uses_bind (Program.uses_perform trivial) fun outcome _ => ?_
  split
  case h_1 =>
      rw [ExceptT.run_bind_lift]
      refine Program.uses_bind (spot.uses_isExpired _) fun expired _ => ?_
      cases expired with
      | false => trivial
      | true => exact uses_bindExcept _ _ spot.uses_evict (fun _ _ => trivial) fun _ _ => trivial
  case h_2 => trivial
  case h_3 => trivial
  case h_4 => trivial

theorem uses_assertWithinBase (path : Path) :
    (assertWithinBase storage path).run.Uses spot.Lookup fun _ => True := by
  refine uses_bindExcept _ _ (FsM.uses_context (Program.uses_perform trivial))
    (fun base _ => ?_) fun _ _ => trivial
  refine uses_bindExcept _ _ (FsM.uses_context (Program.uses_perform trivial))
    (fun canonical _ => ?_) fun _ _ => trivial
  split <;> trivial

theorem uses_getImage : (getImage storage key).run.Uses spot.Lookup fun _ => True := by
  rw [getImage, spot.resolve_eq, FsM.ofOutcome_ok_bind]
  refine uses_bindExcept _ _ (FsM.uses_context (Program.uses_perform trivial))
    (fun isFile _ => ?_) fun _ _ => trivial
  cases isFile with
  | false => trivial
  | true =>
      rw [if_pos rfl, ExceptT.run_bind_lift]
      refine Program.uses_bind (spot.uses_isExpired _) fun expired _ => ?_
      cases expired with
      | true => exact uses_bindExcept _ _ spot.uses_evict (fun _ _ => trivial) fun _ _ => trivial
      | false =>
          exact uses_bindExcept _ _ (spot.uses_assertWithinBase _)
            (fun _ _ => FsM.uses_context (Program.uses_perform trivial)) fun _ _ => trivial

/-- The operations of a call. -/
def Acts (call : KeyCall) : FsOp → Prop := if call.uploads then spot.Own else spot.Lookup

theorem uses_code (call : KeyCall) :
    (call.code storage key).Uses (spot.Acts call) fun _ => True := by
  cases call with
  | upload contentType data ttl =>
      exact uses_bindExcept _ _ (spot.uses_upload ttl contentType data) (fun _ _ => trivial)
        fun _ _ => trivial
  | checkCache =>
      exact uses_bindExcept _ _ spot.uses_checkCache (fun _ _ => trivial) fun _ _ => trivial
  | getImage =>
      exact uses_bindExcept _ _ spot.uses_getImage (fun _ _ => trivial) fun _ _ => trivial

theorem acts_of_lookup {call : KeyCall} (reads : call.uploads = false) :
    spot.Acts call = spot.Lookup := by
  rw [Acts, reads]
  rfl

variable {spot} in
theorem Acts.own {call : KeyCall} {op : FsOp} (acts : spot.Acts call op) : spot.Own op := by
  rw [Acts] at acts
  split at acts
  case isTrue => exact acts
  case isFalse => exact acts.own

/-- In every run the layout stands, and every call keeps to its operations. -/
theorem underway [DecidableEq Caller] {initial : Machine → Prop}
    (fits : ∀ machine, initial machine → Ready spot.shard machine.files)
    {restricted : KeyTasks Caller → Move Caller → Prop} {tasks : KeyTasks Caller}
    (reached : (keyCalls clock calls storage key initial).Reachable restricted tasks) :
    Ready spot.shard tasks.world.files ∧ tasks.Use fun caller => spot.Acts (calls caller) := by
  induction reached with
  | init begins =>
      refine ⟨fits _ begins.1, fun caller program running => ?_⟩
      rw [begins.2 caller] at running
      cases running
  | @step tasks next move _ _ stepped ih =>
      refine ⟨?_, ih.2.step (fun caller _ => spot.uses_code (calls caller)) stepped⟩
      cases move with
      | start caller =>
          obtain ⟨-, rfl⟩ := started stepped
          exact ih.1
      | step caller =>
          obtain ⟨op, rest, running, rfl⟩ := performed stepped
          have acts := (ih.2 caller _ running).1
          exact ih.1.perform clock (acts.own.inShards spot.inside)

/-! ## While an upload is under way -/

/-- What lookups do to the files: the sidecar may be gone, and so may the data unless its
bytes are spared. -/
def Swept (bytes : List UInt8) (spared : Prop) (before after : FileSystem) : Prop :=
  ∀ path, after path = before path ∨
    after path = none ∧ (path = spot.sidecarPath ∨
      path = spot.dataPath ∧ (spared → before.bytes spot.dataPath ≠ some bytes))

section Sweeping

variable {spot} {bytes : List UInt8} {spared : Prop} {before between after : FileSystem}

theorem Swept.refl : spot.Swept bytes spared before before := fun _ => .inl rfl

theorem Swept.trans (first : spot.Swept bytes spared before between)
    (second : spot.Swept bytes spared between after) : spot.Swept bytes spared before after := by
  intro path
  rcases second path with same | ⟨gone, sidecar | ⟨rfl, differs⟩⟩
  · rw [same]
    exact first path
  · exact .inr ⟨gone, .inl sidecar⟩
  · rcases first spot.dataPath with same | ⟨_, conditions⟩
    · refine .inr ⟨gone, .inr ⟨rfl, fun sparing => ?_⟩⟩
      rw [FileSystem.bytes, ← same]
      exact differs sparing
    · exact .inr ⟨gone, conditions⟩

theorem Swept.untouched (swept : spot.Swept bytes spared before after) {path : Path}
    (notData : path ≠ spot.dataPath) (notSidecar : path ≠ spot.sidecarPath) :
    after path = before path := by
  rcases swept path with same | ⟨_, sidecar | ⟨data, _⟩⟩
  · exact same
  · exact absurd sidecar notSidecar
  · exact absurd data notData

theorem Swept.sidecar (swept : spot.Swept bytes spared before after) :
    after spot.sidecarPath = before spot.sidecarPath ∨ after spot.sidecarPath = none :=
  (swept spot.sidecarPath).imp id And.left

/-- The key has these bytes, or they were not spared and are gone. -/
def Kept (bytes : List UInt8) (spared : Prop) (files : FileSystem) : Prop :=
  files spot.dataPath = some (.file bytes) ∨ ¬ spared ∧ files spot.dataPath = none

theorem Swept.kept (swept : spot.Swept bytes spared before after)
    (kept : spot.Kept bytes spared before) : spot.Kept bytes spared after := by
  rcases swept spot.dataPath with same | ⟨gone, sidecar | ⟨_, differs⟩⟩
  · rw [Kept, same]
    exact kept
  · exact absurd sidecar spot.dataPath_ne_sidecarPath
  · refine .inr ⟨fun sparing => ?_, gone⟩
    rcases kept with present | ⟨not, _⟩
    · apply differs sparing
      rw [FileSystem.bytes, present]
    · exact not sparing

/-- A lookup's operation, if it does not remove the data that is spared. -/
theorem Lookup.swept {op : FsOp} {machine : Machine} (lookup : spot.Lookup op)
    (spares : op = .removeFile spot.dataPath → spared →
      machine.files.bytes spot.dataPath ≠ some bytes) :
    spot.Swept bytes spared machine.files (op.perform clock machine).2.files := by
  cases op with
  | removeFile path =>
      have removes : ∀ queried, (machine.files.removeFile path).2 queried =
          machine.files queried ∨
          (machine.files.removeFile path).2 queried = none ∧ queried = path := by
        intro queried
        rw [FileSystem.removeFile]
        split
        case h_1 =>
            by_cases same : queried = path
            case pos => exact .inr ⟨same ▸ Function.update_self .., same⟩
            case neg => exact .inl (Function.update_of_ne same ..)
        case h_2 => exact .inl rfl
        case h_3 => exact .inl rfl
      intro queried
      rcases removes queried with same | ⟨gone, rfl⟩
      · exact .inl same
      · rcases lookup with data | sidecar
        · exact .inr ⟨gone, .inr ⟨data, spares (congrArg FsOp.removeFile data)⟩⟩
        · exact .inr ⟨gone, .inl sidecar⟩
  | metadata path => exact .refl
  | read path => exact .refl
  | canonicalize path => exact .refl
  | systemTime => exact .refl
  | createDirAll path => exact lookup.elim
  | createFile path => exact lookup.elim
  | writeAll path data => exact lookup.elim
  | syncAll path => exact lookup.elim
  | rename source target => exact lookup.elim
  | fetchAddCounter => exact lookup.elim

end Sweeping

theorem perform_steps (op : FsOp) (machine : Machine) :
    (op.perform clock machine).2.steps = machine.steps + 1 := by
  cases op <;> rfl

/-- The outcome of a step that failed with a context, or did not. -/
def told {α : Type} (text : String) : Except IoError α → Outcome Failure α
  | .ok value => .ok value
  | .error cause => Outcome.fail ((Failure.message cause.toString).context text)

theorem safe_context {discipline : Discipline Caller FsOp FsOp.Reply Machine} {caller : Caller}
    {α : Type} {text : String} {program : FsProgram (Except IoError α)}
    {post : Outcome Failure α → Machine → Prop} {machine : Machine}
    (safe : discipline.Safe caller (fun outcome => post (told text outcome)) program machine) :
    discipline.Safe caller post (FsM.context text program).run machine := by
  have mapped : (FsM.context text program).run = told text <$> program := by
    rw [FsM.context, ExceptT.run_mk, map_eq_pure_bind]
    congr 1
    funext outcome
    cases outcome <;> rfl
  rw [mapped]
  exact safe.map

variable (uploader : Caller) (bytes : List UInt8) (spared : Prop) (start : Nat)

/-- The upload relies on the others to be lookups, and to spare its bytes if so agreed. -/
def uploading : Discipline Caller FsOp FsOp.Reply Machine where
  handler _ := FsOp.perform clock
  permitted caller op machine := caller ≠ uploader → op = .removeFile spot.dataPath → spared →
    machine.files.bytes spot.dataPath ≠ some bytes
  invariant machine := Ready spot.shard machine.files ∧ start ≤ machine.steps
  rely caller before after := caller = uploader →
    spot.Swept bytes spared before.files after.files ∧ before.steps ≤ after.steps
  rely_refl _ _ _ := ⟨.refl, le_refl _⟩
  rely_trans first second same :=
    ⟨(first same).1.trans (second same).1, (first same).2.trans (second same).2⟩

section Uploading

variable {uploader : Caller} {bytes : List UInt8} {spared : Prop} {start : Nat}
  {machine : Machine}

theorem perform_keeps {op : FsOp} (own : spot.Own op)
    (kept : Ready spot.shard machine.files ∧ start ≤ machine.steps) :
    Ready spot.shard (op.perform clock machine).2.files ∧
      start ≤ (op.perform clock machine).2.steps := by
  refine ⟨kept.1.perform clock (own.inShards spot.inside), ?_⟩
  rw [perform_steps]
  exact kept.2.trans (Nat.le_succ _)

/-- An operation of the upload: the others may have acted before it and after it. -/
theorem safe_perform {op : FsOp} {post : op.Reply → Machine → Prop} (own : spot.Own op)
    (holds : ∀ earlier later : Machine, Ready spot.shard earlier.files →
      start ≤ earlier.steps → spot.Swept bytes spared machine.files earlier.files →
      earlier.steps < later.steps →
      spot.Swept bytes spared (op.perform clock earlier).2.files later.files →
      post (op.perform clock earlier).1 later) :
    (spot.uploading clock uploader bytes spared start).Safe uploader post
      (Program.perform op) machine := by
  intro earlier before kept _
  refine ⟨spot.perform_keeps clock own kept, fun other different same => absurd same different, ?_⟩
  intro later after _
  have moved : (op.perform clock earlier).2.steps ≤ later.steps := (after rfl).2
  rw [perform_steps] at moved
  exact holds earlier later kept.1 kept.2 (before rfl).1 moved (after rfl).1

/-- A temp file with these contents, in a directory that is there. -/
structure Staging (path : Path) (contents : List UInt8) (files : FileSystem) : Prop where
  present : files spot.dir = some .directory
  holds : files path = some (.file contents)

theorem dir_ne (name : List Char) : spot.dir ≠ spot.dir ++ [name] := by
  intro same
  have lengths := congrArg List.length same
  rw [List.length_append, List.length_singleton] at lengths
  omega

variable {spot} in
theorem Swept.present {before after : FileSystem}
    (swept : spot.Swept bytes spared before after)
    (present : before spot.dir = some .directory) : after spot.dir = some .directory :=
  (swept.untouched (spot.dir_ne _) (spot.dir_ne _)).trans present

variable {spot} in
theorem Aside.untouched {path : Path} (aside : spot.Aside path) {before after : FileSystem}
    (swept : spot.Swept bytes spared before after) : after path = before path := by
  obtain ⟨name, -, rfl, notData, notSidecar⟩ := aside.named
  apply swept.untouched
  · simpa [dataPath] using notData
  · simpa [sidecarPath] using notSidecar

variable {spot} in
theorem Staging.swept {path : Path} {contents : List UInt8} {before after : FileSystem}
    (staging : spot.Staging path contents before) (aside : spot.Aside path)
    (swept : spot.Swept bytes spared before after) : spot.Staging path contents after :=
  ⟨swept.present staging.present, (aside.untouched swept).trans staging.holds⟩

/-! ### Staging -/

variable (holds : Ready spot.shard machine.files ∧ start ≤ machine.steps)

theorem createFile_complete {files : FileSystem} {name : List Char}
    (ready : Ready spot.shard files) (present : files spot.dir = some .directory) :
    files.createFile (spot.dir ++ [name]) =
      (.ok (), Function.update files (spot.dir ++ [name]) (some (.file []))) := by
  have regular : files (spot.dir ++ [name]) ≠ some .directory := ready.regular spot.inside
  simp only [FileSystem.createFile, List.dropLast_concat, present, ne_eq, not_true, if_false,
    if_neg regular]

variable {spot} in
theorem Aside.staging {path : Path} {contents : List UInt8} (aside : spot.Aside path)
    {files : FileSystem} (present : files spot.dir = some .directory) :
    spot.Staging path contents (Function.update files path (some (.file contents))) := by
  obtain ⟨name, -, rfl, -⟩ := aside.named
  refine ⟨?_, Function.update_self ..⟩
  rw [Function.update_of_ne (spot.dir_ne name)]
  exact present

include holds in
/-- Staging a file next to the key's files succeeds. -/
theorem safe_stage {path : Path} (aside : spot.Aside path) (contents : List UInt8)
    (present : machine.files spot.dir = some .directory) :
    (spot.uploading clock uploader bytes spared start).Safe uploader
      (fun outcome left => outcome = .ok () ∧ spot.Staging path contents left.files)
      (stage path contents).run machine := by
  have behind := aside.behind contents
  have created : (spot.uploading clock uploader bytes spared start).Safe uploader
      (fun outcome left => outcome = .ok () ∧ spot.Staging path [] left.files)
      (FsM.context "Failed to create temp file for atomic write" (Fs.createFile path)).run
      machine := by
    apply safe_context
    apply spot.safe_perform clock behind.1.1
    intro earlier later ready _ before _ after
    have there := before.present present
    have made : earlier.files.createFile path =
        (.ok (), Function.update earlier.files path (some (.file []))) := by
      obtain ⟨name, -, rfl, -⟩ := aside.named
      exact spot.createFile_complete ready there
    simp only [FsOp.perform, made] at after ⊢
    exact ⟨rfl, (aside.staging there).swept aside after⟩
  have written : ∀ earlier : Machine, spot.Staging path [] earlier.files →
      (spot.uploading clock uploader bytes spared start).Safe uploader
        (fun outcome left => outcome = .ok () ∧ spot.Staging path contents left.files)
        (FsM.context "Failed to write image to temp file" (Fs.writeAll path contents)).run
        earlier := by
    intro middle staged
    apply safe_context
    apply spot.safe_perform clock behind.2.1.1
    intro earlier later _ _ before _ after
    have staged := staged.swept aside before
    have wrote : earlier.files.writeAll path contents =
        Function.update earlier.files path (some (.file contents)) := by
      simp only [FileSystem.writeAll, staged.holds]
    simp only [FsOp.perform, wrote] at after
    exact ⟨rfl, (aside.staging staged.present).swept aside after⟩
  have synced : ∀ earlier : Machine, spot.Staging path contents earlier.files →
      (spot.uploading clock uploader bytes spared start).Safe uploader
        (fun outcome left => outcome = .ok () ∧ spot.Staging path contents left.files)
        (FsM.context "Failed to fsync temp file" (Fs.syncAll path)).run earlier := by
    intro middle staged
    apply safe_context
    apply spot.safe_perform clock behind.2.2.1.1
    intro earlier later _ _ before _ after
    exact ⟨rfl, (staged.swept aside before).swept aside after⟩
  rw [stage]
  refine created.bindExcept (fun _ middle kept made => ?_) (fun _ _ _ made => ?_) holds
  · refine (written middle made.2).bindExcept (fun _ last _ wrote => synced last wrote.2)
      (fun _ _ _ wrote => ?_) kept
    cases wrote.1
  · cases made.1

/-- Operations that leave all files alone. -/
def Idle : FsOp → Prop
  | .systemTime | .fetchAddCounter | .canonicalize _ => True
  | _ => False

theorem idle_files {op : FsOp} (idle : Idle op) (machine : Machine) :
    (op.perform clock machine).2.files = machine.files := by
  cases op with
  | systemTime => rfl
  | fetchAddCounter => rfl
  | canonicalize path => rfl
  | createDirAll path => exact idle.elim
  | createFile path => exact idle.elim
  | writeAll path data => exact idle.elim
  | syncAll path => exact idle.elim
  | rename source target => exact idle.elim
  | removeFile path => exact idle.elim
  | metadata path => exact idle.elim
  | read path => exact idle.elim

theorem Idle.own {op : FsOp} (idle : Idle op) : spot.Own op := by
  cases op with
  | systemTime => trivial
  | fetchAddCounter => trivial
  | canonicalize path => trivial
  | createDirAll path => exact idle.elim
  | createFile path => exact idle.elim
  | writeAll path data => exact idle.elim
  | syncAll path => exact idle.elim
  | rename source target => exact idle.elim
  | removeFile path => exact idle.elim
  | metadata path => exact idle.elim
  | read path => exact idle.elim

/-- Meanwhile the directory stays. -/
theorem safe_idle {α : Type} {returns : α → Prop} {program : FsProgram α}
    (uses : program.Uses Idle returns) (present : machine.files spot.dir = some .directory) :
    (spot.uploading clock uploader bytes spared start).Safe uploader
      (fun value left => returns value ∧ left.files spot.dir = some .directory) program
      machine := by
  have stable : ∀ before after : Machine,
      (spot.uploading clock uploader bytes spared start).rely uploader before after →
      before.files spot.dir = some .directory → after.files spot.dir = some .directory :=
    fun _ _ relied there => (relied rfl).1.present there
  refine Discipline.Safe.of_uses stable (fun op world idle kept _ there => ⟨?_, ?_, ?_⟩) uses
    present
  · exact spot.perform_keeps clock (Idle.own spot idle) kept
  · exact fun other different same => absurd same different
  · exact (congrFun (idle_files clock idle world) spot.dir).trans there

include holds in
theorem safe_stageAs {finalName : List Char}
    (temp : ∀ path, IsTempPath spot.dir finalName path → spot.Aside path)
    (contents : List UInt8) (present : machine.files spot.dir = some .directory) :
    (spot.uploading clock uploader bytes spared start).Safe uploader
      (fun staged left => staged.2 = .ok () ∧ spot.Aside staged.1 ∧
        spot.Staging staged.1 contents left.files)
      (stageAs storage spot.dir finalName contents) machine := by
  have named : (tempFileName storage finalName).Uses Idle (IsTempName finalName) :=
    uses_tempFileName trivial trivial
  rw [stageAs]
  refine (spot.safe_idle clock named present).bind (fun name middle kept known => ?_) holds
  have aside := temp _ ⟨name, known.1, rfl⟩
  rw [bind_pure_comp]
  apply Discipline.Safe.map
  exact (spot.safe_stage clock kept aside contents known.2).weaken
    fun outcome left _ made => ⟨made.1, aside, made.2⟩

include holds in
/-- If the staging of an upload succeeds, its bytes are next to the key's files. -/
theorem safe_stageUpload :
    (spot.uploading clock uploader bytes spared start).Safe uploader
      (fun outcome left => ∀ path, outcome = .ok path →
        spot.Aside path ∧ spot.Staging path bytes left.files)
      (stageUpload storage key spot.dataPath spot.dir bytes).run machine := by
  have lastName : spot.dataPath.getLast? = some spot.name := by simp [dataPath]
  have made : (spot.uploading clock uploader bytes spared start).Safe uploader
      (fun outcome left => outcome = .ok () → left.files spot.dir = some .directory)
      (FsM.context "Failed to create a local storage directory"
        (Fs.createDirAll spot.dir)).run machine := by
    apply safe_context
    apply spot.safe_perform clock spot.behind_createDirAll.1
    intro earlier later ready _ _ _ after succeeded
    have there : (earlier.files.createDirAll spot.dir).2 spot.dir = some .directory := by
      rw [ready.createDirAll_eq spot.inside]
      exact if_pos (List.prefix_refl _)
    exact after.present there
  have found : ∀ text path (middle : Machine), middle.files spot.dir = some .directory →
      (spot.uploading clock uploader bytes spared start).Safe uploader
        (fun outcome left => True ∧ left.files spot.dir = some .directory)
        (FsM.context text (Fs.canonicalize path)).run middle :=
    fun text path middle => spot.safe_idle clock
      (FsM.uses_context (Program.uses_perform trivial))
  have failed : ∀ (stop : Stop Failure) (left : Machine),
      (spot.uploading clock uploader bytes spared start).Safe uploader
        (fun (outcome : Outcome Failure Path) left => ∀ path, outcome = .ok path →
          spot.Aside path ∧ spot.Staging path bytes left.files)
        (.done (.error stop)) left := by
    intro stop left later _ _ path same
    cases same
  rw [stageUpload]
  refine made.bindExcept (fun _ left₁ kept₁ there => ?_) (fun stop left _ _ => failed stop left) holds
  refine (found _ storage.basePath left₁ (there rfl)).bindExcept
    (fun base left₂ kept₂ there => ?_) (fun stop left _ _ => failed stop left) kept₁
  refine (found _ spot.dir left₂ there.2).bindExcept
    (fun parent left₃ kept₃ there => ?_) (fun stop left _ _ => failed stop left) kept₂
  split
  case isFalse => exact failed _ left₃
  case isTrue =>
      rw [lastName, FsM.required_some_bind, ExceptT.run_bind_lift]
      refine (spot.safe_stageAs clock kept₃ (fun _ temp => spot.aside_of_temp temp) bytes
        there.2).bind (fun staged left₄ kept₄ known => ?_) kept₃
      obtain ⟨path, outcome⟩ := staged
      obtain ⟨rfl, aside, staging⟩ := known
      intro later relied _ written same
      obtain rfl := Except.ok.inj same
      exact ⟨aside, staging.swept aside (relied rfl).1⟩

/-! ### Committing -/

/-- The key has these bytes, unless they were not spared, and no other expiry. -/
structure Stored (bytes : List UInt8) (expiry : Option Nat) (spared : Prop)
    (files : FileSystem) : Prop where
  kept : spot.Kept bytes spared files
  sidecar : expiryAt files spot.sidecarPath = none ∨
    expiryAt files spot.sidecarPath = expiry

variable {spot} in
theorem Swept.stored {expiry : Option Nat} {before after : FileSystem}
    (swept : spot.Swept bytes spared before after)
    (stored : spot.Stored bytes expiry spared before) :
    spot.Stored bytes expiry spared after := by
  refine ⟨swept.kept stored.kept, ?_⟩
  rcases swept.sidecar with same | gone
  · have unchanged : expiryAt after spot.sidecarPath = expiryAt before spot.sidecarPath := by
      rw [expiryAt, FileSystem.bytes, same, ← FileSystem.bytes, ← expiryAt]
    rw [unchanged]
    exact stored.sidecar
  · left
    rw [expiryAt, FileSystem.bytes, gone]
    rfl

variable {spot} in
theorem Aside.own_rename {path : Path} {new : List Char} (aside : spot.Aside path)
    (own : IsOwnName spot.name new) : spot.Own (.rename path (spot.dir ++ [new])) := by
  obtain ⟨name, named, rfl, -⟩ := aside.named
  exact ⟨name, new, named, own, rfl, rfl⟩

/-- Renaming a staged file to one of the key's names succeeds. -/
theorem rename_staged {path : Path} {contents : List UInt8} {files : FileSystem}
    (new : List Char) (aside : spot.Aside path) (ready : Ready spot.shard files)
    (staged : spot.Staging path contents files) :
    files.rename path (spot.dir ++ [new]) =
      (.ok (), Function.update (Function.update files path none) (spot.dir ++ [new])
        (some (.file contents))) := by
  obtain ⟨name, -, rfl, -⟩ := aside.named
  exact spot.rename_complete ready staged.holds

/-- The rename of the data is the commit point of the upload. -/
theorem safe_commit {path : Path} (text : String) (aside : spot.Aside path)
    (staged : spot.Staging path bytes machine.files) :
    (spot.uploading clock uploader bytes spared start).Safe uploader
      (fun outcome left => outcome = .ok () ∧ spot.Kept bytes spared left.files ∧
        left.files spot.dir = some .directory)
      (FsM.context text (Fs.rename path spot.dataPath)).run machine := by
  have own : spot.Own (.rename path spot.dataPath) := aside.own_rename (.inl rfl)
  apply safe_context
  apply spot.safe_perform clock own
  intro earlier later ready _ before _ after
  have staged := staged.swept aside before
  have moved := spot.rename_staged spot.name aside ready staged
  have different : path ≠ spot.dir := by
    obtain ⟨name, -, rfl, -⟩ := aside.named
    exact (spot.dir_ne name).symm
  rw [← dataPath] at moved
  simp only [FsOp.perform, moved] at after ⊢
  refine ⟨rfl, after.kept (.inl (Function.update_self ..)), after.present ?_⟩
  rw [Machine.leaving_files, dataPath, Function.update_of_ne (spot.dir_ne _),
    Function.update_of_ne different.symm]
  exact staged.present

include holds in
/-- The update of the sidecar leaves the expiry asked for, or none. -/
theorem safe_replaceSidecar (now : Instant) (ttl : Duration)
    (present : machine.files spot.dir = some .directory)
    (kept : spot.Kept bytes spared machine.files) :
    (spot.uploading clock uploader bytes spared start).Safe uploader
      (fun _ left => spot.Stored bytes (requested now (some ttl)) spared left.files)
      (spot.replaceSidecar (encodeUtf8 (decimal (expiresAtSecs now ttl)))) machine := by
  have keeps : (spot.uploading clock uploader bytes spared start).Safe uploader
      (fun staged left => IsTempPath spot.dir (spot.name ++ expiresSuffix) staged.1 ∧
        spot.Kept bytes spared left.files)
      (stageAs storage spot.dir (spot.name ++ expiresSuffix)
        (encodeUtf8 (decimal (expiresAtSecs now ttl)))) machine := by
    have stable : ∀ before after : Machine,
        (spot.uploading clock uploader bytes spared start).rely uploader before after →
        spot.Kept bytes spared before.files → spot.Kept bytes spared after.files :=
      fun _ _ relied held => (relied rfl).1.kept held
    refine Discipline.Safe.of_uses stable (fun op world behind ready _ held => ⟨?_, ?_, ?_⟩)
      (spot.uses_stageSidecar _) kept
    · exact spot.perform_keeps clock behind.1 ready
    · exact fun other different same => absurd same different
    · have spares : (op.perform clock world).2.files spot.dataPath = world.files spot.dataPath :=
        behind.2.1.perform clock world
      exact held.imp spares.trans (And.imp id spares.trans)
  have staged := (spot.safe_stageAs clock holds (fun _ temp => spot.aside_of_sidecarTemp temp)
    (encodeUtf8 (decimal (expiresAtSecs now ttl))) present).and keeps
  rw [replaceSidecar]
  refine staged.bind (fun result middle ready known => ?_) holds
  obtain ⟨path, outcome⟩ := result
  obtain ⟨⟨rfl, aside, staging⟩, -, held⟩ := known
  dsimp only at aside staging ⊢
  have own : spot.Own (.rename path spot.sidecarPath) := aside.own_rename (.inr (.inl rfl))
  rw [bind_pure_comp]
  apply Discipline.Safe.map
  apply spot.safe_perform clock own
  intro earlier later ready _ before _ after
  have staging := staging.swept aside before
  have moved := spot.rename_staged (spot.name ++ expiresSuffix) aside ready staging
  rw [← sidecarPath] at moved
  have apart : path ≠ spot.dataPath := by
    obtain ⟨name, -, rfl, notData, -⟩ := aside.named
    simpa [dataPath] using notData
  simp only [FsOp.perform, moved] at after
  refine after.stored ⟨?_, .inr ?_⟩
  · rw [Machine.leaving_files, Kept, Function.update_of_ne spot.dataPath_ne_sidecarPath,
      Function.update_of_ne apart.symm]
    exact before.kept held
  · rw [Machine.leaving_files, expiryAt, FileSystem.bytes, Function.update_self]
    exact parseExpiry_recorded now ttl

/-- The time does not go back. -/
theorem safe_later {α : Type} {returns : α → Prop} {program : FsProgram α} {earliest : Nat}
    (uses : program.Uses spot.Own returns) (reached : earliest ≤ machine.steps) :
    (spot.uploading clock uploader bytes spared start).Safe uploader
      (fun value left => returns value ∧ earliest ≤ left.steps) program machine := by
  have stable : ∀ before after : Machine,
      (spot.uploading clock uploader bytes spared start).rely uploader before after →
      earliest ≤ before.steps → earliest ≤ after.steps :=
    fun _ _ relied passed => passed.trans (relied rfl).2
  refine Discipline.Safe.of_uses stable (fun op world own kept _ passed => ⟨?_, ?_, ?_⟩) uses
    reached
  · exact spot.perform_keeps clock own kept
  · exact fun other different same => absurd same different
  · have one : (op.perform clock world).2.steps = world.steps + 1 := perform_steps ..
    exact passed.trans (one ▸ Nat.le_succ _)

/-- What an upload has achieved once it returned: it read the clock, if at all, at one of
its operations. -/
def Completed (bytes : List UInt8) (ttl : Option Duration) (spared : Prop) (start : Nat)
    (machine : Machine) : Prop :=
  ∃ reading, start ≤ reading ∧ reading < machine.steps ∧
    spot.Stored bytes (requested (clock reading) ttl) spared machine.files

include holds in
theorem safe_recordExpiry (ttl : Option Duration)
    (present : machine.files spot.dir = some .directory)
    (kept : spot.Kept bytes spared machine.files) :
    (spot.uploading clock uploader bytes spared start).Safe uploader
      (fun _ left => spot.Completed clock bytes ttl spared start left)
      (recordExpiry storage spot.dir spot.sidecarPath ttl) machine := by
  cases ttl with
  | none =>
      have own : spot.Own (.removeFile spot.sidecarPath) := ⟨_, .inr (.inl rfl), rfl⟩
      rw [recordExpiry, bind_pure_comp]
      apply Discipline.Safe.map
      apply spot.safe_perform clock own
      intro earlier later ready from_ before moved after
      have regular : earlier.files spot.sidecarPath ≠ some .directory := ready.regular spot.inside
      obtain ⟨reply, removed, -⟩ := FileSystem.removeFile_regular regular
      simp only [FsOp.perform, removed] at after
      refine ⟨earlier.steps, from_, moved, after.stored ⟨?_, .inl ?_⟩⟩
      · rw [Machine.leaving_files, Kept, Function.update_of_ne spot.dataPath_ne_sidecarPath]
        exact before.kept kept
      · rw [Machine.leaving_files, expiryAt, FileSystem.bytes, Function.update_self]
        rfl
  | some ttl =>
      have uses := spot.uses_recordExpiry (some ttl)
      rw [spot.recordExpiry_some, Program.perform_bind] at uses
      rw [spot.recordExpiry_some]
      have read : (spot.uploading clock uploader bytes spared start).Safe uploader
          (fun now left => ∃ reading, start ≤ reading ∧ reading < left.steps ∧
            now = clock reading ∧ spot.Kept bytes spared left.files ∧
            left.files spot.dir = some .directory) Fs.systemTime machine := by
        have own : spot.Own .systemTime := trivial
        apply spot.safe_perform clock own
        intro earlier later _ from_ before moved after
        have whole := before.trans after
        exact ⟨earlier.steps, from_, moved, rfl, whole.kept kept, whole.present present⟩
      refine read.bind (fun now middle ready known => ?_) holds
      obtain ⟨reading, from_, passed, rfl, held, there⟩ := known
      have own := Program.uses_mono (fun _ behind => behind.1) (uses.2 (clock reading))
      exact ((spot.safe_replaceSidecar clock ready (clock reading) ttl there held).and
        (spot.safe_later clock own passed)).weaken
          fun _ _ _ both => ⟨reading, from_, both.2.2, both.1⟩

include holds in
/-- However the others' lookups fall between its operations, an upload that returns has
stored its bytes and the expiry asked for. -/
theorem safe_upload (contentType : String) (ttl : Option Duration) :
    (spot.uploading clock uploader bytes spared start).Safe uploader
      (fun outcome left => outcome = .ok .stored →
        spot.Completed clock bytes ttl spared start left)
      ((KeyCall.upload contentType bytes ttl).code storage key) machine := by
  have failed : ∀ (stop : Stop Failure) (left : Machine),
      (spot.uploading clock uploader bytes spared start).Safe uploader
        (fun (outcome : Outcome Failure Unit) left => outcome = .ok () →
          spot.Completed clock bytes ttl spared start left)
        (.done (.error stop)) left := by
    intro stop left later _ _ same
    cases same
  have uploaded : (spot.uploading clock uploader bytes spared start).Safe uploader
      (fun outcome left => outcome = .ok () → spot.Completed clock bytes ttl spared start left)
      (uploadImageWithTtl storage key contentType bytes ttl).run machine := by
    rw [spot.upload_eq]
    refine (spot.safe_stageUpload clock holds).bindExcept (fun path left₁ kept₁ known => ?_)
      (fun stop left _ _ => failed stop left) holds
    obtain ⟨aside, staged⟩ := known path rfl
    refine (spot.safe_commit clock _ aside staged).bindExcept (fun _ left₂ kept₂ known => ?_)
      (fun stop left _ _ => failed stop left) kept₁
    rw [ExceptT.run_lift]
    apply Discipline.Safe.map
    exact (spot.safe_recordExpiry clock kept₂ ttl known.2.2 known.2.1).weaken
      fun _ _ _ stored _ => stored
  have answered : (KeyCall.upload contentType bytes ttl).code storage key =
      (Except.map fun _ => KeyAnswer.stored) <$>
        (uploadImageWithTtl storage key contentType bytes ttl).run := by
    rw [KeyCall.code, bind_pure_comp, ExceptT.run_map]
  rw [answered]
  apply Discipline.Safe.map
  refine uploaded.weaken fun outcome left _ known same => known ?_
  cases outcome with
  | ok _ => rfl
  | error stop => cases same

end Uploading

end Located

end ImageResizer.Storage
