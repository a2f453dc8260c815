import ImageResizer.Storage.Concurrent

/-!
# Lookups after an upload

A lookup that starts after an upload returned answers with what that upload stored, until
the expiry of the entry is reached or a later upload starts.  The one exception is due to
lookups that started earlier: such a lookup may have read the expiry of an older upload,
and then removes what it finds.
-/

namespace ImageResizer.Storage

open Resumption Transition

variable {Caller : Type} {storage : LocalFSStorage} {key : List Char}
  (spot : Located storage key) (clock : Nat → Instant) (calls : Caller → KeyCall)

namespace Located

/-! ## One lookup -/

/-- Nothing but lookups: those of the later callers go by what the upload stored, and the
others spare its bytes if so agreed. -/
def settled (bytes : List UInt8) (expiry : Option Nat) (spared : Prop) (later : Caller → Prop) :
    Discipline Caller FsOp FsOp.Reply Machine where
  handler _ := FsOp.perform clock
  permitted caller op machine := spared →
    (¬ later caller → op = .removeFile spot.dataPath →
      machine.files.bytes spot.dataPath ≠ some bytes) ∧
      (op = .systemTime → Entry.live ⟨bytes, expiry⟩ (clock machine.steps))
  invariant machine := Ready spot.shard machine.files ∧
    spot.Stored bytes expiry spared machine.files
  rely _ _ _ := True
  rely_refl _ _ := trivial
  rely_trans _ _ := trivial

section Settled

variable {bytes : List UInt8} {expiry : Option Nat} {spared : Prop} {later : Caller → Prop}
  {caller : Caller} {machine : Machine}

theorem settled_keeps {op : FsOp} (lookup : spot.Lookup op)
    (spares : op = .removeFile spot.dataPath → spared →
      machine.files.bytes spot.dataPath ≠ some bytes)
    (kept : Ready spot.shard machine.files ∧ spot.Stored bytes expiry spared machine.files) :
    Ready spot.shard (op.perform clock machine).2.files ∧
      spot.Stored bytes expiry spared (op.perform clock machine).2.files := by
  exact ⟨kept.1.perform clock (lookup.own.inShards spot.inside),
    (lookup.swept clock spares).stored kept.2⟩

theorem settled_perform {op : FsOp} {post : op.Reply → Prop} (lookup : spot.Lookup op)
    (spares : op = .removeFile spot.dataPath → ¬ spared)
    (holds : ∀ earlier : Machine, Ready spot.shard earlier.files →
      spot.Stored bytes expiry spared earlier.files →
      (spared → op = .systemTime → Entry.live ⟨bytes, expiry⟩ (clock earlier.steps)) →
      post (op.perform clock earlier).1) :
    (spot.settled clock bytes expiry spared later).Safe caller (fun reply _ => post reply)
      (Program.perform op) machine := by
  intro earlier _ kept allowed
  have frees : op = .removeFile spot.dataPath → spared →
      earlier.files.bytes spot.dataPath ≠ some bytes :=
    fun removes sparing => absurd sparing (spares removes)
  refine ⟨spot.settled_keeps clock lookup frees kept, fun _ _ => trivial, fun _ _ _ => ?_⟩
  exact holds earlier kept.1 kept.2 fun sparing => (allowed sparing).2

/-- An earlier lookup goes on as it likes, and so does any if nothing is spared. -/
theorem settled_of_uses {α : Type} {returns : α → Prop} {program : FsProgram α}
    (free : later caller → ¬ spared) (uses : program.Uses spot.Lookup returns) :
    (spot.settled clock bytes expiry spared later).Safe caller (fun value _ => returns value)
      program machine := by
  have safe : (spot.settled clock bytes expiry spared later).Safe caller
      (fun value _ => returns value ∧ True) program machine := by
    apply Discipline.Safe.of_uses (fun _ _ _ _ => trivial) _ uses trivial
    intro op world lookup kept allowed _
    refine ⟨spot.settled_keeps clock lookup (fun removes sparing => ?_) kept, fun _ _ => trivial,
      trivial⟩
    exact (allowed sparing).1 (fun late => free late sparing) removes
  exact safe.weaken fun _ _ _ known => known.1

/-- The value if it is spared, and otherwise that or a failure. -/
def Answered {α : Type} (spared : Prop) (value : α) (outcome : Outcome Failure α) : Prop :=
  (spared → outcome = .ok value) ∧
    (outcome = .ok value ∨ ∃ failure, outcome = Outcome.fail failure)

theorem answered_ok {α : Type} (value : α) : Answered spared value (.ok value) :=
  ⟨fun _ => rfl, .inl rfl⟩

/-- Only a value that is not spared may be missing. -/
theorem answered_missing {α : Type} (text : String) (value : α) (cause : IoError)
    (free : ¬ spared) : Answered spared value (told text (.error cause)) :=
  ⟨fun sparing => absurd sparing free, .inr ⟨_, rfl⟩⟩

/-- One answer after another. -/
theorem answered_bind {α β : Type} {first : FsM α} {rest : α → FsM β} {value : α} {last : β}
    (holds : Ready spot.shard machine.files ∧ spot.Stored bytes expiry spared machine.files)
    (safe : (spot.settled clock bytes expiry spared later).Safe caller
      (fun outcome _ => Answered spared value outcome) first.run machine)
    (onward : ∀ middle : Machine, Ready spot.shard middle.files ∧
      spot.Stored bytes expiry spared middle.files →
      (spot.settled clock bytes expiry spared later).Safe caller
        (fun outcome _ => Answered spared last outcome) (rest value).run middle) :
    (spot.settled clock bytes expiry spared later).Safe caller
      (fun outcome _ => Answered spared last outcome) (first >>= rest).run machine := by
  refine safe.bindExcept (fun got middle kept known => ?_) (fun stop middle _ known => ?_) holds
  · rcases known.2 with same | ⟨failure, same⟩
    · obtain rfl := Except.ok.inj same
      exact onward middle kept
    · cases same
  · rcases known.2 with same | ⟨failure, same⟩
    · cases same
    · have stopped : ¬ spared := fun sparing => by cases known.1 sparing
      refine fun _ _ _ => ⟨fun sparing => absurd sparing stopped, .inr ⟨failure, ?_⟩⟩
      obtain rfl := Except.error.inj same
      rfl

theorem settled_metadata (text : String) :
    (spot.settled clock bytes expiry spared later).Safe caller
      (fun outcome _ => Answered spared true outcome)
      (FsM.context text (Fs.metadata spot.dataPath)).run machine := by
  have lookup : spot.Lookup (.metadata spot.dataPath) := trivial
  apply safe_context
  apply spot.settled_perform clock lookup (fun removes => by cases removes)
  intro earlier _ stored _
  rcases stored.kept with present | ⟨not, absent⟩
  · simp only [FsOp.perform, FileSystem.metadata, present]
    exact answered_ok true
  · simp only [FsOp.perform, FileSystem.metadata, absent]
    exact answered_missing _ _ _ not

theorem settled_read (text : String) :
    (spot.settled clock bytes expiry spared later).Safe caller
      (fun outcome _ => Answered spared bytes outcome)
      (FsM.context text (Fs.read spot.dataPath)).run machine := by
  have lookup : spot.Lookup (.read spot.dataPath) := trivial
  apply safe_context
  apply spot.settled_perform clock lookup (fun removes => by cases removes)
  intro earlier _ stored _
  rcases stored.kept with present | ⟨not, absent⟩
  · simp only [FsOp.perform, FileSystem.read, present]
    exact answered_ok bytes
  · simp only [FsOp.perform, FileSystem.read, absent]
    exact answered_missing _ _ _ not

/-- The expiry check of an entry that is spared finds it live. -/
theorem settled_isExpired
    (holds : Ready spot.shard machine.files ∧ spot.Stored bytes expiry spared machine.files) :
    (spot.settled clock bytes expiry spared later).Safe caller
      (fun expired _ => spared → expired = false) (isExpired spot.sidecarPath) machine := by
  have lookup : spot.Lookup (.read spot.sidecarPath) := trivial
  have read : (spot.settled clock bytes expiry spared later).Safe caller
      (fun (reply : Except IoError (List UInt8)) _ => ∀ second,
        reply.toOption.bind parseExpiry = some second → expiry = some second)
      (Fs.read spot.sidecarPath) machine := by
    apply spot.settled_perform clock lookup (fun removes => by cases removes)
    intro earlier _ stored _ second found
    have recorded : expiryAt earlier.files spot.sidecarPath = some second := by
      rw [expiryAt, ← FileSystem.read_toOption]
      exact found
    rcases stored.sidecar with none | same
    · cases none.symm.trans recorded
    · exact same.symm.trans recorded
  rw [isExpired]
  refine read.bind (fun reply middle _ known => ?_) holds
  cases reply with
  | error cause => exact fun _ _ _ _ => rfl
  | ok contents =>
      dsimp only
      cases parsed : parseExpiry contents with
      | none => exact fun _ _ _ _ => rfl
      | some second =>
          have own : spot.Lookup .systemTime := trivial
          dsimp only
          rw [bind_pure_comp]
          apply Discipline.Safe.map
          apply spot.settled_perform clock own (fun removes => by cases removes)
          intro earlier _ _ live sparing
          have notYet := live sparing rfl
          rw [known second parsed, Entry.live, decide_eq_true_eq] at notYet
          exact decide_eq_false (not_le.mpr notYet)

/-- A lookup that finds an entry expired found one that is not spared. -/
theorem settled_evict (free : ¬ spared) :
    (spot.settled clock bytes expiry spared later).Safe caller (fun outcome _ => outcome = .ok ())
      (FsM.ignore (delete storage key)).run machine :=
  spot.settled_of_uses clock (fun _ => free) spot.uses_evict

theorem settled_checkCache
    (holds : Ready spot.shard machine.files ∧ spot.Stored bytes expiry spared machine.files) :
    (spot.settled clock bytes expiry spared later).Safe caller
      (fun outcome _ => spared → outcome = .ok true) (checkCache storage key).run machine := by
  have lookup : spot.Lookup (.metadata spot.dataPath) := trivial
  have found : (spot.settled clock bytes expiry spared later).Safe caller
      (fun (reply : Except IoError Bool) _ => spared → reply = .ok true)
      (Fs.metadata spot.dataPath) machine := by
    apply spot.settled_perform clock lookup (fun removes => by cases removes)
    intro earlier _ stored _ sparing
    rcases stored.kept with present | ⟨not, _⟩
    · simp only [FsOp.perform, FileSystem.metadata, present]
    · exact absurd sparing not
  rw [checkCache, spot.resolve_eq, FsM.ofOutcome_ok_bind, spot.sidecarPath_eq,
    ExceptT.run_bind_lift]
  refine found.bind (fun reply middle kept known => ?_) holds
  have failed : ∀ outcome : Outcome Failure Bool, (¬ spared) →
      (spot.settled clock bytes expiry spared later).Safe caller
        (fun outcome _ => spared → outcome = .ok true) (.done outcome) middle :=
    fun _ stopped _ _ _ sparing => absurd sparing stopped
  split
  case h_1 =>
      rw [ExceptT.run_bind_lift]
      refine (spot.settled_isExpired clock kept).bind (fun expired last ready live => ?_) kept
      cases expired with
      | false => exact fun _ _ _ _ => rfl
      | true =>
          have free : ¬ spared := fun sparing => Bool.noConfusion (live sparing)
          refine (spot.settled_evict clock free).bindExcept (fun _ _ _ _ => ?_)
            (fun _ _ _ _ => ?_) ready
          · exact fun _ _ _ sparing => absurd sparing free
          · exact fun _ _ _ sparing => absurd sparing free
  case h_2 => exact failed _ fun sparing => by cases known sparing
  case h_3 => exact failed _ fun sparing => by cases known sparing
  case h_4 => exact failed _ fun sparing => by cases known sparing

/-- The path of the data is canonical and below the base, as long as it is there. -/
theorem settled_assertWithinBase
    (holds : Ready spot.shard machine.files ∧ spot.Stored bytes expiry spared machine.files) :
    (spot.settled clock bytes expiry spared later).Safe caller
      (fun outcome _ => Answered spared spot.dataPath outcome)
      (assertWithinBase storage spot.dataPath).run machine := by
  have canonical : ∀ text path (middle : Machine),
      (∀ files, Ready spot.shard files → spot.Stored bytes expiry spared files → spared →
        files path ≠ none) →
      (spot.settled clock bytes expiry spared later).Safe caller
        (fun outcome _ => Answered spared path outcome)
        (FsM.context text (Fs.canonicalize path)).run middle := by
    intro text path middle there
    have lookup : spot.Lookup (.canonicalize path) := trivial
    apply safe_context
    apply spot.settled_perform clock lookup (fun removes => by cases removes)
    intro earlier ready stored _
    cases present : earlier.files path with
    | some node =>
        simp only [FsOp.perform, FileSystem.canonicalize, present]
        exact answered_ok path
    | none =>
        have free : ¬ spared := fun sparing => there _ ready stored sparing present
        simp only [FsOp.perform, FileSystem.canonicalize, present]
        exact answered_missing _ _ _ free
  have data : ∀ files, spot.Stored bytes expiry spared files → spared →
      files spot.dataPath ≠ none := by
    intro files stored sparing
    rcases stored.kept with present | ⟨not, _⟩
    · rw [present]
      exact Option.some_ne_none _
    · exact absurd sparing not
  have base : ∀ files, Ready spot.shard files → spot.Stored bytes expiry spared files → spared →
      files storage.basePath ≠ none := by
    intro files ready stored sparing
    have below : storage.basePath <+: spot.dataPath := spot.within.trans (List.prefix_append ..)
    by_cases short : storage.basePath = spot.dataPath
    case pos => exact short ▸ data files stored sparing
    case neg =>
        rw [ready.ancestors (data files stored sparing) below short]
        exact Option.some_ne_none _
  rw [assertWithinBase]
  refine spot.answered_bind clock holds (canonical _ _ _ base) fun middle kept => ?_
  refine spot.answered_bind clock kept (canonical _ _ _ fun files _ => data files)
    fun last _ => ?_
  have below : storage.basePath <+: spot.dataPath := spot.within.trans (List.prefix_append ..)
  rw [if_pos below]
  exact fun _ _ _ => answered_ok _

theorem settled_getImage
    (holds : Ready spot.shard machine.files ∧ spot.Stored bytes expiry spared machine.files) :
    (spot.settled clock bytes expiry spared later).Safe caller
      (fun outcome _ => Answered spared bytes outcome) (getImage storage key).run machine := by
  rw [getImage, spot.resolve_eq, FsM.ofOutcome_ok_bind, spot.sidecarPath_eq]
  refine spot.answered_bind clock holds (spot.settled_metadata clock _) fun middle kept => ?_
  rw [if_pos rfl, ExceptT.run_bind_lift]
  refine (spot.settled_isExpired clock kept).bind (fun expired last ready live => ?_) kept
  cases expired with
  | false =>
      rw [if_neg Bool.false_ne_true]
      exact spot.answered_bind clock ready (spot.settled_assertWithinBase clock ready)
        fun onward _ => spot.settled_read clock _
  | true =>
      have free : ¬ spared := fun sparing => Bool.noConfusion (live sparing)
      have failed : ∀ failure, Answered spared bytes (Outcome.fail failure) :=
        fun failure => ⟨fun sparing => absurd sparing free, .inr ⟨failure, rfl⟩⟩
      rw [if_pos rfl]
      refine (spot.settled_evict clock free).bindExcept (fun _ _ _ _ => ?_)
        (fun _ _ _ stopped => ?_) ready
      · exact fun _ _ _ => failed _
      · cases stopped

theorem code_checkCache : KeyCall.checkCache.code storage key =
    (Except.map KeyAnswer.cached) <$> (checkCache storage key).run := by
  rw [KeyCall.code, bind_pure_comp, ExceptT.run_map]

theorem code_getImage : KeyCall.getImage.code storage key =
    (Except.map KeyAnswer.image) <$> (getImage storage key).run := by
  rw [KeyCall.code, bind_pure_comp, ExceptT.run_map]

/-- What a later lookup answers. -/
def Serves (bytes : List UInt8) (spared : Prop) (call : KeyCall)
    (outcome : Outcome Failure KeyAnswer) : Prop :=
  (call = .getImage → Answered spared (.image bytes) outcome) ∧
    (call = .checkCache → spared → outcome = .ok (.cached true))

theorem settled_code {call : KeyCall} (reads : call.uploads = false)
    (holds : Ready spot.shard machine.files ∧ spot.Stored bytes expiry spared machine.files) :
    (spot.settled clock bytes expiry spared later).Safe caller
      (fun outcome _ => Serves bytes spared call outcome) (call.code storage key) machine := by
  cases call with
  | upload contentType data ttl => cases reads
  | checkCache =>
      rw [code_checkCache]
      apply Discipline.Safe.map
      refine (spot.settled_checkCache clock holds).weaken fun outcome _ _ known =>
        ⟨fun reads => (by cases reads), fun _ sparing => ?_⟩
      rw [known sparing]
      rfl
  | getImage =>
      rw [code_getImage]
      apply Discipline.Safe.map
      refine (spot.settled_getImage clock holds).weaken fun outcome _ _ known =>
        ⟨fun _ => ⟨fun sparing => ?_, ?_⟩, fun checks => by cases checks⟩
      · rw [known.1 sparing]
        rfl
      · rcases known.2 with same | ⟨failure, same⟩
        · exact .inl (by rw [same]; rfl)
        · exact .inr ⟨failure, by rw [same]; rfl⟩

end Settled

/-! ## Whole runs -/

section Runs

variable {calls} {uploader : Caller} {contentType : String}
  {bytes : List UInt8} {ttl : Option Duration} {initial : Machine → Prop}
  {before begun returned last : KeyTasks Caller}

/-- A lookup beside the upload keeps to what the upload relies on. -/
theorem uploading_other {α : Type} {program : FsProgram α} {caller : Caller} {spared : Prop}
    {start : Nat} {machine : Machine} (other : caller ≠ uploader)
    (uses : program.Uses spot.Lookup fun _ => True) :
    (spot.uploading clock uploader bytes spared start).Safe caller (fun _ _ => True) program
      machine := by
  have safe : (spot.uploading clock uploader bytes spared start).Safe caller
      (fun _ _ => True ∧ True) program machine := by
    apply Discipline.Safe.of_uses (fun _ _ _ _ => trivial) _ uses trivial
    intro op world lookup kept allowed _
    refine ⟨spot.perform_keeps clock lookup.own kept, fun another _ same => ⟨?_, ?_⟩, trivial⟩
    · exact lookup.swept clock (allowed other)
    · rw [show ((spot.uploading clock uploader bytes spared start).handler caller op
        world).2.steps = world.steps + 1 from perform_steps ..]
      exact Nat.le_succ _
  exact safe.weaken fun _ _ _ _ => trivial

variable [DecidableEq Caller]

/-- When an upload starts, everyone else is at most looking the key up. -/
theorem begun_use (fits : ∀ machine, initial machine → Ready spot.shard machine.files)
    (assigned : (calls uploader).uploads)
    (reached : (keyCalls clock calls storage key initial).Reachable (Separate calls) before)
    (separate : Separate calls before (.start uploader))
    (began : (keyCalls clock calls storage key initial).step before (.start uploader) =
      some begun) :
    begun.Use fun caller op => caller ≠ uploader → spot.Lookup op := by
  obtain ⟨-, uses⟩ := spot.underway clock calls fits reached
  obtain ⟨-, rfl⟩ := started began
  intro caller program running
  dsimp only at running
  by_cases same : caller = uploader
  case pos =>
      rw [same, Function.update_self, Option.some.injEq] at running
      rw [same, ← running]
      exact Program.uses_mono (fun _ _ different => absurd rfl different)
        (spot.uses_code (calls uploader))
  case neg =>
      rw [Function.update_of_ne same] at running
      cases reads : (calls caller).uploads with
      | true =>
          obtain ⟨value, rfl⟩ := Tasks.program_of_idle running (separate assigned caller reads)
          exact trivial
      | false =>
          have kept : program.Uses (spot.Acts (calls caller)) fun _ => True :=
            uses caller program running
          rw [spot.acts_of_lookup reads] at kept
          exact Program.uses_mono (fun _ lookup _ => lookup) kept

/-- The restrictions of a run during an upload. -/
def During (calls : Caller → KeyCall) (bytes : List UInt8) (spared : Prop)
    (tasks : KeyTasks Caller) (move : Move Caller) : Prop :=
  Quiet calls tasks move ∧ (spared → spot.Undisturbed bytes (fun _ => True) tasks move)

/-- The restrictions of a run after an upload whose entry this is. -/
def Afterwards (calls : Caller → KeyCall) (entry : Entry) (spared : Prop)
    (earlier : Caller → Prop) (tasks : KeyTasks Caller) (move : Move Caller) : Prop :=
  Quiet calls tasks move ∧
    (spared → spot.Undisturbed entry.bytes earlier tasks move ∧ Unexpired clock entry tasks move)

/-- An upload that has returned has stored its bytes, and only lookups go on. -/
theorem returned_holds {spared : Prop}
    (fits : ∀ machine, initial machine → Ready spot.shard machine.files)
    (assigned : calls uploader = .upload contentType bytes ttl)
    (reached : (keyCalls clock calls storage key initial).Reachable (Separate calls) before)
    (separate : Separate calls before (.start uploader))
    (began : (keyCalls clock calls storage key initial).step before (.start uploader) =
      some begun)
    (ran : ((keyCalls clock calls storage key initial).startingAt begun).Reachable
      (spot.During calls bytes spared) returned)
    (ended : returned.result uploader = some (.ok .stored)) :
    Ready spot.shard returned.world.files ∧
      spot.Completed clock bytes ttl spared begun.world.steps returned.world ∧
      returned.Use fun _ => spot.Lookup := by
  have uploads : (calls uploader).uploads := by rw [assigned]; rfl
  have use := spot.begun_use clock fits uploads reached separate began
  have reads : ∀ tasks caller, spot.During calls bytes spared tasks (.start caller) →
      ((calls caller).code storage key).Uses spot.Lookup fun _ => True := by
    intro tasks caller during
    rw [← spot.acts_of_lookup during.1]
    exact spot.uses_code (calls caller)
  have layout := (spot.underway clock calls fits reached).1
  obtain ⟨-, same⟩ := started began
  have world : begun.world = before.world := by rw [same]
  have begins : (spot.uploading clock uploader bytes spared begun.world.steps).Holds
      (fun caller outcome left => caller = uploader → outcome = .ok .stored →
        spot.Completed clock bytes ttl spared begun.world.steps left) begun := by
    refine ⟨⟨world ▸ layout, le_refl _⟩, fun caller program running => ?_⟩
    by_cases its : caller = uploader
    case pos =>
        subst its
        have code : program = (calls caller).code storage key := by
          rw [same] at running
          dsimp only at running
          rw [Function.update_self, Option.some.injEq] at running
          exact running.symm
        rw [code, assigned]
        exact (spot.safe_upload clock ⟨world ▸ layout, le_refl _⟩ contentType ttl).weaken
          fun _ _ _ stored _ => stored
    case neg =>
        have lookups : program.Uses spot.Lookup fun _ => True :=
          Program.uses_mono (fun _ lookup => lookup its) (use caller program running)
        exact (spot.uploading_other clock its lookups).weaken fun _ _ _ _ same => absurd same its
  have within : ∀ tasks move, spot.During calls bytes spared tasks move →
      (spot.uploading clock uploader bytes spared begun.world.steps).allowed tasks move := by
    intro tasks move during
    cases move with
    | start caller => trivial
    | step caller =>
        intro op pending other removes sparing
        exact during.2 sparing trivial (removes ▸ pending)
  have starts : ∀ tasks caller, spot.During calls bytes spared tasks (.start caller) →
      (spot.uploading clock uploader bytes spared begun.world.steps).invariant tasks.world →
      (spot.uploading clock uploader bytes spared begun.world.steps).Safe caller
        (fun outcome left => caller = uploader → outcome = .ok .stored →
          spot.Completed clock bytes ttl spared begun.world.steps left)
        ((calls caller).code storage key) tasks.world := by
    intro tasks caller during _
    have other : caller ≠ uploader := by
      rintro rfl
      exact absurd uploads (by rw [during.1]; exact Bool.false_ne_true)
    exact (spot.uploading_other clock other (reads tasks caller during)).weaken
      fun _ _ _ _ same => absurd same other
  have holds := begins.run within starts ran
  refine ⟨holds.invariant.1, holds.ended ended rfl rfl, fun caller program running => ?_⟩
  by_cases its : caller = uploader
  case pos =>
      rw [its, Tasks.result_eq_some ended, Option.some.injEq] at running
      rw [← running]
      trivial
  case neg =>
      have reading : ∀ tasks caller, spot.During calls bytes spared tasks (.start caller) →
          ((calls caller).code storage key).Uses (fun op => caller ≠ uploader → spot.Lookup op)
            fun _ => True :=
        fun tasks caller during =>
          Program.uses_mono (fun _ lookup _ => lookup) (reads tasks caller during)
      exact Program.uses_mono (fun _ lookup => lookup its)
        (Tasks.Use.run reading use ran caller program running)

/-- After an upload, later lookups serve what it stored. -/
theorem last_serves {spared : Prop} {expiry : Option Nat}
    (holds : Ready spot.shard returned.world.files ∧
      spot.Stored bytes expiry spared returned.world.files)
    (use : returned.Use fun _ => spot.Lookup)
    (ran : ((keyCalls clock calls storage key initial).startingAt returned).Reachable
      (spot.Afterwards clock calls ⟨bytes, expiry⟩ spared fun caller =>
        returned.program caller ≠ none) last)
    {caller : Caller} (late : returned.program caller = none)
    {outcome : Outcome Failure KeyAnswer} (ended : last.result caller = some outcome) :
    Serves bytes spared (calls caller) outcome := by
  let later : Caller → Prop := fun caller => returned.program caller = none
  have begins : (spot.settled clock bytes expiry spared later).Holds
      (fun caller outcome _ => later caller → Serves bytes spared (calls caller) outcome)
      returned := by
    refine ⟨holds, fun caller program running => ?_⟩
    have early : ¬ later caller := by
      intro idle
      cases running.symm.trans idle
    have free : later caller → ¬ spared := fun late => absurd late early
    have safe : (spot.settled clock bytes expiry spared later).Safe caller (fun _ _ => True)
        program returned.world := spot.settled_of_uses clock free (use caller program running)
    exact safe.weaken fun _ _ _ _ late => absurd late early
  have within : ∀ tasks move, spot.Afterwards clock calls ⟨bytes, expiry⟩ spared
      (fun caller => returned.program caller ≠ none) tasks move →
      (spot.settled clock bytes expiry spared later).allowed tasks move := by
    intro tasks move after
    cases move with
    | start caller => trivial
    | step caller =>
        intro op pending sparing
        obtain ⟨undisturbed, unexpired⟩ := after.2 sparing
        exact ⟨fun early removes => undisturbed early (removes ▸ pending),
          fun reads => unexpired (reads ▸ pending)⟩
  have starts : ∀ tasks caller, spot.Afterwards clock calls ⟨bytes, expiry⟩ spared
      (fun caller => returned.program caller ≠ none) tasks (.start caller) →
      (spot.settled clock bytes expiry spared later).invariant tasks.world →
      (spot.settled clock bytes expiry spared later).Safe caller
        (fun outcome _ => later caller → Serves bytes spared (calls caller) outcome)
        ((calls caller).code storage key) tasks.world :=
    fun tasks caller after kept =>
      (spot.settled_code clock after.1 kept).weaken fun _ _ _ serves _ => serves
  exact (begins.run within starts ran).ended ended late

end Runs

/-- The runs on a host whose files are as the backend needs them. -/
def runs [DecidableEq Caller] : System (KeyTasks Caller) (Move Caller) :=
  keyCalls clock calls storage key fun machine => Ready spot.shard machine.files

end Located

/-- Once an upload has returned and no later one has started, a `get_image` that starts
afterwards returns the uploaded bytes or fails.  It returns them, and `check_cache` says
so, as long as the expiry is not reached, unless a lookup that started before the upload
returned has removed them. -/
theorem upload_survives [DecidableEq Caller] {calls : Caller → KeyCall} {uploader : Caller}
    {contentType : String} {bytes : List UInt8} {ttl : Option Duration}
    {before begun returned : KeyTasks Caller}
    (assigned : calls uploader = .upload contentType bytes ttl)
    (reached : (spot.runs clock calls).Reachable (Separate calls) before)
    (separate : Separate calls before (.start uploader))
    (began : (spot.runs clock calls).step before (.start uploader) = some begun)
    (ran : ((spot.runs clock calls).startingAt begun).Reachable (Quiet calls) returned)
    (ended : returned.result uploader = some (.ok .stored)) :
    (∀ last, ((spot.runs clock calls).startingAt returned).Reachable (Quiet calls) last →
      ∀ caller outcome, returned.program caller = none → calls caller = .getImage →
        last.result caller = some outcome →
        outcome = .ok (.image bytes) ∨ ∃ failure, outcome = Outcome.fail failure) ∧
    (((spot.runs clock calls).startingAt begun).Reachable (fun tasks move =>
        Quiet calls tasks move ∧ spot.Undisturbed bytes (fun _ => True) tasks move) returned →
      ∃ reading, begun.world.steps ≤ reading ∧ reading < returned.world.steps ∧
        ∀ last, ((spot.runs clock calls).startingAt returned).Reachable (fun tasks move =>
            Quiet calls tasks move ∧
            spot.Undisturbed bytes (fun caller => returned.program caller ≠ none) tasks move ∧
            Unexpired clock ⟨bytes, Located.requested (clock reading) ttl⟩ tasks move) last →
          ∀ caller outcome, returned.program caller = none → last.result caller = some outcome →
            (calls caller = .getImage → outcome = .ok (.image bytes)) ∧
            (calls caller = .checkCache → outcome = .ok (.cached true))) := by
  have fits : ∀ machine : Machine, Ready spot.shard machine.files →
      Ready spot.shard machine.files := fun _ ready => ready
  constructor
  · have during := ran.mono fun tasks move quiet =>
      (⟨quiet, False.elim⟩ : spot.During calls bytes False tasks move)
    obtain ⟨ready, ⟨reading, -, -, stored⟩, use⟩ :=
      spot.returned_holds clock fits assigned reached separate began during ended
    intro last onward caller outcome late reads answered
    have after := onward.mono fun tasks move quiet =>
      (⟨quiet, False.elim⟩ : spot.Afterwards clock calls
        ⟨bytes, Located.requested (clock reading) ttl⟩ False
        (fun caller => returned.program caller ≠ none) tasks move)
    exact ((spot.last_serves clock ⟨ready, stored⟩ use after late answered).1 reads).2
  · intro undisturbed
    have during := undisturbed.mono fun tasks move quiet =>
      (⟨quiet.1, fun _ => quiet.2⟩ : spot.During calls bytes True tasks move)
    obtain ⟨ready, ⟨reading, from_, until_, stored⟩, use⟩ :=
      spot.returned_holds clock fits assigned reached separate began during ended
    refine ⟨reading, from_, until_, fun last onward caller outcome late answered => ?_⟩
    have after := onward.mono fun tasks move quiet =>
      (⟨quiet.1, fun _ => quiet.2⟩ : spot.Afterwards clock calls
        ⟨bytes, Located.requested (clock reading) ttl⟩ True
        (fun caller => returned.program caller ≠ none) tasks move)
    have serves := spot.last_serves clock ⟨ready, stored⟩ use after late answered
    exact ⟨fun reads => (serves.1 reads).1 trivial, fun reads => serves.2 reads trivial⟩

/-! ### Runs that can be evaluated -/

instance [Fintype Caller] (tasks : KeyTasks Caller) :
    (move : Move Caller) → Decidable (Separate calls tasks move)
  | .start caller => inferInstanceAs (Decidable ((calls caller).uploads →
      ∀ other, (calls other).uploads → tasks.pending other = none))
  | .step _ => isTrue trivial

instance (tasks : KeyTasks Caller) : (move : Move Caller) → Decidable (Quiet calls tasks move)
  | .start caller => inferInstanceAs (Decidable ((calls caller).uploads = false))
  | .step _ => isTrue trivial

instance (entry : Entry) (tasks : KeyTasks Caller) :
    (move : Move Caller) → Decidable (Unexpired clock entry tasks move)
  | .start _ => isTrue trivial
  | .step caller => inferInstanceAs (Decidable (tasks.pending caller = some .systemTime →
      entry.live (clock tasks.world.steps)))

instance (bytes : List UInt8) (among : Caller → Prop) [DecidablePred among]
    (tasks : KeyTasks Caller) :
    (move : Move Caller) → Decidable (spot.Undisturbed bytes among tasks move)
  | .start _ => isTrue trivial
  | .step caller => inferInstanceAs (Decidable (among caller →
      tasks.pending caller = some (.removeFile spot.dataPath) →
      tasks.world.files.bytes spot.dataPath ≠ some bytes))

/-- Ten seconds after the epoch. -/
def tenSeconds : Instant := ⟨10000000000, by decide, by decide⟩

/-- Two lookups around an upload without a lifetime, and one more. -/
def aroundUpload : Fin 4 → KeyCall
  | 0 => .getImage
  | 1 => .upload "image/png" [2] none
  | 2 => .getImage
  | 3 => .checkCache

def aroundRuns : System (KeyTasks (Fin 4)) (Move (Fin 4)) :=
  sampleSpot.runs (fun _ => tenSeconds) aroundUpload

/-- Nothing has started, and the entry expired at second 5. -/
def aroundStart : KeyTasks (Fin 4) := ⟨expiringMachine, fun _ => none⟩

theorem aroundStart_reachable {restricted : KeyTasks (Fin 4) → Move (Fin 4) → Prop} :
    aroundRuns.Reachable restricted aroundStart :=
  .init ⟨sampleSpot.holding_ready [1] (some [53]), fun _ => rfl⟩

def answers (answer : KeyAnswer) (outcome : Outcome Failure KeyAnswer) : Bool :=
  outcome.toOption = some answer

def fails (outcome : Outcome Failure KeyAnswer) : Bool := outcome.toOption.isNone

theorem answers_iff {answer : KeyAnswer} {outcome : Outcome Failure KeyAnswer} :
    answers answer outcome ↔ outcome = .ok answer := by
  cases outcome with
  | ok value => simp [answers, Except.toOption]
  | error stop => simp [answers, Except.toOption]

theorem fails_iff {outcome : Outcome Failure KeyAnswer} :
    fails outcome ↔ ∃ stop, outcome = .error stop := by
  cases outcome with
  | ok value => simp [fails, Except.toOption]
  | error stop => simp [fails, Except.toOption]

/-- A lookup reads the old expiry, an upload runs from its start to its end, and the
lookup removes what was uploaded: later lookups find nothing. -/
theorem upload_lost :
    ∃ before begun returned last : KeyTasks (Fin 4),
      aroundRuns.Reachable (Separate aroundUpload) before ∧
      Separate aroundUpload before (.start 1) ∧
      aroundRuns.step before (.start 1) = some begun ∧
      (aroundRuns.startingAt begun).Reachable (Quiet aroundUpload) returned ∧
      returned.result 1 = some (.ok .stored) ∧
      (aroundRuns.startingAt returned).Reachable (Quiet aroundUpload) last ∧
      returned.program 2 = none ∧ returned.program 3 = none ∧
      (∃ stop, last.result 2 = some (.error stop)) ∧
      last.result 3 = some (.ok (.cached false)) := by
  have evaluated :
      ((aroundRuns.run (Separate aroundUpload) aroundStart
        [.start 0, .step 0, .step 0, .step 0]).any fun before =>
      decide (Separate aroundUpload before (.start 1)) &&
      (aroundRuns.step before (.start 1)).any fun begun =>
      ((aroundRuns.startingAt begun).run (Quiet aroundUpload) begun
        (List.replicate 10 (.step 1))).any fun returned =>
      (returned.result 1).any (answers .stored) &&
      (returned.program 2).isNone && (returned.program 3).isNone &&
      ((aroundRuns.startingAt returned).run (Quiet aroundUpload) returned
        [.step 0, .step 0, .start 2, .step 2, .start 3, .step 3]).any fun last =>
      (last.result 2).any fails && (last.result 3).any (answers (.cached false))) = true := by
    decide +kernel
  simp only [Option.any_eq_true, Bool.and_eq_true, decide_eq_true_eq, Option.isNone_iff_eq_none]
    at evaluated
  obtain ⟨before, reached, separate, begun, began, returned, ran, ⟨⟨⟨⟨_, stored, one⟩, two⟩,
    three⟩, last, onward, ⟨_, missing, failed⟩, ⟨_, found, cached⟩⟩⟩ := evaluated
  refine ⟨before, begun, returned, last, ?_, separate, began, ?_, ?_, ?_, two, three, ?_, ?_⟩
  · exact aroundRuns.reachable_of_run _ _ aroundStart_reachable reached
  · exact (aroundRuns.startingAt begun).reachable_of_run _ _ (.init rfl) ran
  · rw [stored, answers_iff.mp one]
  · exact (aroundRuns.startingAt returned).reachable_of_run _ _ (.init rfl) onward
  · rw [missing]
    obtain ⟨stop, rfl⟩ := fails_iff.mp failed
    exact ⟨stop, rfl⟩
  · rw [found, answers_iff.mp cached]

/-- A lookup that started before the same upload reads on after it, and two later ones
find what was uploaded. -/
theorem upload_survives_sample :
    ∃ before begun returned last : KeyTasks (Fin 4),
      aroundRuns.Reachable (Separate aroundUpload) before ∧
      Separate aroundUpload before (.start 1) ∧
      aroundRuns.step before (.start 1) = some begun ∧
      (aroundRuns.startingAt begun).Reachable (Quiet aroundUpload) returned ∧
      returned.result 1 = some (.ok .stored) ∧
      (aroundRuns.startingAt returned).Reachable (Quiet aroundUpload) last ∧
      last.result 2 = some (.ok (.image [2])) ∧ last.result 3 = some (.ok (.cached true)) := by
  have evaluated :
      ((aroundRuns.run (Separate aroundUpload) aroundStart [.start 0, .step 0]).any fun before =>
      decide (Separate aroundUpload before (.start 1)) &&
      (aroundRuns.step before (.start 1)).any fun begun =>
      ((aroundRuns.startingAt begun).run (fun tasks move => Quiet aroundUpload tasks move ∧
        sampleSpot.Undisturbed [2] (fun _ => True) tasks move) begun
        (List.replicate 10 (.step 1))).any fun returned =>
      (returned.result 1).any (answers .stored) &&
      (returned.program 2).isNone && (returned.program 3).isNone &&
      ((aroundRuns.startingAt returned).run (fun tasks move => Quiet aroundUpload tasks move ∧
        sampleSpot.Undisturbed [2] (fun caller => returned.program caller ≠ none) tasks move ∧
        Unexpired (fun _ => tenSeconds) ⟨[2], none⟩ tasks move) returned
        ([.start 2] ++ List.replicate 4 (.step 0) ++ List.replicate 5 (.step 2) ++
          [.start 3, .step 3, .step 3])).any fun last =>
      (last.result 2).isSome && (last.result 3).isSome) = true := by
    decide +kernel
  simp only [Option.any_eq_true, Bool.and_eq_true, decide_eq_true_eq, Option.isNone_iff_eq_none,
    Option.isSome_iff_exists] at evaluated
  obtain ⟨before, reached, separate, begun, began, returned, ran, ⟨⟨⟨⟨_, stored, one⟩, two⟩,
    three⟩, last, onward, ⟨image, third⟩, ⟨hit, fourth⟩⟩⟩ := evaluated
  have reachedBefore := aroundRuns.reachable_of_run _ _ aroundStart_reachable reached
  have during := (aroundRuns.startingAt begun).reachable_of_run _ _ (.init rfl) ran
  have after := (aroundRuns.startingAt returned).reachable_of_run _ _ (.init rfl) onward
  have quiet := during.mono fun _ _ both => both.1
  have ended : returned.result 1 = some (.ok .stored) := by rw [stored, answers_iff.mp one]
  have assigned : aroundUpload 1 = .upload "image/png" [2] none := rfl
  obtain ⟨reading, -, -, serves⟩ := (upload_survives sampleSpot (fun _ => tenSeconds) assigned
    reachedBefore separate began quiet ended).2 during
  refine ⟨before, begun, returned, last, reachedBefore, separate, began, quiet, ended,
    after.mono fun _ _ all => all.1, ?_, ?_⟩
  · rw [third, (serves last after 2 image two third).1 rfl]
  · rw [fourth, (serves last after 3 hit three fourth).2 rfl]

end ImageResizer.Storage
