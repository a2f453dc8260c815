import ImageResizer.Storage.Core
import ImageResizer.Storage.Interrupted

/-!
# The local backend as a map

One call after the other, the local backend behaves like a map whose entries expire.
Different keys have different files, and what is read of a key is decided by its entry
and the second the clock shows.
-/

namespace ImageResizer.Storage

open Resumption Text

/-! ## Recorded expiries -/

/-- After the epoch the recorded expiry is the second in which the lifetime ends, or lies
beyond what the clock can show. -/
theorem lt_expiresAtSecs_iff {start now : Instant} (startAfter : 0 ≤ start.nanos)
    (nowAfter : 0 ≤ now.nanos) (ttl : Duration) :
    now.nowSecs < expiresAtSecs start ttl ↔
      now.second < (start.nanos + ttl) / nanosPerSecond := by
  have high := now.high
  rw [← Int.ofNat_lt, Instant.nowSecs_eq nowAfter, expiresAtSecs, Instant.checkedAdd]
  by_cases fits : start.nanos + (ttl : Int) < secondsBound * nanosPerSecond
  case pos =>
      have positive : 0 ≤ start.nanos + (ttl : Int) := by omega
      rw [dif_pos fits, Option.bind_some, Instant.sinceEpoch, if_pos positive]
      have same : (((start.nanos + (ttl : Int)).toNat / nanosPerSecond : Nat) : Int) =
          (start.nanos + ttl) / nanosPerSecond := by
        rw [Int.natCast_ediv, Int.toNat_of_nonneg positive]
      exact same ▸ Iff.rfl
  case neg =>
      rw [dif_neg fits]
      simp only [Option.bind_none, Option.map_none, Option.getD_none, Instant.second, u64Max,
        nanosPerSecond, secondsBound, Nat.cast_ofNat] at high fits ⊢
      change _ ↔ now.nanos / 1000000000 < (start.nanos + ((ttl : Nat) : Int)) / 1000000000
      change ¬ start.nanos + ((ttl : Nat) : Int) < _ at fits
      omega

/-- The entry an upload leaves lives as long as was asked for. -/
theorem live_requested {start now : Instant} (startAfter : 0 ≤ start.nanos)
    (nowAfter : 0 ≤ now.nanos) (data : List UInt8) (ttl : Option Duration) :
    Entry.live ⟨data, Located.requested start ttl⟩ now =
      ttl.all (lifetime.alive start · now) := by
  cases ttl with
  | none => rfl
  | some ttl => exact decide_eq_decide.mpr (lt_expiresAtSecs_iff startAfter nowAfter ttl)

/-! ## Different keys have different files -/

section Keys

variable {subPath : List Char}

/-- The shards of all keys of a sub-path. -/
def keyShards (storage : LocalFSStorage) (subPath : List Char) : Shards where
  dirs dir := ∃ key : KeyParts subPath, dir = (key.located storage).dir
  depth := storage.basePath.length + (sanitizeRelative subPath).length + 1
  length_eq := by
    rintro _ ⟨key, rfl⟩
    simp [KeyParts.located, Nat.add_assoc]

namespace KeyParts

variable {key other : KeyParts subPath}

/-- A file name determines the hash and what follows its first dot. -/
theorem hash_dot_inj {rest more : List Char}
    (same : key.hash ++ '.' :: rest = other.hash ++ '.' :: more) :
    key.hash = other.hash ∧ rest = more := by
  have lengths : key.hash.length = other.hash.length := by
    rw [key.hash_length, other.hash_length]
  obtain ⟨hash, tail⟩ := List.append_inj same lengths
  exact ⟨hash, (List.cons.inj tail).2⟩

theorem fileName_inj (same : key.fileName = other.fileName) : key = other := by
  obtain ⟨hash, ext⟩ := hash_dot_inj same
  cases key
  cases other
  simp_all

theorem fileName_ne_sidecar : key.fileName ≠ other.fileName ++ expiresSuffix := by
  intro same
  rw [fileName, fileName, List.append_assoc, List.cons_append] at same
  obtain ⟨-, ext⟩ := hash_dot_inj same
  apply dot_not_allowed key.ext_known
  rw [ext]
  simp [expiresSuffix]

/-- A temp name starts with a dot, which no file name does. -/
theorem temp_ne (other : KeyParts subPath) (suffix : List Char) {finalName name : List Char}
    (temp : IsTempName finalName name) :
    name ≠ other.fileName ++ suffix := by
  obtain ⟨middle, rfl⟩ := temp
  rintro same
  cases hash : other.hash with
  | nil => exact other.hash_ne_nil hash
  | cons digit digits =>
      have first : '.' = digit := by
        rw [fileName, hash] at same
        exact (List.cons.inj same).1
      apply dot_not_lowerHex other.hash_hex
      rw [hash, first]
      exact List.mem_cons_self

theorem own_ne (differ : key ≠ other) {name : List Char}
    (own : IsOwnName key.fileName name) :
    name ≠ other.fileName ∧ name ≠ other.fileName ++ expiresSuffix := by
  rcases own with rfl | rfl | temp | temp
  · exact ⟨fun same => differ (fileName_inj same), fileName_ne_sidecar⟩
  · refine ⟨fun same => fileName_ne_sidecar same.symm, fun same => ?_⟩
    exact differ (fileName_inj (List.append_cancel_right same))
  · exact ⟨by simpa using temp_ne other [] temp, temp_ne other expiresSuffix temp⟩
  · exact ⟨by simpa using temp_ne other [] temp, temp_ne other expiresSuffix temp⟩

variable {storage : LocalFSStorage}

/-- Acting on the files of one key leaves those of another alone. -/
theorem own_spares (differ : key ≠ other) {op : FsOp} (own : (key.located storage).Own op)
    {name : List Char} (kept : name = other.fileName ∨ name = other.fileName ++ expiresSuffix) :
    Spares ((other.located storage).dir ++ [name]) op := by
  have apart : ∀ {used : List Char}, IsOwnName key.fileName used →
      (key.located storage).dir ++ [used] ≠ (other.located storage).dir ++ [name] := by
    intro used named same
    obtain ⟨-, sameName⟩ := List.append_inj' same rfl
    have different := own_ne differ named
    rw [List.cons.inj sameName |>.1] at different
    exact kept.elim different.1 different.2
  cases op with
  | createDirAll path =>
      intro below
      have lengths := below.length_le
      rw [own, List.length_append, (keyShards storage subPath).length_eq ⟨other, rfl⟩,
        (keyShards storage subPath).length_eq ⟨key, rfl⟩, List.length_singleton] at lengths
      omega
  | createFile path => exact own.elim fun used named => named.2 ▸ apart named.1
  | writeAll path data => exact own.elim fun used named => named.2 ▸ apart named.1
  | removeFile path => exact own.elim fun used named => named.2 ▸ apart named.1
  | rename source target =>
      obtain ⟨old, new, oldNamed, newNamed, rfl, rfl⟩ := own
      exact ⟨apart oldNamed, apart newNamed⟩
  | canonicalize path => trivial
  | syncAll path => trivial
  | metadata path => trivial
  | read path => trivial
  | systemTime => trivial
  | fetchAddCounter => trivial

end KeyParts

end Keys

/-! ## An upload that runs alone -/

section Upload

variable {storage : LocalFSStorage} {key : List Char} (spot : Located storage key)
  (clock : Nat → Instant) (contentType : String) (data : List UInt8) (ttl : Option Duration)

/-- An upload that runs alone succeeds, and leaves the entry that was asked for. -/
theorem upload_run {machine : Machine} (ready : Ready spot.shard machine.files) :
    ∃ left, (uploadImageWithTtl storage key contentType data ttl).run.run (FsOp.perform clock)
        machine = (.ok (), left) ∧
      machine.steps + dataSteps ≤ left.steps ∧
      spot.entry left.files =
        some ⟨data, Located.requested (clock (machine.steps + dataSteps)) ttl⟩ := by
  have completes : ∀ op (before : Machine), FsOp.attempt clock .complete op before =
      (some (op.perform clock before).1, (op.perform clock before).2) := fun _ _ => rfl
  obtain ⟨count, ended⟩ := Program.interrupted_complete (FsOp.attempt clock) completes
    (uploadImageWithTtl storage key contentType data ttl).run machine
  have whole := ended (List.replicate (dataSteps + sidecarSteps ttl) .complete)
  rw [← List.replicate_add, Nat.add_comm count, List.replicate_add] at whole
  have finished : Completes (dataSteps + sidecarSteps ttl)
      (List.replicate (dataSteps + sidecarSteps ttl) .complete ++
        List.replicate count .complete) := ⟨_, rfl⟩
  have committed : Completes dataSteps (List.replicate (dataSteps + sidecarSteps ttl) .complete ++
      List.replicate count .complete) := by
    rw [List.replicate_add, List.append_assoc]
    exact ⟨_, rfl⟩
  have entry := spot.upload_finished clock ttl contentType data finished ready
  obtain ⟨later, onward, -, update, -, -, -, -, steps⟩ :=
    spot.upload_committed clock ttl contentType data committed ready
  rw [Located.left, whole] at entry
  rw [whole] at update
  have last := congrArg Prod.snd update
  rw [Located.lift_interrupted] at last
  let Later : Machine → Prop := fun left => onward.steps ≤ left.steps
  have notBefore : Later ((recordExpiry storage spot.dir spot.sidecarPath ttl).interrupted
      (FsOp.attempt clock) later onward).2 :=
    Program.interrupted_keeps (FsOp.attempt clock)
      (fun fate op left _ kept => kept.trans (by cases fate <;> cases op <;> exact Nat.le_succ _))
      (spot.uses_recordExpiry ttl) (le_refl onward.steps)
  rw [← last] at notBefore
  rw [ExceptT.run_lift, map_eq_pure_bind] at update
  obtain ⟨⟨⟩, _, _, -, returned⟩ := Program.interrupted_bind_some _ update.symm
  rw [Program.pure_eq_done, Program.interrupted_done] at returned
  have succeeded := (Prod.mk.inj (Option.some.inj (Prod.mk.inj returned).1)).1
  exact ⟨_, Prod.ext succeeded.symm rfl, steps ▸ notBefore, entry⟩

end Upload

/-! ## The backend -/

section Backend

open TtlMap

variable {subPath : List Char}

/-- The local backend, called with keys of one sub-path. -/
def localBackend (storage : LocalFSStorage) (clock : Nat → Instant) (contentType : String) :
    Backend (KeyParts subPath) (List UInt8) Instant Duration Machine where
  answer
    | .upload key value ttl, machine =>
        let (outcome, left) := (uploadImageWithTtl storage key.text contentType value ttl).run.run
          (FsOp.perform clock) machine
        (observeUpload outcome, left)
    | .check key, machine =>
        let (outcome, left) := (checkCache storage key.text).run.run (FsOp.perform clock) machine
        (observeCheck outcome, left)
    | .get key, machine =>
        let (outcome, left) := (getImage storage key.text).run.run (FsOp.perform clock) machine
        (observeImage outcome, left)
    | .delete key, machine =>
        let (outcome, left) := (delete storage key.text).run.run (FsOp.perform clock) machine
        (observeDelete outcome, left)
  now machine := clock machine.steps
  find machine key now := ((key.located storage).found machine.files now).map (·.bytes)

variable {storage : LocalFSStorage} {clock : Nat → Instant} {contentType : String}

theorem saysNotFound_notFoundText (path : Path) (ending : String) :
    saysNotFound (notFoundText path ++ ending) = true := by
  have split : "Image not found in local file system: " =
      "Image not found" ++ " in local file system: " := by simp
  have whole : notFoundText path ++ ending =
    "Image not found in local file system: " ++ (displayPath path ++ ending) := String.append_assoc
  rw [whole]
  exact saysNotFound_of_start split _

theorem observeImage_answers {key : List Char} {spot : Located storage key}
    {outcome : Outcome Failure (List UInt8)} {entry : Option Entry}
    (answers : spot.Answers outcome entry) :
    observeImage outcome = .image (entry.map (·.bytes)) := by
  cases entry with
  | some entry =>
      rw [show outcome = .ok entry.bytes from answers]
      rfl
  | none =>
      obtain ⟨failure, rfl, said⟩ := answers
      apply observeImage_missing
      rcases said with said | said
      · rw [said, ← String.append_empty (s := notFoundText _)]
        exact saysNotFound_notFoundText ..
      · rw [said]
        exact saysNotFound_notFoundText ..

/-! ### Frames -/

variable {key other : KeyParts subPath} {machine : Machine}

theorem ready_of_shards {files : FileSystem} (ready : Ready (keyShards storage subPath) files)
    (key : KeyParts subPath) : Ready (key.located storage).shard files :=
  ready.mono fun same => ⟨key, same⟩

/-- What is found of a key depends on its two files. -/
theorem found_congr {files others : FileSystem} {spot : Located storage key.text}
    (data : files spot.dataPath = others spot.dataPath)
    (sidecar : files spot.sidecarPath = others spot.sidecarPath) (now : Instant) :
    spot.found files now = spot.found others now := by
  rw [Located.found, Located.found, spot.entry_congr data sidecar]

variable (storage clock contentType machine) in
/-- An upload of one key is not seen by another. -/
theorem found_after_upload_other (differ : key ≠ other) (data : List UInt8)
    (ttl : Option Duration) (now : Instant) :
    (other.located storage).found ((uploadImageWithTtl storage key.text contentType data ttl).run.run
        (FsOp.perform clock) machine).2.files now =
      (other.located storage).found machine.files now := by
  let Kept : Machine → Prop := fun left =>
    left.files (other.located storage).dataPath = machine.files (other.located storage).dataPath ∧
      left.files (other.located storage).sidecarPath =
        machine.files (other.located storage).sidecarPath
  have kept : Kept ((uploadImageWithTtl storage key.text contentType data ttl).run.run
      (FsOp.perform clock) machine).2 := by
    refine Program.run_keeps (fun op left own before => ?_)
      ((key.located storage).uses_upload ttl contentType data) ⟨rfl, rfl⟩
    have spares := KeyParts.own_spares differ own (.inl rfl)
    have sparesSidecar := KeyParts.own_spares differ own (.inr rfl)
    exact ⟨(spares.perform clock left).trans before.1,
      (sparesSidecar.perform clock left).trans before.2⟩
  exact found_congr kept.1 kept.2 now

variable (clock contentType) in
theorem upload_keeps_ready (ready : Ready (keyShards storage subPath) machine.files)
    (key : KeyParts subPath) (data : List UInt8) (ttl : Option Duration) :
    Ready (keyShards storage subPath)
      ((uploadImageWithTtl storage key.text contentType data ttl).run.run (FsOp.perform clock)
        machine).2.files := by
  let Kept : Machine → Prop := fun left => Ready (keyShards storage subPath) left.files
  have keeps : ∀ op (left : Machine), (key.located storage).Own op → Kept left →
      Kept (op.perform clock left).2 :=
    fun op left own before => Ready.perform clock before (own.inShards ⟨key, rfl⟩)
  exact Program.run_keeps keeps ((key.located storage).uses_upload ttl contentType data) ready

theorem evicted_ready {files : FileSystem} (ready : Ready (keyShards storage subPath) files)
    (key : KeyParts subPath) :
    Ready (keyShards storage subPath) ((key.located storage).evicted files) :=
  (ready.erase ⟨key, rfl⟩).erase ⟨key, rfl⟩

/-- Removing the files of a key is not seen by another. -/
theorem found_evicted_other (differ : key ≠ other) (files : FileSystem) (now : Instant) :
    (other.located storage).found ((key.located storage).evicted files) now =
      (other.located storage).found files now := by
  have apart : ∀ {used name : List Char}, IsOwnName key.fileName used →
      name = other.fileName ∨ name = other.fileName ++ expiresSuffix →
      (other.located storage).dir ++ [name] ≠ (key.located storage).dir ++ [used] := by
    intro used name own kept
    have removes : (key.located storage).Own
        (.removeFile ((key.located storage).dir ++ [used])) := ⟨used, own, rfl⟩
    exact Ne.symm (KeyParts.own_spares differ removes kept)
  have untouched : ∀ {path : Path}, path ≠ (key.located storage).dataPath →
      path ≠ (key.located storage).sidecarPath →
      (key.located storage).evicted files path = files path := by
    intro path data sidecar
    rw [Located.evicted, Function.update_of_ne sidecar, Function.update_of_ne data]
  apply found_congr
  · exact untouched (apart (.inl rfl) (.inl rfl)) (apart (.inr (.inl rfl)) (.inl rfl))
  · exact untouched (apart (.inl rfl) (.inr rfl)) (apart (.inr (.inl rfl)) (.inr rfl))

theorem swept_ready {files : FileSystem} (ready : Ready (keyShards storage subPath) files)
    (key : KeyParts subPath) (now : Instant) :
    Ready (keyShards storage subPath) ((key.located storage).swept files now) := by
  rw [Located.swept]
  split
  case isTrue => exact ready
  case isFalse => exact evicted_ready ready key

theorem found_evicted (spot : Located storage key.text) (files : FileSystem) (now : Instant) :
    spot.found (spot.evicted files) now = none := by
  have absent : spot.evicted files spot.dataPath = none := by
    rw [Located.evicted, Function.update_of_ne spot.dataPath_ne_sidecarPath,
      Function.update_self]
  rw [Located.found, spot.entry_of_absent absent, Option.filter_none]

/-- An entry that has expired stays expired. -/
theorem Entry.live_antitone {entry : Entry} {earlier later : Instant} (ordered : earlier ≤ later)
    (after : 0 ≤ earlier.nanos) (live : entry.live later) : entry.live earlier := by
  cases entry with
  | mk bytes expiry =>
      cases expiry with
      | none => rfl
      | some expiresAtSecs =>
          have seconds : earlier.nowSecs ≤ later.nowSecs := by
            have bound : earlier.second ≤ later.second :=
              Int.ediv_le_ediv (by decide) ordered
            rw [← Instant.nowSecs_eq after, ← Instant.nowSecs_eq (after.trans ordered)] at bound
            exact Int.ofNat_le.mp bound
          rw [Entry.live, decide_eq_true_eq] at live ⊢
          exact seconds.trans_lt live

/-- Sweeping is not seen by any later reader. -/
theorem found_swept (files : FileSystem) {start now : Instant} (later : start ≤ now)
    (after : 0 ≤ start.nanos) :
    (other.located storage).found ((key.located storage).swept files start) now =
      (other.located storage).found files now := by
  rw [Located.swept]
  split
  case isTrue => rfl
  case isFalse expired =>
      by_cases same : key = other
      case neg => exact found_evicted_other same files now
      case pos =>
          subst same
          rw [Bool.not_eq_true, Option.all_eq_false] at expired
          obtain ⟨entry, stored, dead⟩ := expired
          have deadLater : entry.live now = false := by
            rw [← Bool.not_eq_true] at dead ⊢
            exact fun live => dead (Entry.live_antitone later after live)
          rw [found_evicted, Located.found, stored, Option.filter_some, if_neg]
          rw [deadLater]
          exact Bool.false_ne_true

/-- Every call on the local backend goes through, keeps the layout, and has its effect at
an instant between its start and its end. -/
theorem local_effect (monotone : Monotone clock) (after : ∀ step, 0 ≤ (clock step).nanos)
    (ready : Ready (keyShards storage subPath) machine.files)
    (call : Call (KeyParts subPath) (List UInt8) Duration) :
    let backend := localBackend storage clock contentType
    let answered := backend.answer call machine
    answered.1 ≠ .failed ∧ Ready (keyShards storage subPath) answered.2.files ∧
      ∃ start, backend.now machine ≤ start ∧ start ≤ backend.now answered.2 ∧
        Effect lifetime start call answered.1 (backend.find machine)
          (backend.find answered.2) := by
  intro backend answered
  cases call with
  | upload key data ttl =>
      obtain ⟨left, ran, later, entry⟩ := upload_run (key.located storage) clock contentType data
        ttl (ready_of_shards ready key)
      have answer : answered = (.uploaded, left) := by
        simp only [answered, backend, localBackend, ran, observeUpload]
      have kept : Ready (keyShards storage subPath) left.files := by
        have keeps := upload_keeps_ready clock contentType ready key data ttl
        rwa [ran] at keeps
      rw [answer]
      refine ⟨by simp, kept, clock (machine.steps + dataSteps), monotone (Nat.le_add_right ..),
        monotone later, ?_, rfl, ?_⟩
      · intro other differ now _
        have same := found_after_upload_other storage clock contentType machine differ data ttl now
        rw [ran] at same
        exact congrArg (Option.map (·.bytes)) same
      · intro now started
        have live := live_requested (after (machine.steps + dataSteps))
          ((after (machine.steps + dataSteps)).trans started) data ttl
        simp only [backend, localBackend, Located.found, entry, Option.filter_some, live]
        split <;> rfl
  | check key =>
      obtain ⟨left, reading, ran, from_, until_, -, swept⟩ :=
        (key.located storage).checkCache_run clock (ready_of_shards ready key)
      have answer : answered = (.cached
          ((key.located storage).found machine.files (clock reading)).isSome, left) := by
        simp only [answered, backend, localBackend, ran, observeCheck]
      rw [answer]
      refine ⟨by simp, swept ▸ swept_ready ready key (clock reading), clock reading,
        monotone from_, monotone until_.le, ?_, ?_⟩
      · intro other _ now later
        simp only [backend, localBackend, swept, found_swept machine.files later (after reading)]
      · simp only [backend, localBackend, Option.isSome_map]
  | get key =>
      obtain ⟨outcome, left, reading, ran, from_, until_, -, answers, swept⟩ :=
        (key.located storage).getImage_run clock (ready_of_shards ready key)
      have answer : answered = (.image
          (((key.located storage).found machine.files (clock reading)).map (·.bytes)), left) := by
        simp only [answered, backend, localBackend, ran, observeImage_answers answers]
      rw [answer]
      refine ⟨by simp, swept ▸ swept_ready ready key (clock reading), clock reading,
        monotone from_, monotone until_.le, ?_, rfl⟩
      intro other _ now later
      simp only [backend, localBackend, swept, found_swept machine.files later (after reading)]
  | delete key =>
      have answer : answered = (.deleted, ⟨(key.located storage).evicted machine.files,
          machine.steps + 2, machine.counter⟩) := by
        simp only [answered, backend, localBackend,
          (key.located storage).delete_run clock (ready_of_shards ready key), observeDelete]
      rw [answer]
      refine ⟨by simp, evicted_ready ready key, clock machine.steps, le_refl _,
        monotone (Nat.le_add_right ..), ?_, rfl, ?_⟩
      · intro other differ now _
        exact congrArg (Option.map (·.bytes)) (found_evicted_other differ machine.files now)
      · intro now _
        exact congrArg (Option.map (·.bytes)) (found_evicted _ machine.files now)

/-- Run after run, the local backend refines the map, starting from any files it can work
in that show the map's entries; none of its calls fails. -/
theorem local_refines (monotone : Monotone clock) (after : ∀ step, 0 ≤ (clock step).nanos)
    (calls : List (Call (KeyParts subPath) (List UInt8) Duration))
    (ready : Ready (keyShards storage subPath) machine.files)
    {store : Store (KeyParts subPath) (List UInt8) Instant Duration}
    (shown : (localBackend storage clock contentType).Shows lifetime machine store) :
    (localBackend storage clock contentType).NeverFails calls machine ∧
      (localBackend storage clock contentType).Refines lifetime calls machine store := by
  let valid : Machine → Prop := fun left => Ready (keyShards storage subPath) left.files
  constructor
  · apply TtlMap.Backend.neverFails valid _ calls ready
    intro call left holds
    obtain ⟨through, kept, -⟩ := local_effect monotone after holds call
    exact ⟨through, kept⟩
  · apply TtlMap.Backend.refines valid _ calls ready shown
    intro call left holds _
    exact (local_effect monotone after holds call).2

end Backend

end ImageResizer.Storage
