import ImageResizer.Storage.LocalFs

/-!
# The on-disk layout

Where the files of a key live, and the condition on the file system under which the
backend works: the shard directories can be created and hold regular files only.  Every
operation of the backend, completed or not, keeps that condition.
-/

namespace ImageResizer.Storage

open Resumption Text

/-! ## File systems the backend can work in -/

/-- Directories of one depth. -/
structure Shards where
  dirs : Path → Prop
  depth : Nat
  length_eq : ∀ {dir}, dirs dir → dir.length = depth

/-- Everything lies in directories, the shards hold regular files, and no file is in the
way of creating them. -/
structure Ready (shards : Shards) (files : FileSystem) : Prop where
  ancestors : ∀ {path above : Path}, files path ≠ none → above <+: path → above ≠ path →
    files above = some .directory
  regular : ∀ {dir : Path} {name : List Char}, shards.dirs dir →
    files (dir ++ [name]) ≠ some .directory
  unobstructed : ∀ {dir above : Path}, shards.dirs dir → above <+: dir →
    files.isFile above = false

/-- The operations the backend performs: in a shard, or without effect on files. -/
def InShards (shards : Shards) : FsOp → Prop
  | .createDirAll path => shards.dirs path
  | .createFile path | .writeAll path _ | .removeFile path =>
      ∃ dir name, shards.dirs dir ∧ path = dir ++ [name]
  | .rename source target =>
      ∃ dir old new, shards.dirs dir ∧ source = dir ++ [old] ∧ target = dir ++ [new]
  | _ => True

namespace Ready

variable {shards : Shards} {files : FileSystem} {dir : Path} {name : List Char}

theorem length_above {above : Path} (inside : shards.dirs dir) (below : above <+: dir) :
    above.length ≤ shards.depth :=
  shards.length_eq inside ▸ below.length_le

theorem length_file (inside : shards.dirs dir) :
    (dir ++ [name]).length = shards.depth + 1 := by
  rw [List.length_append, shards.length_eq inside, List.length_singleton]

/-- A file of a shard is not above any shard. -/
theorem file_ne_above {other above : Path} (inside : shards.dirs dir)
    (also : shards.dirs other) (below : above <+: other) : above ≠ dir ++ [name] := by
  intro same
  have short := length_above also below
  rw [same, length_file inside] at short
  omega

theorem directory_of_not_file (ready : Ready shards files) {above : Path}
    (inside : shards.dirs dir) (below : above <+: dir) (present : files above ≠ none) :
    files above = some .directory := by
  have notFile := ready.unobstructed inside below
  cases found : files above with
  | none => exact absurd found present
  | some node =>
      cases node with
      | directory => rfl
      | file contents => simp [FileSystem.isFile, found] at notFile

/-- Creating some of the directories above a shard, the outer ones first. -/
theorem makeDirs (ready : Ready shards files) (inside : shards.dirs dir)
    (outer : Path → Prop) [DecidablePred outer]
    (closed : ∀ {above below : Path}, outer below → above <+: below → above <+: dir →
      files above = none → outer above) :
    Ready shards fun queried =>
      if queried <+: dir ∧ outer queried ∧ files queried = none then some .directory
      else files queried where
  ancestors := by
    intro path above present below differs
    split
    case isTrue => rfl
    case isFalse kept =>
        split at present
        case isTrue created =>
            have aboveDir : above <+: dir := below.trans created.1
            apply ready.directory_of_not_file inside aboveDir
            intro absent
            exact kept ⟨aboveDir, closed created.2.1 below aboveDir absent, absent⟩
        case isFalse => exact ready.ancestors present below differs
  regular := by
    intro other child also
    split
    case isTrue created => exact absurd rfl (file_ne_above also inside created.1)
    case isFalse => exact ready.regular also
  unobstructed := by
    intro other above also below
    have kept := ready.unobstructed also below
    simp only [FileSystem.isFile] at kept ⊢
    split
    case h_1 contents found =>
        split at found
        case isTrue => cases found
        case isFalse => simp [found] at kept
    case h_2 => rfl

/-- Writing a file into a shard that exists. -/
theorem put (ready : Ready shards files) (inside : shards.dirs dir)
    (exists_dir : files dir = some .directory) (contents : List UInt8) :
    Ready shards (Function.update files (dir ++ [name]) (some (.file contents))) where
  ancestors := by
    intro path above present below differs
    have aboveFile : above ≠ dir ++ [name] := by
      rintro rfl
      have occupied : files path ≠ none := by
        rwa [Function.update_of_ne (Ne.symm differs)] at present
      exact ready.regular inside (ready.ancestors occupied below differs)
    rw [Function.update_of_ne aboveFile]
    by_cases same : path = dir ++ [name]
    case pos =>
        have aboveDir : above <+: dir := by
          rw [same] at below differs
          exact (List.prefix_concat_iff.mp below).resolve_left differs
        by_cases whole : above = dir
        case pos => rw [whole, exists_dir]
        case neg =>
            exact ready.ancestors (by rw [exists_dir]; exact Option.some_ne_none _) aboveDir whole
    case neg =>
        rw [Function.update_of_ne same] at present
        exact ready.ancestors present below differs
  regular := by
    intro other child also
    by_cases same : other ++ [child] = dir ++ [name]
    case pos => simp [same]
    case neg =>
        rw [Function.update_of_ne same]
        exact ready.regular also
  unobstructed := by
    intro other above also below
    have kept := ready.unobstructed also below
    rwa [FileSystem.isFile, Function.update_of_ne (file_ne_above inside also below)]

/-- Removing a name from a shard. -/
theorem erase (ready : Ready shards files) (inside : shards.dirs dir) :
    Ready shards (Function.update files (dir ++ [name]) none) where
  ancestors := by
    intro path above present below differs
    by_cases same : path = dir ++ [name]
    case pos => simp [same] at present
    case neg =>
        rw [Function.update_of_ne same] at present
        have directory := ready.ancestors present below differs
        have aboveFile : above ≠ dir ++ [name] := by
          rintro rfl
          exact ready.regular inside directory
        rw [Function.update_of_ne aboveFile, directory]
  regular := by
    intro other child also
    by_cases same : other ++ [child] = dir ++ [name]
    case pos => simp [same]
    case neg =>
        rw [Function.update_of_ne same]
        exact ready.regular also
  unobstructed := by
    intro other above also below
    have kept := ready.unobstructed also below
    rwa [FileSystem.isFile, Function.update_of_ne (file_ne_above inside also below)]

theorem directory_of_file (ready : Ready shards files) {contents : List UInt8}
    (found : files (dir ++ [name]) = some (.file contents)) : files dir = some .directory :=
  ready.ancestors (by rw [found]; exact Option.some_ne_none _) (List.prefix_append ..)
    (by simp)

/-! ### Every operation keeps the layout -/

/-- Creating a shard succeeds. -/
theorem createDirAll_eq (ready : Ready shards files) (inside : shards.dirs dir) :
    files.createDirAll dir =
      (.ok (), fun queried => if queried <+: dir then some .directory else files queried) := by
  apply if_neg
  simp only [List.any_eq_true, List.mem_inits, not_exists, not_and, Bool.not_eq_true]
  exact fun above below => ready.unobstructed inside below

theorem createDirAll (ready : Ready shards files) (inside : shards.dirs dir) :
    Ready shards (files.createDirAll dir).2 := by
  rw [ready.createDirAll_eq inside]
  have made := ready.makeDirs inside (fun _ => True) (fun _ _ _ _ => trivial)
  convert made using 2 with queried
  by_cases below : queried <+: dir
  case pos =>
      simp only [below, true_and, if_true]
      split
      case isTrue => rfl
      case isFalse absent => exact (ready.directory_of_not_file inside below absent).symm
  case neg => simp [below]

theorem writeAll (ready : Ready shards files) (inside : shards.dirs dir)
    (data : List UInt8) : Ready shards (files.writeAll (dir ++ [name]) data) := by
  rw [FileSystem.writeAll]
  split
  case h_1 contents found => exact ready.put inside (ready.directory_of_file found) data
  case h_2 => exact ready

theorem perform (clock : Nat → Instant) {op : FsOp} {machine : Machine}
    (ready : Ready shards machine.files) (inside : InShards shards op) :
    Ready shards (op.perform clock machine).2.files := by
  cases op with
  | createDirAll path => exact ready.createDirAll inside
  | createFile path =>
      obtain ⟨dir, name, inside, rfl⟩ := inside
      simp only [FsOp.perform, FileSystem.createFile, List.dropLast_concat]
      split
      case isTrue => exact ready
      case isFalse present =>
          split
          case isTrue => exact ready
          case isFalse => exact ready.put inside (not_not.mp present) []
  | writeAll path data =>
      obtain ⟨dir, name, inside, rfl⟩ := inside
      exact ready.writeAll inside data
  | rename source target =>
      obtain ⟨dir, old, new, inside, rfl, rfl⟩ := inside
      simp only [FsOp.perform, FileSystem.rename, List.dropLast_concat]
      split
      case h_1 contents found =>
          split
          case isTrue => exact ready
          case isFalse present =>
              split
              case isTrue => exact ready
              case isFalse =>
                  apply (ready.erase inside).put inside
                  rw [Function.update_of_ne (by simp), not_not.mp present]
      case h_2 => exact ready
      case h_3 => exact ready
  | removeFile path =>
      obtain ⟨dir, name, inside, rfl⟩ := inside
      simp only [FsOp.perform, FileSystem.removeFile]
      split
      case h_1 => exact ready.erase inside
      case h_2 => exact ready
      case h_3 => exact ready
  | canonicalize path => exact ready
  | syncAll path => exact ready
  | metadata path => exact ready
  | read path => exact ready
  | systemTime => exact ready
  | fetchAddCounter => exact ready

theorem partly {op : FsOp} (progress : Nat) (ready : Ready shards files)
    (inside : InShards shards op) : Ready shards (op.partly progress files) := by
  cases op with
  | createDirAll path =>
      apply ready.makeDirs inside (fun queried => queried.length ≤ progress)
      exact fun short below _ _ => below.length_le.trans short
  | writeAll path data =>
      obtain ⟨dir, name, inside, rfl⟩ := inside
      exact ready.writeAll inside _
  | createFile path => exact ready
  | rename source target => exact ready
  | removeFile path => exact ready
  | canonicalize path => exact ready
  | syncAll path => exact ready
  | metadata path => exact ready
  | read path => exact ready
  | systemTime => exact ready
  | fetchAddCounter => exact ready

theorem attempt (clock : Nat → Instant) (fate : Fate) {op : FsOp} {machine : Machine}
    (ready : Ready shards machine.files) (inside : InShards shards op) :
    Ready shards (FsOp.attempt clock fate op machine).2.files := by
  cases fate with
  | complete => exact ready.perform clock inside
  | fail progress error => exact ready.partly progress inside
  | stop progress => exact ready.partly progress inside

/-- A program that acts in the shards keeps the layout however it is interrupted. -/
theorem interrupted {α : Type} {returns : α → Prop} {program : FsProgram α}
    (clock : Nat → Instant) (uses : program.Uses (InShards shards) returns)
    (fates : List Fate) {machine : Machine} (ready : Ready shards machine.files) :
    Ready shards (program.interrupted (FsOp.attempt clock) fates machine).2.files :=
  Program.interrupted_keeps (FsOp.attempt clock)
    (fun fate _ (left : Machine) inside (kept : Ready shards left.files) =>
      kept.attempt clock fate inside) uses ready

end Ready

/-! ## Paths an operation leaves alone -/

/-- The operation neither creates, writes nor removes the path. -/
def Spares (path : Path) : FsOp → Prop
  | .createDirAll dir => ¬ path <+: dir
  | .createFile written | .writeAll written _ | .removeFile written => written ≠ path
  | .rename source target => source ≠ path ∧ target ≠ path
  | _ => True

theorem FileSystem.writeAll_of_ne (files : FileSystem) {written path : Path}
    (differs : written ≠ path) (data : List UInt8) :
    files.writeAll written data path = files path := by
  cases found : files written with
  | none => simp only [FileSystem.writeAll, found]
  | some node =>
      cases node with
      | directory => simp only [FileSystem.writeAll, found]
      | file contents =>
          simp only [FileSystem.writeAll, found]
          exact Function.update_of_ne (Ne.symm differs) ..

theorem Spares.perform (clock : Nat → Instant) {op : FsOp} {path : Path}
    (spares : Spares path op) (machine : Machine) :
    (op.perform clock machine).2.files path = machine.files path := by
  cases op with
  | createDirAll dir =>
      simp only [FsOp.perform, FileSystem.createDirAll]
      split
      case isTrue => rfl
      case isFalse => exact if_neg spares
  | createFile written =>
      simp only [FsOp.perform, FileSystem.createFile]
      split
      case isTrue => rfl
      case isFalse =>
          split
          case isTrue => rfl
          case isFalse => exact Function.update_of_ne (Ne.symm spares) ..
  | writeAll written data => exact FileSystem.writeAll_of_ne machine.files spares data
  | rename source target =>
      simp only [FsOp.perform, FileSystem.rename]
      split
      case h_1 =>
          split
          case isTrue => rfl
          case isFalse =>
              split
              case isTrue => rfl
              case isFalse =>
                  dsimp only [Machine.leaving_files]
                  rw [Function.update_of_ne (Ne.symm spares.2),
                    Function.update_of_ne (Ne.symm spares.1)]
      case h_2 => rfl
      case h_3 => rfl
  | removeFile written =>
      simp only [FsOp.perform, FileSystem.removeFile]
      split
      case h_1 => exact Function.update_of_ne (Ne.symm spares) ..
      case h_2 => rfl
      case h_3 => rfl
  | canonicalize dir => rfl
  | syncAll written => rfl
  | metadata queried => rfl
  | read queried => rfl
  | systemTime => rfl
  | fetchAddCounter => rfl

theorem Spares.partly {op : FsOp} {path : Path} (spares : Spares path op) (progress : Nat)
    (files : FileSystem) : op.partly progress files path = files path := by
  cases op with
  | createDirAll dir => exact if_neg fun created => spares created.1
  | writeAll written data => exact FileSystem.writeAll_of_ne files spares _
  | createFile written => rfl
  | rename source target => rfl
  | removeFile written => rfl
  | canonicalize dir => rfl
  | syncAll written => rfl
  | metadata queried => rfl
  | read queried => rfl
  | systemTime => rfl
  | fetchAddCounter => rfl

theorem Spares.attempt (clock : Nat → Instant) (fate : Fate) {op : FsOp} {path : Path}
    (spares : Spares path op) (machine : Machine) :
    (FsOp.attempt clock fate op machine).2.files path = machine.files path := by
  cases fate with
  | complete => exact spares.perform clock machine
  | fail progress error => exact spares.partly progress machine.files
  | stop progress => exact spares.partly progress machine.files

/-! ## The files of one key -/

/-- A key whose path lies strictly below the base directory. -/
structure Located (storage : LocalFSStorage) (key : List Char) where
  dir : Path
  name : List Char
  resolves : resolve storage key = .ok (dir ++ [name])
  within : storage.basePath <+: dir

/-- A temp-file name for `finalName`. -/
def IsTempName (finalName name : List Char) : Prop :=
  ∃ middle, name = '.' :: (finalName ++ '.' :: (middle ++ tmpSuffix))

theorem IsTempName.ne {finalName name : List Char} (temp : IsTempName finalName name) :
    name ≠ finalName := by
  obtain ⟨middle, rfl⟩ := temp
  intro same
  have lengths := congrArg List.length same
  simp only [List.length_cons, List.length_append] at lengths
  omega

/-- A temp name ends differently from a sidecar name. -/
theorem IsTempName.ne_sidecar {finalName name other : List Char}
    (temp : IsTempName finalName name) : name ≠ other ++ expiresSuffix := by
  obtain ⟨middle, rfl⟩ := temp
  intro same
  have ends := congrArg List.getLast? same
  simp [tmpSuffix, expiresSuffix, List.getLast?_cons] at ends

/-- The temp name of a sidecar is not the name the sidecar belongs to. -/
theorem IsTempName.ne_of_sidecar {finalName name : List Char}
    (temp : IsTempName (finalName ++ expiresSuffix) name) : name ≠ finalName := by
  obtain ⟨middle, rfl⟩ := temp
  intro same
  have lengths := congrArg List.length same
  simp only [List.length_cons, List.length_append] at lengths
  omega

/-- The names a key uses in its shard: its data, its sidecar, and the temp names of
both. -/
def IsOwnName (finalName name : List Char) : Prop :=
  name = finalName ∨ name = finalName ++ expiresSuffix ∨ IsTempName finalName name ∨
    IsTempName (finalName ++ expiresSuffix) name

namespace Located

variable {storage : LocalFSStorage} {key : List Char} (spot : Located storage key)

def dataPath : Path := spot.dir ++ [spot.name]

def sidecarPath : Path := spot.dir ++ [spot.name ++ expiresSuffix]

theorem sidecarPath_eq : expiresSidecarPath spot.dataPath = spot.sidecarPath := by
  simp [expiresSidecarPath, dataPath, sidecarPath]

theorem parent_eq : parent? spot.dataPath = some spot.dir := by
  simp [parent?, dataPath]

theorem dataPath_ne_sidecarPath : spot.dataPath ≠ spot.sidecarPath := by
  simp [dataPath, sidecarPath, expiresSuffix]

/-- Operations on the key's own files only. -/
def Own : FsOp → Prop
  | .createDirAll path => path = spot.dir
  | .createFile path | .writeAll path _ | .removeFile path =>
      ∃ name, IsOwnName spot.name name ∧ path = spot.dir ++ [name]
  | .rename source target =>
      ∃ old new, IsOwnName spot.name old ∧ IsOwnName spot.name new ∧
        source = spot.dir ++ [old] ∧ target = spot.dir ++ [new]
  | _ => True

variable {spot} in
theorem Own.inShards {shards : Shards} {op : FsOp} (own : spot.Own op)
    (inside : shards.dirs spot.dir) : InShards shards op := by
  cases op with
  | createDirAll path => exact own ▸ inside
  | createFile path => exact own.elim fun name named => ⟨_, name, inside, named.2⟩
  | writeAll path data => exact own.elim fun name named => ⟨_, name, inside, named.2⟩
  | removeFile path => exact own.elim fun name named => ⟨_, name, inside, named.2⟩
  | rename source target =>
      obtain ⟨old, new, -, -, same, also⟩ := own
      exact ⟨_, old, new, inside, same, also⟩
  | canonicalize path => trivial
  | syncAll path => trivial
  | metadata path => trivial
  | read path => trivial
  | systemTime => trivial
  | fetchAddCounter => trivial

/-- The shard of a single key. -/
def shard : Shards := ⟨(· = spot.dir), spot.dir.length, fun same => congrArg List.length same⟩

end Located

/-! ### Valid keys -/

/-- Pushing a plain name adds one component. -/
theorem push_name {path : Path} {name : List Char} (plain : '/' ∉ name) (present : name ≠ [])
    (notDot : name ≠ ['.']) : push path name = path ++ [name] := by
  simp [push, List.splitOn_eq_singleton plain, present, notDot]

theorem slash_not_lowerHex {hash : List Char} (hex : hash.all isLowerHex) : '/' ∉ hash := by
  intro member
  have bounds := isLowerHex_bounds (List.all_eq_true.mp hex _ member)
  simp at bounds

theorem slash_not_allowed {ext : List Char} (known : ext ∈ allowedExtensions) : '/' ∉ ext := by
  revert ext
  decide

namespace KeyParts

variable {subPath : List Char} (key : KeyParts subPath)

/-- The directory of a key's shard, below the sub-path. -/
def shardName : List Char := key.hash.take shardPrefixLen

def fileName : List Char := key.hash ++ '.' :: key.ext

theorem hash_ne_nil : key.hash ≠ [] := by
  intro empty
  have length := key.hash_length
  simp [empty, hashLen] at length

theorem shardName_hex : key.shardName.all isLowerHex := by
  rw [List.all_eq_true]
  exact fun c member => List.all_eq_true.mp key.hash_hex c (List.mem_of_mem_take member)

theorem shardName_length : key.shardName.length = 2 := by
  rw [shardName, List.length_take, key.hash_length]
  rfl

theorem relativePath_text : relativePath key.text =
    .ok (sanitizeRelative subPath ++ [key.shardName, key.fileName]) := by
  have hex : key.hash.all isHexDigit := by
    rw [List.all_eq_true]
    intro c member
    simp [isHexDigit, List.all_eq_true.mp key.hash_hex c member]
  have shardLen : min key.hash.length shardPrefixLen = shardPrefixLen := by
    rw [key.hash_length]
    rfl
  have shard : push (sanitizeRelative subPath) (key.hash.take shardPrefixLen) =
      sanitizeRelative subPath ++ [key.shardName] := by
    apply push_name (slash_not_lowerHex key.shardName_hex)
    · intro empty
      exact absurd (congrArg List.length empty) (by rw [key.shardName_length]; decide)
    · intro dot
      exact absurd (congrArg List.length dot) (by rw [key.shardName_length]; decide)
  have file : ∀ path, push path key.fileName = path ++ [key.fileName] := by
    refine fun path => push_name ?_ (by simp [fileName]) ?_
    · simp [fileName, slash_not_lowerHex key.hash_hex, slash_not_allowed key.ext_known]
    · intro dot
      have length := congrArg List.length dot
      simp only [fileName, List.length_append, List.length_cons, key.hash_length, hashLen,
        List.length_nil] at length
      omega
  rw [relativePath, splitKey_text]
  change (if key.hash ≠ [] ∧ key.hash.all isHexDigit then
    pure (push (push (sanitizeRelative subPath)
      (key.hash.take (min key.hash.length shardPrefixLen))) key.fileName)
    else _) = _
  rw [if_pos ⟨key.hash_ne_nil, hex⟩, shardLen, shard, file, List.append_assoc]
  rfl

/-- Where a valid key lives. -/
def located (storage : LocalFSStorage) : Located storage key.text where
  dir := storage.basePath ++ (sanitizeRelative subPath ++ [key.shardName])
  name := key.fileName
  resolves := by
    rw [resolve, key.relativePath_text]
    exact congrArg Except.ok (by simp)
  within := List.prefix_append ..

end KeyParts

end ImageResizer.Storage
