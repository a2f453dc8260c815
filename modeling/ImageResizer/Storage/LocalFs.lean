import ImageResizer.Failure
import ImageResizer.Storage.FileSystem
import ImageResizer.Storage.Key

/-!
# The local-filesystem backend

`services/storage/local_fs_handler.rs` as programs over the operations of the host: every
`.await` on the file system, every reading of the clock and every increment of the
temp-file counter is one operation, in the order of the source.
-/

namespace ImageResizer.Storage

open Resumption Text

structure LocalFSStorage where
  basePath : Path
  /-- `std::process::id()`. -/
  processId : Nat

/-- Programs on the host without a failing side. -/
abbrev FsProgram := Program FsOp FsOp.Reply

/-- Programs on the host that return a value, fail, or panic. -/
abbrev FsM := ExceptT (Stop Failure) FsProgram

/-! ## `tokio::fs`, the clock and the counter -/

namespace Fs

abbrev createDirAll (path : Path) : FsProgram (Except IoError Unit) :=
  Program.perform (FsOp.createDirAll path)

abbrev canonicalize (path : Path) : FsProgram (Except IoError Path) :=
  Program.perform (FsOp.canonicalize path)

abbrev createFile (path : Path) : FsProgram (Except IoError Unit) :=
  Program.perform (FsOp.createFile path)

abbrev writeAll (path : Path) (data : List UInt8) : FsProgram (Except IoError Unit) :=
  Program.perform (FsOp.writeAll path data)

abbrev syncAll (path : Path) : FsProgram (Except IoError Unit) :=
  Program.perform (FsOp.syncAll path)

abbrev rename (source target : Path) : FsProgram (Except IoError Unit) :=
  Program.perform (FsOp.rename source target)

abbrev removeFile (path : Path) : FsProgram (Except IoError Unit) :=
  Program.perform (FsOp.removeFile path)

abbrev metadata (path : Path) : FsProgram (Except IoError Bool) :=
  Program.perform (FsOp.metadata path)

abbrev read (path : Path) : FsProgram (Except IoError (List UInt8)) :=
  Program.perform (FsOp.read path)

abbrev systemTime : FsProgram Instant := Program.perform FsOp.systemTime

abbrev fetchAddCounter : FsProgram Nat := Program.perform FsOp.fetchAddCounter

end Fs

/-! ## Errors -/

namespace FsM

variable {α : Type}

def ofOutcome (outcome : Outcome Failure α) : FsM α := ExceptT.mk (pure outcome)

def fail (failure : Failure) : FsM α := ofOutcome (Outcome.fail failure)

/-- `.await.context(text)?`. -/
def context (text : String) (program : FsProgram (Except IoError α)) : FsM α :=
  ExceptT.mk do
    match ← program with
    | .ok value => pure (.ok value)
    | .error cause => pure (Outcome.fail ((Failure.message cause.toString).context text))

/-- `ok_or_else`. -/
def required (text : String) : Option α → FsM α
  | some value => ofOutcome (.ok value)
  | none => fail (Failure.message text)

/-- `let _ = program.await`: an error is dropped, a panic is not. -/
def ignore (program : FsM α) : FsM Unit :=
  ExceptT.mk do
    match ← program.run with
    | .error .panic => pure Outcome.panic
    | _ => pure (.ok ())

end FsM

/-! ## Paths -/

/-- `SHARD_PREFIX_LEN`. -/
def shardPrefixLen : Nat := 2

def sanitizeRelative (input : List Char) : Path :=
  (input.splitOn '/').filter fun segment => segment ≠ [] ∧ segment ≠ ['.'] ∧ segment ≠ ['.', '.']

/-- `PathBuf::push` of a relative text: its non-empty components. -/
def push (path : Path) (text : List Char) : Path :=
  path ++ (text.splitOn '/').filter fun segment => segment ≠ [] ∧ segment ≠ ['.']

def relativePath (key : List Char) : Outcome Failure Path := do
  match ← splitKey key with
  | some (subPath, hash, ext) =>
      if hash ≠ [] ∧ hash.all isHexDigit then
        let shardLen := min hash.length shardPrefixLen
        let sharded := push (sanitizeRelative subPath) (hash.take shardLen)
        pure (push sharded (hash ++ '.' :: ext))
      else pure (sanitizeRelative key)
  | none => pure (sanitizeRelative key)

def resolve (storage : LocalFSStorage) (key : List Char) : Outcome Failure Path := do
  let relative ← relativePath key
  pure (storage.basePath ++ relative)

/-- `Path::parent`. -/
def parent? (path : Path) : Option Path :=
  if path = [] then none else some path.dropLast

def expiresSuffix : List Char := ['.', 'e', 'x', 'p', 'i', 'r', 'e', 's']

def expiresSidecarPath (filePath : Path) : Path :=
  match filePath.getLast? with
  | some name => filePath.dropLast ++ [name ++ expiresSuffix]
  | none => [expiresSuffix]

/-- `Display` of a path. -/
def displayPath (path : Path) : String :=
  String.ofList (path.flatMap fun name => '/' :: name)

/-! ## Expiry -/

/-- The expiry second recorded for an upload that reads the clock at this instant. -/
def expiresAtSecs (now : Instant) (ttl : Duration) : Nat :=
  (((now.checkedAdd ttl).bind Instant.sinceEpoch).map (· / nanosPerSecond)).getD u64Max

/-- The expiry second written in a sidecar, if it can be read. -/
def parseExpiry (contents : List UInt8) : Option Nat := do
  let text ← decodeUtf8 contents
  parseUnsigned u64Max (trim text)

theorem expiresAtSecs_le (now : Instant) (ttl : Duration) : expiresAtSecs now ttl ≤ u64Max := by
  rw [expiresAtSecs]
  cases added : (now.checkedAdd ttl).bind Instant.sinceEpoch with
  | none => exact le_refl _
  | some since =>
      obtain ⟨expiry, -, after⟩ := Option.bind_eq_some_iff.mp added
      exact (Instant.sinceEpoch_secs_lt after).le

/-- The recorded expiry is read back. -/
theorem parseExpiry_recorded (now : Instant) (ttl : Duration) :
    parseExpiry (encodeUtf8 (decimal (expiresAtSecs now ttl))) = some (expiresAtSecs now ttl) := by
  simp only [parseExpiry, decodeUtf8_encodeUtf8, trim_decimal, Option.bind_eq_bind,
    Option.bind_some]
  exact parseUnsigned_decimal (expiresAtSecs_le now ttl)

def isExpired (sidecarPath : Path) : FsProgram Bool := do
  match ← Fs.read sidecarPath with
  | .error _ => pure false
  | .ok contents =>
      match parseExpiry contents with
      | none => pure false
      | some expiresAtSecs => do
          let now ← Fs.systemTime
          pure (decide (now.nowSecs ≥ expiresAtSecs))

/-! ## Staging -/

def tmpSuffix : List Char := ['.', 't', 'm', 'p']

def tempFileName (storage : LocalFSStorage) (finalName : List Char) :
    FsProgram (List Char) := do
  let now ← Fs.systemTime
  let counter ← Fs.fetchAddCounter
  pure ('.' :: (finalName ++ '.' :: (decimal storage.processId ++
    '.' :: (decimal (now.sinceEpoch.getD 0) ++ '.' :: (decimal counter ++ tmpSuffix)))))

/-- Create, write and fsync a temp file. -/
def stage (tmpPath : Path) (data : List UInt8) : FsM Unit := do
  FsM.context "Failed to create temp file for atomic write" (Fs.createFile tmpPath)
  FsM.context "Failed to write image to temp file" (Fs.writeAll tmpPath data)
  FsM.context "Failed to fsync temp file" (Fs.syncAll tmpPath)

/-- Stage data under a temp name for `finalName`.  The outcome is not acted on here. -/
def stageAs (storage : LocalFSStorage) (dir : Path) (finalName : List Char)
    (data : List UInt8) : FsProgram (Path × Outcome Failure Unit) := do
  let tmpName ← tempFileName storage finalName
  let staged ← (stage (dir ++ [tmpName]) data).run
  pure (dir ++ [tmpName], staged)

/-! ## `StorageBackend` -/

def invalidPathText (key : List Char) : String :=
  "Invalid storage path for key: " ++ String.ofList key

/-- Record or clear the expiry of an entry whose data is in place.  Nothing that goes
wrong here is reported. -/
def recordExpiry (storage : LocalFSStorage) (parent sidecarPath : Path) :
    Option Duration → FsProgram Unit
  | some ttl => do
      let now ← Fs.systemTime
      match sidecarPath.getLast? with
      | none => pure ()
      | some sidecarName => do
          let (tmpSidecar, staged) ← stageAs storage parent sidecarName
            (encodeUtf8 (decimal (expiresAtSecs now ttl)))
          match staged with
          | .ok () => do
              let _ ← Fs.rename tmpSidecar sidecarPath
              pure ()
          | .error _ => do
              let _ ← Fs.removeFile tmpSidecar
              pure ()
  | none => do
      let _ ← Fs.removeFile sidecarPath
      pure ()

/-- `upload_image_with_ttl` up to the rename: the complete data is durable under a temp
name next to `filePath`. -/
def stageUpload (storage : LocalFSStorage) (key : List Char) (filePath parent : Path)
    (data : List UInt8) : FsM Path := do
  FsM.context "Failed to create a local storage directory" (Fs.createDirAll parent)
  let canonicalBase ← FsM.context "Failed to canonicalise local storage base path"
    (Fs.canonicalize storage.basePath)
  let canonicalParent ← FsM.context "Failed to canonicalise local storage target directory"
    (Fs.canonicalize parent)
  if canonicalBase <+: canonicalParent then
    let fileName ← FsM.required (invalidPathText key) filePath.getLast?
    let (tmpPath, staged) ← ExceptT.lift (stageAs storage parent fileName data)
    match staged with
    | .error failure => do
        let _ ← ExceptT.lift (Fs.removeFile tmpPath)
        FsM.ofOutcome (.error failure)
    | .ok () => pure tmpPath
  else
    FsM.fail (Failure.message
      ("Resolved storage directory escapes the storage base path for key: " ++
        String.ofList key))

def uploadImageWithTtl (storage : LocalFSStorage) (key : List Char) (_contentType : String)
    (data : List UInt8) (ttl : Option Duration) : FsM Unit := do
  let filePath ← FsM.ofOutcome (resolve storage key)
  let parent ← FsM.required (invalidPathText key) (parent? filePath)
  let tmpPath ← stageUpload storage key filePath parent data
  FsM.context "Failed to atomically rename temp file into place" (Fs.rename tmpPath filePath)
  ExceptT.lift (recordExpiry storage parent (expiresSidecarPath filePath) ttl)

def delete (storage : LocalFSStorage) (key : List Char) : FsM Unit := do
  let filePath ← FsM.ofOutcome (resolve storage key)
  match ← ExceptT.lift (Fs.removeFile filePath) with
  | .error (.other text) =>
      FsM.fail ((Failure.message text).context
        ("Failed to delete local storage object for key: " ++ String.ofList key))
  -- Already absent counts as deleted.
  | .ok () | .error .notFound => do
      let _ ← ExceptT.lift (Fs.removeFile (expiresSidecarPath filePath))
      pure ()

def checkCache (storage : LocalFSStorage) (key : List Char) : FsM Bool := do
  let filePath ← FsM.ofOutcome (resolve storage key)
  match ← ExceptT.lift (Fs.metadata filePath) with
  | .ok true => do
      let expired ← ExceptT.lift (isExpired (expiresSidecarPath filePath))
      if expired then do
        FsM.ignore (delete storage key)
        pure false
      else pure true
  | .ok false => pure false
  | .error .notFound => pure false
  | .error (.other text) =>
      FsM.fail ((Failure.message text).context
        ("Failed to stat local storage path for key: " ++ String.ofList key))

def notFoundText (filePath : Path) : String :=
  "Image not found in local file system: " ++ displayPath filePath

def assertWithinBase (storage : LocalFSStorage) (path : Path) : FsM Path := do
  let canonicalBase ← FsM.context "Failed to canonicalise local storage base path"
    (Fs.canonicalize storage.basePath)
  let canonical ← FsM.context
    ("Failed to canonicalise local storage path: " ++ displayPath path)
    (Fs.canonicalize path)
  if canonicalBase <+: canonical then pure canonical
  else
    FsM.fail (Failure.message
      ("Resolved storage path escapes the storage base path: " ++ displayPath path))

def getImage (storage : LocalFSStorage) (key : List Char) : FsM (List UInt8) := do
  let filePath ← FsM.ofOutcome (resolve storage key)
  let isFile ← FsM.context (notFoundText filePath) (Fs.metadata filePath)
  if isFile then
    let expired ← ExceptT.lift (isExpired (expiresSidecarPath filePath))
    if expired then do
      FsM.ignore (delete storage key)
      FsM.fail (Failure.message (notFoundText filePath ++ " (expired)"))
    else do
      let canonical ← assertWithinBase storage filePath
      FsM.context ("Failed to read image from local file system: " ++ displayPath filePath)
        (Fs.read canonical)
  else
    FsM.fail (Failure.message ("Cache path is not a regular file: " ++ displayPath filePath))

end ImageResizer.Storage
