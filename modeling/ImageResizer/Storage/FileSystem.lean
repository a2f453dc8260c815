import ImageResizer.Foundation.Text
import ImageResizer.Foundation.Resumption

/-!
# The file system and the clock

The operations through which the local storage backend acts on its host, what they do
when they succeed, and what they may leave behind when they fail or when the process
stops in the middle.  There are no symbolic links, so a path that exists is canonical.
-/

namespace ImageResizer.Storage

open Resumption

/-- A path from the root, one name for each component. -/
abbrev Path := List (List Char)

inductive IoError where
  | notFound
  | other (text : String)
  deriving DecidableEq

def IoError.toString : IoError → String
  | .notFound => "No such file or directory (os error 2)"
  | .other text => text

inductive Node where
  | directory
  | file (contents : List UInt8)
  deriving DecidableEq

abbrev FileSystem := Path → Option Node

/-! ## Time -/

/-- The first second an `i64` cannot count. -/
def secondsBound : Int := 9223372036854775808

def nanosPerSecond : Nat := 1000000000

/-- `u64::MAX`. -/
def u64Max : Nat := 18446744073709551615

/-- `SystemTime`: nanoseconds since the epoch, whose seconds fit an `i64`. -/
structure Instant where
  nanos : Int
  low : -(secondsBound * nanosPerSecond) ≤ nanos
  high : nanos < secondsBound * nanosPerSecond

/-- `Duration`, in nanoseconds. -/
abbrev Duration := Nat

namespace Instant

/-- `SystemTime::checked_add`. -/
def checkedAdd (start : Instant) (duration : Duration) : Option Instant :=
  if high : start.nanos + duration < secondsBound * nanosPerSecond then
    some ⟨start.nanos + duration, le_trans start.low (by omega), high⟩
  else none

/-- `duration_since(UNIX_EPOCH)`, absent before the epoch. -/
def sinceEpoch (instant : Instant) : Option Duration :=
  if 0 ≤ instant.nanos then some instant.nanos.toNat else none

/-- The whole seconds of the clock: `0` before the epoch. -/
def nowSecs (instant : Instant) : Nat :=
  (instant.sinceEpoch.map (· / nanosPerSecond)).getD 0

/-- The seconds of an instant fit a `u64`, with room to spare. -/
theorem sinceEpoch_secs_lt {instant : Instant} {since : Duration}
    (after : instant.sinceEpoch = some since) : since / nanosPerSecond < u64Max := by
  have high := instant.high
  rw [sinceEpoch] at after
  split at after
  case isFalse => cases after
  case isTrue =>
      obtain rfl := Option.some.inj after
      simp only [secondsBound, nanosPerSecond, Nat.cast_ofNat] at high
      change instant.nanos.toNat / 1000000000 < (18446744073709551615 : Nat)
      omega

end Instant

/-! ## Operations -/

inductive FsOp where
  | createDirAll (path : Path)
  | canonicalize (path : Path)
  | createFile (path : Path)
  | writeAll (path : Path) (data : List UInt8)
  | syncAll (path : Path)
  | rename (source target : Path)
  | removeFile (path : Path)
  | metadata (path : Path)
  | read (path : Path)
  | systemTime
  | fetchAddCounter
  deriving DecidableEq

/-- What an operation answers: `metadata` says whether the path is a regular file. -/
@[reducible]
def FsOp.Reply : FsOp → Type
  | .createDirAll _ => Except IoError Unit
  | .canonicalize _ => Except IoError Path
  | .createFile _ => Except IoError Unit
  | .writeAll _ _ => Except IoError Unit
  | .syncAll _ => Except IoError Unit
  | .rename _ _ => Except IoError Unit
  | .removeFile _ => Except IoError Unit
  | .metadata _ => Except IoError Bool
  | .read _ => Except IoError (List UInt8)
  | .systemTime => Instant
  | .fetchAddCounter => Nat

namespace FileSystem

def isFile (files : FileSystem) (path : Path) : Bool :=
  match files path with
  | some (.file _) => true
  | _ => false

/-- The bytes of a regular file. -/
def bytes (files : FileSystem) (path : Path) : Option (List UInt8) :=
  match files path with
  | some (.file contents) => some contents
  | _ => none

def createDirAll (files : FileSystem) (path : Path) : Except IoError Unit × FileSystem :=
  if path.inits.any files.isFile then (.error (.other "Not a directory (os error 20)"), files)
  else (.ok (), fun queried => if queried <+: path then some .directory else files queried)

def canonicalize (files : FileSystem) (path : Path) : Except IoError Path :=
  match files path with
  | some _ => .ok path
  | none => .error .notFound

/-- `File::create`: an empty file, in place of any file of that name. -/
def createFile (files : FileSystem) (path : Path) : Except IoError Unit × FileSystem :=
  if files path.dropLast ≠ some .directory then (.error .notFound, files)
  else if files path = some .directory then
    (.error (.other "Is a directory (os error 21)"), files)
  else (.ok (), Function.update files path (some (.file [])))

/-- Write to a file opened under this name.  The handle outlives the name. -/
def writeAll (files : FileSystem) (path : Path) (data : List UInt8) : FileSystem :=
  match files path with
  | some (.file _) => Function.update files path (some (.file data))
  | _ => files

/-- `rename` of a regular file; the code renames nothing else. -/
def rename (files : FileSystem) (source target : Path) : Except IoError Unit × FileSystem :=
  match files source with
  | some (.file contents) =>
      if files target.dropLast ≠ some .directory then (.error .notFound, files)
      else if files target = some .directory then
        (.error (.other "Is a directory (os error 21)"), files)
      else
        (.ok (), Function.update (Function.update files source none) target
          (some (.file contents)))
  | some .directory => (.error (.other "Is a directory (os error 21)"), files)
  | none => (.error .notFound, files)

def removeFile (files : FileSystem) (path : Path) : Except IoError Unit × FileSystem :=
  match files path with
  | some (.file _) => (.ok (), Function.update files path none)
  | some .directory => (.error (.other "Is a directory (os error 21)"), files)
  | none => (.error .notFound, files)

/-- `fs::metadata`, reduced to `is_file`. -/
def metadata (files : FileSystem) (path : Path) : Except IoError Bool :=
  match files path with
  | some (.file _) => .ok true
  | some .directory => .ok false
  | none => .error .notFound

def read (files : FileSystem) (path : Path) : Except IoError (List UInt8) :=
  match files path with
  | some (.file contents) => .ok contents
  | some .directory => .error (.other "Is a directory (os error 21)")
  | none => .error .notFound

end FileSystem

/-- A host: its files, how many operations it has answered, and the counter behind
temp-file names. -/
structure Machine where
  files : FileSystem
  steps : Nat
  counter : Nat

namespace Machine

/-- The machine after an operation that left these files. -/
def leaving (machine : Machine) (files : FileSystem) : Machine :=
  { machine with files := files, steps := machine.steps + 1 }

@[simp] theorem leaving_files (machine : Machine) (files : FileSystem) :
    (machine.leaving files).files = files := rfl

@[simp] theorem leaving_steps (machine : Machine) (files : FileSystem) :
    (machine.leaving files).steps = machine.steps + 1 := rfl

@[simp] theorem leaving_counter (machine : Machine) (files : FileSystem) :
    (machine.leaving files).counter = machine.counter := rfl

end Machine

/-- A host on which every operation is carried out.  The clock shows a reading for each
operation, so time may pass between any two of them. -/
def FsOp.perform (clock : Nat → Instant) : Handler FsOp FsOp.Reply Machine
  | .createDirAll path, machine =>
      let (reply, files) := machine.files.createDirAll path
      (reply, machine.leaving files)
  | .canonicalize path, machine =>
      (machine.files.canonicalize path, machine.leaving machine.files)
  | .createFile path, machine =>
      let (reply, files) := machine.files.createFile path
      (reply, machine.leaving files)
  | .writeAll path data, machine =>
      (.ok (), machine.leaving (machine.files.writeAll path data))
  | .syncAll _, machine => (.ok (), machine.leaving machine.files)
  | .rename source target, machine =>
      let (reply, files) := machine.files.rename source target
      (reply, machine.leaving files)
  | .removeFile path, machine =>
      let (reply, files) := machine.files.removeFile path
      (reply, machine.leaving files)
  | .metadata path, machine =>
      (machine.files.metadata path, machine.leaving machine.files)
  | .read path, machine => (machine.files.read path, machine.leaving machine.files)
  | .systemTime, machine => (clock machine.steps, machine.leaving machine.files)
  | .fetchAddCounter, machine =>
      (machine.counter,
        { machine with steps := machine.steps + 1, counter := machine.counter + 1 })

/-! ## Failures -/

/-- What becomes of one operation. -/
inductive Fate where
  | complete
  /-- It fails, having got this far. -/
  | fail (progress : Nat) (error : IoError)
  /-- The process stops during it. -/
  | stop (progress : Nat)

/-- What an operation that is not completed may leave behind: some of the directories,
or the first bytes of the data.  The other operations are atomic. -/
def FsOp.partly (progress : Nat) : FsOp → FileSystem → FileSystem
  | .createDirAll path, files => fun queried =>
      if queried <+: path ∧ queried.length ≤ progress ∧ files queried = none then
        some .directory
      else files queried
  | .writeAll path data, files => files.writeAll path (data.take progress)
  | _, files => files

/-- The failing reply of an operation that can fail. -/
def FsOp.failed (error : IoError) : (op : FsOp) → Option op.Reply
  | .createDirAll _ => some (.error error)
  | .canonicalize _ => some (.error error)
  | .createFile _ => some (.error error)
  | .writeAll _ _ => some (.error error)
  | .syncAll _ => some (.error error)
  | .rename _ _ => some (.error error)
  | .removeFile _ => some (.error error)
  | .metadata _ => some (.error error)
  | .read _ => some (.error error)
  | .systemTime => none
  | .fetchAddCounter => none

/-- A host on which operations can fail and the process can stop.  Reading the clock and
the counter cannot fail: the process can only stop there. -/
def FsOp.attempt (clock : Nat → Instant) : Attempt FsOp FsOp.Reply Machine Fate
  | .complete, op, machine =>
      let (reply, left) := FsOp.perform clock op machine
      (some reply, left)
  | .fail progress error, op, machine =>
      (op.failed error, machine.leaving (op.partly progress machine.files))
  | .stop progress, op, machine =>
      (none, machine.leaving (op.partly progress machine.files))

end ImageResizer.Storage
