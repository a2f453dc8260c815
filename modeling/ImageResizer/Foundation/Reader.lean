import Mathlib

/-!
# Byte readers and the work of table scans

A reader takes bytes off the front of its input or fails.  `AtLeast n` says how much
a successful read takes.

A table is a sequence of entries, each a header followed by as many records as the
header announces, scanned until an entry is wanted.  The scan logs every header and
record it examines with the bytes it took, so that its work can be bounded by its
input.
-/

/-- A fallible read from the front of a byte string. -/
abbrev Reader (α : Type) := StateT (List UInt8) Option α

namespace Reader

variable {α β Head : Type}

/-- The next `n` bytes. -/
def bytes (n : Nat) : Reader (List UInt8) := fun input =>
  if n ≤ input.length then some (input.take n, input.drop n) else none

/-- A big-endian unsigned integer. -/
def bigEndian (digits : List UInt8) : Nat :=
  digits.foldl (fun value digit => value * 2 ^ 8 + digit.toNat) 0

/-- An unsigned integer of a fixed number of bytes. -/
def uint (n : Nat) : Reader Nat := bigEndian <$> bytes n

/-- A successful read takes at least `n` bytes off the front. -/
def AtLeast (n : Nat) (reader : Reader α) : Prop :=
  ∀ input value rest, reader.run input = some (value, rest) → rest.length + n ≤ input.length

namespace AtLeast

variable {n m : Nat} {reader : Reader α}

theorem mono (takes : AtLeast n reader) (less : m ≤ n) : AtLeast m reader := by
  intro input value rest ran
  have taken := takes input value rest ran
  omega

theorem pure (value : α) : AtLeast 0 (pure value : Reader α) := by
  intro input got rest ran
  simp only [StateT.run_pure] at ran
  cases ran
  exact Nat.le_refl _

theorem fail : AtLeast n (failure : Reader α) := by
  intro input value rest ran
  cases ran

theorem bind {next : α → Reader β} (first : AtLeast n reader)
    (second : ∀ value, AtLeast m (next value)) : AtLeast (n + m) (reader >>= next) := by
  intro input value rest ran
  rw [StateT.run_bind] at ran
  obtain ⟨⟨middle, left⟩, firstRan, secondRan⟩ := Option.bind_eq_some_iff.mp ran
  have taken := first input middle left firstRan
  have takenNext := second middle left value rest secondRan
  omega

theorem map (f : α → β) (takes : AtLeast n reader) : AtLeast n (f <$> reader) := by
  rw [map_eq_pure_bind]
  exact takes.bind fun value => AtLeast.pure (f value)

theorem bytes (n : Nat) : AtLeast n (Reader.bytes n) := by
  intro input value rest ran
  simp only [StateT.run, Reader.bytes] at ran
  split at ran
  · cases ran
    rw [List.length_drop]
    omega
  · cases ran

theorem uint (n : Nat) : AtLeast n (Reader.uint n) := (AtLeast.bytes n).map bigEndian

end AtLeast

/-! ## Scans -/

/-- What a scan examined: the bytes each header or record took by itself, or `none`
for one that the end of the input cut off. -/
abbrev Log := List (Option Nat)

/-- Read `count` records one after another. -/
def times (record : Reader α) : Nat → List UInt8 → Option (List α × List UInt8) × Log
  | 0, input => (some ([], input), [])
  | count + 1, input =>
      match record.run input with
      | none => (none, [none])
      | some (value, rest) =>
          let (read, log) := times record count rest
          (read.map fun read => (value :: read.1, read.2),
            some (input.length - rest.length) :: log)

/-- Scan a table of `entries` entries for the first wanted one. -/
def scan (header : Reader Head) (record : Head → Reader α) (count : Head → Nat)
    (wanted : Head → Bool) : Nat → List UInt8 → Option (Head × List α) × Log
  | 0, _ => (none, [])
  | entries + 1, input =>
      match header.run input with
      | none => (none, [none])
      | some (head, rest) =>
          let (read, log) := times (record head) (count head) rest
          let log := some (input.length - rest.length) :: log
          match read with
          | none => (none, log)
          | some (values, rest) =>
              if wanted head then (some (head, values), log)
              else
                let (found, later) := scan header record count wanted entries rest
                (found, log ++ later)

/-- Every examined record took something. -/
def Log.Consuming (log : Log) : Prop := ∀ taken, some taken ∈ log → 1 ≤ taken

/-- The work of reading records that each take at least one byte: as many records as
bytes taken, and one more when the last is cut off. -/
theorem times_work {record : Reader α} (takes : AtLeast 1 record) (count : Nat)
    (input : List UInt8) :
    Log.Consuming (times record count input).2 ∧
      (∀ values rest, (times record count input).1 = some (values, rest) →
        (times record count input).2.length + rest.length ≤ input.length) ∧
      (times record count input).2.length ≤ input.length + 1 := by
  induction count generalizing input with
  | zero => simp [times, Log.Consuming]
  | succ count ih =>
      simp only [times]
      cases ran : record.run input with
      | none => simp [Log.Consuming]
      | some read =>
          obtain ⟨value, rest⟩ := read
          obtain ⟨consuming, complete, total⟩ := ih rest
          have taken := takes input value rest ran
          refine ⟨?_, ?_, ?_⟩
          · intro took member
            simp only [List.mem_cons, Option.some.injEq] at member
            rcases member with rfl | later
            · omega
            · exact consuming took later
          · intro values left done
            simp only [Option.map_eq_some_iff] at done
            obtain ⟨⟨values', left'⟩, read, same⟩ := done
            cases same
            have bound := complete values' left' read
            simp only [List.length_cons]
            omega
          · simp only [List.length_cons]
            omega

/-- The work of a table scan whose headers and records take at least one byte each. -/
theorem scan_work {header : Reader Head} {record : Head → Reader α} {count : Head → Nat}
    {wanted : Head → Bool} (headers : AtLeast 1 header)
    (records : ∀ head, AtLeast 1 (record head)) (entries : Nat) (input : List UInt8) :
    Log.Consuming (scan header record count wanted entries input).2 ∧
      (scan header record count wanted entries input).2.length ≤ input.length + 1 := by
  induction entries generalizing input with
  | zero => simp [scan, Log.Consuming]
  | succ entries ih =>
      simp only [scan]
      cases ran : header.run input with
      | none => simp [Log.Consuming]
      | some read =>
          obtain ⟨head, rest⟩ := read
          have taken := headers input head rest ran
          obtain ⟨consuming, complete, total⟩ :=
            times_work (records head) (count head) rest
          have own : Log.Consuming
              (some (input.length - rest.length) ::
                (times (record head) (count head) rest).2) := by
            intro took member
            simp only [List.mem_cons, Option.some.injEq] at member
            rcases member with rfl | later
            · omega
            · exact consuming took later
          simp only
          cases done : (times (record head) (count head) rest).1 with
          | none => exact ⟨own, by simp only [List.length_cons]; omega⟩
          | some read =>
              obtain ⟨values, left⟩ := read
              have bound := complete values left done
              simp only
              split
              · exact ⟨own, by simp only [List.length_cons]; omega⟩
              · obtain ⟨later, bounded⟩ := ih left
                constructor
                · intro took member
                  rcases List.mem_append.mp member with here | there
                  · exact own took here
                  · exact later took there
                · simp only [List.length_append, List.length_cons]
                  omega

/-- Whether a scan whose records take nothing examines a record at all. -/
def announces (header : Reader Head) (count : Head → Nat) (wanted : Head → Bool) :
    Nat → List UInt8 → Bool
  | 0, _ => false
  | entries + 1, input =>
      match header.run input with
      | none => false
      | some (head, rest) =>
          0 < count head || (!wanted head && announces header count wanted entries rest)

/-- Records that take nothing are read as often as they are announced. -/
theorem times_empty {record : Reader α} {value : α}
    (empty : ∀ input, record.run input = some (value, input)) (count : Nat)
    (input : List UInt8) :
    times record count input =
      (some (List.replicate count value, input), List.replicate count (some 0)) := by
  induction count with
  | zero => rfl
  | succ count ih => simp [times, empty, ih, List.replicate_succ]

/-- The work of a table scan whose records take nothing: it is bounded exactly when no
record is announced. -/
theorem scan_work_empty {header : Reader Head} {record : Head → Reader α}
    {count : Head → Nat} {wanted : Head → Bool} {value : α} (headers : AtLeast 1 header)
    (empty : ∀ head input, (record head).run input = some (value, input))
    (entries : Nat) (input : List UInt8) :
    (announces header count wanted entries input = true →
      some 0 ∈ (scan header record count wanted entries input).2) ∧
    (announces header count wanted entries input = false →
      Log.Consuming (scan header record count wanted entries input).2 ∧
        (scan header record count wanted entries input).2.length ≤ input.length + 1) := by
  induction entries generalizing input with
  | zero => simp [scan, announces, Log.Consuming]
  | succ entries ih =>
      simp only [scan, announces]
      cases ran : header.run input with
      | none => simp [Log.Consuming]
      | some read =>
          obtain ⟨head, rest⟩ := read
          have taken := headers input head rest ran
          obtain ⟨announced, silent⟩ := ih rest
          simp only [times_empty (empty head)]
          cases number : count head with
          | zero =>
              cases isWanted : wanted head with
              | true =>
                  refine ⟨by simp, fun _ => ⟨?_, ?_⟩⟩
                  · intro took member
                    simp at member
                    omega
                  · simp
              | false =>
                  refine ⟨fun later => ?_, fun quiet => ?_⟩
                  · have found := announced (by simpa using later)
                    simp [found]
                  · obtain ⟨consuming, bounded⟩ := silent (by simpa using quiet)
                    constructor
                    · intro took member
                      simp at member
                      rcases member with rfl | later
                      · omega
                      · exact consuming took later
                    · simp
                      omega
          | succ number =>
              refine ⟨fun _ => ?_, by simp⟩
              split <;> simp [List.replicate_succ]

end Reader
