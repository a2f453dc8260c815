import ImageResizer.Foundation.ReaderWriter

/-!
# RIFF files

A RIFF file is a size and a form type in front of chunks, each a four-character code, a size
and a payload padded to an even length.  Sizes are little-endian and do not count the
padding, except that of a chunk inside another, which is part of what the outer one counts.
What is written in this shape is read back by a reader that checks every size.
-/

namespace Riff

open Reader

/-- Little-endian digits of a fixed number. -/
def uintBytesLE (width value : Nat) : List UInt8 := (uintBytes width value).reverse

/-- A little-endian unsigned integer of a fixed number of bytes. -/
def uintLE (width : Nat) : Reader Nat := (fun digits => bigEndian digits.reverse) <$> bytes width

@[simp]
theorem length_uintBytesLE (width value : Nat) : (uintBytesLE width value).length = width := by
  rw [uintBytesLE, List.length_reverse, length_uintBytes]

theorem reads_uintLE {width value : Nat} (fits : value < 256 ^ width) :
    Reads (uintLE width) (uintBytesLE width value) value := by
  have digits := (Reads.bytes_of_length (length_uintBytesLE width value)).map
    fun digits => bigEndian digits.reverse
  rw [uintBytesLE, List.reverse_reverse, bigEndian_uintBytes fits] at digits
  exact digits

/-- A chunk: its code and its payload. -/
@[ext]
structure Chunk where
  fourcc : List UInt8
  payload : List UInt8
  deriving DecidableEq

namespace Chunk

/-- The zero that makes a payload even. -/
def padding (size : Nat) : List UInt8 := if size % 2 = 1 then [0] else []

/-- The bytes of a chunk. -/
def written (chunk : Chunk) : List UInt8 :=
  chunk.fourcc ++ (uintBytesLE 4 chunk.payload.length ++
    (chunk.payload ++ padding chunk.payload.length))

/-- The code is one of four characters, and the size fits its field. -/
structure Fits (chunk : Chunk) : Prop where
  fourcc : chunk.fourcc.length = 4
  payload : chunk.payload.length < 2 ^ 32

/-- The padding behind a payload of a size. -/
def readPadding (size : Nat) : Reader Unit := do
  let pad ← bytes (padding size).length
  if pad = padding size then pure () else failure

/-- One chunk from the front of the input. -/
def read : Reader Chunk := do
  let fourcc ← bytes 4
  let size ← uintLE 4
  let payload ← bytes size
  readPadding size
  pure ⟨fourcc, payload⟩

theorem reads_padding (size : Nat) : Reads (readPadding size) (padding size) () := by
  unfold readPadding
  apply (Reads.bytes (padding size)).done
  rw [if_pos rfl]
  exact Reads.pure ()

theorem reads_written {chunk : Chunk} (fits : chunk.Fits) : Reads read chunk.written chunk := by
  have code := Reads.bytes_of_length fits.fourcc
  have size := @reads_uintLE 4 chunk.payload.length fits.payload
  have payload := Reads.bytes chunk.payload
  apply code.bind
  apply size.bind
  apply payload.bind
  exact (reads_padding chunk.payload.length).done (Reads.pure _)

/-- A chunk has at least its header. -/
theorem length_written {chunk : Chunk} (fits : chunk.Fits) :
    chunk.written.length =
      8 + chunk.payload.length + (padding chunk.payload.length).length := by
  rw [written, List.length_append, List.length_append, List.length_append, fits.fourcc,
    length_uintBytesLE]
  omega

theorem length_payload_le (chunk : Chunk) : chunk.payload.length ≤ chunk.written.length := by
  rw [written, List.length_append, List.length_append, List.length_append]
  omega

end Chunk

/-- Chunks up to the end of the input, at most a number of them. -/
def readChunks : (budget : Nat) → List UInt8 → Option (List Chunk)
  | _, [] => some []
  | 0, _ :: _ => none
  | budget + 1, input =>
      match Chunk.read.run input with
      | none => none
      | some (chunk, rest) => (readChunks budget rest).map (chunk :: ·)

/-- Chunks written one after another are read back in order. -/
theorem readChunks_written {chunks : List Chunk} (fits : ∀ chunk ∈ chunks, chunk.Fits)
    {budget : Nat} (enough : chunks.length ≤ budget) :
    readChunks budget (chunks.flatMap Chunk.written) = some chunks := by
  induction chunks generalizing budget with
  | nil => cases budget <;> rfl
  | cons chunk rest ih =>
      have chunkFits := fits chunk (List.mem_cons_self ..)
      have length := Chunk.length_written chunkFits
      cases budget with
      | zero => cases enough
      | succ budget =>
          have others := ih (fun other member => fits other (List.mem_cons_of_mem _ member))
            (Nat.le_of_succ_le_succ enough)
          have reads := Chunk.reads_written chunkFits (rest.flatMap Chunk.written)
          rw [List.flatMap_cons]
          cases input : chunk.written ++ rest.flatMap Chunk.written with
          | nil =>
              have empty := congrArg List.length input
              rw [List.length_append, length, List.length_nil] at empty
              omega
          | cons byte bytes =>
              rw [input] at reads
              rw [readChunks, reads]
              · dsimp only
                rw [others]
                rfl
              · intro empty
                cases empty

/-- Every chunk takes eight bytes at least. -/
theorem length_le_flatMap_written {chunks : List Chunk} (fits : ∀ chunk ∈ chunks, chunk.Fits) :
    chunks.length ≤ (chunks.flatMap Chunk.written).length := by
  induction chunks with
  | nil => exact Nat.zero_le _
  | cons chunk rest ih =>
      have others := ih fun other member => fits other (List.mem_cons_of_mem _ member)
      have length := Chunk.length_written (fits chunk (List.mem_cons_self ..))
      rw [List.flatMap_cons, List.length_append, List.length_cons]
      omega

theorem length_payload_le_flatMap {chunks : List Chunk} {chunk : Chunk} (member : chunk ∈ chunks) :
    chunk.payload.length ≤ (chunks.flatMap Chunk.written).length := by
  obtain ⟨before, after, rfl⟩ := List.append_of_mem member
  have payload := chunk.length_payload_le
  rw [List.flatMap_append, List.flatMap_cons, List.length_append, List.length_append]
  omega

section Form

/-- The letters `RIFF`. -/
def magic : List UInt8 := [0x52, 0x49, 0x46, 0x46]

/-- A file of one form: its type and its chunks. -/
structure Form where
  formType : List UInt8
  chunks : List Chunk
  deriving DecidableEq

/-- What the outer size counts. -/
def Form.body (form : Form) : List UInt8 := form.formType ++ form.chunks.flatMap Chunk.written

def Form.written (form : Form) : List UInt8 :=
  magic ++ (uintBytesLE 4 form.body.length ++ form.body)

/-- A file, whose outer size has to be the number of bytes behind it. -/
def readForm (data : List UInt8) : Option Form := do
  let (start, rest) ← (bytes 4).run data
  guard (start = magic)
  let (size, rest) ← (uintLE 4).run rest
  guard (size = rest.length)
  let (formType, rest) ← (bytes 4).run rest
  let chunks ← readChunks rest.length rest
  pure { formType, chunks }

theorem readForm_written {form : Form} (typed : form.formType.length = 4)
    (fits : ∀ chunk ∈ form.chunks, chunk.Fits) (small : form.body.length < 2 ^ 32) :
    readForm form.written = some form := by
  have start := @Reads.bytes_of_length magic 4 rfl (uintBytesLE 4 form.body.length ++ form.body)
  have size := @reads_uintLE 4 form.body.length small form.body
  have kind := Reads.bytes_of_length typed (form.chunks.flatMap Chunk.written)
  have chunks := readChunks_written fits (length_le_flatMap_written fits)
  unfold readForm Form.written
  rw [start]
  simp only [Option.bind_eq_bind, Option.bind_some, guard_true]
  rw [size]
  simp only [Option.bind_some, guard_true]
  rw [Form.body, kind]
  simp only [Option.bind_some, chunks]
  rfl

end Form

end Riff
