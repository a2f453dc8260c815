import ImageResizer.Foundation.Reader

/-!
# What a writer wrote, a reader reads

`Reads reader written value` says that a reader takes exactly the written bytes off the
front of its input, whatever follows them.  Fields written one after another are read one
after another, and a table that was written entry by entry is scanned to its first wanted
entry.
-/

namespace Reader

variable {α β Head Entry : Type}

/-- The reader takes the written bytes for the value and leaves the rest. -/
def Reads (reader : Reader α) (written : List UInt8) (value : α) : Prop :=
  ∀ rest, reader.run (written ++ rest) = some (value, rest)

/-- A big-endian unsigned integer in a number of bytes. -/
def uintBytes : (width value : Nat) → List UInt8
  | 0, _ => []
  | width + 1, value => uintBytes width (value / 256) ++ [UInt8.ofNat value]

@[simp]
theorem length_uintBytes (width value : Nat) : (uintBytes width value).length = width := by
  induction width generalizing value with
  | zero => rfl
  | succ width ih => rw [uintBytes, List.length_append, ih, List.length_singleton]

theorem bigEndian_append_singleton (digits : List UInt8) (digit : UInt8) :
    bigEndian (digits ++ [digit]) = bigEndian digits * 2 ^ 8 + digit.toNat := by
  rw [bigEndian, List.foldl_append]
  rfl

/-- An integer of as many bytes. -/
theorem bigEndian_lt (digits : List UInt8) : bigEndian digits < 256 ^ digits.length := by
  induction digits using List.reverseRecOn with
  | nil => exact Nat.one_pos
  | append_singleton digits digit ih =>
      have small := digit.toNat_lt
      rw [bigEndian_append_singleton, List.length_append, List.length_singleton, pow_succ]
      omega

/-- An integer that fits its bytes is the one they spell. -/
theorem bigEndian_uintBytes {width value : Nat} (fits : value < 256 ^ width) :
    bigEndian (uintBytes width value) = value := by
  induction width generalizing value with
  | zero =>
      have zero : value = 0 := by simpa using fits
      rw [zero]
      rfl
  | succ width ih =>
      have small : value / 256 < 256 ^ width := by
        rw [Nat.div_lt_iff_lt_mul (by decide)]
        simpa [Nat.pow_succ] using fits
      rw [uintBytes, bigEndian_append_singleton, ih small, UInt8.toNat_ofNat']
      omega

/-- What is left of the input behind an integer is its end. -/
theorem suffix_of_uint {width value : Nat} {input rest : List UInt8}
    (read : (uint width).run input = some (value, rest)) : rest <:+ input := by
  rw [uint, StateT.run_map] at read
  obtain ⟨⟨taken, left⟩, ran, same⟩ := Option.map_eq_some_iff.mp read
  cases same
  simp only [StateT.run, bytes] at ran
  split at ran
  · cases ran
    exact List.drop_suffix width input
  · cases ran

namespace Reads

variable {reader : Reader α} {written more : List UInt8} {value : α}

theorem pure (value : α) : Reads (pure value) [] value := fun _ => rfl

theorem bind {next : α → Reader β} {result : β} (first : Reads reader written value)
    (second : Reads (next value) more result) :
    Reads (reader >>= next) (written ++ more) result := by
  intro rest
  rw [List.append_assoc, StateT.run_bind, first (more ++ rest)]
  exact second rest

/-- A last step that takes nothing. -/
theorem map (f : α → β) (reads : Reads reader written value) :
    Reads (f <$> reader) written (f value) := by
  intro rest
  rw [StateT.run_map, reads rest]
  rfl

/-- What is written first, read last: nothing after the last field. -/
theorem done {next : α → Reader β} {result : β} (first : Reads reader written value)
    (second : Reads (next value) [] result) : Reads (reader >>= next) written result := by
  have both := first.bind second
  rw [List.append_nil] at both
  exact both

theorem bytes (content : List UInt8) : Reads (Reader.bytes content.length) content content := by
  intro rest
  simp [Reader.bytes, StateT.run]

theorem bytes_of_length {content : List UInt8} {width : Nat} (length : content.length = width) :
    Reads (Reader.bytes width) content content := by
  subst length
  exact Reads.bytes content

theorem uint {width value : Nat} (fits : value < 256 ^ width) :
    Reads (Reader.uint width) (uintBytes width value) value := by
  have digits := (bytes_of_length (length_uintBytes width value)).map bigEndian
  rw [bigEndian_uintBytes fits] at digits
  exact digits

end Reads

/-- Records written one after another are read one after another. -/
theorem times_reads {record : Reader α} {Record : Type} (written : Record → List UInt8)
    (value : Record → α) {records : List Record}
    (each : ∀ entry ∈ records, Reads record (written entry) (value entry)) (rest : List UInt8) :
    (times record records.length (records.flatMap written ++ rest)).1 =
      some (records.map value, rest) := by
  induction records with
  | nil => rfl
  | cons head tail ih =>
      have first := each head (List.mem_cons_self ..) (tail.flatMap written ++ rest)
      have others := ih fun entry member => each entry (List.mem_cons_of_mem _ member)
      rw [List.length_cons, times, List.flatMap_cons, List.append_assoc, first]
      simp only [others, Option.map_some, List.map_cons]

/-- What a scan finds is wanted. -/
theorem scan_wanted {header : Reader Head} {record : Head → Reader α} {count : Head → Nat}
    {wanted : Head → Bool} {entries : Nat} {input : List UInt8} {head : Head} {values : List α}
    (found : (scan header record count wanted entries input).1 = some (head, values)) :
    wanted head = true := by
  induction entries generalizing input with
  | zero => cases found
  | succ entries ih =>
      rw [scan] at found
      split at found
      · cases found
      · simp only at found
        split at found
        · cases found
        · split at found
          · rename_i isWanted
            cases found
            exact isWanted
          · exact ih found

/-- An entry of a table as it is read: its header, then the records it announces. -/
structure ReadsEntry (header : Reader Head) (record : Head → Reader α) (count : Head → Nat)
    (written : List UInt8) (head : Head) (values : List α) : Prop where
  reads : ∀ rest, ∃ records, header.run (written ++ rest) = some (head, records) ∧
    (times (record head) (count head) records).1 = some (values, rest)

/-- A table is scanned to its first wanted entry. -/
theorem scan_reads {header : Reader Head} {record : Head → Reader α} {count : Head → Nat}
    {wanted : Head → Bool} (written : Entry → List UInt8) (head : Entry → Head)
    (values : Entry → List α) {entries : List Entry}
    (each : ∀ entry ∈ entries,
      ReadsEntry header record count (written entry) (head entry) (values entry))
    (rest : List UInt8) :
    (scan header record count wanted entries.length (entries.flatMap written ++ rest)).1 =
      (entries.find? fun entry => wanted (head entry)).map fun entry =>
        (head entry, values entry) := by
  induction entries with
  | nil => rfl
  | cons entry others ih =>
      obtain ⟨records, headRead, valuesRead⟩ :=
        (each entry (List.mem_cons_self ..)).reads (others.flatMap written ++ rest)
      have later := ih fun other member => each other (List.mem_cons_of_mem _ member)
      rw [List.length_cons, scan, List.flatMap_cons, List.append_assoc, headRead, List.find?_cons]
      simp only [valuesRead]
      cases isWanted : wanted (head entry) with
      | true => simp
      | false => simpa using later

end Reader
