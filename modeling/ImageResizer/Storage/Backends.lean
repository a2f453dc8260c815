import ImageResizer.Storage.LocalBackend
import ImageResizer.Storage.S3Backend

/-!
# Both backends are one map

The local backend and the S3 backend answer every sequential run of calls as the same map
with lifetimes does, each call at an instant between its start and its end.
-/

namespace ImageResizer.Storage

open TtlMap

variable {subPath : List Char}

/-- What the map promises of a key. -/
structure Promises (subPath : List Char) : Prop where
  /-- An upload replaces the bytes and the expiry; its entry is absent from the end of its
  lifetime on, and present until a second before. -/
  uploaded : ∀ (store : Store (KeyParts subPath) (List UInt8) Instant Duration)
    (key : KeyParts subPath) (data : List UInt8) (ttl : Option Duration) (start now : Instant)
    (between : List (Call (KeyParts subPath) (List UInt8) Duration × Instant)),
    (∀ step ∈ between, step.1.leaves key) →
    let reported := (store.after lifetime ((.upload key data ttl, start) :: between)).find
      lifetime key now
    (ttl = none → reported = some data) ∧
    ∀ duration, ttl = some duration →
      (start.nanos + duration ≤ now.nanos → reported = none) ∧
      (now.nanos ≤ start.nanos + duration - nanosPerSecond → reported = some data)
  deleted : ∀ (store : Store (KeyParts subPath) (List UInt8) Instant Duration)
    (key : KeyParts subPath) (start now : Instant)
    (between : List (Call (KeyParts subPath) (List UInt8) Duration × Instant)),
    (∀ step ∈ between, step.1.leaves key) →
    (store.after lifetime ((.delete key, start) :: between)).find lifetime key now = none
  idempotent : ∀ (store : Store (KeyParts subPath) (List UInt8) Instant Duration)
    (key : KeyParts subPath) (first second : Instant),
    (store.step lifetime first (.delete key)).2.step lifetime second (.delete key) =
      store.step lifetime first (.delete key)
  framed : ∀ (store : Store (KeyParts subPath) (List UInt8) Instant Duration)
    (key : KeyParts subPath) (call : Call (KeyParts subPath) (List UInt8) Duration)
    (start now : Instant), call.leaves key →
    (store.step lifetime start call).2.find lifetime key now = store.find lifetime key now

theorem promises : Promises subPath where
  uploaded := by
    intro store key data ttl start now between leaves reported
    have found : reported = _ := find_after_upload lifetime data ttl start now leaves
    constructor
    · rintro rfl
      exact found
    · rintro duration rfl
      rw [Option.all_some] at found
      constructor
      · intro past
        rw [lifetime_over past] at found
        exact found
      · intro early
        rw [lifetime_lasts early] at found
        exact found
  deleted store key start now between leaves := find_after_delete lifetime start now leaves
  idempotent store key first second := delete_idempotent lifetime first second
  framed store key call start now leaves := by
    rw [Store.find, Store.find, step_of_leaves lifetime leaves]

/-- From states that show the same map, both backends answer every run of calls as the map
does: the local backend whenever its shards can be worked in, the S3 backend up to the
first put whose expiry its date format cannot express. -/
theorem backends_refine_map (locals : LocalFSStorage) (objects : MinIOStorage) (date : HttpDate)
    (localClock s3Clock : Nat → Instant) (contentType : String)
    (localMonotone : Monotone localClock) (localAfter : ∀ step, 0 ≤ (localClock step).nanos)
    (s3Monotone : Monotone s3Clock) (s3After : ∀ step, 0 ≤ (s3Clock step).nanos)
    (machine : Machine) (service : S3Service)
    (store : Store (KeyParts subPath) (List UInt8) Instant Duration)
    (ready : Ready (keyShards locals subPath) machine.files)
    (localShown : (localBackend locals localClock contentType).Shows lifetime machine store)
    (s3Shown : (s3Backend objects date s3Clock contentType).Shows lifetime service store)
    (calls : List (Call (KeyParts subPath) (List UInt8) Duration)) :
    (localBackend locals localClock contentType).NeverFails calls machine ∧
      (localBackend locals localClock contentType).Refines lifetime calls machine store ∧
      (s3Backend objects date s3Clock contentType).Refines lifetime calls service store ∧
      Promises subPath := by
  obtain ⟨through, refined⟩ := local_refines localMonotone localAfter calls ready localShown
  exact ⟨through, refined, s3_refines s3Monotone s3After calls s3Shown, promises⟩

/-- A host with an empty root directory. -/
def emptyMachine : Machine := ⟨fun path => if path = [] then some .directory else none, 0, 0⟩

theorem emptyMachine_ready (shards : Shards) : Ready shards emptyMachine.files where
  ancestors := by
    intro path above present below differs
    by_cases root : path = []
    case pos =>
        rw [root, List.prefix_nil] at below
        exact absurd (below.trans root.symm) differs
    case neg => exact absurd (if_neg root) present
  regular := by
    intro dir name _
    simp [emptyMachine]
  unobstructed := by
    intro dir above _ _
    by_cases root : above = [] <;> simp [FileSystem.isFile, emptyMachine, root]

/-- The fifth second of the epoch, the only one the example writes. -/
def fifthSecond : List Char := "Thu, 01 Jan 1970 00:00:05 GMT".toList

def sampleDate : HttpDate where
  fmt instant := if instant.second = 5 then some fifthSecond else none
  secs text := if text = fifthSecond then some 5 else none
  rounds := by
    intro instant text written
    split at written
    case isTrue fifth =>
        obtain rfl := Option.some.inj written
        rw [if_pos rfl, fifth]
    case isFalse => cases written

def sampleCalls : List (Call (KeyParts ['i', 'm', 'g', '/']) (List UInt8) Duration) :=
  [.upload sampleKey [1] (some 5000000000), .check sampleKey, .get sampleKey, .delete sampleKey]

/-- Both backends, starting empty at the epoch. -/
theorem backends_refine_map_sample :
    let locals := localBackend sampleStorage (fun _ => epoch) "image/png"
    let objects := s3Backend ⟨['b']⟩ sampleDate (fun _ => epoch) "image/png"
    locals.Refines lifetime sampleCalls emptyMachine (fun _ => none) ∧
      objects.Refines lifetime sampleCalls ⟨fun _ => none, 0⟩ fun _ => none := by
  have refined := backends_refine_map sampleStorage ⟨['b']⟩ sampleDate (fun _ => epoch)
    (fun _ => epoch) "image/png" monotone_const (fun _ => le_refl (0 : Int)) monotone_const
    (fun _ => le_refl (0 : Int)) emptyMachine ⟨fun _ => none, 0⟩ (fun _ => none)
    (emptyMachine_ready _) (fun _ _ _ => rfl) (fun _ _ _ => rfl) sampleCalls
  exact ⟨refined.2.1, refined.2.2.1⟩

end ImageResizer.Storage
