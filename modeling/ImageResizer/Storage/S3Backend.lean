import ImageResizer.Storage.S3

/-!
# The S3 backend as a map

One call after the other, the S3 backend behaves like a map whose entries expire, as long
as every put can be sent.
-/

namespace ImageResizer.Storage

open Resumption TtlMap

namespace MinIOStorage

variable (storage : MinIOStorage) (date : HttpDate) (clock : Nat → Instant)

/-- The clock has not reached the second of the `Expires` header, if it can be read. -/
def liveAt (expires : Option (List Char)) (now : Instant) : Bool :=
  match expires.bind date.secs with
  | none => true
  | some secs => decide ((now.nowSecs : Int) < secs)

/-- What a read of a key reports at an instant. -/
def found (key : List Char) (service : S3Service) (now : Instant) : Option (List UInt8) :=
  ((service.objects (storage.bucket, key)).filter fun object =>
    liveAt date object.expires now).map (·.body)

variable {date} in
theorem liveAt_antitone {expires : Option (List Char)} {earlier later : Instant}
    (ordered : earlier ≤ later) (after : 0 ≤ earlier.nanos) (live : liveAt date expires later) :
    liveAt date expires earlier := by
  rw [liveAt] at live ⊢
  split
  case h_1 => rfl
  case h_2 secs read =>
      rw [read, decide_eq_true_eq, Instant.nowSecs_eq (after.trans ordered)] at live
      rw [decide_eq_true_eq, Instant.nowSecs_eq after]
      exact (Int.ediv_le_ediv (by decide) ordered).trans_lt live

/-- The expiry check is made with one reading of the clock. -/
theorem isExpired_run (expires : Option (List Char)) (service : S3Service) :
    ∃ left reading, (isExpired date expires).run (S3Op.perform date clock) service =
        (!liveAt date expires (clock reading), left) ∧ left.objects = service.objects ∧
      service.steps ≤ left.steps ∧ service.steps ≤ reading ∧ reading ≤ left.steps := by
  cases expires with
  | none => exact ⟨service, service.steps, rfl, rfl, le_refl _, le_refl _, le_refl _⟩
  | some text =>
      simp only [isExpired, liveAt, Option.bind_some]
      cases date.secs text with
      | none => exact ⟨service, service.steps, rfl, rfl, le_refl _, le_refl _, le_refl _⟩
      | some secs =>
          have flipped : decide (((clock service.steps).nowSecs : Int) ≥ secs) =
              !decide (((clock service.steps).nowSecs : Int) < secs) := by
            rw [← decide_not]
            exact decide_eq_decide.mpr not_lt.symm
          exact ⟨⟨service.objects, service.steps + 1⟩, service.steps, Prod.ext flipped rfl, rfl,
            Nat.le_succ _, le_refl _, Nat.le_succ _⟩

/-- The objects without one key. -/
def evicted (key : List Char) (service : S3Service) : List Char × List Char → Option S3Object :=
  Function.update service.objects (storage.bucket, key) none

/-- What a reader leaves: an expired object is deleted. -/
def swept (key : List Char) (service : S3Service) (now : Instant) :
    List Char × List Char → Option S3Object :=
  if (service.objects (storage.bucket, key)).all fun object => liveAt date object.expires now then
    service.objects
  else storage.evicted key service

variable (key : List Char) (service : S3Service)

theorem checkCache_run :
    ∃ left reading, (storage.checkCache date key).run (S3Op.perform date clock) service =
        (.ok (storage.found date key service (clock reading)).isSome, left) ∧
      service.steps ≤ reading ∧ reading ≤ left.steps ∧
      left.objects = storage.swept date key service (clock reading) := by
  rw [checkCache, Program.perform_bind, Program.run_call]
  simp only [S3Op.perform, found, swept]
  cases stored : service.objects (storage.bucket, key) with
  | none => exact ⟨_, service.steps, rfl, le_refl _, Nat.le_succ _, rfl⟩
  | some object =>
      obtain ⟨left, reading, ran, kept, later, from_, until_⟩ :=
        isExpired_run date clock object.expires ⟨service.objects, service.steps + 1⟩
      rw [Program.run_bind, ran]
      have started : service.steps ≤ reading := (Nat.le_succ _).trans from_
      cases live : liveAt date object.expires (clock reading) with
      | true =>
          refine ⟨left, reading, ?_, started, until_, ?_⟩
          · simp only [Option.filter_some, live, if_true]
            rfl
          · simp only [Option.all_some, live, if_true, kept]
      | false =>
          refine ⟨⟨storage.evicted key left, left.steps + 1⟩, reading, ?_, started,
            until_.trans (Nat.le_succ _), ?_⟩
          · simp only [Option.filter_some, live, Bool.false_eq_true, if_false]
            rfl
          · simp only [Option.all_some, live, Bool.false_eq_true, if_false, evicted, kept]

theorem observe_notFoundText (ending : String) :
    observeImage (Outcome.fail (Failure.message (notFoundText key ++ ending))) =
      .image none := by
  have split : "Image not found in S3: " = "Image not found" ++ " in S3: " := by simp
  have whole : notFoundText key ++ ending =
    "Image not found in S3: " ++ (String.ofList key ++ ending) := String.append_assoc
  rw [whole]
  exact observeImage_missing (saysNotFound_of_start split _)

theorem getImage_run :
    ∃ outcome left reading,
      (storage.getImage date key).run (S3Op.perform date clock) service = (outcome, left) ∧
      service.steps ≤ reading ∧ reading ≤ left.steps ∧
      observeImage outcome = .image (storage.found date key service (clock reading)) ∧
      left.objects = storage.swept date key service (clock reading) := by
  rw [getImage, Program.perform_bind, Program.run_call]
  simp only [S3Op.perform, found, swept]
  cases stored : service.objects (storage.bucket, key) with
  | none =>
      refine ⟨_, _, service.steps, rfl, le_refl _, Nat.le_succ _, ?_, rfl⟩
      rw [← String.append_empty (s := notFoundText key)]
      exact observe_notFoundText key ""
  | some object =>
      obtain ⟨left, reading, ran, kept, later, from_, until_⟩ :=
        isExpired_run date clock object.expires ⟨service.objects, service.steps + 1⟩
      dsimp only
      rw [Program.run_bind, ran]
      have started : service.steps ≤ reading := (Nat.le_succ _).trans from_
      cases live : liveAt date object.expires (clock reading) with
      | true =>
          refine ⟨.ok object.body, ⟨left.objects, left.steps + 1⟩, reading, rfl, started,
            until_.trans (Nat.le_succ _), ?_, ?_⟩
          · simp only [Option.filter_some, live, if_true]
            rfl
          · simp only [Option.all_some, live, if_true, kept]
      | false =>
          refine ⟨_, ⟨storage.evicted key left, left.steps + 1⟩, reading, rfl, started,
            until_.trans (Nat.le_succ _), ?_, ?_⟩
          · simp only [Option.filter_some, live, Bool.false_eq_true, if_false]
            exact observe_notFoundText key " (expired)"
          · simp only [Option.all_some, live, Bool.false_eq_true, if_false, evicted, kept]

end MinIOStorage

/-! ## The backend -/

section Backend

open MinIOStorage

variable {subPath : List Char}

/-- The S3 backend, called with keys of one sub-path. -/
def s3Backend (storage : MinIOStorage) (date : HttpDate) (clock : Nat → Instant)
    (contentType : String) :
    Backend (KeyParts subPath) (List UInt8) Instant Duration S3Service where
  answer
    | .upload key value ttl, service =>
        let (outcome, left) := (storage.uploadImageWithTtl key.text contentType value ttl).run
          (S3Op.perform date clock) service
        (observeUpload outcome, left)
    | .check key, service =>
        let (outcome, left) := (storage.checkCache date key.text).run
          (S3Op.perform date clock) service
        (observeCheck outcome, left)
    | .get key, service =>
        let (outcome, left) := (storage.getImage date key.text).run
          (S3Op.perform date clock) service
        (observeImage outcome, left)
    | .delete key, service =>
        let (outcome, left) := (storage.delete key.text).run (S3Op.perform date clock) service
        (observeDelete outcome, left)
  now service := clock service.steps
  find service key now := storage.found date key.text service now

variable {storage : MinIOStorage} {date : HttpDate} {clock : Nat → Instant}
  {contentType : String} {service : S3Service} {key other : KeyParts subPath}

theorem KeyParts.text_inj (same : key.text = other.text) : key = other := by
  rw [text, text] at same
  have tail := List.append_cancel_left same
  have lengths : key.hash.length = other.hash.length := by
    rw [key.hash_length, other.hash_length]
  obtain ⟨hash, rest⟩ := List.append_inj tail lengths
  have ext := (List.cons.inj rest).2
  cases key
  cases other
  simp_all

/-- What is found of a key depends on its object. -/
theorem found_of_objects {left : S3Service} {text : List Char}
    (same : left.objects (storage.bucket, text) = service.objects (storage.bucket, text))
    (now : Instant) : storage.found date text left now = storage.found date text service now := by
  rw [found, found, same]

/-- Objects under another key are another key's. -/
theorem update_other {objects : List Char × List Char → Option S3Object} (differ : key ≠ other)
    (object : Option S3Object) :
    Function.update objects (storage.bucket, key.text) object (storage.bucket, other.text) =
      objects (storage.bucket, other.text) :=
  Function.update_of_ne (fun same => differ (KeyParts.text_inj (Prod.mk.inj same).2.symm)) ..

theorem found_swept_object {left : S3Service} {start now : Instant} (later : start ≤ now)
    (after : 0 ≤ start.nanos)
    (swept_ : left.objects = storage.swept date key.text service start) :
    storage.found date other.text left now = storage.found date other.text service now := by
  by_cases live : (service.objects (storage.bucket, key.text)).all fun object =>
      liveAt date object.expires start
  case pos =>
      apply found_of_objects
      rw [swept_, swept, if_pos live]
  case neg =>
      rw [swept, if_neg live] at swept_
      by_cases same : key = other
      case neg =>
          apply found_of_objects
          rw [swept_, evicted, update_other same]
      case pos =>
          subst same
          rw [Bool.not_eq_true, Option.all_eq_false] at live
          obtain ⟨object, stored, dead⟩ := live
          have deadLater : liveAt date object.expires now = false := by
            rw [← Bool.not_eq_true] at dead ⊢
            exact fun live => dead (liveAt_antitone later after live)
          simp only [found, swept_, evicted, Function.update_self, stored, Option.filter_some,
            Option.filter_none, deadLater, Bool.false_eq_true, if_false]

/-- The header of an upload lives as long as was asked for. -/
theorem liveAt_header {start now : Instant} (nowAfter : 0 ≤ now.nanos)
    {header : Option (List Char)} {ttl : Duration}
    (sent : expiresHeader date (start.checkedAdd ttl) = .ok header) :
    liveAt date header now = lifetime.alive start ttl now := by
  have high := now.high
  rw [Instant.checkedAdd] at sent
  split at sent
  case isTrue fits =>
      simp only [expiresHeader] at sent
      split at sent
      case h_1 text written =>
          obtain rfl := Except.ok.inj sent
          simp only [liveAt, Option.bind_some, date.rounds written, Instant.nowSecs_eq nowAfter]
          rfl
      case h_2 => cases sent
  case isFalse beyond =>
      obtain rfl := Except.ok.inj sent
      have never : lifetime.alive start ttl now = true := by
        apply decide_eq_true
        simp only [Instant.second, nanosPerSecond, secondsBound, Nat.cast_ofNat] at high beyond ⊢
        omega
      exact never.symm

variable (storage date clock contentType service) in
/-- An upload that goes through stores the data for as long as was asked. -/
theorem upload_sent {outcome : Outcome Failure Unit} {left : S3Service} (text : List Char)
    (data : List UInt8) (ttl : Option Duration)
    (ran : (storage.uploadImageWithTtl text contentType data ttl).run
      (S3Op.perform date clock) service = (outcome, left))
    (through : observeUpload outcome ≠ .failed) :
    outcome = .ok () ∧ service.steps ≤ left.steps ∧
      ∃ object : S3Object, object.body = data ∧
        left.objects = Function.update service.objects (storage.bucket, text) (some object) ∧
        ∀ now : Instant, 0 ≤ now.nanos → liveAt date object.expires now =
          ttl.all (lifetime.alive (clock service.steps) · now) := by
  cases ttl with
  | none =>
      obtain ⟨rfl, rfl⟩ := Prod.mk.inj ran
      exact ⟨rfl, Nat.le_succ _, _, rfl, rfl, fun _ _ => rfl⟩
  | some ttl =>
      rw [MinIOStorage.uploadImageWithTtl, Program.run_bind] at ran
      change Program.run _ (Program.call _ _) (⟨service.objects, service.steps + 1⟩ : S3Service) = _
        at ran
      rw [Program.run_call] at ran
      simp only [S3Op.perform, Program.pure_eq_done, Program.run_perform] at ran
      cases sent : expiresHeader date ((clock service.steps).checkedAdd ttl) with
      | error cause =>
          rw [sent] at ran
          obtain ⟨rfl, -⟩ := Prod.mk.inj ran
          exact absurd rfl through
      | ok header =>
          rw [sent] at ran
          obtain ⟨rfl, rfl⟩ := Prod.mk.inj ran
          exact ⟨rfl, Nat.le_add_right _ 2, _, rfl, rfl, fun now after => liveAt_header after sent⟩

/-- A call on the S3 backend that goes through has its effect at an instant between its
start and its end. -/
theorem s3_effect (monotone : Monotone clock) (after : ∀ step, 0 ≤ (clock step).nanos)
    (call : Call (KeyParts subPath) (List UInt8) Duration) :
    let backend := s3Backend storage date clock contentType
    let answered := backend.answer call service
    answered.1 ≠ .failed →
      ∃ start, backend.now service ≤ start ∧ start ≤ backend.now answered.2 ∧
        Effect lifetime start call answered.1 (backend.find service)
          (backend.find answered.2) := by
  intro backend answered through
  cases call with
  | upload key data ttl =>
      rcases ran : (storage.uploadImageWithTtl key.text contentType data ttl).run
        (S3Op.perform date clock) service with ⟨outcome, left⟩
      have answer : answered = (observeUpload outcome, left) := by
        simp only [answered, backend, s3Backend, ran]
      rw [answer] at through ⊢
      obtain ⟨rfl, later, object, rfl, stored, lives⟩ :=
        upload_sent storage date clock contentType service key.text data ttl ran through
      refine ⟨clock service.steps, le_refl _, monotone later, ?_, rfl, ?_⟩
      · intro other differ now _
        apply found_of_objects
        rw [stored, update_other differ]
      · intro now started
        have live := lives now ((after service.steps).trans started)
        simp only [backend, s3Backend, found, stored, Function.update_self, Option.filter_some, live]
        split <;> rfl
  | check key =>
      obtain ⟨left, reading, ran, from_, until_, swept⟩ :=
        checkCache_run storage date clock key.text service
      have answer : answered = (.cached
          (storage.found date key.text service (clock reading)).isSome, left) := by
        simp only [answered, backend, s3Backend, ran, observeCheck]
      rw [answer]
      refine ⟨clock reading, monotone from_, monotone until_, ?_, rfl⟩
      exact fun other _ now later => found_swept_object later (after reading) swept
  | get key =>
      obtain ⟨outcome, left, reading, ran, from_, until_, observed, swept⟩ :=
        getImage_run storage date clock key.text service
      have answer : answered =
          (.image (storage.found date key.text service (clock reading)), left) := by
        simp only [answered, backend, s3Backend, ran, observed]
      rw [answer]
      refine ⟨clock reading, monotone from_, monotone until_, ?_, rfl⟩
      exact fun other _ now later => found_swept_object later (after reading) swept
  | delete key =>
      have answer : answered =
          (.deleted, ⟨storage.evicted key.text service, service.steps + 1⟩) := rfl
      rw [answer]
      refine ⟨clock service.steps, le_refl _, monotone (Nat.le_succ _), ?_, rfl, ?_⟩
      · exact fun other differ now _ => found_of_objects (update_other differ none) now
      · intro now _
        simp only [backend, s3Backend, found, evicted, Function.update_self, Option.filter_none,
          Option.map_none]

/-- Run after run, the S3 backend refines the map, up to the first call that cannot be
sent. -/
theorem s3_refines (monotone : Monotone clock) (after : ∀ step, 0 ≤ (clock step).nanos)
    (calls : List (Call (KeyParts subPath) (List UInt8) Duration))
    {store : Store (KeyParts subPath) (List UInt8) Instant Duration}
    (shown : (s3Backend storage date clock contentType).Shows lifetime service store) :
    (s3Backend storage date clock contentType).Refines lifetime calls service store :=
  TtlMap.Backend.refines (fun _ => True)
    (fun call _ _ through => ⟨trivial, s3_effect monotone after call through⟩) calls trivial shown

end Backend

end ImageResizer.Storage
