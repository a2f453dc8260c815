import ImageResizer.Foundation.Resumption
import ImageResizer.Storage.Core
import ImageResizer.Storage.Key

/-!
# The S3 backend

`services/storage/s3_handler.rs` as programs over the requests it sends and its readings
of the clock.  The service stores what the last put of a key says; how it writes an
`Expires` date as text, and how that text is read, is a parameter.
-/

namespace ImageResizer.Storage

open Resumption

/-- `DateTimeFormat::HttpDate`: writing an instant, if the format can express it, and the
whole seconds of a text.  Writing rounds down to whole seconds. -/
structure HttpDate where
  fmt : Instant → Option (List Char)
  secs : List Char → Option Int
  rounds : ∀ {instant text}, fmt instant = some text → secs text = some instant.second

inductive HeadObjectError where
  | notFound
  | other (text : String)

inductive GetObjectError where
  | noSuchKey
  | other (text : String)

inductive S3Op where
  | putObject (bucket key : List Char) (body : List UInt8) (contentType cacheControl : String)
      (expires : Option Instant)
  | headObject (bucket key : List Char)
  | getObject (bucket key : List Char)
  | collect (body : List UInt8)
  | deleteObject (bucket key : List Char)
  | systemTime

/-- What an operation answers: the texts are `expires_string`. -/
@[reducible]
def S3Op.Reply : S3Op → Type
  | .putObject .. => Except String Unit
  | .headObject _ _ => Except HeadObjectError (Option (List Char))
  | .getObject _ _ => Except GetObjectError (Option (List Char) × List UInt8)
  | .collect _ => Except String (List UInt8)
  | .deleteObject _ _ => Except String Unit
  | .systemTime => Instant

abbrev S3Program := Program S3Op S3Op.Reply

structure MinIOStorage where
  bucket : List Char

namespace MinIOStorage

variable (storage : MinIOStorage) (date : HttpDate)

def isExpired : Option (List Char) → S3Program Bool
  | none => pure false
  | some expires =>
      match date.secs expires with
      | none => pure false
      | some secs => do
          let now : Instant ← Program.perform S3Op.systemTime
          pure (decide ((now.nowSecs : Int) ≥ secs))

def uploadImageWithTtl (key : List Char) (contentType : String) (data : List UInt8)
    (ttl : Option Duration) : S3Program (Outcome Failure Unit) := do
  let expires : Option Instant ← match ttl with
    | none => pure none
    | some ttl => do
        let now : Instant ← Program.perform S3Op.systemTime
        pure (now.checkedAdd ttl)
  let sent : Except String Unit ← Program.perform (S3Op.putObject storage.bucket key data
    contentType "public, max-age=31536000, immutable" expires)
  match sent with
  | .ok () => pure (.ok ())
  | .error cause =>
      pure (Outcome.fail ((Failure.message ("S3 error: " ++ cause)).context
        "Failed to upload image to MinIO"))

def delete (key : List Char) : S3Program (Outcome Failure Unit) := do
  let sent : Except String Unit ← Program.perform (S3Op.deleteObject storage.bucket key)
  match sent with
  | .ok () => pure (.ok ())
  | .error cause =>
      pure (Outcome.fail ((Failure.message ("S3 error: " ++ cause)).context
        ("Failed to delete image from S3: " ++ String.ofList key)))

def checkCache (key : List Char) : S3Program (Outcome Failure Bool) := do
  let head : Except HeadObjectError (Option (List Char)) ←
    Program.perform (S3Op.headObject storage.bucket key)
  match head with
  | .ok expires => do
      let expired ← isExpired date expires
      if expired then do
        let _ ← storage.delete key
        pure (.ok false)
      else pure (.ok true)
  | .error .notFound => pure (.ok false)
  | .error (.other cause) => pure (Outcome.fail (Failure.message ("S3 error: " ++ cause)))

def notFoundText (key : List Char) : String := "Image not found in S3: " ++ String.ofList key

def getImage (key : List Char) : S3Program (Outcome Failure (List UInt8)) := do
  let got : Except GetObjectError (Option (List Char) × List UInt8) ←
    Program.perform (S3Op.getObject storage.bucket key)
  match got with
  | .error .noSuchKey => pure (Outcome.fail (Failure.message (notFoundText key)))
  | .error (.other cause) =>
      pure (Outcome.fail ((Failure.message ("S3 error: " ++ cause)).context
        ("Failed to get image from S3: " ++ String.ofList key)))
  | .ok (expires, body) => do
      let expired ← isExpired date expires
      if expired then do
        let _ ← storage.delete key
        pure (Outcome.fail (Failure.message (notFoundText key ++ " (expired)")))
      else do
        let collected : Except String (List UInt8) ← Program.perform (S3Op.collect body)
        match collected with
        | .ok data => pure (.ok data)
        | .error cause =>
            pure (Outcome.fail (Failure.message ("Failed to read S3 response body: " ++ cause)))

end MinIOStorage

/-! ## The service -/

structure S3Object where
  body : List UInt8
  contentType : String
  cacheControl : String
  expires : Option (List Char)

/-- The objects of each bucket and key, and how many operations have been answered. -/
structure S3Service where
  objects : List Char × List Char → Option S3Object
  steps : Nat

/-- The `Expires` header a put is sent with.  An instant that cannot be written stops the
request from being sent. -/
def expiresHeader (date : HttpDate) : Option Instant → Except String (Option (List Char))
  | none => .ok none
  | some instant =>
      match date.fmt instant with
      | some text => .ok (some text)
      | none => .error "failed to construct request"

/-- A service that carries out every request it is sent. -/
def S3Op.perform (date : HttpDate) (clock : Nat → Instant) : Handler S3Op S3Op.Reply S3Service
  | .putObject bucket key body contentType cacheControl expires, service =>
      match expiresHeader date expires with
      | .ok header =>
          (.ok (), ⟨Function.update service.objects (bucket, key)
            (some ⟨body, contentType, cacheControl, header⟩), service.steps + 1⟩)
      | .error cause => (.error cause, ⟨service.objects, service.steps + 1⟩)
  | .headObject bucket key, service =>
      (match service.objects (bucket, key) with
        | some object => .ok object.expires
        | none => .error .notFound, ⟨service.objects, service.steps + 1⟩)
  | .getObject bucket key, service =>
      (match service.objects (bucket, key) with
        | some object => .ok (object.expires, object.body)
        | none => .error .noSuchKey, ⟨service.objects, service.steps + 1⟩)
  | .collect body, service => (.ok body, ⟨service.objects, service.steps + 1⟩)
  | .deleteObject bucket key, service =>
      (.ok (), ⟨Function.update service.objects (bucket, key) none, service.steps + 1⟩)
  | .systemTime, service => (clock service.steps, ⟨service.objects, service.steps + 1⟩)

end ImageResizer.Storage
