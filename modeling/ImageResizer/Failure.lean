import ImageResizer.SourceGuard.Address

/-!
# Failures

What the fallible functions of the service return on their failing side: a root
cause, and the contexts that callers wrapped around it.  The guard's rejections stay
recognisable through any number of contexts.
-/

namespace ImageResizer

open SourceGuard

/-- Why the source guard refused a URL. -/
inductive SourceRejected where
  | unsupportedScheme (scheme : String)
  | notAllowlisted (url : String)
  | blockedIpLiteral (host : String) (addr : IpAddr)
  | blockedResolvedAddress (host : String) (addr : IpAddr)
  | noAddressesResolved (host : String)
  deriving DecidableEq

def SourceRejected.toString : SourceRejected → String
  | .unsupportedScheme scheme =>
      "Unsupported source URL scheme '" ++ scheme ++ "' (only http/https are allowed)"
  | .notAllowlisted url =>
      "Source URL '" ++ url ++ "' is not in the configured ALLOWED_SOURCES allowlist"
  | .blockedIpLiteral host addr =>
      "Source host '" ++ host ++ "' is a blocked IP literal (" ++ addr.toString ++ ")"
  | .blockedResolvedAddress host addr =>
      "Source host '" ++ host ++ "' resolves to a blocked address (" ++ addr.toString ++ ")"
  | .noAddressesResolved host =>
      "DNS resolution for host '" ++ host ++ "' returned no addresses"

/-- The root cause of a failure. -/
inductive Cause where
  | rejected (why : SourceRejected)
  /-- An error known only by its text. -/
  | message (text : String)
  deriving DecidableEq

/-- An error and the contexts around it, outermost first. -/
structure Failure where
  contexts : List String
  cause : Cause
  deriving DecidableEq

namespace Failure

def rejected (why : SourceRejected) : Failure := ⟨[], .rejected why⟩

def message (text : String) : Failure := ⟨[], .message text⟩

/-- `Context::context`. -/
def context (failure : Failure) (text : String) : Failure :=
  { failure with contexts := text :: failure.contexts }

/-- `Display`: the outermost context, or the cause when there is none. -/
def toString (failure : Failure) : String :=
  match failure.contexts, failure.cause with
  | text :: _, _ => text
  | [], .rejected why => why.toString
  | [], .message text => text

instance : ToString Failure := ⟨toString⟩

/-- Wrap the failing side of a computation known by its error text. -/
def withContext {α : Type} (text : String) : Except String α → Except Failure α
  | .ok value => .ok value
  | .error cause => .error ((message cause).context text)

/-- `Option::context`: an absent value is an error with the text as its cause. -/
def required {α : Type} (text : String) : Option α → Except Failure α
  | some value => .ok value
  | none => .error (message text)

theorem required_ok {α : Type} {text : String} {found : Option α} {value : α}
    (ok : required text found = .ok value) : found = some value := by
  cases found with
  | none => cases ok
  | some got => simpa [required] using ok

theorem withContext_ok {α : Type} {text : String} {outcome : Except String α} {value : α}
    (ok : withContext text outcome = .ok value) : outcome = .ok value := by
  cases outcome with
  | error cause => cases ok
  | ok got => simpa [withContext] using ok

theorem withContext_ok_iff {α : Type} {text : String} {outcome : Except String α} {value : α} :
    withContext text outcome = .ok value ↔ outcome = .ok value :=
  ⟨withContext_ok, fun ok => ok ▸ rfl⟩

/-- A sequence of fallible steps that succeeds has a first step that succeeds. -/
theorem bind_ok {α β : Type} {first : Except Failure α} {next : α → Except Failure β}
    {value : β} (ok : (first >>= next) = .ok value) :
    ∃ middle, first = .ok middle ∧ next middle = .ok value := by
  cases first with
  | error failure => cases ok
  | ok middle => exact ⟨middle, rfl, ok⟩

end Failure

end ImageResizer
