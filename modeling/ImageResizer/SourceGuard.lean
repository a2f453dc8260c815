import ImageResizer.Failure
import ImageResizer.Config

/-!
# The source guard

The checks of `services/image/source_guard.rs` that one hop of a fetch goes through:
the scheme, the allowlist, and the resolution of the host to one validated address.
URLs are parsed by a library outside the repository, so their parsed form and the
operations on it are a parameter.
-/

namespace ImageResizer.SourceGuard

/-- The `url` crate: parsed URLs, their parts, and relative resolution. -/
structure UrlLibrary where
  Url : Type
  parse : String → Except String Url
  join : Url → String → Except String Url
  scheme : Url → String
  hostStr : Url → Option String
  portOrKnownDefault : Url → Option UInt16
  path : Url → String
  toString : Url → String

structure SocketAddr where
  ip : IpAddr
  port : UInt16
  deriving DecidableEq

variable (lib : UrlLibrary)

def validateScheme (url : lib.Url) : Except Failure Unit :=
  if lib.scheme url = "http" ∨ lib.scheme url = "https" then .ok ()
  else .error (.rejected (.unsupportedScheme (lib.scheme url)))

/-- One entry of the allowlist, compared part by part with a URL. -/
def matchesAllowedPrefix (url : lib.Url) (entry : String) : Bool :=
  match lib.parse entry with
  | .error _ => false
  | .ok entryUrl =>
      lib.scheme url == lib.scheme entryUrl &&
      (lib.hostStr url).isSome &&
      lib.hostStr url == lib.hostStr entryUrl &&
      lib.portOrKnownDefault url == lib.portOrKnownDefault entryUrl &&
      (lib.path entryUrl).toList.isPrefixOf (lib.path url).toList

def isAllowedSource (url : lib.Url) (allowed : List String) : Bool :=
  allowed.any (matchesAllowedPrefix lib url)

/-- Resolve a host to one validated address.  A literal is checked itself; of a DNS
answer every address is checked, and the first one is used. -/
def resolveValidatedAddr (lookupHost : String → UInt16 → Except String (List SocketAddr))
    (host : String) (port : UInt16) (policy : Policy) : Except Failure SocketAddr :=
  match parseIpLiteral host with
  | some ip =>
      if isBlockedIpWithPolicy ip policy then .error (.rejected (.blockedIpLiteral host ip))
      else .ok ⟨ip, port⟩
  | none => do
      let addrs ← Failure.withContext ("DNS resolution failed for host '" ++ host ++ "'")
        (lookupHost host port)
      match addrs.find? (fun addr => isBlockedIpWithPolicy addr.ip policy), addrs with
      | _, [] => .error (.rejected (.noAddressesResolved host))
      | some addr, _ => .error (.rejected (.blockedResolvedAddress host addr.ip))
      | none, first :: _ => .ok first

/-- Where an address that passed came from: it was checked under the policy, and it is
the literal the host spells or an answer to the host's own lookup. -/
theorem resolveValidatedAddr_ok
    {lookupHost : String → UInt16 → Except String (List SocketAddr)} {host : String}
    {port : UInt16} {policy : Policy} {addr : SocketAddr}
    (resolved : resolveValidatedAddr lookupHost host port policy = .ok addr) :
    isBlockedIpWithPolicy addr.ip policy = false ∧
      (parseIpLiteral host = some addr.ip ∨
        ∃ addrs, lookupHost host port = .ok addrs ∧ addr ∈ addrs ∧
          ∀ other ∈ addrs, isBlockedIpWithPolicy other.ip policy = false) := by
  unfold resolveValidatedAddr at resolved
  split at resolved
  case h_1 ip literal =>
    split at resolved
    · cases resolved
    · rename_i passed
      cases resolved
      exact ⟨by simpa using passed, .inl literal⟩
  case h_2 name =>
    cases answer : lookupHost host port with
    | error cause => simp [answer, Failure.withContext, bind, Except.bind] at resolved
    | ok addrs =>
        simp only [answer, Failure.withContext, bind, Except.bind] at resolved
        split at resolved
        · cases resolved
        · cases resolved
        · rename_i first rest unblocked
          cases resolved
          have passed : ∀ other ∈ addr :: rest,
              isBlockedIpWithPolicy other.ip policy = false := by
            intro other member
            simpa using List.find?_eq_none.mp unblocked other member
          exact ⟨passed addr (by simp), .inr ⟨_, rfl, by simp, passed⟩⟩

end ImageResizer.SourceGuard
