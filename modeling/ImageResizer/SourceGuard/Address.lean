import Mathlib
import Std.Data.String

/-!
# Addresses

The addresses of `services/image/source_guard.rs`: the ranges the guard blocks, the
policy that lifts a block, and the ways a host can spell an address.  The standard
library's address parser is translated as well, because a host is tried against it
first.
-/

namespace ImageResizer.SourceGuard

/-! ## Addresses -/

/-- An IPv4 address as its 32 bits, first octet on top. -/
structure Ipv4Addr where
  bits : BitVec 32
  deriving DecidableEq

/-- An IPv6 address as its 128 bits, first segment on top. -/
structure Ipv6Addr where
  bits : BitVec 128
  deriving DecidableEq

inductive IpAddr where
  | v4 (addr : Ipv4Addr)
  | v6 (addr : Ipv6Addr)
  deriving DecidableEq

namespace Ipv4Addr

def ofOctets (a b c d : Nat) : Ipv4Addr :=
  ⟨BitVec.ofNat 32 (a * 2 ^ 24 + b * 2 ^ 16 + c * 2 ^ 8 + d)⟩

/-- The octet at an index counted from the front. -/
def octet (addr : Ipv4Addr) (i : Nat) : Nat := addr.bits.toNat / 2 ^ (8 * (3 - i)) % 2 ^ 8

/-- The leading `length` bits are those of `network`. -/
def inNet (addr network : Ipv4Addr) (length : Nat) : Bool :=
  addr.bits.toNat / 2 ^ (32 - length) == network.bits.toNat / 2 ^ (32 - length)

def isLoopback (addr : Ipv4Addr) : Bool := addr.inNet (ofOctets 127 0 0 0) 8

def isLinkLocal (addr : Ipv4Addr) : Bool := addr.inNet (ofOctets 169 254 0 0) 16

def isPrivate (addr : Ipv4Addr) : Bool :=
  addr.inNet (ofOctets 10 0 0 0) 8 || addr.inNet (ofOctets 172 16 0 0) 12 ||
    addr.inNet (ofOctets 192 168 0 0) 16

def isUnspecified (addr : Ipv4Addr) : Bool := addr.inNet (ofOctets 0 0 0 0) 32

def isBroadcast (addr : Ipv4Addr) : Bool := addr.inNet (ofOctets 255 255 255 255) 32

/-- `CGNAT_V4`. -/
def isCgnat (addr : Ipv4Addr) : Bool := addr.inNet (ofOctets 100 64 0 0) 10

end Ipv4Addr

namespace Ipv6Addr

/-- The address with the given eight 16-bit groups. -/
def ofGroups (groups : List Nat) : Ipv6Addr :=
  ⟨BitVec.ofNat 128 (groups.foldl (fun value group => value * 2 ^ 16 + group) 0)⟩

def group (addr : Ipv6Addr) (i : Nat) : Nat := addr.bits.toNat / 2 ^ (16 * (7 - i)) % 2 ^ 16

/-- `to_ipv4_mapped`: the address inside `::ffff:a.b.c.d`. -/
def toIpv4Mapped (addr : Ipv6Addr) : Option Ipv4Addr :=
  if addr.bits.toNat / 2 ^ 32 = 0xffff then some ⟨addr.bits.truncate 32⟩ else none

def isLoopback (addr : Ipv6Addr) : Bool := addr.bits == 1

def isUnspecified (addr : Ipv6Addr) : Bool := addr.bits == 0

/-- `LINK_LOCAL_V6`, `fe80::/10`. -/
def isLinkLocal (addr : Ipv6Addr) : Bool := addr.bits.toNat / 2 ^ 118 == 0xfe80 / 2 ^ 6

/-- `UNIQUE_LOCAL_V6`, `fc00::/7`. -/
def isUniqueLocal (addr : Ipv6Addr) : Bool := addr.bits.toNat / 2 ^ 121 == 0xfc00 / 2 ^ 9

end Ipv6Addr

/-! ## Display -/

/-- Texts joined by a separator. -/
def joined (sep : String) : List String → String
  | [] => ""
  | [last] => last
  | text :: rest => text ++ sep ++ joined sep rest

def Ipv4Addr.toString (addr : Ipv4Addr) : String :=
  joined "." ((List.range 4).map fun i => Nat.repr (addr.octet i))

namespace Ipv6Addr

/-- The number of zero groups from an index on. -/
def zerosFrom (addr : Ipv6Addr) (i : Nat) : Nat :=
  (((List.range 8).drop i).takeWhile fun j => addr.group j == 0).length

/-- The first of the longest runs of zero groups, as its index and length. -/
def longestZeros (addr : Ipv6Addr) : Nat × Nat :=
  (List.range 8).foldl (fun best i =>
    if best.2 < addr.zerosFrom i then (i, addr.zerosFrom i) else best) (0, 0)

def groupsText (addr : Ipv6Addr) (indices : List Nat) : String :=
  joined ":" (indices.map fun i => String.ofList (Nat.toDigits 16 (addr.group i)))

def toString (addr : Ipv6Addr) : String :=
  match addr.toIpv4Mapped with
  | some mapped => "::ffff:" ++ mapped.toString
  | none =>
      let (start, length) := addr.longestZeros
      if 1 < length then
        addr.groupsText ((List.range 8).take start) ++ "::" ++
          addr.groupsText ((List.range 8).drop (start + length))
      else addr.groupsText (List.range 8)

end Ipv6Addr

def IpAddr.toString : IpAddr → String
  | .v4 addr => addr.toString
  | .v6 addr => addr.toString

/-! ## Blocked ranges -/

/-- The overrides in force for one hop. -/
structure Policy where
  allowLoopback : Bool
  allowLinkLocal : Bool
  allowPrivate : Bool
  deriving DecidableEq

def isBlockedIpv4 (ip : Ipv4Addr) (policy : Policy) : Bool :=
  (!policy.allowLoopback && ip.isLoopback) ||
  (!policy.allowLinkLocal && ip.isLinkLocal) ||
  (!policy.allowPrivate && ip.isPrivate) ||
  ip.isUnspecified ||
  ip.isBroadcast ||
  (!policy.allowPrivate && ip.isCgnat)

def isBlockedIpv6 (ip : Ipv6Addr) (policy : Policy) : Bool :=
  match ip.toIpv4Mapped with
  | some mapped => isBlockedIpv4 mapped policy
  | none =>
      (!policy.allowLoopback && ip.isLoopback) ||
      ip.isUnspecified ||
      (!policy.allowLinkLocal && ip.isLinkLocal) ||
      (!policy.allowPrivate && ip.isUniqueLocal)

def isBlockedIpWithPolicy (ip : IpAddr) (policy : Policy) : Bool :=
  match ip with
  | .v4 addr => isBlockedIpv4 addr policy
  | .v6 addr => isBlockedIpv6 addr policy

/-! ## Range classes

What the policy is about: each class collects one kind of range over both families,
with an IPv4-mapped address counted as the IPv4 address it stands for. -/

namespace IpAddr

/-- The IPv4 address behind a mapped IPv6 one. -/
def canonical : IpAddr → IpAddr
  | .v4 addr => .v4 addr
  | .v6 addr => (addr.toIpv4Mapped.map IpAddr.v4).getD (.v6 addr)

def isLoopback (ip : IpAddr) : Bool :=
  match ip.canonical with
  | .v4 addr => addr.isLoopback
  | .v6 addr => addr.isLoopback

def isLinkLocal (ip : IpAddr) : Bool :=
  match ip.canonical with
  | .v4 addr => addr.isLinkLocal
  | .v6 addr => addr.isLinkLocal

/-- RFC 1918, CGNAT and IPv6 unique-local. -/
def isPrivate (ip : IpAddr) : Bool :=
  match ip.canonical with
  | .v4 addr => addr.isPrivate || addr.isCgnat
  | .v6 addr => addr.isUniqueLocal

/-- Never a unicast destination. -/
def isReserved (ip : IpAddr) : Bool :=
  match ip.canonical with
  | .v4 addr => addr.isUnspecified || addr.isBroadcast
  | .v6 addr => addr.isUnspecified

end IpAddr

/-- The policy lifts the block of each class by its own override and of no other. -/
theorem isBlocked_iff (ip : IpAddr) (policy : Policy) :
    isBlockedIpWithPolicy ip policy = true ↔
      (ip.isLoopback = true ∧ policy.allowLoopback = false) ∨
      (ip.isLinkLocal = true ∧ policy.allowLinkLocal = false) ∨
      (ip.isPrivate = true ∧ policy.allowPrivate = false) ∨
      ip.isReserved = true := by
  have ipv4 : ∀ addr : Ipv4Addr, isBlockedIpv4 addr policy = true ↔
      (addr.isLoopback = true ∧ policy.allowLoopback = false) ∨
      (addr.isLinkLocal = true ∧ policy.allowLinkLocal = false) ∨
      ((addr.isPrivate || addr.isCgnat) = true ∧ policy.allowPrivate = false) ∨
      (addr.isUnspecified || addr.isBroadcast) = true := by
    intro addr
    simp only [isBlockedIpv4, Bool.or_eq_true, Bool.and_eq_true, Bool.not_eq_true']
    tauto
  cases ip with
  | v4 addr => exact ipv4 addr
  | v6 addr =>
      cases mapped : addr.toIpv4Mapped with
      | some inner =>
          simp only [isBlockedIpWithPolicy, isBlockedIpv6, mapped, ipv4 inner,
            IpAddr.isLoopback, IpAddr.isLinkLocal, IpAddr.isPrivate, IpAddr.isReserved,
            IpAddr.canonical, Option.map_some, Option.getD_some]
      | none =>
          simp only [isBlockedIpWithPolicy, isBlockedIpv6, mapped, IpAddr.isLoopback,
            IpAddr.isLinkLocal, IpAddr.isPrivate, IpAddr.isReserved, IpAddr.canonical,
            Option.map_none, Option.getD_none, Bool.or_eq_true, Bool.and_eq_true,
            Bool.not_eq_true']
          tauto

/-! ## Spellings of an address -/

/-- The value of an ASCII digit in a radix up to 16. -/
def digitValue (radix : Nat) (c : Char) : Option Nat :=
  let value :=
    if '0' ≤ c ∧ c ≤ '9' then some (c.toNat - '0'.toNat)
    else if 'a' ≤ c ∧ c ≤ 'f' then some (c.toNat - 'a'.toNat + 10)
    else if 'A' ≤ c ∧ c ≤ 'F' then some (c.toNat - 'A'.toNat + 10)
    else none
  value.filter (· < radix)

/-- The digits at the front of a text and what follows them. -/
def takeDigits (radix : Nat) : List Char → List Nat × List Char
  | [] => ([], [])
  | c :: rest =>
      match digitValue radix c with
      | some digit => ((takeDigits radix rest).map (digit :: ·) id)
      | none => ([], c :: rest)

/-- The number written by a sequence of digits. -/
def digitsValue (radix : Nat) (digits : List Nat) : Nat :=
  digits.foldl (fun value digit => value * radix + digit) 0

/-- `Parser::read_number` of the standard library's address parser. -/
def readNumber (radix maxDigits bound : Nat) (allowZeroPrefix : Bool) (input : List Char) :
    Option (Nat × List Char) :=
  let (digits, rest) := takeDigits radix input
  if digits.isEmpty || maxDigits < digits.length || bound ≤ digitsValue radix digits then none
  else if !allowZeroPrefix && input.head? == some '0' && 1 < digits.length then none
  else some (digitsValue radix digits, rest)

def readGivenChar (target : Char) : List Char → Option (List Char)
  | c :: rest => if c == target then some rest else none
  | [] => none

/-- `read_separator`: from the second element on, a separator comes first. -/
def readSeparator {α : Type} (sep : Char) (index : Nat)
    (inner : List Char → Option (α × List Char)) (input : List Char) :
    Option (α × List Char) :=
  if 0 < index then (readGivenChar sep input).bind inner else inner input

/-- `read_ipv4_addr`: four decimal octets without leading zeros. -/
def readIpv4Addr (input : List Char) : Option (Ipv4Addr × List Char) := do
  let octet := readNumber 10 3 256 false
  let (a, input) ← octet input
  let (b, input) ← readSeparator '.' 1 octet input
  let (c, input) ← readSeparator '.' 2 octet input
  let (d, input) ← readSeparator '.' 3 octet input
  return (Ipv4Addr.ofOctets a b c d, input)

/-- `read_groups`: up to `limit` groups from index `index` on, the last two of which
may be written as an IPv4 address.  The flag reports that they were. -/
def readGroups (limit index : Nat) (input : List Char) : List Nat × Bool × List Char :=
  match limit with
  | 0 => ([], false, input)
  | left + 1 =>
      let embedded := if 0 < left then readSeparator ':' index readIpv4Addr input else none
      match embedded with
      | some (addr, rest) =>
          ([addr.bits.toNat / 2 ^ 16, addr.bits.toNat % 2 ^ 16], true, rest)
      | none =>
          match readSeparator ':' index (readNumber 16 4 (2 ^ 16) true) input with
          | some (group, rest) =>
              let (groups, ipv4, rest) := readGroups left (index + 1) rest
              (group :: groups, ipv4, rest)
          | none => ([], false, input)

/-- `read_ipv6_addr`. -/
def readIpv6Addr (input : List Char) : Option (Ipv6Addr × List Char) :=
  let (head, headIpv4, rest) := readGroups 8 0 input
  if head.length = 8 then some (Ipv6Addr.ofGroups head, rest)
  else if headIpv4 then none
  else do
    let rest ← readGivenChar ':' rest
    let rest ← readGivenChar ':' rest
    let (tail, _, rest) := readGroups (8 - (head.length + 1)) 0 rest
    let zeros := List.replicate (8 - head.length - tail.length) 0
    return (Ipv6Addr.ofGroups (head ++ zeros ++ tail), rest)

/-- `IpAddr::from_str`. -/
def parseIpAddr (host : List Char) : Option IpAddr :=
  let addr := (readIpv4Addr host).map (fun read => (IpAddr.v4 read.1, read.2)) <|>
    (readIpv6Addr host).map fun read => (IpAddr.v6 read.1, read.2)
  addr.bind fun read => if read.2.isEmpty then some read.1 else none

/-- `u64::from_str_radix`: an optional plus sign and at least one digit. -/
def u64FromStrRadix (radix : Nat) (input : List Char) : Option Nat :=
  let input := if input.head? == some '+' then input.tail else input
  let (digits, rest) := takeDigits radix input
  if digits.isEmpty || !rest.isEmpty || 2 ^ 64 ≤ digitsValue radix digits then none
  else some (digitsValue radix digits)

def parseFlexibleU64 (part : List Char) : Option Nat :=
  match part with
  | [] => none
  | '0' :: 'x' :: hex => u64FromStrRadix 16 hex
  | '0' :: 'X' :: hex => u64FromStrRadix 16 hex
  | _ =>
      if 1 < part.length && part.head? == some '0' && part.all (·.isDigit) then
        u64FromStrRadix 8 part
      else u64FromStrRadix 10 part

/-- The value of the parts of a short form, the last of which fills what is left. -/
def ipv4Value : List Nat → Option Nat
  | [a] => some a
  | [a, b] => if 0xff < a || 0x00ffffff < b then none else some (a * 2 ^ 24 + b)
  | [a, b, c] =>
      if 0xff < a || 0xff < b || 0xffff < c then none
      else some (a * 2 ^ 24 + b * 2 ^ 16 + c)
  | [a, b, c, d] =>
      if [a, b, c, d].any (0xff < ·) then none
      else some (a * 2 ^ 24 + b * 2 ^ 16 + c * 2 ^ 8 + d)
  | _ => none

def parseIpv4Literal (host : List Char) : Option Ipv4Addr := do
  let parts := host.splitOn '.'
  if 4 < parts.length then none
  else
    let nums ← parts.mapM parseFlexibleU64
    let value ← ipv4Value nums
    if value < 2 ^ 32 then some ⟨BitVec.ofNat 32 value⟩ else none

/-- The address a host spells out, if it is an address and not a name. -/
def parseIpLiteral (host : String) : Option IpAddr :=
  parseIpAddr host.toList <|> (parseIpv4Literal host.toList).map .v4

end ImageResizer.SourceGuard
