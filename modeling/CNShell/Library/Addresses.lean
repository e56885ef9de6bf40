import Mathlib.Data.Nat.Basic

/-! Addresses of the Internet Protocol, their kinds, and IPv4 addresses inside IPv6 addresses. -/

namespace CNShell

/-- The four octets of an IPv4 address. -/
structure Ipv4Addr where
  first : UInt8
  second : UInt8
  third : UInt8
  fourth : UInt8
  deriving DecidableEq, Repr

namespace Ipv4Addr

variable (address : Ipv4Addr)

/-- An address for private use: `10.0.0.0/8`, `172.16.0.0/12` or `192.168.0.0/16`. -/
def isPrivate : Bool :=
  address.first == 10 || (address.first == 172 && 16 ≤ address.second && address.second ≤ 31) ||
    (address.first == 192 && address.second == 168)

/-- `127.0.0.0/8`. -/
def isLoopback : Bool := address.first == 127

/-- `169.254.0.0/16`. -/
def isLinkLocal : Bool := address.first == 169 && address.second == 254

/-- `0.0.0.0`. -/
def isUnspecified : Bool := address == ⟨0, 0, 0, 0⟩

/-- `224.0.0.0/4`. -/
def isMulticast : Bool := 224 ≤ address.first && address.first ≤ 239

/-- `255.255.255.255`. -/
def isBroadcast : Bool := address == ⟨255, 255, 255, 255⟩

end Ipv4Addr

/-- The eight segments of an IPv6 address. -/
structure Ipv6Addr where
  s0 : UInt16
  s1 : UInt16
  s2 : UInt16
  s3 : UInt16
  s4 : UInt16
  s5 : UInt16
  s6 : UInt16
  s7 : UInt16
  deriving DecidableEq, Repr

namespace Ipv6Addr

variable (address : Ipv6Addr)

/-- `::1`. -/
def isLoopback : Bool := address == ⟨0, 0, 0, 0, 0, 0, 0, 1⟩

/-- `::`. -/
def isUnspecified : Bool := address == ⟨0, 0, 0, 0, 0, 0, 0, 0⟩

/-- `ff00::/8`. -/
def isMulticast : Bool := address.s0 &&& 0xff00 == 0xff00

/-- `fc00::/7`. -/
def isUniqueLocal : Bool := address.s0 &&& 0xfe00 == 0xfc00

/-- `fe80::/10`. -/
def isUnicastLinkLocal : Bool := address.s0 &&& 0xffc0 == 0xfe80

end Ipv6Addr

/-- An address of either version. -/
inductive IpAddr
  | v4 (address : Ipv4Addr)
  | v6 (address : Ipv6Addr)
  deriving DecidableEq, Repr

/-- Two octets as a segment, the higher one first. -/
def segment (high low : UInt8) : UInt16 := high.toUInt16 * 256 + low.toUInt16

namespace Ipv4Addr

/-- `::ffff:a.b.c.d`. -/
def toIpv6Mapped (address : Ipv4Addr) : Ipv6Addr :=
  ⟨0, 0, 0, 0, 0, 0xffff, segment address.first address.second, segment address.third address.fourth⟩

/-- `::a.b.c.d`. -/
def toIpv6Compatible (address : Ipv4Addr) : Ipv6Addr :=
  ⟨0, 0, 0, 0, 0, 0, segment address.first address.second, segment address.third address.fourth⟩

end Ipv4Addr

/-- An IPv6 address is another notation of an IPv4 address. -/
def Embeds (outer : Ipv6Addr) (inner : Ipv4Addr) : Prop := outer = inner.toIpv6Mapped ∨ outer = inner.toIpv6Compatible

instance (outer : Ipv6Addr) (inner : Ipv4Addr) : Decidable (Embeds outer inner) := inferInstanceAs (Decidable (_ ∨ _))

/-- An address that is not one of a host on the Internet. -/
def IpAddr.isLocal : IpAddr → Bool
  | v4 address => address.isLoopback || address.isPrivate || address.isLinkLocal || address.isUnspecified ||
      address.isMulticast
  | v6 address => address.isLoopback || address.isUniqueLocal || address.isUnicastLinkLocal ||
      address.isUnspecified || address.isMulticast

/-- An address is such a one, or it is another notation of one. -/
def IpAddr.LocalInAnyNotation (address : IpAddr) : Prop :=
  address.isLocal = true ∨ ∃ outer inner, address = v6 outer ∧ Embeds outer inner ∧ (v4 inner).isLocal = true

/-- The two octets of a segment, the higher one first. -/
def bigEndian (number : UInt16) : List UInt8 := [(number / 256).toUInt8, number.toUInt8]

/-- The octets of an address as they are sent. -/
def Ipv4Addr.octets (address : Ipv4Addr) : List UInt8 :=
  [address.first, address.second, address.third, address.fourth]

def Ipv6Addr.octets (address : Ipv6Addr) : List UInt8 :=
  bigEndian address.s0 ++ bigEndian address.s1 ++ bigEndian address.s2 ++ bigEndian address.s3 ++
    bigEndian address.s4 ++ bigEndian address.s5 ++ bigEndian address.s6 ++ bigEndian address.s7

/-- The address with some octets, of which there are four. -/
def Ipv4Addr.ofOctets (octets : List UInt8) : Ipv4Addr :=
  ⟨octets.getD 0 0, octets.getD 1 0, octets.getD 2 0, octets.getD 3 0⟩

/-- The address with some octets, of which there are sixteen. -/
def Ipv6Addr.ofOctets (octets : List UInt8) : Ipv6Addr :=
  let at_ (i : Nat) : UInt16 := segment (octets.getD (2 * i) 0) (octets.getD (2 * i + 1) 0)
  ⟨at_ 0, at_ 1, at_ 2, at_ 3, at_ 4, at_ 5, at_ 6, at_ 7⟩

@[simp] theorem segment_bigEndian (number : UInt16) : segment (number / 256).toUInt8 number.toUInt8 = number := by
  apply UInt16.toNat_inj.mp
  have small := number.toNat_lt
  simp only [segment, UInt16.toNat_add, UInt16.toNat_mul, UInt8.toNat_toUInt16, UInt16.toNat_toUInt8, UInt16.toNat_div]
  have base : (256 : UInt16).toNat = 256 := rfl
  rw [base]
  omega

@[simp] theorem Ipv4Addr.ofOctets_octets (address : Ipv4Addr) : Ipv4Addr.ofOctets address.octets = address := rfl

@[simp] theorem Ipv6Addr.ofOctets_octets (address : Ipv6Addr) : Ipv6Addr.ofOctets address.octets = address := by
  simp [Ipv6Addr.ofOctets, Ipv6Addr.octets, bigEndian]

theorem segment_inj {high low high' low' : UInt8} (same : segment high low = segment high' low') :
    high = high' ∧ low = low' := by
  have numbers := congrArg UInt16.toNat same
  have bounds := And.intro (And.intro high.toNat_lt low.toNat_lt) (And.intro high'.toNat_lt low'.toNat_lt)
  simp only [segment, UInt16.toNat_add, UInt16.toNat_mul, UInt8.toNat_toUInt16] at numbers
  have base : (256 : UInt16).toNat = 256 := rfl
  rw [base] at numbers
  constructor
  · exact UInt8.toNat_inj.mp (by omega)
  · exact UInt8.toNat_inj.mp (by omega)

theorem toIpv6Compatible_inj {address other : Ipv4Addr}
    (same : address.toIpv6Compatible = other.toIpv6Compatible) : address = other := by
  simp only [Ipv4Addr.toIpv6Compatible, Ipv6Addr.mk.injEq, true_and] at same
  obtain ⟨one, two⟩ := segment_inj same.1
  obtain ⟨three, four⟩ := segment_inj same.2
  cases address
  cases other
  simp_all

end CNShell
