import Mathlib

/-! # Addresses as bytes

`IpAddr` is read from four or sixteen bytes, the most significant one first. `isLocal` are the
loopback, link-local and private or unique local addresses. -/

namespace Netqmon.Lib.RustNet

inductive IpAddr
  | v4 (a b c d : UInt8)
  | v6 (octets : { octets : List UInt8 // octets.length = 16 })
deriving DecidableEq

namespace IpAddr

def ofOctets : List UInt8 → Option IpAddr
  | [a, b, c, d] => some (.v4 a b c d)
  | octets => if h : octets.length = 16 then some (.v6 ⟨octets, h⟩) else none

def isLoopback : IpAddr → Bool
  | .v4 a _ _ _ => a = 127
  | .v6 octets => octets.1 = List.replicate 15 0 ++ [1]

def isLinkLocal : IpAddr → Bool
  | .v4 a b _ _ => a = 169 && b = 254
  | .v6 octets => octets.1[0]? = some 254 && octets.1[1]?.any fun b => b &&& 192 = 128

/-- Private IPv4 and unique local IPv6 addresses. -/
def isPrivate : IpAddr → Bool
  | .v4 a b _ _ => a = 10 || (a = 172 && 16 ≤ b && b ≤ 31) || (a = 192 && b = 168)
  | .v6 octets => octets.1[0]?.any fun a => a &&& 254 = 252

def isLocal (ip : IpAddr) : Bool := ip.isPrivate || ip.isLinkLocal || ip.isLoopback

end IpAddr

end Netqmon.Lib.RustNet
