import Mathlib

/-! # Flow keys

The exact on-wire key of one direction of a flow at one TC hook, as the BPF maps and the agent's
tables use it. Addresses are sixteen bytes, the first byte the most significant one; an IPv4
address occupies the first four. -/

namespace Netqmon.Agent.Flow

structure FlowKey where
  (ipVersion protocol direction : UInt8)
  /-- TC hook: 1 for ingress, 2 for egress. -/
  hook : UInt8
  ifindex : UInt32
  (sourceAddress destinationAddress : BitVec 128)
  (sourcePort destinationPort : UInt16)
deriving DecidableEq

inductive IpAddr
  | v4 (octets : BitVec 32)
  | v6 (octets : BitVec 128)
deriving DecidableEq

/-- Sixteen address bytes of an address, zero-filled behind an IPv4 address. -/
def ipBytes : IpAddr → BitVec 128
  | .v4 octets => octets ++ (0 : BitVec 96)
  | .v6 octets => octets

namespace FlowKey

def addresses (key : FlowKey) : Option (IpAddr × IpAddr) :=
  if key.ipVersion = 4 then
    some (.v4 (key.sourceAddress.extractLsb' 96 32), .v4 (key.destinationAddress.extractLsb' 96 32))
  else if key.ipVersion = 6 then
    some (.v6 key.sourceAddress, .v6 key.destinationAddress)
  else none

/-- The key with source and destination exchanged. -/
def reverse (key : FlowKey) : FlowKey :=
  { key with
    sourceAddress := key.destinationAddress
    destinationAddress := key.sourceAddress
    sourcePort := key.destinationPort
    destinationPort := key.sourcePort }

end FlowKey

end Netqmon.Agent.Flow
