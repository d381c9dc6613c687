import Mathlib
import Netqmon.Agent.Flow
import Netqmon.Lib.Ordered
import Netqmon.Lib.RustStr
import Netqmon.Protocol.Policy

/-! # What a plan is made from

The verified client topology, the current addresses of each client and the state of a policy's
schedule. A client is known by its MAC address in lower case (`resolve`), whatever the case in the
neighbor table or in a policy. -/

namespace Netqmon.Agent.Executor.Topology

open Agent.Flow Lib.Ordered Lib.RustStr Protocol.Policy

/-! ### Topology -/

structure PolicyTopology where
  supported : Bool
  (reasonCode reason : Option String)
  capabilities : PolicyCapabilities
  (clientLimitReasonCode clientLimitReason : Option String)
  (lanInterfaces wanInterfaces : List String)
  /-- A verified common packet queue, distinct from the routed WAN interfaces. -/
  wanShapingInterface : Option String
  (lanIfindex wanIfindex : Option UInt32)
  (lanCapacityBps wanCapacityBps : Option ℕ)
  internalNetworks : List String
  neighborBindings : List (String × IpAddr)
  ipv6Coverage : Bool
deriving DecidableEq

/-- A router with one client. -/
def sampleTopology (mac : String) : PolicyTopology where
  supported := true
  reasonCode := none
  reason := none
  capabilities := ⟨.supported, .supported, .unsupported, .unsupported, none⟩
  clientLimitReasonCode := none
  clientLimitReason := none
  lanInterfaces := ["br-lan"]
  wanInterfaces := ["wan0"]
  wanShapingInterface := none
  lanIfindex := some 3
  wanIfindex := some 2
  lanCapacityBps := some 1000000000
  wanCapacityBps := some 100000000
  internalNetworks := ["192.168.1.0/24"]
  neighborBindings := [(mac, .v4 0xc0a80164)]
  ipv6Coverage := false

namespace PolicyTopology

variable (topology : PolicyTopology)

def shapingWan : Option String :=
  topology.wanShapingInterface.or
    (match topology.wanInterfaces with
      | [interface] => some interface
      | _ => none)

def isOneArmRouter : Bool :=
  topology.supported &&
    match topology.lanInterfaces, topology.wanInterfaces with
    | [lan], [wan] => lan == wan
    | _, _ => false

end PolicyTopology

/-! ### Addresses -/

/-- The order of addresses: by family, then by value. -/
def addressRank : IpAddr → ℕ ×ₗ ℕ
  | .v4 octets => toLex (0, octets.toNat)
  | .v6 octets => toLex (1, octets.toNat)

theorem addressRank_injective : Function.Injective addressRank := by
  rintro (a | a) (b | b) h <;>
    simp only [addressRank, EmbeddingLike.apply_eq_iff_eq, Prod.mk.injEq] at h
  · rw [BitVec.eq_of_toNat_eq h.2]
  · exact absurd h.1 (by decide)
  · exact absurd h.1 (by decide)
  · rw [BitVec.eq_of_toNat_eq h.2]

instance : LinearOrder IpAddr := LinearOrder.lift' addressRank addressRank_injective

/-- Neither unspecified nor loopback, multicast or link-local. -/
def isUnicastGlobal : IpAddr → Bool
  | .v4 octets =>
    octets != 0 && octets.extractLsb' 24 8 != 127 && octets.extractLsb' 28 4 != 0xe
      && octets.extractLsb' 16 16 != 0xa9fe
  | .v6 octets =>
    octets != 0 && octets != 1 && octets.extractLsb' 120 8 != 0xff
      && octets.extractLsb' 118 10 != 0x3fa

/-! ### Client identities -/

inductive IdentityError
  | unresolved
  | conflict
deriving DecidableEq

def IdentityError.reasonCode : IdentityError → String
  | .unresolved => "identity_unresolved"
  | .conflict => "identity_conflict"

structure ClientAddresses where
  byMac : OrderedMap String (OrderedSet IpAddr)
  conflicts : List IpAddr

namespace ClientAddresses

def fromNeighbors (neighbors : List (String × IpAddr)) : ClientAddresses :=
  let byMac := neighbors.foldl (fun (m : OrderedMap String (OrderedSet IpAddr)) binding =>
    m.upsert (toAsciiLowercase binding.1) fun s => (s.getD .empty).add binding.2) .empty
  let byIp := neighbors.foldl (fun (m : OrderedMap IpAddr (OrderedSet String)) binding =>
    m.upsert binding.2 fun s => (s.getD .empty).add (toAsciiLowercase binding.1)) .empty
  { byMac
    conflicts := (byIp.entries.filter fun e => 1 < e.2.entries.length).map Prod.fst }

def resolve (identities : ClientAddresses) (mac : String) : Except IdentityError (List IpAddr) :=
  match identities.byMac.lookup (toAsciiLowercase mac) with
  | none => .error .unresolved
  | some addresses =>
    if addresses.keys.any (· ∈ identities.conflicts) then .error .conflict
    else if addresses.keys.isEmpty then .error .unresolved
    else .ok addresses.keys

end ClientAddresses

/-! ### Schedules -/

inductive ScheduleState
  | active
  | inactive
  | expired
  | clockInvalid
deriving DecidableEq

/-- A clock before July 2017 is not believed. -/
def evaluate (policy : PolicySnapshotEntry) (scheduleIntervals : List PolicyScheduleIntervals)
    (nowMs : Option ℤ) (validUntilMs : ℤ) : ScheduleState :=
  if policy.spec.schedule.isNone then .active
  else
    match nowMs.filter (1500000000000 ≤ ·) with
    | none => .clockInvalid
    | some nowMs =>
      if validUntilMs ≤ nowMs then .expired
      else if (scheduleIntervals.find? (·.policyId == policy.id)).any fun entry =>
          entry.intervals.any fun interval =>
            decide (interval.startMs ≤ nowMs) && decide (nowMs < interval.endMs)
      then .active
      else .inactive

end Netqmon.Agent.Executor.Topology
