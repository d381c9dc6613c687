import Netqmon.Agent.Flow
import Netqmon.Protocol.Policy

/-! # The agent's saved policy state

The last snapshot the agent applied, the blocked addresses and the traffic-shaping classes it
installed for it. -/

namespace Netqmon.Agent.SavedState

open Agent.Flow Protocol.Policy

/-- The direction a class shapes. -/
inductive ShapeDirection
  | upload
  | download
deriving DecidableEq

structure ClientClass where
  (gatewayId mac : String)
  direction : ShapeDirection
  interface : String
  ifindex : UInt32
  (tag classMinor leafMinor rateBps : ℕ)
  hasTotalBudget : Bool
deriving DecidableEq

structure ApplicationClass where
  (policyId gatewayId mac : String)
  direction : ShapeDirection
  interface : String
  ifindex : UInt32
  (tag classMinor parentClassMinor rateBps : ℕ)
deriving DecidableEq

structure ManagedInterface where
  sharedEgress : Bool
  name : String
  ifindex : UInt32
  capacityBps : ℕ
  originalRootKind : String
  clients : List ClientClass
  applicationClasses : List ApplicationClass
deriving DecidableEq

structure ShapingState where
  schemaVersion : ℕ
  (uploadInterface downloadInterface sharedEgress : Option ManagedInterface)
deriving DecidableEq

namespace ShapingState

def empty : ShapingState := ⟨1, none, none, none⟩

def interfaces (state : ShapingState) : List ManagedInterface :=
  [state.uploadInterface, state.downloadInterface, state.sharedEgress].filterMap id

def isEmpty (state : ShapingState) : Bool := state.interfaces.isEmpty

end ShapingState

structure MarkRule where
  (interfaceIn interfaceOut : String)
  address : IpAddr
  direction : ShapeDirection
  tag : ℕ
deriving DecidableEq

structure PolicyState where
  (gatewayId controllerEpoch : String)
  (configRevision bundleGeneration : ℕ)
  (checksum topologyFingerprint : String)
  snapshot : PolicySnapshot
  blockedClientsV4 : List IpAddr
  blockedClientsV6 : List IpAddr
  shapingState : Option ShapingState
  shapingMarks : List MarkRule
deriving DecidableEq

end Netqmon.Agent.SavedState
