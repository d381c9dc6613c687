import Mathlib
import Netqmon.Agent.Executor.Topology
import Netqmon.Agent.SavedState
import Netqmon.Lib.Checks

/-! # Traffic classes

Every limited client gets a class on the egress interface of each limited direction, and every
application limit a class below its client's. Classes keep their tags and minor numbers from the
previous state; new ones probe from a number that a hash of their identity gives (`digest16`, the
first two bytes of the SHA-256 of a text). -/

namespace Netqmon.Agent.Executor.Shaper

open SavedState Lib.Checks Lib.Ordered Protocol.Policy

def minPolicyCapacityBps : ℕ := 64000
def maxPolicyCapacityBps : ℕ := maxSafeJsonInteger
def maxClientsPerEgress : ℕ := 256
def maxApplicationClassesPerEgress : ℕ := 4096
def maxApplicationTag : ℕ := 127
def firstApplicationClassMinor : ℕ := 2000
def sharedDirectionTag : ℕ := 256
def maxSharedClientsPerDirection : ℕ := 255

def inCapacityRange (rate : ℕ) : Bool := minPolicyCapacityBps ≤ rate && rate ≤ maxPolicyCapacityBps

/-! ### Rates -/

structure ClientRates where
  (uploadBps downloadBps : Option ℕ)
deriving DecidableEq

def minRate : Option ℕ → Option ℕ → Option ℕ
  | some left, some right => some (min left right)
  | some rate, none => some rate
  | none, rate => rate

namespace ClientRates

def default : ClientRates := ⟨none, none⟩

def addLimit (rates : ClientRates) (uploadBps downloadBps : Option ℕ) : ClientRates :=
  ⟨minRate rates.uploadBps uploadBps, minRate rates.downloadBps downloadBps⟩

def rate (rates : ClientRates) : ShapeDirection → Option ℕ
  | .upload => rates.uploadBps
  | .download => rates.downloadBps

end ClientRates

abbrev ClientRateMap := OrderedMap String ClientRates

/-- Rates by policy and client. -/
abbrev ApplicationRateMap := OrderedMap (String ×ₗ String) ClientRates

/-! ### Tags -/

def directionText : ShapeDirection → String
  | .upload => "upload"
  | .download => "download"

def validClientTag (client : ClientClass) (shared : Bool) : Bool :=
  if !shared then 1 ≤ client.tag && client.tag ≤ maxClientsPerEgress
  else
    client.tag < 512 && client.tag % 256 != 0
      && decide (sharedDirectionTag ≤ client.tag) == (client.direction == .download)

def clientClassMinor (tag : ℕ) (shared : Bool) : ℕ :=
  if shared && tag &&& sharedDirectionTag != 0 then 1000 + tag % 256 else 100 + tag

def defaultClassMinor (clientTag : ℕ) : ℕ := 400 + clientTag

/-- The identity of a class on an interface. -/
structure Placement where
  gatewayId : String
  direction : ShapeDirection
  interface : String
  ifindex : UInt32

def Placement.holdsClient (place : Placement) (prior : ClientClass) : Bool :=
  prior.gatewayId == place.gatewayId && prior.direction == place.direction
    && prior.interface == place.interface && prior.ifindex == place.ifindex

def Placement.holdsApplication (place : Placement) (prior : ApplicationClass) : Bool :=
  prior.gatewayId == place.gatewayId && prior.direction == place.direction
    && prior.interface == place.interface && prior.ifindex == place.ifindex

/-- The text hashed for a class: a label and the parts of its identity, separated by NUL. -/
def seedText (label : String) (parts : List String) : String := "\x00".intercalate (label :: parts)

variable (digest16 : String → ℕ)

variable (place : Placement)

def initialTag (mac : String) : ℕ :=
  digest16 (seedText "netqmon-policy-class-v1"
    [place.gatewayId, mac, directionText place.direction, place.interface,
      toString place.ifindex.toNat]) % maxClientsPerEgress + 1

def applicationSeed (label : String) (place : Placement) (policyId mac : String) : ℕ :=
  digest16 (seedText label
    [place.gatewayId, policyId, mac, directionText place.direction, place.interface,
      toString place.ifindex.toNat])

def initialApplicationTag (policyId mac : String) : ℕ :=
  applicationSeed digest16 "netqmon-application-class-v1" place policyId mac % maxApplicationTag + 1

def initialApplicationClassMinor (policyId mac : String) : ℕ :=
  firstApplicationClassMinor +
    applicationSeed digest16 "netqmon-application-class-id-v1" place policyId mac
      % maxApplicationClassesPerEgress

/-- The first free number of `base ..< base + size`, probing cyclically from `first`. -/
def probe (base size first : ℕ) (isFree : ℕ → Bool) : Option ℕ :=
  ((List.range size).map fun offset => base + (first - base + offset) % size).find? isFree

/-! ### Client classes -/

def allocateClasses (rates : OrderedMap String ℕ)
    (previous : List ClientClass) : Except String (List ClientClass) := do
  ensure (rates.entries.length ≤ maxClientsPerEgress)
    "unsupported_client_limit: at most 256 client budgets are allowed per egress"
  ensure (rates.values.all inCapacityRange)
    "invalid_client_rate: client budgets are outside the safe capacity range"
  let kept ← previous.foldlM (fun (acc : OrderedMap String ℕ × List ℕ) prior =>
    if !place.holdsClient prior || !rates.contains prior.mac
        || !(1 ≤ prior.tag && prior.tag ≤ maxClientsPerEgress) then .ok acc
    else if prior.tag ∈ acc.2 then
      .error "degraded_ownership_conflict: saved client class tags are duplicated"
    else .ok (acc.1.insert prior.mac prior.tag, prior.tag :: acc.2)) (.empty, [])
  let assigned ← rates.keys.foldlM (fun (acc : OrderedMap String ℕ × List ℕ) mac =>
    if acc.1.contains mac then .ok acc
    else
      match probe 1 maxClientsPerEgress (initialTag digest16 place mac) (· ∉ acc.2) with
      | none => .error "unsupported_client_limit: no collision-free class tag is available"
      | some tag => .ok (acc.1.insert mac tag, tag :: acc.2)) kept
  .ok (rates.entries.map fun (mac, rateBps) =>
    -- every key of `rates` has been assigned a tag
    let tag := (assigned.1.lookup mac).getD 0
    { gatewayId := place.gatewayId
      mac
      direction := place.direction
      interface := place.interface
      ifindex := place.ifindex
      tag
      classMinor := 100 + tag
      leafMinor := 1000 + tag
      rateBps
      hasTotalBudget := true })

/-- On a shared egress bit 8 of a tag is the direction, so that tag 256 has to move. -/
def relabelShared (direction : ShapeDirection) :
    List ℕ → List ClientClass → Except String (List ClientClass)
  | _, [] => .ok []
  | used, client :: rest => do
    let moved ←
      if client.tag = 256 then
        match ((List.range 255).map (· + 1)).find? (· ∉ used) with
        | none => .error "shared egress client tag space exhausted"
        | some tag => .ok (tag, tag :: used)
      else .ok (client.tag, used)
    let tag := if direction = .download then moved.1 ||| sharedDirectionTag else moved.1
    let relabelled ← relabelShared direction moved.2 rest
    .ok ({ client with
      tag
      classMinor := clientClassMinor tag true
      leafMinor := 1000 + tag } :: relabelled)

def allocateSharedClientClasses (rates : OrderedMap String ℕ)
    (previous : List ClientClass) : Except String (List ClientClass) := do
  ensure (rates.entries.length ≤ maxSharedClientsPerDirection)
    "unsupported_client_limit: shared egress supports 255 clients per direction"
  let logicalPrevious := (previous.filter fun client =>
      client.direction == place.direction && validClientTag client true).map fun client =>
    { client with tag := client.tag % 256 }
  let clients ← allocateClasses digest16 place rates logicalPrevious
  relabelShared place.direction (clients.map (·.tag)) clients

/-! ### Application classes -/

structure ApplicationSlots where
  assigned : OrderedMap (String ×ₗ String) ℕ
  /-- Occupied tags, each with the minor number of its parent class. -/
  occupied : List (ℕ × ℕ)
  assignedMinors : OrderedMap (String ×ₗ String) ℕ
  occupiedMinors : List ℕ

def isApplicationClassMinor (minor : ℕ) : Bool :=
  firstApplicationClassMinor ≤ minor
    && minor < firstApplicationClassMinor + maxApplicationClassesPerEgress

def keepApplicationSlot (rates : OrderedMap (String ×ₗ String) ℕ)
    (parents : OrderedMap String ClientClass) (slots : ApplicationSlots)
    (prior : ApplicationClass) : Except String ApplicationSlots :=
  let key := toLex (prior.policyId, prior.mac)
  match parents.lookup prior.mac with
  | none => .ok slots
  | some parent =>
    if !place.holdsApplication prior || !rates.contains key
        || prior.parentClassMinor != parent.classMinor
        || !(1 ≤ prior.tag && prior.tag ≤ maxApplicationTag) then .ok slots
    else if (parent.classMinor, prior.tag) ∈ slots.occupied then
      .error "degraded_ownership_conflict: saved application class tags are duplicated"
    else if !isApplicationClassMinor prior.classMinor
        || prior.classMinor ∈ slots.occupiedMinors then
      .error
        "degraded_ownership_conflict: saved application class IDs are invalid or duplicated"
    else
      .ok { assigned := slots.assigned.insert key prior.tag
            occupied := (parent.classMinor, prior.tag) :: slots.occupied
            assignedMinors := slots.assignedMinors.insert key prior.classMinor
            occupiedMinors := prior.classMinor :: slots.occupiedMinors }

def assignApplicationTag (parents : OrderedMap String ClientClass)
    (slots : ApplicationSlots) (key : String ×ₗ String) : Except String ApplicationSlots :=
  if slots.assigned.contains key then .ok slots
  else
    match parents.lookup (ofLex key).2 with
    | none => .error "invalid_application_parent: application class has no client parent class"
    | some parent =>
      match probe 1 maxApplicationTag
          (initialApplicationTag digest16 place (ofLex key).1 (ofLex key).2)
          fun tag => (parent.classMinor, tag) ∉ slots.occupied with
      | none =>
        .error
          "unsupported_application_limit: a client cannot own more than 127 application budgets"
      | some tag =>
        .ok { slots with
          assigned := slots.assigned.insert key tag
          occupied := (parent.classMinor, tag) :: slots.occupied }

def assignApplicationMinor (slots : ApplicationSlots)
    (key : String ×ₗ String) : Except String ApplicationSlots :=
  if slots.assignedMinors.contains key then .ok slots
  else
    match probe firstApplicationClassMinor maxApplicationClassesPerEgress
        (initialApplicationClassMinor digest16 place (ofLex key).1 (ofLex key).2)
        (· ∉ slots.occupiedMinors) with
    | none =>
      .error
        "unsupported_application_limit: no collision-free application class ID is available"
    | some minor =>
      .ok { slots with
        assignedMinors := slots.assignedMinors.insert key minor
        occupiedMinors := minor :: slots.occupiedMinors }

def allocateApplicationClassesReserved (rates : OrderedMap (String ×ₗ String) ℕ) (clients : List ClientClass)
    (previous : List ApplicationClass) (reservedMinors : List ℕ) :
    Except String (List ApplicationClass) := do
  ensure (rates.entries.length ≤ maxApplicationClassesPerEgress)
    "unsupported_application_limit: at most 4096 application budgets are allowed per egress"
  ensure (rates.values.all fun rate => 64000 ≤ rate && rate ≤ 1000000000)
    "invalid_application_rate: application rates must be between 64000 and 1000000000 bps"
  let parents := OrderedMap.ofList ((clients.filter (·.direction == place.direction)).map
    fun client => (client.mac, client))
  let kept ← previous.foldlM (keepApplicationSlot place rates parents)
    ⟨.empty, [], .empty, reservedMinors⟩
  let slots ← rates.keys.foldlM (fun slots key => do
    let slots ← assignApplicationTag digest16 place parents slots key
    assignApplicationMinor digest16 place slots key) kept
  rates.entries.mapM fun (key, rateBps) =>
    match parents.lookup (ofLex key).2 with
    | none => .error "invalid_application_parent: application class has no client parent class"
    | some parent =>
      if parent.rateBps < rateBps then
        .error "invalid_application_rate: application budget exceeds its client parent rate"
      else
        .ok { policyId := (ofLex key).1
              gatewayId := place.gatewayId
              mac := (ofLex key).2
              direction := place.direction
              interface := place.interface
              ifindex := place.ifindex
              tag := (slots.assigned.lookup key).getD 0
              classMinor := (slots.assignedMinors.lookup key).getD 0
              parentClassMinor := parent.classMinor
              rateBps }

def allocateApplicationClasses (rates : OrderedMap (String ×ₗ String) ℕ)
    (clients : List ClientClass) (previous : List ApplicationClass) :
    Except String (List ApplicationClass) :=
  allocateApplicationClassesReserved digest16 place rates clients previous []

end Netqmon.Agent.Executor.Shaper
