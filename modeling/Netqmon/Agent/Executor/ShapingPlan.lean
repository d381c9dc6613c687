import Netqmon.Agent.Executor.Shaper

/-! # The shaping state of a plan

`compileShapingPlan` turns the rates of a plan into a shaping state and its packet marks, or says why
it cannot. Rates become classes on the upload interface (towards the Internet) and the download interface
(towards the clients); on a one-armed router both directions share one interface. -/

namespace Netqmon.Agent.Executor.ShapingPlan

open Agent.Flow SavedState Executor.Topology Shaper Lib.Checks Lib.Ordered Lib.RustStr

/-! ### Validity of a shaping state -/

variable (interface : ManagedInterface)

def validClientClass (client : ClientClass) : Bool :=
  !client.gatewayId.toList.isEmpty && byteLen client.mac == 17
    && client.ifindex == interface.ifindex && client.interface == interface.name
    && validClientTag client interface.sharedEgress
    && client.classMinor == clientClassMinor client.tag interface.sharedEgress
    && client.leafMinor == 1000 + client.tag && inCapacityRange client.rateBps
    && !(interface.sharedEgress && interface.capacityBps < client.rateBps)

def validApplicationClass (parent : ClientClass) (application : ApplicationClass) : Bool :=
  !application.policyId.toList.isEmpty && application.gatewayId == parent.gatewayId
    && application.mac == parent.mac && application.direction == parent.direction
    && application.interface == interface.name && application.ifindex == interface.ifindex
    && isApplicationClassMinor application.classMinor
    && (64000 ≤ application.rateBps && application.rateBps ≤ 1000000000)
    && application.rateBps ≤ parent.rateBps

/-- What the loop over the application classes of an interface has seen. -/
structure SeenApplications where
  tags : List (ℕ × ℕ)
  keys : List (String × String × ShapeDirection)
  classes : List ℕ

local instance lawfulTags : LawfulBEq (ℕ × ℕ) := inferInstance

local instance lawfulKeys : LawfulBEq (String × String × ShapeDirection) := inferInstance

def validateApplication (clientsByClass : OrderedMap ℕ ClientClass)
    (seen : SeenApplications) (application : ApplicationClass) :
    Except String SeenApplications := do
  let parent ← match clientsByClass.lookup application.parentClassMinor with
    | none => .error "local traffic-shaping state contains an orphan application class"
    | some parent => .ok parent
  ensure (1 ≤ application.tag && application.tag ≤ maxApplicationTag)
    "local traffic-shaping state contains an invalid application class"
  let key := (application.policyId, application.mac, application.direction)
  ensure (validApplicationClass interface parent application
      && decide ((application.parentClassMinor, application.tag) ∉ seen.tags)
      && decide (key ∉ seen.keys) && decide (application.classMinor ∉ seen.classes))
    "local traffic-shaping state contains an invalid application class"
  .ok { tags := (application.parentClassMinor, application.tag) :: seen.tags
        keys := key :: seen.keys
        classes := application.classMinor :: seen.classes }

def validateInterface : Except String Unit := do
  ensure (interface.clients.all (validClientClass interface)
      && decide (interface.clients.map (·.tag)).Nodup
      && decide (interface.clients.map (·.classMinor)).Nodup)
    "local traffic-shaping state contains invalid client assignments"
  let clientsByClass := OrderedMap.ofList (interface.clients.map fun client =>
    (client.classMinor, client))
  ensure (interface.applicationClasses.length ≤ maxApplicationClassesPerEgress)
    "local traffic-shaping state exceeds the application class limit"
  let seen ← interface.applicationClasses.foldlM (validateApplication interface clientsByClass)
    ⟨[], [], interface.clients.map (·.classMinor)⟩
  let parents : OrderedSet ℕ := OrderedMap.ofList (interface.applicationClasses.map
    fun application => (application.parentClassMinor, ()))
  let defaults := parents.keys.filterMap fun minor =>
    (clientsByClass.lookup minor).map fun parent => defaultClassMinor parent.tag
  ensure (decide (defaults.Nodup ∧ ∀ minor ∈ defaults, minor ∉ seen.classes))
    "local traffic-shaping state contains duplicate default classes"

def validInterfaceMetadata (names : List String) (interface : ManagedInterface) : Bool :=
  !interface.name.toList.isEmpty && byteLen interface.name ≤ 15 && interface.ifindex != 0
    && inCapacityRange interface.capacityBps
    && decide (interface.originalRootKind ∈ ["", "fq_codel", "pfifo_fast", "noqueue", "ifb"])
    && decide (interface.name ∉ names)
    && interface.clients.length ≤
      if interface.sharedEgress then 2 * maxSharedClientsPerDirection else maxClientsPerEgress

def validateInterfaces : List String → List ManagedInterface → Except String Unit
  | _, [] => .ok ()
  | names, interface :: rest => do
    ensure (validInterfaceMetadata names interface)
      "local traffic-shaping state contains invalid interface metadata"
    validateInterface interface
    validateInterfaces (interface.name :: names) rest

def validateShapingState (state : ShapingState) : Except String Unit := do
  ensure (state.schemaVersion == if state.sharedEgress.isSome then 2 else 1)
    "unsupported local traffic-shaping state schema"
  ensure (!(state.sharedEgress.isSome
      && (state.uploadInterface.isSome || state.downloadInterface.isSome)))
    "shared egress cannot coexist with dedicated direction roots"
  ensure (state.sharedEgress.all (·.sharedEgress)
      && state.uploadInterface.all (!·.sharedEgress)
      && state.downloadInterface.all (!·.sharedEgress))
    "shaping layout does not match its physical root"
  validateInterfaces [] state.interfaces

/-! ### Classes from rates -/

variable (digest16 : String → ℕ)

def originalRootKind (previous : Option ManagedInterface) (ifindex : UInt32) : String :=
  match previous.filter (·.ifindex == ifindex) with
  | none => ""
  | some interface => interface.originalRootKind

variable (clientRates : ClientRateMap)

variable (direction : ShapeDirection)

/-- The rates of one direction of the clients. -/
def directionalRates : OrderedMap String ℕ :=
  OrderedMap.ofList (clientRates.entries.filterMap fun e => (e.2.rate direction).map (e.1, ·))

/-- Application limits of one direction. A client without a total limit becomes a parent with
the rate `capacity`; each limit is handed to `record` with its parent's rate. -/
def addApplicationRates (applicationRates : ApplicationRateMap) (direction : ShapeDirection)
    (capacity : ℕ) (record : ℕ → ℕ → ℕ) (rates : OrderedMap String ℕ) :
    OrderedMap String ℕ × OrderedMap (String ×ₗ String) ℕ :=
  applicationRates.entries.foldl (fun acc e =>
    match e.2.rate direction with
    | none => acc
    | some rate =>
      let mac := (ofLex e.1).2
      let parent := (acc.1.lookup mac).getD capacity
      (acc.1.insert mac parent, acc.2.insert e.1 (record rate parent))) (rates, .empty)

def markTotals (clients : List ClientClass) : List ClientClass :=
  clients.map fun client =>
    { client with
      hasTotalBudget := ((clientRates.lookup client.mac).bind (·.rate direction)).isSome }

def buildManagedInterface (place : Placement) (capacityBps : ℕ) (clientRates : ClientRateMap)
    (applicationRates : ApplicationRateMap) (previous : Option ManagedInterface) :
    Except String (Option ManagedInterface) := do
  let (parentRates, policyRates) := addApplicationRates applicationRates place.direction
    capacityBps (fun rate _ => rate) (directionalRates clientRates place.direction)
  if parentRates.isEmpty then return none
  let allocated ← allocateClasses digest16 place parentRates ((previous.map (·.clients)).getD [])
  let clients := markTotals clientRates place.direction allocated
  let policyRates := OrderedMap.ofList (policyRates.entries.map fun (key, rate) =>
    match clients.find? (·.mac == (ofLex key).2) with
    | none => (key, rate)
    | some parent => (key, min rate parent.rateBps))
  let applicationClasses ← allocateApplicationClasses digest16 place policyRates clients
    ((previous.map (·.applicationClasses)).getD [])
  return some
    { sharedEgress := false
      name := place.interface
      ifindex := place.ifindex
      capacityBps
      originalRootKind := originalRootKind previous place.ifindex
      clients
      applicationClasses }

/-- The minor numbers that the other direction of a shared egress has or will keep. -/
def reservedMinors (applicationRates : ApplicationRateMap)
    (prior : Option ManagedInterface) (applications : List ApplicationClass) : List ℕ :=
  applications.map (·.classMinor) ++
    (((prior.map (·.applicationClasses)).getD []).filter fun app =>
      app.direction != direction
        && (applicationRates.lookup (toLex (app.policyId, app.mac))).any
          (fun limits => (limits.rate app.direction).isSome)
        && !applications.any (·.classMinor == app.classMinor)).map (·.classMinor)

def buildSharedDirection (gatewayId lan : String) (ifindex : UInt32) (capacity : ℕ)
    (clientRates : ClientRateMap) (applicationRates : ApplicationRateMap)
    (prior : Option ManagedInterface) (built : List ClientClass × List ApplicationClass)
    (direction : ShapeDirection) : Except String (List ClientClass × List ApplicationClass) := do
  let place : Placement := ⟨gatewayId, direction, lan, ifindex⟩
  let (rates, appRates) := addApplicationRates applicationRates direction capacity min
    (directionalRates clientRates direction)
  ensure (rates.values.all (· ≤ capacity))
    "invalid_client_rate: shared client ceiling exceeds interface capacity"
  let allocated ← allocateSharedClientClasses digest16 place rates
    ((prior.map (·.clients)).getD [])
  let clients := markTotals clientRates direction allocated
  let applications ← allocateApplicationClassesReserved digest16 place appRates clients
    ((prior.map (·.applicationClasses)).getD [])
    (reservedMinors direction applicationRates prior built.2)
  .ok (built.1 ++ clients, built.2 ++ applications)

def buildShapingState (gatewayId : String) (topology : PolicyTopology)
    (clientRates : ClientRateMap) (applicationRates : ApplicationRateMap)
    (previous : Option ShapingState) : Except String ShapingState :=
  if clientRates.isEmpty && applicationRates.isEmpty then .ok .empty
  else
    match topology.lanInterfaces.head?, topology.shapingWan, topology.lanIfindex,
      topology.wanIfindex, topology.lanCapacityBps, topology.wanCapacityBps with
    | some lan, some wan, some lanIfindex, some wanIfindex, some lanCapacity, some wanCapacity =>
      if topology.isOneArmRouter then do
        ensure (lanIfindex == wanIfindex && lanCapacity == wanCapacity)
          "shared egress requires one consistent physical interface identity and capacity"
        let prior := previous.bind (·.sharedEgress)
        let built ← [ShapeDirection.upload, .download].foldlM
          (buildSharedDirection digest16 gatewayId lan lanIfindex lanCapacity clientRates
            applicationRates prior) ([], [])
        let state : ShapingState :=
          { schemaVersion := 2
            uploadInterface := none
            downloadInterface := none
            sharedEgress := some
              { sharedEgress := true
                name := lan
                ifindex := lanIfindex
                capacityBps := lanCapacity
                originalRootKind := originalRootKind prior lanIfindex
                clients := built.1
                applicationClasses := built.2 } }
        validateShapingState state
        .ok state
      else do
        let upload ← buildManagedInterface digest16 ⟨gatewayId, .upload, wan, wanIfindex⟩
          wanCapacity clientRates applicationRates (previous.bind (·.uploadInterface))
        let download ← buildManagedInterface digest16 ⟨gatewayId, .download, lan, lanIfindex⟩
          lanCapacity clientRates applicationRates (previous.bind (·.downloadInterface))
        .ok { schemaVersion := 1
              uploadInterface := upload
              downloadInterface := download
              sharedEgress := none }
    | _, _, _, _, _, _ =>
      .error "unsupported_multi_egress: verified LAN/WAN interface metadata is incomplete"

/-! ### Packet marks -/

def directionRank : ShapeDirection → ℕ
  | .upload => 0
  | .download => 1

def markRank (rule : MarkRule) : ℕ ×ₗ String ×ₗ String ×ₗ IpAddr ×ₗ ℕ :=
  toLex (directionRank rule.direction,
    toLex (rule.interfaceIn, toLex (rule.interfaceOut, toLex (rule.address, rule.tag))))

def rulesForClients (upload download : List ClientClass) (addresses : List (String × IpAddr))
    (lanInterface wanInterface : String) : List MarkRule :=
  let rules (direction : ShapeDirection) (interfaceIn interfaceOut : String)
      (classes : List ClientClass) : List MarkRule :=
    classes.flatMap fun client =>
      (addresses.filter fun e => eqIgnoreAsciiCase e.1 client.mac).map fun e =>
        { interfaceIn
          interfaceOut
          address := e.2
          direction
          tag := client.tag }
  ((rules .upload lanInterface wanInterface upload
    ++ rules .download wanInterface lanInterface download).insertionSort
      fun a b => markRank a ≤ markRank b).destutter (· ≠ ·)

/-- The shaping state of a plan and its packet marks; none if there is nothing to shape. -/
def compileShapingPlan (gatewayId : String) (topology : PolicyTopology)
    (previous : Option ShapingState) (clientRates : ClientRateMap)
    (applicationRates : ApplicationRateMap) (clientAddresses : List (String × IpAddr)) :
    Except String (Option (ShapingState × List MarkRule)) := do
  let state ← buildShapingState digest16 gatewayId topology clientRates applicationRates previous
  if state.isEmpty then return none
  let lan ← match topology.lanInterfaces.head? with
    | none => .error "unsupported_multi_egress: no verified LAN interface is available"
    | some lan => .ok lan
  ensure (!topology.wanInterfaces.isEmpty)
    "unsupported_multi_egress: no verified WAN interface is available"
  let (upload, download) := match state.sharedEgress with
    | some shared =>
      (shared.clients.filter (·.direction == .upload),
        shared.clients.filter (·.direction == .download))
    | none =>
      ((state.uploadInterface.map (·.clients)).getD [],
        (state.downloadInterface.map (·.clients)).getD [])
  return some (state, topology.wanInterfaces.flatMap fun wan =>
    rulesForClients upload download clientAddresses lan wan)

end Netqmon.Agent.Executor.ShapingPlan
