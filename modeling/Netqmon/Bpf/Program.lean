import Netqmon.Agent.Polling
import Netqmon.Bpf.Packet

/-! # The packet program

The programs at the two TC hooks of an interface look a frame up in the verdict maps, drop it or
count it in the flow map, and copy the first packets of a flow and some discovery traffic into ring
buffers. `parsePacket` does the work for one frame.

The program is built in two ways. With subprograms it parses a frame once. Without them
(`Build.tailCalls`) the stages of the work are programs of their own that tail-call each other: a
first pass over the frame with `Mode.policy` looks up verdicts, a second one with `Mode.observe`
counts and samples. The optional traffic-shaping features are not part of these builds.

A `Machine` has the maps and, as history, the updates of the maps and the submitted events; all
updates go through `Machine.perform`. The clock does not advance while one frame is processed,
creating an entry in a map that evicts old entries always works, and a tail call works unless the
context says otherwise. -/

namespace Netqmon.Bpf.Program

open Agent.Flow Lib.Keyed Bpf.Packet
open Agent.Polling (FlowCounters)

/-! ### Maps -/

def verdictBlock : UInt8 := 1
def verdictShape : UInt8 := 2

structure FlowVerdict where
  (expiresMonotonicNs policyGeneration : ℕ)
  policyIdentityHash : BitVec 128
  policyClientMac : BitVec 48
  policyTag : UInt32
  verdict : UInt8
deriving DecidableEq

/-- Original client to remote endpoint, independent of the client's port. -/
structure EndpointBlockKey where
  (ipVersion protocol : UInt8)
  remotePort : UInt16
  (clientAddress remoteAddress : BitVec 128)
  clientMac : BitVec 48
deriving DecidableEq

structure PolicyDropKey where
  policyIdentityHash : BitVec 128
  clientMac : BitVec 48
deriving DecidableEq

structure PolicyDropValue where
  (packets bytes : ℕ)
deriving DecidableEq

/-- `packetsSeen` counts the two orientations of a conversation apart. -/
structure SampleBudget where
  (firstSeenNs lastSeenNs bytesSeen : ℕ)
  packetsSeen : Bool → ℕ
  sampled : Bool

structure FlowPolicyState where
  enabled : Bool
  generation : ℕ
deriving DecidableEq

/-- What is counted about samples. -/
inductive SampleCounter
  | sampledFlows
  | capturedBytes
  | drops
  | droppedBytes
  | submitted
deriving DecidableEq

structure Maps where
  flowMap : Rows FlowKey FlowCounters
  flowVerdictMap : Rows FlowKey FlowVerdict
  endpointBlocks : Rows EndpointBlockKey FlowVerdict
  policyDropCounters : Rows PolicyDropKey PolicyDropValue
  observedIfindexes : List UInt32
  sampleBudgets : Rows FlowKey SampleBudget
  sampleCounters : SampleCounter → ℕ
  dnsDropCount : ℕ
  flowPolicyState : FlowPolicyState

/-- One update of a map. -/
inductive Update
  | flow (key : FlowKey) (length now : ℕ) (tcpFlags : UInt8)
  | verdictDeleted (key : FlowKey)
  | endpointDeleted (key : EndpointBlockKey)
  | policyDrop (key : PolicyDropKey) (length : ℕ)
  | budgetCreated (key : FlowKey) (now : ℕ)
  | budgetSeen (key : FlowKey) (now : ℕ)
  | budgetPacket (key : FlowKey) (direction : Bool)
  | budgetBytes (key : FlowKey) (length : ℕ)
  | budgetSampled (key : FlowKey)
  | sampleCount (counter : SampleCounter) (amount : ℕ)
  | dnsDrop
deriving DecidableEq

def updateFlowValue (value : FlowCounters) (length now : ℕ) (tcpFlags : UInt8) : FlowCounters :=
  { value with
    packets := value.packets + 1
    bytes := value.bytes + length
    lastSeenNs := now
    tcpFlags := value.tcpFlags ||| tcpFlags.toNat }

variable (maps : Maps)

def Maps.changeBudget (key : FlowKey) (change : SampleBudget → SampleBudget) : Maps :=
  match maps.sampleBudgets.lookup key with
  | none => maps
  | some budget => { maps with sampleBudgets := maps.sampleBudgets.insert key (change budget) }

def Maps.apply : Update → Maps
  | .flow key length now tcpFlags =>
    { maps with
      flowMap := upsert maps.flowMap key ⟨1, length, now, now, tcpFlags.toNat⟩
        (updateFlowValue · length now tcpFlags) }
  | .verdictDeleted key => { maps with flowVerdictMap := maps.flowVerdictMap.erase key }
  | .endpointDeleted key => { maps with endpointBlocks := maps.endpointBlocks.erase key }
  | .policyDrop key length =>
    { maps with
      policyDropCounters := upsert maps.policyDropCounters key ⟨1, length⟩
        fun value => ⟨value.packets + 1, value.bytes + length⟩ }
  | .budgetCreated key now =>
    { maps with
      sampleBudgets := maps.sampleBudgets.insert key ⟨now, now, 0, fun _ => 0, false⟩ }
  | .budgetSeen key now => maps.changeBudget key ({ · with lastSeenNs := now })
  | .budgetPacket key direction =>
    maps.changeBudget key fun budget =>
      { budget with
        packetsSeen := fun d => budget.packetsSeen d + if d = direction then 1 else 0 }
  | .budgetBytes key length =>
    maps.changeBudget key fun budget => { budget with bytesSeen := budget.bytesSeen + length }
  | .budgetSampled key => maps.changeBudget key ({ · with sampled := true })
  | .sampleCount counter amount =>
    { maps with
      sampleCounters := fun c => maps.sampleCounters c + if c = counter then amount else 0 }
  | .dnsDrop => { maps with dnsDropCount := maps.dnsDropCount + 1 }

/-! ### Events and the machine -/

structure SampleEvent where
  key : FlowKey
  (originalLength timestampNs firstSeenNs flowFirstSeenNs capturedLength : ℕ)
  payload : List UInt8
deriving DecidableEq

structure DnsEvent where
  timestampNs : ℕ
  ifindex : UInt32
  (packetLength payloadLength : ℕ)
  ipVersion : UInt8
  truncated : Bool
  clientAddress : BitVec 128
  payload : List UInt8
deriving DecidableEq

structure DhcpEvent where
  timestampNs : ℕ
  ifindex : UInt32
  (packetLength payloadLength : ℕ)
  payload : List UInt8
deriving DecidableEq

structure DiscoveryEvent where
  timestampNs : ℕ
  ifindex : UInt32
  (packetLength capturedPayloadLength originalPayloadLength : ℕ)
  truncated : Bool
  ipVersion : UInt8
  sourceAddress : BitVec 128
  sourceMac : BitVec 48
  (sourcePort destinationPort : UInt16)
  payload : List UInt8
deriving DecidableEq

inductive Event
  | sample (event : SampleEvent)
  | dns (event : DnsEvent)
  | dhcp (event : DhcpEvent)
  | discovery (event : DiscoveryEvent)
deriving DecidableEq

/-- `mark` is the mark of the frame that is being processed. -/
structure Machine where
  maps : Maps
  mark : UInt32
  updates : List Update
  events : List Event

namespace Machine

def perform (m : Machine) (update : Update) : Machine :=
  { m with maps := m.maps.apply update, updates := m.updates ++ [update] }

def submit (m : Machine) (event : Event) : Machine := { m with events := m.events ++ [event] }

end Machine

/-- The machine when a program starts on a frame. -/
def start (skb : SkBuff) : Machine := ⟨maps, skb.mark, [], []⟩

@[simp] theorem start_maps (skb : SkBuff) : (start maps skb).maps = maps := rfl

/-! ### What a run depends on besides the frame and the maps -/

structure SampleConfig where
  enabled : Bool
  (maxPacketsPerDirection maxBytesPerPacket maxBytesPerFlow : ℕ)
  /-- The size of the map with the budgets. -/
  maxBudgets : ℕ
deriving DecidableEq

inductive Ring
  | sample
  | dns
  | dhcp
  | discovery
deriving DecidableEq

/-- The programs that are reached by tail calls. -/
inductive Stage
  | sample (hook : Hook)
  | observe (hook : Hook)
  | finish (hook : Hook)
deriving DecidableEq

/-- `reserves` says which ring buffers have room, `tailCalls` which tail calls work. -/
structure Context where
  config : SampleConfig
  now : ℕ
  reserves : Ring → Bool
  tailCalls : Stage → Bool

inductive Build
  | subprograms
  | tailCalls
deriving DecidableEq

inductive Mode
  | whole
  | policy
  | observe
deriving DecidableEq

def policyOnly : Build → Mode → Bool
  | .subprograms, mode => mode ≠ .whole
  | .tailCalls, mode => mode = .policy

def checkPolicy : Build → Mode → Bool
  | .subprograms, _ => maps.flowPolicyState.enabled
  | .tailCalls, mode => mode ≠ .observe ∧ maps.flowPolicyState.enabled

/-! ### Verdicts -/

/-- The entry is expired, or belongs to another generation. -/
def verdictOutdated (now : ℕ) (state : FlowPolicyState) (verdict : FlowVerdict) : Prop :=
  verdict.expiresMonotonicNs ≤ now ∨
    (state.generation ≠ 0 ∧ verdict.policyGeneration ≠ state.generation)

instance (now : ℕ) (state : FlowPolicyState) (verdict : FlowVerdict) :
    Decidable (verdictOutdated now state verdict) := inferInstanceAs (Decidable (_ ∨ _))

variable (ctx : Context)

def activeFlowVerdict (key : FlowKey) (m : Machine) : Option FlowVerdict × Machine :=
  match m.maps.flowVerdictMap.lookup key with
  | none => (none, m)
  | some verdict =>
    if verdictOutdated ctx.now m.maps.flowPolicyState verdict then
      (none, m.perform (.verdictDeleted key))
    else (some verdict, m)

variable (skb : SkBuff)

variable (key : FlowKey)

/-- The client is the sender at ingress and the receiver at egress. -/
def endpointBlockKey : EndpointBlockKey :=
  if key.hook = Hook.ingress.code then
    ⟨key.ipVersion, key.protocol, key.destinationPort, key.sourceAddress, key.destinationAddress,
      skb.mac 6⟩
  else
    ⟨key.ipVersion, key.protocol, key.sourcePort, key.destinationAddress, key.sourceAddress,
      skb.mac 0⟩

def endpointOutdated (state : FlowPolicyState) (verdict : FlowVerdict) : Prop :=
  verdict.expiresMonotonicNs ≤ ctx.now ∨ verdict.policyGeneration ≠ state.generation

instance (ctx : Context) (state : FlowPolicyState) (verdict : FlowVerdict) :
    Decidable (endpointOutdated ctx state verdict) := inferInstanceAs (Decidable (_ ∨ _))

def activeEndpointBlock (key : EndpointBlockKey) (m : Machine) : Option FlowVerdict × Machine :=
  match m.maps.endpointBlocks.lookup key with
  | none => (none, m)
  | some verdict =>
    if endpointOutdated ctx m.maps.flowPolicyState verdict then
      (none, m.perform (.endpointDeleted key))
    else (some verdict, m)

/-- The number of packets of the flow, this one included, is returned as well. -/
def recordFlow (packetLength : ℕ) (tcpFlags : UInt8) (m : Machine) : ℕ × Machine :=
  let packets :=
    match m.maps.flowMap.lookup key with
    | some value => value.packets + 1
    | none => 1
  (packets, m.perform (.flow key packetLength ctx.now tcpFlags))

def applicationMarkMask : UInt32 := 0xfe000000
def applicationMarkShift : UInt32 := 25
def applicationMarkMaxTag : UInt32 := 0x7f

/-- What a verdict does with a frame. -/
def enforce (skb : SkBuff) (key : FlowKey) (verdict : FlowVerdict) (m : Machine) :
    Action × Machine :=
  if verdict.verdict = verdictShape then
    if 0 < verdict.policyTag ∧ verdict.policyTag ≤ applicationMarkMaxTag then
      (.ok, { m with
        mark := (m.mark &&& ~~~applicationMarkMask) |||
          ((verdict.policyTag <<< applicationMarkShift) &&& applicationMarkMask) })
    else (.ok, m)
  else if verdict.verdict ≠ verdictBlock then (.ok, m)
  else
    let m := (recordFlow ctx key skb.len 0 m).2
    (.shot, m.perform (.policyDrop ⟨verdict.policyIdentityHash, verdict.policyClientMac⟩ skb.len))

def evaluateFlowPolicy (skb : SkBuff) (key : FlowKey) (m : Machine) : Action × Machine :=
  match activeFlowVerdict ctx key m with
  | (some verdict, m) => enforce ctx skb key verdict m
  | (none, m) =>
    match activeEndpointBlock ctx (endpointBlockKey skb key) m with
    | (some verdict, m) => enforce ctx skb key verdict m
    | (none, m) => (.ok, m)

/-! ### Samples -/

def sampleMaxPayloadLength : ℕ := 4096
def sampleMaxPacketsPerDirection : ℕ := 32
def sampleMaxBytesPerFlow : ℕ := 65536

/-- The bytes of an address, first byte first. -/
def addressBytes (address : BitVec 128) : List (BitVec 8) :=
  (List.range 16).map fun i => address.extractLsb' (8 * (15 - i)) 8

/-- A port as a little-endian host reads it without conversion. -/
def rawPort (port : UInt16) : ℕ := 256 * (port.toNat % 256) + port.toNat / 256

/-- The loop over the address bytes; the ports decide between equal addresses. -/
def laterEndpoint (sourcePort destinationPort : UInt16) : List (BitVec 8) → List (BitVec 8) → Bool
  | a :: source, b :: destination =>
    if a < b then false
    else if b < a then true
    else laterEndpoint sourcePort destinationPort source destination
  | _, _ => rawPort destinationPort < rawPort sourcePort

/-- Whether the source is the later of the two endpoints. -/
def sampleDirection : Bool :=
  laterEndpoint key.sourcePort key.destinationPort (addressBytes key.sourceAddress)
    (addressBytes key.destinationAddress)

/-- The key under which the budget of a conversation is kept. -/
def canonicalKey : FlowKey :=
  let canonical := { key with ifindex := 0, direction := 0 }
  if sampleDirection key then canonical.reverse else canonical

/-- Keeps a length between 1 and `limit`, a power of two, in the range that verifiers can see. -/
def clampRange (limit length : ℕ) : ℕ := ((length - 1) &&& (limit - 1)) + 1

structure PacketStageContext where
  key : FlowKey
  (networkOffset originalLength : ℕ)
deriving DecidableEq

/-- The sample of a packet that its budget has admitted. -/
def submitSample (skb : SkBuff) (stage : PacketStageContext) (budget : SampleBudget)
    (length : ℕ) (m : Machine) : Machine :=
  let canonical := canonicalKey stage.key
  let dropped :=
    (m.perform (.sampleCount .drops 1)).perform (.sampleCount .droppedBytes length)
  if ¬ ctx.reserves .sample then dropped
  else
    let readLength := clampRange sampleMaxPayloadLength length
    if readLength = 0 ∨ sampleMaxPayloadLength < readLength then m
    else
      match skb.loadBytes stage.networkOffset readLength with
      | none => dropped
      | some payload =>
        let m :=
          if budget.sampled then m
          else (m.perform (.budgetSampled canonical)).perform (.sampleCount .sampledFlows 1)
        let m := (m.perform (.sampleCount .capturedBytes length)).perform
          (.sampleCount .submitted 1)
        let flowFirstSeenNs :=
          match m.maps.flowMap.lookup stage.key with
          | some value => value.firstSeenNs
          | none => budget.firstSeenNs
        m.submit (.sample ⟨stage.key, stage.originalLength, ctx.now, budget.firstSeenNs,
          flowFirstSeenNs, length, payload⟩)

/-- The charge of a packet to the budget of its conversation. -/
def chargeSample (skb : SkBuff) (stage : PacketStageContext) (budget : SampleBudget)
    (length : ℕ) (m : Machine) : Machine :=
  let canonical := canonicalKey stage.key
  let direction := sampleDirection stage.key
  let maxBytes := ctx.config.maxBytesPerFlow
  let maxPackets := ctx.config.maxPacketsPerDirection
  let m := m.perform (.budgetSeen canonical ctx.now)
  if maxPackets ≤ budget.packetsSeen direction ∨ maxBytes ≤ budget.bytesSeen then m
  else
    let m := m.perform (.budgetPacket canonical direction)
    let m := m.perform (.budgetBytes canonical length)
    let length := min length (maxBytes - budget.bytesSeen)
    if length = 0 ∨ sampleMaxPayloadLength < length then m
    else submitSample ctx skb stage budget (clampRange sampleMaxPayloadLength length) m

/-- The body of `maybe_capture_sample`, the same in both builds. -/
def captureSampleBody (skb : SkBuff) (stage : PacketStageContext) (m : Machine) : Machine :=
  let canonical := canonicalKey stage.key
  let maxBytes := ctx.config.maxBytesPerFlow
  let maxPackets := ctx.config.maxPacketsPerDirection
  let length := min (min stage.originalLength ctx.config.maxBytesPerPacket) sampleMaxPayloadLength
  if ¬ ctx.config.enabled ∨ maxBytes = 0 ∨ sampleMaxBytesPerFlow < maxBytes ∨ maxPackets = 0 ∨
      sampleMaxPacketsPerDirection < maxPackets ∨ length = 0 then m
  else
    match m.maps.sampleBudgets.lookup canonical with
    | some budget => chargeSample ctx skb stage budget length m
    | none =>
      -- the map does not evict: a budget is refused when it is full
      if ctx.config.maxBudgets ≤ m.maps.sampleBudgets.entries.length then
        (m.perform (.sampleCount .drops 1)).perform (.sampleCount .droppedBytes length)
      else
        chargeSample ctx skb stage ⟨ctx.now, ctx.now, 0, fun _ => 0, false⟩ length
          (m.perform (.budgetCreated canonical ctx.now))

/-- How a parser ends: with an action, or by a tail call into the sampling stage. -/
inductive Exit
  | ret (action : Action)
  | sample (stage : PacketStageContext)
deriving DecidableEq

def hookOf : Hook := if key.hook = Hook.egress.code then .egress else .ingress

variable (build : Build)

def maybeCaptureSample (ctx : Context) (skb : SkBuff) (stage : PacketStageContext)
    (m : Machine) : Exit × Machine :=
  match build with
  | .subprograms => (.ret .ok, captureSampleBody ctx skb stage m)
  | .tailCalls =>
    if ¬ ctx.config.enabled then (.ret .ok, m)
    else if ctx.tailCalls (.sample (hookOf stage.key)) then (.sample stage, m)
    else (.ret .ok, m)

/-! ### DNS, DHCP and discovery -/

def dnsPort : UInt16 := 53
def dnsMaxPayloadLength : ℕ := 512
def dhcpClientPort : UInt16 := 68
def dhcpServerPort : UInt16 := 67
def dhcpMaxPayloadLength : ℕ := 576
def mdnsPort : UInt16 := 5353
def ssdpPort : UInt16 := 1900
def dhcp6ClientPort : UInt16 := 546
def dhcp6ServerPort : UInt16 := 547
def httpPort : UInt16 := 80
def discoveryMaxPayloadLength : ℕ := 2048

def maybeCaptureDns (skb : SkBuff) (udp : ℕ) (clientAddress : BitVec 128)
    (ipVersion : UInt8) (m : Machine) : Machine :=
  let udpLength := (skb.be16 (udp + 4)).toNat
  let available := skb.dataEnd - (udp + udpHeader)
  let captureLength := min (udpLength - udpHeader) available
  if ¬ skb.Fits udp udpHeader ∨ skb.be16 udp ≠ dnsPort ∨ udpLength < udpHeader ∨
      captureLength = 0 then m
  else
    let truncated := available < udpLength - udpHeader ∨ dnsMaxPayloadLength < captureLength
    let readLength := clampRange dnsMaxPayloadLength (min captureLength dnsMaxPayloadLength)
    if ¬ ctx.reserves .dns then m.perform .dnsDrop
    else
      match skb.loadBytes (udp + udpHeader) readLength with
      | none => m.perform .dnsDrop
      | some payload =>
        m.submit (.dns ⟨ctx.now, skb.ifindex, skb.len, readLength, ipVersion, truncated,
          clientAddress, payload⟩)

/-- The bytes of a datagram's payload that are captured: those that the frame and the datagram have,
up to a limit. -/
def udpCaptureLength (udp limit : ℕ) : ℕ :=
  min (min (skb.len - (udp + udpHeader)) ((skb.be16 (udp + 4)).toNat - udpHeader)) limit

def maybeCaptureDhcp (skb : SkBuff) (udp : ℕ) (m : Machine) : Machine :=
  let source := skb.be16 udp
  let destination := skb.be16 (udp + 2)
  let captureLength := udpCaptureLength skb udp dhcpMaxPayloadLength
  if ¬ skb.Fits udp udpHeader ∨
      ¬ ((source = dhcpClientPort ∧ destination = dhcpServerPort) ∨
        (source = dhcpServerPort ∧ destination = dhcpClientPort)) ∨ captureLength = 0 then m
  else if ¬ ctx.reserves .dhcp then m
  else
    let readLength := clampRange 1024 captureLength
    if dhcpMaxPayloadLength < readLength then m
    else
      match skb.loadBytes (udp + udpHeader) readLength with
      | none => m
      | some payload => m.submit (.dhcp ⟨ctx.now, skb.ifindex, skb.len, captureLength, payload⟩)

/-- The common part of the two discovery captures. -/
def submitDiscovery (skb : SkBuff) (ports payloadOffset originalLength
    captureLength : ℕ) (sourceAddress : BitVec 128) (ipVersion : UInt8) (m : Machine) : Machine :=
  if ¬ ctx.reserves .discovery then m
  else
    let original := originalLength % 2 ^ 16
    let readLength := clampRange discoveryMaxPayloadLength captureLength
    match skb.loadBytes payloadOffset readLength with
    | none => m
    | some payload =>
      m.submit (.discovery ⟨ctx.now, skb.ifindex, skb.len, captureLength, original,
        captureLength < original, ipVersion, sourceAddress, skb.mac 6, skb.be16 ports,
        skb.be16 (ports + 2), payload⟩)

def maybeCaptureDiscovery (skb : SkBuff) (udp : ℕ) (sourceAddress : BitVec 128)
    (ipVersion : UInt8) (m : Machine) : Machine :=
  let source := skb.be16 udp
  let destination := skb.be16 (udp + 2)
  let captureLength := udpCaptureLength skb udp discoveryMaxPayloadLength
  if ¬ skb.Fits udp udpHeader ∨
      ¬ (source = mdnsPort ∨ destination = mdnsPort ∨ source = ssdpPort ∨ destination = ssdpPort ∨
        (source = dhcp6ClientPort ∧ destination = dhcp6ServerPort)) ∨ captureLength = 0 then m
  else
    submitDiscovery ctx skb udp (udp + udpHeader) ((skb.be16 (udp + 4)).toNat - udpHeader)
      captureLength sourceAddress ipVersion m

/-- The first four bytes of the HTTP methods. -/
def httpMethods : List (List UInt8) :=
  ["GET ", "POST", "HEAD", "PUT ", "PATC", "DELE", "OPTI", "CONN"].map fun method =>
    method.toList.map fun c => UInt8.ofNat c.toNat

/-- The first segment of a plaintext HTTP request. The offset of the data is read from the four high
bits of a byte, together with the two bits next to them. -/
def maybeCaptureHttpDiscovery (skb : SkBuff) (tcp : ℕ) (sourceAddress : BitVec 128)
    (ipVersion : UInt8) (m : Machine) : Machine :=
  let transportAvailable := skb.len - tcp
  let dataOffset := (skb.byte (tcp + 12)).toNat / 4
  let available := transportAvailable - dataOffset
  if ¬ skb.Fits tcp tcpHeaderPrefix ∨ skb.be16 (tcp + 2) ≠ httpPort ∨ dataOffset < tcpHeaderPrefix ∨
      available < 4 then m
  else
    match skb.loadBytes (tcp + dataOffset) 4 with
    | none => m
    | some method =>
      if method ∉ httpMethods then m
      else
        submitDiscovery ctx skb tcp (tcp + dataOffset) available
          (min available discoveryMaxPayloadLength) sourceAddress ipVersion m

/-! ### The parsers -/

def readTcpFlags (cursor : ℕ) : UInt8 :=
  if skb.Fits cursor tcpHeaderPrefix then skb.byte (cursor + 13) else 0

/-- The end of every path that counts a frame; `sample` is what of it may be sampled. -/
def account (ctx : Context) (skb : SkBuff) (key : FlowKey) (tcpFlags : UInt8)
    (sample : Option (ℕ × ℕ)) (m : Machine) : Exit × Machine :=
  match recordFlow ctx key skb.len tcpFlags m, sample with
  | (flowPackets, m), some (networkOffset, originalLength) =>
    if ctx.config.enabled ∧ flowPackets ≤ ctx.config.maxPacketsPerDirection then
      maybeCaptureSample build ctx skb ⟨key, networkOffset, originalLength⟩ m
    else (.ret .ok, m)
  | (_, m), none => (.ret .ok, m)

/-- The policy check of the parsers: a frame that is not accepted leaves the parser. -/
def checked (ctx : Context) (skb : SkBuff) (key : FlowKey) (mode : Mode)
    (m : Machine) (next : Machine → Exit × Machine) : Exit × Machine :=
  if checkPolicy m.maps build mode then
    match evaluateFlowPolicy ctx skb key m with
    | (.ok, m) => next m
    | (action, m) => (.ret action, m)
  else next m

/-- What is captured from a TCP segment or a datagram, apart from samples. -/
def captureTransport (skb : SkBuff) (key : FlowKey) (transport : ℕ) (m : Machine) : Machine :=
  if key.protocol = ipprotoTcp then
    if key.destinationPort = httpPort then
      maybeCaptureHttpDiscovery ctx skb transport key.sourceAddress key.ipVersion m
    else m
  else
    let m := maybeCaptureDns ctx skb transport key.destinationAddress key.ipVersion m
    let m := if key.ipVersion = 4 then maybeCaptureDhcp ctx skb transport m else m
    maybeCaptureDiscovery ctx skb transport key.sourceAddress key.ipVersion m

def parseIpv4 (ctx : Context) (skb : SkBuff) (cursor : ℕ) (hook : Hook)
    (mode : Mode) (m : Machine) : Exit × Machine :=
  if ¬ skb.Fits cursor ipv4Header then (.ret .ok, m)
  else if skb.byte cursor >>> 4 ≠ 4 then (.ret .ok, m)
  else
    let ihl := 4 * (skb.byte cursor &&& 0x0F).toNat
    if ihl < ipv4Header ∨ ¬ skb.Fits cursor ihl then (.ret .ok, m)
    else
      let protocol := skb.byte (cursor + 9)
      if protocol ≠ ipprotoTcp ∧ protocol ≠ ipprotoUdp ∧ protocol ≠ ipprotoEsp ∧
          protocol ≠ ipprotoGre then (.ret .ok, m)
      else
        let key : FlowKey :=
          ⟨4, protocol, 0, hook.code, skb.ifindex, skb.ipv4Address (cursor + 12),
            skb.ipv4Address (cursor + 16), 0, 0⟩
        let totalLength := (skb.be16 (cursor + 2)).toNat
        if skb.be16 (cursor + 6) &&& 0x1FFF = 0 then
          if protocol = ipprotoEsp ∨ protocol = ipprotoGre then
            if policyOnly build mode then (.ret .ok, m)
            else account build ctx skb key 0 (some (cursor, totalLength)) m
          else
            let ports := cursor + ihl
            if ¬ skb.Fits ports transportPorts then (.ret .ok, m)
            else
              let key :=
                { key with
                  sourcePort := skb.be16 ports, destinationPort := skb.be16 (ports + 2) }
              checked build ctx skb key mode m fun m =>
                if policyOnly build mode then (.ret .ok, m)
                else
                  let tcpFlags := if protocol = ipprotoTcp then readTcpFlags skb ports else 0
                  account build ctx skb key tcpFlags
                    (if ihl ≤ totalLength then some (cursor, totalLength) else none)
                    (captureTransport ctx skb key ports m)
        else if policyOnly build mode then (.ret .ok, m)
        else account build ctx skb key 0 none m

def parseIpv6 (ctx : Context) (skb : SkBuff) (cursor : ℕ) (hook : Hook)
    (mode : Mode) (m : Machine) : Exit × Machine :=
  if ¬ skb.Fits cursor ipv6Header then (.ret .ok, m)
  else if skb.byte cursor >>> 4 ≠ 6 then (.ret .ok, m)
  else
    let key (protocol : UInt8) : FlowKey :=
      ⟨6, protocol, 0, hook.code, skb.ifindex, skb.ipv6Address (cursor + 8),
        skb.ipv6Address (cursor + 24), 0, 0⟩
    let sample := some (cursor, ipv6Header + (skb.be16 (cursor + 4)).toNat)
    match walkExtensions skb ipv6MaxExtensionHeaders (skb.byte (cursor + 6))
        (cursor + ipv6Header) with
    | .transport protocol transport =>
      let observe (key : FlowKey) (m : Machine) :=
        let tcpFlags := if protocol = ipprotoTcp then readTcpFlags skb transport else 0
        account build ctx skb key tcpFlags sample (captureTransport ctx skb key transport m)
      if skb.Fits transport transportPorts then
        let key :=
          { key protocol with
            sourcePort := skb.be16 transport, destinationPort := skb.be16 (transport + 2) }
        checked build ctx skb key mode m fun m =>
          if policyOnly build mode then (.ret .ok, m) else observe key m
      else observe (key protocol) m
    | .left nextHeader transport canParseTransport =>
      if policyOnly build mode then (.ret .ok, m)
      else if canParseTransport ∧ IsTransport nextHeader then
        let key :=
          if skb.Fits transport transportPorts then
            { key nextHeader with
              sourcePort := skb.be16 transport, destinationPort := skb.be16 (transport + 2) }
          else key nextHeader
        let m :=
          if nextHeader = ipprotoUdp then
            maybeCaptureDns ctx skb transport key.destinationAddress 6 m
          else m
        let tcpFlags := if nextHeader = ipprotoTcp then readTcpFlags skb transport else 0
        account build ctx skb key tcpFlags none m
      else account build ctx skb (key nextHeader) 0 none m

/-- The type and the offset of what a frame carries behind its VLAN tags. -/
def networkLayer : Option (UInt16 × ℕ) :=
  if ¬ skb.Fits 0 ethernetHeader then none
  else skipVlans skb maxVlanHeaders (skb.be16 12) ethernetHeader

def parsePacket (ctx : Context) (skb : SkBuff) (hook : Hook) (mode : Mode)
    (m : Machine) : Exit × Machine :=
  match networkLayer skb with
  | none => (.ret .ok, m)
  | some (protocol, cursor) =>
    if protocol = ethPIp then parseIpv4 build ctx skb cursor hook mode m
    else if protocol = ethPIpv6 then parseIpv6 build ctx skb cursor hook mode m
    else (.ret .ok, m)

/-! ### The programs -/

/-- Without the shaping features the last stage accepts. A missing last stage drops the frame. -/
def tailFinish (action : Action) (hook : Hook) (m : Machine) : Action × Machine :=
  if action ≠ .ok then (action, m)
  else if ctx.tailCalls (.finish hook) then (.ok, m)
  else (.shot, m)

/-- `netqmon_sample_ingress` and `netqmon_sample_egress` -/
def netqmonSample (skb : SkBuff) (stage : PacketStageContext) (m : Machine) : Action × Machine :=
  let m := captureSampleBody ctx skb stage m
  match hookOf stage.key with
  | .ingress => tailFinish ctx .ok .ingress m
  | .egress => (.ok, m)

/-- `netqmon_observe_ingress` and `netqmon_observe_egress` -/
def netqmonObserve (skb : SkBuff) (hook : Hook) (m : Machine) : Action × Machine :=
  match parsePacket .tailCalls ctx skb hook .observe m with
  | (.sample stage, m) => netqmonSample ctx skb stage m
  | (.ret action, m) =>
    match hook with
    | .ingress => tailFinish ctx action .ingress m
    | .egress => (action, m)

def netqmonIngress (ctx : Context) (skb : SkBuff) (m : Machine) : Action × Machine :=
  match build with
  | .subprograms =>
    match parsePacket .subprograms ctx skb .ingress .whole m with
    | (.ret action, m) => (action, m)
    | (.sample stage, m) => netqmonSample ctx skb stage m
  | .tailCalls =>
    match parsePacket .tailCalls ctx skb .ingress .policy m with
    | (.sample stage, m) => netqmonSample ctx skb stage m
    | (.ret action, m) =>
      if action = .ok ∧ ctx.tailCalls (.observe .ingress) then netqmonObserve ctx skb .ingress m
      else tailFinish ctx action .ingress m

/-- The frame has already passed a hook that observes it. -/
def observedBefore (skb : SkBuff) : Prop :=
  skb.ingressIfindex ≠ 0 ∧ skb.ingressIfindex ∈ maps.observedIfindexes

instance (maps : Maps) (skb : SkBuff) : Decidable (observedBefore maps skb) :=
  inferInstanceAs (Decidable (_ ∧ _))

def netqmonEgress (ctx : Context) (skb : SkBuff) (m : Machine) : Action × Machine :=
  if observedBefore m.maps skb ∧ ¬ m.maps.flowPolicyState.enabled then (.ok, m)
  else
    let seen := observedBefore m.maps skb
    match build with
    | .subprograms =>
      match parsePacket .subprograms ctx skb .egress (if seen then .policy else .whole) m with
      | (.ret action, m) => (action, m)
      | (.sample stage, m) => netqmonSample ctx skb stage m
    | .tailCalls =>
      match parsePacket .tailCalls ctx skb .egress .policy m with
      | (.sample stage, m) => netqmonSample ctx skb stage m
      | (.ret action, m) =>
        if action = .ok ∧ ¬ seen ∧ ctx.tailCalls (.observe .egress) then
          netqmonObserve ctx skb .egress m
        else (action, m)

/-- The program attached at a hook. -/
def program (ctx : Context) (skb : SkBuff) (hook : Hook) (maps : Maps) : Action × Machine :=
  match hook with
  | .ingress => netqmonIngress build ctx skb (start maps skb)
  | .egress => netqmonEgress build ctx skb (start maps skb)

end Netqmon.Bpf.Program
