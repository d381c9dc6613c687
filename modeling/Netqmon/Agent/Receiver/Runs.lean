import Netqmon.Agent.Receiver.Effects

/-! # Runs of the agent, and where a flow's verdicts can be

`FlowEvent` is everything that changes the alias cache or the verdict maps: observations, commands,
snapshots that reset the maps, pruning and deletions by the kernel. `Footprint h id blocks` bounds
the verdicts of the flow `id`, whose hash is `h`, by the block commands it has received: away from
its aliases, and from the keys of those blocks, nothing carries `h`. Every event that does not drop
the flow's aliases keeps the bound (`footprint_step`, `footprint_run`). -/

namespace Netqmon.Agent.Receiver.Runs

open Agent.Flow FlowAlias FlowAlias.PolicyFlowAliasCache FlowVerdict.Model FlowVerdict.Operations
open FlowVerdict.Retirement Command Effects SavedState Lib.AssocWeight Lib.FaultMap Protocol.Policy

/-! ### Runs -/

inductive FlowEvent
  | observe (id : String) (key : FlowKey) (clientMac : Option String) (now : ℕ)
  | observeDirection (id : String) (key : FlowKey) (direction : Direction)
      (clientIp : Option IpAddr) (egressIfindexes : Option (UInt32 × UInt32))
      (tracked : Option ConntrackEntry)
  | command (ctx : CommandContext) (cmd : FlowCommand)
  | markEnded (id : String)
  | prune (now tcpIdle udpIdle : ℕ)
  | clear
  | refreshConntrack (conntrack : ConntrackContext)
  | reset (generation : ℕ) (enabled : Bool) (verdictFaults : List (Fault FlowKey))
      (endpointFaults : List (Fault EndpointKey)) (stateFaults : List (Fault Unit))
  /-- The kernel deletes entries of the maps. -/
  | evict (keys : List FlowKey) (endpoints : List EndpointKey)

def evictKeys (w : FlowVerdictWriter) (keys : List FlowKey) (endpoints : List EndpointKey) :
    FlowVerdictWriter :=
  { w with
    verdictMap := ⟨eraseAll w.verdictMap.entries keys, w.verdictMap.faults⟩
    endpointMap := ⟨eraseAll w.endpointMap.entries endpoints, w.endpointMap.faults⟩ }

variable (policyIdentityHash : String → BitVec 128)

def stepFlow (s : FlowState) : FlowEvent → FlowState
  | .observe id key clientMac now =>
    { s with cache := (s.cache.observeWithClient id key clientMac now).2 }
  | .observeDirection id key direction clientIp egressIfindexes tracked =>
    { s with cache := s.cache.observeDirection id key direction clientIp egressIfindexes tracked }
  | .command ctx cmd => (applyFlowCommand policyIdentityHash ctx s cmd).2
  | .markEnded id => { s with cache := s.cache.markEnded id }
  | .prune now tcpIdle udpIdle => { s with cache := s.cache.prune now tcpIdle udpIdle }
  | .clear => { s with cache := s.cache.clear }
  | .refreshConntrack conntrack => { s with conntrack := conntrack }
  | .reset generation enabled verdictFaults endpointFaults stateFaults =>
    { s with
      writer := (reset (FlowVerdictWriter.setFaults s.writer verdictFaults endpointFaults
        stateFaults) generation enabled).2 }
  | .evict keys endpoints => { s with writer := evictKeys s.writer keys endpoints }

def runFlow (s : FlowState) (events : List FlowEvent) : FlowState :=
  events.foldl (stepFlow policyIdentityHash) s

/-- What the checks of a command, and its decision, work with. -/
def commandFlow (ctx : CommandContext) (s : FlowState) (cmd : FlowCommand) : ResolvedFlow :=
  (resolveAliases ctx (s.withFaults ctx) cmd).1

/-! ### Conditions on runs -/

/-- Flow ids are the lower-case hexadecimal form of their hash, as the agent makes them. -/
def Canonical (id : String) : Prop := ∀ h, flowIdentityHash id = .ok h → id = flowIdOfHash h

def CanonicalCommand : FlowEvent → Prop
  | .command _ cmd => Canonical cmd.policyFlowId
  | _ => True

/-- The event does not drop the aliases of the flow. -/
def KeepsFlow (id : String) (s : FlowState) : FlowEvent → Prop
  | .prune now tcpIdle udpIdle =>
    ∀ entry, s.cache.entries.lookup id = some entry → active now tcpIdle udpIdle entry = true
  | .clear => s.cache.entries.lookup id = none
  | _ => True

def RunKeepsFlow (policyIdentityHash : String → BitVec 128) (id : String) :
    FlowState → List FlowEvent → Prop
  | _, [] => True
  | s, e :: events =>
    KeepsFlow id s e ∧ RunKeepsFlow policyIdentityHash id (stepFlow policyIdentityHash s e) events

/-- A block command that passed its checks: the aliases it blocks, and those it creates endpoint
blocks for. -/
structure BlockRecord where
  (aliases endpointAliases : List FlowKey)

def blockRecord (id : String) (s : FlowState) : FlowEvent → List BlockRecord
  | .command ctx cmd =>
    let flow := commandFlow ctx s cmd
    if cmd.policyFlowId = id ∧ cmd.operation = .upsert ∧ cmd.verdict = some .block
        ∧ refusal ctx cmd flow = none
    then [⟨flow.aliases, createdEndpoints ctx cmd flow⟩] else []
  | _ => []

/-- The block commands for the flow in a run. -/
def blocksOf (policyIdentityHash : String → BitVec 128) (id : String) :
    FlowState → List FlowEvent → List BlockRecord
  | _, [] => []
  | s, e :: events =>
    blockRecord id s e ++ blocksOf policyIdentityHash id (stepFlow policyIdentityHash s e) events

/-! ### The footprint -/

/-- `origin` is the writer the run started with. -/
structure Footprint (h : BitVec 128) (id : String) (origin : FlowVerdictWriter)
    (blocks : List BlockRecord) (s : FlowState) : Prop where
  grown : ∀ b ∈ blocks, b.aliases <+: s.cache.aliases id
  retired : ∀ k, k ∉ s.cache.aliases id → (∀ b ∈ blocks, k ∉ blockReverseAliases b.aliases) →
    Retired h k s.writer
  endpoints : NoEndpoint h origin → (∀ b ∈ blocks, b.endpointAliases = []) → NoEndpoint h s.writer

variable {h : BitVec 128}

variable {s : FlowState} {origin : FlowVerdictWriter} {blocks : List BlockRecord}

/-- An event that only evolves the cache, or only shrinks the maps. -/
theorem Footprint.mono {id : String} {s' : FlowState} (hf : Footprint h id origin blocks s)
    (hcache : s.cache.aliases id <+: s'.cache.aliases id)
    (hretired : ∀ k, Retired h k s.writer → Retired h k s'.writer)
    (hend : NoEndpoint h s.writer → NoEndpoint h s'.writer) : Footprint h id origin blocks s' where
  grown b hb := (hf.grown b hb).trans hcache
  retired k hk hblocks :=
    hretired k (hf.retired k (fun hmem => hk (hcache.subset hmem)) hblocks)
  endpoints horigin hblocks := hend (hf.endpoints horigin hblocks)

variable {e : FlowEvent}

theorem successor_step {id : String} (hkp : KeepsFlow id s e) :
    Successor (s.cache.entries.lookup id)
      ((stepFlow policyIdentityHash s e).cache.entries.lookup id) := by
  rcases e with ⟨id', key, mac, now⟩ | ⟨id', key, dir, ip, egress, tracked⟩ | ⟨ctx, cmd⟩ |
    id' | ⟨now, tcpIdle, udpIdle⟩ | _ | conntrack | ⟨gen, enabled, vf, ef, sf⟩ |
    ⟨keys, endpoints⟩
  · exact extends_observeWithClient s.cache id' key mac now id
  · exact extends_observeDirection s.cache id' key dir ip egress tracked id
  · exact ((extends_resolveAliases ctx (s.withFaults ctx) cmd).trans
      (extends_commandOutcome policyIdentityHash ctx _ cmd _)) id
  · exact extends_markEnded s.cache id' id
  · have hk : (s.cache.prune now tcpIdle udpIdle).entries.lookup id = s.cache.entries.lookup id :=
      Option.ext fun entry => by grind [PolicyFlowAliasCache.prune, lookup_keep, KeepsFlow]
    exact hk.symm ▸ .refl _
  · exact (show s.cache.entries.lookup id = none from hkp).symm ▸ .absent
  · exact .refl _
  · exact .refl _
  · exact .refl _

variable {w : FlowVerdictWriter}

theorem noEndpoint_reset (hw : NoEndpoint h w)
    (gen : ℕ) (enabled : Bool) : NoEndpoint h (reset w gen enabled).2 := by
  unfold reset
  split_ifs
  · exact hw
  · exact hw
  · exact holds_sweep _ _ hw

/-! ### Keeping the footprint -/

theorem retired_setFaults {k : FlowKey} (hw : Retired h k w) (verdictFaults : List (Fault FlowKey))
    (endpointFaults : List (Fault EndpointKey)) (stateFaults : List (Fault Unit)) :
    Retired h k (FlowVerdictWriter.setFaults w verdictFaults endpointFaults stateFaults) :=
  ⟨hw.value, hw.claims⟩

variable {cmd : FlowCommand}

theorem mem_blockRecord {id : String} {ctx : CommandContext} (he : cmd.policyFlowId = id)
    (hop : cmd.operation = .upsert) (hv : cmd.verdict = some .block)
    (hpass : refusal ctx cmd (commandFlow ctx s cmd) = none) :
    ⟨(commandFlow ctx s cmd).aliases, createdEndpoints ctx cmd (commandFlow ctx s cmd)⟩ ∈
      blockRecord id s (.command ctx cmd) := by
  simp only [blockRecord]
  rw [if_pos ⟨he, hop, hv, hpass⟩]
  exact List.mem_singleton.2 rfl

theorem footprint_command {id : String} (hid : flowIdentityHash id = .ok h) (hcn : Canonical id)
    (hf : Footprint h id origin blocks s) (ctx : CommandContext) (hcmd : Canonical cmd.policyFlowId)
    :
    Footprint h id origin (blocks ++ blockRecord id s (.command ctx cmd))
      (applyFlowCommand policyIdentityHash ctx s cmd).2 := by
  have hres := extends_resolveAliases ctx (s.withFaults ctx) cmd
  have houtcome := extends_commandOutcome policyIdentityHash ctx
    (resolveAliases ctx (s.withFaults ctx) cmd).2 cmd (commandFlow ctx s cmd)
  have hself : flowIdentityHash cmd.policyFlowId = .ok h → cmd.policyFlowId = id :=
    fun hsm => (hcmd h hsm).trans (hcn h hid).symm
  -- the aliases the command works with are among those the cache holds afterwards
  have hfl : cmd.policyFlowId = id → (commandFlow ctx s cmd).aliases <+:
      (applyFlowCommand policyIdentityHash ctx s cmd).2.cache.aliases id :=
    fun he => he ▸ houtcome.evolves cmd.policyFlowId
  refine ⟨fun b hb => ?_, fun k hk hblocks => ?_, fun horigin hblocks => ?_⟩
  · rcases List.mem_append.1 hb with hb | hb
    · exact (hf.grown b hb).trans ((hres.trans houtcome).evolves id)
    · grind [blockRecord]
  · have hold : Retired h k s.writer := by
      refine hf.retired k (fun hmem => hk (((hres.trans houtcome).evolves id).subset hmem)) ?_
      exact fun b hb => hblocks b (List.mem_append_left _ hb)
    have hst : Retired h k (resolveAliases ctx (s.withFaults ctx) cmd).2.writer :=
      retired_setFaults hold ctx.verdictFaults ctx.endpointFaults []
    refine retired_command policyIdentityHash hst ctx cmd (commandFlow ctx s cmd)
      fun hpass hnm => ?_
    have he := hself hnm.1
    rcases hnm.2 with hmem | ⟨hop, hv, hmem⟩
    · exact hk ((hfl he).subset hmem)
    · exact hblocks _ (List.mem_append_right _ (mem_blockRecord he hop hv hpass)) hmem
  · have hold : NoEndpoint h s.writer :=
      hf.endpoints horigin fun b hb => hblocks b (List.mem_append_left _ hb)
    refine noEndpoint_command policyIdentityHash (by exact hold) ctx cmd (commandFlow ctx s cmd)
      fun hid' hpass hop hv => ?_
    exact hblocks _ (List.mem_append_right _ (mem_blockRecord (hself hid') hop hv hpass))

theorem footprint_step {id : String} (hid : flowIdentityHash id = .ok h) (hcn : Canonical id)
    (hf : Footprint h id origin blocks s) (hkp : KeepsFlow id s e) (hcmd : CanonicalCommand e) :
    Footprint h id origin (blocks ++ blockRecord id s e) (stepFlow policyIdentityHash s e) := by
  have hal := aliases_of_successor (successor_step policyIdentityHash hkp)
  rcases e with ⟨id', key, mac, now⟩ | ⟨id', key, dir, ip, egress, tracked⟩ | ⟨ctx, cmd⟩ |
    id' | ⟨now, tcpIdle, udpIdle⟩ | _ | conntrack | ⟨gen, enabled, vf, ef, sf⟩ |
    ⟨keys, endpoints⟩
  case command => exact footprint_command policyIdentityHash hid hcn hf ctx hcmd
  all_goals
    show Footprint h id origin (blocks ++ []) _
    rw [List.append_nil]
  case reset =>
    exact hf.mono hal
      (fun k hk => retired_reset (retired_setFaults hk vf ef sf) enabled)
      fun hn => noEndpoint_reset (by exact hn) gen enabled
  case evict =>
    exact hf.mono hal (fun k hk => ⟨holds_eraseAll hk.value keys, hk.claims⟩)
      fun hn => holds_eraseAll hn endpoints
  all_goals exact hf.mono hal (fun _ hk => hk) fun hn => hn

theorem footprint_run (policyIdentityHash : String → BitVec 128) {id : String}
    (hid : flowIdentityHash id = .ok h) (hcn : Canonical id) :
    ∀ (es : List FlowEvent) {origin : FlowVerdictWriter} {blocks : List BlockRecord}
    {s : FlowState}, Footprint h id origin blocks s → RunKeepsFlow policyIdentityHash id s es →
      (∀ e ∈ es, CanonicalCommand e) →
      Footprint h id origin (blocks ++ blocksOf policyIdentityHash id s es)
        (runFlow policyIdentityHash s es)
  | [], _, blocks, s, hf, _, _ => by
    rw [blocksOf, List.append_nil]
    exact hf
  | e :: es, _, blocks, s, hf, hkp, hcmds => by
    have hstp := footprint_step policyIdentityHash hid hcn hf hkp.1
      (hcmds e List.mem_cons_self)
    have hr := footprint_run policyIdentityHash hid hcn es hstp hkp.2
      fun e' he' => hcmds e' (List.mem_cons_of_mem e he')
    rw [blocksOf, ← List.append_assoc]
    exact hr

/-- A run that starts with nothing of the flow in the maps. -/
theorem footprint_of_fresh (id : String) (hretired : ∀ k, Retired h k s.writer) :
    Footprint h id s.writer [] s where
  grown := by simp
  retired k _ _ := hretired k
  endpoints horigin _ := horigin

/-! ### A small setting for concrete runs

A gateway with one client, a policy that blocks an application and one that limits another, and a
queue on interface 3 with a class for the limit. -/

def sampleClient : String := "AA:BB:CC:DD:EE:FF"

def sampleEpoch : String := "00000000-0000-4000-8000-000000000001"

/-- The checksum of `sampleSnapshot`. -/
def sampleChecksum : String :=
  "sha256:6316e4080926776aba09fb305d4f366668ec898974c79237cbe34ae9f4e03504"

def sampleSpec (name application : String) (action : PolicyAction) : PolicySpecV1 :=
  { plainSpec with
    gatewayId := "gateway"
    name
    priority := 100
    selectors := ⟨[sampleClient], [application], [], 1⟩
    action }

def sampleSnapshot : PolicySnapshot :=
  { wireVersion := 1
    gatewayId := "gateway"
    controllerEpoch := sampleEpoch
    configRevision := 7
    bundleGeneration := 1
    generatedAtMs := 1000
    validUntilMs := 1000000
    checksum := sampleChecksum
    policies :=
      [⟨"policy-1", sampleSpec "block" "video" ⟨.block, none, none⟩⟩,
        ⟨"policy-2", sampleSpec "limit" "games" ⟨.limit, some 1000000, none⟩⟩]
    scheduleIntervals := [] }

def sampleClass : ApplicationClass :=
  { policyId := "policy-2"
    gatewayId := "gateway"
    mac := sampleMac
    direction := .download
    interface := "br-lan"
    ifindex := 3
    tag := 1
    classMinor := 2000
    parentClassMinor := 101
    rateBps := 1000000 }

/-- The class of the client, above that of its application. -/
def sampleParent : ClientClass :=
  { gatewayId := "gateway"
    mac := sampleMac
    direction := .download
    interface := "br-lan"
    ifindex := 3
    tag := 1
    classMinor := 101
    leafMinor := 1001
    rateBps := 10000000
    hasTotalBudget := false }

def sampleState : PolicyState :=
  { gatewayId := "gateway"
    controllerEpoch := sampleEpoch
    configRevision := 7
    bundleGeneration := 1
    checksum := sampleChecksum
    topologyFingerprint := ""
    snapshot := sampleSnapshot
    blockedClientsV4 := []
    blockedClientsV6 := []
    shapingState := some
      { schemaVersion := 1
        uploadInterface := none
        downloadInterface :=
          some ⟨false, "br-lan", 3, 10000000, "fq_codel", [sampleParent], [sampleClass]⟩
        sharedEgress := none }
    shapingMarks := [] }

/-- A context without a priority runtime, in which every map operation works. -/
def sampleContext (nowMs : ℕ) (endpointCacheEnabled : Bool) : CommandContext :=
  { gatewayId := "gateway"
    bootId := "boot"
    nowMs
    reportedAtMs := nowMs
    receivedNs := nowMs * 1000000
    writerNs := nowMs * 1000000
    shapeNs := nowMs * 1000000
    coverageNs := nowMs * 1000000
    emergencyDisabled := false
    endpointCacheEnabled
    flowCommandsEnabled := true
    flowBpfReady := true
    saved := some sampleState
    priorityRuntime := none
    refreshedConntrack := ⟨∅⟩
    sockets := ⟨∅⟩
    isLocal := fun _ => false
    ifNametoindex := fun _ => none
    hashOrder := ⟨id, fun l => List.Perm.refl l⟩
    verdictFaults := []
    endpointFaults := [] }

def sampleCommand (operation : FlowCommandOperation) (verdict : Option FlowVerdict)
    (policyIds : List String) (issuedAtMs : ℕ) : FlowCommand :=
  { wireVersion := 1
    gatewayId := "gateway"
    bootId := "boot"
    controllerEpoch := sampleEpoch
    configRevision := 7
    commandId := "command"
    policyFlowId := sampleFlowA
    operation
    verdict
    policyIds
    expiresAtMs := issuedAtMs + 60000
    issuedAtMs }

def sampleBlockCommand (issuedAtMs : ℕ) : FlowCommand :=
  sampleCommand .upsert (some .block) ["policy-1"] issuedAtMs

def sampleFlowState : FlowState :=
  ⟨PolicyFlowAliasCache.new defaultPolicyFlowCapacity, ⟨∅⟩, sampleWriter⟩

theorem sampleFlowA_hash :
    flowIdentityHash sampleFlowA = .ok 0x00112233445566778899aabbccddeeff := by rfl

theorem sampleFlowA_canonical : Canonical sampleFlowA := by
  intro h hh
  obtain rfl := Except.ok.inj (sampleFlowA_hash.symm.trans hh)
  decide

theorem sampleFlowState_fresh (k : FlowKey) : Retired h k sampleFlowState.writer :=
  ⟨fun _ _ hv => absurd hv (by simp [sampleFlowState, sampleWriter, FlowVerdictWriter.new,
    Table.get]), fun _ hc => absurd hc (by simp [sampleFlowState, sampleWriter,
      FlowVerdictWriter.new, BlockClaims.empty, BlockClaims.at])⟩

end Netqmon.Agent.Receiver.Runs
