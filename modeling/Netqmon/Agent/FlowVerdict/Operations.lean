import Netqmon.Agent.FlowVerdict.Model

/-! # The flow verdict writer: operations and runs

The public operations of the writer; each returns its result and the writer after it, and has the
monotonic clock reading of the call as an argument. `WriterStep` is one call together with everything
the kernel does to the maps while it runs. A run is a list of such steps. -/

namespace Netqmon.Agent.FlowVerdict.Operations

open Agent.Flow Lib.FaultMap Lib.AssocWeight Model

def abiMismatch : String := "BPF policy map ABI does not match the Agent"
def verdictMapUnavailable : String := "BPF verdict map is unavailable"
def endpointMapUnavailable : String := "BPF endpoint block map is unavailable"
def unsupportedAlias : String := "flow alias is not an exact supported on-wire key"

/-! ### Blocks -/

def supportedKey (key : FlowKey) : Bool :=
  (key.ipVersion == 4 || key.ipVersion == 6) && (key.protocol == 6 || key.protocol == 17)
    && (key.hook == 1 || key.hook == 2) && key.ifindex != 0

/-- Drop the aliases whose claims have all expired, when the table is nearly full and the last
sweep is a second old. -/
def sweepExpired (registry : BlockClaims) (wanted now : ℕ) : BlockClaims :=
  if registry.count + wanted > maxBlockClaims ∧ registry.nextExpiredSweepNs ≤ now then
    let aliases := keep (fun claims => claims.any fun c => now < c.expiresMonotonicNs)
      registry.aliases
    { aliases
      count := weight List.length aliases
      nextExpiredSweepNs := min (now + 1000000000) u64Max }
  else registry

/-- Some claim at the alias owns its map value. -/
def ownsValue (claims : List BlockClaim) (previous : Option VerdictValue) : Bool :=
  previous.any fun value => claims.any (blockClaimMatchesValue · value)

/-- The claims at an alias once `claim` has joined them. Claims that no longer own the map value,
have expired or belong to another decision are discarded, as is the flow's own earlier claim. -/
def mergeClaims (old : List BlockClaim) (previous : Option VerdictValue) (now : ℕ)
    (claim : BlockClaim) : List BlockClaim :=
  let known := if ownsValue old previous then old else []
  let live := known.filter fun c => now < c.expiresMonotonicNs
  let compatible :=
    if live.any fun c => c.generation != claim.generation
        || c.identity.policyHash != claim.identity.policyHash
        || c.identity.clientMac != claim.identity.clientMac
    then [] else live
  compatible.filter (fun c => c.identity.flowHash != claim.identity.flowHash) ++ [claim]

def blockDecision (observed : List FlowKey) (identity : VerdictIdentity)
    (generation expires now : ℕ) : Decision := fun key old previous =>
  let claims := mergeClaims old previous now
    ⟨identity, generation, expires, observed.any (sameObservedOrientation key)⟩
  if claims.length > maxBlockOwnersPerAlias then
    .error "block_owner_capacity_exceeded: too many owners for a flow alias"
  else .ok (claims, (selectBlockClaim claims previous).map (encodeBlockClaim · claims))

variable (w : FlowVerdictWriter)

def installOwnedBlock (aliases observed : List FlowKey)
    (identity : VerdictIdentity) (generation expires now : ℕ) :
    Except String ℕ × FlowVerdictWriter :=
  if !w.ready then (.error abiMismatch, w)
  else if aliases.isEmpty || 8 < aliases.length || aliases.any (fun key => !supportedKey key)
      || !decide aliases.Nodup then (.error unsupportedAlias, w)
  else if !w.available then (.error verdictMapUnavailable, w)
  else
    let registry := sweepExpired w.blockClaims aliases.length now
    match stage registry "read previous BPF flow verdict: "
        (blockDecision observed identity generation expires now) aliases registry.count
        w.verdictMap with
    | (.error error, map) => (.error error, { w with verdictMap := map, blockClaims := registry })
    | (.ok (staged, count), map) =>
      if count > maxBlockClaims then
        (.error "block_owner_capacity_exceeded: block ownership table is full",
          { w with verdictMap := map, blockClaims := registry })
      else
        match applyVerdictUpdates map (stagedUpdates staged) with
        | (.error error, map') =>
          (.error error, { w with verdictMap := map', blockClaims := registry })
        | (.ok _, map') =>
          (.ok aliases.length,
            { w with
              verdictMap := map'
              blockClaims :=
                { registry with
                  aliases := staged.foldl (fun acc s => acc.insert s.key s.claims) registry.aliases
                  count := count } })

variable (policyIdentityHash : String → BitVec 128)

/-- `policyIdentityHash` is the first sixteen bytes of the SHA-256 digest of a policy id. -/
def installBlock (w : FlowVerdictWriter) (aliases observed : List FlowKey)
    (policyFlowId policyId clientMac : String) (generation expires now : ℕ) :
    Except String ℕ × FlowVerdictWriter :=
  match flowIdentityHash policyFlowId, clientMacIdentity clientMac with
  | .error error, _ => (.error error, w)
  | .ok _, .error error => (.error error, w)
  | .ok flowHash, .ok mac =>
    installOwnedBlock w aliases observed ⟨flowHash, policyIdentityHash policyId, mac⟩ generation
      expires now

/-! ### Shapes -/

def uploadMajor : ℕ := 0x52
def downloadMajor : ℕ := 0x51
def applicationFirst : ℕ := 0x1000
def applicationLast : ℕ := 0x1fff
def maxApplicationTag : ℕ := 0x7f

variable (hook : UInt8)

def validApplicationClassid (classid : ℕ) : Bool :=
  let minor := classid % 65536
  if hook = 1 then
    classid / 65536 == uploadMajor && applicationFirst ≤ minor && minor ≤ applicationLast
  else if hook = 2 then
    classid / 65536 == downloadMajor && applicationFirst ≤ minor && minor ≤ applicationLast
  else false

def validShapeTag (tag : ℕ) : Bool :=
  validApplicationClassid hook tag
    || ((hook == 1 || hook == 2) && decide (1 ≤ tag) && decide (tag ≤ maxApplicationTag))

def overwriteError : OverwriteError → String
  | .read error => "read previous BPF flow verdict: " ++ error
  | .write error rollbackErrors =>
    "write BPF flow verdict: " ++ error ++
      (if rollbackErrors.isEmpty then "" else "; rollback failed: " ++ "; ".intercalate rollbackErrors)

variable (aliases : List (FlowKey × ℕ))

def installVerdict (identity : VerdictIdentity) (generation expires : ℕ) (verdict : Verdict) :
    Except String ℕ × FlowVerdictWriter :=
  if !w.ready then (.error abiMismatch, w)
  else if aliases.isEmpty || 8 < aliases.length then
    (.error "flow alias count is outside the supported range", w)
  else if aliases.any (fun a => !supportedKey a.1
      || (verdict == .shape && !validShapeTag a.1.hook a.2)) then (.error unsupportedAlias, w)
  else if !w.available then (.error verdictMapUnavailable, w)
  else
    match w.verdictMap.overwrite
        (aliases.map fun a => (a.1, ⟨expires, generation, identity, a.2, verdict⟩)) [] with
    | (.error error, map) => (.error (overwriteError error), { w with verdictMap := map })
    | (.ok count, map) => (.ok count, { w with verdictMap := map })

/-- Forget the claims at an alias. -/
def BlockClaims.remove (registry : BlockClaims) (key : FlowKey) : BlockClaims :=
  match registry.aliases.lookup key with
  | none => registry
  | some removed =>
    { registry with
      aliases := registry.aliases.erase key
      count := registry.count - removed.length }

def installShape (policyFlowId : String)
    (generation expires : ℕ) : Except String ℕ × FlowVerdictWriter :=
  if aliases.any (fun a => a.1.ifindex == 0 || !validShapeTag a.1.hook a.2) then
    (.error "application shape alias has no valid hook or class tag", w)
  else
    match flowIdentityHash policyFlowId with
    | .error error => (.error error, w)
    | .ok flowHash =>
      match installVerdict w aliases ⟨flowHash, 0, 0⟩ generation expires .shape with
      | (.error error, w') => (.error error, w')
      | (.ok count, w') =>
        (.ok count,
          { w' with
            blockClaims := aliases.foldl (fun acc a => BlockClaims.remove acc a.1) w'.blockClaims })

/-! ### Clearing -/

variable (expected : Option (BitVec 128))

/-- What clearing does at one alias. `expected = none` clears whatever is there. -/
def clearDecision (now : ℕ) (old : List BlockClaim)
    (previous : Option VerdictValue) : List BlockClaim × Option VerdictValue :=
  let previousWasKnown := ownsValue old previous
  let claims := (if previousWasKnown then old else []).filter fun c =>
    decide (now < c.expiresMonotonicNs) && expected.any (fun hash => c.identity.flowHash != hash)
  let previousIsTarget := previous.any fun value =>
    expected.all fun hash => value.identity.flowHash == hash
  let next :=
    if previousWasKnown then (selectBlockClaim claims previous).map (encodeBlockClaim · claims)
    else if previousIsTarget then none
    else previous
  (claims, next)

def clearing (now : ℕ) : Decision :=
  fun _ old previous => .ok (clearDecision expected now old previous)

def storeClaims (aliases : AList fun _ : FlowKey => List BlockClaim) (s : Staged) :
    AList fun _ : FlowKey => List BlockClaim :=
  if s.claims.isEmpty then aliases.erase s.key else aliases.insert s.key s.claims

def expectedHash : Option String → Except String (Option (BitVec 128))
  | none => .ok none
  | some id => (flowIdentityHash id).map some

def clearAliases (aliases : List FlowKey) (expectedFlowId : Option String)
    (now : ℕ) : Except String ℕ × FlowVerdictWriter :=
  if !w.ready then (.error abiMismatch, w)
  else if !w.available then (.error verdictMapUnavailable, w)
  else
    match expectedHash expectedFlowId with
    | .error error => (.error error, w)
    | .ok expected =>
      let registry := w.blockClaims
      match stage registry "look up BPF flow verdict: " (clearing expected now) aliases.eraseDups
          registry.count w.verdictMap with
      | (.error error, map) => (.error error, { w with verdictMap := map })
      | (.ok (staged, count), map) =>
        match applyVerdictUpdates map (stagedUpdates staged) with
        | (.error error, map') => (.error error, { w with verdictMap := map' })
        | (.ok _, map') =>
          (.ok (staged.countP fun s => s.previous.isSome && s.next.isNone),
            { w with
              verdictMap := map'
              blockClaims :=
                { registry with
                  aliases := staged.foldl storeClaims registry.aliases
                  count := count } })

/-! ### Endpoint blocks -/

def endpointBlockKey (key : FlowKey) (clientMac : BitVec 48) : EndpointKey :=
  { ipVersion := key.ipVersion
    protocol := key.protocol
    destinationPort := key.destinationPort
    sourceAddress := key.sourceAddress
    destinationAddress := key.destinationAddress
    clientMac }

def endpointOverwriteError : OverwriteError → String
  | .read error => "read BPF endpoint block: " ++ error
  | .write error rollbackErrors =>
    "write BPF endpoint block: " ++ error ++ "; rollback errors: " ++ debugStrings rollbackErrors

def rememberEndpointBlocks (w : FlowVerdictWriter)
    (aliases : List FlowKey) (policyFlowId policyId clientMac : String)
    (generation expires : ℕ) : Except String ℕ × FlowVerdictWriter :=
  if !w.ready then (.error abiMismatch, w)
  else if !w.available then (.error endpointMapUnavailable, w)
  else
    match clientMacIdentity clientMac, flowIdentityHash policyFlowId with
    | .error error, _ => (.error error, w)
    | .ok _, .error error => (.error error, w)
    | .ok mac, .ok flowHash =>
      let value : VerdictValue :=
        ⟨expires, generation, ⟨flowHash, policyIdentityHash policyId, mac⟩, 0, .block⟩
      match w.endpointMap.overwrite (aliases.map fun key => (endpointBlockKey key mac, value)) [] with
      | (.error error, map) => (.error (endpointOverwriteError error), { w with endpointMap := map })
      | (.ok count, map) => (.ok count, { w with endpointMap := map })

def forgetKeys : List EndpointKey → Table EndpointKey VerdictValue →
    Except String Unit × Table EndpointKey VerdictValue
  | [], map => (.ok (), map)
  | key :: rest, map =>
    match map.lookup key with
    | (.error error, map') => (.error ("read BPF endpoint block: " ++ error), map')
    | (.ok none, map') => forgetKeys rest map'
    | (.ok (some _), map') =>
      match map'.delete key with
      | (.error error, map'') => (.error ("delete BPF endpoint block: " ++ error), map'')
      | (.ok _, map'') => forgetKeys rest map''

def forgetEndpointBlocks (aliases : List FlowKey) (clientMac : String) :
    Except String Unit × FlowVerdictWriter :=
  if !w.available then (.error endpointMapUnavailable, w)
  else
    match clientMacIdentity clientMac with
    | .error error => (.error error, w)
    | .ok mac =>
      let result := forgetKeys (aliases.map fun key => endpointBlockKey key mac) w.endpointMap
      (result.1, { w with endpointMap := result.2 })

/-! ### Reset -/

def writePolicyState (map : Table Unit PolicyStateValue) (enabled : Bool) (generation : ℕ) :
    List String × Table Unit PolicyStateValue :=
  match map.update () ⟨enabled, generation⟩ with
  | (.ok _, map') => ([], map')
  | (.error error, map') => (["update BPF policy state: " ++ error], map')

def reset (generation : ℕ) (enabled : Bool) : Except String Unit × FlowVerdictWriter :=
  if !w.ready then (.error abiMismatch, w)
  else if !w.available then (.error verdictMapUnavailable, w)
  else
    let disabled := writePolicyState w.policyStateMap false generation
    let verdicts := w.verdictMap.sweep w.verdictMap.entries.keys
    let endpoints := w.endpointMap.sweep w.endpointMap.entries.keys
    let errors := disabled.1 ++ verdicts.1.map ("clear BPF flow verdict: " ++ ·)
      ++ endpoints.1.map ("clear BPF endpoint block: " ++ ·)
    let written := writePolicyState disabled.2 (enabled && errors.isEmpty) generation
    let allErrors := errors ++ written.1
    (if allErrors.isEmpty then .ok () else .error ("; ".intercalate allErrors),
      { w with
        verdictMap := verdicts.2
        endpointMap := endpoints.2
        policyStateMap := written.2
        blockClaims := BlockClaims.empty })

/-! ### Runs -/

inductive WriterCall
  | installBlock (aliases observed : List FlowKey) (policyFlowId policyId clientMac : String)
      (generation expires now : ℕ)
  | installShape (aliases : List (FlowKey × ℕ)) (policyFlowId : String) (generation expires : ℕ)
  | clearAliases (aliases : List FlowKey) (expectedFlowId : Option String) (now : ℕ)
  | reset (generation : ℕ) (enabled : Bool)
  /-- Nothing is called; the kernel deletes keys of the verdict map. -/
  | evict (keys : List FlowKey)

/-- A call, with what happens to the maps while it runs. -/
structure WriterStep where
  call : WriterCall
  verdictFaults : List (Fault FlowKey)
  endpointFaults : List (Fault EndpointKey)
  stateFaults : List (Fault Unit)

def FlowVerdictWriter.setFaults (verdictFaults : List (Fault FlowKey))
    (endpointFaults : List (Fault EndpointKey)) (stateFaults : List (Fault Unit)) :
    FlowVerdictWriter :=
  { w with
    verdictMap := ⟨w.verdictMap.entries, verdictFaults⟩
    endpointMap := ⟨w.endpointMap.entries, endpointFaults⟩
    policyStateMap := ⟨w.policyStateMap.entries, stateFaults⟩ }

def callWriter (w : FlowVerdictWriter) : WriterCall → Except String ℕ × FlowVerdictWriter
  | .installBlock aliases observed policyFlowId policyId clientMac generation expires now =>
    installBlock policyIdentityHash w aliases observed policyFlowId policyId clientMac generation
      expires now
  | .installShape aliases policyFlowId generation expires =>
    installShape w aliases policyFlowId generation expires
  | .clearAliases aliases expectedFlowId now => clearAliases w aliases expectedFlowId now
  | .reset generation enabled =>
    ((reset w generation enabled).1.map fun _ => 0, (reset w generation enabled).2)
  | .evict keys =>
    (.ok 0, { w with verdictMap := ⟨eraseAll w.verdictMap.entries keys, w.verdictMap.faults⟩ })

def stepWriter (w : FlowVerdictWriter) (s : WriterStep) : Except String ℕ × FlowVerdictWriter :=
  callWriter policyIdentityHash
    (FlowVerdictWriter.setFaults w s.verdictFaults s.endpointFaults s.stateFaults) s.call

def runWriter (w : FlowVerdictWriter) (steps : List WriterStep) : FlowVerdictWriter :=
  steps.foldl (fun acc s => (stepWriter policyIdentityHash acc s).2) w

/-! ### A small setting for concrete runs -/

/-- A TCP flow key on interface 3, told apart by its source port. -/
def sampleKey (sourcePort : UInt16) : FlowKey :=
  { ipVersion := 4
    protocol := 6
    direction := 0
    hook
    ifindex := 3
    sourceAddress := ipBytes (.v4 0xc0000201)
    destinationAddress := ipBytes (.v4 0xc6336401)
    sourcePort
    destinationPort := 443 }

/-- The digests of the two policy ids the concrete runs use. -/
def samplePolicyHash (policyId : String) : BitVec 128 :=
  if policyId = "policy-1" then 0xa9abbb22710fbf816a5a12587ad6a2bb
  else if policyId = "policy-2" then 0x67b93526b88d76abc7e2a025821c1a40
  else 0

def sampleFlowA : String := "00112233445566778899aabbccddeeff"
def sampleFlowB : String := "ffeeddccbbaa99887766554433221100"
def sampleMac : String := "aa:bb:cc:dd:ee:ff"

def sampleWriter : FlowVerdictWriter := FlowVerdictWriter.new true ⟨∅, []⟩ ⟨∅, []⟩ ⟨∅, []⟩

/-- A call during which the maps work. -/
def calmStep (call : WriterCall) : WriterStep := ⟨call, [], [], []⟩

/-- A block of the flow at `keys`, all observed, that lasts until `expires`. -/
def sampleBlock (keys : List FlowKey) (flowId policyId : String) (expires now : ℕ) : WriterStep :=
  calmStep (.installBlock keys keys flowId policyId sampleMac 7 expires now)

end Netqmon.Agent.FlowVerdict.Operations
