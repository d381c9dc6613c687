import Mathlib
import Netqmon.Agent.Flow
import Netqmon.Lib.AssocWeight
import Netqmon.Lib.CappedList
import Netqmon.Lib.RustStr

/-! # The policy flow alias cache

For every policy flow the cache remembers the exact keys under which its packets were seen or can
be proved to pass (`keys`, at most eight), together with what later commands need: the client, the
direction of each key and the keys that could not be verified. That a flow never has more than
eight keys, nor one twice, is a field of `AliasEntry`.

`Extends` is what every operation other than dropping an entry does: entries stay, their keys only grow
at the end, and the time of the last command is not set back. -/

namespace Netqmon.Agent.FlowAlias

open Agent.Flow Lib.AssocWeight Lib.CappedList Lib.RustStr

def defaultPolicyFlowCapacity : ℕ := 8192
def minPolicyFlowCapacity : ℕ := 1024
def maxPolicyFlowCapacity : ℕ := 16384
def maxAliasesPerFlow : ℕ := 8

/-! ### Tuples and connection tracking -/

structure FlowTuple where
  protocol : UInt8
  source : IpAddr
  sourcePort : UInt16
  destination : IpAddr
  destinationPort : UInt16
deriving DecidableEq

def reverseTuple (tuple : FlowTuple) : FlowTuple :=
  { protocol := tuple.protocol
    source := tuple.destination
    sourcePort := tuple.destinationPort
    destination := tuple.source
    destinationPort := tuple.sourcePort }

structure ConntrackEntry where
  (original reply : FlowTuple)
  (sourceNat destinationNat : Bool)
deriving DecidableEq

variable (key : FlowKey)

def keyTuple : Option FlowTuple :=
  key.addresses.map fun a => ⟨key.protocol, a.1, key.sourcePort, a.2, key.destinationPort⟩

structure ConntrackContext where
  observed : AList fun _ : FlowTuple => ConntrackEntry

def ConntrackContext.resolve (conntrack : ConntrackContext) (key : FlowKey) :
    Option ConntrackEntry :=
  (keyTuple key).bind conntrack.observed.lookup

/-- The accepted connections of local proxy listeners, by client address and port. -/
structure ProxySocketContext where
  byClient : AList fun _ : IpAddr × UInt16 => IpAddr × UInt16

def keyWithTuple (template : FlowKey) (hook : UInt8) (ifindex : UInt32) (tuple : FlowTuple) :
    FlowKey :=
  { template with
    hook
    ifindex
    sourceAddress := ipBytes tuple.source
    destinationAddress := ipBytes tuple.destination
    sourcePort := tuple.sourcePort
    destinationPort := tuple.destinationPort }

/-! ### Entries -/

/-- The direction of normalized traffic. -/
inductive Direction
  | upload
  | download
  | internal
  | unknown
deriving DecidableEq

/-- `unshaped` is an explicit observation, not a missing one. -/
inductive AliasDirection
  | upload
  | download
  | unshaped
deriving DecidableEq

inductive FlowAliasError
  | capacityFull
  | aliasLimitReached
  | flowEnded
deriving DecidableEq

/-- The aliases a shape was installed on, as evidence for the flow of the other direction. -/
structure ShapeEvidence where
  controllerEpoch : String
  revision : ℕ
  policyIds : List String
  aliases : List (FlowKey × ℕ)
  expiresMonotonicNs : ℕ
deriving DecidableEq

structure AliasEntry where
  keys : List FlowKey
  keysCapped : Capped maxAliasesPerFlow keys
  /-- Original packet observations, kept distinct from synthesized aliases. -/
  observed : List FlowKey
  directions : AList fun _ : FlowKey => AliasDirection
  /-- Aliases whose client-side tuple was verified. -/
  verified : List FlowKey
  /-- Aliases that were observed but could not be verified. -/
  unresolved : List FlowKey
  clientMac : Option String
  clientIp : Option IpAddr
  defaultClientIfindex : Option UInt32
  clientIdentityConflict : Bool
  lastSeen : ℕ
  (ended isPartial : Bool)
  lastCommandIssuedAtMs : Option ℤ
  shapeEvidence : Option ShapeEvidence

namespace AliasEntry

variable (entry : AliasEntry) (key : FlowKey)

def fresh (clientMac : Option String) (now : ℕ) : AliasEntry :=
  { keys := [key]
    keysCapped := ⟨List.nodup_singleton key, by simp [maxAliasesPerFlow]⟩
    observed := [key]
    directions := ∅
    verified := []
    unresolved := []
    clientMac
    clientIp := none
    defaultClientIfindex := none
    clientIdentityConflict := false
    lastSeen := now
    ended := false
    isPartial := false
    lastCommandIssuedAtMs := none
    shapeEvidence := none }

/-- Push a key; a full list stays as it is. -/
def pushKey : AliasEntry :=
  { entry with
    keys := push maxAliasesPerFlow entry.keys key
    keysCapped := entry.keysCapped.push key }

/-- The key is new and there is no place for it. -/
def full : Bool :=
  decide (key ∉ entry.keys) && decide (maxAliasesPerFlow ≤ entry.keys.length)

variable (direction : AliasDirection)

def verify : AliasEntry :=
  { entry with
    verified := entry.verified.insert key
    directions := entry.directions.insert key direction }

def settle : AliasEntry :=
  { entry with unresolved := entry.unresolved.filter (· ≠ key) }

def insertAlias : AliasEntry :=
  if entry.full key then { entry with isPartial := true }
  else ((entry.pushKey key).settle key).verify key direction

def recordUnresolved : AliasEntry :=
  if key ∈ entry.verified ∨ key ∈ entry.unresolved then entry
  else if maxAliasesPerFlow ≤ entry.unresolved.length then { entry with isPartial := true }
  else { entry with unresolved := entry.unresolved ++ [key] }

/-- A client that contradicts the known one makes the flow partial and its client unknown. -/
def noteClient : Option String → AliasEntry
  | none => entry
  | some mac =>
    if entry.clientIdentityConflict then entry
    else
      match entry.clientMac with
      | none => { entry with clientMac := some mac }
      | some current =>
        if current ≠ mac then
          { entry with clientMac := none, clientIdentityConflict := true, isPartial := true }
        else entry

/-- Tuple as seen on the client-facing interface for a classified direction. -/
def clientSideTuple (tracked : ConntrackEntry) : AliasDirection → FlowTuple
  | .upload => tracked.original
  | _ => if tracked.destinationNat then tracked.reply else reverseTuple tracked.original

/-- Verify a direct observation, without address translation, against the client address. -/
def directClientTuple (clientIp : Option IpAddr) : Option FlowTuple :=
  clientIp.bind fun ip =>
    let clientSide := match direction with
      | .upload => key.sourceAddress == ipBytes ip
      | .download => key.destinationAddress == ipBytes ip
      | .unshaped => false
    if clientSide then keyTuple key else none

/-- The hook of the client's interface that a direction passes. -/
def clientHook : AliasDirection → UInt8
  | .upload => 1
  | _ => 2

def opposite : AliasDirection → AliasDirection
  | .upload => .download
  | .download => .upload
  | .unshaped => .unshaped

/-- Add the client-side alias of `tuple` and the alias of the opposite direction, or record that the
latter is not known. -/
def insertClientAliases
    (clientIfindex : UInt32) (tuple : FlowTuple) (tracked : Option ConntrackEntry) : AliasEntry :=
  let entry := entry.insertAlias (keyWithTuple key (clientHook direction) clientIfindex tuple)
    direction
  let back := opposite direction
  match tracked with
  | some tracked =>
    entry.insertAlias (keyWithTuple key (clientHook back) clientIfindex (clientSideTuple tracked back))
      back
  | none =>
    entry.recordUnresolved { key.reverse with hook := clientHook back, ifindex := clientIfindex }

/-- Record the direction of a known key, and the aliases it proves: a key on the client's hook
proves itself, connection tracking proves both directions, and without it an untranslated key that
carries the client's address proves its own. -/
def observeShaped (clientIp : Option IpAddr) (egressIfindexes : Option (UInt32 × UInt32))
    (tracked : Option ConntrackEntry) : AliasEntry :=
  let entry := { entry with
    directions := entry.directions.insert key direction
    clientIp := clientIp.or entry.clientIp }.settle key
  match egressIfindexes with
  | none => entry
  | some (_, clientIfindex) =>
    let entry := { entry with defaultClientIfindex := some clientIfindex }
    let clientTuple :=
      if key.hook = clientHook direction ∧ key.ifindex = clientIfindex then keyTuple key
      else
        match tracked with
        | some tracked => some (clientSideTuple tracked direction)
        | none => directClientTuple key direction clientIp
    match clientTuple with
    | none => entry.recordUnresolved key
    | some tuple => entry.insertClientAliases key direction clientIfindex tuple tracked

end AliasEntry

structure PolicyFlowAliasCache where
  entries : AList fun _ : String => AliasEntry
  capacity : ℕ

namespace PolicyFlowAliasCache

def new (capacity : ℕ) : PolicyFlowAliasCache :=
  ⟨∅, max minPolicyFlowCapacity (min capacity maxPolicyFlowCapacity)⟩

variable (cache : PolicyFlowAliasCache) (id : String)

def set (entry : AliasEntry) : PolicyFlowAliasCache :=
  { cache with entries := cache.entries.insert id entry }

/-- Change the entry of a flow, if there is one. -/
def modify (f : AliasEntry → AliasEntry) : PolicyFlowAliasCache :=
  match cache.entries.lookup id with
  | none => cache
  | some entry => cache.set id (f entry)

/-! ### Queries -/

def aliases : List FlowKey :=
  ((cache.entries.lookup id).map (·.keys)).getD []

def observedAliases : List FlowKey :=
  ((cache.entries.lookup id).map (·.observed)).getD []

def clientMac : Option String :=
  (cache.entries.lookup id).bind (·.clientMac)

def isEnded : Bool :=
  (cache.entries.lookup id).any (·.ended)

def isPartial : Bool :=
  (cache.entries.lookup id).any (·.isPartial)

def shapeDirection (key : FlowKey) : Option AliasDirection :=
  (cache.entries.lookup id).bind fun entry => entry.directions.lookup key

def unresolvedAliases : Option (List FlowKey) :=
  (cache.entries.lookup id).map (·.unresolved)

def hasUnverifiedAliases : Bool :=
  (cache.entries.lookup id).any fun entry => !entry.unresolved.isEmpty

/-- The original client-ingress keys of the flow. -/
def endpointBlockAliases : List FlowKey :=
  match cache.entries.lookup id with
  | none => []
  | some entry =>
    if entry.clientIdentityConflict || entry.clientMac.isNone then []
    else entry.keys.filter fun key =>
      key.hook == 1 && some key.ifindex == entry.defaultClientIfindex && decide (key ∈ entry.verified)
        && entry.directions.lookup key == some .upload
        && key.addresses.map Prod.fst == entry.clientIp

def commandIsStale (issuedAtMs : ℤ) : Bool :=
  match cache.entries.lookup id with
  | none => true
  | some entry => entry.lastCommandIssuedAtMs.any fun last => issuedAtMs < last

def dedupSorted (ids : List String) : List String :=
  (ids.insertionSort (· ≤ ·)).eraseDups

def peerShapeCovers (peer : String) (key : FlowKey)
    (installedTag : ℕ) (clientMac controllerEpoch : String) (revision : ℕ)
    (policyIds : List String) (nowMonotonicNs : ℕ) : Bool :=
  id != peer &&
    match cache.entries.lookup peer with
    | none => false
    | some entry =>
      match entry.shapeEvidence with
      | none => false
      | some evidence =>
        !entry.ended && !entry.clientIdentityConflict
          && entry.clientMac.any (eqIgnoreAsciiCase · clientMac)
          && evidence.revision == revision && evidence.controllerEpoch == controllerEpoch
          && evidence.policyIds == dedupSorted policyIds
          && decide (nowMonotonicNs < evidence.expiresMonotonicNs)
          && evidence.aliases.reverse.lookup key == some installedTag
          && decide (key ∈ entry.verified)

/-! ### Observations -/

def observeWithClient (key : FlowKey)
    (clientMac : Option String) (now : ℕ) : Except FlowAliasError ℕ × PolicyFlowAliasCache :=
  match cache.entries.lookup id with
  | some entry =>
    if entry.ended then (.error .flowEnded, cache)
    else
      let entry := { entry with lastSeen := now }.noteClient (clientMac.map toAsciiLowercase)
      if entry.full key then (.error .aliasLimitReached, cache.set id { entry with isPartial := true })
      else
        let entry := { entry with observed := entry.observed.insert key }.pushKey key
        (.ok entry.keys.length, cache.set id entry)
  | none =>
    if cache.capacity ≤ cache.entries.keys.length then (.error .capacityFull, cache)
    else (.ok 1, cache.set id (AliasEntry.fresh key (clientMac.map toAsciiLowercase) now))

def observeDirection (key : FlowKey)
    (direction : Direction) (clientIp : Option IpAddr) (egressIfindexes : Option (UInt32 × UInt32))
    (tracked : Option ConntrackEntry) : PolicyFlowAliasCache :=
  cache.modify id fun entry =>
    if key ∉ entry.keys then entry
    else
      match direction with
      | .upload => entry.observeShaped key .upload clientIp egressIfindexes tracked
      | .download => entry.observeShaped key .download clientIp egressIfindexes tracked
      | .internal | .unknown => { entry with directions := entry.directions.insert key .unshaped }

/-- The shapeable directions of a flow's keys, in the order the hash table yields them. -/
structure HashOrder where
  order : List (FlowKey × AliasDirection) → List (FlowKey × AliasDirection)
  perm : ∀ l, (order l).Perm l

def shapedDirection : AliasDirection → Option Direction
  | .upload => some .upload
  | .download => some .download
  | .unshaped => none

def reconcileForCommand (hashOrder : HashOrder) (cache : PolicyFlowAliasCache) (id : String)
    (clientIfindex : Option UInt32) (conntrack : ConntrackContext) : PolicyFlowAliasCache :=
  match cache.entries.lookup id with
  | none => cache
  | some entry =>
    match (if entry.ended then none else clientIfindex.or entry.defaultClientIfindex) with
    | none => cache
    | some ifindex =>
      let hasClientSide := fun hook : UInt8 =>
        entry.keys.any fun key => key.hook == hook && key.ifindex == ifindex
      let observations :=
        (hashOrder.order (entry.directions.entries.map fun e => (e.1, e.2))).filterMap fun d =>
          (shapedDirection d.2).map fun direction => (d.1, direction)
      if (entry.unresolved.isEmpty && hasClientSide 1 && hasClientSide 2) || observations.isEmpty
      then cache
      else
        observations.foldl
          (fun acc o => acc.observeDirection id o.1 o.2 entry.clientIp (some (ifindex, ifindex))
            (conntrack.resolve o.1))
          (cache.set id { entry with unresolved := [] })

/-- Keep a proxy-return alias, so that later commands clear the same key. -/
def insertProxyReturn (key : FlowKey) : Except FlowAliasError Unit × PolicyFlowAliasCache :=
  match cache.entries.lookup id with
  | none => (.error .flowEnded, cache)
  | some entry =>
    if entry.ended then (.error .flowEnded, cache)
    else if key ∈ entry.keys then (.ok (), cache.set id (entry.verify key .download))
    else if maxAliasesPerFlow ≤ entry.keys.length then
      (.error .aliasLimitReached, cache.set id { entry with isPartial := true })
    else (.ok (), cache.set id (((entry.pushKey key).settle key).verify key .download))

def rememberShape (controllerEpoch : String) (revision : ℕ)
    (policyIds : List String) (tags : List (FlowKey × ℕ)) (expiresMonotonicNs : ℕ) :
    PolicyFlowAliasCache :=
  cache.modify id fun entry =>
    { entry with
      shapeEvidence :=
        some ⟨controllerEpoch, revision, dedupSorted policyIds, tags, expiresMonotonicNs⟩ }

def recordCommand (issuedAtMs : ℤ) : PolicyFlowAliasCache :=
  cache.modify id fun entry =>
    if entry.lastCommandIssuedAtMs.any fun last => issuedAtMs < last then entry
    else { entry with lastCommandIssuedAtMs := some issuedAtMs }

def markEnded : PolicyFlowAliasCache :=
  cache.modify id fun entry => { entry with ended := true }

/-! ### Dropping entries -/

def clear : PolicyFlowAliasCache := { cache with entries := ∅ }

/-- The entry has been idle for less than its timeout. -/
def active (now tcpIdle udpIdle : ℕ) (entry : AliasEntry) : Bool :=
  decide (now - entry.lastSeen < if entry.keys.all (·.protocol == 17) then udpIdle else tcpIdle)

def prune (cache : PolicyFlowAliasCache) (now tcpIdle udpIdle : ℕ) : PolicyFlowAliasCache :=
  { cache with entries := keep (active now tcpIdle udpIdle) cache.entries }

end PolicyFlowAliasCache

/-! ### Proxy returns -/

structure ProxyReturnResolution where
  aliases : List FlowKey
  /-- A redirect was found and requires a proxy-return alias. -/
  expected : Bool
  /-- A redirect was found, but its delivery tuple could not be derived. -/
  unresolved : Bool
deriving DecidableEq

namespace ProxyReturnResolution

def empty : ProxyReturnResolution := ⟨[], false, false⟩

/-- One redirect: the reply `tuple` is delivered on the egress hook of the client's interface, which
is the interface of some egress alias or else that of the alias itself. -/
def deliver (resolution : ProxyReturnResolution) (aliases : List FlowKey) (key : FlowKey)
    (tuple : FlowTuple) : ProxyReturnResolution :=
  let clientIfindex := ((aliases.find? (·.hook == 2)).map (·.ifindex)).getD 0
  let ifindex := if clientIfindex ≠ 0 then clientIfindex else key.ifindex
  if ifindex = 0 then { resolution with expected := true, unresolved := true }
  else
    let proxy := keyWithTuple key 2 ifindex tuple
    { resolution with
      expected := true
      aliases := if proxy ∈ resolution.aliases then resolution.aliases
        else resolution.aliases ++ [proxy] }

end ProxyReturnResolution

/-- The connection is a TCP redirect of the alias to a local proxy. -/
def isProxyRedirect (isLocal : IpAddr → Bool) (tuple : FlowTuple) (entry : ConntrackEntry) : Bool :=
  (entry.original == tuple || reverseTuple entry.original == tuple)
    && entry.original.protocol == 6 && entry.reply.protocol == 6 && entry.destinationNat
    && entry.reply.destination == entry.original.source
    && entry.reply.destinationPort == entry.original.sourcePort
    && isLocal entry.reply.source && !isLocal entry.original.source
    && !isLocal entry.original.destination

def proxyReturnAliases (aliases : List FlowKey) (conntrack : ConntrackContext)
    (isLocal : IpAddr → Bool) : ProxyReturnResolution :=
  aliases.foldl (fun resolution key =>
    match keyTuple key, conntrack.resolve key with
    | some tuple, some entry =>
      if isProxyRedirect isLocal tuple entry then resolution.deliver aliases key entry.reply
      else resolution
    | _, _ => resolution) ProxyReturnResolution.empty

def isUnspecified : IpAddr → Bool
  | .v4 octets => octets == 0
  | .v6 octets => octets == 0

/-- The proxy socket that accepted the client's connection. -/
def proxySocket (sockets : ProxySocketContext) (isLocal : IpAddr → Bool) (clientIp : IpAddr)
    (clientPort : UInt16) (otherIp : IpAddr) : Option (IpAddr × UInt16) :=
  if isLocal clientIp || isUnspecified otherIp then none
  else (sockets.byClient.lookup (clientIp, clientPort)).filter fun proxy =>
    isLocal proxy.1 && proxy.1 != clientIp

def proxySocketReturnAliases (aliases : List FlowKey) (sockets : ProxySocketContext)
    (isLocal : IpAddr → Bool) : ProxyReturnResolution :=
  aliases.foldl (fun resolution key =>
    match key.addresses with
    | none => resolution
    | some (source, destination) =>
      [(source, key.sourcePort, destination), (destination, key.destinationPort, source)].foldl
        (fun resolution side =>
          match proxySocket sockets isLocal side.1 side.2.1 side.2.2 with
          | none => resolution
          | some proxy =>
            resolution.deliver aliases key ⟨key.protocol, proxy.1, proxy.2, side.1, side.2.1⟩)
        resolution) ProxyReturnResolution.empty

/-! ### Growth -/

namespace AliasEntry

section

variable {R : AliasEntry → AliasEntry → Prop} {entry : AliasEntry} {key : FlowKey}
  {direction : AliasDirection} (htrans : ∀ {a b c}, R a b → R b c → R a c)
  (hinsert : ∀ entry key direction, R entry (entry.insertAlias key direction))
  (hrecord : ∀ entry key, R entry (entry.recordUnresolved key))
include htrans hinsert hrecord

/-- A relation between an entry and its later states that inserting aliases keeps. -/
theorem insertClientAliases_rel (clientIfindex : UInt32) (tuple : FlowTuple)
    (tracked : Option ConntrackEntry) :
    R entry (entry.insertClientAliases key direction clientIfindex tuple tracked) := by
  refine htrans (hinsert entry (keyWithTuple key (clientHook direction) clientIfindex tuple)
    direction) ?_
  cases tracked with
  | none => exact hrecord _ _
  | some tracked => exact hinsert _ _ _

theorem observeShaped_rel (hsn : ∀ ip ifindex, R entry { entry with
      directions := entry.directions.insert key direction
      unresolved := entry.unresolved.filter (· ≠ key)
      clientIp := ip
      defaultClientIfindex := ifindex }) (clientIp : Option IpAddr)
    (egressIfindexes : Option (UInt32 × UInt32)) (tracked : Option ConntrackEntry) :
    R entry (entry.observeShaped key direction clientIp egressIfindexes tracked) := by
  unfold observeShaped settle
  rcases egressIfindexes with _ | ⟨_, clientIfindex⟩
  · exact hsn _ _
  · refine htrans (hsn (clientIp.or entry.clientIp) (some clientIfindex)) ?_
    dsimp only
    split
    · exact hrecord _ _
    · exact insertClientAliases_rel (R := R) htrans hinsert hrecord _ _ _

end

/-- The keys grow at the end, and the mark of the last command is not set back. -/
structure Grows (entry later : AliasEntry) : Prop where
  keys : entry.keys <+: later.keys
  mark : ∀ last ∈ entry.lastCommandIssuedAtMs, ∃ last' ∈ later.lastCommandIssuedAtMs, last ≤ last'

theorem Grows.trans {a b c : AliasEntry} (hab : Grows a b) (hbc : Grows b c) : Grows a c := by
  refine ⟨hab.keys.trans hbc.keys, fun last hla => ?_⟩
  obtain ⟨last', hlast', hle⟩ := hab.mark last hla
  obtain ⟨last'', hlast'', hle'⟩ := hbc.mark last' hlast'
  exact ⟨last'', hlast'', hle.trans hle'⟩

variable {entry later : AliasEntry}

theorem grows_of_mark (hks : entry.keys <+: later.keys)
    (hmark : later.lastCommandIssuedAtMs = entry.lastCommandIssuedAtMs) : Grows entry later :=
  ⟨hks, fun last hla => ⟨last, hmark ▸ hla, le_rfl⟩⟩

theorem grows_of_keys (hks : later.keys = entry.keys)
    (hmark : later.lastCommandIssuedAtMs = entry.lastCommandIssuedAtMs) : Grows entry later :=
  grows_of_mark (hks ▸ List.prefix_refl _) hmark

theorem grows_insertAlias (entry : AliasEntry) (key : FlowKey) (direction : AliasDirection) :
    Grows entry (entry.insertAlias key direction) := by
  unfold insertAlias
  split_ifs
  · exact grows_of_keys rfl rfl
  · exact grows_of_mark (prefix_push maxAliasesPerFlow entry.keys key) rfl

theorem grows_recordUnresolved (entry : AliasEntry) (key : FlowKey) :
    Grows entry (entry.recordUnresolved key) := by
  unfold recordUnresolved
  split_ifs <;> exact grows_of_keys rfl rfl

theorem grows_noteClient (clientMac : Option String) :
    Grows entry (entry.noteClient clientMac) := by
  unfold noteClient
  repeat' split
  all_goals exact grows_of_keys rfl rfl

end AliasEntry

open AliasEntry

/-- What becomes of a flow that is not dropped. -/
inductive Successor : Option AliasEntry → Option AliasEntry → Prop
  | absent : Successor none none
  | created {entry : AliasEntry} (h : entry.keys ≠ []) : Successor none (some entry)
  | grown {entry later : AliasEntry} (h : Grows entry later) : Successor (some entry) (some later)

theorem Successor.refl : ∀ found : Option AliasEntry, Successor found found
  | none => .absent
  | some _ => .grown (grows_of_keys rfl rfl)

theorem Successor.trans {a b c : Option AliasEntry} (hab : Successor a b) (hbc : Successor b c) :
    Successor a c := by
  cases hab with
  | absent => exact hbc
  | created h =>
    cases hbc with
    | grown hgr => exact .created fun hnil => h (List.prefix_nil.1 (hnil ▸ hgr.keys))
  | grown h =>
    cases hbc with
    | grown hgr => exact .grown (h.trans hgr)

namespace PolicyFlowAliasCache

variable (cache : PolicyFlowAliasCache) (id : String)

theorem aliases_capped : Capped maxAliasesPerFlow (cache.aliases id) := by
  unfold aliases
  rcases cache.entries.lookup id with _ | entry
  · exact ⟨List.nodup_nil, Nat.zero_le _⟩
  · exact entry.keysCapped

variable (cache' : PolicyFlowAliasCache)

/-- No flow is dropped. -/
def Extends : Prop :=
  ∀ id, Successor (cache.entries.lookup id) (cache'.entries.lookup id)

/-- The keys of every flow only grow, at the end. -/
def Evolves : Prop :=
  ∀ id, cache.aliases id <+: cache'.aliases id

theorem Extends.refl : Extends cache cache :=
  fun _ => .refl _

theorem Extends.trans {a b c : PolicyFlowAliasCache} (hab : Extends a b) (hbc : Extends b c) :
    Extends a c :=
  fun id => (hab id).trans (hbc id)

variable {cache id} {cache' : PolicyFlowAliasCache} {entry : AliasEntry}

theorem aliases_of_successor (h : Successor (cache.entries.lookup id) (cache'.entries.lookup id)) :
    cache.aliases id <+: cache'.aliases id := by
  unfold aliases
  generalize cache.entries.lookup id = found at h ⊢
  generalize cache'.entries.lookup id = found' at h ⊢
  cases h with
  | absent => exact List.prefix_refl _
  | created => exact List.nil_prefix
  | grown h => exact h.keys

theorem Extends.evolves (h : Extends cache cache') : Evolves cache cache' :=
  fun id => aliases_of_successor (h id)

theorem extends_set (h : Successor (cache.entries.lookup id) (some entry)) :
    Extends cache (cache.set id entry) := by
  intro id'
  unfold set
  by_cases hid : id' = id
  · subst hid
    rw [AList.lookup_insert]
    exact h
  · rw [AList.lookup_insert_ne hid]
    exact .refl _

theorem extends_grows {later : AliasEntry} (he : cache.entries.lookup id = some entry)
    (h : Grows entry later) : Extends cache (cache.set id later) :=
  extends_set (he ▸ .grown h)

variable (cache id)

theorem extends_modify {f : AliasEntry → AliasEntry} (hf : ∀ entry, Grows entry (f entry)) :
    Extends cache (cache.modify id f) := by
  unfold modify
  split
  · exact .refl cache
  · next entry h => exact extends_grows h (hf entry)

variable (key : FlowKey) (direction : Direction)

theorem extends_observeWithClient (clientMac : Option String) (now : ℕ) :
    Extends cache (cache.observeWithClient id key clientMac now).2 := by
  unfold observeWithClient
  split
  · next entry h =>
    have hnoted : Grows entry ({ entry with lastSeen := now }.noteClient
        (clientMac.map toAsciiLowercase)) :=
      (grows_of_keys rfl rfl : Grows entry { entry with lastSeen := now }).trans
        (grows_noteClient _)
    dsimp only
    split_ifs
    · exact .refl cache
    · exact extends_grows h (hnoted.trans (grows_of_keys rfl rfl))
    · exact extends_grows h (hnoted.trans (grows_of_mark (prefix_push maxAliasesPerFlow _ key) rfl))
  · next h =>
    split_ifs
    · exact .refl cache
    · exact extends_set (h ▸ .created (List.cons_ne_nil _ _))

theorem extends_observeDirection (clientIp : Option IpAddr)
    (egressIfindexes : Option (UInt32 × UInt32)) (tracked : Option ConntrackEntry) :
    Extends cache (cache.observeDirection id key direction clientIp egressIfindexes tracked) := by
  refine extends_modify cache id fun entry => ?_
  have hshaped : ∀ d, entry.Grows (entry.observeShaped key d clientIp egressIfindexes tracked) :=
    fun _ => observeShaped_rel (R := Grows) Grows.trans grows_insertAlias grows_recordUnresolved
      (fun _ _ => grows_of_keys rfl rfl) clientIp egressIfindexes tracked
  split_ifs
  · cases direction with
    | upload => exact hshaped _
    | download => exact hshaped _
    | internal => exact grows_of_keys rfl rfl
    | unknown => exact grows_of_keys rfl rfl
  · exact grows_of_keys rfl rfl

/-- A relation between a cache and its later states that observing directions keeps. -/
theorem reconcileForCommand_rel {R : PolicyFlowAliasCache → PolicyFlowAliasCache → Prop}
    (hrefl : R cache cache) (htrans : ∀ {a b c}, R a b → R b c → R a c)
    (hcleared : ∀ entry, cache.entries.lookup id = some entry →
      R cache (cache.set id { entry with unresolved := [] }))
    (hobs : ∀ acc key direction clientIp egressIfindexes tracked,
      R acc (observeDirection acc id key direction clientIp egressIfindexes tracked))
    (hashOrder : HashOrder) (clientIfindex : Option UInt32) (conntrack : ConntrackContext) :
    R cache (reconcileForCommand hashOrder cache id clientIfindex conntrack) := by
  unfold reconcileForCommand
  split
  · exact hrefl
  · next entry h =>
    split
    · exact hrefl
    · dsimp only
      split_ifs
      · exact hrefl
      · exact List.foldlRecOn _ _ (hcleared entry h)
          fun acc hacc o _ => htrans hacc (hobs acc o.1 o.2 _ _ _)

theorem extends_insertProxyReturn : Extends cache (cache.insertProxyReturn id key).2 := by
  unfold insertProxyReturn
  split
  · exact .refl cache
  · next entry h =>
    split_ifs
    · exact .refl cache
    · exact extends_grows h (grows_of_keys rfl rfl)
    · exact extends_grows h (grows_of_keys rfl rfl)
    · exact extends_grows h (grows_of_mark (prefix_push maxAliasesPerFlow entry.keys key) rfl)

theorem extends_rememberShape (epoch : String)
    (rev : ℕ) (policyIds : List String) (tags : List (FlowKey × ℕ)) (expiresMonotonicNs : ℕ) :
    Extends cache
      (cache.rememberShape id epoch rev policyIds tags expiresMonotonicNs) :=
  extends_modify cache id fun _ => grows_of_keys rfl rfl

theorem extends_recordCommand (issuedAtMs : ℤ) :
    Extends cache (cache.recordCommand id issuedAtMs) := by
  refine extends_modify cache id fun entry => ?_
  split_ifs with h
  · exact grows_of_keys rfl rfl
  · refine ⟨List.prefix_refl _, fun last hla => ⟨issuedAtMs, rfl, ?_⟩⟩
    simpa [Option.mem_def.1 hla] using h

theorem extends_markEnded : Extends cache (cache.markEnded id) :=
  extends_modify cache id fun _ => grows_of_keys rfl rfl

end PolicyFlowAliasCache

end Netqmon.Agent.FlowAlias
