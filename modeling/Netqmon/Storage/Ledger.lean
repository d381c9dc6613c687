import Netqmon.Storage.Schema

/-! # The correction ledger

A session keeps its recent contributions to the traffic tables, so that they can be moved when its
attribution improves (`reassign`). A contribution can be corrected for thirty minutes after it was
last added to, and for ten minutes after its session ended. `record` adds a delta to the ledger,
`restore` brings a session back into memory, `prune` and `pruneBounded` remove what has expired. -/

namespace Netqmon.Storage.Ledger

open Lib.Keyed Protocol.Telemetry Attribution Traffic Schema

def correctionWindowMs : ℤ := 30 * minuteMs
def endedGraceMs : ℤ := 10 * minuteMs
def activeFlowTtlMs : ℤ := 30 * minuteMs

/-! ### Keys -/

def protocolApplication : String := "protocol:"

def labelOf (attr : FlowAttribution) : Label :=
  ⟨attr.applicationId, attr.categoryId, attr.domain.getD "unknown", attr.protocolId⟩

def applicationKeys (label : Label) : DimensionKey :=
  if !known label.applicationId && known label.protocolId then
    .application (protocolApplication ++ label.protocolId) "unknown"
  else .application label.applicationId label.categoryId

variable (row : ContributionKey)

def scopeKeys (label : Label) : ScopeKey :=
  { timestamp := row.timestamp / minuteMs * minuteMs
    gatewayId := row.session.key.gatewayId
    scope := row.scope
    direction := row.direction
    deviceId := row.deviceId
    applicationId := label.applicationId
    categoryId := label.categoryId
    domain := label.domain
    remoteIp := row.remoteIp
    protocol := row.protocol
    protocolId := label.protocolId }

/-- The bucket of a contribution in a tier. -/
def tierBucket (tier : Tier) (row : ContributionKey) (key : DimensionKey) : Bucket :=
  ⟨row.timestamp / tier.size * tier.size, row.session.key.gatewayId, key⟩

/-! ### Reassignment -/

variable (c : Contribution)

def Contribution.metrics : Tier → Metrics
  | .minute => c.minute
  | .hour => c.hour
  | .day => c.day

/-- Move what a contribution counts in one tier. -/
def transferTier (new : Label) (tier : Tier) (db : Database) : Database :=
  let metrics := Contribution.metrics c tier
  if metrics = 0 then db
  else
    let bucket := tierBucket tier row
    let tiers := transfer (tierTable tier) (bucket (applicationKeys c.label))
      (bucket (applicationKeys new)) metrics db.tiers
    let tiers := transfer (tierTable tier) (bucket (.domain c.label.domain))
      (bucket (.domain new.domain)) metrics tiers
    { db with
      tiers
      scopes :=
        if tier = .minute then
          transfer scopeTable (scopeKeys row c.label) (scopeKeys row new) metrics db.scopes
        else db.scopes }

/-- Move one contribution to a new label. -/
def moveContribution (new : Label) (db : Database) : Database :=
  if applicationKeys c.label = applicationKeys new && c.label.domain = new.domain
      && scopeKeys row c.label = scopeKeys row new then db
  else
    let db := [Tier.minute, .hour, .day].foldl (fun db tier => transferTier row c new tier db) db
    { db with
      contributions := updateWhere (fun key _ => key = row) (fun _ c => { c with label := new })
        db.contributions }

/-- The contributions of a session can still be corrected. -/
def correctable (session : RollupSession) (now : ℤ) : Bool :=
  now - correctionWindowMs < session.updatedAt
    && session.endedAt.all fun ended => now - endedGraceMs < ended

variable (db : Database)

def liveContributions (id : SessionId) (session : RollupSession) (now : ℤ) :
    List (ContributionKey × Contribution) :=
  select (fun row c => row.session = id && now < c.expiresAt && correctable session now)
    db.contributions

/-- Merge an attribution into that of a session and move its contributions. -/
def reassign (id : SessionId) (incoming : FlowAttribution) (now : ℤ) (db : Database) : Database :=
  match db.rollupSessions.lookup id with
  | none => db
  | some session =>
    let new := merge session.flow.attribution incoming
    let moved := (liveContributions db id session now).foldl
      (fun db row => moveContribution row.1 row.2 (labelOf new) db) db
    { moved with
      rollupSessions := updateWhere (fun key _ => key = id)
        (fun _ row => { row with flow := { row.flow with attribution := new } })
        moved.rollupSessions }

variable (now : ℤ)

/-- Note that everything before the cutoffs has reached the hours and days. -/
def markAggregated (db : Database) : Database :=
  let hours := updateWhere (fun row _ => row.timestamp < cutoff .hour now)
    (fun _ c => { c with hour := c.minute }) db.contributions
  { db with
    contributions := updateWhere (fun row _ => row.timestamp < cutoff .day now)
      (fun _ c => { c with day := c.hour }) hours }

/-! ### Recording -/

variable (current : ActiveFlow) (batch : TelemetryBatch) (flow : FlowDelta)

/-- The ledger row of a delta. -/
def contributionKey : ContributionKey :=
  { session := current.sessionId
    timestamp := batchMinute batch
    scope := flow.scope
    direction := flow.direction
    deviceId := current.deviceId.getD 0
    remoteIp := flow.remoteIp
    protocol := flow.protocol }

def recordSession (now : ℤ) (db : Database) : Database :=
  let ended := if flow.lifecycle = lifecycleEnded then some now else none
  { db with
    rollupSessions := upsert db.rollupSessions current.sessionId ⟨current, now, ended⟩ fun row =>
      ⟨current, max row.updatedAt now, row.endedAt.or ended⟩ }

/-- An ended session gives up its contributions after the grace period. -/
def dropEnded (id : SessionId) (now : ℤ) (db : Database) : Database :=
  if (db.rollupSessions.lookup id).any fun row =>
      row.endedAt.any fun ended => saturatingAdd ended endedGraceMs ≤ now then
    { db with contributions := deleteWhere (fun row _ => row.session = id) db.contributions }
  else db

/-- Add a delta to its ledger row. The counts of an expired row stay where they are; the row starts
again with the new delta. -/
def recordContribution (now : ℤ) (db : Database) : Database :=
  let label := labelOf current.attribution
  let expiresAt := saturatingAdd now correctionWindowMs
  { db with
    contributions := upsert db.contributions (contributionKey current batch flow)
      ⟨label, flowMetrics flow, 0, 0, expiresAt⟩ fun c =>
        if c.expiresAt ≤ now then ⟨label, flowMetrics flow, 0, 0, expiresAt⟩
        else ⟨label, c.minute + flowMetrics flow, c.hour, c.day, expiresAt⟩ }

def record (now : ℤ) (db : Database) : Database :=
  recordContribution current batch flow now
    (dropEnded current.sessionId now (recordSession current flow now db))

/-! ### Restoring -/

def restore (current : ActiveFlow) : ActiveFlow :=
  match db.rollupSessions.lookup current.sessionId with
  | some row =>
    let restored := row.recovered
    { current with
      attribution := merge current.attribution restored.attribution
      uploadBytes := max current.uploadBytes restored.uploadBytes
      downloadBytes := max current.downloadBytes restored.downloadBytes
      packets := max current.packets restored.packets
      lastSeenAt := max current.lastSeenAt restored.lastSeenAt }
  | none =>
    match db.flowSessions.lookup current.sessionId with
    | some row =>
      { current with
        uploadBytes := row.uploadBytes
        downloadBytes := row.downloadBytes
        packets := row.packets
        lastSeenAt := max current.lastSeenAt row.lastSeenAt
        attribution := merge current.attribution row.attribution }
    | none => current

def deviceIdForMac (gatewayId : String) (mac : Bytes) : Option ℤ :=
  if mac.length ≠ 6 then none else db.devices.lookup (gatewayId, mac)

/-- `a > b` of two columns the second of which may be null. -/
def laterThan (a : ℤ) (b : Option ℤ) : Bool := b.any fun b => b < a

def writeFlowSession (flow : ActiveFlow) (endedAt : Option ℤ) (checkpointedAt : ℤ)
    (db : Database) : Database :=
  let deviceId := flow.deviceId.or
    (deviceIdForMac db flow.sessionId.key.gatewayId flow.clientMac)
  let row : FlowSession :=
    { deviceId
      uploadBytes := flow.uploadBytes
      downloadBytes := flow.downloadBytes
      packets := flow.packets
      startedAt := flow.startedAt
      lastSeenAt := flow.lastSeenAt
      endedAt
      checkpointedAt
      attribution := flow.attribution
      scope := flow.scope
      pathType := flow.pathType
      nat := flow.nat
      sourceSegment := flow.sourceSegment
      destinationSegment := flow.destinationSegment }
  { db with
    flowSessions := upsert db.flowSessions flow.sessionId row fun old =>
      { row with
        deviceId := deviceId.or old.deviceId
        startedAt := old.startedAt
        endedAt :=
          if laterThan row.lastSeenAt old.endedAt then row.endedAt
          else row.endedAt.or old.endedAt } }

/-! ### Pruning -/

/-- An open session that has not been heard of in the correction window. -/
def isStale (row : RollupSession) : Bool :=
  row.endedAt.isNone && row.updatedAt ≤ now - correctionWindowMs

/-- A session whose time in the ledger is over. -/
def isOver (row : RollupSession) : Bool :=
  row.endedAt.any (fun ended => ended ≤ now - endedGraceMs)
    || row.updatedAt ≤ now - correctionWindowMs

/-- Write the session of a flow that is no longer heard of, if it carried traffic. -/
def closeFlow (db : Database) (flow : ActiveFlow) : Database :=
  if 0 < flow.lastSeenAt then writeFlowSession flow (some flow.lastSeenAt) now db else db

/-- A checkpoint that was not closed, and no ledger session protects it. -/
def isAbandoned (id : SessionId) (row : FlowSession) : Bool :=
  row.endedAt.isNone && row.checkpointedAt ≤ now - activeFlowTtlMs
    && !(db.rollupSessions.lookup id).any fun session =>
      session.endedAt.isNone && now - activeFlowTtlMs < session.updatedAt

def closeAbandoned (row : FlowSession) : FlowSession := { row with endedAt := some row.lastSeenAt }

def prune (now : ℤ) (db : Database) : Database :=
  let stale := (select (fun _ row => isStale now row) db.rollupSessions).map (·.2.recovered)
  let db := stale.foldl (closeFlow now) db
  let contributions := deleteWhere (fun _ c => c.expiresAt ≤ now) db.contributions
  -- deleting a session deletes its contributions
  let isGone := fun id => (db.rollupSessions.lookup id).any (isOver now)
  { db with
    contributions := deleteWhere (fun row _ => isGone row.session) contributions
    rollupSessions := deleteWhere (fun _ row => isOver now row) db.rollupSessions }

/-- At most `limit` of the selected rows. -/
def limited {K V : Type} (scan : Scan) (limit : ℕ) (p : K → V → Bool) (t : Rows K V) :
    List (K × V) :=
  (scan.order (select p t)).take limit

theorem lookup_of_mem_limited {K V : Type} [DecidableEq K] {scan : Scan} {limit : ℕ}
    {p : K → V → Bool} {t : Rows K V} {row : K × V} (h : row ∈ limited scan limit p t) :
    t.lookup row.1 = some row.2 ∧ p row.1 row.2 = true :=
  mem_select.1 ((scan.perm _).mem_iff.1 (List.mem_of_mem_take h))

def deleteKeys {K V : Type} [DecidableEq K] (keys : List K) (t : Rows K V) : Rows K V :=
  deleteWhere (fun key _ => keys.contains key) t

theorem lookup_deleteKeys_some {K V : Type} [DecidableEq K] {keys : List K} {t : Rows K V} {key : K}
    {v : V} : (deleteKeys keys t).lookup key = some v ↔ t.lookup key = some v ∧ key ∉ keys := by
  rw [deleteKeys, lookup_deleteWhere]
  simp

/-- One bounded slice of pruning; the result says whether work is left. -/
def pruneBounded (scan : Scan) (now : ℤ) (limit : ℕ) (db : Database) : Bool × Database :=
  let limit := max limit 1
  let stale := (limited scan limit (fun _ row => isStale now row) db.rollupSessions).map
    (·.2.recovered)
  let db := stale.foldl (closeFlow now) db
  let expired := (limited scan limit (fun _ c => c.expiresAt ≤ now) db.contributions).map (·.1)
  let db := { db with contributions := deleteKeys expired db.contributions }
  let gone := (limited scan limit (fun id row => isOver now row
    && !anyRow (fun key _ => key.session = id) db.contributions) db.rollupSessions).map (·.1)
  let db := { db with rollupSessions := deleteKeys gone db.rollupSessions }
  let abandoned := (limited scan limit (isAbandoned db now) db.flowSessions).map (·.1)
  let db := { db with
    flowSessions := updateWhere (fun id _ => abandoned.contains id) (fun _ row => closeAbandoned row)
      db.flowSessions }
  (anyRow (fun _ c => c.expiresAt ≤ now) db.contributions
    || anyRow (fun _ row => isOver now row) db.rollupSessions
    || anyRow (isAbandoned db now) db.flowSessions, db)

end Netqmon.Storage.Ledger
