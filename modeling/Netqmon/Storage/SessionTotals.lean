import Mathlib
import Netqmon.Storage.Effects
import Netqmon.Storage.Restart

/-! # Session totals

The totals of a session are in up to three places: with its flow in memory, in its ledger row and in
its stored session. Flow and ledger row always have what was applied to the session; the stored
session may lag behind. `Tracks` says what makes up for that: a session that is not in memory has an
open ledger row, which pruning writes out and a restart loads, or its stored session has the totals.

A delta that comes after the end of its session brings the flow back into memory, but the ledger row
stays ended. A restart loses such a flow (`late_delta_is_lost`), so `careful` asks for more. -/

namespace Netqmon.Storage.SessionTotals

open Lib.Keyed Protocol.Telemetry Attribution Schema Ledger Batch Operations Retention Staging
open Restart Frames Effects

/-! ### Runs -/

inductive SessionOp
  | persist (batch : TelemetryBatch) (attributions : List FlowAttribution) (receivedAtMs : ℕ)
  | prune (nowMs : ℕ)
  | restart (scan : Scan) (turns : List StartupTurn) (nowMs : ℕ)

variable (storage : SqliteStorage)

def sessionStep : SessionOp → SqliteStorage
  | .persist batch attributions receivedAtMs =>
    (persistClassifiedBatch batch attributions receivedAtMs storage).2
  | .prune nowMs => pruneReclassification nowMs storage
  | .restart scan turns nowMs => fromConnectionAt scan turns nowMs storage.database

def sessionRun (ops : List SessionOp) : SqliteStorage := ops.foldl sessionStep .empty

/-- The receipt times of a run. -/
def receipts (ops : List SessionOp) : List ℕ :=
  ops.filterMap fun
    | .persist _ _ receivedAtMs => some receivedAtMs
    | .prune _ => none
    | .restart _ _ _ => none

/-! ### What was applied -/

/-- A delta that was applied to a session. -/
structure Applied where
  session : SessionId
  flow : FlowDelta
  receivedAt : ℤ

def appliedIn (batch : TelemetryBatch) (receivedAt : ℤ) :
    BatchState → List (FlowDelta × FlowAttribution) → List Applied
  | _, [] => []
  | st, delta :: deltas =>
    ⟨(openFlow batch delta.1 receivedAt st).sessionId, delta.1, receivedAt⟩ ::
      appliedIn batch receivedAt (updateActiveFlow batch receivedAt st delta) deltas

def applied : SessionOp → List Applied
  | .persist batch attributions receivedAtMs =>
    if (persistClassifiedBatch batch attributions receivedAtMs storage).1 = .accepted then
      appliedIn batch (toI64 receivedAtMs)
        ⟨storage.activeFlows, ∅, .new, admitted batch (toI64 receivedAtMs) storage.database⟩
        (classified batch.flows attributions)
    else []
  | .prune _ => []
  | .restart _ _ _ => []

/-- Everything that a run applies from a storage on. -/
def appliedAll : SqliteStorage → List SessionOp → List Applied
  | _, [] => []
  | storage, op :: ops => applied storage op ++ appliedAll (sessionStep storage op) ops

/-- Upload, download and packets. -/
abbrev Volume : Type := ℤ × ℤ × ℤ

def flowVolume (flow : ActiveFlow) : Volume := (flow.uploadBytes, flow.downloadBytes, flow.packets)

def storedVolume (row : FlowSession) : Volume := (row.uploadBytes, row.downloadBytes, row.packets)

def deltaVolume (flow : FlowDelta) : Volume := (flow.uploadBytes, flow.downloadBytes, flow.packets)

variable (l : List Applied)

/-- The sum of what was applied to a session. -/
def volume (id : SessionId) : Volume :=
  ((l.filter fun a => a.session = id).map fun a => deltaVolume a.flow).sum

/-- The session carried traffic. -/
def carried (id : SessionId) : Bool :=
  l.any fun a => a.session = id && flowHasTraffic a.flow

def NoSaturation : Prop :=
  ∀ a ∈ l, volume l a.session ≤ (i64Max, i64Max, i64Max)

instance (l : List Applied) : Decidable (NoSaturation l) := by
  unfold NoSaturation
  infer_instance

/-! ### Careful runs -/

/-- A flow in memory that a restart does not lose. -/
def recoverable (db : Database) (flow : ActiveFlow) : Bool :=
  flow.lastSeenAt ≤ 0
    || (db.rollupSessions.lookup flow.sessionId).any (fun row => row.endedAt.isNone)
    || (db.flowSessions.lookup flow.sessionId).any fun row => storedVolume row = flowVolume flow

/-- No slice of pruning at the start has more open sessions to write than it may. -/
def slicesFit (nowMs : ℕ) : List StartupTurn → ℕ → SqliteStorage → Bool
  | [], _, _ => true
  | .busy :: turns, rows, storage => slicesFit nowMs turns rows storage
  | .interrupted :: turns, rows, storage => slicesFit nowMs turns (halve rows) storage
  | .committed scan fast :: turns, rows, storage =>
    let pruned := pruneReclassificationBounded scan nowMs rows storage
    countRows (fun _ row => isStale (toI64 nowMs) row) storage.database.rollupSessions ≤ max rows 1
      && (pruned.1 || slicesFit nowMs turns (rampUp fast rows) pruned.2)

/-- Deltas with traffic have been seen at some time, and restarts lose no flow. -/
def careful : SessionOp → Bool
  | .persist batch _ _ =>
    batch.flows.all fun flow => !flowHasTraffic flow || flow.lastSeenUnixMs ≠ 0
  | .prune _ => true
  | .restart _ turns nowMs =>
    !anyRow (fun _ flow => !recoverable storage.database flow) storage.activeFlows
      && slicesFit nowMs turns maxRowsPerBatch ⟨storage.database, ∅⟩

def allCareful : SqliteStorage → List SessionOp → Bool
  | _, [] => true
  | storage, op :: ops => careful storage op && allCareful (sessionStep storage op) ops

/-! ### Sums -/

variable {l l' : List Applied} {id : SessionId} {a : Applied}

theorem volume_append : volume (l ++ l') id = volume l id + volume l' id := by
  unfold volume
  rw [List.filter_append, List.map_append, List.sum_append]

theorem volume_concat :
    volume (l ++ [a]) id = volume l id + if a.session = id then deltaVolume a.flow else 0 := by
  unfold volume
  by_cases h : a.session = id <;> simp [h]

theorem carried_concat :
    carried (l ++ [a]) id = (carried l id || (a.session = id && flowHasTraffic a.flow)) := by
  unfold carried
  rw [List.any_append, List.any_cons, List.any_nil, Bool.or_false]

theorem volume_nonneg (l : List Applied) (id : SessionId) : 0 ≤ volume l id := by
  refine List.sum_nonneg fun v hv => ?_
  obtain ⟨a, -, rfl⟩ := List.mem_map.1 hv
  exact ⟨Int.natCast_nonneg _, Int.natCast_nonneg _, Int.natCast_nonneg _⟩

theorem volume_le_append : volume l id ≤ volume (l ++ l') id := by
  rw [volume_append]
  exact le_add_of_nonneg_right (volume_nonneg l' id)

/-! ### One delta -/

section Delta

variable {batch : TelemetryBatch} {now : ℤ} {st : BatchState}
  {delta : FlowDelta × FlowAttribution} {flow : ActiveFlow} {db : Database}

theorem writeFlowSession_own (endedAt : Option ℤ) (checkpointedAt : ℤ) :
    ∃ row, (writeFlowSession flow endedAt checkpointedAt db).flowSessions.lookup flow.sessionId =
        some row ∧ storedVolume row = flowVolume flow ∧ row.lastSeenAt = flow.lastSeenAt ∧
      row.checkpointedAt = checkpointedAt ∧ (row.endedAt = none → endedAt = none) := by
  unfold writeFlowSession
  rw [lookup_upsert, if_pos rfl]
  cases db.flowSessions.lookup flow.sessionId with
  | none => exact ⟨_, rfl, rfl, rfl, rfl, id⟩
  | some old =>
    refine ⟨_, rfl, rfl, rfl, rfl, ?_⟩
    grind

end Delta

/-! ### Tracking -/

/-- A delta of the session was received at this time or later. -/
def Heard (l : List Applied) (id : SessionId) (time : ℤ) : Prop :=
  ∃ a ∈ l, a.session = id ∧ time ≤ a.receivedAt

/-- A flow has the totals of a session. -/
structure Current (l : List Applied) (id : SessionId) (flow : ActiveFlow) : Prop where
  sessionId : flow.sessionId = id
  volume : flowVolume flow = volume l id
  seen : carried l id = true ↔ 0 < flow.lastSeenAt

/-- The stored session has the totals. -/
def Stored (db : Database) (l : List Applied) (id : SessionId) : Prop :=
  ∃ row, db.flowSessions.lookup id = some row ∧ storedVolume row = volume l id

/-- What a session needs when it is not in memory. -/
def Settled (db : Database) (l : List Applied) (id : SessionId) : Prop :=
  (∃ row, db.rollupSessions.lookup id = some row ∧ row.endedAt = none) ∨ Stored db l id ∨
    carried l id = false

/-- The stored session is never ahead, and an open one not of the ledger either. -/
structure Behind (db : Database) (l : List Applied) (id : SessionId) (row : FlowSession) :
    Prop where
  carried : carried l id = true
  seen : 0 < row.lastSeenAt
  volume : storedVolume row ≤ volume l id
  heard : row.endedAt = none → Heard l id row.checkpointedAt
  ledger : row.endedAt = none → ∀ session, db.rollupSessions.lookup id = some session →
    row.checkpointedAt ≤ session.updatedAt

structure Tracks (active : Rows FlowKey ActiveFlow) (db : Database) (l : List Applied) : Prop where
  cached : ∀ key flow, active.lookup key = some flow → flow.sessionId.key = key ∧
    Current l flow.sessionId flow ∧ Heard l flow.sessionId flow.lastReceivedAt
  ledger : ∀ id row, db.rollupSessions.lookup id = some row →
    Current l id row.flow ∧ Heard l id row.updatedAt
  stored : ∀ id row, db.flowSessions.lookup id = some row → Behind db l id row
  settled : ∀ id, (∀ flow, active.lookup id.key = some flow → flow.sessionId ≠ id) →
    Settled db l id

variable {storage : SqliteStorage} {ops : List SessionOp}

variable {nowMs : ℕ}

section Tracking

variable {active : Rows FlowKey ActiveFlow} {db db' : Database} {flow : ActiveFlow} {now : ℤ}

theorem Heard.append (h : Heard l id now) (l' : List Applied) : Heard (l ++ l') id now := by
  obtain ⟨a, ha, hid, hle⟩ := h
  exact ⟨a, List.mem_append_left _ ha, hid, hle⟩

/-! ### Writing sessions -/

theorem closeFlow_cases (h : Current l flow.sessionId flow) (id : SessionId) :
    (closeFlow now db flow).flowSessions.lookup id = db.flowSessions.lookup id ∨
      id = flow.sessionId ∧ 0 < flow.lastSeenAt ∧
      ∃ row, (closeFlow now db flow).flowSessions.lookup id = some row ∧
        storedVolume row = volume l id ∧ 0 < row.lastSeenAt ∧ row.endedAt ≠ none := by
  unfold closeFlow
  by_cases hsn : 0 < flow.lastSeenAt
  · rw [if_pos hsn]
    by_cases hid : id = flow.sessionId
    · subst hid
      obtain ⟨row, hrow, hvol, hla, _, hend⟩ :=
        writeFlowSession_own (some flow.lastSeenAt) now
      exact .inr ⟨rfl, hsn, row, hrow, hvol.trans h.volume, hla ▸ hsn,
        fun hn => by cases hend hn⟩
    · exact .inl (writeFlowSession_other hid _ _)
  · rw [if_neg hsn]
    exact .inl rfl

theorem Stored.closeFlow (hsto : Stored db l id) (h : Current l flow.sessionId flow) :
    Stored (closeFlow now db flow) l id := by
  rcases @closeFlow_cases l db flow now h id with heq | ⟨_, _, row, hrow, hvol, _⟩
  · obtain ⟨row, hrow, hvol⟩ := hsto
    exact ⟨row, heq ▸ hrow, hvol⟩
  · exact ⟨row, hrow, hvol⟩

theorem stored_closeFlow (h : Current l flow.sessionId flow)
    (hcar : carried l flow.sessionId = true) : Stored (closeFlow now db flow) l flow.sessionId := by
  have hsn := h.seen.1 hcar
  unfold Ledger.closeFlow
  rw [if_pos hsn]
  obtain ⟨row, hrow, hvol, _⟩ := writeFlowSession_own (some flow.lastSeenAt) now
  exact ⟨row, hrow, hvol.trans h.volume⟩

theorem Behind.of_subset {row : FlowSession} (h : Behind db l id row)
    (hsub : ∀ ss, db'.rollupSessions.lookup id = some ss →
      db.rollupSessions.lookup id = some ss) : Behind db' l id row :=
  ⟨h.carried, h.seen, h.volume, h.heard, fun hop ss hs =>
    h.ledger hop ss (hsub ss hs)⟩

theorem Tracks.closeFlow (h : Tracks active db l) (hfl : Current l flow.sessionId flow) :
    Tracks active (closeFlow now db flow) l where
  cached := h.cached
  ledger id row hrow := h.ledger id row (rollupSessions_closeFlow ▸ hrow)
  stored id row hrow := by
    have hsub : ∀ session, (Ledger.closeFlow now db flow).rollupSessions.lookup id = some session →
        db.rollupSessions.lookup id = some session := fun session hs =>
      rollupSessions_closeFlow ▸ hs
    rcases @closeFlow_cases l db flow now hfl id with
      heq | ⟨hid, hsn, row', hrow', hvol, hla, hend⟩
    · exact (h.stored id row (heq ▸ hrow)).of_subset hsub
    · rw [hrow, Option.some_inj] at hrow'
      subst hrow'
      exact ⟨hid ▸ hfl.seen.2 hsn, hla, hvol.le, fun hn => absurd hn hend,
        fun hn => absurd hn hend⟩
  settled id hid := by
    rcases h.settled id hid with hop | hsto | hcar
    · refine .inl ?_
      rw [rollupSessions_closeFlow]
      exact hop
    · exact .inr (.inl (hsto.closeFlow hfl))
    · exact .inr (.inr hcar)

theorem Tracks.closeFlows (h : Tracks active db l) {flows : List ActiveFlow}
    (hfls : ∀ flow ∈ flows, Current l flow.sessionId flow) :
    Tracks active (flows.foldl (Ledger.closeFlow now) db) l ∧
      (∀ id, Stored db l id → Stored (flows.foldl (Ledger.closeFlow now) db) l id) ∧
      ∀ flow ∈ flows, carried l flow.sessionId = true →
        Stored (flows.foldl (Ledger.closeFlow now) db) l flow.sessionId := by
  induction flows generalizing db with
  | nil => exact ⟨h, fun _ hsto => hsto, fun _ hfl => by cases hfl⟩
  | cons flow flows ih =>
    have hfl := hfls flow List.mem_cons_self
    obtain ⟨htr, hkp, hwr⟩ := ih (h.closeFlow hfl)
      fun other ho => hfls other (List.mem_cons_of_mem _ ho)
    refine ⟨htr, fun id hsto => hkp id (hsto.closeFlow hfl), fun other ho => ?_⟩
    grind [stored_closeFlow]

/-! ### Deleting -/

theorem Tracks.deleteLedger (h : Tracks active db l) (hs : db'.flowSessions = db.flowSessions)
    (hsub : ∀ id row, db'.rollupSessions.lookup id = some row →
      db.rollupSessions.lookup id = some row)
    (hgo : ∀ id row, db.rollupSessions.lookup id = some row → row.endedAt = none →
      db'.rollupSessions.lookup id = none → Stored db l id ∨ carried l id = false) :
    Tracks active db' l where
  cached := h.cached
  ledger id row hrow := h.ledger id row (hsub id row hrow)
  stored id row hrow := (h.stored id row (hs ▸ hrow)).of_subset (hsub id)
  settled id hid := by
    have hsto : Stored db l id → Stored db' l id := by grind [Stored]
    rcases h.settled id hid with ⟨row, hrow, hop⟩ | hr
    · cases hrow' : db'.rollupSessions.lookup id with
      | none => exact .inr ((hgo id row hrow hop hrow').imp_left hsto)
      | some row' =>
        have heq := (hsub id row' hrow').symm.trans hrow
        cases heq
        exact .inl ⟨row, hrow', hop⟩
    · exact .inr (hr.imp_left hsto)

variable {active' : Rows FlowKey ActiveFlow}

theorem Tracks.deleteCached (h : Tracks active db l)
    (hsub : ∀ key flow, active'.lookup key = some flow → active.lookup key = some flow)
    (hgo : ∀ key flow, active.lookup key = some flow → active'.lookup key = none →
      Settled db l flow.sessionId) : Tracks active' db l where
  cached key flow hfl := h.cached key flow (hsub key flow hfl)
  ledger := h.ledger
  stored := h.stored
  settled id hid := by
    cases hca : active'.lookup id.key with
    | none =>
      by_cases hold : ∃ flow, active.lookup id.key = some flow ∧ flow.sessionId = id
      · grind
      · exact h.settled id fun flow hfl heq => hold ⟨flow, hfl, heq⟩
    | some flow' =>
      refine h.settled id fun flow hfl => ?_
      have heq := (hsub _ _ hca).symm.trans hfl
      cases heq
      exact hid flow' hca

theorem Stored.closeAbandoned (h : Stored db l id) (p : SessionId → FlowSession → Bool) :
    Stored { db with
      flowSessions := updateWhere p (fun _ row => closeAbandoned row) db.flowSessions } l id := by
  obtain ⟨row, hrow, hvol⟩ := h
  refine ⟨if p id row then Ledger.closeAbandoned row else row, ?_, ?_⟩
  · grind
  · split_ifs
    · exact hvol
    · exact hvol

theorem Tracks.closeAbandoned (h : Tracks active db l) (p : SessionId → FlowSession → Bool) :
    Tracks active { db with
      flowSessions := updateWhere p (fun _ row => closeAbandoned row) db.flowSessions } l where
  cached := h.cached
  ledger := h.ledger
  stored id row hrow := by
    rw [lookup_updateWhere, Option.map_eq_some_iff] at hrow
    obtain ⟨old, hold, rfl⟩ := hrow
    have hbeh := h.stored id old hold
    split_ifs
    · exact ⟨hbeh.carried, hbeh.seen, hbeh.volume, nofun, nofun⟩
    · exact { hbeh with }
  settled id hid := (h.settled id hid).imp_right (Or.imp_left fun hsto =>
    hsto.closeAbandoned p)

/-! ### Pruning -/

variable {row : RollupSession}

theorem Current.recovered (h : Current l id row.flow) :
    Current l row.recovered.sessionId row.recovered := by
  have hid : row.recovered.sessionId = id := h.sessionId
  rw [hid]
  exact { h with }

theorem current_stale (h : Tracks active db l) {rows : List (SessionId × RollupSession)}
    (hrs : ∀ row ∈ rows, db.rollupSessions.lookup row.1 = some row.2) :
    ∀ flow ∈ rows.map (·.2.recovered), Current l flow.sessionId flow := by
  intro flow hfl
  obtain ⟨row, hrow, rfl⟩ := List.mem_map.1 hfl
  exact (h.ledger row.1 row.2 (hrs row hrow)).1.recovered

theorem isStale_of_isOver (hop : row.endedAt = none)
    (hov : isOver now row = true) : isStale now row = true := by
  unfold isOver at hov
  unfold isStale
  rw [hop] at hov ⊢
  simpa using hov

theorem stored_recovered (hrow : Current l id row.flow)
    (hwr : carried l row.recovered.sessionId = true → Stored db l row.recovered.sessionId) :
    Stored db l id ∨ carried l id = false := by
  have hid : row.recovered.sessionId = id := hrow.sessionId
  rw [hid] at hwr
  cases hcar : carried l id with
  | false => exact .inr rfl
  | true => exact .inl (hwr hcar)

theorem Tracks.prune (h : Tracks active db l) :
    Tracks active (prune now db) l ∧ ∀ id, Stored db l id → Stored (prune now db) l id := by
  have hselect : ∀ row ∈ select (fun _ row => isStale now row) db.rollupSessions,
      db.rollupSessions.lookup row.1 = some row.2 := fun row hrow => (mem_select.1 hrow).1
  obtain ⟨htr, hk, hwr⟩ := @Tracks.closeFlows _ _ _ now h _ (current_stale h hselect)
  unfold Ledger.prune
  refine ⟨htr.deleteLedger rfl (fun id row hrow => ?_) fun id row hrow hop hgo => ?_, hk⟩
  · grind [Option.filter_eq_some_iff]
  · have hov : isOver now row = true := by grind
    rw [rollupSessions_closeFlows] at hrow
    refine stored_recovered (h.ledger id row hrow).1 (hwr _ ?_)
    exact List.mem_map.2 ⟨(id, row), mem_select.2 ⟨hrow, isStale_of_isOver hop hov⟩, rfl⟩

theorem Tracks.pruneReclassification (nowMs : ℕ)
    (h : Tracks storage.activeFlows storage.database l) :
    Tracks (pruneReclassification nowMs storage).activeFlows
        (pruneReclassification nowMs storage).database l ∧
      ∀ id, Stored storage.database l id →
        Stored (pruneReclassification nowMs storage).database l id := by
  have hsilent : ∀ flow ∈ (select (fun _ flow => isSilent (toI64 nowMs) flow)
      storage.activeFlows).map (·.2), Current l flow.sessionId flow := by
    intro flow hfl
    obtain ⟨⟨key, flow⟩, he, rfl⟩ := List.mem_map.1 hfl
    exact (h.cached key flow (mem_select.1 he).1).2.1
  obtain ⟨htr, hk, hwr⟩ := @Tracks.closeFlows _ _ _ (toI64 nowMs) h _ hsilent
  have hpr := @Tracks.prune _ (deleteWhere (fun _ flow => isSilent (toI64 nowMs) flow)
    storage.activeFlows) _ (toI64 nowMs) (htr.deleteCached (fun key flow hfl => ?_)
      fun key flow hfl hgo => ?_)
  · exact ⟨hpr.1.closeAbandoned _, fun id hsto =>
      (hpr.2 id (hk id hsto)).closeAbandoned _⟩
  · grind [Option.filter_eq_some_iff]
  · have hsilent : isSilent (toI64 nowMs) flow = true := by grind
    cases hcar : carried l flow.sessionId with
    | false => exact .inr (.inr hcar)
    | true =>
      exact .inr (.inl (hwr flow
        (List.mem_map.2 ⟨(key, flow), mem_select.2 ⟨hfl, hsilent⟩, rfl⟩) hcar))

/-! ### Restarts -/

variable {K V : Type}

theorem length_select (p : K → V → Bool) (t : Rows K V) : (select p t).length = countRows p t := by
  unfold select countRows
  rw [List.countP_eq_length_filter, List.filter_map, List.length_map]
  rfl

theorem mem_limited_of_fits {scan : Scan} {limit : ℕ} [DecidableEq K] {p : K → V → Bool}
    {t : Rows K V} (hfits : countRows p t ≤ limit) {key : K} {v : V} (h : t.lookup key = some v)
    (hp : p key v = true) : (key, v) ∈ limited scan limit p t := by
  unfold limited
  rw [List.take_of_length_le]
  · exact (scan.perm _).mem_iff.2 (mem_select.2 ⟨h, hp⟩)
  · rw [(scan.perm _).length_eq, length_select]
    exact hfits

theorem Tracks.pruneBounded (h : Tracks active db l) (scan : Scan) {limit : ℕ}
    (hfits : countRows (fun _ row => isStale now row) db.rollupSessions ≤ max limit 1) :
    Tracks active (pruneBounded scan now limit db).2 l ∧
      ∀ id, Stored db l id → Stored (pruneBounded scan now limit db).2 l id := by
  have hstale : ∀ row ∈ limited scan (max limit 1) (fun _ row => isStale now row)
      db.rollupSessions, db.rollupSessions.lookup row.1 = some row.2 :=
    fun row hrow => (lookup_of_mem_limited hrow).1
  obtain ⟨htr, hk, hwr⟩ := @Tracks.closeFlows _ _ _ now h _ (current_stale h hstale)
  refine ⟨Tracks.closeAbandoned ?_ _, fun id hsto => Stored.closeAbandoned (hk id hsto) _⟩
  refine htr.deleteLedger rfl (fun id row hrow => ?_) fun id row hrow hop hgo => ?_
  · exact (lookup_deleteKeys_some.1 hrow).1
  · obtain ⟨deleted, hmem, rfl⟩ := List.mem_map.1 <| by_contra fun hnot =>
      Option.some_ne_none _ ((lookup_deleteKeys_some.2 ⟨hrow, hnot⟩).symm.trans hgo)
    obtain ⟨hl, hov⟩ := lookup_of_mem_limited hmem
    have heq := hrow.symm.trans hl
    rw [rollupSessions_closeFlows] at hrow
    cases heq
    have hopenStale := isStale_of_isOver hop (Bool.and_eq_true_iff.1 hov).1
    refine stored_recovered (h.ledger _ _ hrow).1 (hwr _ ?_)
    grind [mem_limited_of_fits]

theorem pruneReclassificationBounded_empty (scan : Scan) (rows : ℕ) :
    (pruneReclassificationBounded scan nowMs rows ⟨db, ∅⟩).2 =
      ⟨(Ledger.pruneBounded scan (toI64 nowMs) (max rows 1) db).2, ∅⟩ := by
  have hn : limited scan (max rows 1) (fun _ flow => isCandidate (toI64 nowMs) flow)
      (∅ : Rows FlowKey ActiveFlow) = [] := by
    have hor : scan.order (select (fun _ flow => isCandidate (toI64 nowMs) flow)
        (∅ : Rows FlowKey ActiveFlow)) = [] := (scan.perm _).eq_nil
    rw [limited, hor, List.take_nil]
  unfold pruneReclassificationBounded
  dsimp only
  rw [hn]
  rfl

theorem Tracks.startup {turns : List StartupTurn} {rows : ℕ} (h : Tracks ∅ db l)
    (hfit : slicesFit nowMs turns rows ⟨db, ∅⟩ = true) :
    Tracks ∅ (pruneReclassificationAtStartup nowMs turns rows ⟨db, ∅⟩).database l ∧
      ∀ id, Stored db l id →
        Stored (pruneReclassificationAtStartup nowMs turns rows ⟨db, ∅⟩).database l id := by
  induction turns generalizing rows db with
  | nil => exact ⟨h, fun _ hsto => hsto⟩
  | cons turn turns ih =>
    cases turn with
    | busy => exact ih h hfit
    | interrupted => exact ih h hfit
    | committed scan fast =>
      unfold slicesFit at hfit
      unfold pruneReclassificationAtStartup
      dsimp only at hfit ⊢
      rw [Bool.and_eq_true, decide_eq_true_eq] at hfit
      obtain ⟨hslice, hk⟩ := h.pruneBounded scan (hfit.1.trans (le_max_left _ _))
      rw [pruneReclassificationBounded_empty] at hfit ⊢
      split_ifs with hdn
      · exact ⟨hslice, hk⟩
      · rw [Bool.not_eq_true] at hdn
        rw [hdn] at hfit
        grind

/-- A flow that may be loaded. -/
def Good (l : List Applied) (flow : ActiveFlow) : Prop :=
  Current l flow.sessionId flow ∧ Heard l flow.sessionId flow.lastReceivedAt

/-- A checkpoint whose session the ledger still has. -/
def Pending (db : Database) (now : ℤ) (flow : ActiveFlow) : Prop :=
  ∃ id row session, flow = resumed id row ∧ db.flowSessions.lookup id = some row ∧
    db.rollupSessions.lookup id = some session ∧ isRecent now session = true

theorem Tracks.resumed (h : Tracks ∅ db l) {row : FlowSession}
    (hrow : db.flowSessions.lookup id = some row) (hresu : isResumable now row = true) :
    Good l (resumed id row) ∨ Pending db now (resumed id row) := by
  obtain ⟨hop, hrecent⟩ := Bool.and_eq_true_iff.1 hresu
  rw [Option.isNone_iff_eq_none] at hop
  rw [decide_eq_true_eq] at hrecent
  have hbeh := h.stored id row hrow
  have hgd : Stored db l id → Good l (Restart.resumed id row) := by
    rintro ⟨row', hrow', hvol⟩
    have heq := hrow.symm.trans hrow'
    cases heq
    exact ⟨⟨rfl, hvol, fun _ => hbeh.seen, fun _ => hbeh.carried⟩, hbeh.heard hop⟩
  rcases h.settled id (fun flow hfl => by cases hfl) with
    ⟨session, hs, hend⟩ | hsto | hcar
  · refine .inr ⟨id, row, session, rfl, hrow, hs, ?_⟩
    have hle := hbeh.ledger hop session hs
    unfold isRecent
    rw [hend]
    exact decide_eq_true (hrecent.trans_le hle)
  · exact .inl (hgd hsto)
  · rw [hbeh.carried] at hcar
    cases hcar

/-- What is in memory while the ledger is read: `ids` are still to come. -/
def Loading (db : Database) (l : List Applied) (now : ℤ) (ids : List SessionId)
    (active : Rows FlowKey ActiveFlow) : Prop :=
  ∀ key flow, active.lookup key = some flow → flow.sessionId.key = key ∧
    (Good l flow ∨ Pending db now flow ∧ flow.sessionId ∈ ids)

theorem joined_good (h : Tracks ∅ db l) {cur restored : ActiveFlow} (hres : Good l restored)
    (hid : cur.sessionId = restored.sessionId) (hcur : Good l cur ∨ Pending db now cur) :
    Good l (joined restored cur) := by
  have hvol : flowVolume cur ≤ flowVolume restored ∧
      (0 < cur.lastSeenAt → carried l restored.sessionId = true) := by
    rw [hres.1.volume]
    rcases hcur with hgd | ⟨id, row, ss, rfl, hrow, _⟩
    · rw [hgd.1.volume, hid]
      exact ⟨le_rfl, fun hsn => hid ▸ hgd.1.seen.2 hsn⟩
    · have hbeh := h.stored id row hrow
      rw [← hid]
      exact ⟨hbeh.volume, fun _ => hbeh.carried⟩
  obtain ⟨⟨hup, hdown, hpkt⟩, hcar⟩ := hvol
  refine ⟨⟨rfl, ?_, ?_⟩, hres.2⟩
  · refine Eq.trans ?_ hres.1.volume
    exact Prod.ext (max_eq_left hup) (Prod.ext (max_eq_left hdown) (max_eq_left hpkt))
  · show carried l restored.sessionId = true ↔ 0 < max restored.lastSeenAt cur.lastSeenAt
    rw [lt_max_iff]
    exact ⟨fun hcar => .inl (hres.1.seen.1 hcar),
      fun hsn => hsn.elim hres.1.seen.2 hcar⟩

theorem Loading.restoreRow {ids : List SessionId} {restored : ActiveFlow} (h : Tracks ∅ db l)
    (hload : Loading db l now (restored.sessionId :: ids) active) (hres : Good l restored) :
    Loading db l now ids (restoreRow active restored) := by
  -- an entry that is not touched belongs to another session
  have hkp : ∀ key flow, active.lookup key = some flow → flow.sessionId ≠ restored.sessionId →
      flow.sessionId.key = key ∧ (Good l flow ∨ Pending db now flow ∧ flow.sessionId ∈ ids) := by
    intro key flow hfl hne
    obtain ⟨hkey, hst⟩ := hload key flow hfl
    exact ⟨hkey, hst.imp_right fun hp =>
      ⟨hp.1, (List.mem_cons.1 hp.2).resolve_left hne⟩⟩
  have hins : ∀ flow, flow.sessionId = restored.sessionId → Good l flow →
      Loading db l now ids (active.insert restored.sessionId.key flow) := by
    intro flow hid hgd key other ho
    rw [lookup_insert_ite] at ho
    split_ifs at ho with hkey
    · grind
    · refine hkp key other ho fun heq => hkey ?_
      rw [← (hload key other ho).1, heq]
  unfold Restart.restoreRow
  dsimp only
  split
  · exact hins restored rfl hres
  · rename_i current hcur
    split_ifs with hid hlt
    · exact hins _ rfl
        (joined_good h hres hid ((hload _ _ hcur).2.imp_right And.left))
    · intro key flow hfl
      have hkey := (hload key flow hfl).1
      grind
    · exact hins restored rfl hres

theorem Loading.restoreRows (h : Tracks ∅ db l) {rows : List ActiveFlow}
    (hrs : ∀ flow ∈ rows, Good l flow) (hload : Loading db l now (rows.map (·.sessionId)) active) :
    Loading db l now [] (rows.foldl Restart.restoreRow active) := by
  induction rows generalizing active with
  | nil => exact hload
  | cons restored rows ih =>
    exact ih (fun flow hfl => hrs flow (List.mem_cons_of_mem _ hfl))
      (hload.restoreRow h (hrs restored List.mem_cons_self))

theorem Tracks.load (h : Tracks ∅ db l) (scan : Scan) : Tracks (loadActiveFlows scan now db) db l := by
  have hrs : ∀ flow ∈ (scan.order (select (fun _ row => isRecent now row)
      db.rollupSessions)).map (·.2.recovered), Good l flow := by
    intro flow hfl
    obtain ⟨row, hrow, rfl⟩ := List.mem_map.1 hfl
    obtain ⟨hl, _⟩ := mem_select.1 ((scan.perm _).mem_iff.1 hrow)
    obtain ⟨hcur, hheard⟩ := h.ledger row.1 row.2 hl
    have hid : row.2.recovered.sessionId = row.1 := hcur.sessionId
    exact ⟨hcur.recovered, hid.symm ▸ hheard⟩
  have hfst : Loading db l now (((scan.order (select (fun _ row => isRecent now row)
      db.rollupSessions)).map (·.2.recovered)).map (·.sessionId))
      ((scan.order (select (fun _ row => isResumable now row) db.flowSessions)).foldl
        (fun active row => active.insert row.1.key (Restart.resumed row.1 row.2)) ∅) := by
    refine List.foldlRecOn _ _
      (fun _ _ hfl => by cases hfl) fun active hload row hrow key flow hfl => ?_
    rw [lookup_insert_ite] at hfl
    split_ifs at hfl with hkey
    · cases hfl
      obtain ⟨hl, hresu⟩ := mem_select.1 ((scan.perm _).mem_iff.1 hrow)
      refine ⟨hkey.symm, (h.resumed hl hresu).imp_right fun hp => ⟨hp, ?_⟩⟩
      obtain ⟨id, row', ss, heq, _, hs, hrecent⟩ := hp
      have hid : row.1 = id := congrArg ActiveFlow.sessionId heq
      refine List.mem_map.2 ⟨ss.recovered, List.mem_map.2 ⟨(id, ss), ?_, rfl⟩, ?_⟩
      · exact (scan.perm _).mem_iff.2 (mem_select.2 ⟨hs, hrecent⟩)
      · exact (h.ledger id ss hs).1.sessionId.trans hid.symm
    · exact hload key flow hfl
  have hload := Loading.restoreRows h hrs hfst
  refine ⟨fun key flow hfl => ?_, h.ledger, h.stored, fun id _ => h.settled id fun flow hfl => by
    cases hfl⟩
  obtain ⟨hkey, hgd | ⟨_, hnever⟩⟩ := hload key flow hfl
  · exact ⟨hkey, hgd⟩
  · cases hnever

theorem Tracks.restart (h : Tracks active db l)
    (hact : anyRow (fun _ flow => !recoverable db flow) active = false) : Tracks ∅ db l := by
  refine h.deleteCached (fun _ _ hfl => by cases hfl) fun key flow hfl _ => ?_
  have hrecov : recoverable db flow = true := by
    by_contra hnot
    have hlost := (@anyRow_eq_true _ _ _ (fun _ flow => !recoverable db flow)).2
      ⟨key, flow, hfl, by simpa using hnot⟩
    rw [hact] at hlost
    cases hlost
  obtain ⟨_, hcur, _⟩ := h.cached key flow hfl
  simp only [recoverable, Bool.or_eq_true, decide_eq_true_eq, Option.any_eq_true,
    Option.isNone_iff_eq_none] at hrecov
  rcases hrecov with (hunseen | ⟨row, hrow, hop⟩) | ⟨row, hrow, hvol⟩
  · refine .inr (.inr ?_)
    by_contra hcar
    rw [Bool.not_eq_false] at hcar
    exact absurd (hcur.seen.1 hcar) (not_lt.2 hunseen)
  · exact .inl ⟨row, hrow, hop⟩
  · exact .inr (.inl ⟨row, hrow, hvol.trans hcur.volume⟩)

/-! ### Applying a delta -/

section Apply

variable {batch : TelemetryBatch} {now : ℤ} {st : BatchState}
  {delta : FlowDelta × FlowAttribution}

/-- The flow of a delta before the delta is added. -/
structure Opened (l : List Applied) (receivedAt : ℤ) (delta : FlowDelta) (flow : ActiveFlow) :
    Prop where
  volume : flowVolume flow = volume l flow.sessionId
  seen : carried l flow.sessionId = true → 0 < flow.lastSeenAt
  carried : 0 < flow.lastSeenAt → carried l flow.sessionId = true ∨ flowHasTraffic delta = true
  received : flow.lastReceivedAt ≤ receivedAt

theorem deltaVolume_eq_zero {flow : FlowDelta} (h : flowHasTraffic flow = false) :
    deltaVolume flow = 0 := by
  unfold flowHasTraffic at h
  simp only [Bool.or_eq_false_iff, decide_eq_false_iff_not, not_lt, Nat.le_zero] at h
  obtain ⟨⟨hup, hdown⟩, hpkt⟩ := h
  unfold deltaVolume
  rw [hup, hdown, hpkt]
  rfl

theorem volume_eq_zero (h : carried l id = false) : volume l id = 0 := by
  refine List.sum_eq_zero fun v hv => ?_
  obtain ⟨a, ha, rfl⟩ := List.mem_map.1 hv
  unfold carried at h
  grind [deltaVolume_eq_zero]

theorem opened_restore (h : Tracks active db l) {flow : FlowDelta} {cur : ActiveFlow}
    (hca : active.lookup cur.sessionId.key = none) (hvol : flowVolume cur = 0)
    (hsn : 0 < cur.lastSeenAt → flowHasTraffic flow = true) (hrcv : cur.lastReceivedAt ≤ now) :
    Opened l now flow (restore db cur) ∧
      (restore db cur).sessionId = cur.sessionId := by
  have hset := h.settled cur.sessionId fun other ho => by
    rw [hca] at ho
    cases ho
  unfold restore
  cases hrow : db.rollupSessions.lookup cur.sessionId with
  | some row =>
    obtain ⟨hrow, _⟩ := h.ledger _ row hrow
    have hnonneg := volume_nonneg l cur.sessionId
    rw [← hrow.volume] at hnonneg
    refine ⟨⟨?_, fun hcar => ?_, fun hpos => ?_, hrcv⟩, rfl⟩
    · refine Eq.trans ?_ hrow.volume
      have hup : cur.uploadBytes = 0 := congrArg Prod.fst hvol
      have hdown : cur.downloadBytes = 0 := congrArg (·.2.1) hvol
      have hpkt : cur.packets = 0 := congrArg (·.2.2) hvol
      rw [hup, hdown, hpkt]
      exact Prod.ext (max_eq_right hnonneg.1)
        (Prod.ext (max_eq_right hnonneg.2.1) (max_eq_right hnonneg.2.2))
    · exact lt_max_of_lt_right (hrow.seen.1 hcar)
    · rcases lt_max_iff.1 hpos with hnew | hold
      · exact .inr (hsn hnew)
      · exact .inl (hrow.seen.2 hold)
  | none =>
    cases hsto : db.flowSessions.lookup cur.sessionId with
    | some row =>
      have hbeh := h.stored _ row hsto
      refine ⟨⟨?_, fun _ => lt_max_of_lt_right hbeh.seen, fun _ => .inl hbeh.carried,
        hrcv⟩, rfl⟩
      rcases hset with ⟨ss, hs, _⟩ | ⟨row', hrow', hvol⟩ | hcar
      · grind
      · rw [hsto] at hrow'
        cases hrow'
        exact hvol
      · rw [hbeh.carried] at hcar
        cases hcar
    | none =>
      have hcar : carried l cur.sessionId = false := by
        rcases hset with ⟨ss, hs, _⟩ | ⟨row', hrow', _⟩ | hcar
        · grind
        · rw [hsto] at hrow'
          cases hrow'
        · exact hcar
      refine ⟨⟨hvol.trans (volume_eq_zero hcar).symm, fun htrue => ?_,
        fun hpos => .inr (hsn hpos), hrcv⟩, rfl⟩
      rw [hcar] at htrue
      cases htrue

theorem opened_openFlow (h : Tracks st.active st.db l) (hrcpt : ∀ a ∈ l, a.receivedAt ≤ now) :
    Opened l now delta.1 (openFlow batch delta.1 now st) ∧
      (openFlow batch delta.1 now st).sessionId.key =
        FlowKey.fromBatch batch.gatewayId delta.1 := by
  unfold openFlow
  dsimp only
  cases hca : st.active.lookup (FlowKey.fromBatch batch.gatewayId delta.1) with
  | some cur =>
    obtain ⟨hkey, hcur, a, ha, _, hle⟩ := h.cached _ cur hca
    exact ⟨⟨hcur.volume, hcur.seen.1, fun hpos => .inl (hcur.seen.2 hpos),
      hle.trans (hrcpt a ha)⟩, hkey⟩
  | none =>
    have hres : Opened l now delta.1 (restore st.db (ActiveFlow.new
        (FlowKey.fromBatch batch.gatewayId delta.1) delta.1 .unknown now)) ∧ _ :=
      opened_restore h hca rfl (fun hpos => by
        by_contra htr
        unfold ActiveFlow.new at hpos
        dsimp only at hpos
        rw [if_neg htr] at hpos
        exact lt_irrefl 0 hpos) le_rfl
    exact ⟨hres.1, congrArg SessionId.key hres.2⟩

theorem flowVolume_add {flow : ActiveFlow} {delta : FlowDelta} (attr : FlowAttribution)
    (hnonneg : 0 ≤ flowVolume flow)
    (hfits : flowVolume flow + deltaVolume delta ≤ (i64Max, i64Max, i64Max)) :
    flowVolume (flow.add delta attr now) = flowVolume flow + deltaVolume delta := by
  have hone : ∀ (a : ℤ) (b : ℕ), 0 ≤ a → a + b ≤ i64Max → saturatingAdd a (toI64 b) = a + b := by
    grind [saturatingAdd, toI64]
  obtain ⟨hup, hdown, hpkt⟩ := hnonneg
  obtain ⟨hupload', hdownload', hpackets'⟩ := hfits
  exact Prod.ext (hone _ _ hup hupload') (Prod.ext (hone _ _ hdown hdownload')
    (hone _ _ hpkt hpackets'))

theorem current_currentFlow (hop : Opened l now delta.1 (openFlow batch delta.1 now st))
    (ha : a = ⟨(openFlow batch delta.1 now st).sessionId, delta.1, now⟩)
    (hfits : volume (l ++ [a]) a.session ≤ (i64Max, i64Max, i64Max))
    (hca : flowHasTraffic delta.1 = true → delta.1.lastSeenUnixMs ≠ 0) :
    Current (l ++ [a]) a.session (currentFlow batch now st delta) := by
  subst ha
  rw [volume_concat, if_pos rfl, ← hop.volume] at hfits
  refine ⟨rfl, ?_, ?_⟩
  · rw [volume_concat, if_pos rfl, ← hop.volume]
    refine @flowVolume_add now _ _ delta.2 ?_ hfits
    rw [hop.volume]
    exact volume_nonneg _ _
  · rw [carried_concat, decide_eq_true rfl, Bool.or_eq_true]
    show _ ↔ 0 < if flowHasTraffic delta.1 then
      max (openFlow batch delta.1 now st).lastSeenAt (toI64 delta.1.lastSeenUnixMs)
      else (openFlow batch delta.1 now st).lastSeenAt
    cases htr : flowHasTraffic delta.1 with
    | false =>
      have hcar := hop.carried
      rw [htr] at hcar
      exact ⟨fun h => hop.seen (h.resolve_right Bool.false_ne_true), hcar⟩
    | true =>
      refine ⟨fun _ => ?_, fun _ => .inr rfl⟩
      refine lt_max_of_lt_right ?_
      have hsn := hca htr
      unfold toI64 i64Max
      omega

/-! ### What a delta keeps -/

theorem carried_append (h : carried l id = true) : carried (l ++ l') id = true := by
  unfold carried at h ⊢
  rw [List.any_append, h, Bool.true_or]

theorem Current.concat_other (h : Current l id flow) (hne : id ≠ a.session) :
    Current (l ++ [a]) id flow := by
  refine ⟨h.sessionId, ?_, ?_⟩
  · rw [volume_concat, if_neg hne.symm, add_zero]
    exact h.volume
  · rw [carried_concat, decide_eq_false hne.symm, Bool.false_and, Bool.or_false]
    exact h.seen

theorem Stored.concat_other (h : Stored db l id) (hne : id ≠ a.session)
    (hs : db'.flowSessions.lookup id = db.flowSessions.lookup id) : Stored db' (l ++ [a]) id := by
  obtain ⟨row, hrow, hvol⟩ := h
  refine ⟨row, hs.trans hrow, ?_⟩
  rw [volume_concat, if_neg hne.symm, add_zero]
  exact hvol

theorem Current.checkpointed (h : Current l id flow) (delta : FlowDelta) :
    Current l id (checkpointed delta flow now) := by
  unfold Batch.checkpointed
  split_ifs
  · exact { h with }
  · exact h

theorem lastReceivedAt_checkpointed (delta : FlowDelta) :
    (checkpointed delta flow now).lastReceivedAt = flow.lastReceivedAt := by
  unfold checkpointed
  split_ifs <;> rfl

theorem stored_updateActiveFlow (batch : TelemetryBatch) (now : ℤ) (st : BatchState)
    (delta : FlowDelta × FlowAttribution) :
    (updateActiveFlow batch now st delta).db.flowSessions.lookup
        (openFlow batch delta.1 now st).sessionId =
          st.db.flowSessions.lookup (openFlow batch delta.1 now st).sessionId ∧
        (isEnded delta.1 = true →
          ¬ 0 < (currentFlow batch now st delta).lastSeenAt) ∨
      0 < (currentFlow batch now st delta).lastSeenAt ∧
      ∃ row, (updateActiveFlow batch now st delta).db.flowSessions.lookup
          (openFlow batch delta.1 now st).sessionId = some row ∧
        storedVolume row = flowVolume (currentFlow batch now st delta) ∧
        row.lastSeenAt = (currentFlow batch now st delta).lastSeenAt ∧
        row.checkpointedAt = now := by
  rw [flowSessions_updateActiveFlow]
  by_cases hwrite : ((isEnded delta.1 ||
      checkpointDue (currentFlow batch now st delta) now) &&
        decide (0 < (currentFlow batch now st delta).lastSeenAt)) = true
  · rw [if_pos hwrite]
    obtain ⟨row, hrow, hvol, hsn, hchk, _⟩ :=
      writeFlowSession_own _ now
    exact .inr ⟨of_decide_eq_true (Bool.and_eq_true_iff.1 hwrite).2, row, hrow, hvol, hsn,
      hchk⟩
  · rw [if_neg hwrite]
    refine .inl ⟨rfl, fun hend hpos => hwrite ?_⟩
    rw [hend, Bool.true_or]
    exact decide_eq_true hpos

/-- **A delta is tracked.** -/
theorem Tracks.updateActiveFlow {a : Applied} (h : Tracks st.active st.db l)
    (hrcpt : ∀ a ∈ l, a.receivedAt ≤ now)
    (ha : a = ⟨(openFlow batch delta.1 now st).sessionId, delta.1, now⟩)
    (hfits : volume (l ++ [a]) a.session ≤ (i64Max, i64Max, i64Max))
    (hca : flowHasTraffic delta.1 = true → delta.1.lastSeenUnixMs ≠ 0) :
    Tracks (updateActiveFlow batch now st delta).active
      (updateActiveFlow batch now st delta).db (l ++ [a]) := by
  obtain ⟨hopened, hkey⟩ := @opened_openFlow l batch now st delta h hrcpt
  have hcur := current_currentFlow hopened ha hfits hca
  have hs : a.session = (openFlow batch delta.1 now st).sessionId :=
    congrArg Applied.session ha
  have hheard : Heard (l ++ [a]) a.session now :=
    ⟨a, List.mem_append_right _ (List.mem_singleton_self a), rfl, by rw [ha]⟩
  have hup : ∀ row, st.db.rollupSessions.lookup
      (openFlow batch delta.1 now st).sessionId = some row → row.updatedAt ≤ now := by
    intro row hrow
    obtain ⟨_, other, ho, _, hle⟩ := h.ledger _ row hrow
    exact hle.trans (hrcpt other ho)
  obtain ⟨own, hown, hownFlow, hownUpdated⟩ := @lookup_ledger_own batch now st delta
  have hownUpdated := hownUpdated hup
  have hsto := stored_updateActiveFlow batch now st delta
  have ho := fun id => @lookup_stored_other batch now st delta id
  have hled := fun id => @lookup_ledger_other batch now st delta id
  rw [← hs] at hkey hown ho hled hsto
  refine ⟨fun key flow hfl => ?_, fun id row hrow => ?_, fun id row hrow => ?_,
    fun id hid => ?_⟩
  · rw [lookup_updateActiveFlow] at hfl
    by_cases hks : key = FlowKey.fromBatch batch.gatewayId delta.1
    · rw [flowAfter_eq] at hfl
      split_ifs at hfl with hend
      cases hfl
      have haf := @Current.checkpointed _ _ _ now hcur delta.1
      rw [haf.sessionId, lastReceivedAt_checkpointed, hks]
      refine ⟨hkey, haf, a, List.mem_append_right _ (List.mem_singleton_self a), rfl, ?_⟩
      rw [ha]
      exact max_le hopened.received le_rfl
    · rw [if_neg hks] at hfl
      obtain ⟨hflowKey, hflowCurrent, hflowHeard⟩ := h.cached key flow hfl
      have hne : flow.sessionId ≠ a.session := fun heq => hks (by rw [← hflowKey, heq, hkey])
      exact ⟨hflowKey, hflowCurrent.concat_other hne, hflowHeard.append _⟩
  · by_cases hid : id = a.session
    · grind
    · rw [hled id hid] at hrow
      obtain ⟨hold, hheard⟩ := h.ledger id row hrow
      exact ⟨hold.concat_other hid, hheard.append _⟩
  · by_cases hid : id = a.session
    · subst hid
      have hledgerOwn : ∀ ss, (Batch.updateActiveFlow batch now st
          delta).db.rollupSessions.lookup a.session = some ss →
            ss.updatedAt = now := by
        intro ss hl
        rw [hown, Option.some_inj] at hl
        rw [← hl, hownUpdated]
      rcases hsto with ⟨hsm, _⟩ | ⟨hpos, row', hrow', hvol, hsn, hchk⟩
      · rw [hsm] at hrow
        have hbeh := h.stored _ row hrow
        refine ⟨carried_append hbeh.carried, hbeh.seen,
          hbeh.volume.trans (volume_le_append), fun hop => (hbeh.heard hop).append _,
          fun hop ss hl => ?_⟩
        obtain ⟨other, hmem, _, hle⟩ := hbeh.heard hop
        grind
      · rw [hrow', Option.some_inj] at hrow
        subst hrow
        refine ⟨hcur.seen.2 hpos, hsn ▸ hpos, (hvol.trans hcur.volume).le,
          fun _ => hchk ▸ hheard, fun _ ss hl => ?_⟩
        rw [hledgerOwn ss hl, hchk]
    · rw [ho id hid] at hrow
      have hbeh := h.stored id row hrow
      refine ⟨carried_append hbeh.carried, hbeh.seen,
        hbeh.volume.trans (volume_le_append), fun hop => (hbeh.heard hop).append _,
        fun hop ss hl => hbeh.ledger hop ss (hled id hid ▸ hl)⟩
  · by_cases hsm : id = a.session
    · -- the flow left memory, so it has ended and was written
      subst hsm
      have hend : isEnded delta.1 = true := by
        by_contra hnot
        refine hid (Batch.checkpointed delta.1 (currentFlow batch now st delta) now) ?_
          (hcur.checkpointed delta.1).sessionId
        rw [lookup_updateActiveFlow, if_pos hkey, flowAfter_eq, if_neg hnot]
      rcases hsto with ⟨_, hunseen⟩ | ⟨_, row, hrow, hvol, _⟩
      · refine .inr (.inr ?_)
        rw [← Bool.not_eq_true, hcur.seen]
        exact hunseen hend
      · exact .inr (.inl ⟨row, hrow, hvol.trans hcur.volume⟩)
    · have hbef : ∀ flow, st.active.lookup id.key = some flow → flow.sessionId ≠ id := by
        grind [lookup_updateActiveFlow, openFlow]
      rcases h.settled id hbef with ⟨row, hrow, hop⟩ | hk | hnever
      · exact .inl ⟨row, (hled id hsm).trans hrow, hop⟩
      · exact .inr (.inl (hk.concat_other hsm (ho id hsm)))
      · refine .inr (.inr ?_)
        rw [carried_concat, hnever, decide_eq_false (Ne.symm hsm)]
        rfl

theorem appliedIn_receivedAt (deltas : List (FlowDelta × FlowAttribution)) (st : BatchState) :
    ∀ a ∈ appliedIn batch now st deltas, a.receivedAt = now := by
  induction deltas generalizing st with
  | nil => exact fun a ha => by cases ha
  | cons delta deltas ih =>
    intro a ha
    rcases List.mem_cons.1 ha with rfl | ha
    · rfl
    · exact ih _ a ha

theorem Tracks.deltas {deltas : List (FlowDelta × FlowAttribution)} (h : Tracks st.active st.db l)
    (hrcpt : ∀ a ∈ l, a.receivedAt ≤ now) (hfits : ∀ a ∈ appliedIn batch now st deltas,
      volume (l ++ appliedIn batch now st deltas) a.session ≤ (i64Max, i64Max, i64Max))
    (hca : ∀ delta ∈ deltas, flowHasTraffic delta.1 = true → delta.1.lastSeenUnixMs ≠ 0) :
    Tracks (deltas.foldl (Batch.updateActiveFlow batch now) st).active
      (deltas.foldl (Batch.updateActiveFlow batch now) st).db
      (l ++ appliedIn batch now st deltas) := by
  induction deltas generalizing st l with
  | nil =>
    rw [appliedIn, List.append_nil]
    exact h
  | cons delta deltas ih =>
    rw [appliedIn, List.append_cons] at hfits ⊢
    have hfst := h.updateActiveFlow hrcpt rfl
      ((volume_le_append).trans (hfits _ List.mem_cons_self))
      (hca delta List.mem_cons_self)
    grind

end Apply

/-! ### Operations -/

theorem Tracks.congr (h : Tracks active db l) (hact : ∀ key, active'.lookup key = active.lookup key)
    (hled : db'.rollupSessions = db.rollupSessions)
    (hflowSessions : db'.flowSessions = db.flowSessions) : Tracks active' db' l where
  cached key flow hfl := h.cached key flow (hact key ▸ hfl)
  ledger id row hrow := h.ledger id row (hled ▸ hrow)
  stored id row hrow := (h.stored id row (hflowSessions ▸ hrow)).of_subset fun ss hs =>
    hled ▸ hs
  settled id hid := by
    have hset := h.settled id fun flow hfl => hid flow (hact _ ▸ hfl)
    grind [Settled, Stored]

theorem Tracks.persist (batch : TelemetryBatch) (attrs : List FlowAttribution) (nowMs : ℕ)
    (h : Tracks storage.activeFlows storage.database l)
    (hrcpt : ∀ a ∈ l, a.receivedAt ≤ toI64 nowMs)
    (hfits : NoSaturation (l ++ applied storage (.persist batch attrs nowMs)))
    (hca : careful storage (.persist batch attrs nowMs) = true) :
    Tracks (persistClassifiedBatch batch attrs nowMs storage).2.activeFlows
      (persistClassifiedBatch batch attrs nowMs storage).2.database
      (l ++ applied storage (.persist batch attrs nowMs)) := by
  unfold applied at hfits ⊢
  dsimp only at hfits ⊢
  rcases accepted_cases nowMs storage with
    ⟨hdup, hstore⟩ | ⟨hacc, hact, hdb⟩
  · rw [hdup, hstore, if_neg (by decide), List.append_nil]
    exact h
  · rw [hacc] at hfits ⊢
    have hfst : Tracks (BatchState.active ⟨storage.activeFlows, ∅, .new,
        admitted batch (toI64 nowMs) storage.database⟩) (BatchState.db
          ⟨storage.activeFlows, ∅, .new, admitted batch (toI64 nowMs) storage.database⟩) l :=
      h.congr (fun _ => rfl) rfl rfl
    have hdeltas := hfst.deltas hrcpt
      (fun a ha => hfits a (List.mem_append_right _ ha)) fun delta hd htr => ?_
    · refine hdeltas.congr hact ?_ ?_
      · rw [hdb]
        rfl
      · rw [hdb]
        rfl
    · obtain ⟨⟨flow, index⟩, hfl, rfl⟩ := List.mem_map.1 hd
      have hall := List.all_eq_true.1 hca flow (List.fst_mem_of_mem_zipIdx hfl)
      rw [htr] at hall
      exact of_decide_eq_true hall

variable {op : SessionOp}

theorem Tracks.step (h : Tracks storage.activeFlows storage.database l)
    (hrcpt : ∀ receivedAtMs ∈ receipts [op], ∀ a ∈ l, a.receivedAt ≤ toI64 receivedAtMs)
    (hfits : NoSaturation (l ++ applied storage op)) (hca : careful storage op = true) :
    Tracks (sessionStep storage op).activeFlows (sessionStep storage op).database
      (l ++ applied storage op) := by
  cases op with
  | persist batch attrs receivedAtMs =>
    exact h.persist batch attrs receivedAtMs (hrcpt _ (List.mem_singleton_self _)) hfits
      hca
  | prune nowMs =>
    rw [applied, List.append_nil]
    exact (h.pruneReclassification nowMs).1
  | restart scan turns nowMs =>
    rw [applied, List.append_nil]
    obtain ⟨hact, hslices⟩ := Bool.and_eq_true_iff.1 hca
    rw [Bool.not_eq_true'] at hact
    exact ((h.restart hact).startup hslices).1.load scan

/-! ### Runs are tracked -/

theorem toI64_mono {m n : ℕ} (h : m ≤ n) : toI64 m ≤ toI64 n := by
  unfold toI64
  omega

theorem receipts_cons : receipts (op :: ops) = receipts [op] ++ receipts ops := by
  unfold receipts
  rw [← List.filterMap_append]
  rfl

theorem applied_receivedAt :
    ∀ a ∈ applied storage op, ∃ receivedAtMs ∈ receipts [op], a.receivedAt = toI64 receivedAtMs := by
  intro a ha
  cases op with
  | persist batch attrs receivedAtMs =>
    refine ⟨receivedAtMs, List.mem_singleton_self _, ?_⟩
    grind [applied, appliedIn_receivedAt]
  | prune nowMs => cases ha
  | restart scan turns nowMs => cases ha

theorem NoSaturation.of_append (h : NoSaturation (l ++ l')) : NoSaturation l := fun a ha =>
  (volume_le_append).trans (h a (List.mem_append_left _ ha))

/-- The hypotheses of a run that goes on after what was applied before. -/
structure Continues (l : List Applied) (storage : SqliteStorage) (ops : List SessionOp) : Prop where
  later : ∀ receivedAtMs ∈ receipts ops, ∀ a ∈ l, a.receivedAt ≤ toI64 receivedAtMs
  sorted : (receipts ops).Pairwise (· ≤ ·)
  fits : NoSaturation (l ++ appliedAll storage ops)
  careful : allCareful storage ops = true

theorem Continues.tail (h : Continues l storage (op :: ops)) :
    Continues (l ++ applied storage op) (sessionStep storage op) ops := by
  have hso := h.sorted
  have hlt := h.later
  rw [receipts_cons] at hso hlt
  obtain ⟨_, hso, hcross⟩ := List.pairwise_append.1 hso
  refine ⟨fun nowMs hreceipt a ha => ?_, hso, ?_, (Bool.and_eq_true_iff.1 h.careful).2⟩
  · rcases List.mem_append.1 ha with ha | ha
    · simp_all
    · obtain ⟨receivedAtMs', hmem, heq⟩ := applied_receivedAt a ha
      rw [heq]
      exact toI64_mono (hcross _ hmem _ hreceipt)
  · have hfits := h.fits
    rwa [appliedAll, ← List.append_assoc] at hfits

theorem Tracks.head (h : Tracks storage.activeFlows storage.database l)
    (hru : Continues l storage (op :: ops)) :
    Tracks (sessionStep storage op).activeFlows (sessionStep storage op).database
      (l ++ applied storage op) := by
  refine h.step (fun nowMs hreceipt => hru.later nowMs ?_) ?_
    (Bool.and_eq_true_iff.1 hru.careful).1
  · grind [receipts_cons]
  · have hfits := hru.fits
    rw [appliedAll, ← List.append_assoc] at hfits
    exact hfits.of_append

/-- The first part of a run is tracked, and the run goes on after it. -/
theorem Tracks.run {rest : List SessionOp} (h : Tracks storage.activeFlows storage.database l)
    (hru : Continues l storage (ops ++ rest)) :
    Tracks (ops.foldl sessionStep storage).activeFlows (ops.foldl sessionStep storage).database
        (l ++ appliedAll storage ops) ∧
      Continues (l ++ appliedAll storage ops) (ops.foldl sessionStep storage) rest := by
  induction ops generalizing storage l with
  | nil =>
    rw [appliedAll, List.append_nil]
    exact ⟨h, hru⟩
  | cons op ops ih =>
    rw [appliedAll, ← List.append_assoc]
    exact ih (h.head hru) hru.tail

/-! ### Stored totals stay -/

theorem volume_append_other (h : ∀ a ∈ l', a.session ≠ id) : volume (l ++ l') id = volume l id := by
  have hfilter : l'.filter (fun a => a.session = id) = [] :=
    List.filter_eq_nil_iff.2 fun a ha => by simpa using h a ha
  grind [volume]

theorem flowSessions_deltas {batch : TelemetryBatch} {now : ℤ}
    {deltas : List (FlowDelta × FlowAttribution)} {st : BatchState}
    (h : ∀ a ∈ appliedIn batch now st deltas, a.session ≠ id) :
    (deltas.foldl (Batch.updateActiveFlow batch now) st).db.flowSessions.lookup id =
      st.db.flowSessions.lookup id := by
  induction deltas generalizing st with
  | nil => rfl
  | cons delta deltas ih =>
    rw [List.foldl_cons, ih fun a ha => h a (List.mem_cons_of_mem _ ha)]
    exact lookup_stored_other (h _ List.mem_cons_self).symm

theorem Stored.step (hsto : Stored storage.database l id)
    (h : Tracks storage.activeFlows storage.database l) (hca : careful storage op = true)
    (ho : ∀ a ∈ applied storage op, a.session ≠ id) :
    Stored (sessionStep storage op).database (l ++ applied storage op) id := by
  cases op with
  | persist batch attrs receivedAtMs =>
    obtain ⟨row, hrow, hvol⟩ := hsto
    refine ⟨row, Eq.trans ?_ hrow, hvol.trans (volume_append_other ho).symm⟩
    rcases accepted_cases receivedAtMs storage with
      ⟨_, hstore⟩ | ⟨hacc, _, hdb⟩
    · rw [sessionStep, hstore]
    · rw [applied, if_pos hacc] at ho
      rw [sessionStep, hdb]
      exact flowSessions_deltas ho
  | prune nowMs =>
    rw [applied, List.append_nil]
    exact (h.pruneReclassification nowMs).2 id hsto
  | restart scan turns nowMs =>
    rw [applied, List.append_nil]
    obtain ⟨hact, hslices⟩ := Bool.and_eq_true_iff.1 hca
    rw [Bool.not_eq_true'] at hact
    exact ((h.restart hact).startup hslices).2 id hsto

theorem Stored.run (hsto : Stored storage.database l id)
    (h : Tracks storage.activeFlows storage.database l) (hru : Continues l storage ops)
    (ho : ∀ a ∈ appliedAll storage ops, a.session ≠ id) :
    Stored (ops.foldl sessionStep storage).database (l ++ appliedAll storage ops) id := by
  induction ops generalizing storage l with
  | nil =>
    rw [appliedAll, List.append_nil]
    exact hsto
  | cons op ops ih =>
    rw [appliedAll, ← List.append_assoc]
    exact ih (hsto.step h (Bool.and_eq_true_iff.1 hru.careful).1 fun a ha =>
        ho a (List.mem_append_left _ ha)) (h.head hru) hru.tail
      fun a ha => ho a (List.mem_append_right _ ha)

/-- A prune after the correction window leaves a session only in its stored row. -/
theorem Tracks.stored_of_prune (h : Tracks storage.activeFlows storage.database l)
    (hcar : carried l id = true)
    (hla : ∀ a ∈ l, a.session = id → a.receivedAt + activeFlowTtlMs < toI64 nowMs) :
    Stored (Operations.pruneReclassification nowMs storage).database l id := by
  have hheard : ∀ time, Heard l id time → time ≤ toI64 nowMs - activeFlowTtlMs := by
    rintro time ⟨a, ha, hid, hle⟩
    have hbef := hla a ha hid
    omega
  have hca : ∀ flow, (Operations.pruneReclassification nowMs storage).activeFlows.lookup
      id.key = some flow → flow.sessionId ≠ id := by
    intro flow hfl hid
    unfold Operations.pruneReclassification at hfl
    rw [lookup_deleteWhere, Option.filter_eq_some_iff] at hfl
    have hrcv := hheard _ (hid ▸ (h.cached _ flow hfl.1).2.2)
    have hsilent : isSilent (toI64 nowMs) flow = true := decide_eq_true hrcv
    rw [hsilent] at hfl
    exact absurd hfl.2 (by decide)
  rcases (h.pruneReclassification nowMs).1.settled id hca with
    ⟨row, hrow, _⟩ | hsto | hnever
  · have hled : (Operations.pruneReclassification nowMs storage).database.rollupSessions =
        deleteWhere (fun _ row => isOver (toI64 nowMs) row) storage.database.rollupSessions := by
      unfold Operations.pruneReclassification pruneFlowState Ledger.prune
      dsimp only
      rw [rollupSessions_closeFlows, rollupSessions_closeFlows]
    rw [hled, lookup_deleteWhere, Option.filter_eq_some_iff] at hrow
    have hup := hheard _ (h.ledger id row hrow.1).2
    have hov : isOver (toI64 nowMs) row = true := by
      unfold isOver
      rw [Bool.or_eq_true]
      exact .inr (decide_eq_true hup)
    rw [hov] at hrow
    exact absurd hrow.2 (by decide)
  · exact hsto
  · rw [hcar] at hnever
    cases hnever

end Tracking

theorem appliedAll_append (ops' : List SessionOp) :
    appliedAll storage (ops ++ ops') =
      appliedAll storage ops ++ appliedAll (ops.foldl sessionStep storage) ops' := by
  induction ops generalizing storage with
  | nil => rfl
  | cons op ops ih =>
    rw [List.cons_append, appliedAll, appliedAll, ih, List.append_assoc]
    rfl

theorem tracks_empty : Tracks SqliteStorage.empty.activeFlows SqliteStorage.empty.database [] where
  cached _ _ hfl := by cases hfl
  ledger _ _ hrow := by cases hrow
  stored _ _ hrow := by cases hrow
  settled _ _ := .inr (.inr rfl)

/-- **Session totals survive.** In a run whose steps are all careful, a session that carried traffic
and was pruned thirty minutes after its last delta is stored with the sums of its deltas, also those
that came after its end, whatever the run does before and after. -/
theorem session_totals_survive (before after : List SessionOp) (nowMs : ℕ) (id : SessionId)
    (hreceipts : (receipts (before ++ .prune nowMs :: after)).Pairwise (· ≤ ·))
    (hfits : NoSaturation (appliedAll .empty (before ++ .prune nowMs :: after)))
    (hcareful : allCareful .empty (before ++ .prune nowMs :: after) = true)
    (hcarried : carried (appliedAll .empty before) id = true)
    (hlast : ∀ a ∈ appliedAll .empty before, a.session = id →
      a.receivedAt + activeFlowTtlMs < toI64 nowMs)
    (hafter : ∀ a ∈ appliedAll (sessionRun (before ++ [.prune nowMs])) after, a.session ≠ id) :
    ∃ row, (sessionRun (before ++ .prune nowMs :: after)).database.flowSessions.lookup id =
        some row ∧
      storedVolume row = volume (appliedAll .empty (before ++ .prune nowMs :: after)) id := by
  have hall : Continues [] .empty (before ++ .prune nowMs :: after) :=
    ⟨fun _ _ _ ha => (by cases ha), hreceipts, hfits, hcareful⟩
  obtain ⟨htracks, hrest⟩ := tracks_empty.run hall
  have hpruned : Stored (sessionStep (sessionRun before) (.prune nowMs)).database
      (appliedAll .empty before) id := htracks.stored_of_prune hcarried hlast
  have hnext := htracks.head hrest
  have htail := hrest.tail
  rw [applied, List.append_nil] at hnext htail
  rw [sessionRun, List.foldl_append] at hafter
  have hstored := hpruned.run hnext htail hafter
  rw [sessionRun, List.foldl_append, appliedAll_append]
  exact hstored

/-! ### A late delta -/

/-- A flow ends after ten seconds; one more delta comes ten seconds later. -/
def lateRun : List SessionOp :=
  [.persist (sampleBatch 1 0 1) [] sampleTime,
    .persist (sampleBatch 2 10000 3) [] (sampleTime + 10000),
    .persist (sampleBatch 3 20000 1) [] (sampleTime + 20000)]

def restartAfter (age : ℕ) : SessionOp :=
  .restart .asStored [.committed .asStored true] (sampleTime + age)

def pruneAfter (age : ℕ) : SessionOp := .prune (sampleTime + age)

def sampleSession : SessionId := ⟨FlowKey.fromBatch "gateway" (sampleFlow 0 1), sampleTime⟩

/-- A restart ten seconds after the late delta loses it. -/
theorem late_delta_is_lost :
    let ops := lateRun ++ [restartAfter 30000]
    let history := appliedAll .empty (ops ++ [pruneAfter 2400000])
    (receipts (ops ++ [pruneAfter 2400000])).Pairwise (· ≤ ·) ∧ NoSaturation history ∧
      carried history sampleSession = true ∧
      (history.all fun a => a.session = sampleSession &&
        a.receivedAt + activeFlowTtlMs < toI64 (sampleTime + 2400000)) = true ∧
      volume history sampleSession = (3600, 0, 9) ∧
      ((sessionRun (ops ++ [pruneAfter 2400000])).database.flowSessions.lookup
        sampleSession).map storedVolume = some (2400, 0, 6) := by
  decide +kernel

/-- With a restart before the end of the flow nothing is lost, and a later restart changes
nothing. -/
theorem late_delta_is_stored :
    let before := restartAfter 0 :: .persist (sampleBatch 1 0 1) [] sampleTime ::
      restartAfter 5000 :: lateRun.tail
    let ops := before ++ pruneAfter 2400000 :: [restartAfter 2500000]
    (receipts ops).Pairwise (· ≤ ·) ∧ NoSaturation (appliedAll .empty ops) ∧
      allCareful .empty ops = true ∧ carried (appliedAll .empty before) sampleSession = true ∧
      volume (appliedAll .empty ops) sampleSession = (3600, 0, 9) ∧
      ∃ row, (sessionRun ops).database.flowSessions.lookup sampleSession = some row ∧
        storedVolume row = volume (appliedAll .empty ops) sampleSession := by
  intro before ops
  have hreceipts : (receipts ops).Pairwise (· ≤ ·) := by decide +kernel
  have hfits : NoSaturation (appliedAll .empty ops) := by decide +kernel
  have hcareful : allCareful .empty ops = true := by decide +kernel
  have hcarried : carried (appliedAll .empty before) sampleSession = true := by decide +kernel
  have hlast : ((appliedAll .empty before).all fun a =>
      a.receivedAt + activeFlowTtlMs < toI64 (sampleTime + 2400000)) = true := by decide +kernel
  refine ⟨hreceipts, hfits, hcareful, hcarried, by decide +kernel, ?_⟩
  refine session_totals_survive before [restartAfter 2500000] (sampleTime + 2400000) sampleSession
    hreceipts hfits hcareful hcarried (fun a ha _ => ?_) fun a ha => ?_
  · exact of_decide_eq_true (List.all_eq_true.1 hlast a ha)
  · cases ha

end Netqmon.Storage.SessionTotals
