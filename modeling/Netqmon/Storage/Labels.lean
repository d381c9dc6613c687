import Netqmon.Storage.Effects
import Netqmon.Storage.Postings

/-! # Contributions carry the label of their session

A session has its attribution in up to three places: with its flow in memory, in its ledger row and
in its stored session. `Labelled` says that memory and ledger agree, and that every contribution
which can still be corrected or added to has the label of its session. It rests on the clock: a
contribution that has expired or whose session ended long ago keeps its label when the session is
reassigned, and must not come back to life. And it rests on samples finding every flow in memory
whose stored session they find, so flows have one of the directions that samples try. -/

namespace Netqmon.Storage.Labels

open Lib.Keyed Protocol.Telemetry Attribution Schema Ledger Batch Operations Staging Effects
open Frames
open Coverage Postings

/-! ### The invariant -/

/-- The directions that samples try. -/
def isSampled (direction : ℤ) : Bool := direction = 0 || direction = 1 || direction = 2

structure Cached (db : Database) (key : FlowKey) (flow : ActiveFlow) : Prop where
  sessionKey : flow.sessionId.key = key
  direction : isSampled key.direction = true
  startedAt : flow.startedAt = flow.sessionId.startedAt
  formed : Formed flow.attribution
  ledger : ∀ row, db.rollupSessions.lookup flow.sessionId = some row →
    SameIdentity flow.attribution row.flow.attribution ∧ row.flow.lastSeenAt = flow.lastSeenAt
  stored : ∀ row, db.flowSessions.lookup flow.sessionId = some row →
    row.lastSeenAt ≤ flow.lastSeenAt

structure Recorded (db : Database) (id : SessionId) (row : RollupSession) : Prop where
  session : row.flow.sessionId = id
  startedAt : row.flow.startedAt = id.startedAt
  formed : Formed row.flow.attribution
  stored : ∀ stored, db.flowSessions.lookup id = some stored →
    stored.lastSeenAt ≤ row.flow.lastSeenAt

/-- A contribution has the label of its session, or it is past correcting. -/
structure UpToDate (clock : ℤ) (row : RollupSession) (c : Contribution) : Prop where
  expiresAt : c.expiresAt ≤ row.updatedAt + correctionWindowMs
  label : c.label = labelOf row.flow.attribution ∨ c.expiresAt ≤ clock ∨
    ∃ ended, row.endedAt = some ended ∧ ended + endedGraceMs ≤ clock

structure Labelled (clock : ℤ) (active : Rows FlowKey ActiveFlow) (db : Database) : Prop where
  cached : ∀ key flow, active.lookup key = some flow → Cached db key flow
  ledger : ∀ id row, db.rollupSessions.lookup id = some row → Recorded db id row
  stored : ∀ id row, db.flowSessions.lookup id = some row →
    row.startedAt = id.startedAt ∧ Formed row.attribution
  contributions : ∀ key c, db.contributions.lookup key = some c →
    ∃ row, db.rollupSessions.lookup key.session = some row ∧ UpToDate clock row c

variable {clock now : ℤ} {active active' : Rows FlowKey ActiveFlow} {db db' : Database}

theorem labelled_empty : Labelled clock ∅ .empty := by
  refine ⟨fun key flow h => ?_, fun id row h => ?_, fun id row h => ?_, fun key c h => ?_⟩
  all_goals exact absurd h (Option.some_ne_none _).symm

variable {row : RollupSession} {c : Contribution}

theorem UpToDate.later (h : UpToDate clock row c) (hck : clock ≤ now) : UpToDate now row c := by
  refine ⟨h.expiresAt, ?_⟩
  rcases h.label with hlabel | hx | ⟨ended, hend, hgrace⟩
  · exact .inl hlabel
  · exact .inr (.inl (hx.trans hck))
  · exact .inr (.inr ⟨ended, hend, hgrace.trans hck⟩)

section

variable (h : Labelled clock active db)
include h

theorem Labelled.later (hck : clock ≤ now) : Labelled now active db := by
  refine ⟨h.cached, h.ledger, h.stored, fun key c hc => ?_⟩
  obtain ⟨row, hrow, hlabels⟩ := h.contributions key c hc
  exact ⟨row, hrow, hlabels.later hck⟩

/-- **Less is still labelled.** Rows go, and contributions and stored sessions change in what the
invariant does not look at. -/
theorem Labelled.sub
    (hact : ∀ key flow, active'.lookup key = some flow → active.lookup key = some flow)
    (hled : ∀ id row, db'.rollupSessions.lookup id = some row →
      db.rollupSessions.lookup id = some row)
    (hsto : ∀ id row, db'.flowSessions.lookup id = some row →
      ∃ old, db.flowSessions.lookup id = some old ∧ row.startedAt = old.startedAt ∧
        row.lastSeenAt = old.lastSeenAt ∧ row.attribution = old.attribution)
    (hcon : ∀ key c, db'.contributions.lookup key = some c →
      (∃ old, db.contributions.lookup key = some old ∧ c.label = old.label ∧
        c.expiresAt = old.expiresAt) ∧
      ∀ row, db.rollupSessions.lookup key.session = some row →
        db'.rollupSessions.lookup key.session = some row) : Labelled clock active' db' where
  cached key flow hfl := by
    obtain ⟨hkey, hdir, hstartedAt, hform, hca, hsn⟩ :=
      h.cached key flow (hact key flow hfl)
    refine ⟨hkey, hdir, hstartedAt, hform, fun row hrow => hca row (hled _ row hrow),
      fun row hrow => ?_⟩
    grind
  ledger id row hrow := by
    obtain ⟨hs, hstartedAt, hform, hsn⟩ := h.ledger id row (hled id row hrow)
    refine ⟨hs, hstartedAt, hform, fun stored hl => ?_⟩
    grind
  stored id row hrow := by
    obtain ⟨old, hold, hst, _, hattr⟩ := hsto id row hrow
    rw [hst, hattr]
    exact h.stored id old hold
  contributions key c hc := by
    obtain ⟨⟨old, hold, hlabel, hx⟩, hkp⟩ := hcon key c hc
    obtain ⟨row, hrow, hlabels⟩ := h.contributions key old hold
    refine ⟨row, hkp row hrow, ?_, ?_⟩
    · rw [hx]
      exact hlabels.expiresAt
    · rw [hlabel, hx]
      exact hlabels.label

/-- Memory may lose flows, and only three tables matter. -/
theorem Labelled.of_eq
    (hact : ∀ key flow, active'.lookup key = some flow → active.lookup key = some flow)
    (hled : db'.rollupSessions = db.rollupSessions) (hsto : db'.flowSessions = db.flowSessions)
    (hcon : db'.contributions = db.contributions) : Labelled clock active' db' :=
  h.sub hact (fun _ _ hrow => hled ▸ hrow)
    (fun _ row hrow => ⟨row, hsto ▸ hrow, rfl, rfl, rfl⟩)
    fun _ c hc => ⟨⟨c, hcon ▸ hc, rfl, rfl⟩, fun _ hrow => hled ▸ hrow⟩

end

/-! ### Writing sessions -/

/-- A flow whose session can be written: no other place has seen less of it. -/
structure Writable (active : Rows FlowKey ActiveFlow) (db : Database) (flow : ActiveFlow) :
    Prop where
  startedAt : flow.startedAt = flow.sessionId.startedAt
  formed : Formed flow.attribution
  cached : ∀ key other, active.lookup key = some other → other.sessionId = flow.sessionId →
    flow.lastSeenAt ≤ other.lastSeenAt
  ledger : ∀ row, db.rollupSessions.lookup flow.sessionId = some row →
    flow.lastSeenAt ≤ row.flow.lastSeenAt

variable {key : FlowKey} {flow : ActiveFlow}

theorem Labelled.writable_cached (h : Labelled clock active db)
    (hfl : active.lookup key = some flow) : Writable active db flow := by
  have hca := h.cached key flow hfl
  refine ⟨hca.startedAt, hca.formed, fun other f hf hs => ?_, fun row hrow => ?_⟩
  · have hkey : other = key := by
      rw [← (h.cached other f hf).sessionKey, hs, hca.sessionKey]
    grind
  · rw [(hca.ledger row hrow).2]

variable {id : SessionId}

theorem Labelled.writable_recorded (h : Labelled clock active db)
    (hrow : db.rollupSessions.lookup id = some row) : Writable active db row.recovered := by
  have hrec := h.ledger id row hrow
  have hs : row.recovered.sessionId = id := hrec.session
  refine ⟨?_, hrec.formed, fun key flow hfl hsm => ?_, fun other ho => ?_⟩
  · rw [hs]
    exact hrec.startedAt
  · have hled := (h.cached key flow hfl).ledger row
    rw [hsm, hs] at hled
    exact (hled hrow).2.le
  · rw [hs, hrow] at ho
    rw [← Option.some.inj ho]
    exact le_rfl

theorem writeFlowSession_row (flow : ActiveFlow) (endedAt : Option ℤ) (checkpointedAt : ℤ)
    (db : Database) :
    ∃ row, (writeFlowSession flow endedAt checkpointedAt db).flowSessions.lookup flow.sessionId =
        some row ∧ row.lastSeenAt = flow.lastSeenAt ∧ row.attribution = flow.attribution ∧
      (row.startedAt = flow.startedAt ∨
        ∃ old, db.flowSessions.lookup flow.sessionId = some old ∧
          row.startedAt = old.startedAt) := by
  unfold writeFlowSession
  rw [lookup_upsert, if_pos rfl]
  cases db.flowSessions.lookup flow.sessionId with
  | none => exact ⟨_, rfl, rfl, rfl, .inl rfl⟩
  | some old => exact ⟨_, rfl, rfl, rfl, .inr ⟨old, rfl, rfl⟩⟩

section

variable (h : Labelled clock active db)
include h

theorem Labelled.writeFlowSession (hfl : Writable active db flow) (endedAt : Option ℤ)
    (checkpointedAt : ℤ) :
    Labelled clock active (writeFlowSession flow endedAt checkpointedAt db) := by
  obtain ⟨written, hwr, hla, hattr, hst⟩ :=
    writeFlowSession_row flow endedAt checkpointedAt db
  refine ⟨fun key cached hca => ?_, fun id row hrow => ?_, fun id row hrow => ?_,
    h.contributions⟩
  · have hold := h.cached key cached hca
    refine ⟨hold.sessionKey, hold.direction, hold.startedAt, hold.formed, hold.ledger, fun row hrow => ?_⟩
    by_cases hs : cached.sessionId = flow.sessionId
    · rw [hs, hwr] at hrow
      rw [← Option.some.inj hrow, hla]
      exact hfl.cached key cached hca hs
    · rw [writeFlowSession_other hs] at hrow
      exact hold.stored row hrow
  · have hold := h.ledger id row hrow
    refine ⟨hold.session, hold.startedAt, hold.formed, fun stored hsto => ?_⟩
    by_cases hs : id = flow.sessionId
    · rw [hs, hwr] at hsto
      rw [← Option.some.inj hsto, hla]
      exact hfl.ledger row (hs ▸ hrow)
    · rw [writeFlowSession_other hs] at hsto
      exact hold.stored stored hsto
  · by_cases hs : id = flow.sessionId
    · subst hs
      rw [hwr] at hrow
      rw [← Option.some.inj hrow, hattr]
      refine ⟨?_, hfl.formed⟩
      rcases hst with hst | ⟨old, hold, hst⟩
      · rw [hst, hfl.startedAt]
      · rw [hst, (h.stored _ old hold).1]
    · rw [writeFlowSession_other hs] at hrow
      exact h.stored id row hrow

theorem Labelled.closeFlow (hfl : Writable active db flow) (now : ℤ) :
    Labelled clock active (closeFlow now db flow) := by
  unfold Ledger.closeFlow
  split_ifs
  · exact h.writeFlowSession hfl _ _
  · exact h

theorem Labelled.closeFlows {flows : List ActiveFlow}
    (hfls : ∀ flow ∈ flows, Writable active db flow) (now : ℤ) :
    Labelled clock active (flows.foldl (Ledger.closeFlow now) db) := by
  induction flows generalizing db with
  | nil => exact h
  | cons flow flows ih =>
    refine ih (h.closeFlow (hfls flow List.mem_cons_self) now) fun other ho => ?_
    have ho := hfls other (List.mem_cons_of_mem _ ho)
    refine ⟨ho.startedAt, ho.formed, ho.cached, fun row hrow => ho.ledger row ?_⟩
    rwa [rollupSessions_closeFlow] at hrow

/-! ### Maintenance -/

theorem Labelled.writable_stale {rows : List (SessionId × RollupSession)}
    (hrs : ∀ row ∈ rows, db.rollupSessions.lookup row.1 = some row.2) :
    ∀ flow ∈ rows.map (·.2.recovered), Writable active db flow := by
  intro flow hfl
  obtain ⟨row, hrow, rfl⟩ := List.mem_map.1 hfl
  exact h.writable_recorded (hrs row hrow)

theorem Labelled.closeAbandoned (p : SessionId → FlowSession → Bool) :
    Labelled clock active { db with
      flowSessions := updateWhere p (fun _ row => closeAbandoned row) db.flowSessions } := by
  refine h.sub (fun _ _ hfl => hfl) (fun _ _ hrow => hrow) (fun id row hrow => ?_)
    fun key c hc => ⟨⟨c, hc, rfl, rfl⟩, fun _ hrow => hrow⟩
  rw [lookup_updateWhere, Option.map_eq_some_iff] at hrow
  obtain ⟨old, hold, rfl⟩ := hrow
  refine ⟨old, hold, ?_⟩
  split_ifs <;> exact ⟨rfl, rfl, rfl⟩

theorem Labelled.prune (now : ℤ) : Labelled clock active (prune now db) := by
  have hstale : ∀ row ∈ select (fun _ row => isStale now row) db.rollupSessions,
      db.rollupSessions.lookup row.1 = some row.2 := fun row hrow => (mem_select.1 hrow).1
  have hcl := h.closeFlows (h.writable_stale hstale) now
  unfold Ledger.prune
  refine hcl.sub (fun _ _ hfl => hfl) (fun id row hrow => ?_)
    (fun id row hrow => ⟨row, hrow, rfl, rfl, rfl⟩) fun key c hc => ?_
  · grind [Option.filter_eq_some_iff]
  · grind [Option.filter_eq_some_iff]

end

variable {storage : SqliteStorage} (nowMs : ℕ)

theorem Labelled.pruneReclassification (h : Labelled clock storage.activeFlows storage.database) :
    Labelled clock (pruneReclassification nowMs storage).activeFlows
      (pruneReclassification nowMs storage).database := by
  have hsilent : ∀ flow ∈ (select (fun _ flow => isSilent (toI64 nowMs) flow)
      storage.activeFlows).map (·.2), Writable storage.activeFlows storage.database flow := by
    intro flow hfl
    obtain ⟨⟨key, flow⟩, he, rfl⟩ := List.mem_map.1 hfl
    exact h.writable_cached (mem_select.1 he).1
  have hcl := h.closeFlows hsilent (toI64 nowMs)
  refine ((hcl.prune (toI64 nowMs)).closeAbandoned _).of_eq (fun key flow hfl => ?_) rfl rfl rfl
  change (deleteWhere _ storage.activeFlows).lookup key = _ at hfl
  rw [lookup_deleteWhere, Option.filter_eq_some_iff] at hfl
  exact hfl.1

theorem Labelled.pruneBounded (h : Labelled clock active db) (scan : Scan) (now : ℤ) (limit : ℕ) :
    Labelled clock active (pruneBounded scan now limit db).2 := by
  have hstale : ∀ row ∈ limited scan (max limit 1) (fun _ row => isStale now row)
      db.rollupSessions, db.rollupSessions.lookup row.1 = some row.2 :=
    fun row hrow => (lookup_of_mem_limited hrow).1
  have hcl := h.closeFlows (h.writable_stale hstale) now
  refine Labelled.closeAbandoned ?_ _
  refine hcl.sub (fun _ _ hfl => hfl) (fun id row hrow => (lookup_deleteKeys_some.1 hrow).1)
    (fun id row hrow => ⟨row, hrow, rfl, rfl, rfl⟩) fun key c hc => ?_
  refine ⟨⟨c, (lookup_deleteKeys_some.1 hc).1, rfl, rfl⟩, fun row hrow =>
    lookup_deleteKeys_some.2 ⟨hrow, fun hov => ?_⟩⟩
  -- only sessions without contributions are deleted
  obtain ⟨⟨id, ss⟩, he, hid⟩ := List.mem_map.1 hov
  have hn := (Bool.and_eq_true_iff.1 (lookup_of_mem_limited he).2).2
  rw [Bool.not_eq_true'] at hn
  refine absurd (anyRow_eq_true.2 ⟨key, c, hc, ?_⟩) (by rw [hn]; exact Bool.false_ne_true)
  exact decide_eq_true hid.symm

theorem Labelled.pruneReclassificationBounded (scan : Scan) (nowMs limit : ℕ)
    (h : Labelled clock storage.activeFlows storage.database) :
    Labelled clock (pruneReclassificationBounded scan nowMs limit storage).2.activeFlows
      (pruneReclassificationBounded scan nowMs limit storage).2.database := by
  rw [pruneReclassificationBounded_snd]
  refine ((h.closeFlows (fun flow hfl => ?_) _).pruneBounded scan (toI64 nowMs) (max limit 1)).of_eq
    (fun key flow hfl => (lookup_deleteKeys_some.1 hfl).1) rfl rfl rfl
  obtain ⟨⟨key, flow⟩, he, rfl⟩ := List.mem_map.1 hfl
  exact h.writable_cached (lookup_of_mem_limited he).1

theorem Labelled.rollUpHourAndDay (h : Labelled clock storage.activeFlows storage.database) :
    Labelled clock (rollUpHourAndDay nowMs storage).activeFlows
      (rollUpHourAndDay nowMs storage).database := by
  unfold Operations.rollUpHourAndDay markAggregated
  refine h.sub (fun _ _ hfl => hfl) (fun _ _ hrow => hrow)
    (fun id row hrow => ⟨row, hrow, rfl, rfl, rfl⟩) fun key c hc => ⟨?_, fun _ hrow => hrow⟩
  rw [lookup_updateWhere, lookup_updateWhere, Option.map_map, Option.map_eq_some_iff] at hc
  obtain ⟨old, hold, rfl⟩ := hc
  refine ⟨old, hold, ?_⟩
  split_ifs <;> exact ⟨rfl, rfl⟩

/-! ### Reassignment -/

/-- Every contribution belongs to a session and is up to date. -/
def InStep (clock : ℤ) (db : Database) : Prop :=
  ∀ key c, db.contributions.lookup key = some c →
    ∃ row, db.rollupSessions.lookup key.session = some row ∧ UpToDate clock row c

theorem labelOf_eq {x y : FlowAttribution} (h : SameIdentity x y) : labelOf x = labelOf y := by
  have happ : x.applicationId = y.applicationId := h.id .application
  have hcategory : x.categoryId = y.categoryId := h.follower .category
  have hproto : x.protocolId = y.protocolId := h.id .protocol
  rw [labelOf, labelOf, happ, hcategory, hproto, h.domain]

/-- A contribution that is not moved is past correcting. -/
theorem UpToDate.reattributed (h : UpToDate clock row c) (hlv : isLive row now c = false)
    (incoming : FlowAttribution) : UpToDate now (reattributed incoming row) c := by
  refine ⟨h.expiresAt, .inr ?_⟩
  have hexpires := h.expiresAt
  unfold isLive correctable at hlv
  rw [Bool.and_eq_false_iff, Bool.and_eq_false_iff, decide_eq_false_iff_not,
    decide_eq_false_iff_not] at hlv
  rcases hlv with hx | hstale | hend
  · exact .inl (not_lt.1 hx)
  · exact .inl (by omega)
  · cases hrow : row.endedAt with
    | none =>
      rw [hrow] at hend
      cases hend
    | some ended =>
      rw [hrow, Option.all_some, decide_eq_false_iff_not] at hend
      exact .inr ⟨ended, hrow, by omega⟩

/-- **Reassignment brings the contributions of a session up to date.** -/
theorem InStep.reassign (h : InStep clock db) (hcov : Covered db) (hck : clock ≤ now)
    (id : SessionId) (incoming : FlowAttribution) : InStep now (reassign id incoming now db) := by
  intro key c hc
  rw [(reassign_spec id incoming now hcov).2.2, Option.map_eq_some_iff] at hc
  obtain ⟨old, hold, rfl⟩ := hc
  obtain ⟨row, hrow, hup⟩ := h key old hold
  rw [lookup_reassign, hrow]
  refine ⟨_, rfl, ?_⟩
  dsimp only
  by_cases hs : key.session = id
  · rw [if_pos hs, relabelled, ← hs, hrow]
    dsimp only
    rw [decide_eq_true rfl]
    cases hlv : isLive row now old with
    | true => exact ⟨hup.expiresAt, .inl rfl⟩
    | false => exact hup.reattributed hlv incoming
  · have hsm : relabelled db id incoming now key old = old := by grind [relabelled]
    rw [if_neg hs, hsm]
    exact hup.later hck

/-! ### One delta -/

/-- A flow that is in step with its ledger row, or ahead of it. -/
structure Opened (db : Database) (flow : ActiveFlow) : Prop where
  startedAt : flow.startedAt = flow.sessionId.startedAt
  formed : Formed flow.attribution
  ledger : ∀ row, db.rollupSessions.lookup flow.sessionId = some row →
    SameIdentity flow.attribution row.flow.attribution ∧ row.flow.lastSeenAt ≤ flow.lastSeenAt
  stored : ∀ row, db.flowSessions.lookup flow.sessionId = some row →
    row.lastSeenAt ≤ flow.lastSeenAt

theorem Labelled.opened_restore (h : Labelled clock active db) (key : FlowKey) (flow : FlowDelta)
    (receivedAt : ℤ) : Opened db (restore db (ActiveFlow.new key flow .unknown receivedAt)) := by
  have hst : (ActiveFlow.new key flow .unknown receivedAt).startedAt =
      (ActiveFlow.new key flow .unknown receivedAt).sessionId.startedAt := rfl
  unfold restore
  cases hled : db.rollupSessions.lookup
      (ActiveFlow.new key flow .unknown receivedAt).sessionId with
  | some row =>
    have hrec := h.ledger _ row hled
    refine ⟨hst, formed_unknown.merge _, fun other ho => ?_, fun stored hsto => ?_⟩
    · rw [hled] at ho
      obtain rfl := Option.some.inj ho
      exact ⟨merge_unknown hrec.formed, le_max_right _ _⟩
    · exact (hrec.stored stored hsto).trans (le_max_right _ _)
  | none =>
    cases hsto : db.flowSessions.lookup
        (ActiveFlow.new key flow .unknown receivedAt).sessionId with
    | some row =>
      refine ⟨hst, formed_unknown.merge _, fun other ho => ?_, fun stored hl => ?_⟩
      · grind
      · grind
    | none =>
      refine ⟨hst, formed_unknown, fun other ho => ?_, fun stored hl => ?_⟩
      · grind
      · grind

theorem sessionId_restore (current : ActiveFlow) :
    (restore db current).sessionId = current.sessionId := by
  unfold restore
  split
  · rfl
  · split <;> rfl

variable {batch : TelemetryBatch} {st : BatchState}

theorem Labelled.opened (h : Labelled clock st.active st.db) (batch : TelemetryBatch)
    (flow : FlowDelta) (receivedAt : ℤ) :
    Opened st.db (openFlow batch flow receivedAt st) ∧
      (openFlow batch flow receivedAt st).sessionId.key =
        FlowKey.fromBatch batch.gatewayId flow := by
  unfold openFlow
  dsimp only
  cases hca : st.active.lookup (FlowKey.fromBatch batch.gatewayId flow) with
  | some current =>
    have hfl := h.cached _ current hca
    exact ⟨⟨hfl.startedAt, hfl.formed, fun row hrow => (hfl.ledger row hrow).imp_right le_of_eq,
      hfl.stored⟩, hfl.sessionKey⟩
  | none =>
    refine ⟨h.opened_restore _ flow receivedAt, ?_⟩
    rw [sessionId_restore]
    rfl

section Delta

variable {opened current : ActiveFlow} {incoming : FlowAttribution} {flow : FlowDelta}

theorem lookup_recordSession_own (hrow : db.rollupSessions.lookup current.sessionId = some row) :
    (recordSession current flow now db).rollupSessions.lookup current.sessionId =
      some ⟨current, max row.updatedAt now,
        row.endedAt.or (if flow.lifecycle = lifecycleEnded then some now else none)⟩ := by
  rw [recordSession]
  rw [lookup_upsert, if_pos rfl, hrow]
  rfl

theorem InStep.inLine (h : InStep now db)
    (hsm : ∀ row, db.rollupSessions.lookup current.sessionId = some row →
      SameIdentity current.attribution row.flow.attribution) :
    InLine current batch flow now (beforeRecord current flow now db) := by
  intro c hc hfr
  rw [lookup_beforeRecord] at hc
  split_ifs at hc with hlapsed
  obtain ⟨row, hrow, hup⟩ := h _ c hc
  rcases hup.label with hlabel | hx | ⟨ended, hend, hgrace⟩
  · rw [hlabel, labelOf_eq (hsm row hrow)]
  · exact absurd hx (not_le.2 hfr)
  · refine absurd ⟨rfl, ?_⟩ hlapsed
    rw [lookup_recordSession_own hrow, Option.any_some, lapsed, hend, Option.some_or]
    exact decide_eq_true ((min_le_left _ _).trans hgrace)

theorem InStep.record (h : InStep now db)
    (hsm : ∀ row, db.rollupSessions.lookup current.sessionId = some row →
      SameIdentity current.attribution row.flow.attribution) :
    InStep now (record current batch flow now db) := by
  have hnew : ∃ row, (recordSession current flow now db).rollupSessions.lookup current.sessionId =
      some row ∧ row.flow = current ∧ now ≤ row.updatedAt := by
    cases hrow : db.rollupSessions.lookup current.sessionId with
    | none =>
      rw [recordSession]
      rw [lookup_upsert, if_pos rfl, hrow]
      exact ⟨_, rfl, rfl, le_rfl⟩
    | some row => exact ⟨_, lookup_recordSession_own hrow, rfl, le_max_right _ _⟩
  intro key c hc
  rw [record_eq]
  change (upsert (beforeRecord current flow now db).contributions _ _ _).lookup key = _ at hc
  rw [lookup_upsert] at hc
  split_ifs at hc with hkey
  · -- the row of the delta
    obtain ⟨row, hrow, hfl, hup⟩ := hnew
    refine ⟨row, hkey ▸ hrow, ?_⟩
    have hboth : c.expiresAt = saturatingAdd now correctionWindowMs ∧
        c.label = labelOf current.attribution := by
      cases hold : (beforeRecord current flow now db).contributions.lookup
          (contributionKey current batch flow) with
      | none => grind
      | some old => grind
    refine ⟨?_, .inl ?_⟩
    · have hsaturated : saturatingAdd now correctionWindowMs ≤ now + correctionWindowMs :=
        min_le_left _ _
      omega
    · rw [hboth.2, hfl]
  · rw [lookup_beforeRecord] at hc
    split_ifs at hc
    obtain ⟨row, hrow, hup⟩ := h key c hc
    by_cases hs : key.session = current.sessionId
    · rw [hs] at hrow ⊢
      refine ⟨_, lookup_recordSession_own hrow, ?_, ?_⟩
      · have hexpires := hup.expiresAt
        grind
      · rcases hup.label with hlabel | hx | ⟨ended, hend, hgrace⟩
        · grind [labelOf_eq]
        · exact .inr (.inl hx)
        · grind
    · grind [recordSession]

end Delta

/-! ### A batch -/

/-- What holds between the deltas of a batch. -/
structure Steady (clock : ℤ) (st : BatchState) : Prop where
  labelled : Labelled clock st.active st.db
  covered : Covered st.db
  collecting : Collecting st.totals

theorem settle_spec (hcov : Covered st.db) (hco : Collecting st.totals)
    (prev : FlowAttribution) (current : ActiveFlow) :
    Covered (settle batch prev current now st).db ∧
      Collecting (settle batch prev current now st).totals ∧
      funds batch (settle batch prev current now st).totals
        (settle batch prev current now st).db = funds batch st.totals st.db := by
  unfold settle
  split_ifs
  · obtain ⟨hcovered', hsl, _⟩ := reassign_spec current.sessionId current.attribution now
      (covered_flush hcov hco)
    refine ⟨hcovered', collecting_of_delta rfl, ?_⟩
    rw [funds, hsl, slack_flush hco, outstanding_of_delta rfl, add_zero]
  · exact ⟨hcov, hco, rfl⟩

section Step

variable {delta : FlowDelta × FlowAttribution}

/-- The state in which a delta is counted. -/
def settledState (batch : TelemetryBatch) (now : ℤ) (st : BatchState)
    (delta : FlowDelta × FlowAttribution) : BatchState :=
  settle batch (openFlow batch delta.1 now st).attribution
    ((openFlow batch delta.1 now st).add delta.1 delta.2 now) now st

theorem db_updateActiveFlow : (updateActiveFlow batch now st delta).db =
    checkpoint delta.1 (currentFlow batch now st delta) now
      (count batch delta.1 (currentFlow batch now st delta) now
        (settledState batch now st delta)).db := rfl

theorem lastSeenAt_currentFlow : (openFlow batch delta.1 now st).lastSeenAt ≤
    (currentFlow batch now st delta).lastSeenAt := by
  show _ ≤ ((openFlow batch delta.1 now st).add delta.1 delta.2 now).lastSeenAt
  unfold ActiveFlow.add
  dsimp only
  split_ifs
  · exact le_max_left _ _
  · exact le_rfl

theorem lookup_stored_own {row : FlowSession}
    (hrow : (updateActiveFlow batch now st delta).db.flowSessions.lookup
      (openFlow batch delta.1 now st).sessionId = some row) :
    (row.lastSeenAt = (currentFlow batch now st delta).lastSeenAt ∧
      row.attribution = (currentFlow batch now st delta).attribution ∧
      (row.startedAt = (openFlow batch delta.1 now st).startedAt ∨
        ∃ old, st.db.flowSessions.lookup (openFlow batch delta.1 now st).sessionId = some old ∧
          row.startedAt = old.startedAt)) ∨
      st.db.flowSessions.lookup (openFlow batch delta.1 now st).sessionId = some row := by
  rw [flowSessions_updateActiveFlow] at hrow
  split at hrow
  · left
    obtain ⟨written, hwr, hla, hattr, hst⟩ := writeFlowSession_row
      (currentFlow batch now st delta)
      (if isEnded delta.1 then some (flowLifecycleEndAt delta.1 now) else none) now
      (count batch delta.1 (currentFlow batch now st delta) now (settledState batch now st delta)).db
    rw [flowSessions_count, settledState, flowSessions_settle] at hst
    have heq := hwr.symm.trans hrow
    rw [← Option.some.inj heq]
    exact ⟨hla, hattr, hst⟩
  · exact .inr hrow

theorem Steady.inStep (h : Steady clock st) (hck : clock ≤ now) :
    InStep now (settledState batch now st delta).db := by
  unfold settledState settle
  split_ifs
  · exact @InStep.reassign clock now { st.db with tiers := (st.totals.flush batch st.db.tiers).2 }
      h.labelled.contributions (covered_flush h.covered h.collecting) hck _ _
  · intro key c hc
    obtain ⟨row, hrow, hup⟩ := h.labelled.contributions key c hc
    exact ⟨row, hrow, hup.later hck⟩

theorem Steady.same (h : Steady clock st)
    (hrow : (settledState batch now st delta).db.rollupSessions.lookup
      (currentFlow batch now st delta).sessionId = some row) :
    SameIdentity (currentFlow batch now st delta).attribution row.flow.attribution := by
  have hop := (h.labelled.opened batch delta.1 now).1
  unfold settledState settle currentFlow at hrow
  unfold currentFlow
  split_ifs at hrow with hch
  · rw [lookup_reassign, Option.map_eq_some_iff] at hrow
    obtain ⟨old, hold, rfl⟩ := hrow
    rw [if_pos rfl]
    have hsm := (hop.ledger old hold).1
    exact ((merge_congr hsm.symm (SameIdentity.refl _)).trans (merge_merge_right _ _)).symm
  · rw [not_not] at hch
    rw [hch]
    exact (hop.ledger row hrow).1

theorem Steady.labelled_updateActiveFlow (h : Steady clock st) (hck : clock ≤ now)
    (hdir : isSampled delta.1.direction = true) :
    Labelled now (updateActiveFlow batch now st delta).active
      (updateActiveFlow batch now st delta).db := by
  obtain ⟨hop, hkey⟩ := h.labelled.opened batch delta.1 now
  obtain ⟨⟨_, updatedAt, endedAt⟩, hown, rfl, -⟩ := @lookup_ledger_own batch now st delta
  have hform : Formed (currentFlow batch now st delta).attribution := hop.formed.merge _
  have hstoredOwn : ∀ row, (updateActiveFlow batch now st delta).db.flowSessions.lookup
      (openFlow batch delta.1 now st).sessionId = some row →
        row.lastSeenAt ≤ (currentFlow batch now st delta).lastSeenAt := by
    intro row hrow
    rcases lookup_stored_own hrow with ⟨hla, _⟩ | hold
    · exact hla.le
    · exact (hop.stored row hold).trans lastSeenAt_currentFlow
  refine ⟨fun key flow hfl => ?_, fun id row hrow => ?_, fun id row hrow => ?_, ?_⟩
  · rw [lookup_updateActiveFlow] at hfl
    split_ifs at hfl with hsm
    · -- the flow of the delta
      rw [flowAfter_eq] at hfl
      split_ifs at hfl
      have hid : flow.sessionId = (openFlow batch delta.1 now st).sessionId ∧
          flow.startedAt = (openFlow batch delta.1 now st).startedAt ∧
          flow.attribution = (currentFlow batch now st delta).attribution ∧
          flow.lastSeenAt = (currentFlow batch now st delta).lastSeenAt := by
        rw [← Option.some.inj hfl]
        unfold checkpointed
        split_ifs <;> exact ⟨rfl, rfl, rfl, rfl⟩
      obtain ⟨hs, hst, hattr, hla⟩ := hid
      refine ⟨?_, ?_, ?_, ?_, fun row hrow => ?_, fun row hrow => ?_⟩
      · rw [hs, hkey, hsm]
      · rw [hsm]
        exact hdir
      · rw [hs, hst, hop.startedAt]
      · rw [hattr]
        exact hform
      · rw [hs, hown] at hrow
        rw [← Option.some.inj hrow, hattr, hla]
        exact ⟨SameIdentity.refl _, rfl⟩
      · grind
    · have hold := h.labelled.cached key flow hfl
      have ho : flow.sessionId ≠ (openFlow batch delta.1 now st).sessionId := by
        intro heq
        rw [← hold.sessionKey, heq, hkey] at hsm
        exact hsm rfl
      refine ⟨hold.sessionKey, hold.direction, hold.startedAt, hold.formed, ?_, ?_⟩
      · rw [lookup_ledger_other ho]
        exact hold.ledger
      · rw [lookup_stored_other ho]
        exact hold.stored
  · by_cases hid : id = (openFlow batch delta.1 now st).sessionId
    · subst hid
      rw [hown] at hrow
      rw [← Option.some.inj hrow]
      exact ⟨rfl, hop.startedAt, hform, hstoredOwn⟩
    · rw [lookup_ledger_other hid] at hrow
      have hold := h.labelled.ledger id row hrow
      refine ⟨hold.session, hold.startedAt, hold.formed, ?_⟩
      rw [lookup_stored_other hid]
      exact hold.stored
  · by_cases hid : id = (openFlow batch delta.1 now st).sessionId
    · subst hid
      rcases lookup_stored_own hrow with ⟨_, hattr, hst⟩ | hold
      · refine ⟨?_, hattr ▸ hform⟩
        rcases hst with hst | ⟨old, hold, hst⟩
        · rw [hst, hop.startedAt]
        · rw [hst, (h.labelled.stored _ old hold).1]
      · exact h.labelled.stored _ row hold
    · rw [lookup_stored_other hid] at hrow
      exact h.labelled.stored id row hrow
  · have hrec : InStep now (count batch delta.1 (currentFlow batch now st delta) now
        (settledState batch now st delta)).db :=
      InStep.record (h.inStep hck) fun row hrow => h.same hrow
    rw [db_updateActiveFlow]
    rw [checkpoint_eq]
    exact hrec

/-- **A delta keeps the ledger in step and charges the tables.** -/
theorem Steady.updateActiveFlow (h : Steady clock st) (hck : clock ≤ now)
    (hdir : isSampled delta.1.direction = true) :
    Steady now (updateActiveFlow batch now st delta) ∧
      funds batch (Batch.updateActiveFlow batch now st delta).totals
        (Batch.updateActiveFlow batch now st delta).db =
          funds batch st.totals st.db + charged batch delta.1 (currentFlow batch now st delta) now
            (settledState batch now st delta).db := by
  obtain ⟨hop, hkey⟩ := h.labelled.opened batch delta.1 now
  have hform : Formed (currentFlow batch now st delta).attribution := hop.formed.merge _
  have hgw : (currentFlow batch now st delta).sessionId.key.gatewayId = batch.gatewayId := by
    rw [sessionId_currentFlow, hkey]
    rfl
  obtain ⟨hcov, hco, hfunds⟩ := settle_spec h.covered h.collecting
    (openFlow batch delta.1 now st).attribution
    ((openFlow batch delta.1 now st).add delta.1 delta.2 now)
  obtain ⟨hcnt, hcollected, hcharge⟩ := count_spec
    hcov hco hgw (hform.id .application)
    ((h.inStep hck).inLine fun row hrow => h.same hrow)
  refine ⟨⟨h.labelled_updateActiveFlow hck hdir, ?_, hcollected⟩, ?_⟩
  · rw [db_updateActiveFlow, checkpoint_eq]
    exact hcnt.of_eq rfl rfl rfl
  · have hsl : slack (Batch.updateActiveFlow batch now st delta).db =
        slack (count batch delta.1 (currentFlow batch now st delta) now
          (settledState batch now st delta)).db := by
      rw [db_updateActiveFlow, slack, slack, contents, contents, held, held, checkpoint_eq]
    rw [← hfunds, funds, hsl]
    exact hcharge

theorem Steady.later (h : Steady clock st) (hck : clock ≤ now) : Steady now st :=
  ⟨h.labelled.later hck, h.covered, h.collecting⟩

theorem Steady.foldl {deltas : List (FlowDelta × FlowAttribution)} (h : Steady clock st)
    (hck : clock ≤ now) (hdirs : ∀ delta ∈ deltas, isSampled delta.1.direction = true) :
    Steady now (deltas.foldl (Batch.updateActiveFlow batch now) st) := by
  induction deltas generalizing clock st with
  | nil => exact h.later hck
  | cons delta deltas ih =>
    exact ih (h.updateActiveFlow hck (hdirs delta List.mem_cons_self)).1 le_rfl
      fun other ho => hdirs other (List.mem_cons_of_mem _ ho)

end Step

/-! ### Operations -/

/-- Between operations. -/
structure Reliable (clock : ℤ) (storage : SqliteStorage) : Prop where
  labelled : Labelled clock storage.activeFlows storage.database
  covered : Covered storage.database

variable {storage : SqliteStorage}

theorem Reliable.later (h : Reliable clock storage) (hck : clock ≤ now) : Reliable now storage :=
  ⟨h.labelled.later hck, h.covered⟩

variable {nowMs : ℕ}

theorem Reliable.persist (h : Reliable clock storage) (batch : TelemetryBatch)
    (attrs : List FlowAttribution) (hck : clock ≤ toI64 nowMs)
    (hdirs : ∀ flow ∈ batch.flows, isSampled flow.direction = true) :
    Reliable (toI64 nowMs)
      (persistClassifiedBatch batch attrs nowMs storage).2 := by
  rcases accepted_cases nowMs storage with
    ⟨_, hstore⟩ | ⟨_, hact, hdatabase⟩
  · rw [hstore]
    exact h.later hck
  · have hst : Steady clock ⟨storage.activeFlows, ∅, .new,
        admitted batch (toI64 nowMs) storage.database⟩ :=
      ⟨h.labelled.of_eq (fun _ _ hfl => hfl) rfl rfl rfl, h.covered.of_eq rfl rfl rfl,
        collecting_of_delta rfl⟩
    have hsteady := @Steady.foldl _ _ batch _ (classified batch.flows attrs) hst hck
      fun delta hd => by
        obtain ⟨⟨flow, index⟩, hfl, rfl⟩ := List.mem_map.1 hd
        exact hdirs flow (List.fst_mem_of_mem_zipIdx hfl)
    refine ⟨?_, ?_⟩ <;> rw [hdatabase]
    · exact hsteady.labelled.of_eq (fun key _ hfl => hact key ▸ hfl) rfl rfl rfl
    · exact covered_flush hsteady.covered hsteady.collecting

/-! ### Samples -/

theorem InStep.reclassifySession {incoming : FlowAttribution} (h : InStep clock db)
    (hcov : Covered db) (hck : clock ≤ now) (ss : SessionId × FlowAttribution) :
    InStep now (reclassifySession incoming now db ss) :=
  h.reassign hcov hck ss.1 (merge ss.2 incoming)

theorem reclassifySession_spec (incoming : FlowAttribution) (hcov : Covered db)
    (ss : SessionId × FlowAttribution) :
    Covered (reclassifySession incoming now db ss) ∧
      slack (reclassifySession incoming now db ss) = slack db ∧
      (∀ id, (reclassifySession incoming now db ss).rollupSessions.lookup id =
        (db.rollupSessions.lookup id).map fun row =>
          if id = ss.1 then reattributed (merge ss.2 incoming) row else row) ∧
      ∀ id, (reclassifySession incoming now db ss).flowSessions.lookup id =
        (db.flowSessions.lookup id).map fun row =>
          if id = ss.1 then { row with attribution := merge ss.2 incoming } else row := by
  obtain ⟨hcovered', hsl, _⟩ := reassign_spec ss.1 (merge ss.2 incoming) now hcov
  refine ⟨hcovered'.of_eq rfl rfl rfl, hsl, fun id => lookup_reassign _ _ _, fun id => ?_⟩
  unfold Operations.reclassifySession
  rw [lookup_updateWhere, (reassign_kept _ _).2]
  simp

theorem reclassifySessions_spec (incoming : FlowAttribution) (now : ℤ) :
    ∀ (l : List (SessionId × FlowAttribution)) (clock : ℤ) (db : Database), clock ≤ now →
      Covered db → InStep clock db → (l.map Prod.fst).Nodup →
      let db' := l.foldl (reclassifySession incoming now) db
      Covered db' ∧ slack db' = slack db ∧ InStep now db' ∧
      (∀ id, id ∉ l.map Prod.fst → db'.rollupSessions.lookup id = db.rollupSessions.lookup id ∧
        db'.flowSessions.lookup id = db.flowSessions.lookup id) ∧
      ∀ id a, (id, a) ∈ l →
        db'.rollupSessions.lookup id =
          (db.rollupSessions.lookup id).map (reattributed (merge a incoming)) ∧
        db'.flowSessions.lookup id =
          (db.flowSessions.lookup id).map fun row => { row with attribution := merge a incoming }
  | [], clock, db, hck, hcov, hstp, _ => by
    refine ⟨hcov, rfl, fun key c hc => ?_, fun _ _ => ⟨rfl, rfl⟩, fun _ _ h => nomatch h⟩
    obtain ⟨row, hrow, hup⟩ := hstp key c hc
    exact ⟨row, hrow, hup.later hck⟩
  | ss :: l, clock, db, hck, hcov, hstp, hnd => by
    rw [List.map_cons, List.nodup_cons] at hnd
    obtain ⟨hfst, hsl, hled, hsto⟩ := reclassifySession_spec incoming hcov ss
    obtain ⟨hr, hslackRest, hstepRest, hoth, hws⟩ := reclassifySessions_spec incoming now l
      now (reclassifySession incoming now db ss) le_rfl hfst
      (hstp.reclassifySession hcov hck ss) hnd.2
    refine ⟨hr, hslackRest.trans hsl, hstepRest, fun id hid => ?_, fun id a hmem => ?_⟩
    · rw [List.map_cons, List.mem_cons, not_or] at hid
      rw [List.foldl_cons, (hoth id hid.2).1, (hoth id hid.2).2, hled, hsto]
      simp [hid.1]
    · rw [List.foldl_cons]
      rcases List.mem_cons.1 hmem with rfl | hmem
      · grind
      · have hne : id ≠ ss.1 := fun heq => hnd.1 (heq ▸ List.mem_map_of_mem hmem)
        rw [(hws id a hmem).1, (hws id a hmem).2, hled, hsto]
        simp [hne]

section Sample

variable {gateway : String} {flow : FlowDelta} {incoming : FlowAttribution}

theorem stagedSamples_eq :
    stagedSamples active gateway flow =
      ((FlowKey.sampleKeys gateway flow).filterMap fun key =>
        ((active.lookup key).filter fun current => sampleMatches key current gateway flow).map
          (key, ·)).foldl (fun t e => t.insert e.1 e.2) ∅ := by
  unfold stagedSamples
  rw [List.foldl_filterMap]
  congr 1
  funext staged key
  cases active.lookup key with
  | none => rfl
  | some current => grind

variable {current : ActiveFlow}

theorem lookup_stagedSamples :
    (stagedSamples active gateway flow).lookup key = some current ↔
      key ∈ FlowKey.sampleKeys gateway flow ∧ active.lookup key = some current ∧
        sampleMatches key current gateway flow = true := by
  have hmem : ∀ e : FlowKey × ActiveFlow, e ∈ ((FlowKey.sampleKeys gateway flow).filterMap fun key =>
      ((active.lookup key).filter fun current => sampleMatches key current gateway flow).map
        (key, ·)) ↔ e.1 ∈ FlowKey.sampleKeys gateway flow ∧ active.lookup e.1 = some e.2 ∧
          sampleMatches e.1 e.2 gateway flow = true := by
    rintro ⟨key, current⟩
    simp only [List.mem_filterMap, Option.map_eq_some_iff, Option.filter_eq_some_iff]
    constructor
    · grind
    · grind
  rw [stagedSamples_eq]
  constructor
  · intro h
    rcases lookup_foldl_insert_cases h with ⟨e, he, rfl, rfl⟩ | hem
    · exact (hmem e).1 he
    · cases hem
  · intro h
    refine lookup_foldl_insert_of_mem (fun e he hkey => ?_) (.inl ⟨(key, current), ?_, rfl⟩)
    · grind
    · exact (hmem (key, current)).2 h

/-- The flows in memory that a sample is about, with its attribution. -/
def stagedFlows (active : Rows FlowKey ActiveFlow) (gateway : String) (flow : FlowDelta)
    (incoming : FlowAttribution) : Rows FlowKey ActiveFlow :=
  updateWhere (fun _ _ => true)
    (fun _ current => { current with attribution := merge current.attribution incoming })
    (stagedSamples active gateway flow)

theorem lookup_stagedFlows :
    (stagedFlows active gateway flow incoming).lookup key =
      ((stagedSamples active gateway flow).lookup key).map fun current =>
        { current with attribution := merge current.attribution incoming } := by
  rw [stagedFlows, lookup_updateWhere]
  simp

/-- The attributions of a sample come from memory or from stored sessions. -/
theorem sampledAttributions_cases {staged : Rows FlowKey ActiveFlow}
    {a : FlowAttribution} (h : (sampledAttributions db staged gateway flow).lookup id = some a) :
    (∃ key current, staged.lookup key = some current ∧ current.sessionId = id ∧
      current.attribution = a) ∨
    ∃ row, db.flowSessions.lookup id = some row ∧ tupleMatches id.key gateway flow = true ∧
      lifetimeMatches flow row.startedAt row.lastSeenAt = true ∧ row.attribution = a := by
  rcases lookup_foldl_insert_cases h with ⟨e, he, hid, ha⟩ | hsto
  · exact .inl ⟨e.1, e.2, lookup_eq_some_iff.2 he, hid, ha⟩
  · rcases lookup_foldl_insert_cases hsto with ⟨e, he, rfl, ha⟩ | hem
    · obtain ⟨hrow, hmatches⟩ := mem_select.1 he
      grind
    · cases hem

/-- A sample finds a flow in memory if it finds the stored session of the flow. -/
theorem Labelled.sampled (h : Labelled clock active db) {key : FlowKey}
    (hcur : active.lookup key = some current) {row : FlowSession}
    (hrow : db.flowSessions.lookup current.sessionId = some row)
    (htuple : tupleMatches current.sessionId.key gateway flow = true)
    (hlife : lifetimeMatches flow row.startedAt row.lastSeenAt = true) :
    (stagedSamples active gateway flow).lookup key = some current := by
  have hca := h.cached key current hcur
  have hsn := hca.stored row hrow
  have hst := (h.stored _ row hrow).1
  rw [hca.sessionKey] at htuple
  have hdir := hca.direction
  refine lookup_stagedSamples.2 ⟨?_, hcur, ?_⟩
  · obtain ⟨gw, ipVersion, protocol, clientIp, clientPort, remoteIp, remotePort, dir⟩ :=
      key
    unfold tupleMatches at htuple
    unfold isSampled at hdir
    grind [FlowKey.sampleKeys, FlowKey.fromBatch]
  · rw [sampleMatches, htuple, Bool.true_and]
    unfold lifetimeMatches at hlife ⊢
    rw [Bool.and_eq_true, decide_eq_true_eq, decide_eq_true_eq] at hlife ⊢
    rw [hca.startedAt, ← hst]
    exact ⟨hlife.1, hlife.2.trans hsn⟩

theorem Labelled.sessionKey_stagedFlows (h : Labelled clock active db)
    (hcur : (stagedFlows active gateway flow incoming).lookup key = some current) :
    ∃ old, active.lookup key = some old ∧
      current = { old with attribution := merge old.attribution incoming } ∧
      current.sessionId.key = key := by
  rw [lookup_stagedFlows, Option.map_eq_some_iff] at hcur
  obtain ⟨old, hold, rfl⟩ := hcur
  have hact := (lookup_stagedSamples.1 hold).2.1
  exact ⟨old, hact, rfl, (h.cached key old hact).sessionKey⟩

/-- A list of sessions is reclassified, and nothing else. -/
structure Reclassified (incoming : FlowAttribution) (l : List (SessionId × FlowAttribution))
    (db db' : Database) : Prop where
  others : ∀ id, id ∉ l.map Prod.fst →
    db'.rollupSessions.lookup id = db.rollupSessions.lookup id ∧
      db'.flowSessions.lookup id = db.flowSessions.lookup id
  owns : ∀ id a, (id, a) ∈ l →
    db'.rollupSessions.lookup id =
      (db.rollupSessions.lookup id).map (reattributed (merge a incoming)) ∧
    db'.flowSessions.lookup id =
      (db.flowSessions.lookup id).map fun row => { row with attribution := merge a incoming }

section Reclassified

variable {l : List (SessionId × FlowAttribution)} (hdb : Reclassified incoming l db db')
include hdb

theorem Reclassified.stored {row : FlowSession} (hrow : db'.flowSessions.lookup id = some row) :
    ∃ old, db.flowSessions.lookup id = some old ∧ row.startedAt = old.startedAt ∧
      row.lastSeenAt = old.lastSeenAt ∧
      (row.attribution = old.attribution ∨
        ∃ a, (id, a) ∈ l ∧ row.attribution = merge a incoming) := by
  by_cases hid : id ∈ l.map Prod.fst
  · obtain ⟨⟨id, a⟩, hmem, rfl⟩ := List.mem_map.1 hid
    rw [(hdb.owns id a hmem).2, Option.map_eq_some_iff] at hrow
    grind
  · rw [(hdb.others id hid).2] at hrow
    exact ⟨row, hrow, rfl, rfl, .inl rfl⟩

theorem Reclassified.recorded (hrow : db'.rollupSessions.lookup id = some row)
    (h : ∀ old, db.rollupSessions.lookup id = some old → Recorded db id old) :
    Recorded db' id row := by
  have hsm : ∃ old, db.rollupSessions.lookup id = some old ∧
      row.flow.sessionId = old.flow.sessionId ∧ row.flow.startedAt = old.flow.startedAt ∧
      row.flow.lastSeenAt = old.flow.lastSeenAt ∧
      (Formed old.flow.attribution → Formed row.flow.attribution) := by
    by_cases hid : id ∈ l.map Prod.fst
    · obtain ⟨⟨id, a⟩, hmem, rfl⟩ := List.mem_map.1 hid
      rw [(hdb.owns id a hmem).1, Option.map_eq_some_iff] at hrow
      obtain ⟨old, hold, rfl⟩ := hrow
      exact ⟨old, hold, rfl, rfl, rfl, fun hform => hform.merge _⟩
    · rw [(hdb.others id hid).1] at hrow
      exact ⟨row, hrow, rfl, rfl, rfl, fun hform => hform⟩
  obtain ⟨old, hold, hs, hst, hla, hform⟩ := hsm
  have hrec := h old hold
  refine ⟨hs.trans hrec.session, hst.trans hrec.startedAt,
    hform hrec.formed, fun stored hl => ?_⟩
  obtain ⟨before, hbef, _, hsn, _⟩ := hdb.stored hl
  rw [hsn, hla]
  exact hrec.stored before hbef

theorem Reclassified.cached_own (h : Cached db key current)
    (hmem : (current.sessionId, merge current.attribution incoming) ∈ l) :
    Cached db' key { current with attribution := merge current.attribution incoming } := by
  refine ⟨h.sessionKey, h.direction, h.startedAt, h.formed.merge _, fun row hrow => ?_,
    fun row hrow => ?_⟩
  · rw [(hdb.owns _ _ hmem).1, Option.map_eq_some_iff] at hrow
    obtain ⟨ss, hs, rfl⟩ := hrow
    obtain ⟨hsm, hla⟩ := h.ledger ss hs
    -- both the flow and its ledger row take over the attribution
    exact ⟨((merge_congr hsm.symm (absorbs_merge_self _ incoming).same).trans
      (merge_merge_right _ incoming)).symm, hla⟩
  · obtain ⟨stored, hl, _, hla, _⟩ := hdb.stored hrow
    rw [hla]
    exact h.stored stored hl

theorem Reclassified.cached_other (h : Cached db key current)
    (hid : current.sessionId ∉ l.map Prod.fst) : Cached db' key current := by
  refine ⟨h.sessionKey, h.direction, h.startedAt, h.formed, ?_, ?_⟩
  · rw [(hdb.others _ hid).1]
    exact h.ledger
  · rw [(hdb.others _ hid).2]
    exact h.stored

theorem Labelled.reclassified (h : Labelled clock active db) (hstp : InStep now db')
    (hl : ∀ id a, (id, a) ∈ l ↔ (sampledAttributions db
      (stagedFlows active gateway flow incoming) gateway flow).lookup id = some a) :
    Labelled now (extend active (stagedFlows active gateway flow incoming)) db' := by
  have hks : ∀ key current, (stagedFlows active gateway flow incoming).lookup key = some current →
      current.sessionId.key = key := fun key current hcur => by
    obtain ⟨_, _, _, hkey⟩ := h.sessionKey_stagedFlows hcur
    exact hkey
  refine ⟨fun key current hcur => ?_,
    fun id row hrow => hdb.recorded hrow (h.ledger id), fun id row hrow => ?_, hstp⟩
  · rw [lookup_extend] at hcur
    cases hstg : (stagedFlows active gateway flow incoming).lookup key with
    | some staged =>
      rw [hstg] at hcur
      obtain rfl := Option.some.inj hcur
      obtain ⟨old, hold, hmerged, _⟩ := h.sessionKey_stagedFlows hstg
      have hmem := (hl staged.sessionId staged.attribution).2 <|
        lookup_foldl_insert_of_mem (fun e he hid => by
          have ho := lookup_eq_some_iff.2 he
          rw [← hks _ _ ho, hid, hks _ _ hstg, hstg] at ho
          rw [Option.some.inj ho]) (.inl ⟨⟨key, staged⟩, lookup_eq_some_iff.1 hstg, rfl⟩)
      rw [hmerged] at hmem ⊢
      exact hdb.cached_own (h.cached key old hold) hmem
    | none =>
      rw [hstg] at hcur
      have hunsampled : (stagedSamples active gateway flow).lookup key = none := by
        rw [lookup_stagedFlows] at hstg
        exact Option.map_eq_none_iff.1 hstg
      refine hdb.cached_other (h.cached key current hcur) fun hmem => ?_
      obtain ⟨⟨id, a⟩, hmem, hid⟩ := List.mem_map.1 hmem
      subst hid
      rcases sampledAttributions_cases ((hl _ a).1 hmem) with
        ⟨key', other, ho, hs, _⟩ | ⟨row, hrow, htuple, hlife, _⟩
      · have hkey : key' = key := by
          rw [← hks key' other ho, hs, (h.cached key current hcur).sessionKey]
        grind
      · rw [h.sampled hcur hrow htuple hlife] at hunsampled
        cases hunsampled
  · obtain ⟨old, hold, hst, _, hattr⟩ := hdb.stored hrow
    refine ⟨hst.trans (h.stored id old hold).1, ?_⟩
    rcases hattr with heq | ⟨a, hmem, heq⟩
    · exact heq ▸ (h.stored id old hold).2
    · rw [heq]
      refine Formed.merge ?_ _
      rcases sampledAttributions_cases ((hl id a).1 hmem) with
        ⟨key, current, hcur, _, rfl⟩ | ⟨row, hrow, _, _, rfl⟩
      · obtain ⟨before, hbef, rfl, _⟩ := h.sessionKey_stagedFlows hcur
        exact (h.cached key before hbef).formed.merge _
      · exact (h.stored id row hrow).2

end Reclassified

theorem Reliable.reclassify (h : Reliable clock storage) (scan : Scan) (gateway : String)
    (flow : FlowDelta) (incoming : FlowAttribution) (hck : clock ≤ toI64 nowMs) :
    Reliable (toI64 nowMs)
      (reclassifyFlowAt scan gateway flow incoming nowMs storage) := by
  let sessions := sampledAttributions storage.database
    (stagedFlows storage.activeFlows gateway flow incoming) gateway flow
  have hnd : ((scan.order (select (fun _ _ => true) sessions)).map Prod.fst).Nodup :=
    ((scan.perm _).map Prod.fst).nodup_iff.2 (nodup_keys_select _ _)
  have hl : ∀ id a, (id, a) ∈ scan.order (select (fun _ _ => true) sessions) ↔
      sessions.lookup id = some a := by
    intro id a
    rw [(scan.perm _).mem_iff, mem_select]
    exact and_iff_left rfl
  obtain ⟨hcov, _, hstp, hoth, hws⟩ := reclassifySessions_spec incoming
    (toI64 nowMs) _ clock storage.database hck h.covered h.labelled.contributions hnd
  exact ⟨Labelled.reclassified ⟨hoth, hws⟩ h.labelled hstp hl, hcov⟩

end Sample

end Netqmon.Storage.Labels
