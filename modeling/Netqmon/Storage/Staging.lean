import Netqmon.Storage.Operations

/-! # Staged flows

A batch is applied to a copy of the flows it has deltas for (`stageActiveFlows`), which replaces them
in memory once the transaction has committed (`commitActiveFlows`). A delta reads and writes only
the flow of its own key (`lookup_updateActiveFlow`, `Alike.updateActiveFlow`), so this is the same
as updating all flows in place (`lookup_staged`, `database_staged`). -/

namespace Netqmon.Storage.Staging

open Lib.Keyed Protocol.Telemetry Attribution Schema Batch

variable {batch : TelemetryBatch} {now : ℤ}

/-- The keys of the flows that a batch has deltas for. -/
def batchKeys (batch : TelemetryBatch) : List FlowKey :=
  batch.flows.map (FlowKey.fromBatch batch.gatewayId)

/-! ### Staging and committing -/

theorem lookup_foldl_insert {K V : Type} [DecidableEq K] (key : K) :
    ∀ (l : List (Sigma fun _ : K => V)) (t : Rows K V), l.NodupKeys →
      (l.foldl (fun t e => t.insert e.1 e.2) t).lookup key = (l.dlookup key).or (t.lookup key)
  | [], _, _ => rfl
  | ⟨k, v⟩ :: l, t, hnd => by
    rw [List.nodupKeys_cons] at hnd
    rw [List.foldl_cons, lookup_foldl_insert key l _ hnd.2, lookup_insert_ite]
    by_cases hkey : key = k
    · have hr : l.dlookup key = none := by
        rw [hkey]
        exact List.dlookup_eq_none.2 hnd.1
      grind
    · rw [if_neg hkey, List.dlookup_cons_ne _ _ hkey]

theorem lookup_extend {K V : Type} [DecidableEq K] (t u : Rows K V) (key : K) :
    (extend t u).lookup key = (u.lookup key).or (t.lookup key) :=
  lookup_foldl_insert key u.entries t u.nodupKeys

variable {key : FlowKey}

theorem lookup_stageFlow {active staged : Rows FlowKey ActiveFlow}
    (h : staged.lookup key = none ∨ staged.lookup key = active.lookup key) (other : FlowKey) :
    (match staged.lookup key, active.lookup key with
      | none, some cur => staged.insert key cur
      | _, _ => staged).lookup other =
      if other = key then active.lookup key else staged.lookup other := by
  cases hstg : staged.lookup key with
  | none =>
    cases hact : active.lookup key with
    | none => grind
    | some cur => exact lookup_insert_ite other
  | some cur => grind

theorem lookup_foldl_stage (active : Rows FlowKey ActiveFlow) (key : FlowKey) :
    ∀ (flows : List FlowDelta) (staged : Rows FlowKey ActiveFlow),
      (∀ k, staged.lookup k = none ∨ staged.lookup k = active.lookup k) →
      (flows.foldl (fun staged flow =>
        let key := FlowKey.fromBatch batch.gatewayId flow
        match staged.lookup key, active.lookup key with
        | none, some cur => staged.insert key cur
        | _, _ => staged) staged).lookup key =
        if key ∈ flows.map (FlowKey.fromBatch batch.gatewayId) then active.lookup key
        else staged.lookup key
  | [], _, _ => rfl
  | flow :: flows, staged, hstg => by
    have hone := lookup_stageFlow (hstg (FlowKey.fromBatch batch.gatewayId flow))
    rw [List.foldl_cons, lookup_foldl_stage active key flows _ fun other => ?_]
    · grind
    · grind

theorem lookup_stageActiveFlows (active : Rows FlowKey ActiveFlow) :
    (stageActiveFlows active batch).lookup key =
      if key ∈ batchKeys batch then active.lookup key else none :=
  lookup_foldl_stage active key batch.flows ∅ fun _ => .inl rfl

theorem lookup_commitActiveFlows (active staged : Rows FlowKey ActiveFlow) :
    (commitActiveFlows active batch staged).lookup key =
      (staged.lookup key).or (if key ∈ batchKeys batch then none else active.lookup key) := by
  have her : ∀ (flows : List FlowDelta) (t : Rows FlowKey ActiveFlow),
      (flows.foldl (fun t flow => t.erase (FlowKey.fromBatch batch.gatewayId flow)) t).lookup key =
        if key ∈ flows.map (FlowKey.fromBatch batch.gatewayId) then none else t.lookup key := by
    intro flows
    induction flows with
    | nil => intro t; rfl
    | cons flow flows ih => grind
  rw [commitActiveFlows, lookup_extend, her]
  rfl

/-! ### One delta -/

/-- What a delta leaves of its flow in memory. -/
def flowAfter (batch : TelemetryBatch) (receivedAt : ℤ) (st : BatchState)
    (delta : FlowDelta × FlowAttribution) : Option ActiveFlow :=
  let added := (openFlow batch delta.1 receivedAt st).add delta.1 delta.2 receivedAt
  let settled := settle batch (openFlow batch delta.1 receivedAt st).attribution added receivedAt st
  let current := { added with
    deviceId := (findDevice batch added.clientMac settled).or added.deviceId }
  if isEnded delta.1 then none else some (checkpointed delta.1 current receivedAt)

theorem lookup_updateActiveFlow (st : BatchState) (delta : FlowDelta × FlowAttribution) :
    (updateActiveFlow batch now st delta).active.lookup key =
      if key = FlowKey.fromBatch batch.gatewayId delta.1 then flowAfter batch now st delta
      else st.active.lookup key := by
  unfold updateActiveFlow flowAfter
  have hact : ∀ prev cur, (count batch delta.1 cur now
      (settle batch prev
        ((openFlow batch delta.1 now st).add delta.1 delta.2 now) now st)).active
      = st.active := by
    intro prev cur
    unfold settle
    split <;> rfl
  cases hend : isEnded delta.1 with
  | true => grind
  | false => grind

/-- Two states in the course of a batch that differ only in flows which the batch has no deltas
for. -/
structure Alike (keys : List FlowKey) (st st' : BatchState) : Prop where
  active : ∀ key ∈ keys, st.active.lookup key = st'.active.lookup key
  deviceIds : st.deviceIds = st'.deviceIds
  totals : st.totals = st'.totals
  db : st.db = st'.db

variable {delta : FlowDelta × FlowAttribution}

section Alike

variable {keys : List FlowKey} {st st' : BatchState} (h : Alike keys st st')
include h

theorem Alike.openFlow {flow : FlowDelta} (hkey : FlowKey.fromBatch batch.gatewayId flow ∈ keys) :
    openFlow batch flow now st = openFlow batch flow now st' := by
  unfold Batch.openFlow
  dsimp only
  rw [h.active _ hkey, h.db]

theorem Alike.settle (prev : FlowAttribution) (cur : ActiveFlow) :
    settle batch prev cur now st =
      { settle batch prev cur now st' with active := st.active } := by
  unfold Batch.settle
  rw [h.totals, h.db]
  split
  · rw [h.deviceIds]
  · obtain ⟨active, deviceIds, totals, db⟩ := st
    have hids := h.deviceIds
    have htotals := h.totals
    have hdb := h.db
    grind

theorem Alike.flowAfter (hkey : FlowKey.fromBatch batch.gatewayId delta.1 ∈ keys) :
    flowAfter batch now st delta = flowAfter batch now st' delta := by
  unfold Staging.flowAfter
  dsimp only
  rw [h.openFlow hkey, h.settle]
  rfl

theorem Alike.updateActiveFlow (hkey : FlowKey.fromBatch batch.gatewayId delta.1 ∈ keys) :
    Alike keys (updateActiveFlow batch now st delta)
      (updateActiveFlow batch now st' delta) := by
  refine ⟨fun key hmem => ?_, ?_, ?_, ?_⟩
  · rw [lookup_updateActiveFlow, lookup_updateActiveFlow, h.flowAfter hkey, h.active key hmem]
  all_goals
    unfold Batch.updateActiveFlow
    dsimp only
    rw [h.openFlow hkey, h.settle]
    rfl

end Alike

variable {deltas : List (FlowDelta × FlowAttribution)}

theorem alike_foldl {keys : List FlowKey}
    (hks : ∀ delta ∈ deltas, FlowKey.fromBatch batch.gatewayId delta.1 ∈ keys)
    {st st' : BatchState} (h : Alike keys st st') :
    Alike keys (deltas.foldl (updateActiveFlow batch now) st)
      (deltas.foldl (updateActiveFlow batch now) st') := by
  induction deltas generalizing st st' with
  | nil => exact h
  | cons delta deltas ih =>
    exact ih (fun other ho => hks other (List.mem_cons_of_mem _ ho))
      (h.updateActiveFlow (hks delta List.mem_cons_self))

theorem lookup_foldl_of_notMem
    (hkey : ∀ delta ∈ deltas, key ≠ FlowKey.fromBatch batch.gatewayId delta.1) (st : BatchState) :
    (deltas.foldl (updateActiveFlow batch now) st).active.lookup key =
      st.active.lookup key := by
  induction deltas generalizing st with
  | nil => rfl
  | cons delta deltas ih =>
    rw [List.foldl_cons, ih fun other ho => hkey other (List.mem_cons_of_mem _ ho),
      lookup_updateActiveFlow, if_neg (hkey delta List.mem_cons_self)]

/-! ### A batch -/

variable {attrs : List FlowAttribution} {active : Rows FlowKey ActiveFlow} {db : Database}

theorem mem_batchKeys_of_classified (h : delta ∈ classified batch.flows attrs) :
    FlowKey.fromBatch batch.gatewayId delta.1 ∈ batchKeys batch := by
  obtain ⟨⟨flow, index⟩, hfl, rfl⟩ := List.mem_map.1 h
  exact List.mem_map_of_mem (List.fst_mem_of_mem_zipIdx hfl)

theorem alike_updated :
    Alike (batchKeys batch)
      ((classified batch.flows attrs).foldl (updateActiveFlow batch now)
        ⟨stageActiveFlows active batch, ∅, .new, db⟩)
      ((classified batch.flows attrs).foldl (updateActiveFlow batch now)
        ⟨active, ∅, .new, db⟩) :=
  alike_foldl (fun _ hd => mem_batchKeys_of_classified hd)
    ⟨fun key hkey => by rw [lookup_stageActiveFlows, if_pos hkey], rfl, rfl, rfl⟩

/-- **Staging does not change what is stored.** -/
theorem database_staged :
    (updateActiveFlows batch attrs now (stageActiveFlows active batch) db).2 =
      (updateActiveFlows batch attrs now active db).2 := by
  have h := @alike_updated batch now attrs active db
  unfold updateActiveFlows
  dsimp only
  rw [h.totals, h.db]

/-- **Staging only the flows of a batch gives the flows that updating all of them gives.** -/
theorem lookup_staged :
    (commitActiveFlows active batch
      (updateActiveFlows batch attrs now (stageActiveFlows active batch) db).1).lookup
        key = (updateActiveFlows batch attrs now active db).1.lookup key := by
  have h := @alike_updated batch now attrs active db
  rw [lookup_commitActiveFlows]
  unfold updateActiveFlows
  by_cases hkey : key ∈ batchKeys batch
  · rw [if_pos hkey, h.active key hkey, Option.or_none]
  · have ho : ∀ delta ∈ classified batch.flows attrs,
        key ≠ FlowKey.fromBatch batch.gatewayId delta.1 :=
      fun delta hd heq => hkey (heq ▸ mem_batchKeys_of_classified hd)
    grind [lookup_foldl_of_notMem, lookup_stageActiveFlows]

/-- The database to which the deltas of a new batch are applied. -/
def admitted (batch : TelemetryBatch) (receivedAt : ℤ) (db : Database) : Database :=
  persistDevices batch
    { db with
      ingestBatches :=
        db.ingestBatches.insert (batch.gatewayId, batch.bootId, toI64 batch.sequence) receivedAt }

/-- **A batch is a duplicate, or all flows are updated in place.** -/
theorem accepted_cases (nowMs : ℕ) (storage : SqliteStorage) :
    ((persistClassifiedBatch batch attrs nowMs storage).1 = .duplicate ∧
      (persistClassifiedBatch batch attrs nowMs storage).2 = storage) ∨
    ((persistClassifiedBatch batch attrs nowMs storage).1 = .accepted ∧
      (∀ key, (persistClassifiedBatch batch attrs nowMs storage).2.activeFlows.lookup
        key = (updateActiveFlows batch attrs (toI64 nowMs) storage.activeFlows
          (admitted batch (toI64 nowMs) storage.database)).1.lookup key) ∧
      (persistClassifiedBatch batch attrs nowMs storage).2.database =
        (updateActiveFlows batch attrs (toI64 nowMs) storage.activeFlows
          (admitted batch (toI64 nowMs) storage.database)).2) := by
  unfold persistClassifiedBatch
  dsimp only
  split_ifs
  · exact .inl ⟨rfl, rfl⟩
  · exact .inr ⟨rfl, fun key => lookup_staged, database_staged⟩

end Netqmon.Storage.Staging
