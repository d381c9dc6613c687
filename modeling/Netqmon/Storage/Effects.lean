import Netqmon.Storage.Frames
import Netqmon.Storage.Staging

/-! # What a delta changes

The flow that a delta is added to (`currentFlow`), and what the statements of a delta leave of the
ledger and of the stored sessions. -/

namespace Netqmon.Storage.Effects

open Lib.Keyed Protocol.Telemetry Attribution Schema Ledger Batch Staging
open Frames

variable {batch : TelemetryBatch} {now : ℤ} {st : BatchState}
  {delta : FlowDelta × FlowAttribution} {flow : ActiveFlow} {db : Database}

/-- The flow of a delta with the delta added. -/
def currentFlow (batch : TelemetryBatch) (receivedAt : ℤ) (st : BatchState)
    (delta : FlowDelta × FlowAttribution) : ActiveFlow :=
  let opened := openFlow batch delta.1 receivedAt st
  let added := opened.add delta.1 delta.2 receivedAt
  let settled := settle batch opened.attribution added receivedAt st
  { added with deviceId := (findDevice batch added.clientMac settled).or added.deviceId }

theorem flowAfter_eq : flowAfter batch now st delta =
    if isEnded delta.1 then none
    else some (checkpointed delta.1 (currentFlow batch now st delta) now) := rfl

/-- A ledger row with an attribution merged into its own. -/
def reattributed (incoming : FlowAttribution) (row : RollupSession) : RollupSession :=
  { row with flow := { row.flow with attribution := merge row.flow.attribution incoming } }

theorem lookup_reassign (id other : SessionId) (inc : FlowAttribution) :
    (reassign id inc now db).rollupSessions.lookup other =
      (db.rollupSessions.lookup other).map fun row =>
        if other = id then reattributed inc row else row := by
  unfold reassign
  cases hs : db.rollupSessions.lookup id with
  | none =>
    by_cases ho : other = id
    · rw [ho, hs]
      rfl
    · simp [ho]
  | some ss =>
    rw [lookup_updateWhere, rollupSessions_moveContributions]
    grind [reattributed]

theorem flowSessions_settle (prev : FlowAttribution) :
    (settle batch prev flow now st).db.flowSessions = st.db.flowSessions := by
  unfold settle
  split_ifs
  · exact (reassign_kept _ _).2
  · rfl

variable {other : SessionId}

theorem writeFlowSession_other (h : other ≠ flow.sessionId) (endedAt : Option ℤ)
    (checkpointedAt : ℤ) :
    (writeFlowSession flow endedAt checkpointedAt db).flowSessions.lookup other =
      db.flowSessions.lookup other := by
  unfold writeFlowSession
  rw [lookup_upsert, if_neg h]

theorem sessionId_currentFlow : (currentFlow batch now st delta).sessionId =
    (openFlow batch delta.1 now st).sessionId := rfl

theorem rollupSessions_updateActiveFlow :
    (updateActiveFlow batch now st delta).db.rollupSessions =
      (recordSession (currentFlow batch now st delta) delta.1 now
        (settle batch (openFlow batch delta.1 now st).attribution
          ((openFlow batch delta.1 now st).add delta.1 delta.2 now) now
            st).db).rollupSessions := by
  unfold updateActiveFlow count
  dsimp only
  rw [checkpoint_eq, record_eq]
  rfl

theorem flowSessions_count (flow : FlowDelta) (cur : ActiveFlow) :
    (count batch flow cur now st).db.flowSessions = st.db.flowSessions := by
  unfold count record recordContribution dropEnded
  dsimp only
  split_ifs <;> rfl

theorem flowSessions_updateActiveFlow :
    (updateActiveFlow batch now st delta).db.flowSessions =
      if (isEnded delta.1 || checkpointDue (currentFlow batch now st delta) now)
          && 0 < (currentFlow batch now st delta).lastSeenAt then
        (writeFlowSession (currentFlow batch now st delta)
          (if isEnded delta.1 then some (flowLifecycleEndAt delta.1 now) else none)
          now (count batch delta.1 (currentFlow batch now st delta) now
            (settle batch (openFlow batch delta.1 now st).attribution
              ((openFlow batch delta.1 now st).add delta.1 delta.2 now) now
                st)).db).flowSessions
      else st.db.flowSessions := by
  unfold updateActiveFlow checkpoint
  rw [apply_ite Database.flowSessions]
  congr 1
  exact (flowSessions_count _ _).trans (flowSessions_settle _)

theorem lookup_ledger_other (h : other ≠ (openFlow batch delta.1 now st).sessionId) :
    (updateActiveFlow batch now st delta).db.rollupSessions.lookup other =
      st.db.rollupSessions.lookup other := by
  rw [rollupSessions_updateActiveFlow, recordSession]
  rw [lookup_upsert, sessionId_currentFlow, if_neg h]
  unfold settle
  split_ifs
  · rw [lookup_reassign]
    have ho : other ≠ ((openFlow batch delta.1 now st).add delta.1 delta.2
      now).sessionId := h
    simp [ho]
  · rfl

theorem lookup_ledger_own : ∃ row, (updateActiveFlow batch now st delta).db.rollupSessions.lookup
    (openFlow batch delta.1 now st).sessionId = some row ∧
      row.flow = currentFlow batch now st delta ∧
      ((∀ old, st.db.rollupSessions.lookup (openFlow batch delta.1 now st).sessionId =
        some old → old.updatedAt ≤ now) → row.updatedAt = now) := by
  rw [rollupSessions_updateActiveFlow, recordSession]
  rw [lookup_upsert, sessionId_currentFlow, if_pos rfl]
  cases hrow : (settle batch (openFlow batch delta.1 now st).attribution
    ((openFlow batch delta.1 now st).add delta.1 delta.2 now) now
      st).db.rollupSessions.lookup (openFlow batch delta.1 now st).sessionId with
  | none => exact ⟨_, rfl, rfl, fun _ => rfl⟩
  | some row =>
    refine ⟨_, rfl, rfl, fun hold => max_eq_right ?_⟩
    unfold settle at hrow
    split_ifs at hrow
    · rw [lookup_reassign, Option.map_eq_some_iff] at hrow
      obtain ⟨old, hl, rfl⟩ := hrow
      have hle := hold old hl
      split_ifs <;> exact hle
    · exact hold row hrow

theorem lookup_stored_other (h : other ≠ (openFlow batch delta.1 now st).sessionId) :
    (updateActiveFlow batch now st delta).db.flowSessions.lookup other =
      st.db.flowSessions.lookup other := by
  rw [flowSessions_updateActiveFlow]
  split
  · rw [writeFlowSession_other (sessionId_currentFlow ▸ h), flowSessions_count, flowSessions_settle]
  · rfl

end Netqmon.Storage.Effects
