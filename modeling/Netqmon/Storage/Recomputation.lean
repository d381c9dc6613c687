import Netqmon.Storage.Balance
import Netqmon.Storage.Frames

/-! # Incremental roll-ups equal recomputation

No operation of the storage changes what is counted for an hour or a day besides the rows below it:
minute rows are written with their triggers, corrections move counts with `transfer`, and a roll-up
moves what is queued. So the tiers are balanced after every run (`balanced_run`). -/

namespace Netqmon.Storage.Recomputation

open Lib.Keyed Protocol.Telemetry Attribution Traffic Schema Ledger Batch Operations Balance
open Frames

variable {t : Tiers} {db : Database} {k : Bucket} {upper : Tier}

/-! ### Corrections -/

variable {incoming : FlowAttribution} {now : ℤ}

theorem gap_reassign (id : SessionId) :
    gap (reassign id incoming now db).tiers upper k = gap db.tiers upper k := by
  refine reassign_induction (P := fun db' => gap db'.tiers upper k = gap db.tiers upper k)
    (fun row c new tier db' h => h ▸ ?_) (fun _ _ _ h => h) id incoming rfl
  unfold transferTier
  dsimp only
  split
  · rfl
  · grind [gap_transfer]

variable {storage : SqliteStorage}

/-! ### Batches -/

variable (batch : TelemetryBatch) (flow : FlowDelta)

theorem gap_upsertRollup (key : DimensionKey) :
    gap (upsertRollup batch flow key t) upper k = gap t upper k := by
  rw [upsertRollup, gap_adjustRollup]
  simp [shift]

variable (totals : TotalRollupBatch)

theorem gap_flush : gap (totals.flush batch t).2 upper k = gap t upper k := by
  unfold TotalRollupBatch.flush
  split_ifs
  · rw [gap_adjustRollup]
    simp [shift]
  · rfl

theorem gap_add : gap (totals.add batch flow t).2 upper k = gap t upper k := by
  unfold TotalRollupBatch.add
  dsimp only
  split
  · grind [gap_upsertRollup, gap_flush]
  · exact gap_upsertRollup batch flow _

variable (prev : FlowAttribution) (cur : ActiveFlow) (now : ℤ) (st : BatchState)

theorem gap_settle :
    gap (settle batch prev cur now st).db.tiers upper k =
      gap st.db.tiers upper k := by
  unfold settle
  split
  · rw [gap_reassign]
    exact gap_flush batch _
  · rfl

theorem gap_count :
    gap (count batch flow cur now st).db.tiers upper k = gap st.db.tiers upper k := by
  unfold count
  rw [(outside_record _).tiers]
  exact (foldl_fixed (g := fun t => gap t upper k)
    (fun _ key => gap_upsertRollup batch flow key) _ _).trans (gap_add batch flow _)

theorem gap_updateActiveFlow (delta : FlowDelta × FlowAttribution) :
    gap (updateActiveFlow batch now st delta).db.tiers upper k =
      gap st.db.tiers upper k := by
  unfold updateActiveFlow
  rw [outside_checkpoint.tiers, gap_count, gap_settle]

/-! ### Runs -/

theorem tiers_rollUpHourAndDay (nowMs : ℕ) :
    (rollUpHourAndDay nowMs storage).database.tiers =
      rollUpTiers (toI64 nowMs) storage.database.tiers := rfl

theorem gap_step (op : Op) :
    gap (step storage op).database.tiers upper k = gap storage.database.tiers upper k := by
  cases op with
  | persist batch attrs receivedAtMs =>
    unfold step persistClassifiedBatch
    dsimp only
    split
    · rfl
    · exact (gap_flush batch _).trans (foldl_fixed
        (g := fun st : BatchState => gap st.db.tiers upper k)
        (gap_updateActiveFlow batch (toI64 receivedAtMs)) _ _)
  | reclassify scan gateway flow attr receivedAtMs =>
    refine foldl_fixed (g := fun db : Database => gap db.tiers upper k) (fun db ss => ?_) _ _
    exact gap_reassign ss.1
  | prune nowMs => rw [step, (outside_pruneReclassification _).tiers]
  | pruneBounded scan nowMs limit => rw [step, (outside_pruneReclassificationBounded ..).tiers]
  | rollUp nowMs => rw [step, tiers_rollUpHourAndDay, gap_rollUpTiers]

variable (ops : List Op)

theorem gap_steps :
    gap (ops.foldl step storage).database.tiers upper k = gap storage.database.tiers upper k := by
  induction ops generalizing storage with
  | nil => rfl
  | cons op ops ih => rw [List.foldl_cons, ih, gap_step]

theorem balanced_run : Balanced (run ops).database.tiers := by
  intro upper b
  rw [run, gap_steps]
  cases upper <;> rfl

/-- **Incremental roll-ups equal recomputation.** After any run, every hour row with its queue is
the sum of its minute rows and every day row with its queue the sum of its hour rows. After a
roll-up every hour and day that is over is the sum of its minute rows. -/
theorem rollups_recomputed (ops : List Op) :
    (∀ b, value (run ops).database.tiers.hour b + value (run ops).database.tiers.hourPending b =
      total (belongs .hour b) (run ops).database.tiers.minute) ∧
    (∀ b, value (run ops).database.tiers.day b + value (run ops).database.tiers.dayPending b =
      total (belongs .day b) (run ops).database.tiers.hour) ∧
    ∀ nowMs b,
      (b.timestamp < cutoff .hour (toI64 nowMs) →
        value (rollUpHourAndDay nowMs (run ops)).database.tiers.hour b =
          total (belongs .hour b) (rollUpHourAndDay nowMs (run ops)).database.tiers.minute) ∧
      (b.timestamp < cutoff .day (toI64 nowMs) →
        value (rollUpHourAndDay nowMs (run ops)).database.tiers.day b =
          total (belongs .day b) (rollUpHourAndDay nowMs (run ops)).database.tiers.minute) :=
  have h := balanced_run ops
  ⟨h.hour, h.day, fun _ _ => ⟨rollUp_hour h, rollUp_day h⟩⟩

/-- A delta is rolled up before its flow is recognized, and another one comes after that. -/
def sampleRun : List Op :=
  [.persist (sampleBatch 1 2700000 1) [] (sampleTime + 2701000),
    .rollUp (sampleTime + 2900000),
    .reclassify .asStored "gateway" (sampleFlow 2700000 1)
      (sampleApplication "tube" "tube.example" 1) (sampleTime + 3000000),
    .persist (sampleBatch 2 2710000 1) [] (sampleTime + 3100000)]

def sampleHour : Bucket := ⟨1699999200000, "gateway", .application "tube" "video"⟩

theorem rollups_recomputed_sample :
    value (run sampleRun).database.tiers.hour sampleHour = ⟨1200, 0, 3, 1⟩ ∧
    value (run sampleRun).database.tiers.hourPending sampleHour = ⟨1200, 0, 3, 1⟩ ∧
    (value (run sampleRun).database.tiers.hour sampleHour +
        value (run sampleRun).database.tiers.hourPending sampleHour =
      total (belongs .hour sampleHour) (run sampleRun).database.tiers.minute) ∧
    value (rollUpHourAndDay (sampleTime + 7200000) (run sampleRun)).database.tiers.hour sampleHour =
      total (belongs .hour sampleHour)
        (rollUpHourAndDay (sampleTime + 7200000) (run sampleRun)).database.tiers.minute :=
  ⟨by decide +kernel, by decide +kernel, (rollups_recomputed sampleRun).1 sampleHour,
    ((rollups_recomputed sampleRun).2.2 (sampleTime + 7200000) sampleHour).1 (by decide +kernel)⟩

end Netqmon.Storage.Recomputation
