import Netqmon.Storage.Operations

/-! # What the operations leave alone

Pruning and recording change the ledger and the stored sessions, and nothing `Outside`. A
reassignment changes the ledger and the traffic tables (`reassign_kept`). -/

namespace Netqmon.Storage.Frames

open Lib.Keyed Protocol.Telemetry Attribution Traffic Schema Ledger Batch Operations

/-- The tables besides the ledger and the stored sessions. -/
def outer (db : Database) : Database :=
  { db with rollupSessions := ∅, contributions := ∅, flowSessions := ∅ }

/-- The databases differ in the ledger and the stored sessions only. -/
def Outside (db' db : Database) : Prop := outer db' = outer db

variable {db db' : Database} {flow : FlowDelta} {cur : ActiveFlow} {now : ℤ}

theorem Outside.ingestBatches (h : Outside db' db) : db'.ingestBatches = db.ingestBatches :=
  (Database.mk.inj h).1

theorem Outside.tiers (h : Outside db' db) : db'.tiers = db.tiers := (Database.mk.inj h).2.2.1

theorem Outside.scopes (h : Outside db' db) : db'.scopes = db.scopes :=
  (Database.mk.inj h).2.2.2.1

/-! ### Recording -/

theorem checkpoint_eq : checkpoint flow cur now db =
    { db with flowSessions := (checkpoint flow cur now db).flowSessions } := by
  unfold checkpoint
  split_ifs <;> rfl

theorem outside_checkpoint : Outside (checkpoint flow cur now db) db := by
  rw [checkpoint_eq]
  rfl

variable (batch : TelemetryBatch)

theorem record_eq : record cur batch flow now db = { db with
      rollupSessions := (recordSession cur flow now db).rollupSessions
      contributions := (record cur batch flow now db).contributions } := by
  unfold record recordContribution dropEnded
  split_ifs <;> rfl

theorem outside_record : Outside (record cur batch flow now db) db := by
  rw [record_eq]
  rfl

/-! ### Pruning -/

theorem closeFlow_eq : closeFlow now db cur =
    { db with flowSessions := (closeFlow now db cur).flowSessions } := by
  unfold closeFlow
  split_ifs <;> rfl

variable {flows : List ActiveFlow}

theorem closeFlows_eq : flows.foldl (closeFlow now) db =
    { db with flowSessions := (flows.foldl (closeFlow now) db).flowSessions } := by
  induction flows generalizing db with
  | nil => rfl
  | cons flow flows ih =>
    rw [List.foldl_cons, ih]
    rw [closeFlow_eq]

theorem rollupSessions_closeFlow : (closeFlow now db cur).rollupSessions = db.rollupSessions := by
  rw [closeFlow_eq]

theorem rollupSessions_closeFlows :
    (flows.foldl (closeFlow now) db).rollupSessions = db.rollupSessions := by
  rw [closeFlows_eq]

theorem outside_closeFlows : Outside (flows.foldl (closeFlow now) db) db := by
  rw [closeFlows_eq]
  rfl

theorem outside_prune : Outside (prune now db) db := outside_closeFlows

variable {storage : SqliteStorage}

theorem outside_pruneReclassification (nowMs : ℕ) :
    Outside (pruneReclassification nowMs storage).database storage.database :=
  outside_prune.trans (outside_closeFlows)

variable (scan : Scan)

variable (nowMs limit : ℕ) (storage : SqliteStorage)

/-- The candidates of a slice have traffic, so that they are closed as in pruning at once. -/
theorem pruneReclassificationBounded_snd :
    (pruneReclassificationBounded scan nowMs limit storage).2.database =
      (pruneBounded scan (toI64 nowMs) (max limit 1)
        (((limited scan (max limit 1) (fun _ flow => isCandidate (toI64 nowMs) flow)
          storage.activeFlows).map (·.2)).foldl (closeFlow (toI64 nowMs)) storage.database)).2 := by
  unfold pruneReclassificationBounded
  dsimp only
  congr 2
  refine List.foldl_ext _ _ _ fun db flow hfl => ?_
  obtain ⟨row, hrow, rfl⟩ := List.mem_map.1 hfl
  have hsn := (Bool.and_eq_true_iff.1 (lookup_of_mem_limited hrow).2).2
  rw [closeFlow, if_pos (of_decide_eq_true hsn)]

theorem outside_pruneReclassificationBounded :
    Outside (pruneReclassificationBounded scan nowMs limit storage).2.database storage.database := by
  rw [pruneReclassificationBounded_snd]
  exact (outside_closeFlows).trans (outside_closeFlows)

/-! ### Reassignment -/

section Induction

variable {P : Database → Prop}
  (htransfer : ∀ row c new tier db, P db → P (transferTier row c new tier db))
include htransfer

/-- **Induction over the contributions of a session.** -/
theorem moveContributions_induction
    (hcon : ∀ db contributions, P db → P { db with contributions }) (new : Label)
    (rows : List (ContributionKey × Contribution)) (h : P db) :
    P (rows.foldl (fun db row => moveContribution row.1 row.2 new db) db) := by
  refine List.foldlRecOn _ _ h fun db h row _ => ?_
  unfold moveContribution
  split_ifs
  · exact h
  · exact hcon _ _ (List.foldlRecOn _ _ h fun db h tier _ => htransfer _ _ _ tier db h)

/-- What the transfers keep, and the ledger does not matter to, a reassignment keeps. -/
theorem reassign_induction (hled : ∀ db rollupSessions contributions, P db →
      P { db with rollupSessions, contributions }) (id : SessionId) (inc : FlowAttribution)
    (h : P db) : P (reassign id inc now db) := by
  unfold reassign
  split
  · exact h
  · exact hled _ _ _
      (moveContributions_induction htransfer (fun db => hled db db.rollupSessions) _ _ h)

end Induction

theorem transferTier_kept (row : ContributionKey) (c : Contribution) (new : Label) (tier : Tier) :
    transferTier row c new tier db =
      { db with
        tiers := (transferTier row c new tier db).tiers
        scopes := (transferTier row c new tier db).scopes } := by
  unfold transferTier
  dsimp only
  split_ifs <;> rfl

theorem rollupSessions_moveContributions (new : Label)
    (rows : List (ContributionKey × Contribution)) :
    (rows.foldl (fun db row => moveContribution row.1 row.2 new db) db).rollupSessions =
      db.rollupSessions :=
  moveContributions_induction (P := fun db' => db'.rollupSessions = db.rollupSessions)
    (fun row c new tier db h => by rwa [transferTier_kept]) (fun _ _ h => h) new rows rfl

theorem reassign_kept (id : SessionId) (inc : FlowAttribution) :
    (reassign id inc now db).ingestBatches = db.ingestBatches ∧
      (reassign id inc now db).flowSessions = db.flowSessions :=
  reassign_induction (P := fun db' => db'.ingestBatches = db.ingestBatches ∧
    db'.flowSessions = db.flowSessions) (fun row c new tier db h => by rwa [transferTier_kept])
    (fun _ _ _ h => h) id inc ⟨rfl, rfl⟩

end Netqmon.Storage.Frames
