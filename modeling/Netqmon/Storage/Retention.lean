import Netqmon.Storage.Operations

/-! # Retention

A retention pass deletes what is older than its policy allows, table by table and in bounded slices,
each in a transaction of its own. How far a pass gets depends on the time it takes and on other
writers: a `Turn` says what happens in one round of the loop. Minute, hour and day rows are deleted
without changing the queues of the tiers above; only the totals of the scope table follow the rows
that are deleted. -/

namespace Netqmon.Storage.Retention

open Lib.Keyed Traffic Schema Ledger Operations

/-! ### Tasks -/

/-- Days to keep; zero keeps everything. -/
structure RetentionPolicy where
  (flowSessionsDays dnsDays minuteDays hourDays dayDays : ℕ)
deriving DecidableEq

def RetentionPolicy.default : RetentionPolicy := ⟨7, 7, 30, 365, 0⟩

def RetentionPolicy.tierDays (policy : RetentionPolicy) : Tier → ℕ
  | .minute => policy.minuteDays
  | .hour => policy.hourDays
  | .day => policy.dayDays

inductive RetentionTable
  | queue (dimension : Dimension) (tier : Tier)
  | flowSessions
  | ingestBatches
  | scopeMinute
  | rollup (dimension : Dimension) (tier : Tier)
  | dns
deriving DecidableEq

structure RetentionTask where
  table : RetentionTable
  cutoff : ℤ
deriving DecidableEq

def retentionCutoff (now : ℤ) (days : ℕ) : ℤ := now - days * dayMs

def addTask (now : ℤ) (table : RetentionTable) (days : ℕ) : List RetentionTask :=
  if days ≠ 0 then [⟨table, retentionCutoff now days⟩] else []

/-- Queues come before the rows they are for. -/
def retentionTasks (now : ℤ) (policy : RetentionPolicy) : List RetentionTask :=
  (dimensions.flatMap fun dimension => [Tier.hour, .day].flatMap fun tier =>
    addTask now (.queue dimension tier) (policy.tierDays tier))
  ++ addTask now .flowSessions policy.flowSessionsDays
  ++ addTask now .ingestBatches policy.minuteDays
  ++ addTask now .scopeMinute policy.minuteDays
  ++ (dimensions.flatMap fun dimension => [Tier.minute, .hour, .day].flatMap fun tier =>
    addTask now (.rollup dimension tier) (policy.tierDays tier))
  ++ [⟨.dns, now⟩]

/-! ### Deleting rows -/

/-- Delete a row; a trigger keeps the totals. -/
def deleteScopeRow (t : ScopeTables) (k : ScopeKey) : ScopeTables :=
  match t.minute.lookup k with
  | none => t
  | some old =>
    { minute := t.minute.erase k
      total := deleteWhere (fun total row => total == k.totalKey && row.sourceRows == 0)
        (updateWhere (fun total _ => total == k.totalKey)
          (fun _ row => ⟨row.metrics - old, row.sourceRows - 1⟩) t.total) }

/-- The number of rows that were deleted, and the database without them. The DNS table is not
modelled; `dnsDeleted` rows of it are found. -/
def deleteOld (scan : Scan) (limit dnsDeleted : ℕ) (task : RetentionTask) (db : Database) :
    ℕ × Database :=
  match task.table with
  | .queue dimension tier =>
    let rows := (limited scan limit (fun b _ => isDue dimension task.cutoff b)
      (db.tiers.pending tier)).map (·.1)
    (rows.length,
      { db with tiers := db.tiers.setPending tier (deleteKeys rows (db.tiers.pending tier)) })
  | .flowSessions =>
    let rows := (limited scan limit (fun _ row => row.lastSeenAt < task.cutoff)
      db.flowSessions).map (·.1)
    (rows.length, { db with flowSessions := deleteKeys rows db.flowSessions })
  | .ingestBatches =>
    let rows := (limited scan limit (fun _ receivedAt => receivedAt < task.cutoff)
      db.ingestBatches).map (·.1)
    (rows.length, { db with ingestBatches := deleteKeys rows db.ingestBatches })
  | .scopeMinute =>
    let rows := (limited scan limit (fun k _ => k.timestamp < task.cutoff)
      db.scopes.minute).map (·.1)
    (rows.length, { db with scopes := rows.foldl deleteScopeRow db.scopes })
  | .rollup dimension tier =>
    let rows := (limited scan limit (fun b _ => isDue dimension task.cutoff b)
      (db.tiers.table tier)).map (·.1)
    (rows.length,
      { db with tiers := db.tiers.setTable tier (deleteKeys rows (db.tiers.table tier)) })
  | .dns => (min dnsDeleted limit, db)

/-- Hours and days wait until nothing older than the cutoff is queued for them. -/
def isBlocked (task : RetentionTask) (db : Database) : Bool :=
  match task.table with
  | .rollup dimension tier =>
    tier ≠ .minute && anyRow (fun b _ => isDue dimension task.cutoff b) (db.tiers.pending tier)
  | _ => false

/-! ### The loop -/

inductive TurnOutcome
  /-- Another writer holds the lock, or the statement failed: the pass ends. -/
  | stopped
  /-- The statement ran into its deadline and was rolled back. -/
  | interrupted (outOfTime : Bool)
  | committed (slow : Bool)
deriving DecidableEq

/-- What happens in one round. -/
structure Turn where
  scan : Scan
  outOfTime : Bool
  outcome : TurnOutcome
  dnsDeleted : ℕ

structure RetentionLoop where
  rowsLimit : ℕ
  done : List Bool
  (remaining stalled index : ℕ)

def halve (rows : ℕ) : ℕ := max (rows / 2) 1

/-- One round per turn. The pass has completed when no task remains. -/
def retentionRounds (tasks : List RetentionTask) :
    List Turn → RetentionLoop → Database → Bool × Database
  | [], loop, db => (loop.remaining == 0, db)
  | turn :: turns, loop, db =>
    let next := (loop.index + 1) % tasks.length
    if loop.remaining = 0 then (true, db)
    else if turn.outOfTime then (false, db)
    else if loop.done.getD loop.index false then
      retentionRounds tasks turns { loop with index := next } db
    else
      match tasks[loop.index]? with
      | none => (false, db)
      | some task =>
        match turn.outcome with
        | .stopped => (false, db)
        | .interrupted outOfTime =>
          if outOfTime then (false, db)
          else retentionRounds tasks turns { loop with rowsLimit := halve loop.rowsLimit } db
        | .committed slow =>
          let rowsLimit := if slow then halve loop.rowsLimit else loop.rowsLimit
          if isBlocked task db then
            if loop.remaining ≤ loop.stalled + 1 then (false, db)
            else
              retentionRounds tasks turns
                { loop with rowsLimit := rowsLimit, stalled := loop.stalled + 1, index := next } db
          else
            let deleted := deleteOld turn.scan loop.rowsLimit turn.dnsDeleted task db
            retentionRounds tasks turns
              { rowsLimit
                done := if deleted.1 = 0 then loop.done.set loop.index true else loop.done
                remaining := if deleted.1 = 0 then loop.remaining - 1 else loop.remaining
                stalled := 0
                index := next } deleted.2

/-- A pass prunes the ledger first. -/
def runRetentionBounded (scan : Scan) (turns : List Turn) (nowMs : ℕ) (policy : RetentionPolicy)
    (maxRows : ℕ) (storage : SqliteStorage) : Bool × SqliteStorage :=
  let pruned := pruneReclassificationBounded scan nowMs maxRows storage
  if !pruned.1 then (false, pruned.2)
  else
    let tasks := retentionTasks (toI64 nowMs) policy
    let finished := retentionRounds tasks turns
      { rowsLimit := max maxRows 1
        done := tasks.map fun _ => false
        remaining := tasks.length
        stalled := 0
        index := nowMs / 60000 % tasks.length } pruned.2.database
    (finished.1, { pruned.2 with database := finished.2 })

/-! ### Runs -/

structure RetentionPass where
  scan : Scan
  turns : List Turn
  nowMs : ℕ
  policy : RetentionPolicy
  maxRows : ℕ

/-- The operations of the storage, with retention. -/
inductive RetainingOp
  | operate (op : Op)
  | retain (pass : RetentionPass)

def retainingStep (storage : SqliteStorage) : RetainingOp → SqliteStorage
  | .operate op => step storage op
  | .retain pass =>
    (runRetentionBounded pass.scan pass.turns pass.nowMs pass.policy pass.maxRows storage).2

def retainingRun (ops : List RetainingOp) : SqliteStorage := ops.foldl retainingStep .empty

/-! ### What a round can do -/

/-- **Induction over a pass.** What every deletion of an old row keeps, a pass keeps. -/
theorem retentionRounds_keeps {tasks : List RetentionTask} {P : Database → Prop}
    (hdel : ∀ scan limit dnsDeleted task db, task ∈ tasks → P db →
      P (deleteOld scan limit dnsDeleted task db).2)
    (turns : List Turn) (loop : RetentionLoop) (db : Database) (h : P db) :
    P (retentionRounds tasks turns loop db).2 := by
  induction turns generalizing loop db with
  | nil => exact h
  | cons turn turns ih =>
    unfold retentionRounds
    by_cases hrem : loop.remaining = 0
    · rw [if_pos hrem]
      exact h
    by_cases htime : turn.outOfTime = true
    · grind
    by_cases hdn : loop.done.getD loop.index false = true
    · rw [if_neg hrem, if_neg htime, if_pos hdn]
      exact ih _ db h
    rw [if_neg hrem, if_neg htime, if_neg hdn]
    split
    · exact h
    · rename_i task htask
      split
      · exact h
      · by_cases hlate : ‹Bool› = true
        · rw [if_pos hlate]
          exact h
        · rw [if_neg hlate]
          exact ih _ db h
      · by_cases hbl : isBlocked task db = true
        · rw [if_pos hbl]
          by_cases hstalled : loop.remaining ≤ loop.stalled + 1
          · rw [if_pos hstalled]
            exact h
          · rw [if_neg hstalled]
            exact ih _ db h
        · rw [if_neg hbl]
          exact ih _ _ (hdel _ _ _ _ _ (List.mem_of_getElem? htask) h)

end Netqmon.Storage.Retention
