import Netqmon.Storage.Labels

/-! # Counters do not go negative

Reclassification takes remembered counts away from the rows they were put into. As long as the tables
cover the contributions (`Covered`) nothing goes below zero. Retention can break this: the minute of a
batch is chosen by the clock of the agent, and a row that retention deletes may have contributions
that can still be corrected. If other traffic then brings the row back, correcting them takes more
than is there (`stale_clock_goes_negative`). The ledger can also lose track of labels, when receipt
times go back or when a flow has a direction that samples do not try. `isCareful` asks that an
operation does none of this; then no counter is ever negative (`counters_nonnegative`). -/

namespace Netqmon.Storage.NonNegative

open Lib.Keyed Traffic Schema Ledger Operations Retention
open Frames Dimensions Coverage Labels

/-! ### Careful operations -/

/-- A retention pass keeps the rows that a contribution was put into, or the contribution is past
correcting. -/
def isSpared (pass : RetentionPass) (row : ContributionKey) (c : Contribution) : Bool :=
  c.expiresAt ≤ toI64 pass.nowMs
    || [Tier.minute, .hour, .day].all fun tier => pass.policy.tierDays tier = 0
      || retentionCutoff (toI64 pass.nowMs) (pass.policy.tierDays tier)
        ≤ row.timestamp / tier.size * tier.size

/-- An operation that does not go back in time, has no flows that samples miss, and deletes no row
that can still be corrected. -/
def isCareful (clock : ℤ) (storage : SqliteStorage) : RetainingOp → Bool
  | .operate (.persist batch _ receivedAtMs) =>
    clock ≤ toI64 receivedAtMs && batch.flows.all fun flow => isSampled flow.direction
  | .operate (.reclassify _ _ _ _ receivedAtMs) => clock ≤ toI64 receivedAtMs
  | .operate (.prune _) => true
  | .operate (.pruneBounded _ _ _) => true
  | .operate (.rollUp _) => true
  | .retain pass => !anyRow (fun row c => !isSpared pass row c) storage.database.contributions

/-- The last receipt time. -/
def clockAfter (clock : ℤ) : RetainingOp → ℤ
  | .operate (.persist _ _ receivedAtMs) => toI64 receivedAtMs
  | .operate (.reclassify _ _ _ _ receivedAtMs) => toI64 receivedAtMs
  | .operate (.prune _) => clock
  | .operate (.pruneBounded _ _ _) => clock
  | .operate (.rollUp _) => clock
  | .retain _ => clock

/-- Every operation of a run is careful in the state it finds. -/
def areCareful : ℤ → SqliteStorage → List RetainingOp → Bool
  | _, _, [] => true
  | clock, storage, op :: ops =>
    isCareful clock storage op && areCareful (clockAfter clock op) (retainingStep storage op) ops

/-! ### Pruning -/

variable {c : Contribution}

variable {key : ContributionKey}

variable {scan : Scan} {limit : ℕ}

section Prune

variable {db : Database} {clock : ℤ} {storage : SqliteStorage}

theorem covered_closeFlows (h : Covered db) (now : ℤ) (flows : List ActiveFlow) :
    Covered (flows.foldl (closeFlow now) db) := by
  rw [closeFlows_eq]
  exact h.of_eq rfl rfl rfl

theorem covered_prune (h : Covered db) (now : ℤ) : Covered (prune now db) := by
  have hcl := covered_closeFlows h now
    ((select (fun _ row => isStale now row) db.rollupSessions).map (·.2.recovered))
  let closed := ((select (fun _ row => isStale now row) db.rollupSessions).map
    (·.2.recovered)).foldl (closeFlow now) db
  have hunexpired : Covered { closed with
      contributions := deleteWhere (fun _ c => c.expiresAt ≤ now) closed.contributions } :=
    hcl.deleteContributions (p := fun _ c => c.expiresAt ≤ now) rfl rfl rfl
  exact hunexpired.deleteContributions
    (p := fun row _ => (closed.rollupSessions.lookup row.session).any (isOver now)) rfl rfl rfl

theorem covered_pruneBounded (h : Covered db) (now : ℤ) :
    Covered (pruneBounded scan now limit db).2 := by
  have hcl := covered_closeFlows h now
    ((limited scan (max limit 1) (fun _ row => isStale now row) db.rollupSessions).map
      (·.2.recovered))
  let closed := ((limited scan (max limit 1) (fun _ row => isStale now row)
    db.rollupSessions).map (·.2.recovered)).foldl (closeFlow now) db
  let expired := (limited scan (max limit 1) (fun _ c => c.expiresAt ≤ now)
    closed.contributions).map (·.1)
  exact hcl.deleteContributions (p := fun key _ => expired.contains key) rfl rfl rfl

theorem reliable_pruneReclassificationBounded (h : Reliable clock storage) (scan : Scan)
    (nowMs limit : ℕ) :
    Reliable clock (pruneReclassificationBounded scan nowMs limit storage).2 := by
  refine ⟨h.labelled.pruneReclassificationBounded scan nowMs limit, ?_⟩
  rw [pruneReclassificationBounded_snd]
  exact covered_pruneBounded (covered_closeFlows h.covered _ _) _

theorem unexpired_of_complete {nowMs : ℕ}
    (hcomp : (pruneReclassificationBounded scan nowMs limit storage).1 = true)
    (hc : (pruneReclassificationBounded scan nowMs limit storage).2.database.contributions.lookup
      key = some c) :
    toI64 nowMs < c.expiresAt := by
  unfold pruneReclassificationBounded pruneBounded at hcomp hc
  simp only [Bool.not_eq_true', Bool.or_eq_false_iff] at hcomp
  by_contra hx
  have hany := hcomp.1.1.1
  rw [Bool.eq_false_iff, Ne, anyRow_eq_true] at hany
  exact hany ⟨key, c, hc, decide_eq_true (not_lt.1 hx)⟩

end Prune

variable {row : ContributionKey} {tier : Tier} {task : RetentionTask} {table : Counters}

variable {tier' : Tier} {dnsDeleted : ℕ}

/-! ### Retention -/

section Retention

variable {db db' : Database} {now : ℤ} {policy : RetentionPolicy}

/-- Every contribution lies in rows that are kept. -/
def Kept (now : ℤ) (policy : RetentionPolicy) (db : Database) : Prop :=
  ∀ row c, db.contributions.lookup row = some c → ∀ tier, policy.tierDays tier ≠ 0 →
    retentionCutoff now (policy.tierDays tier) ≤ row.timestamp / tier.size * tier.size

theorem share_apply_eq_zero {x : Place} (h : ∀ part ∈ parts row c, part.1 ≠ x) : share row c x = 0 := by
  unfold share
  generalize parts row c = l at h
  induction l with
  | nil => rfl
  | cons part l ih =>
    rw [List.forall_mem_cons] at h
    rw [List.map_cons, List.sum_cons, Finsupp.add_apply, ih h.2, add_zero]
    exact Finsupp.single_eq_of_ne h.1.symm

theorem held_apply_eq_zero {x : Place}
    (h : ∀ row c, db.contributions.lookup row = some c → ∀ part ∈ parts row c, part.1 ≠ x) :
    held db x = 0 := by
  have hsum : ∀ l : List (Sigma fun _ : ContributionKey => Contribution),
      (∀ e ∈ l, share e.1 e.2 x = 0) → (l.map fun e => share e.1 e.2).sum x = 0 := by
    intro l
    induction l with
    | nil => exact fun _ => rfl
    | cons e l ih =>
      intro hl
      rw [List.forall_mem_cons] at hl
      rw [List.map_cons, List.sum_cons, Finsupp.add_apply, hl.1, ih hl.2, add_zero]
  exact hsum _ fun e he => share_apply_eq_zero (h e.1 e.2 (lookup_eq_some_iff.2 he))

/-- Emptying places where no contribution is. -/
theorem covered_of_emptied (h : Covered db) (hcon : db'.contributions = db.contributions)
    (hcont : ∀ x, contents db' x = contents db x ∨ contents db' x = 0 ∧ held db x = 0) :
    Covered db' := by
  refine ⟨fun x => ?_, ?_⟩
  · have hh : held db' = held db := by rw [held, held, hcon]
    have hsl := h.slack x
    grind [slack, Finsupp.sub_apply, sub_zero]
  · rw [hcon]
    exact h.graded

theorem timestamp_parts {part : Place × Metrics} (hpt : part ∈ parts row c) :
    match part.1 with
    | .row tier b => b.timestamp = row.timestamp / tier.size * tier.size
    | .queue tier b => b.timestamp = row.timestamp / tier.size * tier.size
    | .scope k => k.timestamp = row.timestamp / Tier.minute.size * Tier.minute.size := by
  simp only [parts, List.flatMap_cons, List.flatMap_nil, List.cons_append, List.nil_append,
    List.mem_cons, List.not_mem_nil, or_false] at hpt
  rcases hpt with rfl | rfl | rfl | rfl | rfl | rfl | rfl | rfl | rfl | rfl | rfl <;> rfl

theorem value_deleteKeys {K : Type} [DecidableEq K] (keys : List K) (t : Rows K Metrics) (key : K) :
    value (deleteKeys keys t) key = if key ∈ keys then 0 else value t key := by
  rw [value, deleteKeys, lookup_deleteWhere, value]
  by_cases hkey : key ∈ keys
  · cases t.lookup key <;> simp [hkey]
  · cases t.lookup key <;> simp [Option.filter, hkey]

theorem held_row_eq_zero (h : Kept now policy db) (hdays : policy.tierDays tier ≠ 0) {b : Bucket}
    (hb : b.timestamp < retentionCutoff now (policy.tierDays tier)) :
    held db (.row tier b) = 0 ∧ held db (.queue tier b) = 0 := by
  constructor
  all_goals
    refine held_apply_eq_zero fun row c hc part hpt heq => ?_
    have htime := timestamp_parts hpt
    rw [heq] at htime
    have hk := h row c hc tier hdays
    omega

theorem cutoff_of_mem (h : task ∈ retentionTasks now policy) :
    match task.table with
    | .queue _ tier => policy.tierDays tier ≠ 0 ∧
      task.cutoff = retentionCutoff now (policy.tierDays tier)
    | .rollup _ tier => policy.tierDays tier ≠ 0 ∧
      task.cutoff = retentionCutoff now (policy.tierDays tier)
    | .scopeMinute => policy.minuteDays ≠ 0 ∧ task.cutoff = retentionCutoff now policy.minuteDays
    | .flowSessions => True
    | .ingestBatches => True
    | .dns => True := by
  have hadd : ∀ {table days}, task ∈ addTask now table days →
      task.table = table ∧ days ≠ 0 ∧ task.cutoff = retentionCutoff now days := by
    intro table days hmem
    unfold addTask at hmem
    split_ifs at hmem with hdays
    · grind
    · cases hmem
  simp only [retentionTasks, List.mem_append, List.mem_flatMap, List.mem_singleton] at h
  rcases h with ((((⟨dim, _, tier, _, h⟩ | h) | h) | h) | ⟨dim, _, tier, _, h⟩) | rfl
  · grind
  · rw [(hadd h).1]
    trivial
  · rw [(hadd h).1]
    trivial
  · grind
  · grind
  · trivial

variable (t : Tiers)

theorem pending_setPending :
    (t.setPending tier table).pending tier' =
      if tier' = tier ∧ tier ≠ .minute then table else t.pending tier' := by
  cases tier <;> cases tier' <;> rfl

theorem table_setPending : (t.setPending tier table).table tier' = t.table tier' := by
  cases tier <;> cases tier' <;> rfl

theorem table_setTable :
    (t.setTable tier table).table tier' = if tier' = tier then table else t.table tier' := by
  cases tier <;> cases tier' <;> rfl

theorem value_deleteScopeRow (t : ScopeTables) (k key : ScopeKey) :
    value (deleteScopeRow t k).minute key = if key = k then 0 else value t.minute key := by
  unfold deleteScopeRow
  cases hrow : t.minute.lookup k with
  | none => grind [value]
  | some old => grind [value]

theorem value_deleteScopeRows (rows : List ScopeKey) (t : ScopeTables) (key : ScopeKey) :
    value (rows.foldl deleteScopeRow t).minute key =
      if key ∈ rows then 0 else value t.minute key := by
  induction rows generalizing t with
  | nil => rfl
  | cons row rows ih =>
    rw [List.foldl_cons, ih, value_deleteScopeRow]
    grind

theorem contributions_deleteOld :
    (deleteOld scan limit dnsDeleted task db).2.contributions = db.contributions := by
  unfold deleteOld
  split <;> rfl

/-- Retention deletes no row with counts of a contribution. -/
theorem covered_deleteOld (h : Covered db) (hk : Kept now policy db)
    (hmem : task ∈ retentionTasks now policy) :
    Covered (deleteOld scan limit dnsDeleted task db).2 := by
  have hcut := cutoff_of_mem hmem
  refine covered_of_emptied h (contributions_deleteOld) fun x => ?_
  unfold deleteOld
  cases htable : task.table with
  | queue dim tier =>
    rw [htable] at hcut
    cases x with
    | row tier' b => exact .inl (by rw [contents_row, contents_row, table_setPending])
    | scope k => exact .inl (by rw [contents_scope, contents_scope])
    | queue tier' b =>
      rw [contents_queue, contents_queue, pending_setPending]
      split_ifs with htier
      · obtain ⟨rfl, _⟩ := htier
        rw [value_deleteKeys]
        split_ifs with hdel
        · obtain ⟨row, hrow, rfl⟩ := List.mem_map.1 hdel
          have hdue := (Bool.and_eq_true_iff.1 (lookup_of_mem_limited hrow).2).2
          exact .inr ⟨rfl, (held_row_eq_zero hk hcut.1 (hcut.2 ▸ of_decide_eq_true hdue)).2⟩
        · exact .inl rfl
      · exact .inl rfl
  | rollup dim tier =>
    rw [htable] at hcut
    cases x with
    | queue tier' b => exact .inl (by rw [contents_queue, contents_queue, Balance.pending_setTable])
    | scope k => exact .inl (by rw [contents_scope, contents_scope])
    | row tier' b =>
      rw [contents_row, contents_row, table_setTable]
      split_ifs with htier
      · obtain rfl := htier
        rw [value_deleteKeys]
        split_ifs with hdel
        · obtain ⟨row, hrow, rfl⟩ := List.mem_map.1 hdel
          have hdue := (Bool.and_eq_true_iff.1 (lookup_of_mem_limited hrow).2).2
          exact .inr ⟨rfl, (held_row_eq_zero hk hcut.1 (hcut.2 ▸ of_decide_eq_true hdue)).1⟩
        · exact .inl rfl
      · exact .inl rfl
  | scopeMinute =>
    rw [htable] at hcut
    cases x with
    | row tier' b => exact .inl (by rw [contents_row, contents_row])
    | queue tier' b => exact .inl (by rw [contents_queue, contents_queue])
    | scope k =>
      rw [contents_scope, contents_scope]
      rw [value_deleteScopeRows]
      split_ifs with hdel
      · obtain ⟨row, hrow, rfl⟩ := List.mem_map.1 hdel
        have hold := (lookup_of_mem_limited hrow).2
        refine .inr ⟨rfl, held_apply_eq_zero fun row c hc part hpt heq => ?_⟩
        have htime := timestamp_parts hpt
        rw [heq] at htime
        have hmin := hk row c hc .minute hcut.1
        have hbef := of_decide_eq_true hold
        dsimp only [RetentionPolicy.tierDays] at htime hmin
        omega
      · exact .inl rfl
  | flowSessions => exact .inl rfl
  | ingestBatches => exact .inl rfl
  | dns => exact .inl rfl

theorem labelled_deleteOld {clock : ℤ} {active : Rows FlowKey ActiveFlow}
    (h : Labelled clock active db) :
    Labelled clock active (deleteOld scan limit dnsDeleted task db).2 := by
  have hled : (deleteOld scan limit dnsDeleted task db).2.rollupSessions = db.rollupSessions := by
    unfold deleteOld
    split <;> rfl
  refine h.sub (fun _ _ hfl => hfl) (fun id row hrow => hled ▸ hrow) (fun id row hrow => ?_)
    fun key c hc => ⟨⟨c, contributions_deleteOld ▸ hc, rfl, rfl⟩,
      fun row hrow => hled.symm ▸ hrow⟩
  have hsto : db.flowSessions.lookup id = some row := by
    unfold deleteOld at hrow
    split at hrow
    · exact hrow
    · exact (lookup_deleteKeys_some.1 hrow).1
    · exact hrow
    · exact hrow
    · exact hrow
    · exact hrow
  exact ⟨row, hsto, rfl, rfl, rfl⟩

end Retention

/-! ### Runs -/

section Runs

variable {clock : ℤ} {storage : SqliteStorage}

theorem reliable_retain (h : Reliable clock storage) (pass : RetentionPass)
    (hca : isCareful clock storage (.retain pass) = true) :
    Reliable clock (retainingStep storage (.retain pass)) := by
  have hpr := reliable_pruneReclassificationBounded h pass.scan pass.nowMs pass.maxRows
  unfold retainingStep runRetentionBounded
  dsimp only
  split_ifs with hcomp
  · exact hpr
  · rw [Bool.not_eq_true, Bool.not_eq_false'] at hcomp
    -- what is left of the ledger can still be corrected, so the pass spares it
    have hk : Kept (toI64 pass.nowMs) pass.policy
        (pruneReclassificationBounded pass.scan pass.nowMs pass.maxRows storage).2.database := by
      intro row c hc tier hdays
      have hfr := unexpired_of_complete hcomp hc
      rw [pruneReclassificationBounded_snd] at hc
      have hrow := (lookup_deleteKeys_some.1 hc).1
      rw [closeFlows_eq, closeFlows_eq] at hrow
      have hspared : isSpared pass row c = true := by
        unfold isCareful at hca
        grind
      unfold isSpared at hspared
      rw [Bool.or_eq_true, decide_eq_true_eq, List.all_eq_true] at hspared
      have htier := hspared.resolve_left (not_le.2 hfr) tier (by cases tier <;> simp)
      rw [Bool.or_eq_true, decide_eq_true_eq, decide_eq_true_eq] at htier
      exact htier.resolve_left hdays
    have hkp := retentionRounds_keeps
      (P := fun db => Labelled clock (pruneReclassificationBounded pass.scan pass.nowMs pass.maxRows
        storage).2.activeFlows db ∧ Covered db ∧ Kept (toI64 pass.nowMs) pass.policy db)
      (fun scan limit dnsDeleted task db hmem hdb => by
        refine ⟨labelled_deleteOld hdb.1,
          covered_deleteOld hdb.2.1 hdb.2.2 hmem, fun row c hc => ?_⟩
        rw [contributions_deleteOld] at hc
        exact hdb.2.2 row c hc)
      pass.turns
      { rowsLimit := max pass.maxRows 1
        done := (retentionTasks (toI64 pass.nowMs) pass.policy).map fun _ => false
        remaining := (retentionTasks (toI64 pass.nowMs) pass.policy).length
        stalled := 0
        index := pass.nowMs / 60000 % (retentionTasks (toI64 pass.nowMs) pass.policy).length }
      _ ⟨hpr.labelled, hpr.covered, hk⟩
    exact ⟨hkp.1, hkp.2.1⟩

theorem reliable_step (h : Reliable clock storage) {op : RetainingOp}
    (hca : isCareful clock storage op = true) :
    Reliable (clockAfter clock op) (retainingStep storage op) := by
  cases op with
  | retain pass => exact reliable_retain h pass hca
  | operate op =>
    cases op with
    | persist b attrs receivedAtMs =>
      obtain ⟨hck, hdirs⟩ := Bool.and_eq_true_iff.1 hca
      exact h.persist b attrs (of_decide_eq_true hck) (List.all_eq_true.1 hdirs)
    | reclassify scan gateway flow attr receivedAtMs =>
      exact h.reclassify scan gateway flow attr (of_decide_eq_true hca)
    | prune nowMs =>
      exact ⟨h.labelled.pruneReclassification nowMs,
        (covered_prune (covered_closeFlows h.covered _ _) _).of_eq rfl rfl rfl⟩
    | pruneBounded scan nowMs limit =>
      exact reliable_pruneReclassificationBounded h scan nowMs limit
    | rollUp nowMs => exact ⟨h.labelled.rollUpHourAndDay nowMs, h.covered.rollUp nowMs⟩

theorem reliable_foldl {ops : List RetainingOp} (h : Reliable clock storage)
    (hca : areCareful clock storage ops = true) :
    Reliable (ops.foldl clockAfter clock) (ops.foldl retainingStep storage) := by
  induction ops generalizing clock storage with
  | nil => exact h
  | cons op ops ih =>
    obtain ⟨hop, hops⟩ := Bool.and_eq_true_iff.1 hca
    exact ih (reliable_step h hop) hops

theorem reliable_run {ops : List RetainingOp} (h : Reliable clock storage)
    (hca : areCareful clock storage ops = true) :
    ∃ clock', Reliable clock' (ops.foldl retainingStep storage) :=
  ⟨_, reliable_foldl h hca⟩

theorem covered_empty : Covered .empty := by
  refine ⟨?_, fun row c hc => absurd hc (Option.some_ne_none c).symm⟩
  exact le_of_eq (sub_zero _).symm

/-- No counter of a row is negative. -/
def InCredit (m : Metrics) : Prop := 0 ≤ m.upload ∧ 0 ≤ m.download ∧ 0 ≤ m.packets ∧ 0 ≤ m.flows

/-- No counter of a traffic table is negative. -/
structure AllInCredit (db : Database) : Prop where
  tiers : ∀ tier b m, (db.tiers.table tier).lookup b = some m → InCredit m
  scopes : ∀ k m, db.scopes.minute.lookup k = some m → InCredit m
  scopeTotals : ∀ K row, db.scopes.total.lookup K = some row → InCredit row.metrics

theorem allInCredit_of_covered {db : Database} (h : Covered db) (hsummed : Summed db.scopes) :
    AllInCredit db := by
  have hcont : 0 ≤ contents db := by
    have hh : 0 ≤ held db :=
      sumOver_nonneg fun row c hc => (h.graded row c hc).share_nonneg row
    exact hh.trans (sub_nonneg.1 h.slack)
  have hsc : ∀ k m, db.scopes.minute.lookup k = some m → 0 ≤ m := by
    intro k m hm
    have hk := hcont (.scope k)
    rw [contents_scope, value, hm] at hk
    exact hk
  refine ⟨fun tier b m hm => ?_, fun k m hm => le_iff.1 (hsc k m hm), fun K row hrow => ?_⟩
  · have hb := hcont (.row tier b)
    rw [contents_row, value, hm] at hb
    exact le_iff.1 hb
  · have htot : 0 ≤ total (isPart K) db.scopes.minute := by
      refine sumOver_nonneg fun k m hm => ?_
      grind
    rw [hsummed K] at hrow
    split_ifs at hrow
    rw [← Option.some.inj hrow]
    exact le_iff.1 htot

/-- **No counter goes negative in a careful run.** -/
theorem counters_nonnegative (ops : List RetainingOp)
    (h : areCareful 0 .empty ops = true) : AllInCredit (retainingRun ops).database := by
  obtain ⟨clock, hreliable⟩ := reliable_run ⟨labelled_empty, covered_empty⟩ h
  exact allInCredit_of_covered hreliable.covered (summed_retainingRun ops)

/-- **Memory and ledger tell the same.** After a careful run a flow in memory has the identity and the
last sight of its ledger row, and every contribution has a ledger row, whose label it carries unless it
is past correcting. -/
theorem memory_agrees_with_ledger (ops : List RetainingOp) (h : areCareful 0 .empty ops = true) :
    Labelled (ops.foldl clockAfter 0) (retainingRun ops).activeFlows (retainingRun ops).database :=
  (reliable_foldl ⟨labelled_empty, covered_empty⟩ h).labelled

end Runs

/-! ### An agent with a stale clock -/

/-- Two deltas of one flow and a delta of another come in batches that were sent at the given time,
with a retention pass between them; then the first flow is classified. -/
def correctedRun (sentAt : ℕ) : List RetainingOp :=
  [.operate (.persist
      { sampleBatch 1 0 1 with sentAt := sentAt, flows := [sampleFlow 0 1, sampleFlow 0 1] } []
      sampleTime),
    .retain
      { scan := .asStored
        turns := List.replicate 40 ⟨.asStored, false, .committed false, 0⟩
        nowMs := sampleTime + 60000
        policy := .default
        maxRows := 500 },
    .operate (.persist
      { sampleBatch 2 0 1 with
        sentAt
        flows := [{ sampleFlow 0 1 with clientPort := 50001 }] } [] (sampleTime + 120000)),
    .operate (.reclassify .asStored "gateway" (sampleFlow 0 1)
      (sampleApplication "tube" "tube.example" (9 / 10)) (sampleTime + 180000))]

theorem counters_nonnegative_corrected : areCareful 0 .empty (correctedRun sampleTime) = true ∧
    AllInCredit (retainingRun (correctedRun sampleTime)).database :=
  ⟨by decide +kernel, counters_nonnegative _ (by decide +kernel)⟩

theorem memory_agrees_corrected : areCareful 0 .empty (correctedRun sampleTime) = true ∧
    Labelled ((correctedRun sampleTime).foldl clockAfter 0)
      (retainingRun (correctedRun sampleTime)).activeFlows
      (retainingRun (correctedRun sampleTime)).database :=
  ⟨by decide +kernel, memory_agrees_with_ledger _ (by decide +kernel)⟩

/-- The agent started before its clock was set, so retention deletes the rows of the first batch. -/
theorem stale_clock_goes_negative :
    ¬ AllInCredit (retainingRun (correctedRun 86400000)).database := by
  intro h
  have hrow : ((retainingRun (correctedRun 86400000)).database.tiers.table .minute).lookup
      ⟨86400000, "gateway", .application "unknown" "unknown"⟩ = some ⟨-1200, 0, -3, -1⟩ := by
    decide +kernel
  exact absurd (h.tiers .minute _ _ hrow).1 (by decide)

end Netqmon.Storage.NonNegative
