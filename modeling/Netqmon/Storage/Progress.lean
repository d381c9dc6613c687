import Netqmon.Storage.Operations

/-! # Progress of bounded pruning

A bounded slice of pruning deletes expired contributions, sessions whose time is over and that have
no contribution left, and closes abandoned checkpoints. It reports completion when no expired
contribution, no session whose time is over and no abandoned checkpoint is left.

A session whose time is over is kept as long as it has a contribution that has not expired, and
then no slice reports completion (`not_complete`). Without such a session every slice leaves less
work (`Slice.work_le`), so repeated slices complete (`prune_completes_iff`). -/

namespace Netqmon.Storage.Progress

open Lib.Keyed Protocol.Telemetry Schema Ledger Operations

variable {K V : Type} [DecidableEq K] {scan : Scan} {limit : ℕ}

/-! ### Bounded selections -/

/-- Keys of rows that satisfy `p`, at least one if there is any. -/
structure Takes (p : K → V → Bool) (t : Rows K V) (keys : List K) : Prop where
  sound : ∀ key ∈ keys, ∃ v, t.lookup key = some v ∧ p key v = true
  some : anyRow p t = true → ∃ key, key ∈ keys

variable {p : K → V → Bool} {t : Rows K V}

theorem takes_limited (hlim : 1 ≤ limit) : Takes p t ((limited scan limit p t).map (·.1)) := by
  refine ⟨fun key hkey => ?_, fun hany => ?_⟩
  · obtain ⟨e, he, rfl⟩ := List.mem_map.1 hkey
    exact ⟨e.2, lookup_of_mem_limited he⟩
  · obtain ⟨key, v, hrow⟩ := anyRow_eq_true.1 hany
    have hmem : (key, v) ∈ scan.order (select p t) := (scan.perm _).mem_iff.2 (mem_select.2 hrow)
    obtain ⟨e, rest, hcons⟩ := List.exists_cons_of_ne_nil (List.ne_nil_of_mem hmem)
    obtain ⟨n, rfl⟩ := Nat.exists_eq_add_of_le' hlim
    refine ⟨e.1, List.mem_map_of_mem ?_⟩
    grind [limited]

theorem countRows_deleteKeys_le (keys : List K) : countRows p (deleteKeys keys t) ≤ countRows p t :=
  countRows_deleteWhere_le _

/-! ### One slice -/

def isExpired (now : ℤ) (c : Contribution) : Bool := c.expiresAt ≤ now

def hasContribution (db : Database) (id : SessionId) : Bool :=
  anyRow (fun row _ => row.session = id) db.contributions

def isRemovable (db : Database) (now : ℤ) (id : SessionId) (session : RollupSession) : Bool :=
  isOver now session && !hasContribution db id

/-- What a slice does to the tables. -/
structure Slice (now : ℤ) (s s' : SqliteStorage) (complete : Bool) : Prop where
  contributions : ∃ keys, s'.database.contributions = deleteKeys keys s.database.contributions ∧
    Takes (fun _ c => isExpired now c) s.database.contributions keys
  sessions : ∃ keys, s'.database.rollupSessions = deleteKeys keys s.database.rollupSessions ∧
    Takes (isRemovable s'.database now) s.database.rollupSessions keys
  flowSessions : ∃ keys written, s'.database.flowSessions =
      updateWhere (fun id _ => keys.contains id) (fun _ row => closeAbandoned row) written ∧
    Takes (isAbandoned s'.database now) written keys ∧
    countRows (isAbandoned s'.database now) written ≤
      countRows (isAbandoned s'.database now) s.database.flowSessions
  active : ∃ keys, s'.activeFlows = deleteKeys keys s.activeFlows ∧
    Takes (fun _ flow => isCandidate now flow) s.activeFlows keys
  complete : complete = !(anyRow (fun _ c => isExpired now c) s'.database.contributions
    || anyRow (fun _ session => isOver now session) s'.database.rollupSessions
    || anyRow (isAbandoned s'.database now) s'.database.flowSessions
    || anyRow (fun _ flow => isCandidate now flow) s'.activeFlows)

/-- Writing a session that has ended. -/
structure Closes (now : ℤ) (db db' : Database) : Prop where
  contributions : db'.contributions = db.contributions
  rollupSessions : db'.rollupSessions = db.rollupSessions
  flowSessions : ∀ other, countRows (isAbandoned other now) db'.flowSessions ≤
    countRows (isAbandoned other now) db.flowSessions

variable (now : ℤ)

variable (db : Database) (flow : ActiveFlow)

theorem Closes.refl : Closes now db db := ⟨rfl, rfl, fun _ => le_rfl⟩

theorem Closes.trans {now : ℤ} {db db' db'' : Database} (h : Closes now db db')
    (h' : Closes now db' db'') : Closes now db db'' :=
  ⟨h'.contributions.trans h.contributions, h'.rollupSessions.trans h.rollupSessions,
    fun other => (h'.flowSessions other).trans (h.flowSessions other)⟩

theorem closes_writeFlowSession (endedAt checkpointedAt : ℤ) (db : Database) :
    Closes now db (writeFlowSession flow (some endedAt) checkpointedAt db) := by
  refine ⟨rfl, rfl, fun other => countRows_upsert_le ?_ fun old => ?_⟩
  · rfl
  · split_ifs <;> rfl

theorem closes_closeFlow : Closes now db (closeFlow now db flow) := by
  unfold closeFlow
  split_ifs
  · exact closes_writeFlowSession now flow _ now db
  · exact .refl now db

theorem closes_foldl {now : ℤ} {f : Database → ActiveFlow → Database}
    (h : ∀ db flow, Closes now db (f db flow)) :
    ∀ (flows : List ActiveFlow) (db : Database), Closes now db (flows.foldl f db)
  | [], db => .refl now db
  | flow :: flows, db => (h db flow).trans (closes_foldl h flows _)

theorem slice_pruneReclassificationBounded (nowMs : ℕ) (s : SqliteStorage) :
    Slice (toI64 nowMs) s (pruneReclassificationBounded scan nowMs limit s).2
      (pruneReclassificationBounded scan nowMs limit s).1 := by
  have hlim : 1 ≤ max limit 1 := le_max_right limit 1
  have hlimit' : 1 ≤ max (max limit 1) 1 := le_max_right _ 1
  unfold pruneReclassificationBounded pruneBounded
  dsimp only
  generalize hcands : limited scan (max limit 1) (fun _ flow => isCandidate (toI64 nowMs) flow)
    s.activeFlows = candidates
  have hwr : Closes (toI64 nowMs) s.database ((candidates.map (·.2)).foldl (fun db flow =>
      writeFlowSession flow (some flow.lastSeenAt) (toI64 nowMs) db) s.database) :=
    closes_foldl (fun db flow => closes_writeFlowSession _ flow _ _ db) _ _
  generalize (candidates.map (·.2)).foldl (fun db flow =>
    writeFlowSession flow (some flow.lastSeenAt) (toI64 nowMs) db) s.database = written at hwr ⊢
  generalize (limited scan (max (max limit 1) 1) (fun _ row => isStale (toI64 nowMs) row)
    written.rollupSessions).map (·.2.recovered) = stale
  have hcl := hwr.trans (closes_foldl (closes_closeFlow (toI64 nowMs)) stale written)
  rw [hcl.contributions, hcl.rollupSessions]
  exact {
    contributions := ⟨_, rfl, takes_limited hlimit'⟩
    sessions := ⟨_, rfl, takes_limited hlimit'⟩
    flowSessions := ⟨_, _, rfl, takes_limited hlimit', hcl.flowSessions _⟩
    active := ⟨_, rfl, hcands ▸ takes_limited hlim⟩
    complete := rfl }

/-! ### Work that is left -/

/-- No session whose time is over has a contribution that has not expired. -/
def Clearable (now : ℤ) (db : Database) : Prop :=
  ∀ row c session, db.contributions.lookup row = some c →
    db.rollupSessions.lookup row.session = some session → isOver now session = true →
    isExpired now c = true

instance (now : ℤ) (db : Database) : Decidable (Clearable now db) :=
  decidable_of_iff (anyRow (fun row c => (db.rollupSessions.lookup row.session).any (isOver now)
    && !isExpired now c) db.contributions = false) <| by
    rw [← Bool.not_eq_true, anyRow_eq_true]
    simp only [Bool.and_eq_true, Option.any_eq_true, Bool.not_eq_true', not_exists, not_and,
      Bool.not_eq_false, forall_exists_index, and_imp]
    exact ⟨fun h row c session hrow hsession hover => h row c hrow session hsession hover,
      fun h row c hrow session hsession hover => h row c session hrow hsession hover⟩

def work (now : ℤ) (s : SqliteStorage) : ℕ :=
  countRows (fun _ c => isExpired now c) s.database.contributions
    + countRows (fun _ session => isOver now session) s.database.rollupSessions
    + countRows (isAbandoned s.database now) s.database.flowSessions
    + countRows (fun _ flow => isCandidate now flow) s.activeFlows

section Slices

variable {now : ℤ} {s s' : SqliteStorage} {complete : Bool}

section

variable (h : Slice now s s' complete)
include h

theorem Slice.complete_of_work (hwork : work now s' = 0) : complete = true := by
  unfold work at hwork
  rw [h.complete, countRows_eq_zero.1 (by omega : countRows _ s'.database.contributions = 0),
    countRows_eq_zero.1 (by omega : countRows _ s'.database.rollupSessions = 0),
    countRows_eq_zero.1 (by omega : countRows _ s'.database.flowSessions = 0),
    countRows_eq_zero.1 (by omega : countRows _ s'.activeFlows = 0)]
  rfl

theorem Slice.isAbandoned_eq : isAbandoned s'.database now = isAbandoned s.database now := by
  obtain ⟨keys, hsessions, htakes⟩ := h.sessions
  funext id row
  unfold isAbandoned
  rw [hsessions, deleteKeys, lookup_deleteWhere]
  by_cases hid : id ∈ keys
  · -- a ss whose time is over protects no checkpoint
    obtain ⟨ss, hs, hremovable⟩ := htakes.sound id hid
    have hov := (Bool.and_eq_true_iff.1 hremovable).1
    rw [hs]
    cases hend : ss.endedAt with
    | some ended => simp [hend]
    | none =>
      have hold : ss.updatedAt ≤ now - correctionWindowMs := by
        simpa [isOver, hend] using hov
      have hnot : ¬ now - activeFlowTtlMs < ss.updatedAt := not_lt.2 hold
      simp [hnot]
  · grind

theorem Slice.clearable (hcl : Clearable now s.database) : Clearable now s'.database := by
  obtain ⟨keys, hcon, -⟩ := h.contributions
  obtain ⟨ids, hsessions, -⟩ := h.sessions
  intro row c ss hrow hs
  rw [hcon, lookup_deleteKeys_some] at hrow
  rw [hsessions, lookup_deleteKeys_some] at hs
  exact hcl row c ss hrow.1 hs.1

end

/-- Less is left of each kind of work, if there was any. -/
def Shrinks (n n' : ℕ) : Prop := n' ≤ n ∧ (0 < n → n' < n)

theorem Takes.shrinks {q : K → V → Bool} {keys : List K} (h : Takes q t keys)
    (hq : ∀ key v, q key v = true → p key v = true) (hany : anyRow p t = true → anyRow q t = true) :
    Shrinks (countRows p t) (countRows p (deleteKeys keys t)) := by
  refine ⟨countRows_deleteKeys_le keys, fun hpos => ?_⟩
  have hlf := Bool.of_not_eq_false fun hn => hpos.ne' (countRows_eq_zero.2 hn)
  obtain ⟨key, hkey⟩ := h.some (hany hlf)
  obtain ⟨v, hl, hv⟩ := h.sound key hkey
  exact countRows_deleteWhere_lt hl (hq key v hv) (by simpa using hkey)

section

variable (h : Slice now s s' complete)
include h

theorem Slice.expired_shrinks :
    Shrinks (countRows (fun _ c => isExpired now c) s.database.contributions)
      (countRows (fun _ c => isExpired now c) s'.database.contributions) := by
  obtain ⟨keys, hcon, htakes⟩ := h.contributions
  rw [hcon]
  exact htakes.shrinks (fun _ _ => id) id

theorem Slice.candidates_shrink :
    Shrinks (countRows (fun _ flow => isCandidate now flow) s.activeFlows)
      (countRows (fun _ flow => isCandidate now flow) s'.activeFlows) := by
  obtain ⟨keys, hact, htakes⟩ := h.active
  rw [hact]
  exact htakes.shrinks (fun _ _ => id) id

theorem Slice.over_le :
    countRows (fun _ ss => isOver now ss) s'.database.rollupSessions ≤
      countRows (fun _ ss => isOver now ss) s.database.rollupSessions := by
  obtain ⟨keys, hs, -⟩ := h.sessions
  rw [hs]
  exact countRows_deleteKeys_le _

/-- Once the expired contributions are gone, a session whose time is over has none. -/
theorem Slice.over_shrinks (hcl : Clearable now s.database)
    (hx : countRows (fun _ c => isExpired now c) s.database.contributions = 0) :
    Shrinks (countRows (fun _ ss => isOver now ss) s.database.rollupSessions)
      (countRows (fun _ ss => isOver now ss) s'.database.rollupSessions) := by
  obtain ⟨keys, hs, htakes⟩ := h.sessions
  obtain ⟨gone, hcon, -⟩ := h.contributions
  have hn : ∀ row c, s.database.contributions.lookup row = some c → isExpired now c = false :=
    fun row c hrow => Bool.of_not_eq_true fun hc => Bool.false_ne_true
      ((countRows_eq_zero.1 hx).symm.trans (anyRow_eq_true.2 ⟨row, c, hrow, hc⟩))
  rw [hs]
  refine htakes.shrinks (fun _ _ hq => (Bool.and_eq_true_iff.1 hq).1) fun hany => ?_
  obtain ⟨id, ss, hl, hov⟩ := anyRow_eq_true.1 hany
  refine anyRow_eq_true.2 ⟨id, ss, hl, ?_⟩
  have hem : hasContribution s'.database id = false := by
    refine Bool.of_not_eq_true fun hhas => ?_
    obtain ⟨row, c, hrow, hid⟩ := anyRow_eq_true.1 hhas
    rw [hcon, lookup_deleteKeys_some] at hrow
    have hid : row.session = id := of_decide_eq_true hid
    have hc := hcl row c ss hrow.1 (hid ▸ hl) hov
    rw [hn row c hrow.1] at hc
    cases hc
  rw [isRemovable, hov, hem]
  rfl

theorem Slice.abandoned_shrinks :
    Shrinks (countRows (isAbandoned s.database now) s.database.flowSessions)
      (countRows (isAbandoned s'.database now) s'.database.flowSessions) := by
  obtain ⟨keys, written, hfls, htakes, hwr⟩ := h.flowSessions
  have hcl : ∀ id row, keys.contains id = true →
      isAbandoned s'.database now id (closeAbandoned row) = false := fun _ _ _ => rfl
  have hle : countRows (isAbandoned s'.database now) s'.database.flowSessions ≤
      countRows (isAbandoned s'.database now) written := by
    rw [hfls]
    refine countRows_updateWhere_le fun id row hid hrow => ?_
    cases hrow
  rw [← h.isAbandoned_eq]
  refine ⟨hle.trans hwr, fun hpos => ?_⟩
  cases hany : anyRow (isAbandoned s'.database now) written with
  | false =>
    rw [← countRows_eq_zero] at hany
    omega
  | true =>
    obtain ⟨id, hid⟩ := htakes.some hany
    obtain ⟨row, hl, hrow⟩ := htakes.sound id hid
    rw [hfls]
    exact (countRows_updateWhere_lt hcl hl hrow (by simpa using hid)).trans_le hwr

theorem Slice.work_le (hcl : Clearable now s.database) : work now s' ≤ work now s - 1 := by
  obtain ⟨hx, hexpired'⟩ := h.expired_shrinks
  obtain ⟨habandoned, habandoned'⟩ := h.abandoned_shrinks
  obtain ⟨hcands, hcandidates'⟩ := h.candidates_shrink
  have hov := h.over_le
  have hover' := fun hz => (h.over_shrinks hcl hz).2
  unfold work
  omega

/-- A session whose time is over stays with its contribution. -/
theorem Slice.not_complete (hnot : ¬ Clearable now s.database) :
    ¬ Clearable now s'.database ∧ complete = false := by
  obtain ⟨keys, hcon, hks⟩ := h.contributions
  obtain ⟨ids, hsessions, hids⟩ := h.sessions
  simp only [Clearable, not_forall] at hnot
  obtain ⟨row, c, session, hrow, hs, hov, hc⟩ := hnot
  have hrow' : s'.database.contributions.lookup row = some c := by
    rw [hcon, lookup_deleteKeys_some]
    refine ⟨hrow, fun hmem => ?_⟩
    obtain ⟨c', hrow', hc'⟩ := hks.sound row hmem
    grind
  have hsession' : s'.database.rollupSessions.lookup row.session = some session := by
    rw [hsessions, lookup_deleteKeys_some]
    refine ⟨hs, fun hmem => ?_⟩
    obtain ⟨_, _, hremovable⟩ := hids.sound _ hmem
    have hhas : hasContribution s'.database row.session = true :=
      anyRow_eq_true.2 ⟨row, c, hrow', decide_eq_true rfl⟩
    grind [isRemovable]
  refine ⟨fun hcl => hc (hcl row c session hrow' hsession' hov), ?_⟩
  have hany : anyRow (fun _ session => isOver now session) s'.database.rollupSessions = true :=
    anyRow_eq_true.2 ⟨row.session, session, hsession', hov⟩
  rw [h.complete, hany]
  simp

end

end Slices

/-! ### Repeated slices -/

/-- The storage after the first slices. Every slice scans the tables in an order of its own. -/
def afterSlices (scans : ℕ → Scan) (nowMs limit : ℕ) (storage : SqliteStorage) : ℕ → SqliteStorage
  | 0 => storage
  | n + 1 => (pruneReclassificationBounded (scans n) nowMs limit
      (afterSlices scans nowMs limit storage n)).2

/-- What the slice after the first `n` reports. -/
def reportsComplete (scans : ℕ → Scan) (nowMs limit : ℕ) (storage : SqliteStorage) (n : ℕ) : Bool :=
  (pruneReclassificationBounded (scans n) nowMs limit (afterSlices scans nowMs limit storage n)).1

section Repeated

variable (scans : ℕ → Scan) (nowMs limit : ℕ) (storage : SqliteStorage)

theorem slice_afterSlices (n : ℕ) :
    Slice (toI64 nowMs) (afterSlices scans nowMs limit storage n)
      (afterSlices scans nowMs limit storage (n + 1))
      (reportsComplete scans nowMs limit storage n) :=
  slice_pruneReclassificationBounded nowMs _

theorem clearable_afterSlices {storage : SqliteStorage}
    (hcl : Clearable (toI64 nowMs) storage.database) :
    ∀ n, Clearable (toI64 nowMs) (afterSlices scans nowMs limit storage n).database
  | 0 => hcl
  | n + 1 => (slice_afterSlices scans nowMs limit storage n).clearable (clearable_afterSlices hcl n)

theorem not_clearable_afterSlices {storage : SqliteStorage}
    (hnot : ¬ Clearable (toI64 nowMs) storage.database) :
    ∀ n, ¬ Clearable (toI64 nowMs) (afterSlices scans nowMs limit storage n).database
  | 0 => hnot
  | n + 1 => ((slice_afterSlices scans nowMs limit storage n).not_complete
      (not_clearable_afterSlices hnot n)).1

theorem work_afterSlices {storage : SqliteStorage}
    (hcl : Clearable (toI64 nowMs) storage.database) (n : ℕ) :
    work (toI64 nowMs) (afterSlices scans nowMs limit storage n) ≤
      work (toI64 nowMs) storage - n := by
  induction n with
  | zero => exact le_rfl
  | succ n ih =>
    have hle := (slice_afterSlices scans nowMs limit storage n).work_le
      (clearable_afterSlices scans nowMs limit hcl n)
    omega

theorem not_reportsComplete {storage : SqliteStorage}
    (hnot : ¬ Clearable (toI64 nowMs) storage.database) (n : ℕ) :
    reportsComplete scans nowMs limit storage n = false :=
  ((slice_afterSlices scans nowMs limit storage n).not_complete
    (not_clearable_afterSlices scans nowMs limit hnot n)).2

/-- **Progress of bounded pruning.** Repeated slices at a fixed time complete if and only if no
session whose time is over has a contribution that has not expired. -/
theorem prune_completes_iff :
    (∃ n, reportsComplete scans nowMs limit storage n = true) ↔
      Clearable (toI64 nowMs) storage.database := by
  constructor
  · grind [not_reportsComplete]
  · intro hclear
    refine ⟨work (toI64 nowMs) storage, ?_⟩
    have hwork := work_afterSlices scans nowMs limit hclear (work (toI64 nowMs) storage + 1)
    exact (slice_afterSlices scans nowMs limit storage _).complete_of_work (by omega)

end Repeated

/-- A flow ends. Ten minutes later the time of its session is over, but its contribution expires
only after thirty minutes. -/
def endedStorage : SqliteStorage :=
  run [.persist (sampleBatch 1 1000 lifecycleEnded) [] (sampleTime + 2000)]

theorem not_clearable_endedStorage :
    ¬ Clearable (toI64 (sampleTime + 900000)) endedStorage.database := by
  decide +kernel

/-- At the same time in between, every slice reports that work is left. -/
theorem prune_blocked_by_ended_flow :
    ¬ ∃ scans limit n, reportsComplete scans (sampleTime + 900000) limit endedStorage n = true := by
  rintro ⟨scans, limit, n, hcomplete⟩
  rw [not_reportsComplete scans _ limit not_clearable_endedStorage n] at hcomplete
  cases hcomplete

/-- After thirty minutes the slices complete. -/
theorem prune_completes_later :
    ∃ n, reportsComplete (fun _ => .asStored) (sampleTime + 1900000) 1000 endedStorage n = true :=
  (prune_completes_iff _ _ _ _).2 (by decide +kernel)

end Netqmon.Storage.Progress
