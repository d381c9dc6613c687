import Netqmon.Storage.Recomputation
import Netqmon.Storage.Retention

/-! # All dimensions count the same traffic

A delta is added to the application, domain, destination and scope rows of its minute at once, and to
the total row when the collected deltas of the batch are written. `Accounted` says that every
dimension exceeds the total by what is still to be written. Corrections move counts between rows of
one gateway and minute, so they change no sum.

The totals of the scope table follow its rows through triggers: `Summed` is kept by every statement,
retention included. -/

namespace Netqmon.Storage.Dimensions

open Lib.Keyed Protocol.Telemetry Attribution Traffic Schema Ledger Batch Operations Retention
open Frames Recomputation

/-! ### Totals of the scope table -/

section ScopeTotals

variable {t : ScopeTables} {k : ScopeKey} {m : Metrics} {K : ScopeTotalKey}

/-- The scope rows that a total row adds up. -/
def isPart (K : ScopeTotalKey) (k : ScopeKey) : Bool := k.totalKey = K

/-- Every total row has the sum and the number of its scope rows. -/
def Summed (t : ScopeTables) : Prop :=
  ∀ K, t.total.lookup K =
    if countRows (fun k _ => isPart K k) t.minute = 0 then none
    else some ⟨total (isPart K) t.minute, countRows (fun k _ => isPart K k) t.minute⟩

theorem countRows_insert (t : Rows ScopeKey Metrics) (k : ScopeKey) (m : Metrics) :
    countRows (fun k _ => isPart K k) (t.insert k m) +
        (if isPart K k && (t.lookup k).isSome then 1 else 0) =
      countRows (fun k _ => isPart K k) t + if isPart K k then 1 else 0 := by
  have h := sumOver_insert (fun k _ => if isPart K k then 1 else 0) t k m
  rw [countRows_eq_sumOver, countRows_eq_sumOver, ← h]
  cases t.lookup k <;> simp

theorem countRows_erase (t : Rows ScopeKey Metrics) (k : ScopeKey) :
    countRows (fun k _ => isPart K k) (t.erase k) +
        (if isPart K k && (t.lookup k).isSome then 1 else 0) =
      countRows (fun k _ => isPart K k) t := by
  have h := sumOver_erase (fun k _ => if isPart K k then 1 else 0) t k
  rw [countRows_eq_sumOver, countRows_eq_sumOver, ← h]
  cases t.lookup k <;> simp

theorem total_erase (t : Rows ScopeKey Metrics) (k : ScopeKey) :
    total (isPart K) (t.erase k) + (if isPart K k then value t k else 0) = total (isPart K) t := by
  have h := sumOver_erase (fun k v => if isPart K k then v else 0) t k
  rw [total, total, ← h, value]
  cases t.lookup k <;> simp

theorem countRows_pos {old : Metrics} (h : t.minute.lookup k = some old) :
    countRows (fun row _ => isPart k.totalKey row) t.minute ≠ 0 := by
  rw [Ne, countRows_eq_zero, Bool.not_eq_false, anyRow_eq_true]
  exact ⟨k, old, h, decide_eq_true rfl⟩

theorem Summed.adjustScope (h : Summed t) : Summed (adjustScope k m t) := by
  intro K
  have hrs := countRows_insert (K := K) t.minute k (value t.minute k + m)
  have hsum := total_adjust (isPart K) t.minute k m
  unfold Traffic.adjustScope
  rw [hsum]
  rw [← adjust_eq_insert] at hrs
  cases hold : t.minute.lookup k with
  | none =>
    rw [hold, Option.isSome_none, Bool.and_false, if_neg Bool.false_ne_true, add_zero] at hrs
    rw [lookup_upsert, hrs]
    by_cases hK : K = k.totalKey
    · have hpt : isPart K k = true := decide_eq_true hK.symm
      rw [if_pos hK, h k.totalKey, hK]
      grind [total_eq_zero]
    · have hpt : isPart K k = false := decide_eq_false (Ne.symm hK)
      rw [if_neg hK, hpt, h K]
      simp
  | some old =>
    rw [hold, Option.isSome_some, Bool.and_true, Nat.add_right_cancel_iff] at hrs
    rw [lookup_updateWhere, hrs, h K]
    by_cases hK : K = k.totalKey
    · have hpt : isPart K k = true := decide_eq_true hK.symm
      have hct := countRows_pos hold
      rw [← hK] at hct
      rw [if_neg hct, if_neg hct, if_pos hpt, Option.map_some]
      by_cases hm : old = old + m
      · have hz : m = 0 := by
          have := add_left_cancel (c := m) (by rw [add_zero, ← hm])
          exact this.symm
        simp [hz]
      · have hne : (K == k.totalKey && old != old + m) = true := by simp [hK, hm]
        rw [if_pos hne, add_sub_assoc, add_sub_cancel_left]
    · have hpt : isPart K k = false := decide_eq_false (Ne.symm hK)
      have hne : ∀ old', (K == k.totalKey && old != old') = false := by simp [hK]
      rw [hpt]
      simp [hne]

theorem Summed.deleteScopeRow (h : Summed t) : Summed (deleteScopeRow t k) := by
  unfold Retention.deleteScopeRow
  cases hold : t.minute.lookup k with
  | none => exact h
  | some old =>
    intro K
    have hrs := countRows_erase (K := K) t.minute k
    have hsum := total_erase (K := K) t.minute k
    have hv : value t.minute k = old := by rw [value, hold]; rfl
    rw [hold, Option.isSome_some, Bool.and_true] at hrs
    rw [hv] at hsum
    rw [lookup_deleteWhere, lookup_updateWhere, h K]
    by_cases hK : K = k.totalKey
    · have hpt : isPart K k = true := decide_eq_true hK.symm
      have hct := countRows_pos hold
      rw [← hK] at hct
      rw [if_pos hpt] at hrs hsum
      have hkey : (K == k.totalKey) = true := beq_iff_eq.2 hK
      rw [if_neg hct, Option.map_some, if_pos hkey, ← hrs, ← hsum]
      by_cases hem : countRows (fun row _ => isPart K row) (t.minute.erase k) = 0
      · grind
      · simp [hem]
    · have hpt : isPart K k = false := decide_eq_false (Ne.symm hK)
      grind

theorem Summed.deleteZeroScope (h : Summed t) : Summed (deleteZeroScope k t) := by
  have hdel : Summed (Retention.deleteScopeRow t k) := h.deleteScopeRow
  grind [Retention.deleteScopeRow, Traffic.deleteZeroScope]

/-- The counters of the total rows. -/
def scopeTotals (t : ScopeTables) : Rows ScopeTotalKey Metrics := mapRows ScopeTotal.metrics t.total

theorem Summed.value_scopeTotals (h : Summed t) (K : ScopeTotalKey) :
    value (scopeTotals t) K = total (isPart K) t.minute := by
  rw [value, scopeTotals, lookup_mapRows, h K]
  split_ifs with hct
  · rw [total_eq_zero hct]
    rfl
  · rfl

end ScopeTotals

/-! ### Sums of a gateway and minute -/

variable {storage : SqliteStorage}

variable {deviceId : Option ℤ} {target : Tier}

variable {dimension : Dimension} {attribution : FlowAttribution}

section Sums

variable {t : Tiers} {db : Database} {gateway : String} {minute : ℤ}

/-- The rows of a dimension that belong to a gateway and minute. -/
def inMinute (dimension : Dimension) (gateway : String) (minute : ℤ) (b : Bucket) : Bool :=
  b.key.dimension == dimension && b.gatewayId == gateway && b.timestamp == minute

def scopeInMinute (gateway : String) (minute : ℤ) (k : ScopeKey) : Bool :=
  k.gatewayId == gateway && k.timestamp == minute

def totalInMinute (gateway : String) (minute : ℤ) (K : ScopeTotalKey) : Bool :=
  K.gatewayId == gateway && K.timestamp == minute

inductive Account
  | dimension (dimension : Dimension)
  | scope

/-- What an account has counted for a gateway and minute. -/
def counted (gateway : String) (minute : ℤ) (db : Database) : Account → Metrics
  | .dimension dimension => total (inMinute dimension gateway minute) db.tiers.minute
  | .scope => total (scopeInMinute gateway minute) db.scopes.minute

/-- The accounts that count every delta. -/
def Account.complete : Account → Bool
  | .dimension .total | .dimension .device => false
  | _ => true

theorem total_transfer_minute {p : Bucket → Bool} {old new : Bucket} (h : p old = p new)
    (m : Metrics) (tier : Tier) :
    total p (transfer (tierTable tier) old new m t).minute = total p t.minute := by
  have hdel : ∀ table : Counters,
      total p (deleteWhere (fun k v => k = old && v = 0) table) = total p table :=
    fun table => total_congr fun k _ => value_deleteWhere (by simp) table
  unfold transfer
  split_ifs with hsm
  · rfl
  · split
    · rfl
    · cases tier with
      | minute =>
        show total p (deleteWhere _ (adjust (adjust t.minute old (-m)) new m)) = _
        grind [total_adjust]
      | hour => rfl
      | day => rfl

theorem total_transfer_scope {p : ScopeKey → Bool} {old new : ScopeKey} (h : p old = p new)
    (m : Metrics) (t : ScopeTables) :
    total p (transfer scopeTable old new m t).minute = total p t.minute := by
  have hdel : ∀ t : ScopeTables, total p (deleteZeroScope old t).minute = total p t.minute := by
    intro t
    unfold deleteZeroScope
    split
    · rfl
    · rename_i row hrow
      split_ifs with hz
      · have her := sumOver_erase (fun k v => if p k then v else 0) t.minute old
        rw [hrow, Option.elim_some, hz, ite_self, add_zero] at her
        exact her
      · rfl
  unfold transfer
  split_ifs with hsm
  · rfl
  · split
    · rfl
    · show total p (deleteZeroScope old (adjustScope new m (adjustScope old (-m) t))).minute = _
      rw [hdel]
      show total p (adjust (adjust t.minute old (-m)) new m) = _
      rw [total_adjust, total_adjust, h]
      split_ifs <;> abel

variable (account : Account)

theorem counted_transferTier (row : ContributionKey) (c : Contribution) (new : Label) (tier : Tier)
    :
    counted gateway minute (transferTier row c new tier db) account =
      counted gateway minute db account := by
  unfold transferTier
  dsimp only
  split
  · rfl
  · cases account with
    | dimension dimension =>
      have happ : ∀ label, inMinute dimension gateway minute
          (tierBucket tier row (applicationKeys label)) =
            inMinute dimension gateway minute (tierBucket tier row (.application "" "")) := by
        intro label
        unfold applicationKeys
        split_ifs <;> rfl
      have hdomain : ∀ old new, inMinute dimension gateway minute (tierBucket tier row (.domain old)) =
          inMinute dimension gateway minute (tierBucket tier row (.domain new)) := fun _ _ => rfl
      show total _ (transfer _ _ _ _ (transfer _ _ _ _ db.tiers)).minute = _
      rw [total_transfer_minute (hdomain _ _),
        total_transfer_minute ((happ _).trans (happ _).symm)]
      rfl
    | scope =>
      have hscope : scopeInMinute gateway minute (scopeKeys row c.label) =
          scopeInMinute gateway minute (scopeKeys row new) := rfl
      split_ifs
      · exact total_transfer_scope hscope _ _
      · rfl

theorem counted_reassign (id : SessionId) (inc : FlowAttribution) (now : ℤ) :
    counted gateway minute (reassign id inc now db) account =
      counted gateway minute db account := by
  refine reassign_induction (P := fun db' => counted gateway minute db' account =
    counted gateway minute db account) (fun row c new tier _ h => ?_) (fun _ _ _ h => ?_) id
    inc rfl
  · rw [counted_transferTier, h]
  · cases account <;> exact h

/-! ### Batches -/

/-- The deltas of a batch belong to this gateway and minute. -/
def concerns (batch : TelemetryBatch) (gateway : String) (minute : ℤ) : Bool :=
  batch.gatewayId == gateway && batchMinute batch == minute

/-- The deltas of a batch that are not in the total row yet. -/
def unwritten (gateway : String) (minute : ℤ) (batch : TelemetryBatch) (totals : TotalRollupBatch) :
    Metrics :=
  if concerns batch gateway minute then totals.delta else 0

variable (batch : TelemetryBatch)

theorem total_adjustRollup_minute (key : DimensionKey) (m : Metrics) :
    total (inMinute dimension gateway minute)
        (adjustRollup .minute (minuteBucket batch key) m t).minute =
      total (inMinute dimension gateway minute) t.minute +
        if key.dimension = dimension ∧ concerns batch gateway minute then m else 0 := by
  have hkey : inMinute dimension gateway minute (minuteBucket batch key) =
      (key.dimension == dimension && concerns batch gateway minute) := by
    unfold inMinute minuteBucket concerns
    rw [Bool.and_assoc]
  show total _ (adjust t.minute (minuteBucket batch key) m) = _
  rw [total_adjust, hkey]
  simp

variable (flow : FlowDelta)

theorem total_upsertRollups (dimension : Dimension) (batch : TelemetryBatch) (flow : FlowDelta)
    (keys : List DimensionKey) (t : Tiers) :
    total (inMinute dimension gateway minute)
        (keys.foldl (fun tiers key => upsertRollup batch flow key tiers) t).minute =
      total (inMinute dimension gateway minute) t.minute +
        ((keys.map DimensionKey.dimension).map fun d =>
          if d = dimension ∧ concerns batch gateway minute then flowMetrics flow else 0).sum := by
  induction keys generalizing t with
  | nil => exact (add_zero _).symm
  | cons key keys ih =>
    rw [List.foldl_cons, ih, upsertRollup, total_adjustRollup_minute, List.map_cons, List.map_cons,
      List.sum_cons, add_assoc]

theorem dimensions_minuteKeys :
    (minuteKeys flow attribution deviceId).map DimensionKey.dimension =
      (deviceId.map fun _ => Dimension.device).toList ++ [.application, .domain, .destination] := by
  have happ : (minuteApplication attribution).dimension = .application := by
    unfold minuteApplication
    split_ifs <;> rfl
  unfold minuteKeys
  rw [List.map_append, List.map_cons, happ]
  cases deviceId <;> rfl

/-- A delta reaches every complete account, and the total row by another way. -/
theorem counted_persistMinuteRollups :
    (account.complete = true →
      counted gateway minute (persistMinuteRollups batch flow attribution deviceId db) account =
        counted gateway minute db account +
          if concerns batch gateway minute then flowMetrics flow else 0) ∧
    (account = .dimension .total →
      counted gateway minute (persistMinuteRollups batch flow attribution deviceId db) account =
        counted gateway minute db account) := by
  cases account with
  | dimension dimension =>
    have hsum := @total_upsertRollups gateway minute dimension batch flow
      (minuteKeys flow attribution deviceId) db.tiers
    rw [dimensions_minuteKeys] at hsum
    refine ⟨fun hcomp => hsum.trans ?_, fun htot => hsum.trans ?_⟩
    · cases deviceId <;> cases dimension <;>
        simp_all [counted, Account.complete]
    · cases deviceId <;> cases dimension <;> simp_all [counted]
  | scope =>
    refine ⟨fun _ => ?_, fun htot => by cases htot⟩
    show total _ (adjust db.scopes.minute _ _) = _
    rw [total_adjust]
    rfl

/-- Something is unwritten only if a delta is. -/
def Sound (totals : TotalRollupBatch) : Prop :=
  0 ≤ totals.delta.flows ∧ (totals.delta.flows = 0 → totals.delta = 0)

/-- Every complete account, with a delta that it is still due, has the total and what is still to be
added to it. -/
structure Accounted (batch : TelemetryBatch) (due : Metrics) (totals : TotalRollupBatch)
    (db : Database) : Prop where
  sound : Sound totals
  even : ∀ gateway minute account, account.complete = true →
    counted gateway minute db account + (if concerns batch gateway minute then due else 0) =
      counted gateway minute db (.dimension .total) + unwritten gateway minute batch totals

theorem counted_total_rows {account : Account} (h : account.complete = true)
    (batch : TelemetryBatch) (m : Metrics) :
    counted gateway minute
        { db with tiers := adjustRollup .minute (minuteBucket batch .total) m db.tiers } account =
      counted gateway minute db account := by
  cases account with
  | dimension dimension =>
    refine (total_adjustRollup_minute batch .total m).trans ?_
    rw [if_neg, add_zero]
    · rfl
    · rintro ⟨rfl, _⟩
      cases h
  | scope => rfl

theorem counted_total_total (m : Metrics) :
    counted gateway minute
        { db with tiers := adjustRollup .minute (minuteBucket batch .total) m db.tiers }
          (.dimension .total) =
      counted gateway minute db (.dimension .total) +
        if concerns batch gateway minute then m else 0 := by
  refine (total_adjustRollup_minute batch .total m).trans ?_
  simp only [DimensionKey.dimension, true_and]
  rfl

variable {db' : Database}

section Accounts

variable {batch : TelemetryBatch} {due : Metrics} {totals totals' : TotalRollupBatch}
  {flow : FlowDelta}

theorem Accounted.congr (h : Accounted batch due totals db) (hd : totals'.delta = totals.delta) :
    Accounted batch due totals' db := by
  refine ⟨?_, fun gateway minute account hac => ?_⟩
  · unfold Sound
    rw [hd]
    exact h.sound
  · rw [h.even gateway minute account hac, unwritten, unwritten, hd]

theorem Accounted.flush (h : Accounted batch due totals db) :
    Accounted batch due (totals.flush batch db.tiers).1
      { db with tiers := (totals.flush batch db.tiers).2 } := by
  refine ⟨⟨le_rfl, fun _ => rfl⟩, fun gateway minute account hac => ?_⟩
  have hev := h.even gateway minute account hac
  have hnothing : unwritten gateway minute batch (totals.flush batch db.tiers).1 = 0 := ite_self _
  rw [hnothing, add_zero]
  unfold TotalRollupBatch.flush
  by_cases hfls : totals.delta.flows = 0
  · rw [if_neg (not_not_intro hfls)]
    rw [unwritten, h.sound.2 hfls, ite_self, add_zero] at hev
    exact hev
  · rw [if_pos hfls, counted_total_rows hac, counted_total_total, hev]
    rfl

theorem Accounted.collect (h : Accounted batch 0 totals db)
    (hd : totals'.delta = totals.delta + flowMetrics flow) :
    Accounted batch (flowMetrics flow) totals' db := by
  refine ⟨?_, fun gateway minute account hac => ?_⟩
  · have hfls : totals'.delta.flows = totals.delta.flows + 1 := congrArg Metrics.flows hd
    have hsound := h.sound.1
    exact ⟨by omega, fun hz => by omega⟩
  · have hev := h.even gateway minute account hac
    grind [unwritten]

theorem Accounted.write (h : Accounted batch 0 totals db) :
    Accounted batch (flowMetrics flow) totals
      { db with tiers := upsertRollup batch flow .total db.tiers } := by
  refine ⟨h.sound, fun gateway minute account hac => ?_⟩
  have hev := h.even gateway minute account hac
  rw [ite_self, add_zero] at hev
  unfold upsertRollup
  rw [counted_total_rows hac, counted_total_total, hev]
  abel

theorem delta_withBase (tiers : Tiers) : (totals.withBase batch tiers).delta = totals.delta := by
  unfold TotalRollupBatch.withBase
  split_ifs
  · split <;> rfl
  · rfl

theorem Accounted.add (h : Accounted batch 0 totals db) :
    Accounted batch (flowMetrics flow) (totals.add batch flow db.tiers).1
      { db with tiers := (totals.add batch flow db.tiers).2 } := by
  have hba : Accounted batch 0 (totals.withBase batch db.tiers) db :=
    h.congr (delta_withBase db.tiers)
  unfold TotalRollupBatch.add
  dsimp only
  split
  · split_ifs
    · exact (hba.collect rfl).flush
    · exact hba.collect rfl
    · exact hba.flush.write.congr rfl
  · exact hba.write

theorem Accounted.persistMinuteRollups (h : Accounted batch (flowMetrics flow) totals db)
    (attribution : FlowAttribution) (deviceId : Option ℤ) :
    Accounted batch 0 totals (persistMinuteRollups batch flow attribution deviceId db) := by
  refine ⟨h.sound, fun gateway minute account hac => ?_⟩
  rw [ite_self, add_zero, (counted_persistMinuteRollups account batch _).1 hac,
    (counted_persistMinuteRollups _ batch _).2 rfl, h.even gateway minute account hac]

theorem Accounted.reassign (h : Accounted batch due totals db) (id : SessionId)
    (inc : FlowAttribution) (now : ℤ) : Accounted batch due totals (reassign id inc now db) := by
  refine ⟨h.sound, fun gateway minute account hac => ?_⟩
  rw [counted_reassign, counted_reassign, h.even gateway minute account hac]

/-- The ledger and the stored sessions are no accounts. -/
theorem Accounted.of_eq (h : Accounted batch due totals db) (htiers : db'.tiers = db.tiers)
    (hsc : db'.scopes = db.scopes) : Accounted batch due totals db' := by
  have hcnt : ∀ gateway minute account,
      counted gateway minute db' account = counted gateway minute db account := by
    intro gateway minute account
    cases account with
    | dimension dimension => rw [counted, counted, htiers]
    | scope => rw [counted, counted, hsc]
  refine ⟨h.sound, fun gateway minute account hac => ?_⟩
  rw [hcnt, hcnt, h.even gateway minute account hac]

theorem Accounted.updateActiveFlow {st : BatchState} (h : Accounted batch 0 st.totals st.db)
    (now : ℤ) (delta : FlowDelta × FlowAttribution) :
    Accounted batch 0 (updateActiveFlow batch now st delta).totals
      (updateActiveFlow batch now st delta).db := by
  have hsettle : ∀ prev cur,
      Accounted batch 0 (settle batch prev cur now st).totals
        (settle batch prev cur now st).db := by
    intro prev cur
    unfold settle
    split_ifs
    · exact h.flush.reassign _ _ _
    · exact h
  have hct : ∀ cur (st : BatchState), Accounted batch 0 st.totals st.db →
      Accounted batch 0 (count batch delta.1 cur now st).totals
        (count batch delta.1 cur now st).db := by
    intro cur st h
    refine Accounted.of_eq ?_ (outside_record _).tiers (outside_record _).scopes
    exact h.add.persistMinuteRollups _ _
  exact (hct _ _ (hsettle _ _)).of_eq outside_checkpoint.tiers outside_checkpoint.scopes

end Accounts

/-! ### Operations -/

/-- Every complete account has the total. -/
def Even (db : Database) : Prop :=
  ∀ gateway minute account, account.complete = true →
    counted gateway minute db account = counted gateway minute db (.dimension .total)

theorem Even.of_eq (h : Even db) (htiers : db'.tiers.minute = db.tiers.minute)
    (hsc : db'.scopes = db.scopes) : Even db' := by
  intro gateway minute account hac
  have hev := h gateway minute account hac
  cases account with
  | dimension dimension => grind [counted]
  | scope => grind [counted]

theorem Even.of_outside (h : Even db) (hsm : Outside db' db) : Even db' :=
  h.of_eq (congrArg Tiers.minute hsm.tiers) hsm.scopes

theorem Accounted.even_flush {batch : TelemetryBatch} {totals : TotalRollupBatch}
    (h : Accounted batch 0 totals db) :
    Even { db with tiers := (totals.flush batch db.tiers).2 } := by
  intro gateway minute account hac
  have hev := h.flush.even gateway minute account hac
  have hnothing : unwritten gateway minute batch (totals.flush batch db.tiers).1 = 0 := ite_self _
  rw [ite_self, add_zero, hnothing, add_zero] at hev
  exact hev

theorem Even.accounted (h : Even db) (batch : TelemetryBatch) : Accounted batch 0 .new db := by
  refine ⟨⟨le_rfl, fun _ => rfl⟩, fun gateway minute account hac => ?_⟩
  rw [h gateway minute account hac]
  rfl

theorem Even.persist (h : Even storage.database) (batch : TelemetryBatch)
    (attrs : List FlowAttribution) (nowMs : ℕ) :
    Even (persistClassifiedBatch batch attrs nowMs storage).2.database := by
  unfold persistClassifiedBatch
  dsimp only
  split_ifs
  · exact h
  · refine Accounted.even_flush ?_
    refine List.foldlRecOn (motive := fun st : BatchState => Accounted batch 0 st.totals st.db) _ _
      ?_ fun st h delta _ => h.updateActiveFlow _ delta
    refine Even.accounted ?_ batch
    exact h.of_eq rfl rfl

theorem Even.reclassify (h : Even storage.database) (scan : Scan) (gateway : String)
    (flow : FlowDelta) (inc : FlowAttribution) (now : ℤ) :
    Even (reclassifySqlite scan gateway flow inc now storage).database := by
  refine List.foldlRecOn _ _ h fun db h ss _ => ?_
  intro gateway minute account hac
  have hev := h gateway minute account hac
  rw [← counted_reassign account ss.1 (merge ss.2 inc) now,
    ← counted_reassign (.dimension .total) ss.1 (merge ss.2 inc) now] at hev
  cases account <;> exact hev

theorem minute_setTable (htgt : target ≠ .minute) (table : Counters) :
    (t.setTable target table).minute = t.minute := by
  cases target
  · exact absurd rfl htgt
  · rfl
  · rfl

theorem minute_setPending (table : Counters) : (t.setPending target table).minute = t.minute := by
  cases target <;> rfl

theorem minute_aggregate (htgt : target ≠ .minute) (cut : ℤ) :
    (aggregate dimension target cut t).minute = t.minute := by
  have hrow : ∀ (t : Tiers) (row : Bucket × Metrics),
      (adjustRollup target row.1 row.2 t).minute = t.minute := by
    intro t row
    cases target
    · exact absurd rfl htgt
    · rfl
    · rfl
  unfold aggregate
  rw [minute_setPending, minute_setTable htgt]
  exact foldl_fixed hrow _ t

theorem minute_rollUpTiers (now : ℤ) : (rollUpTiers now t).minute = t.minute := by
  have hall : ∀ target (t : Tiers), target ≠ Tier.minute →
      (aggregateAll target now t).minute = t.minute := fun target t htgt =>
    foldl_fixed (fun t dimension => minute_aggregate htgt _)
      dimensions t
  rw [rollUpTiers, hall .day _ (by decide), hall .hour _ (by decide)]

theorem scopes_rollUpHourAndDay (nowMs : ℕ) :
    (rollUpHourAndDay nowMs storage).database.scopes = storage.database.scopes := by
  unfold rollUpHourAndDay markAggregated
  rfl

theorem Even.step (h : Even storage.database) (op : Op) : Even (step storage op).database := by
  cases op with
  | persist batch attrs receivedAtMs => exact h.persist batch attrs receivedAtMs
  | reclassify scan gateway flow attribution receivedAtMs =>
    exact h.reclassify scan gateway flow attribution (toI64 receivedAtMs)
  | prune nowMs => exact h.of_outside (outside_pruneReclassification _)
  | pruneBounded scan nowMs limit => exact h.of_outside (outside_pruneReclassificationBounded ..)
  | rollUp nowMs =>
    refine h.of_eq ?_ (scopes_rollUpHourAndDay nowMs)
    rw [Operations.step, tiers_rollUpHourAndDay, minute_rollUpTiers]

theorem even_run (ops : List Op) : Even (run ops).database := by
  refine List.foldlRecOn (motive := fun storage : SqliteStorage => Even storage.database) ops step
    ?_ fun storage h op _ => h.step op
  intro gateway minute account _
  cases account <;> rfl

end Sums

/-! ### Scope totals in a run -/

section Totals

variable {db : Database}

theorem Summed.transfer {t : ScopeTables} (h : Summed t) (old new : ScopeKey) (m : Metrics) :
    Summed (transfer scopeTable old new m t) := by
  unfold Traffic.transfer
  split_ifs
  · exact h
  · split
    · exact h
    · exact h.adjustScope.adjustScope.deleteZeroScope

theorem Summed.reassign (h : Summed db.scopes) (id : SessionId) (inc : FlowAttribution)
    (now : ℤ) : Summed (reassign id inc now db).scopes := by
  refine reassign_induction (P := fun db => Summed db.scopes) (fun row c new tier db h => ?_)
    (fun _ _ _ h => h) id inc h
  unfold transferTier
  dsimp only
  split_ifs
  · exact h
  · exact h.transfer _ _ _
  · exact h

theorem Summed.updateActiveFlow {batch : TelemetryBatch} {st : BatchState} (h : Summed st.db.scopes)
    (now : ℤ) (delta : FlowDelta × FlowAttribution) :
    Summed (updateActiveFlow batch now st delta).db.scopes := by
  have hsettle : ∀ prev cur,
      Summed (settle batch prev cur now st).db.scopes := by
    intro prev cur
    unfold settle
    split_ifs
    · refine Summed.reassign ?_ _ _ _
      exact h
    · exact h
  unfold Batch.updateActiveFlow count
  rw [outside_checkpoint.scopes, (outside_record _).scopes]
  exact (hsettle _ _).adjustScope

theorem Summed.step (h : Summed storage.database.scopes) (op : Op) :
    Summed (step storage op).database.scopes := by
  cases op with
  | persist batch attrs receivedAtMs =>
    unfold Operations.step persistClassifiedBatch
    dsimp only
    split_ifs
    · exact h
    · exact List.foldlRecOn (motive := fun st : BatchState => Summed st.db.scopes) _ _ h
        fun st h delta _ => h.updateActiveFlow _ delta
  | reclassify scan gateway flow attribution receivedAtMs =>
    exact List.foldlRecOn (motive := fun db : Database => Summed db.scopes) _ _ h
      fun db h ss _ => h.reassign _ _ _
  | prune nowMs =>
    rw [Operations.step, (outside_pruneReclassification _).scopes]
    exact h
  | pruneBounded scan nowMs limit =>
    rw [Operations.step, (outside_pruneReclassificationBounded ..).scopes]
    exact h
  | rollUp nowMs =>
    rw [Operations.step, scopes_rollUpHourAndDay]
    exact h

theorem Summed.deleteOld (h : Summed db.scopes) (scan : Scan) (limit dnsDeleted : ℕ)
    (task : RetentionTask) : Summed (deleteOld scan limit dnsDeleted task db).2.scopes := by
  unfold Retention.deleteOld
  split
  case h_4 => exact List.foldlRecOn _ _ h fun t h k _ => h.deleteScopeRow
  all_goals exact h

theorem Summed.retainingStep (h : Summed storage.database.scopes) (op : RetainingOp) :
    Summed (retainingStep storage op).database.scopes := by
  cases op with
  | operate op => exact h.step op
  | retain pass =>
    have hpr : Summed (pruneReclassificationBounded pass.scan pass.nowMs pass.maxRows
        storage).2.database.scopes := by
      rw [(outside_pruneReclassificationBounded ..).scopes]
      exact h
    unfold Retention.retainingStep runRetentionBounded
    dsimp only
    split
    · exact hpr
    · exact retentionRounds_keeps (P := fun db => Summed db.scopes)
        (fun scan limit dnsDeleted task db _ h => h.deleteOld scan limit dnsDeleted task) _ _ _ hpr

theorem summed_empty : Summed .empty := fun _ => rfl

theorem summed_retainingRun (ops : List RetainingOp) : Summed (retainingRun ops).database.scopes :=
  List.foldlRecOn (motive := fun storage : SqliteStorage => Summed storage.database.scopes) ops
    Retention.retainingStep summed_empty fun _ h op _ => h.retainingStep op

theorem summed_run (ops : List Op) : Summed (run ops).database.scopes :=
  List.foldlRecOn (motive := fun storage : SqliteStorage => Summed storage.database.scopes) ops
    Operations.step summed_empty fun _ h op _ => h.step op

end Totals

/-! ### The dimensions -/

/-- The total table has one row for a gateway and minute. -/
theorem counted_total (gateway : String) (minute : ℤ) (db : Database) :
    counted gateway minute db (.dimension .total) =
      value db.tiers.minute ⟨minute, gateway, .total⟩ := by
  refine total_single (fun b => ?_) db.tiers.minute
  obtain ⟨timestamp, gw, key⟩ := b
  have hkey : key.dimension = .total ↔ key = .total := by
    cases key <;> simp [DimensionKey.dimension]
  simp only [inMinute, Bool.and_eq_true, beq_iff_eq, Bucket.mk.injEq]
  tauto

/-- **All dimensions account for the same traffic.** Without retention the application, domain,
destination, scope and scope total rows of a gateway and minute add up to its total row. With
retention every scope total row still has the sum and the number of its scope rows, and there is
one wherever there are such rows. -/
theorem dimensions_agree :
    (∀ (ops : List Op) (gateway : String) (minute : ℤ),
      let db := (run ops).database
      let expected := value db.tiers.minute ⟨minute, gateway, .total⟩
      total (inMinute .application gateway minute) db.tiers.minute = expected ∧
      total (inMinute .domain gateway minute) db.tiers.minute = expected ∧
      total (inMinute .destination gateway minute) db.tiers.minute = expected ∧
      total (scopeInMinute gateway minute) db.scopes.minute = expected ∧
      total (totalInMinute gateway minute) (scopeTotals db.scopes) = expected) ∧
    ∀ (ops : List RetainingOp) (K : ScopeTotalKey),
      let scopes := (retainingRun ops).database.scopes
      let sourceRows := countRows (fun k _ => isPart K k) scopes.minute
      scopes.total.lookup K =
        if sourceRows = 0 then none else some ⟨total (isPart K) scopes.minute, sourceRows⟩ := by
  refine ⟨fun ops gateway minute => ?_, fun ops => summed_retainingRun ops⟩
  have heven := even_run ops gateway minute
  have hscope := heven .scope rfl
  rw [counted_total] at hscope
  refine ⟨(heven (.dimension .application) rfl).trans (counted_total ..),
    (heven (.dimension .domain) rfl).trans (counted_total ..),
    (heven (.dimension .destination) rfl).trans (counted_total ..), hscope, ?_⟩
  exact (total_eq_total
    fun K _ => (summed_run ops).value_scopeTotals K).trans hscope

end Netqmon.Storage.Dimensions
