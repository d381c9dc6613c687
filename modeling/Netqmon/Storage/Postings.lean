import Netqmon.Storage.Coverage

/-! # How deltas are posted

A delta is counted in the minute rows and added to the ledger row of its session with the same keys
(`contents_persistMinuteRollups`, `held_record`). So what the tables hold besides the contributions
grows by the dimensions that have no contributions, and by what the ledger gives up: an expired row
that starts again (`released`), and the rows of a session that ended (`dropped`). The totals that are
not written yet are counted as if they were (`outstanding`). -/

namespace Netqmon.Storage.Postings

open Lib.Keyed Lib.Spread Protocol.Telemetry Attribution Traffic Schema Ledger Batch
open Frames Dimensions Coverage

variable {db : Database} {batch : TelemetryBatch} {flow : FlowDelta} {current : ActiveFlow}
  {now : ℤ}

theorem toI64_nonneg (n : ℕ) : 0 ≤ toI64 n := by
  unfold toI64 i64Max
  omega

theorem flowMetrics_nonneg : 0 ≤ flowMetrics flow :=
  le_iff.2 ⟨toI64_nonneg _, toI64_nonneg _, toI64_nonneg _, zero_le_one⟩

/-! ### Minute rows -/

/-- The ledger row of a delta that starts one. -/
def fresh (current : ActiveFlow) (flow : FlowDelta) (now : ℤ) : Contribution :=
  ⟨labelOf current.attribution, flowMetrics flow, 0, 0, saturatingAdd now correctionWindowMs⟩

theorem graded_fresh : Graded (fresh current flow now) := ⟨le_rfl, le_rfl, flowMetrics_nonneg⟩

theorem share_fresh (row : ContributionKey) : share row (fresh current flow now) =
    labelled .minute row (labelOf current.attribution) (flowMetrics flow) := by
  rw [share_eq]
  simp [fresh]

theorem minuteApplication_eq {attr : FlowAttribution} (h : attr.applicationId ≠ "") :
    minuteApplication attr = applicationKeys (labelOf attr) := by
  unfold minuteApplication applicationKeys labelOf
  simp [known, h, and_assoc]

/-- A delta and its ledger row are about the same minute and gateway. -/
theorem tierBucket_minute (hgw : current.sessionId.key.gatewayId = batch.gatewayId)
    (key : DimensionKey) :
    tierBucket .minute (contributionKey current batch flow) key = minuteBucket batch key := by
  simp only [tierBucket, contributionKey, minuteBucket, batchMinute, Tier.size, minuteMs]
  congr 1
  omega

theorem tierContents_upsertRollups (keys : List DimensionKey) (t : Tiers) :
    tierContents (keys.foldl (fun t key => upsertRollup batch flow key t) t) = tierContents t +
      (keys.map fun key => added .minute (minuteBucket batch key) (flowMetrics flow)).sum := by
  induction keys generalizing t with
  | nil => simp
  | cons key keys ih =>
    rw [List.foldl_cons, ih, upsertRollup, tierContents_adjustRollup, List.map_cons, List.sum_cons,
      add_assoc]

/-- What a delta counts in the dimensions that no contribution remembers. -/
noncomputable def others (batch : TelemetryBatch) (flow : FlowDelta) (deviceId : Option ℤ) :
    Weights :=
  (((deviceId.map DimensionKey.device).toList ++ [DimensionKey.destination flow.remoteIp]).map fun key =>
    added .minute (minuteBucket batch key) (flowMetrics flow)).sum

theorem others_nonneg (deviceId : Option ℤ) : 0 ≤ others batch flow deviceId := by
  refine List.sum_nonneg fun w hw => ?_
  obtain ⟨key, _, rfl⟩ := List.mem_map.1 hw
  exact added_nonneg _ _ (flowMetrics_nonneg)

theorem contents_persistMinuteRollups (hgw : current.sessionId.key.gatewayId = batch.gatewayId)
    (happ : current.attribution.applicationId ≠ "") :
    contents (persistMinuteRollups batch flow current.attribution current.deviceId db) =
      contents db + share (contributionKey current batch flow) (fresh current flow now)
        + others batch flow current.deviceId := by
  have hscope : (scopeKeys (contributionKey current batch flow) (labelOf current.attribution)) =
      { timestamp := batchMinute batch
        gatewayId := batch.gatewayId
        scope := flow.scope
        direction := flow.direction
        deviceId := current.deviceId.getD 0
        applicationId := current.attribution.applicationId
        categoryId := current.attribution.categoryId
        domain := current.attribution.domain.getD "unknown"
        remoteIp := flow.remoteIp
        protocol := flow.protocol
        protocolId := current.attribution.protocolId } := by
    simp only [scopeKeys, contributionKey, batchMinute, minuteMs]
    congr 1
    omega
  rw [contents, contents, share_fresh, labelled, hscope, posted, posted,
    tierBucket_minute hgw, tierBucket_minute hgw, ← minuteApplication_eq happ, others]
  unfold persistMinuteRollups minuteKeys adjustScope
  rw [spread_adjust, tierContents_upsertRollups]
  simp only [List.map_append, List.map_cons, List.sum_append, List.sum_cons, queued,
    AddMonoidHom.add_apply, AddMonoidHom.sub_apply, AddMonoidHom.zero_apply, atPlace, labelOf]
  abel

/-! ### Ledger rows -/

/-- What an expired row stood for. -/
noncomputable def released (now : ℤ) (key : ContributionKey) (db : Database) : Weights :=
  match db.contributions.lookup key with
  | none => 0
  | some c => if c.expiresAt ≤ now then share key c else 0

/-- What the contributions of a session that ended long ago stood for. -/
noncomputable def dropped (id : SessionId) (now : ℤ) (db : Database) : Weights :=
  if (db.rollupSessions.lookup id).any fun row =>
      row.endedAt.any fun ended => saturatingAdd ended endedGraceMs ≤ now then
    sumOver (fun key c => if key.session = id then share key c else 0) db.contributions
  else 0

theorem held_dropEnded (id : SessionId) :
    held (dropEnded id now db) = held db - dropped id now db := by
  unfold dropEnded dropped
  split_ifs
  · have hsp := sumOver_add (fun key c => if key.session = id then 0 else share key c)
      (fun key c => if key.session = id then share key c else 0) db.contributions
    have hall : (fun key c => (if key.session = id then 0 else share key c) +
        if key.session = id then share key c else 0) = share := by
      funext key c
      split_ifs <;> simp
    rw [hall] at hsp
    rw [held, held, sumOver_deleteWhere, hsp]
    simp
  · rw [sub_zero]

/-- The ledger row that a delta is added to, if it has not expired, has the label of the delta. -/
def InLine (current : ActiveFlow) (batch : TelemetryBatch) (flow : FlowDelta) (now : ℤ)
    (db : Database) : Prop :=
  ∀ c, db.contributions.lookup (contributionKey current batch flow) = some c → now < c.expiresAt →
    c.label = labelOf current.attribution

theorem held_recordContribution (h : InLine current batch flow now db) :
    held (recordContribution current batch flow now db) = held db
      - released now (contributionKey current batch flow) db
      + share (contributionKey current batch flow) (fresh current flow now) := by
  have hins : ∀ v, sumOver share (db.contributions.insert (contributionKey current batch flow) v)
      = held db + share (contributionKey current batch flow) v
        - (db.contributions.lookup (contributionKey current batch flow)).elim 0
          (share (contributionKey current batch flow)) :=
    fun v => eq_sub_of_add_eq (sumOver_insert share db.contributions _ v)
  unfold recordContribution released upsert
  rw [held]
  cases hrow : db.contributions.lookup (contributionKey current batch flow) with
  | none =>
    rw [hins, hrow, Option.elim_none, sub_zero, sub_zero]
    rfl
  | some c =>
    dsimp only
    rw [hins, hrow, Option.elim_some]
    split_ifs with hx
    · rw [sub_add_eq_add_sub]
      rfl
    · rw [share_fresh, share_eq, share_eq, h c hrow (not_le.1 hx), map_add]
      abel

theorem contents_record : contents (record current batch flow now db) = contents db := by
  rw [contents, contents, (outside_record _).tiers, (outside_record _).scopes]

theorem contributions_recordSession :
    (recordSession current flow now db).contributions = db.contributions := rfl

/-- The state in which a delta finds its ledger row. -/
def beforeRecord (current : ActiveFlow) (flow : FlowDelta) (now : ℤ) (db : Database) : Database :=
  dropEnded current.sessionId now (recordSession current flow now db)

theorem held_record (h : InLine current batch flow now (beforeRecord current flow now db)) :
    held (record current batch flow now db) = held db
      - dropped current.sessionId now (recordSession current flow now db)
      - released now (contributionKey current batch flow) (beforeRecord current flow now db)
      + share (contributionKey current batch flow) (fresh current flow now) := by
  have hs : held (recordSession current flow now db) = held db := rfl
  have hbef : held (beforeRecord current flow now db) =
      held db - dropped current.sessionId now (recordSession current flow now db) := by
    rw [beforeRecord, held_dropEnded, hs]
  rw [← hbef]
  exact held_recordContribution h

section

variable (h : ∀ row c, db.contributions.lookup row = some c → Graded c)
include h

theorem graded_beforeRecord :
    ∀ row c, (beforeRecord current flow now db).contributions.lookup row = some c → Graded c := by
  intro row c hc
  unfold beforeRecord dropEnded at hc
  split_ifs at hc
  · rw [lookup_deleteWhere, Option.filter_eq_some_iff] at hc
    exact h row c hc.1
  · exact h row c hc

theorem graded_record :
    ∀ row c, (record current batch flow now db).contributions.lookup row = some c → Graded c := by
  intro row c hc
  have hbef : ∀ row c, (beforeRecord current flow now db).contributions.lookup row = some c →
      Graded c := graded_beforeRecord h
  change (upsert (beforeRecord current flow now db).contributions _ _ _).lookup row = _ at hc
  rw [lookup_upsert] at hc
  split_ifs at hc with hkey
  · cases hold : (beforeRecord current flow now db).contributions.lookup
      (contributionKey current batch flow) with
    | none =>
      rw [hold] at hc
      obtain rfl := Option.some.inj hc
      exact @graded_fresh flow current now
    | some old =>
      obtain ⟨hday, hhour, hmin⟩ := hbef _ old hold
      rw [hold, Option.elim_some] at hc
      obtain rfl := Option.some.inj hc
      split_ifs
      · exact @graded_fresh flow current now
      · exact ⟨hday, hhour, hmin.trans (le_add_of_nonneg_right (flowMetrics_nonneg))⟩
  · exact hbef row c hc

variable {key : ContributionKey}

theorem released_nonneg : 0 ≤ released now key db := by
  unfold released
  split
  · exact le_rfl
  · rename_i c hc
    split_ifs
    · exact (h key c hc).share_nonneg key
    · exact le_rfl

theorem dropped_nonneg (id : SessionId) (now : ℤ) : 0 ≤ dropped id now db := by
  unfold dropped
  split_ifs
  · refine sumOver_nonneg fun key c hc => ?_
    split_ifs
    · exact (h key c hc).share_nonneg key
    · exact le_rfl
  · exact le_rfl

end

/-! ### Totals -/

/-- What is collected for the total row and not written yet. -/
noncomputable def outstanding (batch : TelemetryBatch) (totals : TotalRollupBatch) : Weights :=
  added .minute (minuteBucket batch .total) totals.delta

/-- Something is unwritten only if a delta is, and no delta is negative. -/
structure Collecting (totals : TotalRollupBatch) : Prop where
  sound : Sound totals
  nonneg : 0 ≤ totals.delta

variable {totals : TotalRollupBatch} {t : Tiers}

theorem Collecting.outstanding_nonneg (h : Collecting totals) (batch : TelemetryBatch) :
    0 ≤ outstanding batch totals :=
  added_nonneg _ _ h.nonneg

theorem collecting_of_delta (h : totals.delta = 0) : Collecting totals := by
  refine ⟨⟨?_, fun _ => h⟩, ?_⟩
  · rw [h]
    exact le_rfl
  · rw [h]

theorem outstanding_of_delta (h : totals.delta = 0) : outstanding batch totals = 0 := by
  rw [outstanding, h, map_zero]

theorem tierContents_flush (h : Collecting totals) :
    tierContents (totals.flush batch t).2 = tierContents t + outstanding batch totals := by
  unfold TotalRollupBatch.flush outstanding
  by_cases hfls : totals.delta.flows = 0
  · rw [if_neg (not_not_intro hfls), h.sound.2 hfls, map_zero, add_zero]
  · rw [if_pos hfls, tierContents_adjustRollup]

theorem Collecting.collect {totals' : TotalRollupBatch} (h : Collecting totals)
    (hd : totals'.delta = totals.delta + flowMetrics flow) :
    Collecting totals' ∧ outstanding batch totals' = outstanding batch totals
      + added .minute (minuteBucket batch .total) (flowMetrics flow) := by
  have hfls : totals'.delta.flows = totals.delta.flows + 1 := congrArg Metrics.flows hd
  have hnonneg := h.sound.1
  refine ⟨⟨⟨by omega, fun hz => by omega⟩, ?_⟩, ?_⟩
  · rw [hd]
    exact add_nonneg h.nonneg (flowMetrics_nonneg)
  · rw [outstanding, outstanding, hd, map_add]

theorem tierContents_add (h : Collecting totals) :
    Collecting (totals.add batch flow t).1 ∧
      tierContents t ≤ tierContents (totals.add batch flow t).2 ∧
      tierContents (totals.add batch flow t).2 + outstanding batch (totals.add batch flow t).1 =
        tierContents t + outstanding batch totals
          + added .minute (minuteBucket batch .total) (flowMetrics flow) := by
  have hone : 0 ≤ added .minute (minuteBucket batch .total) (flowMetrics flow) :=
    added_nonneg _ _ (flowMetrics_nonneg)
  have hd : (totals.withBase batch t).delta = totals.delta := delta_withBase t
  have hba : Collecting (totals.withBase batch t) := by
    refine ⟨?_, ?_⟩
    · unfold Sound
      rw [hd]
      exact h.sound
    · rw [hd]
      exact h.nonneg
  have hout : outstanding batch (totals.withBase batch t) = outstanding batch totals := by
    rw [outstanding, outstanding, hd]
  let collected : TotalRollupBatch :=
    { totals.withBase batch t with delta := (totals.withBase batch t).delta + flowMetrics flow }
  have hcollect : Collecting collected ∧ outstanding batch collected =
      outstanding batch (totals.withBase batch t)
        + added .minute (minuteBucket batch .total) (flowMetrics flow) := hba.collect rfl
  obtain ⟨hco, hadded⟩ := hcollect
  unfold TotalRollupBatch.add
  dsimp only
  split
  · split_ifs
    · refine ⟨collecting_of_delta rfl, ?_, (congrArg (_ + ·) (outstanding_of_delta rfl)).trans ?_⟩
      · rw [tierContents_flush hco]
        exact le_add_of_nonneg_right (hco.outstanding_nonneg batch)
      · grind [tierContents_flush]
    · exact ⟨hco, le_rfl, by rw [hadded, hout, add_assoc]⟩
    · refine ⟨collecting_of_delta rfl, ?_, (congrArg (_ + ·) (outstanding_of_delta rfl)).trans ?_⟩
      · rw [upsertRollup, tierContents_adjustRollup, tierContents_flush hba, add_assoc]
        exact le_add_of_nonneg_right (add_nonneg (hba.outstanding_nonneg batch) hone)
      · rw [upsertRollup, tierContents_adjustRollup, tierContents_flush hba, hout, add_zero]
  · grind [upsertRollup, tierContents_adjustRollup, le_add_of_nonneg_right]

/-! ### One delta -/

/-- What the tables hold besides the contributions, once the totals are written. -/
noncomputable def funds (batch : TelemetryBatch) (totals : TotalRollupBatch) (db : Database) :
    Weights :=
  slack db + outstanding batch totals

/-- The contributions of a session are given up. -/
def lapsed (now : ℤ) (row : RollupSession) : Bool :=
  row.endedAt.any fun ended => saturatingAdd ended endedGraceMs ≤ now

theorem lookup_beforeRecord :
    (beforeRecord current flow now db).contributions.lookup key =
      if key.session = current.sessionId
        ∧ ((recordSession current flow now db).rollupSessions.lookup current.sessionId).any
          (lapsed now) = true then none
      else db.contributions.lookup key := by
  change (if ((recordSession current flow now db).rollupSessions.lookup current.sessionId).any
    (lapsed now) then _ else _ : Database).contributions.lookup key = _
  by_cases hlapsed : ((recordSession current flow now db).rollupSessions.lookup
      current.sessionId).any (lapsed now) = true
  · rw [if_pos hlapsed]
    rw [lookup_deleteWhere]
    by_cases hkey : key.session = current.sessionId
    · rw [if_pos ⟨hkey, hlapsed⟩]
      simp [hkey]
    · rw [contributions_recordSession]
      cases db.contributions.lookup key <;> simp [hkey]
  · rw [if_neg hlapsed, if_neg fun h => hlapsed h.2]
    rfl

/-- What a delta leaves to the tables besides its contribution. -/
noncomputable def charged (batch : TelemetryBatch) (flow : FlowDelta) (current : ActiveFlow)
    (now : ℤ) (db : Database) : Weights :=
  added .minute (minuteBucket batch .total) (flowMetrics flow) + others batch flow current.deviceId
    + dropped current.sessionId now (recordSession current flow now db)
    + released now (contributionKey current batch flow) (beforeRecord current flow now db)

theorem slack_tiers : slack { db with tiers := t } =
    slack db - tierContents db.tiers + tierContents t := by
  rw [slack, slack, contents, contents, held]
  abel

theorem slack_flush (hco : Collecting totals) :
    slack { db with tiers := (totals.flush batch db.tiers).2 } = funds batch totals db := by
  rw [slack_tiers, tierContents_flush hco, funds]
  abel

theorem covered_flush (hcov : Covered db) (hco : Collecting totals) :
    Covered { db with tiers := (totals.flush batch db.tiers).2 } := by
  refine ⟨?_, hcov.graded⟩
  rw [slack_flush hco]
  exact add_nonneg hcov.slack (hco.outstanding_nonneg batch)

variable {st : BatchState}

/-- **Counting a delta charges the tables.** -/
theorem count_spec (hcov : Covered st.db) (hco : Collecting st.totals)
    (hgw : current.sessionId.key.gatewayId = batch.gatewayId)
    (happ : current.attribution.applicationId ≠ "")
    (hline : InLine current batch flow now (beforeRecord current flow now st.db)) :
    Covered (count batch flow current now st).db ∧
      Collecting (count batch flow current now st).totals ∧
      funds batch (count batch flow current now st).totals (count batch flow current now st).db =
        funds batch st.totals st.db + charged batch flow current now st.db := by
  obtain ⟨hadded, hmore, hcont⟩ := tierContents_add hco
  let persisted := persistMinuteRollups batch flow current.attribution current.deviceId
    { st.db with tiers := (st.totals.add batch flow st.db.tiers).2 }
  have hsm : ∀ key, (beforeRecord current flow now persisted).contributions.lookup key =
      (beforeRecord current flow now st.db).contributions.lookup key := by
    intro key
    rw [lookup_beforeRecord, lookup_beforeRecord]
    rfl
  have hline' : InLine current batch flow now (beforeRecord current flow now persisted) := by
    intro c hc
    rw [hsm] at hc
    exact hline c hc
  have hreleased : released now (contributionKey current batch flow)
      (beforeRecord current flow now persisted) =
        released now (contributionKey current batch flow) (beforeRecord current flow now st.db) := by
    rw [released, released, hsm]
  have hh : held persisted = held st.db := rfl
  have hdropped : dropped current.sessionId now (recordSession current flow now persisted) =
      dropped current.sessionId now (recordSession current flow now st.db) := rfl
  have hsc : contents { st.db with tiers := (st.totals.add batch flow st.db.tiers).2 } =
      contents st.db - tierContents st.db.tiers
        + tierContents (st.totals.add batch flow st.db.tiers).2 := by
    rw [contents, contents]
    abel
  have hsl : slack (count batch flow current now st).db = slack st.db
      - tierContents st.db.tiers + tierContents (st.totals.add batch flow st.db.tiers).2
      + others batch flow current.deviceId
      + dropped current.sessionId now (recordSession current flow now st.db)
      + released now (contributionKey current batch flow) (beforeRecord current flow now st.db) := by
    show slack (record current batch flow now persisted) = _
    rw [slack, slack, contents_record, held_record hline', hh, hdropped, hreleased,
      @contents_persistMinuteRollups _ batch flow current now hgw happ, hsc]
    abel
  have hfunds : funds batch (count batch flow current now st).totals
      (count batch flow current now st).db =
        funds batch st.totals st.db + charged batch flow current now st.db := by
    have htotals : (count batch flow current now st).totals =
        (st.totals.add batch flow st.db.tiers).1 := rfl
    rw [funds, funds, charged, hsl, htotals, ← sub_eq_zero]
    rw [← sub_eq_zero] at hcont
    rw [← hcont]
    abel
  refine ⟨⟨?_, graded_record hcov.graded⟩, hadded, hfunds⟩
  rw [hsl, sub_add_eq_add_sub, add_sub_assoc]
  refine add_nonneg (add_nonneg (add_nonneg ?_ (others_nonneg _)) ?_) ?_
  · exact add_nonneg hcov.slack (sub_nonneg.2 hmore)
  · exact @dropped_nonneg (recordSession current flow now st.db) hcov.graded _ _
  · exact released_nonneg (graded_beforeRecord hcov.graded)

end Netqmon.Storage.Postings
