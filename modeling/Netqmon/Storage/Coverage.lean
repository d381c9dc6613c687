import Mathlib
import Netqmon.Lib.Spread
import Netqmon.Storage.Dimensions

/-! # What the ledger stands for in the traffic tables

A contribution remembers counts that a session has put into the traffic tables: into the minute
rows, and as far as they have got, into the rows and queues of hours and days. `share` says where
they are. `slack` is what the tables hold besides the shares of all contributions. Moving a
contribution changes the tables by exactly what it changes the shares (`reassign_spec`), and a
roll-up acts on the tables as noting it acts on the shares (`slack_rollUpHourAndDay`). As long as
the slack is not negative (`Covered`), every transfer finds what it takes away. -/

namespace Netqmon.Storage.Coverage

open Lib.Keyed Lib.Spread Attribution Traffic Schema Ledger Operations Recomputation Dimensions

/-! ### Counters in order -/

noncomputable instance : PartialOrder Metrics :=
  PartialOrder.lift Metrics.toProd Metrics.toProd_injective

instance : IsOrderedAddMonoid Metrics where
  add_le_add_left a b h c := add_le_add_left (show a.toProd ≤ b.toProd from h) c.toProd

theorem le_iff {a b : Metrics} : a ≤ b ↔
    a.upload ≤ b.upload ∧ a.download ≤ b.download ∧ a.packets ≤ b.packets ∧ a.flows ≤ b.flows :=
  Iff.rfl

/-! ### Places -/

/-- Where counts can be. -/
inductive Place
  | row (tier : Tier) (b : Bucket)
  | queue (tier : Tier) (b : Bucket)
  | scope (k : ScopeKey)
deriving DecidableEq

abbrev Weights : Type := Place →₀ Metrics

noncomputable def tierContents (t : Tiers) : Weights :=
  spread (.row .minute) t.minute + spread (.row .hour) t.hour + spread (.row .day) t.day
    + spread (.queue .hour) t.hourPending + spread (.queue .day) t.dayPending

/-- What the traffic tables hold. -/
noncomputable def contents (db : Database) : Weights :=
  tierContents db.tiers + spread .scope db.scopes.minute

noncomputable def atPlace (x : Place) : Metrics →+ Weights := Finsupp.singleAddHom x

/-- What adding to a row of a tier changes: the row and the queue of the tier above. -/
noncomputable def added : Tier → Bucket → Metrics →+ Weights
  | .minute, b => atPlace (.row .minute b) + atPlace (.queue .hour (b.truncate Tier.hour.size))
  | .hour, b => atPlace (.row .hour b) + atPlace (.queue .day (b.truncate Tier.day.size))
  | .day, b => atPlace (.row .day b)

/-- The queue of a row; minutes have none. -/
noncomputable def queued : Tier → Bucket → Metrics →+ Weights
  | .minute, _ => 0
  | .hour, b => atPlace (.queue .hour b)
  | .day, b => atPlace (.queue .day b)

variable (tier : Tier)

/-- What a transfer moves: a row of a tier, with what is queued on account of it. -/
noncomputable def posted (b : Bucket) : Metrics →+ Weights := added tier b - queued tier b

variable {place : Bucket → Place} {table : Counters}

/-! ### Statements on the tiers -/

section Tiers

variable {t : Tiers} {b : Bucket} {m : Metrics} (pending : Counters)

theorem spread_enqueue (old : Option Metrics) (new : Metrics) :
    spread place (enqueue pending b old new) =
      spread place pending + atPlace (place b) (new - old.getD 0) := by
  unfold enqueue
  cases old with
  | none => rw [spread_adjust, Option.getD_none, sub_zero]; rfl
  | some old =>
    rw [spread_adjust, spread_adjust, map_sub, add_assoc, Finsupp.single_neg, neg_add_eq_sub]
    rfl

theorem spread_queued (upper : Bucket) :
    spread place (enqueue pending upper (table.lookup b) (value (adjust table b m) b)) =
      spread place pending + atPlace (place upper) m := by
  have hwr : value (adjust table b m) b - (table.lookup b).getD 0 = m := by
    rw [value_adjust, if_pos rfl]
    exact add_sub_cancel_left _ _
  rw [spread_enqueue, hwr]

variable (tier : Tier)

theorem tierContents_adjustRollup :
    tierContents (adjustRollup tier b m t) = tierContents t + added tier b m := by
  cases tier <;>
    simp only [tierContents, adjustRollup, added, spread_adjust, spread_queued,
      AddMonoidHom.add_apply, atPlace, Finsupp.singleAddHom_apply] <;>
    abel

theorem tierContents_setTable :
    tierContents (t.setTable tier table) =
      tierContents t - spread (.row tier) (t.table tier) + spread (.row tier) table := by
  cases tier <;> simp only [tierContents, Tiers.setTable, Tiers.table] <;> abel

theorem tierContents_setPending {tier : Tier} (htier : tier ≠ .minute) :
    tierContents (t.setPending tier table) =
      tierContents t - spread (.queue tier) (t.pending tier) + spread (.queue tier) table := by
  cases tier
  · exact absurd rfl htier
  all_goals
    simp only [tierContents, Tiers.setPending, Tiers.pending]
    abel

theorem tierContents_adjustPending :
    tierContents (adjustPending tier b m t) = tierContents t + queued tier b m := by
  cases tier <;>
    simp only [tierContents, adjustPending, Tiers.setPending, Tiers.pending, queued, spread_adjust,
      atPlace, Finsupp.singleAddHom_apply] <;>
    abel

theorem tierContents_deleteRows {p : Bucket → Metrics → Bool} (hp : ∀ b v, p b v = true → v = 0)
    (tier : Tier) : tierContents (t.setTable tier (deleteWhere p (t.table tier))) =
      tierContents t := by
  rw [tierContents_setTable, spread_deleteWhere hp, sub_add_cancel]

theorem tierContents_transfer {old new : Bucket} (h : value (t.table tier) old ≠ 0) :
    tierContents (transfer (tierTable tier) old new m t) =
      tierContents t + posted tier new m - posted tier old m := by
  unfold transfer
  by_cases hsm : old = new
  · rw [if_pos hsm, hsm, add_sub_cancel_right]
  · rw [if_neg hsm]
    cases hrow : (tierTable tier).lookup t old with
    | none =>
      refine absurd ?_ h
      show ((tierTable tier).lookup t old).getD 0 = 0
      rw [hrow]
      rfl
    | some _ =>
      have hz : ∀ b v, (decide (b = old) && decide (v = 0)) = true → v = (0 : Metrics) := by simp
      show tierContents (deleteZero tier old (adjustPending tier new (-m) (adjustPending tier old m
        (adjustRollup tier new m (adjustRollup tier old (-m) t))))) = _
      rw [deleteZero, tierContents_deleteRows hz, tierContents_adjustPending,
        tierContents_adjustPending, tierContents_adjustRollup, tierContents_adjustRollup]
      simp only [posted, AddMonoidHom.sub_apply, map_neg]
      abel

theorem tierContents_row : tierContents t (.row tier b) = value (t.table tier) b := by
  have hrow : ∀ tier, Function.Injective (Place.row tier) := fun tier b b' h => (Place.row.inj h).2
  cases tier <;>
    simp only [tierContents, Finsupp.add_apply, spread_apply (hrow _), Tiers.table] <;>
    rw [spread_apply_of_ne (by simp), spread_apply_of_ne (by simp), spread_apply_of_ne (by simp),
      spread_apply_of_ne (by simp)] <;>
    simp

theorem tierContents_queue : tierContents t (.queue tier b) = value (t.pending tier) b := by
  have hq : ∀ tier, Function.Injective (Place.queue tier) :=
    fun tier b b' h => (Place.queue.inj h).2
  have hrow : ∀ tier' (table : Counters), spread (Place.row tier') table (.queue tier b) = 0 :=
    fun tier' table => spread_apply_of_ne nofun table
  simp only [tierContents, Finsupp.add_apply, hrow]
  cases tier with
  | minute =>
    rw [spread_apply_of_ne (by simp), spread_apply_of_ne (by simp)]
    simp [Tiers.pending]
  | hour => rw [spread_apply (hq _), spread_apply_of_ne (by simp)]; simp [Tiers.pending]
  | day => rw [spread_apply (hq _), spread_apply_of_ne (by simp)]; simp [Tiers.pending]

end Tiers

/-! ### Statements on the scope table -/

section Scopes

variable {t : ScopeTables} {k : ScopeKey} {m : Metrics}

theorem spread_deleteZeroScope :
    spread Place.scope (deleteZeroScope k t).minute = spread .scope t.minute := by
  unfold deleteZeroScope
  cases hrow : t.minute.lookup k with
  | none => rfl
  | some old => grind [spread_erase, value, sub_zero]

theorem spread_transferScope {old new : ScopeKey} (h : value t.minute old ≠ 0) :
    spread Place.scope (transfer scopeTable old new m t).minute =
      spread .scope t.minute + atPlace (.scope new) m - atPlace (.scope old) m := by
  unfold transfer
  by_cases hsm : old = new
  · rw [if_pos hsm, hsm, add_sub_cancel_right]
  · rw [if_neg hsm]
    cases hrow : scopeTable.lookup t old with
    | none =>
      refine absurd ?_ h
      show (scopeTable.lookup t old).getD 0 = 0
      rw [hrow]
      rfl
    | some _ =>
      show spread Place.scope (deleteZeroScope old (adjustScope new m (adjustScope old (-m) t))).minute
        = _
      rw [spread_deleteZeroScope]
      show spread Place.scope (adjust (adjust t.minute old (-m)) new m) = _
      rw [spread_adjust, spread_adjust, Finsupp.single_neg, sub_eq_add_neg, add_right_comm]
      rfl

end Scopes

variable (db : Database)

theorem contents_row (tier : Tier) (b : Bucket) :
    contents db (.row tier b) = value (db.tiers.table tier) b := by
  rw [contents, Finsupp.add_apply, tierContents_row, spread_apply_of_ne (by simp), add_zero]

theorem contents_queue (tier : Tier) (b : Bucket) :
    contents db (.queue tier b) = value (db.tiers.pending tier) b := by
  rw [contents, Finsupp.add_apply, tierContents_queue, spread_apply_of_ne (by simp), add_zero]

theorem contents_scope (k : ScopeKey) : contents db (.scope k) = value db.scopes.minute k := by
  have hscope : Function.Injective Place.scope := fun k k' h => Place.scope.inj h
  rw [contents, Finsupp.add_apply, spread_apply hscope, tierContents]
  simp only [Finsupp.add_apply]
  rw [spread_apply_of_ne (by simp), spread_apply_of_ne (by simp), spread_apply_of_ne (by simp),
    spread_apply_of_ne (by simp), spread_apply_of_ne (by simp)]
  simp

/-! ### Shares -/

/-- The counts of a contribution and where they are. -/
def parts (row : ContributionKey) (c : Contribution) : List (Place × Metrics) :=
  ([applicationKeys c.label, .domain c.label.domain].flatMap fun key =>
    [(.row .minute (tierBucket .minute row key), c.minute),
      (.queue .hour (tierBucket .hour row key), c.minute - c.hour),
      (.row .hour (tierBucket .hour row key), c.hour),
      (.queue .day (tierBucket .day row key), c.hour - c.day),
      (.row .day (tierBucket .day row key), c.day)])
  ++ [(.scope (scopeKeys row c.label), c.minute)]

noncomputable def share (row : ContributionKey) (c : Contribution) : Weights :=
  ((parts row c).map fun part => atPlace part.1 part.2).sum

/-- What all contributions stand for. -/
noncomputable def held (db : Database) : Weights := sumOver share db.contributions

/-- What the tables hold besides. -/
noncomputable def slack (db : Database) : Weights := contents db - held db

/-- Counts reach the minutes first, then the hours, then the days. -/
structure Graded (c : Contribution) : Prop where
  day : 0 ≤ c.day
  hour : c.day ≤ c.hour
  minute : c.hour ≤ c.minute

/-- What is counted under a label in one tier. -/
noncomputable def labelled (row : ContributionKey) (label : Label) : Metrics →+ Weights :=
  posted tier (tierBucket tier row (applicationKeys label))
    + posted tier (tierBucket tier row (.domain label.domain))
    + if tier = .minute then atPlace (.scope (scopeKeys row label)) else 0

variable {key : DimensionKey} (row : ContributionKey)

theorem truncate_minute :
    (tierBucket .minute row key).truncate Tier.hour.size = tierBucket .hour row key := by
  simp only [tierBucket, Bucket.truncate, Tier.size, hourMs, minuteMs]
  congr 1
  omega

theorem truncate_hour :
    (tierBucket .hour row key).truncate Tier.day.size = tierBucket .day row key := by
  simp only [tierBucket, Bucket.truncate, Tier.size, hourMs, dayMs, minuteMs]
  congr 1
  omega

theorem share_eq (c : Contribution) :
    share row c = labelled .minute row c.label c.minute + labelled .hour row c.label c.hour
      + labelled .day row c.label c.day := by
  simp only [share, parts, labelled, posted, added, queued, List.flatMap_cons, List.flatMap_nil,
    List.map_append, List.map_cons, List.map_nil, List.sum_append, List.sum_cons, List.sum_nil,
    AddMonoidHom.add_apply, AddMonoidHom.sub_apply, truncate_minute, truncate_hour, map_sub,
    if_true]
  abel

variable {c : Contribution}

theorem Graded.parts_nonneg (h : Graded c) (row : ContributionKey) :
    ∀ part ∈ parts row c, 0 ≤ part.2 := by
  have hhour := h.day.trans h.hour
  have hmin := hhour.trans h.minute
  simp only [parts]
  simp [hhour, hmin, h.day, h.hour, h.minute]

theorem atPlace_nonneg {x : Place} {m : Metrics} (h : 0 ≤ m) : 0 ≤ atPlace x m :=
  Finsupp.single_nonneg.2 h

theorem Graded.share_nonneg (h : Graded c) (row : ContributionKey) : 0 ≤ share row c := by
  refine List.sum_nonneg fun w hw => ?_
  obtain ⟨part, hpt, rfl⟩ := List.mem_map.1 hw
  exact atPlace_nonneg (h.parts_nonneg row part hpt)

variable {part : Place × Metrics}

theorem Graded.part_le (h : Graded c) {row : ContributionKey} (hpt : part ∈ parts row c) :
    part.2 ≤ share row c part.1 := by
  have hle : atPlace part.1 part.2 ≤ share row c := by
    refine List.single_le_sum (fun w hw => ?_) _
      (List.mem_map_of_mem hpt)
    obtain ⟨other, ho, rfl⟩ := List.mem_map.1 hw
    exact atPlace_nonneg (h.parts_nonneg row other ho)
  have hat := hle part.1
  rwa [atPlace, Finsupp.singleAddHom_apply, Finsupp.single_eq_same] at hat

/-! ### Moving contributions -/

/-- The rows that a transfer of one tier takes from are there. -/
structure Backs (db : Database) (tier : Tier) (row : ContributionKey) (c : Contribution) : Prop where
  application : value (db.tiers.table tier) (tierBucket tier row (applicationKeys c.label)) ≠ 0
  domain : value (db.tiers.table tier) (tierBucket tier row (.domain c.label.domain)) ≠ 0
  scope : tier = .minute → value db.scopes.minute (scopeKeys row c.label) ≠ 0

theorem posted_row (tier' : Tier) (b b' : Bucket) (m : Metrics) :
    posted tier b m (.row tier' b') = if tier' = tier ∧ b' = b then m else 0 := by
  cases tier <;>
    simp [posted, added, queued, atPlace, Finsupp.single_apply, @eq_comm _ tier', @eq_comm _ b']

theorem applicationKeys_ne_domain (label : Label) (domain : String) :
    applicationKeys label ≠ .domain domain := by
  unfold applicationKeys
  split_ifs <;> exact nofun

variable {db : Database} {row : ContributionKey} {c : Contribution} {new : Label}

theorem contents_transferTier (h : Contribution.metrics c tier ≠ 0 → Backs db tier row c) :
    contents (transferTier row c new tier db) = contents db
      + labelled tier row new (Contribution.metrics c tier)
      - labelled tier row c.label (Contribution.metrics c tier) := by
  unfold transferTier
  dsimp only
  split_ifs with hz hmin
  · rw [hz, map_zero, map_zero, add_zero, sub_zero]
  all_goals
    have hbacks := h hz
    have hdomain : value ((transfer (tierTable tier) (tierBucket tier row (applicationKeys c.label))
        (tierBucket tier row (applicationKeys new)) (Contribution.metrics c tier) db.tiers).table tier)
        (tierBucket tier row (.domain c.label.domain)) ≠ 0 := by
      have ho : ∀ label, tierBucket tier row (.domain c.label.domain) ≠
          tierBucket tier row (applicationKeys label) := fun label heq =>
        applicationKeys_ne_domain label _ (congrArg Bucket.key heq).symm
      rw [← tierContents_row, tierContents_transfer tier hbacks.application, Finsupp.sub_apply,
        Finsupp.add_apply, posted_row, posted_row, if_neg fun h => ho _ h.2,
        if_neg fun h => ho _ h.2, add_zero, sub_zero, tierContents_row]
      exact hbacks.domain
    rw [contents, contents, tierContents_transfer tier hdomain,
      tierContents_transfer tier hbacks.application]
  · rw [spread_transferScope (hbacks.scope hmin)]
    simp only [labelled, hmin, AddMonoidHom.add_apply]
    abel
  · simp only [labelled, hmin, AddMonoidHom.add_apply]
    abel

variable {tier tier' : Tier}

theorem labelled_row_of_ne (h : tier' ≠ tier) (label : Label) (m : Metrics) (b : Bucket) :
    labelled tier row label m (.row tier' b) = 0 := by
  simp only [labelled, AddMonoidHom.add_apply, Finsupp.add_apply, posted_row, h, false_and,
    if_false, zero_add]
  split_ifs
  · exact Finsupp.single_eq_of_ne nofun
  · rfl

/-- A transfer of minutes or hours leaves the rows of later tiers. -/
theorem Backs.transferTier (h : Backs db tier' row c) (htier : tier' ≠ tier)
    (hmin : tier' ≠ .minute) (hbacks : Contribution.metrics c tier ≠ 0 → Backs db tier row c) :
    Backs (transferTier row c new tier db) tier' row c := by
  have hrow : ∀ b, value ((Ledger.transferTier row c new tier db).tiers.table tier') b =
      value (db.tiers.table tier') b := by
    intro b
    rw [← contents_row, contents_transferTier tier hbacks, Finsupp.sub_apply, Finsupp.add_apply,
      labelled_row_of_ne htier, labelled_row_of_ne htier, add_zero, sub_zero, contents_row]
  refine ⟨?_, ?_, fun h => absurd h hmin⟩
  · rw [hrow]
    exact h.application
  · rw [hrow]
    exact h.domain

theorem contents_moveTiers (h : ∀ tier, Contribution.metrics c tier ≠ 0 → Backs db tier row c) :
    contents ([Tier.minute, .hour, .day].foldl (fun db tier => transferTier row c new tier db) db) =
      contents db + share row { c with label := new } - share row c := by
  rw [List.foldl_cons, List.foldl_cons, List.foldl_cons, List.foldl_nil]
  have hhour : Contribution.metrics c .hour ≠ 0 →
      Backs (transferTier row c new .minute db) .hour row c :=
    fun hmet => (h .hour hmet).transferTier nofun nofun (h .minute)
  have hday : Contribution.metrics c .day ≠ 0 →
      Backs (transferTier row c new .hour (transferTier row c new .minute db)) .day row c := by
    intro hmet
    have hmin : Backs (transferTier row c new .minute db) .day row c :=
      (h .day hmet).transferTier nofun nofun (h .minute)
    exact hmin.transferTier nofun nofun hhour
  rw [contents_transferTier .day hday, contents_transferTier .hour hhour,
    contents_transferTier .minute (h .minute), share_eq, share_eq]
  simp only [Contribution.metrics]
  abel

theorem contributions_transferTiers (tiers : List Tier) :
    (tiers.foldl (fun db tier => transferTier row c new tier db) db).contributions =
      db.contributions := by
  refine foldl_fixed (fun db tier => ?_) tiers db
  unfold transferTier
  dsimp only
  split_ifs <;> rfl

theorem label_eq_of_scopeKeys {old : Label} (h : scopeKeys row old = scopeKeys row new) :
    old = new := by
  obtain ⟨application, category, domain, protocol⟩ := old
  obtain ⟨rfl, rfl, rfl, rfl⟩ := h
  rfl

/-- A contribution that is not moved has the new label already. -/
theorem moveContribution_eq :
    moveContribution row c new db =
      if c.label = new then db
      else
        { [Tier.minute, .hour, .day].foldl (fun db tier => transferTier row c new tier db) db with
          contributions := updateWhere (fun key _ => key = row)
            (fun _ c => { c with label := new }) db.contributions } := by
  have hsm : (applicationKeys c.label = applicationKeys new && c.label.domain = new.domain
      && scopeKeys row c.label = scopeKeys row new) = decide (c.label = new) := by
    rw [Bool.eq_iff_iff]
    simp only [Bool.and_eq_true, decide_eq_true_eq]
    exact ⟨fun h => label_eq_of_scopeKeys h.2, fun h => by rw [h]; exact ⟨⟨rfl, rfl⟩, rfl⟩⟩
  unfold moveContribution
  dsimp only
  rw [hsm, contributions_transferTiers]
  simp

section Move

variable (hc : db.contributions.lookup row = some c)
include hc

theorem lookup_moveContribution (key : ContributionKey) :
    (moveContribution row c new db).contributions.lookup key =
      if key = row then some { c with label := new } else db.contributions.lookup key := by
  rw [moveContribution_eq]
  split_ifs with hlabel hkey hkey
  · rw [hkey, hc, ← hlabel]
  · rfl
  · rw [lookup_updateWhere, hkey, hc]
    simp
  · rw [lookup_updateWhere]
    simp [hkey]

theorem slack_moveContribution (h : ∀ tier, Contribution.metrics c tier ≠ 0 → Backs db tier row c) :
    slack (moveContribution row c new db) = slack db := by
  rw [moveContribution_eq]
  split_ifs with hlabel
  · rfl
  · have hh := sumOver_updateKey share (fun _ c => { c with label := new }) hc
    have hcont : contents ([Tier.minute, .hour, .day].foldl
        (fun db tier => transferTier row c new tier db) db) =
        contents db + share row { c with label := new } - share row c := contents_moveTiers h
    rw [slack, slack, held]
    rw [hh]
    refine (congrArg (· - _) hcont).trans ?_
    abel

end Move

/-- The tables hold at least what the contributions stand for. -/
structure Covered (db : Database) : Prop where
  slack : 0 ≤ slack db
  graded : ∀ row c, db.contributions.lookup row = some c → Graded c

theorem Covered.part_le (h : Covered db) (hc : db.contributions.lookup row = some c)
    (hpt : part ∈ parts row c) : part.2 ≤ contents db part.1 := by
  have hshare : share row c ≤ held db :=
    le_sumOver (fun row c hc => (h.graded row c hc).share_nonneg row) hc
  have hh : held db ≤ contents db := sub_nonneg.1 h.slack
  exact ((h.graded row c hc).part_le hpt).trans (hshare.trans hh part.1)

theorem Covered.backs (h : Covered db) (hc : db.contributions.lookup row = some c) {tier : Tier}
    (hmet : Contribution.metrics c tier ≠ 0) : Backs db tier row c := by
  have hgraded := h.graded row c hc
  have hnonneg : 0 ≤ Contribution.metrics c tier := by
    cases tier
    · exact hgraded.day.trans (hgraded.hour.trans hgraded.minute)
    · exact hgraded.day.trans hgraded.hour
    · exact hgraded.day
  have hpres : ∀ x, (x, Contribution.metrics c tier) ∈ parts row c → contents db x ≠ 0 := by
    intro x hx hz
    have hle := h.part_le hc hx
    grind
  refine ⟨?_, ?_, ?_⟩
  · rw [← contents_row]
    exact hpres _ (by cases tier <;> simp [parts, Contribution.metrics])
  · rw [← contents_row]
    exact hpres _ (by cases tier <;> simp [parts, Contribution.metrics])
  · grind [contents_scope, parts, Contribution.metrics]

theorem Covered.moveContribution (h : Covered db) (hc : db.contributions.lookup row = some c) :
    Covered (moveContribution row c new db) := by
  refine ⟨?_, fun key other hkey => ?_⟩
  · rw [slack_moveContribution hc fun tier hmet => h.backs hc hmet]
    exact h.slack
  · rw [lookup_moveContribution hc] at hkey
    split_ifs at hkey with hrow
    · obtain ⟨hday, hhour, hmin⟩ := h.graded row c hc
      obtain rfl := Option.some.inj hkey
      exact ⟨hday, hhour, hmin⟩
    · exact h.graded key other hkey

theorem moveContributions (new : Label) :
    ∀ (rows : List (ContributionKey × Contribution)) (db : Database), Covered db →
      (rows.map Prod.fst).Nodup →
      (∀ r ∈ rows, db.contributions.lookup r.1 = some r.2) →
      let moved := rows.foldl (fun db r => Ledger.moveContribution r.1 r.2 new db) db
      Covered moved ∧ slack moved = slack db ∧ ∀ key, moved.contributions.lookup key =
        (db.contributions.lookup key).map fun c =>
          if key ∈ rows.map Prod.fst then { c with label := new } else c
  | [], db, h, _, _ => ⟨h, rfl, fun key => by simp⟩
  | r :: rows, db, h, hnd, hrs => by
    have hr := hrs r List.mem_cons_self
    rw [List.map_cons, List.nodup_cons] at hnd
    have hrest : ∀ other ∈ rows, (Ledger.moveContribution r.1 r.2 new db).contributions.lookup
        other.1 = some other.2 := by
      intro other ho
      have hne : other.1 ≠ r.1 := fun heq => hnd.1 (heq ▸ List.mem_map_of_mem ho)
      rw [lookup_moveContribution hr, if_neg hne]
      exact hrs other (List.mem_cons_of_mem _ ho)
    obtain ⟨hcov, hsl, hl⟩ :=
      moveContributions new rows _ (h.moveContribution hr) hnd.2 hrest
    refine ⟨hcov, hsl.trans (slack_moveContribution hr fun _ hm => h.backs hr hm),
      fun key => ?_⟩
    rw [List.foldl_cons, hl, lookup_moveContribution hr]
    by_cases hkey : key = r.1
    · grind
    · grind

/-! ### Reassignment -/

/-- A contribution is moved when its session is reassigned. -/
def isLive (session : RollupSession) (now : ℤ) (c : Contribution) : Bool :=
  now < c.expiresAt && correctable session now

/-- A contribution after the reassignment of a session. -/
def relabelled (db : Database) (id : SessionId) (incoming : FlowAttribution) (now : ℤ)
    (key : ContributionKey) (c : Contribution) : Contribution :=
  match db.rollupSessions.lookup id with
  | none => c
  | some session =>
    if key.session = id && isLive session now c then
      { c with label := labelOf (merge session.flow.attribution incoming) }
    else c

/-- **Reassignment keeps what the tables hold besides the contributions.** -/
theorem reassign_spec (id : SessionId) (inc : FlowAttribution) (now : ℤ) (h : Covered db) :
    Covered (reassign id inc now db) ∧ slack (reassign id inc now db) = slack db ∧
      ∀ key, (reassign id inc now db).contributions.lookup key =
        (db.contributions.lookup key).map (relabelled db id inc now key) := by
  unfold reassign relabelled
  cases hs : db.rollupSessions.lookup id with
  | none => exact ⟨h, rfl, fun key => by simp⟩
  | some ss =>
    obtain ⟨hcov, hsl, hl⟩ := moveContributions
      (labelOf (merge ss.flow.attribution inc)) (liveContributions db id ss now) db h
      (nodup_keys_select _ _) fun r hr => (mem_select.1 hr).1
    refine ⟨⟨hcov.slack, hcov.graded⟩, hsl, fun key => ?_⟩
    refine (hl key).trans ?_
    cases hkey : db.contributions.lookup key with
    | none => rfl
    | some c =>
      have hmem : key ∈ (liveContributions db id ss now).map Prod.fst ↔
          (key.session = id && isLive ss now c) = true := by
        rw [List.mem_map]
        constructor
        · rintro ⟨r, hr, rfl⟩
          obtain ⟨hr, hlv⟩ := mem_select.1 hr
          grind [isLive]
        · intro hlv
          refine ⟨(key, c), mem_select.2 ⟨hkey, ?_⟩, rfl⟩
          simpa [isLive, and_assoc] using hlv
      exact congrArg some (if_congr hmem rfl rfl)

variable {db' : Database}

theorem Covered.of_eq (h : Covered db) (htiers : db'.tiers = db.tiers)
    (hsc : db'.scopes = db.scopes) (hcon : db'.contributions = db.contributions) : Covered db' := by
  refine ⟨?_, ?_⟩
  · rw [Coverage.slack, contents, held, htiers, hsc, hcon]
    exact h.slack
  · rw [hcon]
    exact h.graded

theorem Covered.deleteContributions (h : Covered db) {p : ContributionKey → Contribution → Bool}
    (htiers : db'.tiers = db.tiers) (hsc : db'.scopes = db.scopes)
    (hcon : db'.contributions = deleteWhere p db.contributions) : Covered db' := by
  refine ⟨?_, fun row c hc => ?_⟩
  · have hle : held db' ≤ held db := by
      rw [held, held, hcon, sumOver_deleteWhere, ← sub_nonneg]
      have hsp : sumOver share db.contributions = sumOver (fun row c =>
          (if p row c then 0 else share row c) + if p row c then share row c else 0)
          db.contributions := sumOver_congr fun row c _ => by split_ifs <;> simp
      rw [hsp, sumOver_add, add_sub_cancel_left]
      refine sumOver_nonneg fun row c hc => ?_
      split_ifs
      · exact (h.graded row c hc).share_nonneg row
      · exact le_rfl
    have hcont : contents db' = contents db := by rw [contents, contents, htiers, hsc]
    rw [Coverage.slack, hcont]
    exact h.slack.trans (sub_le_sub_left hle _)
  · rw [hcon, lookup_deleteWhere, Option.filter_eq_some_iff] at hc
    exact h.graded row c hc.1

/-! ### Roll-up -/

/-- Queued counts that are due are added to their rows. -/
noncomputable def moveDue (target : Tier) (due : Bucket → Bool) :
    Place → Option (Metrics →+ Weights)
  | .queue tier b => if tier = target ∧ due b then some (added target b) else none
  | .row _ _ => none
  | .scope _ => none

variable {now : ℤ}

section Aggregation

variable {t : Tiers} {target : Tier} {due : Bucket → Bool} {b : Bucket}

theorem moveDue_due (h : due b = true) :
    moveDue target due (.queue target b) = some (added target b) :=
  if_pos ⟨rfl, h⟩

theorem moveDue_other {tier : Tier} (h : ¬(tier = target ∧ due b = true)) :
    moveDue target due (.queue tier b) = none :=
  if_neg h

theorem redirect_added (htgt : target ≠ .minute) (b : Bucket) (m : Metrics) :
    redirect (moveDue target due) (added target b m) = added target b m := by
  cases target with
  | minute => exact absurd rfl htgt
  | hour =>
    have hday : moveDue .hour due (.queue .day (b.truncate Tier.day.size)) = none :=
      moveDue_other fun h => nomatch h.1
    rw [added, AddMonoidHom.add_apply, map_add, atPlace, atPlace, Finsupp.singleAddHom_apply,
      Finsupp.singleAddHom_apply, redirect_single_of_none rfl, redirect_single_of_none hday]
  | day => exact redirect_single_of_none rfl

theorem redirect_queue :
    redirect (moveDue target due) (spread (.queue target) table) =
      spread (.queue target) (deleteWhere (fun b _ => due b) table) +
        ((select (fun b _ => due b) table).map fun row => added target row.1 row.2).sum := by
  have hstay : ∀ e ∈ (deleteWhere (fun b _ => due b) table).entries,
      moveDue target due (.queue target e.1) = none := by
    intro e he
    have hnot : due e.1 = false := by simpa using (List.mem_filter.1 he).2
    refine moveDue_other fun h => ?_
    rw [hnot] at h
    exact absurd h.2 Bool.false_ne_true
  rw [spread_split, map_add, redirect_spread hstay, map_list_sum,
    List.map_map]
  congr 2
  refine List.map_congr_left fun row hrow => ?_
  exact redirect_single_of_some (moveDue_due (mem_select.1 hrow).2)

theorem redirect_tierContents (htgt : target ≠ .minute) :
    redirect (moveDue target due) (tierContents t) =
      tierContents t - spread (.queue target) (t.pending target) +
        redirect (moveDue target due) (spread (.queue target) (t.pending target)) := by
  have hrow : ∀ tier (table : Counters), redirect (moveDue target due) (spread (.row tier) table) =
      spread (.row tier) table := fun tier table => redirect_spread fun _ _ => rfl
  have hq : ∀ tier, tier ≠ target → ∀ table : Counters,
      redirect (moveDue target due) (spread (.queue tier) table) = spread (.queue tier) table :=
    fun tier htier table => redirect_spread fun _ _ => moveDue_other fun h => htier h.1
  cases target with
  | minute => exact absurd rfl htgt
  | hour =>
    simp only [tierContents, Tiers.pending, map_add, hrow, hq .day (by decide)]
    abel
  | day =>
    simp only [tierContents, Tiers.pending, map_add, hrow, hq .hour (by decide)]
    abel

theorem tierContents_foldl_adjustRollup (tier : Tier) :
    ∀ (rows : List (Bucket × Metrics)) (t : Tiers),
      tierContents (rows.foldl (fun t row => adjustRollup tier row.1 row.2 t) t) =
        tierContents t + (rows.map fun row => added tier row.1 row.2).sum
  | [], t => by simp
  | row :: rows, t => by
    rw [List.foldl_cons, tierContents_foldl_adjustRollup tier rows, tierContents_adjustRollup,
      List.map_cons, List.sum_cons, add_assoc]

theorem tierContents_aggregate (htgt : target ≠ .minute) (dim : Dimension) (cut : ℤ) :
    tierContents (aggregate dim target cut t) =
      redirect (moveDue target (isDue dim cut)) (tierContents t) := by
  have hz : ∀ (q : Bucket → Bool) b v, (q b && v == 0) = true → v = (0 : Metrics) := by simp
  unfold aggregate
  rw [tierContents_setPending htgt, tierContents_deleteRows (hz _),
    tierContents_foldl_adjustRollup, Balance.pending_setTable, Balance.pending_foldl_adjustRollup,
    redirect_tierContents htgt, redirect_queue]
  abel

theorem moveDue_or (due' : Bucket → Bool) (x : Place) :
    (moveDue target due x).or (moveDue target due' x) =
      moveDue target (fun b => due b || due' b) x := by
  cases x with
  | row tier b => rfl
  | scope k => rfl
  | queue tier b => grind [moveDue]

theorem tierContents_foldl_aggregate (htgt : target ≠ .minute) (cut : ℤ) :
    ∀ (l : List Dimension) (t : Tiers),
      tierContents (l.foldl (fun t dim => aggregate dim target cut t) t) =
        redirect (moveDue target fun b => l.any fun dim => isDue dim cut b)
          (tierContents t)
  | [], t => by
    have hn : (moveDue target fun b => [].any fun dim => isDue dim cut b) =
        fun _ => none := funext fun x => by cases x <;> simp [moveDue]
    rw [hn, redirect_none]
    rfl
  | dim :: l, t => by
    rw [List.foldl_cons, tierContents_foldl_aggregate htgt cut l,
      tierContents_aggregate htgt, redirect_redirect]
    · simp only [moveDue_or, List.any_cons]
    · intro x put m hput
      cases x with
      | row tier b => cases hput
      | scope k => cases hput
      | queue tier b => grind [moveDue, redirect_added]

/-- Counts before the cutoff have left the queue. -/
noncomputable def aggregated (target : Tier) (now : ℤ) : Weights →+ Weights :=
  redirect (moveDue target fun b => b.timestamp < cutoff target now)

theorem tierContents_aggregateAll (htgt : target ≠ .minute) :
    tierContents (aggregateAll target now t) = aggregated target now (tierContents t) := by
  have hany : (fun b => dimensions.any fun dim => isDue dim (cutoff target now) b) =
      fun b : Bucket => decide (b.timestamp < cutoff target now) := by
    funext b
    rw [Bool.eq_iff_iff, List.any_eq_true]
    constructor
    · grind [isDue]
    · intro hdue
      exact ⟨b.key.dimension, Balance.mem_dimensions, by simp [isDue, hdue]⟩
  rw [aggregateAll, tierContents_foldl_aggregate htgt, hany]
  rfl

end Aggregation

theorem due_tierBucket :
    (tierBucket tier row key).timestamp < cutoff tier now ↔ row.timestamp < cutoff tier now := by
  cases tier <;> simp only [tierBucket, cutoff, Tier.size, hourMs, dayMs, minuteMs] <;> omega

variable (target tier : Tier)

variable (b : Bucket) (m : Metrics)

theorem aggregated_row :
    aggregated target now (atPlace (.row tier b) m) = atPlace (.row tier b) m :=
  redirect_single_of_none rfl

theorem aggregated_scope (target : Tier) (k : ScopeKey) (m : Metrics) :
    aggregated target now (atPlace (.scope k) m) = atPlace (.scope k) m :=
  redirect_single_of_none rfl

theorem aggregated_queue :
    aggregated target now (atPlace (.queue tier b) m) =
      if tier = target ∧ b.timestamp < cutoff target now then added target b m
      else atPlace (.queue tier b) m := by
  split_ifs with h
  · obtain ⟨rfl, hdue⟩ := h
    exact redirect_single_of_some (moveDue_due (decide_eq_true hdue))
  · refine redirect_single_of_none (moveDue_other fun h' => h ⟨h'.1, ?_⟩)
    exact of_decide_eq_true h'.2

theorem aggregated_share :
    aggregated .hour now (share row c) =
        share row (if row.timestamp < cutoff .hour now then { c with hour := c.minute } else c) ∧
      aggregated .day now (share row c) =
        share row (if row.timestamp < cutoff .day now then { c with day := c.hour } else c) := by
  simp only [share, parts, List.flatMap_cons, List.flatMap_nil, List.map_append, List.map_cons,
    List.map_nil, List.sum_append, List.sum_cons, List.sum_nil, map_add, map_zero, aggregated_row,
    aggregated_scope, aggregated_queue, due_tierBucket, true_and, false_and, reduceCtorEq, if_false]
  constructor <;> split_ifs with hdue
  · simp only [added, AddMonoidHom.add_apply, truncate_hour, map_sub]
    abel
  · rfl
  · simp only [added, map_sub]
    abel
  · rfl

theorem held_markAggregated :
    held (markAggregated now db) = aggregated .day now (aggregated .hour now (held db)) := by
  rw [held, held, markAggregated]
  rw [sumOver_updateWhere, sumOver_updateWhere, map_sumOver, map_sumOver]
  simp [aggregated_share]

variable {storage : SqliteStorage} (nowMs : ℕ)

theorem contents_rollUpHourAndDay :
    contents (rollUpHourAndDay nowMs storage).database =
      aggregated .day (toI64 nowMs)
        (aggregated .hour (toI64 nowMs) (contents storage.database)) := by
  have hscope : ∀ target (table : Rows ScopeKey Metrics),
      aggregated target (toI64 nowMs) (spread .scope table) = spread .scope table :=
    fun target table => redirect_spread fun _ _ => rfl
  have hhour : ∀ t, tierContents (aggregateAll .hour (toI64 nowMs) t) =
      aggregated .hour (toI64 nowMs) (tierContents t) := fun t => tierContents_aggregateAll (by decide)
  have hday : ∀ t, tierContents (aggregateAll .day (toI64 nowMs) t) =
      aggregated .day (toI64 nowMs) (tierContents t) := fun t => tierContents_aggregateAll (by decide)
  rw [contents, contents, map_add, map_add, hscope, hscope, tiers_rollUpHourAndDay,
    scopes_rollUpHourAndDay, rollUpTiers, hday, hhour]

/-- **A roll-up does to the tables what noting it does to the shares.** -/
theorem slack_rollUpHourAndDay :
    slack (rollUpHourAndDay nowMs storage).database =
      aggregated .day (toI64 nowMs) (aggregated .hour (toI64 nowMs) (slack storage.database)) := by
  have hh : held (rollUpHourAndDay nowMs storage).database =
      held (markAggregated (toI64 nowMs) storage.database) := by
    unfold held rollUpHourAndDay markAggregated
    rfl
  rw [slack, slack, map_sub, map_sub, contents_rollUpHourAndDay, hh, held_markAggregated]

theorem added_nonneg {m : Metrics} (h : 0 ≤ m) : 0 ≤ added tier b m := by
  cases tier
  · exact add_nonneg (atPlace_nonneg h) (atPlace_nonneg h)
  · exact add_nonneg (atPlace_nonneg h) (atPlace_nonneg h)
  · exact atPlace_nonneg h

theorem aggregated_nonneg {target : Tier} {w : Weights} (h : 0 ≤ w) :
    0 ≤ aggregated target now w := by
  refine redirect_nonneg (fun x put m hput hm => ?_) h
  cases x with
  | row tier b => cases hput
  | scope k => cases hput
  | queue tier b => grind [moveDue, added_nonneg]

theorem Covered.rollUp (h : Covered storage.database) (nowMs : ℕ) :
    Covered (rollUpHourAndDay nowMs storage).database := by
  refine ⟨?_, fun row c hc => ?_⟩
  · rw [slack_rollUpHourAndDay]
    exact aggregated_nonneg (aggregated_nonneg h.slack)
  · change (updateWhere _ _ (updateWhere _ _ storage.database.contributions)).lookup row = _ at hc
    rw [lookup_updateWhere, lookup_updateWhere, Option.map_map, Option.map_eq_some_iff] at hc
    obtain ⟨old, hold, rfl⟩ := hc
    obtain ⟨hday, hhour, hmin⟩ := h.graded row old hold
    split_ifs
    · exact ⟨hday.trans (hhour.trans hmin), le_rfl, le_rfl⟩
    · exact ⟨hday.trans hhour, le_rfl, hmin⟩
    · exact ⟨hday, hhour.trans hmin, le_rfl⟩
    · exact ⟨hday, hhour, hmin⟩

end Netqmon.Storage.Coverage
