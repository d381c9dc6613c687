import Netqmon.Agent.Executor.Visits

/-! # What a plan reports

`results_buildPlan`: the results of a plan are those of its policies, one by one, and the result of
a policy is a chain of changes of its first result. -/

namespace Netqmon.Agent.Executor.Report

open Executor.Topology Plan Visits Lib.Ordered Protocol.Policy

variable (policies : List PolicySnapshotEntry) (intervals : List PolicyScheduleIntervals)
  (validUntilMs : ℤ) (now : Option ℤ) (topology : PolicyTopology)

variable (policy : PolicySnapshotEntry)

/-- The result of a policy when the clients are worked through. -/
def settledResult : PolicyResult :=
  let classified := classify topology intervals validUntilMs now policy
  if classified.2 then
    identityResult (.fromNeighbors topology.neighborBindings) policy classified.1
  else classified.1

/-- The effect of degraded capabilities on a result. -/
def degrade (entry : PolicyResult) : PolicyResult :=
  if isLimit policy then degradeLimit topology entry
  else if degradesBlock topology policy then degradeBlock topology entry
  else entry

def withDetails (details : PolicyResultDetails) (policy : PolicySnapshotEntry)
    (entry : PolicyResult) : PolicyResult :=
  if isLimit policy then { entry with details := some details } else entry

/-! ### Results keep their policy -/

variable (entry : PolicyResult)

/-- The policy of a result and its details, which only limits get, and only at the end. -/
def frame : String × Option PolicyResultDetails :=
  (entry.policyId, entry.details)

theorem frame_classify :
    frame (classify topology intervals validUntilMs now policy).1 = (policy.id, none) := by
  unfold classify classifyApplication
  split_ifs <;> try rfl
  split <;> rfl

variable (idents : ClientAddresses) (policy : PolicySnapshotEntry) (entry : PolicyResult)

theorem frame_identityResult : frame (identityResult idents policy entry) = frame entry := by
  have hfo : frame (policy.spec.selectors.clients.foldl (identityStep idents policy)
      entry) = frame entry := by
    refine foldl_keeps (Q := fun e : PolicyResult => frame e = frame entry)
      (fun e mac he => ?_) _ rfl
    unfold identityStep
    split
    · exact he
    · exact he
  unfold identityResult
  dsimp only
  split_ifs
  · exact hfo
  · exact hfo

theorem frame_settledResult :
    frame (settledResult intervals validUntilMs now topology policy) = (policy.id, none) := by
  unfold settledResult
  dsimp only
  split_ifs
  · rw [frame_identityResult, frame_classify]
  · exact frame_classify ..

theorem frame_degradeLimit : frame (degradeLimit topology entry) = frame entry := by
  unfold degradeLimit
  split_ifs <;> rfl

theorem frame_degradeBlock : frame (degradeBlock topology entry) = frame entry := by
  unfold degradeBlock
  split_ifs <;> rfl

theorem frame_degrade : frame (degrade topology policy entry) = frame entry := by
  unfold degrade
  split_ifs
  · exact frame_degradeLimit ..
  · exact frame_degradeBlock ..
  · rfl

theorem settledResult_policyId :
    (settledResult intervals validUntilMs now topology policy).policyId = policy.id :=
  congrArg Prod.fst (frame_settledResult intervals validUntilMs now topology policy)

theorem degradeLimit_policyId : (degradeLimit topology entry).policyId = entry.policyId :=
  congrArg Prod.fst (frame_degradeLimit topology entry)

theorem degradeBlock_policyId : (degradeBlock topology entry).policyId = entry.policyId :=
  congrArg Prod.fst (frame_degradeBlock topology entry)

/-! ### The table of results -/

variable {policies} {p : PolicySnapshotEntry}

theorem eq_of_id_eq (hnd : (policies.map (·.id)).Nodup) {q : PolicySnapshotEntry}
    (hp : p ∈ policies) (hq : q ∈ policies) (h : p.id = q.id) : p = q :=
  List.inj_on_of_nodup_map hnd hp hq h

theorem mem_candidates :
    p ∈ candidates topology intervals validUntilMs now policies ↔
      p ∈ policies ∧ (classify topology intervals validUntilMs now p).2 = true := by
  rw [candidates, List.mem_insertionSort, List.mem_filter]

theorem lookup_results_planState (hnd : (policies.map (·.id)).Nodup) (hp : p ∈ policies) :
    (planState policies intervals validUntilMs now topology).results.lookup p.id =
      some (settledResult intervals validUntilMs now topology p) := by
  have hinit : ∀ q ∈ policies,
      (initialResults topology intervals validUntilMs now policies).lookup q.id =
        some (classify topology intervals validUntilMs now q).1 := by
    intro q hq
    obtain ⟨before, after, rfl⟩ := List.append_of_mem hq
    unfold initialResults
    rw [List.foldl_append]
    refine List.foldlRecOn after _ (motive := fun results : OrderedMap String PolicyResult =>
      results.lookup q.id = some (classify topology intervals validUntilMs now q).1) ?_ ?_
    · rw [OrderedMap.lookup_insert, if_pos rfl]
    · grind [OrderedMap.lookup_insert]
  have hcands : ((candidates topology intervals validUntilMs now policies).map (·.id)).Nodup :=
    ((List.perm_insertionSort _ _).map _).nodup_iff.2 (hnd.sublist (List.filter_sublist.map _))
  obtain ⟨hmem, hnot⟩ := lookup_foldl_keyed
    (fun s q => @lookup_planPolicy topology (.fromNeighbors topology.neighborBindings) q s)
    hcands
    (s := ⟨initialResults topology intervals validUntilMs now policies, .empty, .empty, .empty,
      .empty, [], .empty, .empty⟩)
    fun q hq => by grind [mem_candidates]
  unfold settledResult
  by_cases hcand : (classify topology intervals validUntilMs now p).2 = true
  · have hp' := (mem_candidates intervals validUntilMs now topology).2 ⟨hp, hcand⟩
    grind [planState]
  · have hp' : p.id ∉ (candidates topology intervals validUntilMs now policies).map (·.id) := by
      grind [mem_candidates, eq_of_id_eq]
    grind [planState]

/-! ### The list of results -/

variable {results : PolicySnapshotEntry → PolicyResult}

theorem takeResults_eq_map :
    ∀ {policies : List PolicySnapshotEntry} {m : OrderedMap String PolicyResult},
      (policies.map (·.id)).Nodup → (∀ p ∈ policies, m.lookup p.id = some (results p)) →
        takeResults policies m = policies.map results
  | [], _, _, _ => rfl
  | p :: policies, m, hnd, hl => by
    obtain ⟨hfr, hnd⟩ := List.nodup_cons.1 hnd
    rw [takeResults, hl p List.mem_cons_self, List.map_cons]
    refine congrArg _ (takeResults_eq_map hnd fun q hq => ?_)
    grind [OrderedMap.lookup_erase_ne]

/-- Changing the result of one policy in a list with one result for each policy. -/
theorem updateResult_map {f : PolicyResult → PolicyResult} :
    ∀ {policies : List PolicySnapshotEntry} {results : PolicySnapshotEntry → PolicyResult},
      (policies.map (·.id)).Nodup → (∀ q ∈ policies, (results q).policyId = q.id) →
        p ∈ policies → updateResult p.id f (policies.map results) =
          policies.map fun q => if q = p then f (results p) else results q
  | [], _, _, _, hp => by simp at hp
  | q :: policies, results, hnd, hid, hp => by
    obtain ⟨hfr, hnd⟩ := List.nodup_cons.1 hnd
    have hq := hid q List.mem_cons_self
    rw [List.map_cons, updateResult, hq, List.map_cons]
    by_cases heq : q = p
    · grind [List.map_congr_left]
    · have hp : p ∈ policies := (List.mem_cons.1 hp).resolve_left (Ne.symm heq)
      have hne : q.id ≠ p.id := fun h => hfr (List.mem_map.2 ⟨p, hp, h.symm⟩)
      rw [if_neg (by simpa using hne), if_neg heq,
        updateResult_map hnd (fun r hr => hid r (List.mem_cons_of_mem _ hr)) hp]

variable {f : PolicySnapshotEntry → PolicyResult → PolicyResult}

theorem foldl_updateResult (hf : ∀ p entry, (f p entry).policyId = entry.policyId)
    (hnd : (policies.map (·.id)).Nodup) :
    ∀ {chosen : List PolicySnapshotEntry} {results : PolicySnapshotEntry → PolicyResult},
      chosen ⊆ policies → chosen.Nodup → (∀ q ∈ policies, (results q).policyId = q.id) →
        chosen.foldl (fun entries p => updateResult p.id (f p) entries) (policies.map results) =
          policies.map fun q => if q ∈ chosen then f q (results q) else results q
  | [], results, _, _, _ => by simp
  | p :: chosen, results, hsub, hch, hid => by
    obtain ⟨hfr, hch⟩ := List.nodup_cons.1 hch
    obtain ⟨hp, hsub⟩ := List.cons_subset.1 hsub
    have hid' : ∀ q ∈ policies,
        (if q = p then f p (results p) else results q).policyId = q.id := by
      intro q hq
      split_ifs with h
      · rw [h, hf, hid p hp]
      · exact hid q hq
    rw [List.foldl_cons, updateResult_map hnd hid hp,
      foldl_updateResult hf hnd hsub hch hid']
    grind

theorem foldl_updateResult_filter (hf : ∀ p entry, (f p entry).policyId = entry.policyId)
    (hnd : (policies.map (·.id)).Nodup) (cond : PolicySnapshotEntry → Bool)
    (hid : ∀ q ∈ policies, (results q).policyId = q.id) :
    (policies.filter cond).foldl (fun entries p => updateResult p.id (f p) entries)
        (policies.map results) =
      policies.map fun q => if cond q then f q (results q) else results q := by
  rw [foldl_updateResult hf hnd List.filter_sublist.subset (hnd.of_map.filter _) hid]
  refine List.map_congr_left fun q hq => ?_
  simp [hq]

theorem lookup_degradeLimits (hnd : (policies.map (·.id)).Nodup)
    {m : OrderedMap String PolicyResult} (hl : ∀ p ∈ policies, m.lookup p.id = some (results p))
    (hp : p ∈ policies) :
    ((policies.filter isLimit).foldl (fun m q => m.adjust q.id (degradeLimit topology)) m).lookup
        p.id = some (if isLimit p then degradeLimit topology (results p) else results p) := by
  have hsub : ((policies.filter isLimit).map (·.id)).Nodup :=
    hnd.sublist (List.filter_sublist.map _)
  obtain ⟨hmem, hnot⟩ := lookup_foldl_keyed
    (fun m q _ id => OrderedMap.lookup_adjust m q.id id
      (degradeLimit topology)) (s := m) hsub
    fun q hq => by grind
  by_cases hlim : isLimit p = true
  · grind
  · grind [eq_of_id_eq]

/-- **Results of a plan.** Each policy has one result: its classification, changed by what became
of its clients, by degraded capabilities and by the details of a limit. -/
theorem results_buildPlan (hnd : (policies.map (·.id)).Nodup) :
    (buildPlan policies intervals validUntilMs now topology).results =
      policies.map fun p => withDetails
        (limitDetails topology (planState policies intervals validUntilMs now topology) p) p
        (degrade topology p (settledResult intervals validUntilMs now topology p)) := by
  have hset : ∀ p ∈ policies,
      (planState policies intervals validUntilMs now topology).results.lookup p.id =
        some (settledResult intervals validUntilMs now topology p) := fun p hp =>
    lookup_results_planState intervals validUntilMs now topology hnd hp
  have hids : ∀ p ∈ policies,
      (if isLimit p then degradeLimit topology (settledResult intervals validUntilMs now topology p)
        else settledResult intervals validUntilMs now topology p).policyId = p.id := by
    intro p _
    split_ifs
    · rw [degradeLimit_policyId, settledResult_policyId]
    · exact settledResult_policyId ..
  show reportResults topology policies _ = _
  unfold reportResults
  dsimp only
  rw [takeResults_eq_map hnd fun p hp => lookup_degradeLimits topology hnd hset hp,
    foldl_updateResult_filter (fun _ => degradeBlock_policyId topology) hnd _ hids,
    foldl_updateResult_filter
      (f := fun p entry => { entry with
        details := some (limitDetails topology
          (planState policies intervals validUntilMs now topology) p) })
      (fun _ _ => rfl) hnd]
  · grind [degradesBlock, withDetails, degrade]
  · grind [degradeBlock_policyId]

end Netqmon.Agent.Executor.Report
