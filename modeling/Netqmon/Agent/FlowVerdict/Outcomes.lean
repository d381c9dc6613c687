import Netqmon.Agent.FlowVerdict.Staging

/-! # Outcomes of the staged operations

`Outcome` lists everything a staged operation can do: refuse at once, fail after the registry was
swept, or commit. `installOwnedBlock_outcome` and `clearAliases_outcome` put the two staged
operations in this form; what holds of every outcome is proved once. -/

namespace Netqmon.Agent.FlowVerdict.Outcomes

open Agent.Flow Lib.FaultMap Model Operations Staging

/-- The registry after the staged claims are stored. -/
def commitClaims (registry : BlockClaims) (staged : List Staged) : BlockClaims :=
  { registry with
    aliases := staged.foldl storeClaims registry.aliases
    count := stagedCount registry staged registry.count }

/-- What a staged operation on `keys` can do to the writer `w`, where `registry` is the claim table
it works on. A committed operation stays within the table bound or gives no alias more claims. On a
map without faults nothing is rolled back, and the staged previous values are the map's. -/
inductive Outcome (w : FlowVerdictWriter) (registry : BlockClaims) (decision : Decision)
    (keys : List FlowKey) : Except String ℕ × FlowVerdictWriter → Prop
  | refused (error : String) : Outcome w registry decision keys (.error error, w)
  | unread (error : String) (map : Table FlowKey VerdictValue)
      (hmap : Shrinks w.verdictMap map) (hcalm : Calm w.verdictMap → map = w.verdictMap) :
      Outcome w registry decision keys
        (.error error, { w with verdictMap := map, blockClaims := registry })
  | rolledBack (error : String) (map : Table FlowKey VerdictValue) (staged : List Staged)
      (hst : StagedFrom registry decision keys w.verdictMap map staged)
      (hcalm : ¬ Calm w.verdictMap) :
      Outcome w registry decision keys
        (.error error,
          { w with
            verdictMap := (applyVerdictUpdates map (stagedUpdates staged)).2
            blockClaims := registry })
  | committed (n : ℕ) (map map' : Table FlowKey VerdictValue) (staged : List Staged)
      (hready : w.ready = true ∧ w.available = true) (hnd : keys.Nodup)
      (hst : StagedFrom registry decision keys w.verdictMap map staged)
      (happly : applyVerdictUpdates map (stagedUpdates staged) = (.ok (), map'))
      (hcap : stagedCount registry staged registry.count ≤ maxBlockClaims ∨
        ∀ s ∈ staged, s.claims.length ≤ (registry.at s.key).length)
      (hcalm : Calm w.verdictMap →
        map = w.verdictMap ∧ ∀ s ∈ staged, s.previous = w.verdictMap.get s.key) :
      Outcome w registry decision keys
        (.ok n, { w with verdictMap := map', blockClaims := commitClaims registry staged })

/-- On a map without faults an operation that succeeds writes what it staged. -/
theorem Outcome.of_ok {w : FlowVerdictWriter} {registry : BlockClaims} {decision : Decision}
    {keys : List FlowKey} {r : Except String ℕ × FlowVerdictWriter} {n : ℕ}
    (h : Outcome w registry decision keys r) (hcm : Calm w.verdictMap) (hok : r.1 = .ok n) :
    ∃ staged, keys.Nodup ∧ StagedFrom registry decision keys w.verdictMap w.verdictMap staged ∧
      (∀ s ∈ staged, s.previous = w.verdictMap.get s.key) ∧
      (∀ s ∈ staged, r.2.verdictMap.get s.key = s.next) ∧
      r.2.blockClaims = commitClaims registry staged := by
  rcases h with error | ⟨error, map, -, -⟩ | ⟨error, map, staged, -, -⟩ |
    ⟨n', map, map', staged, -, hnd, hst, hap, -, hc⟩
  · cases hok
  · cases hok
  · cases hok
  obtain ⟨rfl, hpr⟩ := hc hcm
  obtain ⟨-, -, hwr, -⟩ := commit_calm hcm hnd hst hpr
  rw [hap] at hwr
  exact ⟨staged, hnd, hst, hpr, hwr, rfl⟩

/-! ### The two staged operations -/

theorem nodup_eraseDups {α : Type} [DecidableEq α] (l : List α) : l.eraseDups.Nodup := by
  induction h : l.length using Nat.strong_induction_on generalizing l with
  | _ n ih =>
    rcases l with _ | ⟨a, l⟩
    · simp
    · rw [List.eraseDups_cons, List.nodup_cons]
      have hlt : (l.filter fun b => !b == a).length < n := by grind
      refine ⟨?_, ih _ hlt _ rfl⟩
      simp

variable {generation expires : ℕ} {key : FlowKey}

theorem blockDecision_ok {observed : List FlowKey} {identity : VerdictIdentity} {now : ℕ}
    {old claims : List BlockClaim} {prev next : Option VerdictValue}
    (h : blockDecision observed identity generation expires now key old prev = .ok (claims, next)) :
    claims = mergeClaims old prev now
        ⟨identity, generation, expires, observed.any (sameObservedOrientation key)⟩ ∧
      claims.length ≤ maxBlockOwnersPerAlias ∧
      next = (selectBlockClaim claims prev).map (encodeBlockClaim · claims) := by
  unfold blockDecision at h
  dsimp only at h
  split_ifs at h with hlen
  obtain ⟨rfl, rfl⟩ := h
  exact ⟨rfl, by omega, rfl⟩

theorem foldl_insert_eq_storeClaims :
    ∀ (staged : List Staged) (aliases : AList fun _ : FlowKey => List BlockClaim),
      (∀ s ∈ staged, s.claims ≠ []) →
      staged.foldl (fun acc s => acc.insert s.key s.claims) aliases =
        staged.foldl storeClaims aliases
  | [], _, _ => rfl
  | s :: rest, aliases, h => by
    have hs : s.claims.isEmpty = false := by simpa using h s (by simp)
    simp only [List.foldl_cons, storeClaims, hs, Bool.false_eq_true, if_false]
    exact foldl_insert_eq_storeClaims rest _ fun s' hs' => h s' (List.mem_cons_of_mem _ hs')

/-- On a map without faults a completed reading pass leaves the map as it is, and writing the
staged values succeeds. -/
theorem calm_of_stage_ok {reg : BlockClaims} {readError : String} {decision : Decision}
    {keys : List FlowKey} {count total : ℕ} {map map' : Table FlowKey VerdictValue}
    {staged : List Staged} (hnd : keys.Nodup)
    (hs : stage reg readError decision keys count map = (.ok (staged, total), map'))
    (hc : Calm map) :
    map' = map ∧ (∀ s ∈ staged, s.previous = map.get s.key) ∧
      (applyVerdictUpdates map' (stagedUpdates staged)).1 = .ok () := by
  have hcm := @stage_calm reg readError decision map hc keys count
  have hst := (stage_ok _ _ _ _ _ _ hs).1
  rw [hs] at hcm
  obtain ⟨rfl, hpr⟩ := hcm
  have hprev' := hpr staged total rfl
  exact ⟨rfl, hprev', (commit_calm hc hnd hst hprev').1⟩

variable (w : FlowVerdictWriter)

theorem installOwnedBlock_outcome (aliases observed : List FlowKey) (identity : VerdictIdentity)
    (generation expires now : ℕ) :
    Outcome w (sweepExpired w.blockClaims aliases.length now)
      (blockDecision observed identity generation expires now) aliases
      (installOwnedBlock w aliases observed identity generation expires now) := by
  unfold installOwnedBlock
  split_ifs with hready hks havail
  · exact .refused _
  · exact .refused _
  · exact .refused _
  have hnd : aliases.Nodup := by
    simp only [Bool.or_eq_true, Bool.not_eq_true', decide_eq_false_iff_not, not_or,
      not_not] at hks
    exact hks.2
  have hshr := @shrinks_stage (sweepExpired w.blockClaims aliases.length now)
    "read previous BPF flow verdict: " (blockDecision observed identity generation expires now)
    aliases (sweepExpired w.blockClaims aliases.length now).count w.verdictMap
  dsimp only
  split
  · rename_i error map hs
    rw [hs] at hshr
    exact .unread error map hshr fun hc => stage_calm_eq hc hs
  · rename_i staged count map hs
    obtain ⟨hst, hct⟩ := stage_ok _ _ _ _ _ _ hs
    have hcm := calm_of_stage_ok hnd hs
    split_ifs with hcap
    · exact .unread _ map hst.shrinks fun hc => (hcm hc).1
    split
    · rename_i error map' hap
      have h := Outcome.rolledBack error map staged hst fun hc => by
        have hok := (hcm hc).2.2
        rw [hap] at hok
        simp at hok
      rw [hap] at h
      exact h
    · rename_i map' hap
      rw [foldl_insert_eq_storeClaims staged _ fun s hs => by
        obtain ⟨hcs, -⟩ := blockDecision_ok (hst.decided s hs)
        simp [hcs, mergeClaims], hct]
      refine .committed aliases.length map map' staged (by simp_all) hnd hst hap (.inl ?_)
        fun hc => ⟨(hcm hc).1, (hcm hc).2.1⟩
      omega

theorem clearDecision_sublist (exp : Option (BitVec 128)) (now : ℕ) (old : List BlockClaim)
    (prev : Option VerdictValue) : (clearDecision exp now old prev).1.Sublist old := by
  refine List.filter_sublist.trans ?_
  split_ifs
  · exact List.Sublist.refl _
  · exact List.nil_sublist _

theorem clearAliases_outcome (aliases : List FlowKey) (expectedFlowId : Option String) (now : ℕ) :
    (∃ error, clearAliases w aliases expectedFlowId now = (.error error, w)) ∨
      ∃ exp, expectedHash expectedFlowId = .ok exp ∧
        Outcome w w.blockClaims (clearing exp now) aliases.eraseDups
          (clearAliases w aliases expectedFlowId now) := by
  unfold clearAliases
  split_ifs with hready havail
  · exact .inl ⟨_, rfl⟩
  · exact .inl ⟨_, rfl⟩
  rcases expectedHash expectedFlowId with error | exp
  · exact .inl ⟨_, rfl⟩
  refine .inr ⟨exp, rfl, ?_⟩
  have hshr := @shrinks_stage w.blockClaims "look up BPF flow verdict: " (clearing exp now)
    aliases.eraseDups w.blockClaims.count w.verdictMap
  dsimp only
  split
  · rename_i error map hs
    rw [hs] at hshr
    exact .unread error map hshr fun hc => stage_calm_eq hc hs
  · rename_i staged count map hs
    obtain ⟨hst, hct⟩ := stage_ok _ _ _ _ _ _ hs
    have hcm := calm_of_stage_ok (nodup_eraseDups _) hs
    split
    · rename_i error map' hap
      have h := Outcome.rolledBack error map staged hst fun hc => by
        have hok := (hcm hc).2.2
        rw [hap] at hok
        simp at hok
      rw [hap] at h
      exact h
    · rename_i map' hap
      rw [hct]
      refine .committed _ map map' staged (by simp_all) (nodup_eraseDups _) hst hap
        (.inr fun s hs => ?_) fun hc => ⟨(hcm hc).1, (hcm hc).2.1⟩
      have hdec := hst.decided s hs
      simp only [clearing, Except.ok.injEq] at hdec
      have hsub := clearDecision_sublist exp now (w.blockClaims.at s.key) s.previous
      rw [hdec] at hsub
      exact hsub.length_le

/-! ### Shapes -/

/-- The entries a shape writes. -/
def shapeWrites (aliases : List (FlowKey × ℕ)) (flowHash : BitVec 128) (generation expires : ℕ) :
    List (FlowKey × VerdictValue) :=
  aliases.map fun a => (a.1, ⟨expires, generation, ⟨flowHash, 0, 0⟩, a.2, .shape⟩)

variable {aliases : List (FlowKey × ℕ)} {flowHash : BitVec 128}

theorem shapeWrites_keys :
    (shapeWrites aliases flowHash generation expires).map Prod.fst = aliases.map Prod.fst := by
  simp [shapeWrites]

theorem mem_shapeWrites {v : VerdictValue}
    (h : (key, v) ∈ shapeWrites aliases flowHash generation expires) :
    key ∈ aliases.map Prod.fst ∧ v.identity.flowHash = flowHash ∧ v.verdict = .shape := by
  obtain ⟨a, ha, he⟩ := List.mem_map.1 h
  obtain ⟨rfl, rfl⟩ := Prod.mk.inj he
  exact ⟨List.mem_map_of_mem ha, rfl, rfl⟩

/-- A shape is refused, fails while writing, or is written and drops the claims at its aliases. -/
theorem installShape_cases (flowId : String) :
    (∃ error, installShape w aliases flowId generation expires = (.error error, w)) ∨
      ∃ flowHash map, flowIdentityHash flowId = .ok flowHash ∧
        ((∃ error failure, w.verdictMap.overwrite
            (shapeWrites aliases flowHash generation expires) [] = (.error failure, map) ∧
          installShape w aliases flowId generation expires =
            (.error error, { w with verdictMap := map })) ∨
        ∃ n, w.verdictMap.overwrite
            (shapeWrites aliases flowHash generation expires) [] = (.ok n, map) ∧
          installShape w aliases flowId generation expires =
            (.ok n, { w with
              verdictMap := map
              blockClaims := aliases.foldl (fun acc a => BlockClaims.remove acc a.1)
                w.blockClaims })) := by
  unfold installShape
  split_ifs
  · exact .inl ⟨_, rfl⟩
  rcases hf : flowIdentityHash flowId with error | flowHash
  · exact .inl ⟨_, rfl⟩
  unfold installVerdict
  split_ifs
  · exact .inl ⟨_, rfl⟩
  · exact .inl ⟨_, rfl⟩
  · exact .inl ⟨_, rfl⟩
  · exact .inl ⟨_, rfl⟩
  rcases ho : w.verdictMap.overwrite (shapeWrites aliases flowHash generation expires) [] with
    ⟨failure | n, map⟩
  · refine .inr ⟨flowHash, map, rfl, .inl ⟨overwriteError failure, failure, ho, ?_⟩⟩
    simp only [shapeWrites] at ho
    simp only [ho]
  · grind [shapeWrites]

end Netqmon.Agent.FlowVerdict.Outcomes
