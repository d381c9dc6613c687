import Netqmon.Agent.FlowVerdict.Registry

/-! # Retired flows stay retired

`Retired h k w`: neither the map value at `k` nor any claim at `k` carries the flow hash `h`. A
successful clear of `h` at `k` retires it, and so does a shape of another flow at `k` or a block of
another decision (`retired_of_retires`). No later step brings a retired flow back, except an install
for that flow that names the key (`retired_step`); this gives `no_resurrection`. -/

namespace Netqmon.Agent.FlowVerdict.Retirement

open Agent.Flow Lib.FaultMap Lib.AssocWeight Model Operations Staging Outcomes Registry

/-- The stored entry at `k` does not carry `h`; nothing is said about other keys. -/
def NotCarrying (h : BitVec 128) (k : FlowKey) (key : FlowKey) (value : VerdictValue) : Prop :=
  key = k → value.identity.flowHash ≠ h

structure Retired (h : BitVec 128) (k : FlowKey) (w : FlowVerdictWriter) : Prop where
  value : Holds (NotCarrying h k) w.verdictMap
  claims : ∀ c ∈ w.blockClaims.at k, c.identity.flowHash ≠ h

/-- The call installs a verdict for the flow `h` at `k`. -/
def NamesFlow (h : BitVec 128) (k : FlowKey) : WriterCall → Prop
  | .installBlock aliases _ policyFlowId _ _ _ _ _ =>
    flowIdentityHash policyFlowId = .ok h ∧ k ∈ aliases
  | .installShape aliases policyFlowId _ _ =>
    flowIdentityHash policyFlowId = .ok h ∧ k ∈ aliases.map Prod.fst
  | _ => False

/-! ### Elections -/

theorem mem_of_maxByRank {rank : BlockClaim → ℕ} :
    ∀ {claims : List BlockClaim} {c : BlockClaim}, maxByRank rank claims = some c → c ∈ claims
  | [], _, h => by simp [maxByRank] at h
  | claim :: rest, c, h => by
    unfold maxByRank at h
    rcases hr : maxByRank rank rest with _ | best
    · grind
    · have hbest := mem_of_maxByRank hr
      grind

variable {previous : Option VerdictValue} {v : VerdictValue}

/-- The elected value is the encoding of one of the claims. -/
theorem elected_mem {claims : List BlockClaim}
    (h : (selectBlockClaim claims previous).map (encodeBlockClaim · claims) = some v) :
    ∃ c ∈ claims, v = encodeBlockClaim c claims := by
  obtain ⟨c, hc, rfl⟩ := Option.map_eq_some_iff.1 h
  exact ⟨c, mem_of_maxByRank hc, rfl⟩

variable {key : FlowKey}

theorem at_sweepExpired (registry : BlockClaims) (wanted now : ℕ) :
    (sweepExpired registry wanted now).at key = registry.at key ∨
      (sweepExpired registry wanted now).at key = [] := by
  unfold sweepExpired
  split_ifs
  · dsimp only [BlockClaims.at]
    generalize hl : AList.lookup key (keep _ registry.aliases) = found
    rcases found with _ | claims
    · exact .inr rfl
    · rw [((lookup_keep _ _ _ _).1 hl).1]; exact .inl rfl
  · exact .inl rfl

variable {registry : BlockClaims} {now : ℕ} {c : BlockClaim}

theorem mem_at_sweepExpired {wanted : ℕ} (h : c ∈ (sweepExpired registry wanted now).at key) :
    c ∈ registry.at key := by
  rcases at_sweepExpired registry wanted now with he | he
  · exact he ▸ h
  · rw [he] at h; simp at h

/-! ### One step keeps a flow retired -/

/-- The decision does not bring `h` back at `k`. -/
def KeepsRetired (h : BitVec 128) (k : FlowKey) (decision : Decision) : Prop :=
  ∀ old previous claims next, decision k old previous = .ok (claims, next) →
    (∀ c ∈ old, c.identity.flowHash ≠ h) → (∀ v, previous = some v → v.identity.flowHash ≠ h) →
    (∀ c ∈ claims, c.identity.flowHash ≠ h) ∧ ∀ v, next = some v → v.identity.flowHash ≠ h

variable {h : BitVec 128} {k : FlowKey} {r : Except String ℕ × FlowVerdictWriter}

variable {w : FlowVerdictWriter}

variable {keys : List FlowKey} {decision : Decision}

theorem retired_outcome (ho : Outcome w registry decision keys r) (hw : Retired h k w)
    (hreg : ∀ c ∈ registry.at k, c.identity.flowHash ≠ h)
    (hdec : k ∈ keys → KeepsRetired h k decision) : Retired h k r.2 := by
  have hkp : ∀ key ∈ keys, ∀ previous claims next,
      decision key (registry.at key) previous = .ok (claims, next) →
      (∀ v, previous = some v → NotCarrying h k key v) →
      ∀ v, next = some v → NotCarrying h k key v := by
    rintro key hkey previous claims next hd hpr v hv rfl
    exact (hdec hkey _ _ _ _ hd hreg fun v hv => hpr v hv rfl).2 v hv
  rcases ho with error | ⟨error, map, hmap⟩ | ⟨error, map, staged, hst⟩ |
    ⟨n, map, map', staged, -, hnd, hst, hap, -, -⟩
  · exact hw
  · exact ⟨hmap.holds hw.value, hreg⟩
  · exact ⟨holds_commit hst hw.value hkp, hreg⟩
  · refine ⟨?_, fun c hc => ?_⟩
    · have hval := holds_commit hst hw.value hkp
      rw [hap] at hval
      exact hval
    · by_cases hmem : k ∈ staged.map (·.key)
      · obtain ⟨s, hs, rfl⟩ := List.mem_map.1 hmem
        simp only [commitClaims_at (hst.keys_eq ▸ hnd) hs] at hc
        have hpr : ∀ v, s.previous = some v → v.identity.flowHash ≠ h := by
          intro v hv
          rcases hst.previous_eq s hs with hp | hp
          · exact hw.value s.key v (hp ▸ hv) rfl
          · rw [hp] at hv; cases hv
        exact (hdec (hst.keys_eq ▸ hmem) _ _ _ _ (hst.decided s hs) hreg hpr).1 c hc
      · exact hreg c (commitClaims_at_of_notMem hmem ▸ hc)

variable {observed : List FlowKey}

theorem blockDecision_keepsRetired {identity : VerdictIdentity} (hid : identity.flowHash ≠ h)
    (generation expires : ℕ) :
    KeepsRetired h k (blockDecision observed identity generation expires now) := by
  intro old previous claims next hd hold hpr
  obtain ⟨rfl, -, rfl⟩ := blockDecision_ok hd
  have hcs : ∀ c ∈ mergeClaims old previous now ⟨identity, generation, expires,
      observed.any (sameObservedOrientation k)⟩, c.identity.flowHash ≠ h := by
    intro c hc
    rw [mergeClaims_eq, List.mem_append, List.mem_singleton] at hc
    rcases hc with hc | rfl
    · exact hold c (mem_survivors hc).1
    · exact hid
  refine ⟨hcs, fun v hv => ?_⟩
  obtain ⟨c, hc, rfl⟩ := elected_mem hv
  exact hcs c hc

variable {expected : Option (BitVec 128)}

variable {old : List BlockClaim}

theorem mem_clearDecision (hc : c ∈ (clearDecision expected now old previous).1) :
    c ∈ old ∧ now < c.expiresMonotonicNs ∧ ∀ hash, expected = some hash →
      c.identity.flowHash ≠ hash := by
  have hold := (clearDecision_sublist expected now old previous).subset hc
  simp only [clearDecision, List.mem_filter, Bool.and_eq_true, decide_eq_true_eq] at hc
  refine ⟨hold, hc.2.1, fun hash he => ?_⟩
  simpa [he] using hc.2.2

/-- The value left by clearing: a remaining claim, nothing, or what was there. -/
theorem clearDecision_next (hv : (clearDecision expected now old previous).2 = some v) :
    (∃ c ∈ (clearDecision expected now old previous).1,
        v = encodeBlockClaim c (clearDecision expected now old previous).1) ∨
      previous = some v ∧ ∀ hash, expected = some hash → v.identity.flowHash ≠ hash := by
  simp only [clearDecision] at hv ⊢
  split_ifs at hv ⊢ with hkn htgt
  · exact .inl (elected_mem hv)
  · grind

theorem clearing_keepsRetired : KeepsRetired h k (clearing expected now) := by
  intro old previous claims next hd hold hpr
  obtain ⟨rfl, rfl⟩ := hd
  refine ⟨fun c hc => hold c (mem_clearDecision hc).1, fun v hv => ?_⟩
  rcases clearDecision_next hv with ⟨c, hc, rfl⟩ | ⟨hp, -⟩
  · exact hold c (mem_clearDecision hc).1
  · exact hpr v hp

variable {policyFlowId : String} {generation expires : ℕ} {policyId clientMac : String}

theorem retired_installBlock (hash : String → BitVec 128) (hw : Retired h k w)
    {aliases : List FlowKey} (hno : ¬ (flowIdentityHash policyFlowId = .ok h ∧ k ∈ aliases)) :
    Retired h k (installBlock hash w aliases observed policyFlowId policyId clientMac
      generation expires now).2 := by
  unfold installBlock
  rcases hf : flowIdentityHash policyFlowId with error | flowHash
  · exact hw
  rcases clientMacIdentity clientMac with error | mac
  · exact hw
  refine retired_outcome (installOwnedBlock_outcome _ _ _ _ _ _ _) hw
    (fun c hc => hw.claims c (mem_at_sweepExpired hc)) fun hk => ?_
  refine blockDecision_keepsRetired (fun he => hno ⟨?_, hk⟩) generation expires
  rw [hf, ← he]

theorem retired_clearAliases (hw : Retired h k w) (aliases : List FlowKey)
    (expectedFlowId : Option String) (now : ℕ) :
    Retired h k (clearAliases w aliases expectedFlowId now).2 := by
  rcases clearAliases_outcome w aliases expectedFlowId now with ⟨error, he⟩ | ⟨expected, -, ho⟩
  · rw [he]; exact hw
  · exact retired_outcome ho hw hw.claims fun _ => clearing_keepsRetired

theorem at_remove :
    (BlockClaims.remove registry key).at k = if k = key then [] else registry.at k := by
  unfold BlockClaims.remove
  rcases hl : registry.aliases.lookup key with _ | removed
  · grind [BlockClaims.at]
  · grind [BlockClaims.at]

theorem at_removeAll (k : FlowKey) :
    ∀ (aliases : List (FlowKey × ℕ)) (registry : BlockClaims),
      (aliases.foldl (fun acc a => BlockClaims.remove acc a.1) registry).at k =
        if k ∈ aliases.map Prod.fst then [] else registry.at k
  | [], _ => by simp
  | a :: rest, registry => by
    rw [List.foldl_cons, at_removeAll k rest, at_remove]
    grind

variable {aliases : List (FlowKey × ℕ)}

theorem retired_installShape (hw : Retired h k w)
    (hno : ¬ (flowIdentityHash policyFlowId = .ok h ∧ k ∈ aliases.map Prod.fst)) :
    Retired h k (installShape w aliases policyFlowId generation expires).2 := by
  have hwrite : ∀ flowHash, flowIdentityHash policyFlowId = .ok flowHash →
      Holds (NotCarrying h k) (w.verdictMap.overwrite
        (shapeWrites aliases flowHash generation expires) []).2 := by
    intro flowHash hf
    refine holds_overwrite _ _ _ hw.value (by simp) fun key v hmem hk he => hno ?_
    obtain ⟨hkey, hv, -⟩ := mem_shapeWrites hmem
    exact ⟨hf.trans (congrArg _ (hv.symm.trans he)), hk ▸ hkey⟩
  rcases installShape_cases w policyFlowId with
    ⟨error, he⟩ | ⟨flowHash, map, hf, ⟨error, failure, hmap, he⟩ | ⟨n, hmap, he⟩⟩ <;> rw [he]
  · exact hw
  · have hval := hwrite flowHash hf
    rw [hmap] at hval
    exact ⟨hval, hw.claims⟩
  · have hval := hwrite flowHash hf
    rw [hmap] at hval
    refine ⟨hval, fun c hc => ?_⟩
    rw [at_removeAll] at hc
    split_ifs at hc
    · simp at hc
    · exact hw.claims c hc

theorem retired_reset (hw : Retired h k w) (enabled : Bool) :
    Retired h k (reset w generation enabled).2 := by
  unfold reset
  split_ifs
  · exact hw
  · exact hw
  · exact ⟨holds_sweep _ _ hw.value, by simp [BlockClaims.at, BlockClaims.empty]⟩

variable {s : WriterStep}

/-- A step that is no install for the flow at the key keeps the flow retired there. -/
theorem retired_step (hash : String → BitVec 128) (hw : Retired h k w)
    (hno : ¬ NamesFlow h k s.call) : Retired h k (stepWriter hash w s).2 := by
  have hw' : Retired h k (FlowVerdictWriter.setFaults w s.verdictFaults s.endpointFaults
      s.stateFaults) := ⟨hw.value, hw.claims⟩
  unfold stepWriter
  rcases hc : s.call with ⟨aliases, observed, flowId, policyId, mac, generation, expires, now⟩ |
    ⟨aliases, flowId, generation, expires⟩ | ⟨aliases, expected, now⟩ | ⟨generation, enabled⟩ | keys
    <;> rw [hc] at hno
  · exact retired_installBlock _ hw' hno
  · exact retired_installShape hw' hno
  · exact retired_clearAliases hw' _ _ _
  · exact retired_reset hw' _
  · exact ⟨holds_eraseAll hw'.value keys, hw'.claims⟩

theorem retired_run (hash : String → BitVec 128) :
    ∀ (steps : List WriterStep) {w : FlowVerdictWriter}, Retired h k w →
      (∀ s ∈ steps, ¬ NamesFlow h k s.call) → Retired h k (runWriter hash w steps)
  | [], _, hw, _ => hw
  | s :: rest, _, hw, hno =>
    retired_run hash rest (retired_step _ hw (hno s (by simp)))
      fun s' hs' => hno s' (List.mem_cons_of_mem _ hs')

/-! ### Steps that retire a flow -/

/-- The call, when it succeeds, retires the flow `h` at `k`: it clears it, installs the shape of
another flow, or a block of another policy, client or generation for another flow. -/
def Retires (policyIdentityHash : String → BitVec 128) (h : BitVec 128) (k : FlowKey)
    (w : FlowVerdictWriter) : WriterCall → Prop
  | .clearAliases aliases expectedFlowId _ =>
    k ∈ aliases ∧ ∃ id, expectedFlowId = some id ∧ flowIdentityHash id = .ok h
  | .installShape aliases policyFlowId _ _ =>
    k ∈ aliases.map Prod.fst ∧ flowIdentityHash policyFlowId ≠ .ok h
  | .installBlock aliases _ policyFlowId policyId clientMac generation _ _ =>
    k ∈ aliases ∧ flowIdentityHash policyFlowId ≠ .ok h ∧
      ∃ c ∈ w.blockClaims.at k, c.identity.flowHash = h ∧
        (c.identity.policyHash ≠ policyIdentityHash policyId ∨
          clientMacIdentity clientMac ≠ .ok c.identity.clientMac ∨ c.generation ≠ generation)
  | _ => False

variable {n : ℕ}

/-- A committed operation retires `h` at `k` if its decision there leaves neither a claim nor a
value of `h`. -/
theorem retired_of_outcome_ok (ho : Outcome w registry decision keys r) (hok : r.1 = .ok n)
    (hk : k ∈ keys)
    (hdec : ∀ previous claims next, decision k (registry.at k) previous = .ok (claims, next) →
      (∀ c ∈ claims, c.identity.flowHash ≠ h) ∧ ∀ v, next = some v → v.identity.flowHash ≠ h) :
    Retired h k r.2 := by
  rcases ho with error | ⟨error, map, hmap⟩ | ⟨error, map, staged, hst⟩ |
    ⟨n', map, map', staged, -, hnd, hst, hap, -, -⟩
  · simp at hok
  · simp at hok
  · simp at hok
  have hcom := commit_spec hnd hst hap
  obtain ⟨s, hs, rfl⟩ := List.mem_map.1 (hst.keys_eq ▸ hk)
  obtain ⟨hcs, hnx⟩ := hdec _ _ _ (hst.decided s hs)
  refine ⟨?_, fun c hc => ?_⟩
  · rintro key v hv rfl
    rcases hcom.written s hs with hget | hget
    · exact hnx v (hget.symm.trans hv)
    · rw [hget] at hv; cases hv
  · simp only [commitClaims_at (hst.keys_eq ▸ hnd) hs] at hc
    exact hcs c hc

theorem retired_clearAliases_ok {h : BitVec 128} {k : FlowKey} {aliases : List FlowKey}
    {id : String} {now : ℕ} (hok : (clearAliases w aliases (some id) now).1 = .ok n)
    (hk : k ∈ aliases) (hid : flowIdentityHash id = .ok h) :
    Retired h k (clearAliases w aliases (some id) now).2 := by
  rcases clearAliases_outcome w aliases (some id) now with ⟨error, he⟩ | ⟨expected, hx, ho⟩
  · rw [he] at hok; cases hok
  obtain rfl : some h = expected := by
    simp only [expectedHash, hid] at hx
    exact Except.ok.inj hx
  refine retired_of_outcome_ok ho hok (List.mem_eraseDups.2 hk) fun previous claims next hd => ?_
  obtain ⟨rfl, rfl⟩ := hd
  refine ⟨fun c hc => (mem_clearDecision hc).2.2 h rfl, fun v hv => ?_⟩
  rcases clearDecision_next hv with ⟨c, hc, rfl⟩ | ⟨-, hne⟩
  · exact (mem_clearDecision hc).2.2 h rfl
  · exact hne h rfl

theorem retired_installShape_ok
    (hok : (installShape w aliases policyFlowId generation expires).1 = .ok n)
    (hk : k ∈ aliases.map Prod.fst) (hid : flowIdentityHash policyFlowId ≠ .ok h) :
    Retired h k (installShape w aliases policyFlowId generation expires).2 := by
  rcases installShape_cases w policyFlowId with
    ⟨error, he⟩ | ⟨flowHash, map, hf, ⟨error, failure, hmap, he⟩ | ⟨n', hmap, he⟩⟩ <;>
    rw [he] at hok ⊢
  · cases hok
  · cases hok
  have hov := (overwrite_ok (shapeWrites aliases flowHash generation expires) [] w.verdictMap n'
    (by rw [hmap])).1 k (shapeWrites_keys ▸ hk)
  refine ⟨?_, fun c hc => ?_⟩
  · rintro key v hv rfl
    grind [mem_shapeWrites]
  · rw [at_removeAll, if_pos hk] at hc
    simp at hc

variable {hash : String → BitVec 128}

theorem retired_installBlock_ok (hinv : RegistryInv w.blockClaims) {aliases : List FlowKey}
    (hok : (installBlock hash w aliases observed policyFlowId policyId clientMac generation expires
      now).1 = .ok n)
    (hk : k ∈ aliases) (hid : flowIdentityHash policyFlowId ≠ .ok h) (hc : c ∈ w.blockClaims.at k)
    (ho : c.identity.policyHash ≠ hash policyId ∨
      clientMacIdentity clientMac ≠ .ok c.identity.clientMac ∨ c.generation ≠ generation)
    :
    Retired h k (installBlock hash w aliases observed policyFlowId policyId clientMac
      generation expires now).2 := by
  unfold installBlock at hok ⊢
  rcases hf : flowIdentityHash policyFlowId with error | flowHash
  · simp [hf] at hok
  rcases hm : clientMacIdentity clientMac with error | mac
  · simp [hf, hm] at hok
  simp only [hf, hm] at hok ⊢
  have hne : flowHash ≠ h := fun he => hid (hf.trans (congrArg _ he))
  refine retired_of_outcome_ok (installOwnedBlock_outcome _ _ _ _ _ _ _) hok hk
    fun previous claims next hd => ?_
  obtain ⟨rfl, -, rfl⟩ := blockDecision_ok hd
  -- every older claim belongs to the decision of `c`, so none survives next to the new claim
  have hall : ∀ c' ∈ mergeClaims ((sweepExpired w.blockClaims aliases.length now).at k) previous now
      ⟨⟨flowHash, hash policyId, mac⟩, generation, expires,
        observed.any (sameObservedOrientation k)⟩, c'.identity.flowHash ≠ h := by
    intro c' hc'
    rw [mergeClaims_eq, List.mem_append, List.mem_singleton] at hc'
    rcases hc' with hc' | rfl
    · obtain ⟨hold, -, ⟨h1, h2, h3⟩, -⟩ := mem_survivors hc'
      obtain ⟨g1, g2, g3⟩ :=
        (hinv.at_compatible k).same_decision c hc c' (mem_at_sweepExpired hold)
      grind
    · exact hne
  refine ⟨hall, fun v hv => ?_⟩
  obtain ⟨c', hc', rfl⟩ := elected_mem hv
  exact hall c' hc'

theorem retired_of_retires (hinv : RegistryInv w.blockClaims)
    (hok : (stepWriter hash w s).1 = .ok n) (hret : Retires hash h k w s.call) :
    Retired h k (stepWriter hash w s).2 := by
  unfold stepWriter at hok ⊢
  rcases hcall : s.call with ⟨aliases, observed, flowId, policyId, mac, generation, expires, now⟩ |
    ⟨aliases, flowId, generation, expires⟩ | ⟨aliases, expected, now⟩ | ⟨generation, enabled⟩ | keys
    <;> rw [hcall] at hok hret
  · obtain ⟨hk, hid, c, hc, -, ho⟩ := hret
    exact retired_installBlock_ok (by exact hinv) hok hk hid (by exact hc) ho
  · exact retired_installShape_ok hok hret.1 hret.2
  · obtain ⟨hk, id, rfl, hid⟩ := hret
    exact retired_clearAliases_ok hok hk hid
  · exact hret.elim
  · exact hret.elim

/-- **No resurrection.** Once a successful call has retired the flow `h` at `k`, the value stored at
`k` never carries `h` again, whatever is called, fails or is deleted, until an install for `h`
itself names `k`. -/
theorem no_resurrection (policyIdentityHash : String → BitVec 128) (abiMatches : Bool)
    (verdictMap : Table FlowKey VerdictValue) (endpointMap : Table EndpointKey VerdictValue)
    (policyStateMap : Table Unit PolicyStateValue) (before : List WriterStep) (s : WriterStep)
    (after : List WriterStep) (h : BitVec 128) (k : FlowKey) (w : FlowVerdictWriter)
    (hw : w = runWriter policyIdentityHash
      (FlowVerdictWriter.new abiMatches verdictMap endpointMap policyStateMap) before)
    (n : ℕ) (hok : (stepWriter policyIdentityHash w s).1 = .ok n)
    (hret : Retires policyIdentityHash h k w s.call) (hno : ∀ s' ∈ after, ¬ NamesFlow h k s'.call) :
    ∀ v, (runWriter policyIdentityHash (stepWriter policyIdentityHash w s).2 after).verdictMap.get k
        = some v → v.identity.flowHash ≠ h := by
  have hinv : RegistryInv w.blockClaims := hw ▸ registryInv_run _ _ RegistryInv.empty
  intro v hv
  exact (retired_run policyIdentityHash after (retired_of_retires hinv hok hret) hno).value k v hv
    rfl

/-- Two flows block one key, the first is cleared, then the second is cleared and blocks again. -/
theorem no_resurrection_shared_key :
    (stepWriter samplePolicyHash (runWriter samplePolicyHash sampleWriter
        [sampleBlock [sampleKey 1 1000] sampleFlowA "policy-1" 1000 10,
          sampleBlock [sampleKey 1 1000] sampleFlowB "policy-1" 1000 10])
      (calmStep (.clearAliases [sampleKey 1 1000] (some sampleFlowA) 20))).1 = .ok 0 ∧
    ∀ v, (runWriter samplePolicyHash (stepWriter samplePolicyHash
        (runWriter samplePolicyHash sampleWriter
          [sampleBlock [sampleKey 1 1000] sampleFlowA "policy-1" 1000 10,
            sampleBlock [sampleKey 1 1000] sampleFlowB "policy-1" 1000 10])
        (calmStep (.clearAliases [sampleKey 1 1000] (some sampleFlowA) 20))).2
        [calmStep (.clearAliases [sampleKey 1 1000] (some sampleFlowB) 30),
          sampleBlock [sampleKey 1 1000] sampleFlowB "policy-1" 1000 40]).verdictMap.get
          (sampleKey 1 1000) = some v →
      v.identity.flowHash ≠ 0x00112233445566778899aabbccddeeff := by
  refine ⟨by rfl, no_resurrection samplePolicyHash true ⟨∅, []⟩ ⟨∅, []⟩ ⟨∅, []⟩ _ _ _ _ _ _ rfl 0
    (by rfl) ⟨by decide, sampleFlowA, rfl, by rfl⟩ fun s' hs' => ?_⟩
  rcases List.mem_cons.1 hs' with rfl | hs'
  · exact id
  · rw [List.mem_singleton.1 hs']
    exact fun h => absurd h.1 (by decide)

end Netqmon.Agent.FlowVerdict.Retirement
