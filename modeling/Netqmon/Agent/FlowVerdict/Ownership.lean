import Netqmon.Agent.FlowVerdict.Retirement

/-! # Shared block keys

Several flows of one decision may claim one key; the map then holds the verdict of an elected owner,
with the latest expiry of all claims. `HoldsBlock w k c`: the claim `c` is registered at `k`, and the
map blocks `k` at least as long as `c` lasts. Whatever the maps went through before,

* a successful block of the flow puts it in force (`holdsBlock_installBlock`);
* calls for other flows of the same decision keep it, and so does what the kernel deletes at other
  keys (`holdsBlock_step`);
* clearing the flow leaves the key blocked exactly when another live claim is there
  (`blocked_clear_iff`). -/

namespace Netqmon.Agent.FlowVerdict.Ownership

open Agent.Flow Lib.FaultMap Lib.AssocWeight Model Operations Staging Outcomes Registry Retirement

/-- The map holds a block at `k` that lasts at least until `expires`. -/
def BlockedUntil (w : FlowVerdictWriter) (k : FlowKey) (expires : ℕ) : Prop :=
  ∃ v, w.verdictMap.get k = some v ∧ v.verdict = .block ∧ expires ≤ v.expiresMonotonicNs

structure HoldsBlock (w : FlowVerdictWriter) (k : FlowKey) (c : BlockClaim) : Prop where
  claimed : c ∈ w.blockClaims.at k
  owned : ∃ v, w.verdictMap.get k = some v ∧ ownsValue (w.blockClaims.at k) (some v) = true ∧
    c.expiresMonotonicNs ≤ v.expiresMonotonicNs

/-! ### Elected values -/

theorem maxByRank_ne_none (rank : BlockClaim → ℕ) (claim : BlockClaim) (rest : List BlockClaim) :
    ∃ c, maxByRank rank (claim :: rest) = some c := by
  unfold maxByRank
  rcases maxByRank rank rest with _ | best
  · exact ⟨claim, rfl⟩
  · dsimp only
    split_ifs
    · exact ⟨best, rfl⟩
    · exact ⟨claim, rfl⟩

variable {claims : List BlockClaim}

/-- Among claims there is always an owner to elect. -/
theorem elected_exists (hne : claims ≠ []) (prev : Option VerdictValue) :
    ∃ c ∈ claims, (selectBlockClaim claims prev).map (encodeBlockClaim · claims) =
      some (encodeBlockClaim c claims) := by
  obtain ⟨claim, rest, rfl⟩ := List.exists_cons_of_ne_nil hne
  obtain ⟨c, hc⟩ := maxByRank_ne_none (claimRank prev) claim rest
  exact ⟨c, mem_of_maxByRank hc, by simp [selectBlockClaim, hc]⟩

variable {c : BlockClaim}

theorem expiry_le_encode (hc : c ∈ claims) (winner : BlockClaim) :
    c.expiresMonotonicNs ≤ (encodeBlockClaim winner claims).expiresMonotonicNs := by
  have hmem : c.expiresMonotonicNs ∈ claims.map (·.expiresMonotonicNs) := List.mem_map_of_mem hc
  rcases hm : latestExpiry claims with _ | m
  · grind [latestExpiry]
  · simp only [encodeBlockClaim, hm]
    exact (List.max?_le_iff hm).1 le_rfl _ hmem

variable {winner : BlockClaim}

theorem ownsValue_encode (hw : winner ∈ claims) :
    ownsValue claims (some (encodeBlockClaim winner claims)) = true := by
  simp only [ownsValue, Option.any_some, List.any_eq_true]
  exact ⟨winner, hw, by simp [blockClaimMatchesValue, encodeBlockClaim]⟩

variable {v : VerdictValue}

variable {k : FlowKey}

variable {w : FlowVerdictWriter}

theorem HoldsBlock.blockedUntil (h : HoldsBlock w k c) : BlockedUntil w k c.expiresMonotonicNs := by
  obtain ⟨v, hv, hws, hle⟩ := h.owned
  refine ⟨v, hv, ?_, hle⟩
  simp only [ownsValue, Option.any_some, List.any_eq_true] at hws
  obtain ⟨c, -, hc⟩ := hws
  simp only [blockClaimMatchesValue, Bool.and_eq_true, beq_iff_eq] at hc
  exact hc.1.1.1.1

theorem HoldsBlock.of_elected (hat : w.blockClaims.at k = claims) (hc : c ∈ claims)
    (hwin : winner ∈ claims) (hget : w.verdictMap.get k = some (encodeBlockClaim winner claims)) :
    HoldsBlock w k c := by
  subst hat
  exact ⟨hc, _, hget, ownsValue_encode hwin, expiry_le_encode hc winner⟩

/-! ### A live claim survives other flows -/

variable {registry : BlockClaims} {now : ℕ}

theorem at_sweepExpired_live {wanted : ℕ} {key : FlowKey}
    (hc : c ∈ registry.at key) (hlv : now < c.expiresMonotonicNs) :
    (sweepExpired registry wanted now).at key = registry.at key := by
  unfold sweepExpired
  split_ifs
  · dsimp only [BlockClaims.at] at hc ⊢
    rcases hl : registry.aliases.lookup key with _ | claims
    · simp [hl] at hc
    · rw [hl] at hc
      have hkp := (lookup_keep (fun claims => claims.any fun c =>
        decide (now < c.expiresMonotonicNs)) registry.aliases key claims).2
        ⟨hl, List.any_eq_true.2 ⟨c, hc, by simpa using hlv⟩⟩
      rw [hkp]
  · rfl

variable {old : List BlockClaim}

theorem mem_mergeClaims (hold : ClaimsCompatible old) {claim : BlockClaim} (hc : c ∈ old)
    (hws : ownsValue old (some v) = true) (hlv : now < c.expiresMonotonicNs)
    (hsm : SameDecision c claim) (hne : c.identity.flowHash ≠ claim.identity.flowHash) :
    c ∈ mergeClaims old (some v) now claim := by
  have hcompat : ¬ ((old.filter fun c => decide (now < c.expiresMonotonicNs)).any fun c =>
      c.generation != claim.generation || c.identity.policyHash != claim.identity.policyHash
        || c.identity.clientMac != claim.identity.clientMac) = true := by
    simp only [List.any_eq_true, not_exists, not_and, Bool.or_eq_true, bne_iff_ne, not_or, not_not]
    intro c' hc'
    obtain ⟨h1, h2, h3⟩ := hold.same_decision c' (List.mem_of_mem_filter hc') c hc
    obtain ⟨g1, g2, g3⟩ := hsm
    exact ⟨⟨h3.trans g3, h1.trans g1⟩, h2.trans g2⟩
  simp only [mergeClaims, hws, if_true, if_neg hcompat, List.mem_append, List.mem_filter]
  exact .inl ⟨⟨hc, by simpa using hlv⟩, by simpa using hne⟩

theorem mem_clearDecision_of_live {hash : BitVec 128} (hc : c ∈ old)
    (hws : ownsValue old (some v) = true) (hlv : now < c.expiresMonotonicNs)
    (hne : c.identity.flowHash ≠ hash) : c ∈ (clearDecision (some hash) now old (some v)).1 := by
  simp only [clearDecision, hws, List.mem_filter]
  exact ⟨hc, by simpa [hlv] using hne⟩

theorem clearDecision_next_owned {exp : Option (BitVec 128)} (hws : ownsValue old (some v) = true) :
    (clearDecision exp now old (some v)).2 =
      (selectBlockClaim (clearDecision exp now old (some v)).1 (some v)).map
        (encodeBlockClaim · (clearDecision exp now old (some v)).1) := by
  simp [clearDecision, hws]

/-- The decision keeps the claim and elects a value for a list of claims that contains it. -/
def KeepsClaim (decision : Decision) (k : FlowKey) (old : List BlockClaim) (v : VerdictValue)
    (c : BlockClaim) : Prop :=
  ∀ claims next, decision k old (some v) = .ok (claims, next) →
    c ∈ claims ∧ next = (selectBlockClaim claims (some v)).map (encodeBlockClaim · claims)

variable {r : Except String ℕ × FlowVerdictWriter}

variable {keys : List FlowKey} {decision : Decision}

theorem holdsBlock_outcome (ho : Outcome w registry decision keys r) (hcm : Calm w.verdictMap)
    (h : HoldsBlock w k c) (hreg : registry.at k = w.blockClaims.at k)
    (hdec : ∀ v, w.verdictMap.get k = some v → ownsValue (w.blockClaims.at k) (some v) = true →
      KeepsClaim decision k (w.blockClaims.at k) v c) :
    HoldsBlock r.2 k c := by
  obtain ⟨hclaimed, v, hv, hws, hle⟩ := h
  rcases ho with error | ⟨error, map, -, hc⟩ | ⟨error, map, staged, -, hc⟩ |
    ⟨n, map, map', staged, -, hnd, hst, hap, -, hc⟩
  · exact ⟨hclaimed, v, hv, hws, hle⟩
  · obtain rfl := hc hcm
    exact ⟨hreg ▸ hclaimed, v, hv, hreg ▸ hws, hle⟩
  · exact absurd hcm hc
  obtain ⟨rfl, hpr⟩ := hc hcm
  obtain ⟨-, -, hwr, hother⟩ := commit_calm hcm hnd hst hpr
  rw [hap] at hwr hother
  by_cases hk : k ∈ keys
  · obtain ⟨s, hs, rfl⟩ := List.mem_map.1 (hst.keys_eq ▸ hk)
    have hd := hst.decided s hs
    rw [hpr s hs, hv, hreg] at hd
    obtain ⟨hmem, hnx⟩ := hdec v hv hws s.claims s.next hd
    obtain ⟨winner, hwin, helect⟩ := elected_exists (List.ne_nil_of_mem hmem) (some v)
    exact HoldsBlock.of_elected (commitClaims_at (hst.keys_eq ▸ hnd) hs) hmem hwin
      ((hwr s hs).trans (hnx.trans helect))
  · have hat : (commitClaims registry staged).at k = w.blockClaims.at k := by
      rw [commitClaims_at_of_notMem (hst.keys_eq ▸ hk), hreg]
    exact ⟨hat ▸ hclaimed, v, (hother k hk).trans hv, hat ▸ hws, hle⟩

/-- A block of another flow of the claim's policy, client and generation, or a clear of another
flow, before the claim expires; or the kernel deletes other keys. -/
def OtherFlowCall (policyIdentityHash : String → BitVec 128) (k : FlowKey) (c : BlockClaim) :
    WriterCall → Prop
  | .installBlock _ _ policyFlowId policyId clientMac generation _ now =>
    flowIdentityHash policyFlowId ≠ .ok c.identity.flowHash ∧
      policyIdentityHash policyId = c.identity.policyHash ∧
      clientMacIdentity clientMac = .ok c.identity.clientMac ∧ generation = c.generation ∧
      now < c.expiresMonotonicNs
  | .clearAliases _ expectedFlowId now =>
    (∃ id, expectedFlowId = some id ∧ flowIdentityHash id ≠ .ok c.identity.flowHash) ∧
      now < c.expiresMonotonicNs
  | .evict keys => k ∉ keys
  | _ => False

variable {hash : String → BitVec 128} {aliases : List FlowKey} {id : String}

theorem holdsBlock_clearAliases (hcm : Calm w.verdictMap) (h : HoldsBlock w k c)
    (hid : flowIdentityHash id ≠ .ok c.identity.flowHash) (hnow : now < c.expiresMonotonicNs) :
    HoldsBlock (clearAliases w aliases (some id) now).2 k c := by
  rcases clearAliases_outcome w aliases (some id) now with ⟨error, he⟩ | ⟨expected, hx, ho⟩
  · rw [he]; exact h
  refine holdsBlock_outcome ho hcm h rfl fun v _ hws claims next hd => ?_
  obtain ⟨rfl, rfl⟩ := hd
  rcases hf : flowIdentityHash id with error | hash
  · simp [expectedHash, hf, Except.map] at hx
  obtain rfl : some hash = expected := by
    simp only [expectedHash, hf] at hx
    exact Except.ok.inj hx
  refine ⟨mem_clearDecision_of_live h.claimed hws hnow ?_, clearDecision_next_owned hws⟩
  exact fun he => hid (hf.trans (congrArg _ he.symm))

variable {s : WriterStep}

theorem holdsBlock_step (hinv : RegistryInv w.blockClaims) (h : HoldsBlock w k c)
    (hc : OtherFlowCall hash k c s.call) (hcm : s.verdictFaults = []) :
    HoldsBlock (stepWriter hash w s).2 k c := by
  have hw : HoldsBlock (FlowVerdictWriter.setFaults w s.verdictFaults s.endpointFaults
      s.stateFaults) k c := ⟨h.claimed, h.owned⟩
  unfold stepWriter
  rcases hs : s.call with ⟨aliases, observed, flowId, policyId, mac, gen, expires, now⟩ |
    ⟨aliases, flowId, gen, expires⟩ | ⟨aliases, exp, now⟩ | ⟨gen, enabled⟩ | keys
    <;> rw [hs] at hc
  · obtain ⟨hfl, hpol, hcli, hgen, hnow⟩ := hc
    show HoldsBlock (installBlock _ _ aliases observed flowId policyId mac gen expires now).2 k c
    unfold installBlock
    rcases hf : flowIdentityHash flowId with error | flowHash
    · exact hw
    simp only [hcli]
    refine holdsBlock_outcome (installOwnedBlock_outcome _ _ _ _ _ _ _) (by exact hcm) hw
      (at_sweepExpired_live hw.claimed hnow) fun v _ hws claims next hd => ?_
    obtain ⟨rfl, -, rfl⟩ := blockDecision_ok hd
    refine ⟨mem_mergeClaims (hinv.at_compatible k) hw.claimed hws hnow ?_ ?_, rfl⟩
    · exact ⟨hpol.symm, rfl, hgen.symm⟩
    · exact fun he => hfl (hf.trans (congrArg _ he.symm))
  · exact hc.elim
  · obtain ⟨⟨id, rfl, hid⟩, hnow⟩ := hc
    exact holdsBlock_clearAliases (by exact hcm) hw hid hnow
  · exact hc.elim
  · obtain ⟨hclaimed, v, hv, howned⟩ := hw
    exact ⟨hclaimed, v, ((lookup_eraseAll keys _).trans (if_neg hc)).trans hv, howned⟩

theorem holdsBlock_run :
    ∀ (steps : List WriterStep) {w : FlowVerdictWriter}, RegistryInv w.blockClaims →
      HoldsBlock w k c →
      (∀ s ∈ steps, OtherFlowCall hash k c s.call ∧ s.verdictFaults = []) →
      HoldsBlock (runWriter hash w steps) k c
  | [], _, _, h, _ => h
  | s :: rest, _, hinv, h, hsteps => by
    obtain ⟨hc, hcm⟩ := hsteps s (by simp)
    exact holdsBlock_run rest (registryInv_step _ hinv s) (holdsBlock_step hinv h hc hcm)
      fun s' hs' => hsteps s' (List.mem_cons_of_mem _ hs')

/-! ### Clearing the flow itself -/

/-- The key is blocked now. -/
def Blocked (w : FlowVerdictWriter) (k : FlowKey) (now : ℕ) : Prop :=
  ∃ v, w.verdictMap.get k = some v ∧ v.verdict = .block ∧ now < v.expiresMonotonicNs

theorem blocked_clear_iff (hcm : Calm w.verdictMap) (h : HoldsBlock w k c) {n : ℕ}
    (hk : k ∈ aliases) (hid : flowIdentityHash id = .ok c.identity.flowHash)
    (hok : (clearAliases w aliases (some id) now).1 = .ok n) :
    Blocked (clearAliases w aliases (some id) now).2 k now ↔
      ∃ c' ∈ w.blockClaims.at k, c'.identity.flowHash ≠ c.identity.flowHash ∧
        now < c'.expiresMonotonicNs := by
  rcases clearAliases_outcome w aliases (some id) now with ⟨error, he⟩ | ⟨expected, hx, ho⟩
  · rw [he] at hok; cases hok
  obtain rfl : some c.identity.flowHash = expected := by
    simp only [expectedHash, hid] at hx
    exact Except.ok.inj hx
  obtain ⟨hclaimed, v, hv, hws, -⟩ := h
  obtain ⟨staged, -, hst, hpr, hwr, -⟩ := ho.of_ok hcm hok
  obtain ⟨s, hs, rfl⟩ := List.mem_map.1 (hst.keys_eq ▸ List.mem_eraseDups.2 hk)
  have hd := hst.decided s hs
  rw [hpr s hs, hv] at hd
  simp only [clearing, Except.ok.injEq, Prod.ext_iff] at hd
  obtain ⟨hcs, hnx⟩ := hd
  rw [clearDecision_next_owned hws, hcs] at hnx
  have hget := hwr s hs
  constructor
  · rintro ⟨v', hv', -, -⟩
    obtain ⟨c', hc', -⟩ := elected_mem (hnx.trans (hget.symm.trans hv'))
    obtain ⟨hold, hlv, hne⟩ := mem_clearDecision (hcs ▸ hc')
    exact ⟨c', hold, hne _ rfl, hlv⟩
  · rintro ⟨c', hc', hne, hlv⟩
    have hmem : c' ∈ s.claims := hcs ▸ mem_clearDecision_of_live hc' hws hlv hne
    obtain ⟨winner, hwin, helect⟩ := elected_exists (List.ne_nil_of_mem hmem) (some v)
    exact ⟨_, hget.trans (hnx.symm.trans helect), rfl, hlv.trans_le (expiry_le_encode hmem _)⟩

/-! ### Blocking the flow -/

/-- Whatever is in the map and in the registry, a block that succeeds is in force at all its keys. -/
theorem holdsBlock_installBlock (hcm : Calm w.verdictMap) {observed : List FlowKey}
    {policyId clientMac : String} {gen expires n : ℕ} {flowHash : BitVec 128} {mac : BitVec 48}
    (hid : flowIdentityHash id = .ok flowHash) (hmac : clientMacIdentity clientMac = .ok mac)
    (hok : (installBlock hash w aliases observed id policyId clientMac gen expires now).1 = .ok n)
    (hk : k ∈ aliases) :
    HoldsBlock (installBlock hash w aliases observed id policyId clientMac gen expires now).2 k
      ⟨⟨flowHash, hash policyId, mac⟩, gen, expires,
        observed.any (sameObservedOrientation k)⟩ := by
  simp only [installBlock, hid, hmac] at hok ⊢
  have ho := installOwnedBlock_outcome w aliases observed ⟨flowHash, hash policyId, mac⟩ gen expires
    now
  obtain ⟨staged, hnd, hst, -, hwr, hclaims⟩ := ho.of_ok hcm hok
  obtain ⟨s, hs, rfl⟩ := List.mem_map.1 (hst.keys_eq ▸ hk)
  obtain ⟨hcs, -, hnx⟩ := blockDecision_ok (hst.decided s hs)
  have hmem : ⟨⟨flowHash, hash policyId, mac⟩, gen, expires,
      observed.any (sameObservedOrientation s.key)⟩ ∈ s.claims := by
    rw [hcs]
    exact List.mem_append_right _ (List.mem_singleton_self _)
  obtain ⟨winner, hwin, helect⟩ := elected_exists (List.ne_nil_of_mem hmem) s.previous
  exact HoldsBlock.of_elected (hclaims ▸ commitClaims_at (hst.keys_eq ▸ hnd) hs) hmem hwin
    ((hwr s hs).trans (hnx.trans helect))

/-- **No lost block on a shared key.** Take a writer after any run, whatever failed in it and whatever
the kernel deleted, in which a claim has its block in force at `k`. After any calls for other flows of
the same policy, client and generation, made before the claim expires, and any deletions at other keys,
`k` is blocked at least until the claim's expiry; and clearing the claim's own flow leaves `k` blocked
exactly when another live claim is registered there. -/
theorem shared_block_not_lost (policyIdentityHash : String → BitVec 128) (abiMatches : Bool)
    (verdictMap : Table FlowKey VerdictValue) (endpointMap : Table EndpointKey VerdictValue)
    (policyStateMap : Table Unit PolicyStateValue) (before : List WriterStep) (w : FlowVerdictWriter)
    (hw : w = runWriter policyIdentityHash
      (FlowVerdictWriter.new abiMatches verdictMap endpointMap policyStateMap) before)
    (k : FlowKey) (c : BlockClaim) (hc : HoldsBlock w k c) (steps : List WriterStep)
    (hsteps : ∀ s ∈ steps, OtherFlowCall policyIdentityHash k c s.call ∧ s.verdictFaults = []) :
    BlockedUntil (runWriter policyIdentityHash w steps) k c.expiresMonotonicNs ∧
      ∀ (aliases : List FlowKey) (id : String) (now n : ℕ) (w' w'' : FlowVerdictWriter),
        w' = runWriter policyIdentityHash w steps → k ∈ aliases →
        flowIdentityHash id = .ok c.identity.flowHash →
        stepWriter policyIdentityHash w' (calmStep (.clearAliases aliases (some id) now)) =
          (.ok n, w'') →
        (Blocked w'' k now ↔ ∃ c' ∈ w'.blockClaims.at k,
          c'.identity.flowHash ≠ c.identity.flowHash ∧ now < c'.expiresMonotonicNs) := by
  have hinv : RegistryInv w.blockClaims := hw ▸ registryInv_run _ _ RegistryInv.empty
  have hholds := holdsBlock_run steps hinv hc hsteps
  refine ⟨hholds.blockedUntil, ?_⟩
  rintro aliases id now n w' w'' rfl hk hid hclear
  have hholds' : HoldsBlock (FlowVerdictWriter.setFaults (runWriter policyIdentityHash w steps)
      [] [] []) k c := ⟨hholds.claimed, hholds.owned⟩
  have hiff := blocked_clear_iff (by rfl) hholds' hk hid (congrArg Prod.fst hclear)
  have hsnd := congrArg Prod.snd hclear
  simp only [stepWriter, callWriter, calmStep] at hsnd
  rw [hsnd] at hiff
  exact hiff

/-- The kernel deletes a key, and a clear fails. -/
def troubledWriter : FlowVerdictWriter :=
  runWriter samplePolicyHash sampleWriter [calmStep (.evict [sampleKey 1 7]),
    ⟨.clearAliases [sampleKey 1 1000] none 5, [⟨[], some "EIO"⟩], [], []⟩]

/-- Then two flows of one policy block a key; clearing the second leaves the first in force. -/
theorem shared_block_not_lost_two_flows :
    BlockedUntil (runWriter samplePolicyHash (runWriter samplePolicyHash troubledWriter
        [sampleBlock [sampleKey 1 1000] sampleFlowA "policy-1" 1000 10])
      [sampleBlock [sampleKey 1 1000] sampleFlowB "policy-1" 500 20,
        calmStep (.evict [sampleKey 1 7]),
        calmStep (.clearAliases [sampleKey 1 1000] (some sampleFlowB) 30)]) (sampleKey 1 1000)
      1000 := by
  refine (shared_block_not_lost samplePolicyHash true ⟨∅, []⟩ ⟨∅, []⟩ ⟨∅, []⟩ [_, _, _] _ rfl
    (sampleKey 1 1000) ⟨⟨0x00112233445566778899aabbccddeeff, samplePolicyHash "policy-1",
      0xaabbccddeeff⟩, 7, 1000, true⟩ ?_ _ fun s hs => ?_).1
  · let w := FlowVerdictWriter.setFaults troubledWriter [] [] []
    have hblock := @holdsBlock_installBlock (sampleKey 1 1000) w 10 samplePolicyHash
      [sampleKey 1 1000] sampleFlowA rfl [sampleKey 1 1000] "policy-1" sampleMac 7 1000 1
    exact hblock (by rfl) (by rfl) (by rfl) (List.mem_singleton.2 rfl)
  rcases List.mem_cons.1 hs with rfl | hs
  · exact ⟨⟨by decide, rfl, by rfl, rfl, by decide⟩, rfl⟩
  rcases List.mem_cons.1 hs with rfl | hs
  · exact ⟨show sampleKey 1 1000 ∉ [sampleKey 1 7] by decide, rfl⟩
  · rw [List.mem_singleton.1 hs]
    exact ⟨⟨⟨sampleFlowB, rfl, by decide⟩, by decide⟩, rfl⟩

end Netqmon.Agent.FlowVerdict.Ownership
