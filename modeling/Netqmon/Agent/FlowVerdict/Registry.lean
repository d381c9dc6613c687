import Netqmon.Agent.FlowVerdict.Outcomes

/-! # The claim registry

`RegistryInv`: the stored claim count is the number of stored claims and stays within the table
bound, and every alias of the registry has a non-empty list of compatible claims
(`ClaimsCompatible`). It holds after every run of the writer, whatever the maps do
(`registryInv_run`). -/

namespace Netqmon.Agent.FlowVerdict.Registry

open Agent.Flow Lib.FaultMap Lib.AssocWeight Model Operations Staging Outcomes

/-- Two claims come from one decision: same policy, client and generation. -/
def SameDecision (c c' : BlockClaim) : Prop :=
  c.identity.policyHash = c'.identity.policyHash ∧ c.identity.clientMac = c'.identity.clientMac ∧
    c.generation = c'.generation

/-- What the claims stored under one alias have in common. -/
structure ClaimsCompatible (claims : List BlockClaim) : Prop where
  length_le : claims.length ≤ maxBlockOwnersPerAlias
  hashes_nodup : (claims.map (·.identity.flowHash)).Nodup
  same_decision : ∀ c ∈ claims, ∀ c' ∈ claims, SameDecision c c'

structure RegistryInv (registry : BlockClaims) : Prop where
  count_eq : registry.count = weight List.length registry.aliases
  count_le : registry.count ≤ maxBlockClaims
  claims_ne_nil : ∀ key claims, registry.aliases.lookup key = some claims → claims ≠ []
  claims_compatible : ∀ key claims, registry.aliases.lookup key = some claims →
    ClaimsCompatible claims

/-! ### Compatible claims -/

theorem ClaimsCompatible.nil : ClaimsCompatible [] := ⟨by simp, by simp, by simp⟩

theorem ClaimsCompatible.sublist {claims claims' : List BlockClaim} (h : ClaimsCompatible claims)
    (hs : claims'.Sublist claims) : ClaimsCompatible claims' where
  length_le := hs.length_le.trans h.length_le
  hashes_nodup := h.hashes_nodup.sublist (hs.map _)
  same_decision := fun c hc c' hc' => h.same_decision c (hs.subset hc) c' (hs.subset hc')

variable {registry : BlockClaims}

theorem RegistryInv.at_compatible (h : RegistryInv registry)
    (key : FlowKey) : ClaimsCompatible (registry.at key) := by
  unfold BlockClaims.at
  rcases hl : registry.aliases.lookup key with _ | claims
  · exact ClaimsCompatible.nil
  · exact h.claims_compatible key claims hl

theorem RegistryInv.empty : RegistryInv BlockClaims.empty where
  count_eq := rfl
  count_le := by simp [BlockClaims.empty]
  claims_ne_nil := by simp [BlockClaims.empty]
  claims_compatible := by simp [BlockClaims.empty]

/-! ### The claims an install keeps -/

variable (old : List BlockClaim) (previous : Option VerdictValue)

/-- The older claims that survive the arrival of `claim`. -/
def survivors (now : ℕ) (claim : BlockClaim) : List BlockClaim :=
  (mergeClaims old previous now claim).dropLast

variable {claim : BlockClaim}

variable {now : ℕ}

theorem mergeClaims_eq :
    mergeClaims old previous now claim = survivors old previous now claim ++ [claim] := by
  simp [survivors, mergeClaims]

theorem survivors_sublist (now : ℕ)
    (claim : BlockClaim) : (survivors old previous now claim).Sublist old := by
  simp only [survivors, mergeClaims, List.dropLast_concat]
  split_ifs
  all_goals first | exact List.nil_sublist _ | simp_all

variable {old : List BlockClaim}

/-- A survivor is live, belongs to the new claim's decision and to another flow. -/
theorem mem_survivors {previous : Option VerdictValue} {c : BlockClaim}
    (h : c ∈ survivors old previous now claim) :
    c ∈ old ∧ now < c.expiresMonotonicNs ∧ SameDecision c claim ∧
      c.identity.flowHash ≠ claim.identity.flowHash := by
  have hold := (survivors_sublist old previous now claim).subset h
  simp only [survivors, mergeClaims, List.dropLast_concat, List.mem_filter, bne_iff_ne] at h
  obtain ⟨hmem, hne⟩ := h
  generalize hk : (if ownsValue old previous then old else []) = known at hmem
  by_cases ho : (known.filter fun c => decide (now < c.expiresMonotonicNs)).any
      fun c => c.generation != claim.generation
        || c.identity.policyHash != claim.identity.policyHash
        || c.identity.clientMac != claim.identity.clientMac
  · simp [ho] at hmem
  · rw [if_neg ho] at hmem
    simp only [List.any_eq_true, not_exists, not_and] at ho
    have hc := ho c hmem
    simp only [Bool.or_eq_true, bne_iff_ne, not_or, not_not] at hc
    simp only [List.mem_filter, decide_eq_true_eq] at hmem
    exact ⟨hold, hmem.2, ⟨hc.1.2, hc.2, hc.1.1⟩, hne⟩

theorem mergeClaims_compatible (h : ClaimsCompatible old) (previous : Option VerdictValue)
    (hlen : (mergeClaims old previous now claim).length ≤ maxBlockOwnersPerAlias) :
    ClaimsCompatible (mergeClaims old previous now claim) := by
  have hs := h.sublist (survivors_sublist old previous now claim)
  refine ⟨hlen, ?_, ?_⟩
  · rw [mergeClaims_eq, List.map_append, List.nodup_append]
    refine ⟨hs.hashes_nodup, by simp, ?_⟩
    intro hash hhash hash' hhash'
    obtain ⟨c, hc, rfl⟩ := List.mem_map.1 hhash
    simp only [List.map_cons, List.map_nil, List.mem_singleton] at hhash'
    rw [hhash']
    exact (mem_survivors hc).2.2.2
  · have hclaim : ∀ c ∈ mergeClaims old previous now claim, SameDecision c claim := by
      intro c hc
      rw [mergeClaims_eq, List.mem_append, List.mem_singleton] at hc
      rcases hc with hc | rfl
      · exact (mem_survivors hc).2.2.1
      · exact ⟨rfl, rfl, rfl⟩
    intro c hc c' hc'
    obtain ⟨h1, h2, h3⟩ := hclaim c hc
    obtain ⟨h1', h2', h3'⟩ := hclaim c' hc'
    exact ⟨h1.trans h1'.symm, h2.trans h2'.symm, h3.trans h3'.symm⟩

/-! ### Storing claims -/

variable (aliases : AList fun _ : FlowKey => List BlockClaim) (s : Staged)

theorem lookup_storeClaims_self :
    (storeClaims aliases s).lookup s.key = if s.claims = [] then none else some s.claims := by
  unfold storeClaims
  by_cases h : s.claims = []
  · simp [h]
  · simp [h]

variable {key : FlowKey}

theorem lookup_storeClaims_ne (hne : key ≠ s.key) :
    (storeClaims aliases s).lookup key = aliases.lookup key := by
  unfold storeClaims
  split_ifs
  · exact AList.lookup_erase_ne hne
  · exact AList.lookup_insert_ne hne

theorem lookup_foldl_storeClaims_of_notMem :
    ∀ (staged : List Staged) (aliases : AList fun _ : FlowKey => List BlockClaim) {key : FlowKey},
      key ∉ staged.map (·.key) → (staged.foldl storeClaims aliases).lookup key = aliases.lookup key
  | [], _, _, _ => rfl
  | s :: rest, aliases, key, h => by
    simp only [List.map_cons, List.mem_cons, not_or] at h
    rw [List.foldl_cons, lookup_foldl_storeClaims_of_notMem rest _ h.2,
      lookup_storeClaims_ne _ _ h.1]

theorem lookup_foldl_storeClaims_of_mem :
    ∀ (staged : List Staged) (aliases : AList fun _ : FlowKey => List BlockClaim),
      (staged.map (·.key)).Nodup → ∀ s ∈ staged,
      (staged.foldl storeClaims aliases).lookup s.key =
        if s.claims = [] then none else some s.claims
  | [], _, _, s, hs => by simp at hs
  | s' :: rest, aliases, hnd, s, hs => by
    simp only [List.map_cons, List.nodup_cons] at hnd
    rw [List.foldl_cons]
    rcases List.mem_cons.1 hs with rfl | hs
    · rw [lookup_foldl_storeClaims_of_notMem rest _ hnd.1, lookup_storeClaims_self]
    · exact lookup_foldl_storeClaims_of_mem rest _ hnd.2 s hs

variable {staged : List Staged}

theorem commitClaims_at (hnd : (staged.map (·.key)).Nodup) {s : Staged} (hs : s ∈ staged) :
    (commitClaims registry staged).at s.key = s.claims := by
  unfold BlockClaims.at commitClaims
  rw [lookup_foldl_storeClaims_of_mem staged _ hnd s hs]
  split_ifs with h
  · exact h.symm
  · rfl

theorem commitClaims_at_of_notMem (h : key ∉ staged.map (·.key)) :
    (commitClaims registry staged).at key = registry.at key := by
  unfold BlockClaims.at commitClaims
  rw [lookup_foldl_storeClaims_of_notMem staged _ h]

theorem weight_storeClaims :
    weight List.length (storeClaims aliases s) + weightAt List.length aliases s.key =
      weight List.length aliases + s.claims.length := by
  unfold storeClaims
  split_ifs with h
  · rw [weight_erase, List.isEmpty_iff.1 h]; rfl
  · exact weight_insert _ _ _ _

theorem weightAt_storeClaims_ne (hne : key ≠ s.key) :
    weightAt List.length (storeClaims aliases s) key = weightAt List.length aliases key := by
  unfold weightAt
  rw [lookup_storeClaims_ne _ _ hne]

theorem length_at : (registry.at key).length = weightAt List.length registry.aliases key := by
  unfold BlockClaims.at weightAt
  rcases registry.aliases.lookup key with _ | claims <;> rfl

/-- The running count of a staged operation is the weight of the table it stores. -/
theorem weight_foldl_storeClaims (registry : BlockClaims) :
    ∀ (staged : List Staged) (aliases : AList fun _ : FlowKey => List BlockClaim),
      (staged.map (·.key)).Nodup →
      (∀ s ∈ staged, weightAt List.length aliases s.key = (registry.at s.key).length) →
      weight List.length (staged.foldl storeClaims aliases) =
        stagedCount registry staged (weight List.length aliases)
  | [], _, _, _ => rfl
  | s :: rest, aliases, hnd, hat => by
    simp only [List.map_cons, List.nodup_cons] at hnd
    have hs := hat s (by simp)
    have hle := weightAt_le List.length aliases s.key
    have hw := weight_storeClaims aliases s
    have hct : weight List.length (storeClaims aliases s) =
        weight List.length aliases - (registry.at s.key).length + s.claims.length := by omega
    rw [List.foldl_cons, weight_foldl_storeClaims registry rest _ hnd.2, hct]
    · rfl
    · grind [weightAt_storeClaims_ne]

/-- Storing no more claims than before at every alias does not raise the weight. -/
theorem weight_foldl_storeClaims_le :
    ∀ (staged : List Staged) (aliases : AList fun _ : FlowKey => List BlockClaim),
      (staged.map (·.key)).Nodup →
      (∀ s ∈ staged, s.claims.length ≤ weightAt List.length aliases s.key) →
      weight List.length (staged.foldl storeClaims aliases) ≤ weight List.length aliases
  | [], _, _, _ => le_rfl
  | s :: rest, aliases, hnd, hat => by
    simp only [List.map_cons, List.nodup_cons] at hnd
    have hs := hat s (by simp)
    have hw := weight_storeClaims aliases s
    refine (weight_foldl_storeClaims_le rest _ hnd.2 fun s' hs' => ?_).trans (by omega)
    grind [weightAt_storeClaims_ne]

theorem RegistryInv.commitClaims (h : RegistryInv registry) (hnd : (staged.map (·.key)).Nodup)
    (hcompat : ∀ s ∈ staged, ClaimsCompatible s.claims)
    (hcap : stagedCount registry staged registry.count ≤ maxBlockClaims ∨
      ∀ s ∈ staged, s.claims.length ≤ (registry.at s.key).length) :
    RegistryInv (commitClaims registry staged) := by
  have hweight := weight_foldl_storeClaims registry staged registry.aliases hnd
    fun s _ => (length_at).symm
  rw [← h.count_eq] at hweight
  have hlook : ∀ key claims, (staged.foldl storeClaims registry.aliases).lookup key =
      some claims → claims ≠ [] ∧ ClaimsCompatible claims := by
    intro key claims hl
    by_cases hmem : key ∈ staged.map (·.key)
    · grind [lookup_foldl_storeClaims_of_mem]
    · rw [lookup_foldl_storeClaims_of_notMem staged _ hmem] at hl
      exact ⟨h.claims_ne_nil key claims hl, h.claims_compatible key claims hl⟩
  refine ⟨hweight.symm, ?_, fun key claims hl => (hlook key claims hl).1,
    fun key claims hl => (hlook key claims hl).2⟩
  rcases hcap with hcap | hcap
  · exact hcap
  · have hle := weight_foldl_storeClaims_le staged registry.aliases hnd fun s hs =>
      length_at ▸ hcap s hs
    have h1 := h.count_eq
    have h2 := h.count_le
    show stagedCount registry staged registry.count ≤ maxBlockClaims
    omega

/-! ### The other updates of the registry -/

theorem RegistryInv.sweepExpired (h : RegistryInv registry)
    (wanted now : ℕ) : RegistryInv (sweepExpired registry wanted now) := by
  unfold Operations.sweepExpired
  split_ifs
  · refine ⟨rfl, ?_, fun key claims hl => ?_, fun key claims hl => ?_⟩
    · exact (weight_keep_le _ _ _).trans (h.count_eq ▸ h.count_le)
    · grind [lookup_keep]
    · exact h.claims_compatible key claims ((lookup_keep _ _ _ _).1 hl).1
  · exact h

theorem RegistryInv.remove (h : RegistryInv registry) (key : FlowKey) :
    RegistryInv (BlockClaims.remove registry key) := by
  have hw := weight_erase List.length registry.aliases key
  have hct := h.count_eq
  have hle := h.count_le
  unfold BlockClaims.remove
  rcases hl : registry.aliases.lookup key with _ | removed
  · exact h
  · have hat : weightAt List.length registry.aliases key = removed.length := by simp [weightAt, hl]
    refine ⟨?_, ?_, fun key' claims hl' => ?_, fun key' claims hl' => ?_⟩
    · grind
    · grind
    all_goals
      have hne : key' ≠ key := by
        rintro rfl
        simp at hl'
      rw [AList.lookup_erase_ne hne] at hl'
    · exact h.claims_ne_nil key' claims hl'
    · exact h.claims_compatible key' claims hl'

/-! ### Steps and runs -/

variable {w : FlowVerdictWriter}

theorem registryInv_outcome {decision : Decision}
    {keys : List FlowKey} {r : Except String ℕ × FlowVerdictWriter}
    (ho : Outcome w registry decision keys r) (hw : RegistryInv w.blockClaims)
    (hreg : RegistryInv registry) (hdec : ∀ key old previous claims next, ClaimsCompatible old →
      decision key old previous = .ok (claims, next) → ClaimsCompatible claims) :
    RegistryInv r.2.blockClaims := by
  rcases ho with error | ⟨error, map, -⟩ | ⟨error, map, staged, -⟩ |
    ⟨n, map, map', staged, -, hnd, hst, hap, hcap, -⟩
  · exact hw
  · exact hreg
  · exact hreg
  · refine hreg.commitClaims (hst.keys_eq ▸ hnd) (fun s hs => ?_) hcap
    exact hdec _ _ _ _ _ (hreg.at_compatible s.key) (hst.decided s hs)

variable (hash : String → BitVec 128)

theorem registryInv_step (hw : RegistryInv w.blockClaims) (s : WriterStep) :
    RegistryInv (stepWriter hash w s).2.blockClaims := by
  obtain ⟨call, verdictFaults, endpointFaults, stateFaults⟩ := s
  rcases call with ⟨aliases, observed, flowId, policyId, mac, gen, expires, now⟩ |
    ⟨aliases, flowId, gen, expires⟩ | ⟨aliases, exp, now⟩ | ⟨gen, enabled⟩ | keys
  · show RegistryInv (installBlock _ _ aliases observed flowId policyId mac gen expires
      now).2.blockClaims
    unfold installBlock
    split
    · exact hw
    · exact hw
    refine registryInv_outcome (installOwnedBlock_outcome _ _ _ _ _ _ _) hw
      (hw.sweepExpired _ _) fun key old previous claims next hold hd => ?_
    obtain ⟨rfl, hlen, -⟩ := blockDecision_ok hd
    exact mergeClaims_compatible hold previous hlen
  · show RegistryInv (installShape _ aliases flowId gen expires).2.blockClaims
    rcases installShape_cases _ flowId with
      ⟨error, h⟩ | ⟨flowHash, map, -, ⟨error, failure, -, h⟩ | ⟨n, -, h⟩⟩ <;> rw [h]
    · exact hw
    · exact hw
    · exact List.foldlRecOn aliases _ hw fun _ h a _ => h.remove a.1
  · show RegistryInv (clearAliases _ aliases exp now).2.blockClaims
    rcases clearAliases_outcome _ aliases exp now with ⟨error, h⟩ | ⟨exp, -, h⟩
    · rw [h]; exact hw
    · refine registryInv_outcome h hw hw fun key old previous claims next hold hd => ?_
      have hsub := clearDecision_sublist exp now old previous
      simp only [clearing, Except.ok.injEq] at hd
      rw [hd] at hsub
      exact hold.sublist hsub
  · show RegistryInv (reset _ gen enabled).2.blockClaims
    unfold reset
    split_ifs
    · exact hw
    · exact hw
    · exact RegistryInv.empty
  · exact hw

theorem registryInv_run (steps : List WriterStep) :
    ∀ {w : FlowVerdictWriter}, RegistryInv w.blockClaims →
      RegistryInv (runWriter hash w steps).blockClaims := by
  induction steps with
  | nil => exact fun hw => hw
  | cons s rest ih => exact fun hw => ih (registryInv_step hash hw s)

/-- **Registry invariant.** After every run of a writer, with any failures of the maps and any
deletions of their keys, the claim count is the number of stored claims and within the table bound,
and the claims of an alias are non-empty, few, of distinct flows and of one decision. -/
theorem registry_invariant (policyIdentityHash : String → BitVec 128) (abiMatches : Bool)
    (verdictMap : Table FlowKey VerdictValue) (endpointMap : Table EndpointKey VerdictValue)
    (policyStateMap : Table Unit PolicyStateValue) (steps : List WriterStep) :
    RegistryInv (runWriter policyIdentityHash
        (FlowVerdictWriter.new abiMatches verdictMap endpointMap policyStateMap) steps).blockClaims ∧
      RegistryInv (runWriter policyIdentityHash FlowVerdictWriter.unavailable steps).blockClaims :=
  ⟨registryInv_run _ _ RegistryInv.empty, registryInv_run _ _ RegistryInv.empty⟩

end Netqmon.Agent.FlowVerdict.Registry
