import Netqmon.Agent.Receiver.Runs

/-! # What a revoke clears

A block is written at `blockReverseAliases` of the aliases known when it is applied, and a later
revoke or allow clears `blockReverseAliases` of the aliases known by then. Both lists hold at most
eight keys, and the aliases come first in them: when the alias list has grown, it may have pushed
the variants of the first list out of the second (`revoke_leaves_variants`). The keys of a block are
all cleared exactly when they fit into eight places together with the present aliases
(`blockReverseAliases_subset_iff`); runs in which they do, or in which the flow no longer holds the
others, leave nothing of the flow behind (`revoke_complete`). -/

namespace Netqmon.Agent.Receiver.Revocation

open Agent.Flow FlowAlias FlowVerdict.Model FlowVerdict.Operations
open FlowVerdict.Retirement Command Effects
open Runs Lib.CappedList Protocol.Policy

/-! ### Two lists of block keys -/

/-- The keys of a block at `before` and the aliases `after` fit into the eight places of a block. -/
def BlockFits (before after : List FlowKey) : Prop :=
  (after.toFinset ∪ (blockReverseAliases before).toFinset).card ≤ maxBlockAliases

instance (before after : List FlowKey) : Decidable (BlockFits before after) :=
  inferInstanceAs (Decidable (_ ≤ _))

theorem blockReverseAliases_capped (aliases : List FlowKey) :
    Capped maxBlockAliases (blockReverseAliases aliases) :=
  Capped.pushAll _ (Capped.pushAll _ ⟨List.nodup_nil, Nat.zero_le _⟩)

/-- **Growing aliases.** The keys of an earlier block are among those of a block now exactly when
they fit together with the present aliases. -/
theorem blockReverseAliases_subset_iff {before after : List FlowKey} (hgrow : before <+: after)
    (haf : Capped maxBlockAliases after) :
    blockReverseAliases before ⊆ blockReverseAliases after ↔ BlockFits before after := by
  have hbef : Capped maxBlockAliases before :=
    ⟨haf.nodup.sublist hgrow.sublist, hgrow.length_le.trans haf.length_le⟩
  obtain ⟨more, rfl⟩ := hgrow
  have hsp : blockReverseAliases (before ++ more) =
      pushAll maxBlockAliases
        (pushAll maxBlockAliases (before ++ more) (before.flatMap aliasVariants))
        (more.flatMap aliasVariants) := by
    rw [blockReverseAliases_eq haf, List.flatMap_append, pushAll_append]
  constructor
  · intro hsub
    have hunion : (before ++ more).toFinset ∪ (blockReverseAliases before).toFinset ⊆
        (blockReverseAliases (before ++ more)).toFinset := by
      refine Finset.union_subset ?_ fun k hk => List.mem_toFinset.2 (hsub (List.mem_toFinset.1 hk))
      exact fun k hk =>
        List.mem_toFinset.2 (subset_blockReverseAliases haf (List.mem_toFinset.1 hk))
    calc _ ≤ (blockReverseAliases (before ++ more)).toFinset.card := Finset.card_le_card hunion
      _ ≤ (blockReverseAliases (before ++ more)).length := List.toFinset_card_le _
      _ ≤ maxBlockAliases := (blockReverseAliases_capped _).length_le
  · intro hfits
    have hmono : pushAll maxBlockAliases before (before.flatMap aliasVariants) ⊆
        pushAll maxBlockAliases (before ++ more) (before.flatMap aliasVariants) := by
      refine pushAll_mono (List.subset_append_left before more) haf.nodup ?_
      rw [← blockReverseAliases_eq hbef]
      exact hfits
    grind [blockReverseAliases_eq, prefix_pushAll]

/-! ### Revoking -/

/-- A revoke, or an allow. -/
def Clears (cmd : FlowCommand) : Prop :=
  cmd.operation = .revoke ∨ (cmd.operation = .upsert ∧ cmd.verdict = some .allow)

variable {flow : ResolvedFlow} {status : CommandStatus}

theorem applied_of_finalStatus
    (h : (finalStatus flow status).1 = .applied) : status.1 = .applied := by
  unfold finalStatus at h
  split_ifs at h
  · simp [partialCoverage] at h
  · exact h

variable {ctx : CommandContext} {cmd : FlowCommand} {s : FlowState} {k : FlowKey}

theorem applyClear_applied {forget : Bool} {h : BitVec 128}
    (hid : flowIdentityHash cmd.policyFlowId = .ok h)
    (hsa : (applyClear ctx s cmd flow forget).1.1 = .applied)
    (hk : k ∈ blockReverseAliases flow.aliases) :
    Retired h k (applyClear ctx s cmd flow forget).2.writer := by
  unfold applyClear at hsa ⊢
  rcases hcl : clearAliases s.writer (blockReverseAliases flow.aliases) (some cmd.policyFlowId)
    ctx.writerNs with ⟨error | n, w⟩
  · simp [hcl, mapWriteFailed] at hsa
  have hw : Retired h k w := by
    have hok := @retired_clearAliases_ok s.writer n h k (blockReverseAliases flow.aliases)
      cmd.policyFlowId ctx.writerNs (by rw [hcl]) hk hid
    rw [hcl] at hok
    exact hok
  have hdn : Retired h k (if forget then forgetEndpoints flow w else (.ok (), w)).2 := by
    grind [retired_of_same, forgetEndpoints_same]
  dsimp only
  split
  · next heq => rw [heq] at hdn; exact hdn
  · next heq => rw [heq] at hdn; exact hdn

theorem retired_of_clears {hash : String → BitVec 128} {h : BitVec 128}
    (hid : flowIdentityHash cmd.policyFlowId = .ok h) (hclears : Clears cmd)
    (hsa : (commandOutcome hash ctx s cmd flow).1.1 = .applied)
    (hk : k ∈ blockReverseAliases flow.aliases) :
    Retired h k (commandOutcome hash ctx s cmd flow).2.writer := by
  unfold commandOutcome at hsa ⊢
  rcases href : refusal ctx cmd flow with _ | status
  · unfold applyDecision at hsa ⊢
    rcases hclears with hop | ⟨hop, hv⟩
    · grind [applyClear_applied]
    · grind [applyClear_applied]
  · rw [href] at hsa
    rw [(refusal_effect href (.inl hsa)).2] at hk
    cases hk

/-- Of a block at `before` nothing is left that a command on the aliases `after` does not clear: it
fits, or the flow has neither a claim nor a verdict at the keys left out. -/
def BlockCleared (h : BitVec 128) (w : FlowVerdictWriter) (before after : List FlowKey) : Prop :=
  BlockFits before after ∨
    ∀ k ∈ blockReverseAliases before, k ∈ blockReverseAliases after ∨ Retired h k w

/-- **Revocation completeness.** In a run that starts with nothing of the flow in the map and never
drops its aliases, let a command on the aliases known at the end clear what is left of every block of
the flow. Then a revoke or allow that is acknowledged as applied leaves no verdict of the flow. -/
theorem revoke_complete (policyIdentityHash : String → BitVec 128) (id : String) (h : BitVec 128)
    (hid : flowIdentityHash id = .ok h) (hcanon : Canonical id) (s : FlowState)
    (hfresh : ∀ k, Retired h k s.writer) (events : List FlowEvent)
    (hkeeps : RunKeepsFlow policyIdentityHash id s events)
    (hcmds : ∀ e ∈ events, CanonicalCommand e) (ctx : CommandContext) (cmd : FlowCommand)
    (hcmd : cmd.policyFlowId = id) (hclears : Clears cmd)
    (hcleared : ∀ b ∈ blocksOf policyIdentityHash id s events,
      BlockCleared h (runFlow policyIdentityHash s events).writer b.aliases
        (commandFlow ctx (runFlow policyIdentityHash s events) cmd).aliases)
    (happlied : (applyFlowCommand policyIdentityHash ctx (runFlow policyIdentityHash s events)
      cmd).1.status = .applied) :
    ∀ k v, (applyFlowCommand policyIdentityHash ctx (runFlow policyIdentityHash s events)
      cmd).2.writer.verdictMap.get k = some v → v.identity.flowHash ≠ h := by
  have hfoot := footprint_run policyIdentityHash hid hcanon events
    (footprint_of_fresh id hfresh) hkeeps hcmds
  generalize runFlow policyIdentityHash s events = final at *
  set flow := commandFlow ctx final cmd with hflow
  have hgrow : final.cache.aliases id <+: flow.aliases :=
    hcmd ▸ (extends_resolveAliases ctx (final.withFaults ctx) cmd).evolves cmd.policyFlowId
  have hcapped : Capped maxBlockAliases flow.aliases :=
    (resolveAliases ctx (final.withFaults ctx) cmd).2.cache.aliases_capped cmd.policyFlowId
  have hall : ∀ k, Retired h k (applyFlowCommand policyIdentityHash ctx final cmd).2.writer := by
    intro k
    by_cases hk : k ∈ blockReverseAliases flow.aliases
    · exact retired_of_clears (hcmd ▸ hid) hclears (applied_of_finalStatus happlied) hk
    · have hnone : k ∉ flow.aliases := fun hmem => hk (subset_blockReverseAliases hcapped hmem)
      have hbefore : Retired h k final.writer := by
        by_contra hheld
        refine hheld (hfoot.retired k (fun hmem => hnone (hgrow.subset hmem)) fun b hb hmem => hk ?_)
        rcases hcleared b hb with hfits | hleft
        · exact (blockReverseAliases_subset_iff ((hfoot.grown b hb).trans hgrow) hcapped).2 hfits hmem
        · exact (hleft k hmem).resolve_right hheld
      refine retired_command policyIdentityHash
        (retired_setFaults hbefore ctx.verdictFaults ctx.endpointFaults []) ctx cmd flow
        fun _ hnames => ?_
      rcases hnames.2 with hmem | ⟨-, -, hmem⟩
      · exact hnone hmem
      · exact hk hmem
  exact fun k v hv => (hall k).value k v hv rfl

/-- **Nothing else is enforced.** Whatever commands, observations, failures and resets a run has, a
verdict of the flow stands at an alias of the flow, or at a key derived from the aliases that the flow
had at one of its own block commands. -/
theorem verdicts_contained (policyIdentityHash : String → BitVec 128) (id : String) (h : BitVec 128)
    (hid : flowIdentityHash id = .ok h) (hcanon : Canonical id) (s : FlowState)
    (hfresh : ∀ k, Retired h k s.writer) (events : List FlowEvent)
    (hkeeps : RunKeepsFlow policyIdentityHash id s events)
    (hcmds : ∀ e ∈ events, CanonicalCommand e) (k : FlowKey) (v : VerdictValue)
    (hv : (runFlow policyIdentityHash s events).writer.verdictMap.get k = some v)
    (howner : v.identity.flowHash = h) :
    k ∈ (runFlow policyIdentityHash s events).cache.aliases id ∨
      ∃ b ∈ blocksOf policyIdentityHash id s events, k ∈ blockReverseAliases b.aliases := by
  have hfoot := footprint_run policyIdentityHash hid hcanon events
    (footprint_of_fresh id hfresh) hkeeps hcmds
  by_contra hout
  rw [not_or] at hout
  exact (hfoot.retired k hout.1 fun b hb hmem => hout.2 ⟨b, hb, hmem⟩).value k v hv rfl howner

/-! ### A roaming client -/

/-- The connection of the sample flow, without address translation. -/
def sampleTracked : ConntrackEntry :=
  let original : FlowTuple := ⟨6, .v4 0xc0000201, 1000, .v4 0xc6336401, 443⟩
  ⟨original, reverseTuple original, false, false⟩

/-- An upload observation of the flow while its client is behind the interface. -/
def observedBehind (ifindex : UInt32) (tracked : Option ConntrackEntry) : FlowEvent :=
  .observeDirection sampleFlowA (sampleKey 1 1000) .upload (some (.v4 0xc0000201))
    (some (ifindex, ifindex)) tracked

/-- The first packet of the flow, before its connection is tracked. -/
def firstSeen : List FlowEvent :=
  [.observe sampleFlowA (sampleKey 1 1000) (some sampleClient) 0, observedBehind 3 none]

def blockedOnce : List FlowEvent :=
  firstSeen ++ [.command (sampleContext 1000 false) (sampleBlockCommand 1000)]

theorem blockedOnce_canonical : ∀ e ∈ blockedOnce, CanonicalCommand e := by
  simp only [blockedOnce, firstSeen, List.cons_append, List.nil_append, List.forall_mem_cons,
    List.not_mem_nil, IsEmpty.forall_iff, implies_true, and_true]
  exact ⟨trivial, trivial, sampleFlowA_canonical⟩

/-- The client moves from interface 3 to interfaces 4, 5 and 6. -/
def roamed : List FlowEvent :=
  blockedOnce ++ [observedBehind 3 (some sampleTracked), observedBehind 4 (some sampleTracked),
    observedBehind 5 (some sampleTracked), observedBehind 6 (some sampleTracked)]

def sampleRevoke : FlowCommand := sampleCommand .revoke none [] 2000

theorem revoke_complete_blocked_once :
    (applyFlowCommand samplePolicyHash (sampleContext 2000 false)
      (runFlow samplePolicyHash sampleFlowState blockedOnce) sampleRevoke).1.status = .applied ∧
    ∀ k v, (applyFlowCommand samplePolicyHash (sampleContext 2000 false)
      (runFlow samplePolicyHash sampleFlowState blockedOnce) sampleRevoke).2.writer.verdictMap.get k
        = some v → v.identity.flowHash ≠ 0x00112233445566778899aabbccddeeff := by
  have happlied : (applyFlowCommand samplePolicyHash (sampleContext 2000 false)
      (runFlow samplePolicyHash sampleFlowState blockedOnce) sampleRevoke).1.status = .applied := by
    decide +kernel
  refine ⟨happlied, revoke_complete samplePolicyHash sampleFlowA _ sampleFlowA_hash
    sampleFlowA_canonical sampleFlowState (sampleFlowState_fresh) blockedOnce
    ⟨trivial, trivial, trivial, trivial⟩ blockedOnce_canonical _ _ rfl (.inl rfl)
    (fun b hb => .inl ?_) happlied⟩
  revert b
  decide +kernel

/-- The block stands at a key that is no alias of the flow, but derived from one. -/
theorem verdicts_contained_blocked_once :
    ∃ v, (runFlow samplePolicyHash sampleFlowState blockedOnce).writer.verdictMap.get
        (otherHook (sampleKey 1 1000)) = some v ∧
      (otherHook (sampleKey 1 1000) ∈
          (runFlow samplePolicyHash sampleFlowState blockedOnce).cache.aliases sampleFlowA ∨
        ∃ b ∈ blocksOf samplePolicyHash sampleFlowA sampleFlowState blockedOnce,
          otherHook (sampleKey 1 1000) ∈ blockReverseAliases b.aliases) := by
  have hblocked : ((runFlow samplePolicyHash sampleFlowState blockedOnce).writer.verdictMap.get
      (otherHook (sampleKey 1 1000))).map (·.identity.flowHash) =
        some 0x00112233445566778899aabbccddeeff := by
    decide +kernel
  obtain ⟨v, hv, howner⟩ := Option.map_eq_some_iff.1 hblocked
  refine ⟨v, hv, verdicts_contained samplePolicyHash sampleFlowA _ sampleFlowA_hash
    sampleFlowA_canonical sampleFlowState sampleFlowState_fresh blockedOnce
    ⟨trivial, trivial, trivial, trivial⟩ blockedOnce_canonical _ v hv howner⟩

/-- The block covers four keys of interface 3. By the revoke the flow has eight aliases, so the two
variants that never were aliases are no longer derived, and stay blocked. -/
theorem revoke_leaves_variants :
    (applyFlowCommand samplePolicyHash (sampleContext 1000 false)
      (runFlow samplePolicyHash sampleFlowState firstSeen)
      (sampleBlockCommand 1000)).1.status = .applied ∧
    (applyFlowCommand samplePolicyHash (sampleContext 2000 false)
      (runFlow samplePolicyHash sampleFlowState roamed) sampleRevoke).1.status = .applied ∧
    ((applyFlowCommand samplePolicyHash (sampleContext 2000 false)
      (runFlow samplePolicyHash sampleFlowState roamed) sampleRevoke).2.writer.verdictMap.get
        (otherHook (sampleKey 1 1000))).map (fun v => (v.verdict, v.identity.flowHash)) =
      some (.block, 0x00112233445566778899aabbccddeeff) := by
  refine ⟨?_, ?_, ?_⟩ <;> decide +kernel

end Netqmon.Agent.Receiver.Revocation
