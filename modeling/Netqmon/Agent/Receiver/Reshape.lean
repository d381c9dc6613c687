import Netqmon.Agent.Receiver.Revocation

/-! # A shape after a block

A shape command installs its verdict on the aliases that lie on a controlled hook and have a class.
It replaces the flow's block there and nowhere else, and it leaves endpoint blocks alone: a flow that
was blocked stays blocked at every other key of the block (`shape_leaves_block`). Only where the tags
cover all keys that are still blocked for the flow, and no endpoint block of it is there, is nothing
of the block left (`shape_supersedes_block`). -/

namespace Netqmon.Agent.Receiver.Reshape

open Agent.Flow FlowVerdict.Model FlowVerdict.Operations FlowVerdict.Outcomes
open FlowVerdict.Retirement Command Effects Runs Revocation Lib.CappedList Lib.FaultMap
open Protocol.Policy

/-- A shape that took effect stands at its tags; elsewhere it writes nothing. -/
theorem get_of_tookEffect {hash : String → BitVec 128} {ctx : CommandContext}
    {s : FlowState} {cmd : FlowCommand} {flow : ResolvedFlow} (hop : cmd.operation = .upsert)
    (hverd : cmd.verdict = some .shape)
    (heff : TookEffect (commandOutcome hash ctx s cmd flow).1.1) {k : FlowKey} {v : VerdictValue}
    (hv : (commandOutcome hash ctx s cmd flow).2.writer.verdictMap.get k = some v) :
    v.verdict = .shape ∨ k ∉ (shapeSelection ctx s.cache cmd flow).tags.map Prod.fst ∧
      s.writer.verdictMap.get k = some v := by
  unfold commandOutcome at heff hv
  rcases href : refusal ctx cmd flow with _ | status
  · simp only [href, applyDecision, hop, hverd] at heff hv
    rcases applyShape_cases ctx s cmd flow with ⟨he, -⟩ | ⟨he, -⟩ | ⟨n, hok, hreads⟩
    · rw [he] at heff
      exact absurd heff (by decide)
    · rw [he] at heff
      exact absurd heff (by decide)
    · have hrd := (hreads.verdicts k).resolve_right fun hrd => by cases hv.symm.trans hrd
      rw [hrd] at hv
      rcases installShape_cases s.writer cmd.policyFlowId with
        ⟨error, he⟩ | ⟨flowHash, map, -, ⟨error, failure, -, he⟩ | ⟨n', hmap, he⟩⟩ <;>
        rw [he] at hok hv
      · cases hok
      · cases hok
      have hov := overwrite_ok (shapeWrites _ flowHash _ _) [] s.writer.verdictMap n' (by rw [hmap])
      rw [hmap, shapeWrites_keys] at hov
      by_cases hk : k ∈ (shapeSelection ctx s.cache cmd flow).tags.map Prod.fst
      · rcases hov.1 k hk with hn | ⟨v', hmem, hget⟩
        · cases hv.symm.trans hn
        · obtain rfl : v' = v := Option.some.inj (hget.symm.trans hv)
          exact .inl (mem_shapeWrites hmem).2.2
      · have hkept := (hov.2 k hk).resolve_right fun hn => by cases hv.symm.trans hn
        exact .inr ⟨hk, hkept.symm.trans hv⟩
  · rw [href] at heff
    cases hop.symm.trans (refusal_effect href heff).1

/-- The flow is blocked at the key. -/
def BlockedAt (h : BitVec 128) (w : FlowVerdictWriter) (k : FlowKey) : Prop :=
  ∃ v, w.verdictMap.get k = some v ∧ v.verdict = .block ∧ v.identity.flowHash = h

/-- **A shape in place of a block.** In a run that starts with nothing of the flow in the maps, let
one of its blocks have had the aliases of the shape, let the shape's tags cover the keys of every
block at which the flow is still blocked, and let no block have created an endpoint block, or none be
there by then. Then nothing of the blocks is left once the shape took effect. -/
theorem shape_supersedes_block (policyIdentityHash : String → BitVec 128) (id : String)
    (h : BitVec 128) (hid : flowIdentityHash id = .ok h) (hcanon : Canonical id) (s : FlowState)
    (hfresh : ∀ k, Retired h k s.writer) (hendpoint : NoEndpoint h s.writer)
    (events : List FlowEvent) (hkeeps : RunKeepsFlow policyIdentityHash id s events)
    (hcmds : ∀ e ∈ events, CanonicalCommand e) (ctx : CommandContext) (cmd : FlowCommand)
    (hcmd : cmd.policyFlowId = id) (hop : cmd.operation = .upsert)
    (hverdict : cmd.verdict = some .shape) (final : FlowState)
    (hfinal : final = runFlow policyIdentityHash s events)
    (hsame : (commandFlow ctx final cmd).aliases ∈
      (blocksOf policyIdentityHash id s events).map BlockRecord.aliases)
    (hcovers : ∀ b ∈ blocksOf policyIdentityHash id s events, ∀ k ∈ blockReverseAliases b.aliases,
      BlockedAt h final.writer k →
      k ∈ (shapeSelection ctx (resolveAliases ctx (final.withFaults ctx) cmd).2.cache cmd
        (commandFlow ctx final cmd)).tags.map Prod.fst)
    (hcreated : (∀ b ∈ blocksOf policyIdentityHash id s events, b.endpointAliases = []) ∨
      NoEndpoint h final.writer)
    (heffect : TookEffect (applyFlowCommand policyIdentityHash ctx final cmd).1.status) :
    (∀ k, ¬ BlockedAt h (applyFlowCommand policyIdentityHash ctx final cmd).2.writer k) ∧
    ∀ k v, (applyFlowCommand policyIdentityHash ctx final cmd).2.writer.endpointMap.get k = some v →
      v.identity.flowHash ≠ h := by
  have hfoot := footprint_run policyIdentityHash hid hcanon events
    (footprint_of_fresh id hfresh) hkeeps hcmds
  rw [← hfinal] at hfoot
  obtain ⟨same, hsame, hsameAliases⟩ := List.mem_map.1 hsame
  have hcapped : Capped maxBlockAliases (commandFlow ctx final cmd).aliases :=
    (resolveAliases ctx (final.withFaults ctx) cmd).2.cache.aliases_capped cmd.policyFlowId
  have hgrow : final.cache.aliases id <+: (commandFlow ctx final cmd).aliases :=
    hcmd ▸ (extends_resolveAliases ctx (final.withFaults ctx) cmd).evolves cmd.policyFlowId
  constructor
  · rintro k ⟨v, hv, hblock, howner⟩
    obtain hshape | ⟨htag, hbefore⟩ :=
      get_of_tookEffect hop hverdict (tookEffect_finalStatus.1 heffect) hv
    · exact absurd (hblock.symm.trans hshape) (by decide)
    -- the verdict is from before the shape, at a key of no block
    have hblocks : ∀ b ∈ blocksOf policyIdentityHash id s events, k ∉ blockReverseAliases b.aliases :=
      fun b hb hmem => htag (hcovers b hb k hmem ⟨v, hbefore, hblock, howner⟩)
    have halias : k ∉ final.cache.aliases id := fun hmem =>
      hblocks same hsame (hsameAliases ▸ subset_blockReverseAliases hcapped (hgrow.subset hmem))
    exact (hfoot.retired k halias hblocks).value k v hbefore rfl howner
  · have hnone : NoEndpoint h final.writer := hcreated.elim (hfoot.endpoints hendpoint) (·)
    refine noEndpoint_command policyIdentityHash (by exact hnone) ctx cmd
      (commandFlow ctx final cmd) fun _ _ _ hv' => ?_
    exact absurd (hv'.symm.trans hverdict) (by decide)

/-! ### Concrete runs -/

def sampleShape : FlowCommand := sampleCommand .upsert (some .shape) ["policy-2"] 2000

/-- Eight packets of the flow on their way to the client, one at each of eight ports, and a
block. -/
def deliveredAndBlocked : List FlowEvent :=
  ((List.range 8).map fun i =>
    .observe sampleFlowA (sampleKey 2 (1000 + UInt16.ofNat i)) (some sampleClient) 0)
  ++ [.command (sampleContext 1000 false) (sampleBlockCommand 1000)]

theorem shape_supersedes_block_eight_aliases :
    TookEffect (applyFlowCommand samplePolicyHash (sampleContext 2000 false)
      (runFlow samplePolicyHash sampleFlowState deliveredAndBlocked) sampleShape).1.status ∧
    (∀ k, ¬ BlockedAt 0x00112233445566778899aabbccddeeff
      (applyFlowCommand samplePolicyHash (sampleContext 2000 false)
        (runFlow samplePolicyHash sampleFlowState deliveredAndBlocked) sampleShape).2.writer k) ∧
    ∀ k v, (applyFlowCommand samplePolicyHash (sampleContext 2000 false)
        (runFlow samplePolicyHash sampleFlowState deliveredAndBlocked)
        sampleShape).2.writer.endpointMap.get k = some v →
      v.identity.flowHash ≠ 0x00112233445566778899aabbccddeeff := by
  have heffect : TookEffect (applyFlowCommand samplePolicyHash (sampleContext 2000 false)
      (runFlow samplePolicyHash sampleFlowState deliveredAndBlocked) sampleShape).1.status :=
    .inl (by decide +kernel)
  refine ⟨heffect, shape_supersedes_block samplePolicyHash sampleFlowA _ sampleFlowA_hash
    sampleFlowA_canonical sampleFlowState (sampleFlowState_fresh) ?_ deliveredAndBlocked
    ⟨trivial, trivial, trivial, trivial, trivial, trivial, trivial, trivial, trivial, trivial⟩ ?_
    (sampleContext 2000 false) sampleShape rfl rfl rfl _ rfl (by decide +kernel)
    (fun b hb k hk hblocked => ?_) (.inl (by decide +kernel)) heffect⟩
  · intro k v hv
    simp [sampleFlowState, sampleWriter, FlowVerdictWriter.new, Table.get] at hv
  · intro e he
    rcases List.mem_append.1 he with he | he
    · obtain ⟨i, -, rfl⟩ := List.mem_map.1 he
      exact trivial
    · obtain rfl := List.mem_singleton.1 he
      exact sampleFlowA_canonical
  · clear hblocked
    revert b k
    decide +kernel

/-- A tracked flow with its upload and its download alias, and a block. -/
def trackedAndBlocked : List FlowEvent :=
  [.observe sampleFlowA (sampleKey 1 1000) (some sampleClient) 0,
    observedBehind 3 (some sampleTracked),
    .command (sampleContext 1000 true) (sampleBlockCommand 1000)]

/-- The shape replaces the block of the download alias. The upload alias stays blocked, and so does
the endpoint. -/
theorem shape_leaves_block :
    (applyFlowCommand samplePolicyHash (sampleContext 1000 true)
      (runFlow samplePolicyHash sampleFlowState (trackedAndBlocked.take 2))
      (sampleBlockCommand 1000)).1.status = .applied ∧
    (applyFlowCommand samplePolicyHash (sampleContext 2000 true)
      (runFlow samplePolicyHash sampleFlowState trackedAndBlocked) sampleShape).1.status
        = .applied ∧
    (commandFlow (sampleContext 1000 true)
        (runFlow samplePolicyHash sampleFlowState (trackedAndBlocked.take 2))
        (sampleBlockCommand 1000)).aliases =
      (commandFlow (sampleContext 2000 true)
        (runFlow samplePolicyHash sampleFlowState trackedAndBlocked) sampleShape).aliases ∧
    ((applyFlowCommand samplePolicyHash (sampleContext 2000 true)
      (runFlow samplePolicyHash sampleFlowState trackedAndBlocked)
      sampleShape).2.writer.verdictMap.get (sampleKey 1 1000)).map
        (fun v => (v.verdict, v.identity.flowHash)) =
      some (.block, 0x00112233445566778899aabbccddeeff) ∧
    ((applyFlowCommand samplePolicyHash (sampleContext 2000 true)
      (runFlow samplePolicyHash sampleFlowState trackedAndBlocked)
      sampleShape).2.writer.endpointMap.get
        (endpointBlockKey (sampleKey 1 1000) 0xaabbccddeeff)).map (·.identity.flowHash) =
      some 0x00112233445566778899aabbccddeeff := by
  refine ⟨?_, ?_, ?_, ?_, ?_⟩ <;> decide +kernel

end Netqmon.Agent.Receiver.Reshape
