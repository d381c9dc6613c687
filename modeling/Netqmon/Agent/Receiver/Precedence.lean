import Netqmon.Agent.Receiver.Runs

/-! # The order of flow commands

Commands of a flow may arrive in any order and more than once. The entry of the flow in the alias cache
remembers the issue time of the last command that took effect, and an older one is then refused. -/

namespace Netqmon.Agent.Receiver.Precedence

open FlowAlias FlowAlias.PolicyFlowAliasCache FlowVerdict.Model FlowVerdict.Operations Command Effects
open Runs Lib.AssocWeight Protocol.Policy

variable {hash : String → BitVec 128} {id : String} {issuedAtMs : Option ℤ}
  {cache cache' : PolicyFlowAliasCache} {s : FlowState} {ctx : CommandContext} {cmd : FlowCommand}

/-! ### Entries -/

/-- The flow has an entry, with aliases, and has not only seen commands from before the time. -/
def Marked (id : String) (issuedAtMs : Option ℤ) (cache : PolicyFlowAliasCache) : Prop :=
  ∃ entry, cache.entries.lookup id = some entry ∧ entry.keys ≠ [] ∧
    ∀ i ∈ issuedAtMs, ∃ last ∈ entry.lastCommandIssuedAtMs, i ≤ last

theorem Grows.ne_nil {e later : AliasEntry} (h : e.Grows later) (hks : e.keys ≠ []) :
    later.keys ≠ [] :=
  fun hnil => hks (List.prefix_nil.1 (hnil ▸ h.keys))

theorem Marked.successor (h : Marked id issuedAtMs cache)
    (hnx : Successor (cache.entries.lookup id) (cache'.entries.lookup id)) :
    Marked id issuedAtMs cache' := by
  obtain ⟨e, he, hks, hmark⟩ := h
  rw [he] at hnx
  generalize hlt : cache'.entries.lookup id = found at hnx
  cases hnx with
  | @grown _ later hgr =>
    refine ⟨later, hlt, Grows.ne_nil hgr hks, fun i hi => ?_⟩
    obtain ⟨last, hla, hle⟩ := hmark i hi
    obtain ⟨last', hlast', hle'⟩ := hgr.mark last hla
    exact ⟨last', hlast', hle.trans hle'⟩

theorem marked_recordCommand (h : Marked id none cache) (issuedAtMs : ℤ) :
    Marked id (some issuedAtMs) (cache.recordCommand id issuedAtMs) := by
  obtain ⟨e, he, hks, -⟩ := h
  unfold recordCommand PolicyFlowAliasCache.modify
  rw [he]
  refine ⟨_, AList.lookup_insert cache.entries, ?_⟩
  dsimp only
  split_ifs with hlater
  · obtain ⟨last, hla, hlt⟩ := (Option.any_eq_true _ _).1 hlater
    simpa [hks] using ⟨last, hla, (of_decide_eq_true hlt).le⟩
  · simpa using hks

/-- Every entry has an alias, in every state that the agent reaches. -/
theorem keys_step (h : ∀ id entry, s.cache.entries.lookup id = some entry → entry.keys ≠ [])
    (e : FlowEvent) (id : String) (entry : AliasEntry)
    (he : (stepFlow hash s e).cache.entries.lookup id = some entry) : entry.keys ≠ [] := by
  have hk : KeepsFlow id s e → entry.keys ≠ [] := by
    intro hkp
    have hnx := successor_step hash hkp
    rw [he] at hnx
    generalize hold : s.cache.entries.lookup id = found at hnx
    cases hnx with
    | created hks => exact hks
    | grown hgr => exact Grows.ne_nil hgr (h id _ hold)
  cases e with
  | prune now tcpIdle udpIdle => exact h id entry ((lookup_keep _ _ _ _).1 he).1
  | clear => cases he
  | _ => exact hk trivial

variable {events : List FlowEvent}

theorem keys_run (h : ∀ id entry, s.cache.entries.lookup id = some entry → entry.keys ≠ []) :
    ∀ id entry, (runFlow hash s events).cache.entries.lookup id = some entry →
      entry.keys ≠ [] := by
  induction events generalizing s with
  | nil => exact h
  | cons e events ih => exact ih (keys_step h e)

theorem marked_run (h : Marked id issuedAtMs s.cache) (hkp : RunKeepsFlow hash id s events) :
    Marked id issuedAtMs (runFlow hash s events).cache := by
  induction events generalizing s with
  | nil => exact h
  | cons e events ih => exact ih (h.successor (successor_step hash hkp.1)) hkp.2

/-! ### Commands -/

theorem marked_resolve (ctx : CommandContext) (h : Marked cmd.policyFlowId issuedAtMs s.cache) :
    Marked cmd.policyFlowId issuedAtMs (resolveAliases ctx (s.withFaults ctx) cmd).2.cache :=
  h.successor (extends_resolveAliases ctx (s.withFaults ctx) cmd _)

theorem aliases_resolve (ctx : CommandContext) (h : Marked cmd.policyFlowId issuedAtMs s.cache) :
    (commandFlow ctx s cmd).aliases ≠ [] := by
  obtain ⟨e, he, hks, -⟩ := marked_resolve ctx h
  show (resolveAliases ctx (s.withFaults ctx) cmd).2.cache.aliases cmd.policyFlowId ≠ []
  rw [aliases, he]
  exact hks

theorem marked_command (h : Marked cmd.policyFlowId none s.cache)
    (heff : TookEffect (applyFlowCommand hash ctx s cmd).1.status) :
    Marked cmd.policyFlowId (some cmd.issuedAtMs)
      (applyFlowCommand hash ctx s cmd).2.cache := by
  unfold applyFlowCommand commandOutcome at heff ⊢
  dsimp only at heff ⊢
  rw [tookEffect_finalStatus] at heff
  split at heff
  · next status href => exact absurd (refusal_effect href heff).2 (aliases_resolve ctx h)
  · rcases records_applyDecision hash ctx (resolveAliases ctx (s.withFaults ctx) cmd).2
      cmd (commandFlow ctx s cmd) with ⟨hfailed, -⟩ | hextends
    · exact absurd heff hfailed
    · exact (marked_recordCommand (marked_resolve ctx h) _).successor (hextends _)

theorem refusal_of_marked {issuedAtMs : ℤ} (h : Marked cmd.policyFlowId (some issuedAtMs) s.cache)
    (hlt : cmd.issuedAtMs < issuedAtMs) :
    ∃ status, refusal ctx cmd (commandFlow ctx s cmd) = some status ∧ ¬ TookEffect status.1 := by
  obtain ⟨e, he, -, hmark⟩ := marked_resolve ctx h
  obtain ⟨last, hla, hle⟩ := hmark issuedAtMs rfl
  have hstale : (commandFlow ctx s cmd).stale = true := by
    show (resolveAliases ctx (s.withFaults ctx) cmd).2.cache.commandIsStale cmd.policyFlowId
      cmd.issuedAtMs = true
    rw [commandIsStale, he]
    simpa [Option.mem_def.1 hla] using hlt.trans_le hle
  have hal := aliases_resolve ctx h
  rcases href : refusal ctx cmd (commandFlow ctx s cmd) with _ | status
  · cases hstale.symm.trans (not_stale_of_refusal hal href)
  · exact ⟨status, rfl, fun heff => hal (refusal_effect href heff).2⟩

/-- **Precedence of later commands.** Let a command take effect in a state that the agent reaches, on a
flow that has an entry. As long as the entry is not dropped, a command of the flow with an earlier issue
time is not acknowledged as applied, and leaves the verdicts and the endpoint blocks as they are. -/
theorem later_command_prevails (policyIdentityHash : String → BitVec 128) (capacity : ℕ)
    (conntrack : ConntrackContext) (writer : FlowVerdictWriter)
    (before after : List FlowEvent) (ctx ctx' : CommandContext) (cmd cmd' : FlowCommand) :
    let s := runFlow policyIdentityHash ⟨.new capacity, conntrack, writer⟩ before
    let applied := applyFlowCommand policyIdentityHash ctx s cmd
    let s' := runFlow policyIdentityHash applied.2 after
    let late := applyFlowCommand policyIdentityHash ctx' s' cmd'
    s.cache.entries.lookup cmd.policyFlowId ≠ none → TookEffect applied.1.status →
      RunKeepsFlow policyIdentityHash cmd.policyFlowId applied.2 after →
      cmd'.policyFlowId = cmd.policyFlowId → cmd'.issuedAtMs < cmd.issuedAtMs →
      ¬ TookEffect late.1.status ∧
        late.2.writer.verdictMap.entries = s'.writer.verdictMap.entries ∧
        late.2.writer.endpointMap.entries = s'.writer.endpointMap.entries := by
  intro s applied s' late hlives heffect hkeeps hid hlt
  have hmarked : Marked cmd.policyFlowId none s.cache := by
    obtain ⟨entry, hentry⟩ := Option.ne_none_iff_exists'.1 hlives
    exact ⟨entry, hentry, keys_run (fun _ _ hnone => by cases hnone) _ _ hentry, nofun⟩
  have hlater := marked_run (marked_command hmarked heffect) hkeeps
  rw [← hid] at hlater
  obtain ⟨status, hrefused, hstatus⟩ : ∃ status, refusal ctx' cmd'
      (resolveAliases ctx' (s'.withFaults ctx') cmd').1 = some status ∧ ¬ TookEffect status.1 :=
    refusal_of_marked hlater hlt
  rw [show late = applyFlowCommand policyIdentityHash ctx' s' cmd' from rfl, applyFlowCommand,
    commandOutcome]
  rw [hrefused]
  exact ⟨tookEffect_finalStatus.not.2 hstatus, rfl, rfl⟩

/-- A revocation arrives after the block that was issued after it. -/
theorem late_revocation_refused :
    let s := runFlow samplePolicyHash ⟨.new 8192, ⟨∅⟩, sampleWriter⟩
      [.observe sampleFlowA (sampleKey 1 1000) (some sampleClient) 0]
    let applied := applyFlowCommand samplePolicyHash (sampleContext 2000 false) s (sampleBlockCommand 2000)
    let s' := runFlow samplePolicyHash applied.2 [.markEnded sampleFlowB]
    let late := applyFlowCommand samplePolicyHash (sampleContext 3000 false) s'
      (sampleCommand .revoke none [] 1000)
    TookEffect applied.1.status ∧ ¬ TookEffect late.1.status ∧
      late.2.writer.verdictMap.entries = s'.writer.verdictMap.entries ∧
      late.2.writer.endpointMap.entries = s'.writer.endpointMap.entries := by
  refine ⟨by decide +kernel, later_command_prevails samplePolicyHash 8192 ⟨∅⟩ sampleWriter
    [.observe sampleFlowA (sampleKey 1 1000) (some sampleClient) 0] [.markEnded sampleFlowB]
    (sampleContext 2000 false) (sampleContext 3000 false) (sampleBlockCommand 2000)
    (sampleCommand .revoke none [] 1000) (Option.isSome_iff_ne_none.1 ?_) ?_ ⟨trivial, trivial⟩ rfl
    (by decide)⟩
  · decide +kernel
  · decide +kernel

end Netqmon.Agent.Receiver.Precedence
