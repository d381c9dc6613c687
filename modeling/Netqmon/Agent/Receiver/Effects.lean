import Netqmon.Agent.FlowVerdict.Retirement
import Netqmon.Agent.Receiver.Command

/-! # What a flow command can write

The verdict map after a command differs from the one before only where the command's own flow is
concerned: a block writes at `blockReverseAliases` of the flow's aliases, a shape at some of the
aliases themselves, and the other commands write no verdict of the flow (`retired_command`).
Endpoint blocks come from block commands alone (`noEndpoint_command`). The alias cache is extended, and
an acknowledged command is recorded in it. -/

namespace Netqmon.Agent.Receiver.Effects

open Agent.Flow FlowAlias FlowAlias.PolicyFlowAliasCache FlowVerdict.Model FlowVerdict.Operations
open FlowVerdict.Outcomes FlowVerdict.Retirement Command SavedState Lib.CappedList Lib.FaultMap
open Protocol.Policy

/-! ### The status -/

/-- The command took effect, fully or in part. -/
def TookEffect (status : FlowAckStatus) : Prop := status = .applied ∨ status = .partially

instance (status : FlowAckStatus) : Decidable (TookEffect status) :=
  inferInstanceAs (Decidable (_ ∨ _))

theorem not_tookEffect_failed : ¬ TookEffect .failed := by decide

variable {flow : ResolvedFlow}

theorem tookEffect_finalStatus {status : CommandStatus} :
    TookEffect (finalStatus flow status).1 ↔ TookEffect status.1 := by
  unfold finalStatus
  split_ifs with h
  · simp only [Bool.and_eq_true, beq_iff_eq] at h
    rw [h.2]
    decide
  · rfl

section Refusal

variable {ctx : CommandContext} {cmd : FlowCommand} {flow : ResolvedFlow} {status : CommandStatus}

/-- A command that took effect was not refused by a check. -/
theorem passed_check {c : Prop} [Decidable c]
    {refused : CommandStatus} {rest : Option CommandStatus} (href : ¬ TookEffect refused.1)
    (hsa : TookEffect status.1) (h : (if c then some refused else rest) = some status) :
    rest = some status := by
  split_ifs at h
  · exact absurd (Option.some.inj h ▸ hsa) href
  · exact h

/-- A refused command takes effect only when it revokes what its flow, without aliases, has not. -/
theorem refusal_effect (h : refusal ctx cmd flow = some status) (heff : TookEffect status.1) :
    cmd.operation = .revoke ∧ flow.aliases = [] := by
  -- the seven checks before the aliases are looked at
  iterate 7 replace h := passed_check (by decide) heff h
  rcases ha : flow.aliases with _ | ⟨first, rest⟩ <;> rw [ha] at h
  · by_cases hrevoke : cmd.operation = .revoke ∧ noAppVerdicts ctx
    · exact ⟨hrevoke.1, rfl⟩
    · cases (if_neg hrevoke).symm.trans h
      exact absurd heff (by decide)
  · iterate 3 replace h := passed_check (by decide) heff h
    cases h

theorem not_stale_of_refusal (hal : flow.aliases ≠ []) (h : refusal ctx cmd flow = none) :
    flow.stale = false := by
  have hpassed : ∀ {c : Prop} [Decidable c] {refused : CommandStatus} {rest : Option CommandStatus},
      (if c then some refused else rest) = none → ¬ c ∧ rest = none := by
    intro c _ refused rest hr
    split_ifs at hr with hc
    exact ⟨hc, hr⟩
  iterate 7 replace h := (hpassed h).2
  obtain ⟨first, rest, hcons⟩ := List.exists_cons_of_ne_nil hal
  rw [hcons] at h
  exact Bool.eq_false_of_not_eq_true (hpassed h).1

end Refusal

/-! ### The alias cache -/

theorem extends_insertProxyReturns (id : String) :
    ∀ (keys : List FlowKey) (refused : Bool) (cache : PolicyFlowAliasCache),
      Extends cache (keys.foldl (fun acc key =>
        let inserted := acc.2.insertProxyReturn id key
        (acc.1 || !inserted.1.isOk, inserted.2)) (refused, cache)).2
  | [], _, cache => .refl cache
  | key :: keys, _, cache =>
    (extends_insertProxyReturn cache id key).trans (extends_insertProxyReturns id keys _ _)

variable (hash : String → BitVec 128) (ctx : CommandContext) (s : FlowState) (cmd : FlowCommand)
  (flow : ResolvedFlow)

theorem extends_resolveAliases : Extends s.cache (resolveAliases ctx s cmd).2.cache := by
  refine Extends.trans ?_ (extends_insertProxyReturns cmd.policyFlowId _ false _)
  unfold reconciledCache
  split_ifs
  · exact reconcileForCommand_rel (R := Extends) _ _ (.refl _) Extends.trans
      (fun _ h => extends_grows h (AliasEntry.grows_of_keys rfl rfl))
      (fun acc => extends_observeDirection acc _) _ _ _
  · exact .refl _

/-- Only a command that is recorded takes effect. -/
def Records (r : CommandStatus × FlowState) : Prop :=
  (¬ TookEffect r.1.1 ∧ r.2.cache = s.cache) ∨ Extends (s.recordCommand cmd).cache r.2.cache

variable {s cmd} in
theorem Records.extends {r : CommandStatus × FlowState} (h : Records s cmd r) :
    Extends s.cache r.2.cache := by
  rcases h with ⟨-, h⟩ | h
  · rw [h]
    exact .refl _
  · exact (extends_recordCommand s.cache _ _).trans h

theorem records_applyBlock : Records s cmd (applyBlock hash ctx s cmd flow) := by
  have herr : ∀ error, ¬ TookEffect (blockError error).1 := by
    intro error
    unfold blockError
    split_ifs <;> decide
  unfold applyBlock
  split
  · split
    · exact .inl ⟨herr _, rfl⟩
    · split
      · exact .inl ⟨herr _, rfl⟩
      · exact .inr (.refl _)
  · exact .inl ⟨not_tookEffect_failed, rfl⟩

theorem records_applyClear (forget : Bool) : Records s cmd (applyClear ctx s cmd flow forget) := by
  unfold applyClear
  split
  · exact .inl ⟨not_tookEffect_failed, rfl⟩
  · split
    · exact .inl ⟨not_tookEffect_failed, rfl⟩
    · exact .inr (.refl _)

theorem records_applyShape : Records s cmd (applyShape ctx s cmd flow) := by
  unfold applyShape
  dsimp only
  split_ifs
  · exact .inl ⟨(by decide : ¬ TookEffect .unsupported), rfl⟩
  · split
    · exact .inl ⟨not_tookEffect_failed, rfl⟩
    · refine .inr ?_
      unfold rememberShaped
      split
      · exact .refl _
      · exact extends_rememberShape _ _ _ _ _ _ _

theorem records_applyDecision : Records s cmd (applyDecision hash ctx s cmd flow) := by
  unfold applyDecision
  split
  · exact records_applyBlock hash ctx s cmd flow
  · exact records_applyClear ctx s cmd flow true
  · exact records_applyShape ctx s cmd flow
  · exact records_applyClear ctx s cmd flow false
  · exact .inl ⟨not_tookEffect_failed, rfl⟩

theorem extends_commandOutcome : Extends s.cache (commandOutcome hash ctx s cmd flow).2.cache := by
  unfold commandOutcome
  split
  · exact .refl _
  · exact (records_applyDecision hash ctx s cmd flow).extends

/-! ### The keys of a block and of a shape -/

variable {aliases : List FlowKey}

/-- The aliases of a flow keep their place among the keys of its block. -/
theorem blockReverseAliases_eq (h : Capped maxBlockAliases aliases) :
    blockReverseAliases aliases =
      pushAll maxBlockAliases aliases (aliases.flatMap aliasVariants) := by
  unfold blockReverseAliases
  rw [List.take_of_length_le h.length_le]
  congr 1
  exact pushAll_eq_append (by simpa using h)

theorem subset_blockReverseAliases (h : Capped maxBlockAliases aliases) :
    aliases ⊆ blockReverseAliases aliases := by
  rw [blockReverseAliases_eq h]
  exact (prefix_pushAll _ _ _).subset

variable {clientMac : String}

theorem mem_applicationShapeTags {shaping : ShapingState} {policyIds : List String}
    {dir : FlowKey → Option ShapeDirection} {sharedWanIngress : List UInt32}
    {tags : List (FlowKey × ℕ)} {t : FlowKey × ℕ}
    (h : applicationShapeTags shaping aliases clientMac policyIds dir sharedWanIngress = some tags)
    (ht : t ∈ tags) :
    t.1 ∈ aliases ∧
      (applicationClass shaping t.1 clientMac policyIds (dir t.1)).map (·.tag) =
        some t.2 := by
  unfold applicationShapeTags at h
  dsimp only at h
  split_ifs at h
  obtain rfl := Option.some.inj h
  obtain ⟨key, hkey, hmap⟩ := List.mem_filterMap.1 ht
  obtain ⟨c, hclass, rfl⟩ := Option.map_eq_some_iff.1 hmap
  exact ⟨(List.mem_filter.1 hkey).1, by rw [hclass, Option.map_some]⟩

variable {cache : PolicyFlowAliasCache} {k : FlowKey}

variable {ctx cmd flow} in
theorem mem_shapeSelection
    (hk : k ∈ (shapeSelection ctx cache cmd flow).tags.map Prod.fst) : k ∈ flow.aliases := by
  obtain ⟨t, ht, rfl⟩ := List.mem_map.1 hk
  unfold shapeSelection at ht
  dsimp only at ht
  split at ht
  · split at ht
    · simp at ht
    · unfold selectPriorityShapeTags at ht
      rw [List.mem_insertionSort] at ht
      obtain ⟨u, hu, hmap⟩ := List.mem_filterMap.1 ht
      obtain ⟨tag, -, rfl⟩ := Option.map_eq_some_iff.1 hmap
      obtain ⟨key, hkey, hmap'⟩ := List.mem_filterMap.1 hu
      obtain ⟨tag', -, rfl⟩ := Option.map_eq_some_iff.1 hmap'
      exact hkey
  · generalize htags : (do
      let state ← ctx.saved
      applicationShapeTags (← state.shapingState) flow.aliases (← flow.clientMac) cmd.policyIds
        (fun key => shapedAlias (cache.shapeDirection cmd.policyFlowId key))
        (sharedWanIngressIfindices ctx state)) = tags at ht
    rcases tags with _ | tags
    · simp at ht
    · grind [Option.bind_eq_some_iff, → mem_applicationShapeTags]

/-! ### The verdict map -/

variable {h : BitVec 128} {w w' : FlowVerdictWriter}

theorem retired_of_same (hw : Retired h k w) (hmap : w'.verdictMap = w.verdictMap)
    (hcs : w'.blockClaims = w.blockClaims) : Retired h k w' :=
  ⟨hmap ▸ hw.value, hcs ▸ hw.claims⟩

theorem rememberEndpoints_same (policyId clientMac : String) (w : FlowVerdictWriter) :
    (rememberEndpoints hash ctx cmd flow policyId clientMac w).2.verdictMap
        = w.verdictMap ∧
      (rememberEndpoints hash ctx cmd flow policyId clientMac w).2.blockClaims
        = w.blockClaims := by
  unfold rememberEndpoints
  split
  · exact ⟨rfl, rfl⟩
  · unfold rememberEndpointBlocks
    split_ifs
    · exact ⟨rfl, rfl⟩
    · exact ⟨rfl, rfl⟩
    · grind

theorem forgetEndpoints_same (w : FlowVerdictWriter) :
    (forgetEndpoints flow w).2.verdictMap = w.verdictMap ∧
      (forgetEndpoints flow w).2.blockClaims = w.blockClaims := by
  unfold forgetEndpoints forgetEndpointBlocks
  split
  · exact ⟨rfl, rfl⟩
  · grind

/-- From `w` to `w'` verdicts were only read; the kernel may have dropped some meanwhile. -/
structure Reads (w w' : FlowVerdictWriter) : Prop where
  verdicts : Shrinks w.verdictMap w'.verdictMap
  claims : w'.blockClaims = w.blockClaims
  endpoints : w'.endpointMap = w.endpointMap

theorem Reads.refl (w : FlowVerdictWriter) : Reads w w := ⟨Shrinks.refl _, rfl, rfl⟩

theorem Reads.trans {a b c : FlowVerdictWriter} (hab : Reads a b) (hbc : Reads b c) : Reads a c :=
  ⟨hab.verdicts.trans hbc.verdicts, hbc.claims.trans hab.claims,
    hbc.endpoints.trans hab.endpoints⟩

theorem Reads.retired (hr : Reads w w') (hw : Retired h k w) : Retired h k w' :=
  ⟨hr.verdicts.holds hw.value, hr.claims ▸ hw.claims⟩

theorem reads_activeShapeOwner (w : FlowVerdictWriter) (key : FlowKey) (gen now : ℕ) :
    Reads w (activeShapeOwner w key gen now).2 := by
  have hl := shrinks_lookup w.verdictMap key
  unfold activeShapeOwner
  split_ifs
  · exact Reads.refl w
  · split
    · next heq => rw [heq] at hl; exact ⟨hl, rfl, rfl⟩
    · next heq => rw [heq] at hl; exact ⟨hl, rfl, rfl⟩

variable {ctx cmd} in
theorem reads_peersCover :
    ∀ (pending : List FlowKey) (w : FlowVerdictWriter),
      Reads w (peersCover ctx cache cmd clientMac pending w).2
  | [], w => Reads.refl w
  | key :: rest, w => by
    have how := reads_activeShapeOwner w key cmd.configRevision ctx.coverageNs
    unfold peersCover
    split
    · next heq =>
      rw [heq] at how
      split_ifs
      · exact how.trans (reads_peersCover rest _)
      · exact how
    · grind

theorem reads_tupleUnverified : Reads s.writer (tupleUnverified ctx s cmd flow).2 := by
  unfold tupleUnverified
  split_ifs
  · exact Reads.refl _
  · split
    · exact reads_peersCover _ _
    · exact Reads.refl _

/-- A shape command installs the shape, and then only reads. -/
theorem applyShape_cases :
    let installed := installShape s.writer (shapeSelection ctx s.cache cmd flow).tags
      cmd.policyFlowId cmd.configRevision (commandDeadline ctx cmd ctx.shapeNs)
    ((applyShape ctx s cmd flow).1.1 = .unsupported ∧
        (applyShape ctx s cmd flow).2.writer = s.writer) ∨
      ((applyShape ctx s cmd flow).1.1 = .failed ∧
        (applyShape ctx s cmd flow).2.writer = installed.2) ∨
      ∃ n, installed.1 = .ok n ∧ Reads installed.2 (applyShape ctx s cmd flow).2.writer := by
  unfold applyShape
  dsimp only
  split_ifs
  · exact .inl ⟨rfl, rfl⟩
  · split
    · next w heq => exact .inr (.inl ⟨rfl, congrArg Prod.snd heq.symm⟩)
    · next n w heq =>
      have hkp : (rememberShaped ctx { s with writer := w } cmd
          (shapeSelection ctx s.cache cmd flow).tags).writer = w := by
        unfold rememberShaped
        split <;> rfl
      have hreads := reads_tupleUnverified ctx (rememberShaped ctx { s with writer := w } cmd
        (shapeSelection ctx s.cache cmd flow).tags) cmd flow
      grind

/-- The command installs a verdict of the flow `h` at `k`. -/
def CommandNames (h : BitVec 128) (k : FlowKey) (cmd : FlowCommand) (flow : ResolvedFlow) : Prop :=
  flowIdentityHash cmd.policyFlowId = .ok h ∧
    (k ∈ flow.aliases ∨
      (cmd.operation = .upsert ∧ cmd.verdict = some .block ∧ k ∈ blockReverseAliases flow.aliases))

variable {s}

section

variable (hw : Retired h k s.writer)
include hw

theorem retired_applyBlock
    (hno : ¬ (flowIdentityHash cmd.policyFlowId = .ok h ∧ k ∈ blockReverseAliases flow.aliases)) :
    Retired h k (applyBlock hash ctx s cmd flow).2.writer := by
  unfold applyBlock
  split
  · next policyId _ clientMac _ _ =>
    have hb : Retired h k (installBlock hash s.writer
        (blockReverseAliases flow.aliases) flow.observedAliases cmd.policyFlowId policyId clientMac
        cmd.configRevision (commandDeadline ctx cmd ctx.receivedNs) ctx.writerNs).2 :=
      retired_installBlock hash hw hno
    split
    · next heq => rw [heq] at hb; exact hb
    · next w heq =>
      rw [heq] at hb
      obtain ⟨hmap, hcs⟩ :=
        rememberEndpoints_same hash ctx cmd flow policyId clientMac w
      have hdn := retired_of_same hb hmap hcs
      split
      · next heq' => rw [heq'] at hdn; exact hdn
      · next heq' => rw [heq'] at hdn; exact hdn
  · exact hw

theorem retired_applyClear (forget : Bool) : Retired h k (applyClear ctx s cmd flow forget).2.writer := by
  have hcl := retired_clearAliases hw (blockReverseAliases flow.aliases)
    (some cmd.policyFlowId) ctx.writerNs
  unfold applyClear
  split
  · next heq => rw [heq] at hcl; exact hcl
  · next w heq =>
    have hdn : Retired h k (if forget then forgetEndpoints flow w else (.ok (), w)).2 := by
      grind [retired_of_same, forgetEndpoints_same]
    split
    · next heq' => rw [heq'] at hdn; exact hdn
    · next heq' => rw [heq'] at hdn; exact hdn

theorem retired_applyShape
    (hno : ¬ (flowIdentityHash cmd.policyFlowId = .ok h ∧ k ∈ flow.aliases)) :
    Retired h k (applyShape ctx s cmd flow).2.writer := by
  have hsh : Retired h k (installShape s.writer (shapeSelection ctx s.cache cmd flow).tags
      cmd.policyFlowId cmd.configRevision (commandDeadline ctx cmd ctx.shapeNs)).2 :=
    retired_installShape hw fun hk => hno ⟨hk.1, mem_shapeSelection hk.2⟩
  rcases applyShape_cases ctx s cmd flow with ⟨-, he⟩ | ⟨-, he⟩ | ⟨n, -, hreads⟩
  · exact he ▸ hw
  · exact he ▸ hsh
  · exact hreads.retired hsh

/-- **What a command can write.** A flow that is nowhere at `k` is not at `k` after the command
either, unless the command is for that flow and names `k`. -/
theorem retired_command (ctx : CommandContext) (cmd : FlowCommand)
    (flow : ResolvedFlow) (hno : refusal ctx cmd flow = none → ¬ CommandNames h k cmd flow) :
    Retired h k (commandOutcome hash ctx s cmd flow).2.writer := by
  unfold commandOutcome
  split
  · exact hw
  · next hpass =>
    unfold applyDecision
    split
    · next hop hv =>
      exact retired_applyBlock hash ctx cmd flow hw
        fun hk => hno hpass ⟨hk.1, .inr ⟨hop, hv, hk.2⟩⟩
    · exact retired_applyClear ctx cmd flow hw true
    · exact retired_applyShape ctx cmd flow hw fun hk => hno hpass ⟨hk.1, .inl hk.2⟩
    · exact retired_applyClear ctx cmd flow hw false
    · exact hw

end

/-! ### Endpoint blocks -/

/-- No endpoint block carries the flow hash `h`. -/
def NoEndpoint (h : BitVec 128) (w : FlowVerdictWriter) : Prop :=
  Holds (fun _ v => v.identity.flowHash ≠ h) w.endpointMap

theorem NoEndpoint.of_eq (hw : NoEndpoint h w)
    (he : w'.endpointMap = w.endpointMap) : NoEndpoint h w' := by
  unfold NoEndpoint
  rw [he]
  exact hw

/-- The aliases for which a block command creates endpoint blocks. -/
def createdEndpoints : List FlowKey :=
  match flow.clientMac with
  | none => []
  | some clientMac => if (endpointExpiry ctx cmd clientMac).isSome then flow.endpointAliases else []

theorem endpointMap_outcome {reg : BlockClaims} {decision : Decision}
    {keys : List FlowKey} {r : Except String ℕ × FlowVerdictWriter}
    (ho : Outcome w reg decision keys r) : r.2.endpointMap = w.endpointMap := by
  rcases ho with _ | _ | _ | _ <;> rfl

theorem endpointMap_installBlock (w : FlowVerdictWriter)
    (aliases observed : List FlowKey) (flowId policyId clientMac : String) (gen expires now : ℕ) :
    (installBlock hash w aliases observed flowId policyId clientMac gen
      expires now).2.endpointMap = w.endpointMap := by
  unfold installBlock
  split
  · rfl
  · rfl
  · exact endpointMap_outcome (installOwnedBlock_outcome _ _ _ _ _ _ _)

theorem endpointMap_clearAliases (w : FlowVerdictWriter) (aliases : List FlowKey)
    (expectedFlowId : Option String) (now : ℕ) :
    (clearAliases w aliases expectedFlowId now).2.endpointMap = w.endpointMap := by
  rcases clearAliases_outcome w aliases expectedFlowId now with ⟨error, he⟩ | ⟨exp, -, ho⟩
  · rw [he]
  · exact endpointMap_outcome ho

theorem endpointMap_installShape (w : FlowVerdictWriter) (aliases : List (FlowKey × ℕ))
    (flowId : String) (gen expires : ℕ) :
    (installShape w aliases flowId gen expires).2.endpointMap = w.endpointMap := by
  rcases installShape_cases w flowId with
    ⟨error, he⟩ | ⟨flowHash, map, -, ⟨error, failure, -, he⟩ | ⟨n, -, he⟩⟩ <;> rw [he]

variable (s) in
theorem endpointMap_applyShape :
    (applyShape ctx s cmd flow).2.writer.endpointMap = s.writer.endpointMap := by
  have hsh := endpointMap_installShape s.writer (shapeSelection ctx s.cache cmd flow).tags
    cmd.policyFlowId cmd.configRevision (commandDeadline ctx cmd ctx.shapeNs)
  rcases applyShape_cases ctx s cmd flow with ⟨-, he⟩ | ⟨-, he⟩ | ⟨n, -, hreads⟩
  · rw [he]
  · rw [he, hsh]
  · rw [hreads.endpoints, hsh]

theorem noEndpoint_rememberEndpointBlocks (hw : NoEndpoint h w) {flowId : String}
    (hno : flowIdentityHash flowId = .ok h → aliases = []) (policyId : String) (gen expires : ℕ) :
    NoEndpoint h (rememberEndpointBlocks hash w aliases flowId policyId
      clientMac gen expires).2 := by
  unfold rememberEndpointBlocks
  split_ifs
  · exact hw
  · exact hw
  · split
    · exact hw
    · exact hw
    · next mac flowHash hmac hfl =>
      dsimp only
      have hov : Holds (fun _ v => v.identity.flowHash ≠ h) (w.endpointMap.overwrite
          (aliases.map fun key => (endpointBlockKey key mac,
            (⟨expires, gen, ⟨flowHash, hash policyId, mac⟩, 0, .block⟩ :
              VerdictValue))) []).2 := by
        refine holds_overwrite _ [] _ hw (by simp) fun key v hmem => ?_
        obtain ⟨a, ha, heq⟩ := List.mem_map.1 hmem
        obtain ⟨-, rfl⟩ := Prod.mk.inj heq
        intro he
        rw [hno (hfl.trans (congrArg _ he))] at ha
        simp at ha
      split
      · next heq => rw [heq] at hov; exact hov
      · next heq => rw [heq] at hov; exact hov

theorem noEndpoint_applyBlock (hw : NoEndpoint h s.writer)
    (hno : flowIdentityHash cmd.policyFlowId = .ok h → createdEndpoints ctx cmd flow = []) :
    NoEndpoint h (applyBlock hash ctx s cmd flow).2.writer := by
  unfold applyBlock
  split
  · next policyId _ clientMac _ hmac =>
    have hb := endpointMap_installBlock hash s.writer
      (blockReverseAliases flow.aliases) flow.observedAliases cmd.policyFlowId policyId clientMac
      cmd.configRevision (commandDeadline ctx cmd ctx.receivedNs) ctx.writerNs
    split
    · next w heq =>
      rw [heq] at hb
      exact hw.of_eq hb
    · next w heq =>
      rw [heq] at hb
      have hdn : NoEndpoint h
          (rememberEndpoints hash ctx cmd flow policyId clientMac w).2 := by
        have hw' : NoEndpoint h w := hw.of_eq hb
        unfold rememberEndpoints
        split
        · exact hw'
        · grind [createdEndpoints, noEndpoint_rememberEndpointBlocks]
      split
      · next heq' => rw [heq'] at hdn; exact hdn
      · next heq' => rw [heq'] at hdn; exact hdn
  · exact hw

theorem noEndpoint_forgetKeys {P : EndpointKey → VerdictValue → Prop} :
    ∀ (keys : List EndpointKey) (map : Table EndpointKey VerdictValue), Holds P map →
      Holds P (forgetKeys keys map).2
  | [], _, hm => hm
  | key :: rest, map, hm => by
    have hl : Holds P (map.lookup key).2 := (shrinks_lookup map key).holds hm
    unfold forgetKeys
    split
    · next heq => rw [heq] at hl; exact hl
    · next heq => rw [heq] at hl; exact noEndpoint_forgetKeys rest _ hl
    · next map' heq =>
      rw [heq] at hl
      have hdel : Holds P (map'.put key none).2 := holds_put hl (by simp)
      simp only [Table.put] at hdel
      split
      · next heq' => rw [heq'] at hdel; exact hdel
      · next heq' => rw [heq'] at hdel; exact noEndpoint_forgetKeys rest _ hdel

theorem noEndpoint_applyClear (hw : NoEndpoint h s.writer) (forget : Bool) :
    NoEndpoint h (applyClear ctx s cmd flow forget).2.writer := by
  have hcl := endpointMap_clearAliases s.writer (blockReverseAliases flow.aliases)
    (some cmd.policyFlowId) ctx.writerNs
  unfold applyClear
  split
  · next w heq =>
    rw [heq] at hcl
    exact hw.of_eq hcl
  · next w heq =>
    rw [heq] at hcl
    have hw' : NoEndpoint h w := hw.of_eq hcl
    have hdn : NoEndpoint h (if forget then forgetEndpoints flow w else (.ok (), w)).2 := by
      split_ifs
      · unfold forgetEndpoints forgetEndpointBlocks
        split
        · exact hw'
        · split_ifs
          · exact hw'
          · split
            · exact hw'
            · exact noEndpoint_forgetKeys _ _ hw'
      · exact hw'
    split
    · next heq' => rw [heq'] at hdn; exact hdn
    · next heq' => rw [heq'] at hdn; exact hdn

/-- Endpoint blocks of a flow come from its own block commands. -/
theorem noEndpoint_command
    (hw : NoEndpoint h s.writer) (ctx : CommandContext) (cmd : FlowCommand) (flow : ResolvedFlow)
    (hno : flowIdentityHash cmd.policyFlowId = .ok h → refusal ctx cmd flow = none →
      cmd.operation = .upsert → cmd.verdict = some .block → createdEndpoints ctx cmd flow = []) :
    NoEndpoint h (commandOutcome hash ctx s cmd flow).2.writer := by
  unfold commandOutcome
  split
  · exact hw
  · unfold applyDecision
    split
    · grind [noEndpoint_applyBlock]
    · exact noEndpoint_applyClear ctx cmd flow hw true
    · exact hw.of_eq (endpointMap_applyShape ctx s cmd flow)
    · exact noEndpoint_applyClear ctx cmd flow hw false
    · exact hw

end Netqmon.Agent.Receiver.Effects
