import Netqmon.Collector.Policy.Hub

/-! # The decisions that the hub keeps

`flowStates` is written in two places: a queued command is stored as the decision for its flow, and the
commands in force are revoked when another revision is published. Every other call keeps a decision or
drops it (`Kept`). All decisions of a gateway are for the boot of the agent that it knows. -/

namespace Netqmon.Collector.Policy.FlowStates

open Lib.Checks Lib.Keyed Lib.RustStr Protocol.Policy Protocol.Snapshot Protocol.Validate Compiler
open Hub Hub.GatewayState

/-! ### Keeping and dropping -/

/-- The decisions of the later state are decisions of the earlier one, for the same boot. -/
def Kept (state' state : GatewayState) : Prop :=
  ∀ key frame, state'.flowStates.lookup key = some frame →
    state.flowStates.lookup key = some frame ∧
      ∀ bootId, state.flowBootId = some bootId → state'.flowBootId = some bootId

variable {key : String}

variable {fill : Fill} {now : ℤ} {revision : ℕ}

section Kept

variable {state state' state'' : GatewayState}

theorem Kept.trans (h' : Kept state'' state') (h : Kept state' state) : Kept state'' state := by
  intro key frame hf
  obtain ⟨hframe', hboot'⟩ := h' key frame hf
  obtain ⟨hf, hbt⟩ := h key frame hframe'
  grind

theorem Kept.of_eq (hsts : state'.flowStates = state.flowStates)
    (hbt : state'.flowBootId = state.flowBootId) : Kept state' state := by
  intro key frame hf
  rw [hsts] at hf
  exact ⟨hf, fun bootId hbootId => hbt.trans hbootId⟩

theorem Kept.refl (state : GatewayState) : Kept state state := .of_eq rfl rfl

theorem Kept.of_empty (hsts : state'.flowStates = ∅) : Kept state' state := by
  intro key frame hf
  rw [hsts] at hf
  cases hf

theorem Kept.of_erase (hsts : state'.flowStates = state.flowStates.erase key)
    (hbt : state'.flowBootId = state.flowBootId) : Kept state' state := by
  intro other frame hf
  rw [hsts] at hf
  refine ⟨?_, fun bootId hbootId => hbt.trans hbootId⟩
  by_cases heq : other = key
  · grind
  · rwa [AList.lookup_erase_ne heq] at hf

theorem Kept.foldl {α : Type} {f : GatewayState → α → GatewayState}
    (hf : ∀ state a, Kept (f state a) state) (l : List α) (state : GatewayState) :
    Kept (l.foldl f state) state :=
  List.foldlRecOn l f (.refl state) fun reached h a _ => (hf reached a).trans h

variable (state)

theorem kept_fillFlowQueue (fill : Fill) : Kept (state.fillFlowQueue fill) state := by
  intro key frame hf
  have hsts : (state.fillFlowQueue fill).flowStates =
      deleteWhere (fun _ frame => frame.expiresAtMs ≤ fill.now) state.flowStates := rfl
  rw [hsts, lookup_deleteWhere, Option.filter_eq_some_iff] at hf
  exact ⟨hf.1, fun _ => id⟩

variable (bootId : String)

theorem kept_ownedBy : Kept (state.ownedBy bootId) state := by
  unfold ownedBy
  split_ifs with ho
  · exact .of_empty rfl
  · intro key frame hf
    grind

variable (session : AgentSession)

theorem kept_latchAgentBoot : Kept (state.latchAgentBoot session bootId now fill).2 state := by
  unfold latchAgentBoot
  dsimp only
  split
  · exact .refl state
  · by_cases hbt : (state.flowBootId != some bootId) = true
    · simp only [hbt, Bool.not_true, Bool.and_false]
      exact .of_empty rfl
    · have hsm : state.flowBootId = some bootId := by simpa using hbt
      split
      · exact (kept_fillFlowQueue _ fill).trans (.of_eq rfl hsm.symm)
      · exact .of_eq rfl hsm.symm

theorem kept_takeLoop (revision : ℕ) (bootId : String) (fill : Fill) :
    ∀ (rounds : ℕ) (state : GatewayState), Kept (takeLoop revision bootId fill rounds state).2 state
  | 0, state => .refl state
  | rounds + 1, state => by
    unfold takeLoop
    split
    · exact .refl state
    · split
      · exact (kept_takeLoop revision bootId fill rounds _).trans (.of_eq rfl rfl)
      · split
        · exact (kept_takeLoop revision bootId fill rounds _).trans (.of_eq rfl rfl)
        · split
          · exact (kept_takeLoop revision bootId fill rounds _).trans (.of_eq rfl rfl)
          · exact (kept_fillFlowQueue _ fill).trans (.of_eq rfl rfl)

theorem kept_takeFlowCommand (bootId : Option String) (refill : Fill) :
    Kept (state.takeFlowCommand session revision bootId fill refill).2 state := by
  unfold takeFlowCommand
  split
  · exact .refl state
  · split
    · exact .refl state
    · exact (kept_takeLoop revision _ refill _ _).trans (kept_fillFlowQueue state fill)

theorem kept_retryPartial (now : ℤ) (key : String) : Kept (state.retryPartial now key) state := by
  unfold retryPartial
  split
  · exact .refl state
  · split <;> exact .of_eq rfl rfl

theorem kept_retryInFlight (id : String) : Kept (state.retryInFlight id) state := by
  unfold retryInFlight
  split
  · exact .refl state
  · split <;> exact .of_eq rfl rfl

theorem kept_retryFlowCommands (clock : RetryClock) :
    Kept (state.retryFlowCommands session clock fill) state := by
  unfold retryFlowCommands
  split
  · exact .refl state
  · refine (kept_fillFlowQueue _ fill).trans ?_
    refine (Kept.foldl (f := dropInFlight) (fun _ _ => .of_eq rfl rfl) _ _).trans ?_
    refine (Kept.foldl kept_retryInFlight _ _).trans ?_
    exact Kept.foldl (fun state key => kept_retryPartial state (clock.now key) key) _ _

end Kept

/-! ### Keys -/

theorem flowCommandKey_inj {bootId bootId' flowId policyFlowId' : String}
    (hbt : hasControl bootId = false) (hfl : hasControl flowId = false)
    (h : flowCommandKey bootId flowId = flowCommandKey bootId' policyFlowId') :
    bootId = bootId' ∧ flowId = policyFlowId' := by
  have hnul : ∀ s, hasControl s = false → '\x00' ∉ s.toList := by
    intro s hs hmem
    have hcontrol : hasControl s = true := List.any_eq_true.2 ⟨_, hmem, by decide⟩
    rw [hs] at hcontrol
    cases hcontrol
  have hlists : bootId.toList ++ '\x00' :: flowId.toList =
      bootId'.toList ++ '\x00' :: policyFlowId'.toList := by
    have h := congrArg String.toList h
    simpa [flowCommandKey] using h
  obtain ⟨hboots, -, hfls⟩ :=
    (List.append_cons_inj_of_notMem (hnul _ hbt) (hnul _ hfl)).1 hlists
  exact ⟨String.toList_inj.1 hboots, String.toList_inj.1 hfls⟩

variable {frame : FlowCommand}

theorem hasControl_of_valid (h : validateFlowCommand frame = .ok ()) :
    hasControl frame.bootId = false ∧ hasControl frame.policyFlowId = false := by
  unfold validateFlowCommand at h
  simp only [seq_eq_ok, validateNonemptyId, ensure_eq_ok, validText, Bool.and_eq_true,
    Bool.not_eq_true'] at h
  exact ⟨h.2.2.1.2, h.2.2.2.2.2.2.1.2⟩

/-! ### What is stored -/

variable (toolkit : Toolkit)

variable {prev : Option FlowCommand}

theorem keyOf_reissue : keyOf (reissue prev frame) = keyOf frame := by
  cases prev <;> rfl

theorem bootId_reissue : (reissue prev frame).bootId = frame.bootId := by
  cases prev <;> rfl

variable (hub : PolicyHub)

/-- A call that stores a decision for a flow. -/
def StoredBy (call : HubCall) (key : String) (frame : FlowCommand) : Prop :=
  match call with
  | .queue asked _ _ =>
    validateFlowCommand asked = .ok () ∧ key = keyOf asked ∧
      frame = reissue (((hub.gatewayState asked.gatewayId).ownedBy
        asked.bootId).flowStates.lookup key) asked
  | .refresh read _ commandIds _ =>
    (hub.gatewayState read.gatewayId).bundle.any (·.configRevision < read.revision) = true ∧
      ∃ old epoch revision, (hub.gatewayState read.gatewayId).flowStates.lookup key = some old ∧
        old.operation = .upsert ∧ frame = revokeFrame epoch revision read.now (commandIds key) old
  | _ => False

variable {commandIds : String → String}

variable {epoch : String}

theorem mem_revocations {state : GatewayState} {row : String × FlowCommand}
    (h : row ∈ state.revocations commandIds epoch revision now) :
    ∃ old, state.flowStates.lookup row.1 = some old ∧ old.operation = .upsert ∧
      row.2 = revokeFrame epoch revision now (commandIds row.1) old := by
  obtain ⟨⟨key, old⟩, hold, rfl⟩ := List.mem_map.1 h
  obtain ⟨hl, hupsert⟩ := mem_select.1 hold
  exact ⟨old, hl, beq_iff_eq.1 hupsert, rfl⟩

variable (state : GatewayState)

theorem nodup_revocations :
    ((state.revocations commandIds epoch revision now).map Prod.fst).Nodup := by
  unfold revocations
  rw [List.map_map]
  exact nodup_keys_select _ _

theorem stored_refresh {gw : String} {ps : List PolicySnapshotEntry} {force : Bool}
    (h : (state.refreshGateway toolkit gw epoch now revision ps force commandIds
      fill).2.flowStates.lookup key = some frame) :
    state.flowStates.lookup key = some frame ∨
      state.bundle.any (·.configRevision < revision) = true ∧
        ∃ old epoch revision, state.flowStates.lookup key = some old ∧ old.operation = .upsert ∧
          frame = revokeFrame epoch revision now (commandIds key) old := by
  rcases state.refreshGateway_cases toolkit gw epoch now revision ps force commandIds
    fill with heq | ⟨hle, published, hpub, heq⟩
  · rw [heq] at h
    exact .inl h
  · rw [heq] at h
    split_ifs at h with hch
    · have hsto := (kept_fillFlowQueue _ fill key frame h).1
      rcases (lookup_insertAll (nodup_revocations ..)).1 hsto with hrow | ⟨-, hold⟩
      · obtain ⟨old, hold, hupsert, hf⟩ := mem_revocations hrow
        refine .inr ⟨?_, old, _, _, hold, hupsert, hf⟩
        obtain ⟨-, _, -, rfl⟩ := compileSnapshot_eq_ok hpub
        cases hbun : state.bundle with
        | none => simp [hbun] at hch
        | some bundle =>
          rw [hbun] at hch hle
          have hne : bundle.configRevision ≠ revision := of_decide_eq_true hch
          simpa using lt_of_le_of_ne (hle bundle rfl) hne
      · exact .inl hold
    · exact .inl h

theorem flowStates_storeCommand {stored : FlowCommand} :
    (state.storeCommand key stored).flowStates = state.flowStates.insert key stored := rfl

theorem stored_queue {asked : FlowCommand} {gen : Option ℕ}
    (h : (state.queueFlowCommandInner asked gen fill).2.flowStates.lookup key = some frame) :
    state.flowStates.lookup key = some frame ∨ validateFlowCommand asked = .ok () ∧
      key = keyOf asked ∧ frame = reissue ((state.ownedBy asked.bootId).flowStates.lookup key)
        asked := by
  have hk := kept_ownedBy state asked.bootId
  rcases state.queueFlowCommandInner_cases asked gen fill with
    heq | heq | ⟨hval, -, -, -, -, heq⟩
  · rw [heq] at h
    exact .inl h
  · rw [heq] at h
    exact .inl (hk key frame h).1
  · rw [heq] at h
    have hsto := (kept_fillFlowQueue _ fill key frame h).1
    rw [flowStates_storeCommand, lookup_insert_ite] at hsto
    split_ifs at hsto with hkey
    · grind
    · exact .inl (hk key frame hsto).1

variable {call : HubCall}

def stores : HubCall → Bool
  | .refresh .. | .queue .. => true
  | _ => false

theorem kept_callState (h : stores call = false) :
    Kept (hub.callState toolkit call) (hub.gatewayState call.gatewayId) := by
  unfold PolicyHub.callState
  cases call with
  | refresh => cases h
  | queue => cases h
  | register gw =>
    dsimp only
    split
    · exact .refl _
    · exact .of_eq rfl rfl
  | latch => exact kept_latchAgentBoot _ _ _
  | refreshActive =>
    dsimp only [refreshActiveFlowCommands]
    split
    · exact .refl _
    · exact .of_eq rfl rfl
  | capabilities =>
    dsimp only [recordFlowCapabilities]
    split
    · exact .refl _
    · split <;> exact .of_eq rfl rfl
  | remember =>
    dsimp only
    split
    · exact .refl _
    · unfold rememberFlowContext
      dsimp only
      split_ifs
      · exact .refl _
      all_goals exact (Kept.of_eq rfl rfl).trans (kept_ownedBy _ _)
  | forget => exact .of_eq rfl rfl
  | take => exact kept_takeFlowCommand _ _ _ _
  | sent =>
    dsimp only [markFlowCommandSent]
    split
    · exact .refl _
    · exact .of_eq rfl rfl
  | unsent =>
    dsimp only [requeueUnsentFlowCommand]
    split
    · exact .refl _
    · split
      · exact .refl _
      · exact (kept_fillFlowQueue _ _).trans (.of_eq rfl rfl)
  | retry => exact kept_retryFlowCommands _ _ _
  | acknowledge =>
    dsimp only [acknowledgeFlowCommand]
    split
    · exact .refl _
    · split
      · exact .refl _
      · refine (kept_fillFlowQueue _ _).trans ?_
        split_ifs
        · exact .of_erase rfl rfl
        · exact .of_erase rfl rfl
        · exact .of_eq rfl rfl
        · exact .of_eq rfl rfl
  | unregister =>
    dsimp only [GatewayState.unregister]
    split
    · exact .of_eq rfl rfl
    · exact .refl _

/-- **Where decisions come from.** A decision was there before the call, or the call stored it. -/
theorem stored_callState (h : (hub.callState toolkit call).flowStates.lookup key = some frame) :
    (hub.gatewayState call.gatewayId).flowStates.lookup key = some frame ∨
      StoredBy hub call key frame := by
  cases call with
  | refresh read force commandIds fill => exact stored_refresh toolkit _ h
  | queue asked gen fill => exact stored_queue _ h
  | _ => exact .inl (kept_callState toolkit hub rfl key frame h).1

/-! ### Whose decisions -/

/-- Every decision is kept under its own key, and is for the boot that the gateway is known with. -/
def Owned : Prop :=
  ∀ key frame, state.flowStates.lookup key = some frame →
    state.flowBootId = some frame.bootId ∧ keyOf frame = key

section Owned

variable {state state' : GatewayState}

theorem Owned.kept (h : Owned state) (hk : Kept state' state) : Owned state' := by
  intro key frame hf
  obtain ⟨hbef, hbt⟩ := hk key frame hf
  obtain ⟨how, hkey⟩ := h key frame hbef
  exact ⟨hbt _ how, hkey⟩

theorem Owned.refreshGateway (h : Owned state) (gw epoch : String) (now : ℤ) (revision : ℕ)
    (ps : List PolicySnapshotEntry) (force : Bool) (commandIds : String → String) (fill : Fill) :
    Owned (state.refreshGateway toolkit gw epoch now revision ps force commandIds
      fill).2 := by
  have hbt : (state.refreshGateway toolkit gw epoch now revision ps force commandIds
      fill).2.flowBootId = state.flowBootId := by
    rcases state.refreshGateway_cases toolkit gw epoch now revision ps force commandIds
      fill with heq | ⟨-, published, -, heq⟩
    · rw [heq]
    · rw [heq]
      split_ifs <;> rfl
  intro key frame hf
  rw [hbt]
  rcases stored_refresh toolkit state hf with hf | ⟨-, old, _, _, hold, -, rfl⟩
  · exact h key frame hf
  · exact h key old hold

theorem Owned.queueFlowCommandInner (h : Owned state) (asked : FlowCommand)
    (gen : Option ℕ) (fill : Fill) : Owned (state.queueFlowCommandInner asked gen fill).2 := by
  have hown := h.kept (kept_ownedBy state asked.bootId)
  rcases state.queueFlowCommandInner_cases asked gen fill with
    heq | heq | ⟨-, -, -, -, -, heq⟩
  · rw [heq]
    exact h
  · rw [heq]
    exact hown
  · rw [heq]
    refine Owned.kept (fun key frame hf => ?_) (kept_fillFlowQueue _ fill)
    rw [flowStates_storeCommand, lookup_insert_ite] at hf
    split_ifs at hf with hkey
    · rw [← Option.some.inj hf, hkey, keyOf_reissue, bootId_reissue]
      exact ⟨rfl, rfl⟩
    · exact hown key frame hf

end Owned

theorem owned_callState {hub : PolicyHub}
    (h : Owned (hub.gatewayState call.gatewayId)) : Owned (hub.callState toolkit call) := by
  cases call with
  | refresh => exact h.refreshGateway toolkit _ _ _ _ _ _ _ _
  | queue => exact h.queueFlowCommandInner _ _ _
  | _ => exact h.kept (kept_callState toolkit hub rfl)

/-- **Decisions are for the boot that is known**, in every state that is reached. -/
theorem owned_run (controllerEpoch : String) (calls : List HubCall) (gw : String) :
    Owned (((PolicyHub.new controllerEpoch).run toolkit calls).gatewayState gw) := by
  refine PolicyHub.run_keeps toolkit _ calls (fun g key frame hf => ?_)
    (fun _ _ => owned_callState toolkit) gw
  cases hf

end Netqmon.Collector.Policy.FlowStates
