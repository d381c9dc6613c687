import Netqmon.Collector.Policy.Decisions

/-! # Redelivery after a reconnection

A new session starts with nothing to deliver. When it latches the boot that the gateway is already known
with, all commands in force become pending again, but only if no boot is known for the session yet. A
flow that telemetry brings in between makes the boot known as well, and then nothing becomes pending. -/

namespace Netqmon.Collector.Policy.Reconnect

open Lib.Keyed Protocol.Policy Decisions Evaluator FlowStates Hub Hub.GatewayState
open Compiler (Toolkit)
open Validation (sampleEpoch)
open Admission (sampleToolkit)

variable (toolkit : Toolkit)

/-! ### Between the registration and the latch -/

/-- A flow that telemetry brings. -/
structure FlowContext where
  policyFlowId : String
  protocol : ℕ
  request : PolicyPreviewRequest
  now : ℤ

def rememberCall (gatewayId bootId : String) (context : FlowContext) : HubCall :=
  .remember gatewayId bootId context.policyFlowId context.protocol context.request context.now

/-- A session of the boot that has nothing to deliver yet. -/
structure Waiting (states : Rows String FlowCommand) (bundle : Option PolicySnapshot)
    (bootId : String) (session : ℕ) (state : GatewayState) : Prop where
  states : state.flowStates = states
  bundle : state.bundle = bundle
  boot : state.flowBootId = some bootId
  session : state.session = some session
  pending : state.flowPending = ∅
  sessionBoot : state.sessionBootId = none ∨ state.sessionBootId = some bootId

section Waiting

variable {states : Rows String FlowCommand} {bundle : Option PolicySnapshot} {bootId : String}
  {session : ℕ} {state : GatewayState}

/-- A flow of the boot makes the boot of the session known. -/
theorem Waiting.remember (h : Waiting states bundle bootId session state) (gen : ℕ)
    (flowId : String) (protocol : ℕ) (req : PolicyPreviewRequest) (now : ℤ) :
    Waiting states bundle bootId session
        (state.rememberFlowContext gen bootId flowId protocol req now).2 ∧
      (state.rememberFlowContext gen bootId flowId protocol req
        now).2.sessionBootId = some bootId := by
  have hsess : state.sessionBootId.any (· ≠ bootId) = false := by
    rcases h.sessionBoot with hn | hs
    · simp [hn]
    · simp [hs]
  have hown : Waiting states bundle bootId session
      { state.ownedBy bootId with sessionBootId := some bootId } := by
    unfold ownedBy
    rw [if_neg (by simp [h.boot])]
    exact { h with boot := rfl, sessionBoot := .inr rfl }
  unfold rememberFlowContext
  rw [if_neg (Bool.eq_false_iff.1 hsess)]
  dsimp only
  split_ifs
  all_goals exact ⟨{ hown with sessionBoot := .inr rfl }, rfl⟩

/-- Latching the boot makes the commands in force pending, if the boot of the session was not known. -/
theorem Waiting.lookup_latch (h : Waiting states bundle bootId session state) (gw : String)
    {key : String} {f : FlowCommand} (hf : states.lookup key = some f)
    (hrev : (bundle.map (·.configRevision)).all (· == f.configRevision) = true) {now : ℤ} {fill : Fill}
    (hnow : now < f.expiresAtMs) (hfill : fill.now < f.expiresAtMs) :
    (state.latchAgentBoot ⟨gw, session⟩ bootId now fill).2.flowPending.lookup key =
      if state.sessionBootId.isNone then some f else none := by
  have hact : state.isActive ⟨gw, session⟩ = true := by simp [isActive, h.session]
  have hsm : (state.flowBootId != some bootId) = false := by simp [h.boot]
  unfold latchAgentBoot
  rw [hact, hsm]
  cases state.sessionBootId with
  | some _ => exact (congrArg (AList.lookup key) h.pending).trans (AList.lookup_empty key)
  | none =>
    show (deleteWhere (fun _ f => !state.isSendable fill.now f) (insertAll state.flowPending
      (select (fun _ f => now < f.expiresAtMs) state.flowStates))).lookup key = some f
    rw [lookup_deleteWhere, Option.filter_eq_some_iff, Bool.not_not]
    refine ⟨(lookup_insertAll (nodup_keys_select _ _)).2 (.inl ?_), ?_⟩
    · rw [← h.states] at hf
      exact mem_select.2 ⟨hf, decide_eq_true hnow⟩
    · rw [isSendable, Bool.and_eq_true, decide_eq_true_eq]
      refine ⟨hfill, ?_⟩
      rw [revision, h.bundle]
      cases bundle with
      | none => rfl
      | some bundle => exact decide_eq_true (beq_iff_eq.1 hrev).le

end Waiting

/-! ### The reconnection -/

/-- The boot of the session after the flows that telemetry has brought. -/
theorem waiting_run {states : Rows String FlowCommand} {bundle : Option PolicySnapshot}
    {gw bootId : String} {session : ℕ} :
    ∀ (contexts : List FlowContext) (hub : PolicyHub),
      Waiting states bundle bootId session (hub.gatewayState gw) →
      Waiting states bundle bootId session
          ((hub.run toolkit (contexts.map (rememberCall gw bootId))).gatewayState gw) ∧
        ((hub.run toolkit (contexts.map (rememberCall gw bootId))).gatewayState
            gw).sessionBootId =
          if contexts = [] ∨ hub.nextFlowContextGeneration = u64Max then
            (hub.gatewayState gw).sessionBootId
          else some bootId
  | [], hub, h => ⟨h, (if_pos (.inl rfl)).symm⟩
  | context :: contexts, hub, h => by
    have hst : (hub.step toolkit (rememberCall gw bootId context)).gatewayState gw =
        hub.callState toolkit (rememberCall gw bootId context) := by
      rw [PolicyHub.gatewayState_step]
      exact if_pos rfl
    have hnx : (hub.step toolkit (rememberCall gw bootId
        context)).nextFlowContextGeneration = min (hub.nextFlowContextGeneration + 1) u64Max := rfl
    have hc : hub.callState toolkit (rememberCall gw bootId context) =
        if hub.nextFlowContextGeneration = u64Max then hub.gatewayState gw
        else ((hub.gatewayState gw).rememberFlowContext hub.nextFlowContextGeneration bootId
          context.policyFlowId context.protocol context.request context.now).2 := rfl
    by_cases hmax : hub.nextFlowContextGeneration = u64Max
    · rw [if_pos hmax] at hc
      rw [hc] at hst
      obtain ⟨hwait, hbt⟩ := waiting_run contexts _ (hst ▸ h)
      rw [hnx, hst, hmax] at hbt
      refine ⟨hwait, hbt.trans ?_⟩
      rw [if_pos (.inr (by simp)), if_pos (.inr hmax)]
    · rw [if_neg hmax] at hc
      obtain ⟨hrem, hlat⟩ := h.remember hub.nextFlowContextGeneration
        context.policyFlowId context.protocol context.request context.now
      rw [← hc, ← hst] at hrem hlat
      obtain ⟨hwait, hbt⟩ := waiting_run contexts _ hrem
      refine ⟨hwait, hbt.trans ?_⟩
      rw [hlat, ite_self, if_neg (by simp [hmax])]

/-- **Redelivery.** After a reconnection the commands in force are to be delivered to the new session if,
and only if, telemetry has brought no flow between the registration and the latch. -/
theorem redelivered_iff (controllerEpoch : String) (calls : List HubCall)
    (gatewayId key : String) (frame : FlowCommand) (contexts : List FlowContext) (now : ℤ)
    (fill : Fill) :
    let hub := (PolicyHub.new controllerEpoch).run toolkit calls
    let reconnected := hub.run toolkit (.register gatewayId ::
      contexts.map (rememberCall gatewayId frame.bootId) ++
        [.latch ⟨gatewayId, hub.nextSessionId⟩ frame.bootId now fill])
    (hub.gatewayState gatewayId).flowStates.lookup key = some frame →
    (hub.gatewayState gatewayId).isCurrent frame = true →
    now < frame.expiresAtMs → fill.now < frame.expiresAtMs → hub.nextSessionId ≠ u64Max →
    ((∃ pending, (reconnected.gatewayState gatewayId).flowPending.lookup key = some pending ∧
        frame.issuedAtMs ≤ pending.issuedAtMs) ↔
      contexts = [] ∨ hub.nextFlowContextGeneration = u64Max) := by
  intro hub reconnected hframe hcurrent hnow hfill hsession
  have howner : (hub.gatewayState gatewayId).flowBootId = some frame.bootId :=
    (owned_run toolkit controllerEpoch calls gatewayId key frame hframe).1
  have hregistered : (hub.step toolkit (.register gatewayId)).gatewayState gatewayId =
      (hub.gatewayState gatewayId).register hub.nextSessionId := by
    rw [PolicyHub.gatewayState_step]
    exact (if_pos rfl).trans (if_neg hsession)
  have hstart : Waiting (hub.gatewayState gatewayId).flowStates (hub.gatewayState gatewayId).bundle
      frame.bootId hub.nextSessionId
      ((hub.step toolkit (.register gatewayId)).gatewayState gatewayId) := by
    rw [hregistered]
    exact ⟨rfl, rfl, howner, rfl, rfl, .inl rfl⟩
  obtain ⟨hwaiting, hboot⟩ := waiting_run toolkit contexts _ hstart
  have hreconnected : (reconnected.gatewayState gatewayId).flowPending.lookup key =
      if contexts = [] ∨ hub.nextFlowContextGeneration = u64Max then some frame else none := by
    have hrun : reconnected = ((hub.step toolkit (.register gatewayId)).run toolkit
        (contexts.map (rememberCall gatewayId frame.bootId))).step toolkit
          (.latch ⟨gatewayId, hub.nextSessionId⟩ frame.bootId now fill) := by
      change List.foldl _ _ _ = _
      rw [List.foldl_append]
      rfl
    have hlatched : reconnected.gatewayState gatewayId = (latchAgentBoot (((hub.step toolkit
        (.register gatewayId)).run toolkit (contexts.map (rememberCall gatewayId
          frame.bootId))).gatewayState gatewayId) ⟨gatewayId, hub.nextSessionId⟩ frame.bootId now
            fill).2 := by
      rw [hrun, PolicyHub.gatewayState_step]
      exact if_pos rfl
    have hgeneration : (hub.step toolkit (.register gatewayId)).nextFlowContextGeneration =
        hub.nextFlowContextGeneration := rfl
    rw [hlatched, hwaiting.lookup_latch gatewayId hframe hcurrent hnow hfill, hboot, hgeneration,
      hregistered]
    by_cases hquiet : contexts = [] ∨ hub.nextFlowContextGeneration = u64Max
    · rw [if_pos hquiet, if_pos hquiet]
      rfl
    · rw [if_neg hquiet, if_neg hquiet]
      rfl
  rw [hreconnected]
  split_ifs with hquiet
  · exact iff_of_true ⟨frame, rfl, le_refl _⟩ hquiet
  · exact iff_of_false (by simp) hquiet

/-! ### Sample runs -/

/-- A flow is blocked; the command has not been sent yet. -/
def blockedFlow : List HubCall :=
  [.register "gateway-1", .latch sampleSession "boot-1" 500 (sampleFill 500),
    .queue (blockCommand "command-1" 1000) none (sampleFill 1000)]

/-- Another flow of the agent. -/
def sampleContext : FlowContext where
  policyFlowId := "flow-2"
  protocol := 6
  request :=
    ⟨"gateway-1", "02:00:00:00:00:01", "video", "media", some (95 / 100), "internet", 2000⟩
  now := 2000

/-- The agent reconnects after the flow was blocked. -/
def reconnect (contexts : List FlowContext) : GatewayState :=
  let hub := (PolicyHub.new sampleEpoch).run sampleToolkit blockedFlow
  (hub.run sampleToolkit (.register "gateway-1" ::
    contexts.map (rememberCall "gateway-1" "boot-1") ++
      [.latch ⟨"gateway-1", hub.nextSessionId⟩ "boot-1" 3000 (sampleFill 3000)])).gatewayState
        "gateway-1"

theorem quiet_reconnect_redelivers :
    ∃ pending, (reconnect []).flowPending.lookup (keyOf (blockCommand "command-1" 1000)) =
      some pending ∧ (blockCommand "command-1" 1000).issuedAtMs ≤ pending.issuedAtMs :=
  (redelivered_iff sampleToolkit sampleEpoch blockedFlow "gateway-1"
    (keyOf (blockCommand "command-1" 1000)) (blockCommand "command-1" 1000) [] 3000
    (sampleFill 3000) (by decide +kernel) (by decide +kernel) (by decide) (by decide)
    (by decide +kernel)).2 (.inl rfl)

/-- One flow of the same boot, and the command in force is not delivered to the new session. -/
theorem blocked_flow_not_redelivered :
    (reconnect [sampleContext]).flowStates.lookup (keyOf (blockCommand "command-1" 1000)) =
        some (blockCommand "command-1" 1000) ∧
      (reconnect [sampleContext]).session = some 2 ∧
      (reconnect [sampleContext]).sessionBootId = some "boot-1" ∧
      (reconnect [sampleContext]).flowPending.lookup (keyOf (blockCommand "command-1" 1000)) =
        none := by
  decide +kernel

end Netqmon.Collector.Policy.Reconnect
