import Netqmon.Agent.FlowAlias
import Netqmon.Collector.Policy.Decisions

/-! # The order of commands

An agent ignores a command that was issued before the last one it has taken for the flow. A queued
command is therefore issued at least a millisecond after the one that it replaces; a revocation is issued
at the time that `refresh_gateway` has read, whatever the command that it replaces says. Commands stay in
order as long as no command in force was issued after that reading. -/

namespace Netqmon.Collector.Policy.CommandOrder

open Lib.Keyed Protocol.Policy Protocol.Snapshot Decisions Evaluator FlowStates Hub Hub.GatewayState
open Agent.FlowAlias
open Compiler (Toolkit)
open Validation (sampleEpoch)
open Admission (sampleToolkit)

variable (toolkit : Toolkit)

/-! ### Issue times -/

/-- A time in milliseconds that fits into 64 bits. -/
def isTime (ms : ℤ) : Prop := ms ≤ 2 ^ 63 - 1

/-- The times of a call are machine integers. -/
def HasTimes : HubCall → Prop
  | .refresh read .. => isTime read.now
  | .queue frame .. => isTime frame.issuedAtMs
  | _ => True

/-- When another revision is published, no command in force was issued after the time that the refresh
has read. -/
def Timely (hub : PolicyHub) : HubCall → Prop
  | .refresh read .. =>
    (hub.gatewayState read.gatewayId).bundle.any (·.configRevision < read.revision) = true →
      ∀ key frame, (hub.gatewayState read.gatewayId).flowStates.lookup key = some frame →
        frame.operation = .upsert → frame.issuedAtMs ≤ read.now
  | _ => True

/-- Every call of the run is timely. -/
def TimelyRun : PolicyHub → List HubCall → Prop
  | _, [] => True
  | hub, call :: calls => HasTimes call ∧ Timely hub call ∧ TimelyRun (hub.step toolkit call) calls

theorem le_saturatingAdd_one {ms : ℤ} (h : isTime ms) : ms ≤ saturatingAdd ms 1 := by
  unfold isTime at h
  unfold saturatingAdd
  omega

theorem isTime_saturatingAdd (a b : ℤ) : isTime (saturatingAdd a b) := by
  unfold isTime saturatingAdd
  omega

theorem isTime_reissue {prev : Option FlowCommand} {f : FlowCommand}
    (h : isTime f.issuedAtMs) : isTime (reissue prev f).issuedAtMs := by
  cases prev with
  | none => exact h
  | some prev => exact max_le h (isTime_saturatingAdd _ _)

/-! ### Runs -/

/-- All decisions have been issued at machine times. -/
def Timed (hub : PolicyHub) : Prop :=
  ∀ gatewayId key frame, (hub.gatewayState gatewayId).flowStates.lookup key = some frame →
    isTime frame.issuedAtMs

theorem timed_new (epoch : String) : Timed (.new epoch) := by
  intro gw key f hf
  cases hf

variable {call : HubCall}

theorem Timed.step {hub : PolicyHub} (h : Timed hub) (hc : HasTimes call) :
    Timed (hub.step toolkit call) := by
  intro gw key f hf
  rw [PolicyHub.gatewayState_step] at hf
  split_ifs at hf with hgw
  · rcases stored_callState toolkit hub hf with hf | hsto
    · exact h _ key f hf
    · cases call with
      | refresh read force ids fill =>
        obtain ⟨-, old, _, _, -, -, rfl⟩ := hsto
        exact hc
      | queue asked gen fill =>
        obtain ⟨-, -, rfl⟩ := hsto
        exact isTime_reissue hc
      | _ => exact hsto.elim
  · exact h _ key f hf

theorem Timed.run : ∀ {calls : List HubCall} {hub : PolicyHub}, Timed hub →
    TimelyRun toolkit hub calls → Timed (hub.run toolkit calls)
  | [], _, h, _ => h
  | _ :: _, _, h, ⟨htm, _, hcalls⟩ => (h.step toolkit htm).run hcalls

theorem timelyRun_append : ∀ {earlier later : List HubCall} {hub : PolicyHub},
    TimelyRun toolkit hub (earlier ++ later) ↔
      TimelyRun toolkit hub earlier ∧ TimelyRun toolkit (hub.run toolkit earlier) later
  | [], _, _ => by simp [TimelyRun, PolicyHub.run]
  | call :: earlier, later, hub => by
    simp only [List.cons_append, TimelyRun, @timelyRun_append earlier, and_assoc]
    rfl

/-- The earlier decision for the flow of a command is there when the command is stored. -/
theorem lookup_ownedBy {s : GatewayState} (h : Owned s) {asked old : FlowCommand}
    (hval : validateFlowCommand asked = .ok ())
    (hold : s.flowStates.lookup (keyOf asked) = some old) :
    (s.ownedBy asked.bootId).flowStates.lookup (keyOf asked) = some old := by
  obtain ⟨hbt, hkey⟩ := h _ old hold
  obtain ⟨hasked, hfl⟩ := hasControl_of_valid hval
  have hsm : asked.bootId = old.bootId := (flowCommandKey_inj hasked hfl hkey.symm).1
  unfold ownedBy
  rw [hbt, hsm]
  simpa using hold

/-- A decision that is replaced by a timely call was not issued later than the new one. -/
theorem issued_le_of_step {hub : PolicyHub} (h : Timed hub)
    (hown : ∀ gw, Owned (hub.gatewayState gw)) (hc : Timely hub call)
    {gw key : String} {old new : FlowCommand}
    (hold : (hub.gatewayState gw).flowStates.lookup key = some old)
    (hnew : ((hub.step toolkit call).gatewayState gw).flowStates.lookup key = some new) :
    old.issuedAtMs ≤ new.issuedAtMs := by
  have hsm : (hub.gatewayState gw).flowStates.lookup key = some new →
      old.issuedAtMs ≤ new.issuedAtMs := by
    intro hk
    rw [hold] at hk
    cases hk
    exact le_refl _
  rw [PolicyHub.gatewayState_step] at hnew
  split_ifs at hnew with hgw
  · subst hgw
    rcases stored_callState toolkit hub hnew with hk | hsto
    · exact hsm hk
    · cases call with
      | refresh read force ids fill =>
        obtain ⟨hch, other, _, _, ho, hupsert, rfl⟩ := hsto
        have hsm : old = other := Option.some.inj (hold.symm.trans ho)
        exact hc hch key old hold (hsm ▸ hupsert)
      | queue asked gen fill =>
        obtain ⟨hval, hkey, rfl⟩ := hsto
        subst hkey
        have hpr := lookup_ownedBy (hown asked.gatewayId) hval hold
        rw [hpr]
        exact le_max_of_le_right (le_saturatingAdd_one (h _ _ old hold))
      | _ => exact hsto.elim
  · exact hsm hnew

/-- What an agent that has taken a command makes of another one. -/
theorem commandIsStale_recordCommand {cache : PolicyFlowAliasCache} {id : String} {old new : ℤ}
    (h : cache.commandIsStale id old = false) :
    (cache.recordCommand id old).commandIsStale id new = decide (new < old) := by
  unfold PolicyFlowAliasCache.commandIsStale at h
  unfold PolicyFlowAliasCache.recordCommand PolicyFlowAliasCache.modify
  cases he : cache.entries.lookup id with
  | none => simp [he] at h
  | some e =>
    rw [he] at h
    simp [PolicyFlowAliasCache.commandIsStale, PolicyFlowAliasCache.set, h]

/-- **Commands stay in order.** In a run of timely calls, a decision that takes the place of another was
not issued before it, and an agent that has taken the one does not discard the other as stale. -/
theorem replacements_stay_in_order (controllerEpoch : String) (earlier : List HubCall)
    (call : HubCall) (hcalls : TimelyRun toolkit (.new controllerEpoch) (earlier ++ [call]))
    (gatewayId key : String) (old new : FlowCommand)
    (hold : (((PolicyHub.new controllerEpoch).run toolkit earlier).gatewayState
      gatewayId).flowStates.lookup key = some old)
    (hnew : (((PolicyHub.new controllerEpoch).run toolkit (earlier ++ [call])).gatewayState
      gatewayId).flowStates.lookup key = some new) :
    old.issuedAtMs ≤ new.issuedAtMs ∧
      ∀ cache : PolicyFlowAliasCache, ∀ id, cache.commandIsStale id old.issuedAtMs = false →
        (cache.recordCommand id old.issuedAtMs).commandIsStale id new.issuedAtMs = false := by
  obtain ⟨hearlier, -, htimely, -⟩ := (timelyRun_append toolkit).1 hcalls
  have hle : old.issuedAtMs ≤ new.issuedAtMs := by
    refine issued_le_of_step toolkit ((timed_new controllerEpoch).run toolkit hearlier)
      (owned_run toolkit controllerEpoch earlier) htimely hold ?_
    rwa [PolicyHub.run, List.foldl_append] at hnew
  refine ⟨hle, fun cache id hfresh => ?_⟩
  rw [commandIsStale_recordCommand hfresh, decide_eq_false_iff_not]
  omega

/-! ### Sample runs -/

/-- What a refresh reads when there are no policies. -/
def noPolicies (now : ℤ) (revision : ℕ) : SnapshotRead := ⟨"gateway-1", now, revision, []⟩

/-- The flow is blocked, and a decision for other reasons is made within the same millisecond. -/
def blockedTwice : List HubCall :=
  [.refresh (noPolicies 1000 1) false id (sampleFill 1000),
    .queue (blockCommand "command-1" 1000) none (sampleFill 1000),
    .queue { blockCommand "command-2" 1000 with policyIds := ["policy-2"] } none (sampleFill 1000)]

/-- The next revision is published. -/
def publishNext (now : ℤ) : HubCall := .refresh (noPolicies now 2) false id (sampleFill now)

/-- The decision for the flow. -/
def decisionAfter (calls : List HubCall) : Option FlowCommand :=
  (((PolicyHub.new sampleEpoch).run sampleToolkit calls).gatewayState "gateway-1").flowStates.lookup
    (keyOf (blockCommand "command-1" 1000))

/-- A revision that is published a millisecond later is in order. -/
theorem later_revocation_in_order :
    ∃ old new, decisionAfter blockedTwice = some old ∧
      decisionAfter (blockedTwice ++ [publishNext 1001]) = some new ∧ new.operation = .revoke ∧
        old.issuedAtMs ≤ new.issuedAtMs := by
  have hfirst : ∀ key frame, ((PolicyHub.new sampleEpoch).gatewayState
      "gateway-1").flowStates.lookup key = some frame → False := by
    intro key frame hframe
    cases hframe
  have hissued : ∀ row ∈ (((PolicyHub.new sampleEpoch).run sampleToolkit
      blockedTwice).gatewayState "gateway-1").flowStates.entries, row.2.issuedAtMs ≤ 1001 := by
    decide +kernel
  have hrun : TimelyRun sampleToolkit (.new sampleEpoch) (blockedTwice ++ [publishNext 1001]) := by
    have htime : ∀ ms : ℤ, ms ≤ 1001 → isTime ms := by
      unfold isTime
      omega
    refine ⟨htime 1000 (by decide), fun _ key frame hframe => (hfirst key frame hframe).elim,
      htime 1000 (by decide), trivial, htime 1000 (by decide), trivial, htime 1001 (by decide),
      fun _ key frame hframe _ => ?_, trivial⟩
    exact hissued ⟨key, frame⟩ (lookup_eq_some_iff.1 hframe)
  have hold : (decisionAfter blockedTwice).isSome = true := by decide +kernel
  have hnew : (decisionAfter (blockedTwice ++ [publishNext 1001])).any
      (·.operation = .revoke) = true := by decide +kernel
  obtain ⟨old, hold⟩ := Option.isSome_iff_exists.1 hold
  obtain ⟨new, hnew, hrevoke⟩ := (Option.any_eq_true _ _).1 hnew
  exact ⟨old, new, hold, hnew, of_decide_eq_true hrevoke, (replacements_stay_in_order sampleToolkit
    sampleEpoch blockedTwice (publishNext 1001) hrun "gateway-1" _ old new hold hnew).1⟩

/-- A revision that is published within the same millisecond revokes the command with one that looks
older, and the agent ignores it. -/
theorem revocation_discarded_as_stale :
    ∃ old new, decisionAfter blockedTwice = some old ∧ 1000 < old.expiresAtMs ∧
      decisionAfter (blockedTwice ++ [publishNext 1000]) = some new ∧ new.operation = .revoke ∧
        new.issuedAtMs < old.issuedAtMs ∧
        ∀ cache : PolicyFlowAliasCache, ∀ id, cache.commandIsStale id old.issuedAtMs = false →
          (cache.recordCommand id old.issuedAtMs).commandIsStale id new.issuedAtMs = true := by
  have hold : decisionAfter blockedTwice = some { blockCommand "command-2" 1001 with
      policyIds := ["policy-2"] } := by decide +kernel
  have hnew : decisionAfter (blockedTwice ++ [publishNext 1000]) = some
      { revokeCommand (keyOf (blockCommand "command-1" 1000)) 1000 with
        configRevision := 2, expiresAtMs := 31000 } := by decide +kernel
  refine ⟨_, _, hold, by decide, hnew, rfl, by decide, fun cache id hfresh => ?_⟩
  rw [commandIsStale_recordCommand hfresh]
  decide

end Netqmon.Collector.Policy.CommandOrder
