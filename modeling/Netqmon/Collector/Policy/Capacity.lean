import Netqmon.Collector.Policy.Hub

/-! # What the hub holds

A gateway may not make the hub grow. `Bounded` says that the delivery queue holds distinct keys, all of
them pending, is the set `flowQueued` and fits its bound, and that the decisions, the contexts and the
delayed retries fit theirs. It holds in every state that calls can reach, whatever their arguments
are. -/

namespace Netqmon.Collector.Policy.Capacity

open Lib.Keyed Protocol.Policy Collector.Policy.Hub Collector.Policy.Hub.GatewayState
open Collector.Policy.Compiler (Toolkit)

/-! ### Rows -/

section Rows

variable {V W : Type} {t t' : Rows String V} {key : String}

theorem length_le_of_lookup {u : Rows String W}
    (h : ∀ key, (u.lookup key).isSome = true → (t.lookup key).isSome = true) :
    u.entries.length ≤ t.entries.length := by
  have hsub : u.keys ⊆ t.keys := fun key hkey =>
    AList.lookup_isSome.1 (h key (AList.lookup_isSome.2 hkey))
  simpa [AList.keys, List.keys] using (u.keys_nodup.subperm hsub).length_le

theorem length_erase_le (t : Rows String V) (key : String) :
    (t.erase key).entries.length ≤ t.entries.length :=
  (List.kerase_sublist key t.entries).length_le

theorem length_deleteWhere_le (p : String → V → Bool) (t : Rows String V) :
    (deleteWhere p t).entries.length ≤ t.entries.length :=
  List.length_filter_le _ _

theorem length_insert_le {n : ℕ} {v : V} (ht : t.entries.length ≤ n)
    (h : (t.lookup key).isSome = true ∨ t.entries.length < n) :
    (t.insert key v).entries.length ≤ n := by
  rcases h with h | h
  · refine (length_le_of_lookup fun other ho => ?_).trans ht
    rw [lookup_insert_ite] at ho
    split_ifs at ho with heq
    · exact heq ▸ h
    · exact ho
  · exact (Nat.succ_le_succ (length_erase_le t key)).trans h

end Rows

/-! ### One gateway -/

/-- What holds before the queue is filled. -/
structure Roomy (state : GatewayState) : Prop where
  nodup : state.flowQueue.Nodup
  fits : state.flowQueue.length ≤ flowCommandQueueCapacity
  decisions : state.flowStates.entries.length ≤ flowCommandStateCapacity
  contexts : state.flowEvaluationContexts.entries.length ≤ flowCommandStateCapacity
  retries : state.flowPartialRetries.entries.length ≤ flowCommandStateCapacity

structure Bounded (state : GatewayState) : Prop extends Roomy state where
  pending : ∀ key ∈ state.flowQueue, (state.flowPending.lookup key).isSome = true
  queued : state.flowQueued = state.flowQueue.toFinset

variable {state state' : GatewayState}

theorem bounded_of_empty (h : state.flowQueue = [] ∧ state.flowQueued = ∅)
    (hdecisions : state.flowStates.entries.length ≤ flowCommandStateCapacity)
    (hcontexts : state.flowEvaluationContexts.entries.length ≤ flowCommandStateCapacity)
    (hretries : state.flowPartialRetries.entries.length ≤ flowCommandStateCapacity) :
    Bounded state :=
  ⟨⟨by simp [h], by simp [h], hdecisions, hcontexts, hretries⟩, by simp [h], by simp [h]⟩

/-- Filling the queue needs nothing of it but that it was distinct and not too long. -/
theorem Roomy.fill (h : Roomy state) (fill : Fill) : Bounded (state.fillFlowQueue fill) := by
  obtain ⟨hnd, hfits, hdecisions, hcontexts, hretries⟩ := h
  have hdis : (state.discard fill.now).flowQueue = state.flowQueue := rfl
  unfold fillFlowQueue
  generalize hd : state.discard fill.now = discarded at hdis
  have hk := List.length_filter_le
    (fun key => (discarded.flowPending.lookup key).any discarded.isCurrent) discarded.flowQueue
  rw [hdis] at hk
  refine ⟨⟨List.nodup_append.2 ⟨?_, ?_, ?_⟩, ?_, ?_, ?_, ?_⟩, fun key hkey => ?_, rfl⟩
  · exact (hdis ▸ hnd).filter _
  · exact ((((fill.scan.perm _).map _).nodup_iff.2 (nodup_keys_select _ _))).sublist
      (List.take_sublist _ _)
  · rintro key hkey _ hadded rfl
    obtain ⟨row, hrow, rfl⟩ := List.mem_map.1 (List.mem_of_mem_take hadded)
    have hselected := (mem_select.1 ((fill.scan.perm _).mem_iff.1 hrow)).2
    grind
  · simp only [enqueue, hdis, List.length_append, List.length_take]
    omega
  · exact hd ▸ (length_deleteWhere_le _ _).trans hdecisions
  · exact hd ▸ hcontexts
  · exact hd ▸ hretries
  · change (discarded.flowPending.lookup key).isSome = true
    rcases List.mem_append.1 hkey with hkey | hkey
    · have hany := (List.mem_filter.1 hkey).2
      exact Option.isSome_iff_exists.2 ((Option.any_eq_true ..).1 hany |>.imp fun _ h => h.1)
    · obtain ⟨row, hrow, rfl⟩ := List.mem_map.1 (List.mem_of_mem_take hkey)
      have hselected := (mem_select.1 ((fill.scan.perm _).mem_iff.1 hrow)).1
      exact Option.isSome_iff_exists.2 ⟨_, hselected⟩

/-- A key is popped, and its command may stay pending. -/
theorem Bounded.pop (h : Bounded state) {key : String} {rest : List String}
    (hq : state.flowQueue = key :: rest) {pending : Rows String FlowCommand}
    (hp : ∀ other ≠ key, pending.lookup other = state.flowPending.lookup other) :
    Bounded { state with
      flowQueue := rest, flowQueued := state.flowQueued.erase key, flowPending := pending } := by
  obtain ⟨⟨hnd, hfits, hdecisions, hcontexts, hretries⟩, hks, hqueued⟩ := h
  rw [hq] at hnd hks hqueued hfits
  obtain ⟨hnot, hr⟩ := List.nodup_cons.1 hnd
  refine ⟨⟨hr, Nat.le_of_succ_le hfits, hdecisions, hcontexts, hretries⟩, ?_, ?_⟩
  · intro other ho
    have hne : other ≠ key := fun heq => hnot (heq ▸ ho)
    exact (congrArg Option.isSome (hp other hne)).trans
      (hks other (List.mem_cons_of_mem _ ho))
  · change state.flowQueued.erase key = rest.toFinset
    rw [hqueued, List.toFinset_cons, Finset.erase_insert (by simpa using hnot)]

theorem bounded_takeLoop {rev : ℕ} {bootId : String} {fill : Fill} :
    ∀ {rounds : ℕ} {state : GatewayState}, Bounded state →
      Bounded (takeLoop rev bootId fill rounds state).2
  | 0, _, h => h
  | rounds + 1, state, h => by
    unfold takeLoop
    split
    · exact h
    · next key rest hq =>
      dsimp only
      split
      · exact bounded_takeLoop (h.pop hq fun _ _ => rfl)
      · split_ifs
        · exact bounded_takeLoop (h.pop hq fun other hne => by
            rw [AList.lookup_insert_ne hne, AList.lookup_erase_ne hne])
        · exact bounded_takeLoop (h.pop hq fun other hne => AList.lookup_erase_ne hne)
        · exact (h.pop hq fun other hne => AList.lookup_erase_ne hne).toRoomy.fill fill

theorem bounded_refresh (h : Bounded state) (toolkit : Toolkit) (gw epoch : String) (now : ℤ)
    (rev : ℕ) (ps : List PolicySnapshotEntry) (force : Bool) (ids : String → String) (fill : Fill) :
    Bounded (state.refreshGateway toolkit gw epoch now rev ps force ids fill).2 := by
  rcases state.refreshGateway_cases toolkit gw epoch now rev ps force ids fill with
    heq | ⟨-, f, -, heq⟩
  · exact heq.symm ▸ h
  · rw [heq]
    split_ifs
    · -- revocations take the place of decisions
      have hrevoked : Roomy { state with
          flowStates := insertAll state.flowStates (state.revocations ids f.controllerEpoch
            f.configRevision now)
          flowPending := insertAll state.flowPending (state.revocations ids f.controllerEpoch
            f.configRevision now)
          flowQueue := []
          flowQueued := ∅ } := by
        refine ⟨List.nodup_nil, Nat.zero_le _, ?_, h.contexts, h.retries⟩
        refine (length_le_of_lookup fun key hkey => ?_).trans h.decisions
        obtain ⟨f, hf⟩ := Option.isSome_iff_exists.1 hkey
        rcases lookup_foldl_insert_cases hf with ⟨row, hrow, rfl, -⟩ | hold
        · obtain ⟨old, hold, rfl⟩ := List.mem_map.1 hrow
          exact Option.isSome_iff_exists.2 ⟨_, (mem_select.1 hold).1⟩
        · exact Option.isSome_iff_exists.2 ⟨_, hold⟩
      exact { hrevoked.fill fill with }
    · exact { h with }

theorem Bounded.ownedBy (h : Bounded state) (bootId : String) : Bounded (state.ownedBy bootId) := by
  unfold GatewayState.ownedBy
  split_ifs
  · exact bounded_of_empty ⟨rfl, rfl⟩ (Nat.zero_le _) (Nat.zero_le _) (Nat.zero_le _)
  · exact { h with }

theorem bounded_latch (h : Bounded state) (ss : AgentSession) (bootId : String) (now : ℤ)
    (fill : Fill) : Bounded (state.latchAgentBoot ss bootId now fill).2 := by
  unfold latchAgentBoot
  dsimp only
  split
  · exact h
  · have hlatched : Bounded
        ({ (if (state.flowBootId != some bootId) = true then
            { state.clearFlowCommands with flowCapabilities := none } else state) with
          sessionBootId := some bootId, flowBootId := some bootId } : GatewayState) := by
      split_ifs
      · exact bounded_of_empty ⟨rfl, rfl⟩ (Nat.zero_le _) (Nat.zero_le _) (Nat.zero_le _)
      · exact { h with }
    split
    · refine Roomy.fill ?_ fill
      exact { hlatched with retries := Nat.zero_le _ }
    · exact hlatched

theorem Bounded.withContexts (h : Bounded state) {contexts : Rows String FlowEvaluationContext}
    (hle : contexts.entries.length ≤ flowCommandStateCapacity) :
    Bounded { state with flowEvaluationContexts := contexts } :=
  { h with contexts := hle }

theorem Bounded.retainContexts (h : Bounded state) (now : ℤ) : Bounded (state.retainContexts now) :=
  h.withContexts ((length_deleteWhere_le _ _).trans h.contexts)

theorem bounded_remember (h : Bounded state) (gen : ℕ) (bootId flowId : String) (protocol : ℕ)
    (req : Evaluator.PolicyPreviewRequest) (now : ℤ) :
    Bounded (state.rememberFlowContext gen bootId flowId protocol req now).2 := by
  unfold rememberFlowContext
  split
  · exact h
  · have hown : Bounded { state.ownedBy bootId with sessionBootId := some bootId } :=
      { h.ownedBy bootId with }
    generalize ({ state.ownedBy bootId with sessionBootId := some bootId } : GatewayState) = owned
      at hown
    have hretained := hown.retainContexts now
    dsimp only
    split_ifs
    · exact hretained
    · exact hretained.withContexts (length_insert_le hretained.contexts (by grind))
    · grind
    · exact hown.withContexts (length_insert_le hown.contexts (by grind))

theorem bounded_queue (h : Bounded state) (f : FlowCommand) (gen : Option ℕ) (fill : Fill) :
    Bounded (state.queueFlowCommandInner f gen fill).2 := by
  have hown := h.ownedBy f.bootId
  unfold queueFlowCommandInner
  split
  · exact h
  · split_ifs
    · exact h
    · exact h
    · exact h
    · dsimp only
      split_ifs with hcov hfu
      · exact hown
      · exact hown
      · refine Roomy.fill ?_ fill
        refine ⟨hown.nodup, hown.fits, ?_, hown.contexts, ?_⟩
        · simp only [Bool.and_eq_true, Option.isNone_iff_eq_none, decide_eq_true_eq, not_and_or,
            ← ne_eq, Option.ne_none_iff_isSome, not_le] at hfu
          exact length_insert_le hown.decisions hfu
        · exact (length_erase_le _ _).trans hown.retries

theorem Roomy.retryPartial (h : Roomy state) (now : ℤ) (key : String) :
    Roomy (state.retryPartial now key) := by
  have hretries := (length_erase_le state.flowPartialRetries key).trans h.retries
  unfold GatewayState.retryPartial
  split
  · exact h
  · dsimp only
    split <;> exact { h with retries := hretries }

theorem Roomy.retryInFlight (h : Roomy state) (id : String) : Roomy (state.retryInFlight id) := by
  unfold GatewayState.retryInFlight
  split
  · exact h
  · dsimp only
    split_ifs <;> exact { h with }

theorem bounded_retry (h : Bounded state) (ss : AgentSession) (clock : RetryClock) (fill : Fill) :
    Bounded (state.retryFlowCommands ss clock fill) := by
  unfold retryFlowCommands
  split
  · exact h
  · refine Roomy.fill (List.foldlRecOn _ _ (List.foldlRecOn _ _ (List.foldlRecOn _ _ h.toRoomy ?_)
      ?_) ?_) fill
    · exact fun _ h key _ => h.retryPartial _ key
    · exact fun _ h id _ => h.retryInFlight id
    · exact fun _ h _ _ => { h with }

theorem bounded_acknowledge (h : Bounded state) (ss : AgentSession) (ack : FlowAck)
    (wasActive : Bool) (instant now : ℤ) (fill : Fill) :
    Bounded (state.acknowledgeFlowCommand ss ack wasActive instant now fill).2 := by
  unfold acknowledgeFlowCommand
  split_ifs
  · exact h
  · split
    · exact h
    · next sent hsent =>
      have hretries : state.retriesPartial ack sent now = true → ∀ retry,
          (state.flowPartialRetries.insert sent.key retry).entries.length ≤
            flowCommandStateCapacity := by
        intro hretry retry
        refine length_insert_le h.retries ?_
        simp only [retriesPartial, Bool.and_eq_true, Bool.or_eq_true, decide_eq_true_eq] at hretry
        exact hretry.1.2.symm
      have hdecisions := (length_erase_le state.flowStates sent.key).trans h.decisions
      refine Roomy.fill ?_ fill
      dsimp only
      split_ifs with hcloses hpartial hpartial
      · exact { h with decisions := hdecisions, retries := hretries hpartial _ }
      · exact { h with decisions := hdecisions }
      · exact { h with retries := hretries hpartial _ }
      · exact { h with }

/-! ### Runs -/

variable (toolkit : Toolkit)

/-- **Every call keeps the bounds.** -/
theorem bounded_callState {hub : PolicyHub} {call : HubCall}
    (h : Bounded (hub.gatewayState call.gatewayId)) : Bounded (hub.callState toolkit call) := by
  unfold PolicyHub.callState
  cases call with
  | refresh => exact bounded_refresh h ..
  | register gw =>
    dsimp only
    split_ifs
    · exact h
    · exact bounded_of_empty ⟨rfl, rfl⟩ h.decisions h.contexts (Nat.zero_le _)
  | latch => exact bounded_latch h ..
  | refreshActive ss now =>
    dsimp only [refreshActiveFlowCommands]
    split
    · exact h
    · exact h.retainContexts now
  | capabilities ss rev caps now =>
    dsimp only [recordFlowCapabilities]
    split
    · exact h
    · split
      · exact h.retainContexts now
      · exact { h.retainContexts now with }
  | remember =>
    dsimp only
    split_ifs
    · exact h
    · exact bounded_remember h ..
  | forget => exact h.withContexts ((length_erase_le _ _).trans h.contexts)
  | queue => exact bounded_queue h ..
  | take ss rev bootId fill refill =>
    dsimp only [takeFlowCommand]
    split
    · exact h
    · split
      · exact h
      · exact bounded_takeLoop (h.toRoomy.fill fill)
  | sent =>
    dsimp only [markFlowCommandSent]
    split
    · exact h
    · exact { h with }
  | unsent ss f fill =>
    dsimp only [requeueUnsentFlowCommand]
    split_ifs
    · exact h
    · exact h
    · refine Roomy.fill ?_ fill
      exact { h with }
  | retry => exact bounded_retry h ..
  | acknowledge => exact bounded_acknowledge h ..
  | unregister =>
    dsimp only [GatewayState.unregister]
    split
    · exact { h with }
    · exact h

/-- **The hub stays within its bounds.** Whatever calls are made for whatever gateways, in any order,
the delivery queue of each gateway is a duplicate-free list of at most 64 pending keys that agrees with
the set kept beside it, and at most 16384 decisions, contexts and delayed retries are held for it. -/
theorem hub_stays_bounded (controllerEpoch : String) (calls : List HubCall) (gatewayId : String) :
    Bounded (((PolicyHub.new controllerEpoch).run toolkit calls).gatewayState gatewayId) := by
  refine PolicyHub.run_keeps toolkit _ calls (fun _ => ?_) (fun _ _ => bounded_callState toolkit)
    gatewayId
  exact bounded_of_empty ⟨rfl, rfl⟩ (Nat.zero_le _) (Nat.zero_le _) (Nat.zero_le _)

end Netqmon.Collector.Policy.Capacity
