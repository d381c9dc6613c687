import Netqmon.Collector.Policy.Admission
import Netqmon.Collector.Policy.FlowStates

/-! # Only the latest decision is sent

A pending command is always the one that the hub keeps as the decision for its flow. The reason is that a
command is in one place at a time: it is pending, in the hand of the session that took it, in flight, or
waiting for a retry (`Orderly`). A command that has been forgotten is in none of them. -/

namespace Netqmon.Collector.Policy.Decisions

open Lib.Keyed Protocol.Policy FlowStates Hub Hub.GatewayState
open Compiler (Toolkit)
open Validation (sampleEpoch)
open Admission (sampleToolkit)

/-! ### Where commands are -/

/-- A command is known by its id. -/
def Unique (issued : List FlowCommand) : Prop :=
  ∀ a ∈ issued, ∀ b ∈ issued, a.commandId = b.commandId → a = b

/-- No command with this id is waiting for an acknowledgement or for a retry. -/
structure Idle (state : GatewayState) (commandId : String) : Prop where
  inFlight : state.flowInFlight.lookup commandId = none
  delayed : ∀ key retry, state.flowPartialRetries.lookup key = some retry →
    retry.commandId ≠ commandId

variable {commandId : String}

@[grind =] theorem idle_iff {state : GatewayState} :
    Idle state commandId ↔ state.flowInFlight.lookup commandId = none ∧
      ∀ key retry, state.flowPartialRetries.lookup key = some retry → retry.commandId ≠ commandId :=
  ⟨fun h => ⟨h.inFlight, h.delayed⟩, fun h => ⟨h.1, h.2⟩⟩

/-- The places of the commands that a gateway has been issued. The active session holds those in
`held`. -/
structure Orderly (issued : List FlowCommand) (held : FlowCommand → Prop) (state : GatewayState) :
    Prop where
  latest : ∀ key frame, state.flowPending.lookup key = some frame →
    state.flowStates.lookup key = some frame
  keyed : ∀ key frame, state.flowStates.lookup key = some frame → keyOf frame = key
  known : ∀ key frame, state.flowStates.lookup key = some frame → frame ∈ issued
  sent : ∀ id command, state.flowInFlight.lookup id = some command → command.frame ∈ issued ∧
    command.frame.commandId = id ∧ command.key = keyOf command.frame
  delayed : ∀ key retry, state.flowPartialRetries.lookup key = some retry →
    ∃ frame ∈ issued, frame.commandId = retry.commandId ∧ keyOf frame = key
  hand : ∀ frame, held frame → frame ∈ issued
  pendingIdle : ∀ key frame, state.flowPending.lookup key = some frame →
    Idle state frame.commandId ∧ ¬ held frame
  heldIdle : ∀ frame, held frame → Idle state frame.commandId
  delayedIdle : ∀ key retry, state.flowPartialRetries.lookup key = some retry →
    state.flowInFlight.lookup retry.commandId = none

attribute [grind cases] Orderly

variable {frame : FlowCommand} {commandIds : String → String} {session : AgentSession}

namespace Orderly

variable {issued issued' : List FlowCommand} {held held' : FlowCommand → Prop}
  {state state' : GatewayState}

theorem new : Orderly issued (fun _ => False) .new := by
  constructor <;> simp [GatewayState.new]

section

variable (h : Orderly issued held state)
include h

theorem mono (hissued : issued ⊆ issued') : Orderly issued' held state := by
  constructor <;> grind

theorem release (hh : ∀ frame, held' frame → held frame) : Orderly issued held' state := by
  constructor <;> grind

theorem congr (hp : state'.flowPending = state.flowPending)
    (hsts : state'.flowStates = state.flowStates) (hfly : state'.flowInFlight = state.flowInFlight)
    (hretries : state'.flowPartialRetries = state.flowPartialRetries) :
    Orderly issued held state' := by
  constructor <;> grind

/-! ### Losing commands -/

/-- Every table may lose entries, the decisions only those that are not pending any more. -/
theorem shrink (hp : ∀ key frame, state'.flowPending.lookup key = some frame →
      state.flowPending.lookup key = some frame ∧ state'.flowStates.lookup key = some frame)
    (hsts : ∀ key frame, state'.flowStates.lookup key = some frame →
      state.flowStates.lookup key = some frame)
    (hfly : ∀ id command, state'.flowInFlight.lookup id = some command →
      state.flowInFlight.lookup id = some command)
    (hretries : ∀ key retry, state'.flowPartialRetries.lookup key = some retry →
      state.flowPartialRetries.lookup key = some retry) : Orderly issued held state' := by
  have hn : ∀ id, state.flowInFlight.lookup id = none →
      state'.flowInFlight.lookup id = none := by
    intro id hid
    cases hcmd : state'.flowInFlight.lookup id with
    | none => rfl
    | some command => rw [hfly id command hcmd] at hid; cases hid
  constructor <;> grind

theorem fill (fill : Fill) : Orderly issued held (state.fillFlowQueue fill) := by
  have hp : (state.fillFlowQueue fill).flowPending =
      deleteWhere (fun _ frame => !state.isSendable fill.now frame) state.flowPending := rfl
  have hsts : (state.fillFlowQueue fill).flowStates =
      deleteWhere (fun _ frame => frame.expiresAtMs ≤ fill.now) state.flowStates := rfl
  refine h.shrink (fun key frame hf => ?_) (fun key frame hf => ?_)
    (fun _ _ hcmd => hcmd) (fun _ _ hretry => hretry)
  · rw [hp, lookup_deleteWhere, Option.filter_eq_some_iff] at hf
    refine ⟨hf.1, ?_⟩
    rw [hsts, lookup_deleteWhere, h.latest key frame hf.1]
    have hsendable : fill.now < frame.expiresAtMs := by
      have h := hf.2
      simp only [isSendable, Bool.not_not, Bool.and_eq_true, decide_eq_true_eq] at h
      exact h.1
    simp [hsendable]
  · grind [Option.filter_eq_some_iff]

theorem clearFlowDelivery : Orderly issued held state.clearFlowDelivery := by
  refine h.shrink ?_ ?_ ?_ ?_ <;> simp [GatewayState.clearFlowDelivery]

theorem clearFlowCommands : Orderly issued held state.clearFlowCommands := by
  refine h.clearFlowDelivery.shrink ?_ ?_ ?_ ?_ <;>
    simp [GatewayState.clearFlowCommands, GatewayState.clearFlowDelivery]

theorem ownedBy (bootId : String) : Orderly issued held (state.ownedBy bootId) := by
  unfold GatewayState.ownedBy
  split_ifs
  · exact h.clearFlowCommands.congr rfl rfl rfl rfl
  · exact h.congr rfl rfl rfl rfl

/-! ### Moving commands -/

/-- A command with an id that is not known yet is nowhere. -/
theorem idle_of_fresh (hfr : ∀ frame ∈ issued, frame.commandId ≠ commandId) :
    Idle state commandId := by
  constructor
  · by_contra hs
    obtain ⟨command, hcmd⟩ := Option.ne_none_iff_exists'.1 hs
    grind
  · grind

/-- New decisions become pending. Each has an id of its own and replaces what was there for its
flow. -/
theorem store {rows : List (String × FlowCommand)} (hnd : (rows.map Prod.fst).Nodup)
    (hks : ∀ row ∈ rows, keyOf row.2 = row.1)
    (hfr : ∀ row ∈ rows, ∀ frame ∈ issued, frame.commandId ≠ row.2.commandId)
    (hsts : state'.flowStates = insertAll state.flowStates rows)
    (hp : state'.flowPending = insertAll state.flowPending rows)
    (hfly : state'.flowInFlight = state.flowInFlight)
    (hretries : ∀ key retry, state'.flowPartialRetries.lookup key = some retry →
      state.flowPartialRetries.lookup key = some retry) :
    Orderly (rows.map Prod.snd ++ issued) held state' := by
  have hrow := @lookup_insertAll _ _ _ state.flowPending rows hnd
  have hdecided := @lookup_insertAll _ _ _ state.flowStates rows hnd
  constructor <;> grind [h.idle_of_fresh]

variable {key : String}

/-- A decision that is idle and in no hand becomes pending again. -/
theorem resume (hlat : state.flowStates.lookup key = some frame)
    (hid : Idle state frame.commandId) (hh : ¬ held frame) :
    Orderly issued held { state with flowPending := state.flowPending.insert key frame } := by
  constructor <;> grind

/-! ### The calls -/

omit h in
theorem requeueFlowStates (h : Orderly issued (fun _ => False) state) (now : ℤ) (fill : Fill) :
    Orderly issued (fun _ => False) (state.requeueFlowStates now fill) := by
  refine Orderly.fill ?_ fill
  have hrow := @lookup_insertAll _ _ _ state.flowPending _ (nodup_keys_select
    (fun _ frame => decide (now < frame.expiresAtMs)) state.flowStates)
  constructor <;> grind [AList.lookup_empty]

theorem storeCommand (hkey : keyOf frame = key)
    (hfr : ∀ other ∈ issued, other.commandId ≠ frame.commandId) :
    Orderly (frame :: issued) held (state.storeCommand key frame) := by
  refine @store _ _ _ _ h [(key, frame)] (by simp) (by simp [hkey]) (by simpa) rfl rfl rfl ?_
  simp only [GatewayState.storeCommand]
  grind

theorem revokeActiveFlowStates (hfr : ∀ key, ∀ frame ∈ issued, frame.commandId ≠ commandIds key)
    (epoch : String) (rev : ℕ) (now : ℤ) (fill : Fill) :
    Orderly ((state.revocations commandIds epoch rev now).map Prod.snd ++ issued) held
      (state.revokeActiveFlowStates commandIds epoch rev now fill) := by
  refine Orderly.fill ?_ fill
  refine h.store (nodup_revocations ..) ?_ ?_ rfl rfl rfl fun _ _ hretry => hretry
  · intro row hrow
    obtain ⟨⟨key, frame⟩, hf, rfl⟩ := List.mem_map.1 hrow
    exact h.keyed key frame (mem_select.1 hf).1
  · intro row hrow
    obtain ⟨⟨key, frame⟩, hf, rfl⟩ := List.mem_map.1 hrow
    exact hfr key

end

theorem takeLoop {rev : ℕ} {bootId : String} {fill : Fill} :
    ∀ {rounds : ℕ} {state : GatewayState}, Orderly issued held state →
      Orderly issued (fun frame => held frame ∨
        (GatewayState.takeLoop rev bootId fill rounds state).1 = some frame)
          (GatewayState.takeLoop rev bootId fill rounds state).2
  | 0, state, h => h.release fun frame hf => hf.resolve_right (by simp [GatewayState.takeLoop])
  | rounds + 1, state, h => by
    unfold GatewayState.takeLoop
    cases hq : state.flowQueue with
    | nil => exact h.release fun frame hf => hf.resolve_right (by simp)
    | cons key rest =>
      dsimp only
      cases hf : state.flowPending.lookup key with
      | none => exact takeLoop (h.congr rfl rfl rfl rfl)
      | some frame =>
        have hremoved : Orderly issued (fun other => held other ∨ other = frame) { state with
            flowQueue := rest
            flowQueued := state.flowQueued.erase key
            flowPending := state.flowPending.erase key } := by
          constructor <;> grind
        dsimp only
        split_ifs
        · -- the command is put back, so nothing has moved
          refine takeLoop (h.shrink (fun other frame' hframe' => ?_) ?_ ?_ ?_) <;> grind
        · exact takeLoop (hremoved.release fun _ => Or.inl)
        · grind [Orderly.fill]

theorem takeFlowCommand (h : Orderly issued held state) (session : AgentSession) (rev : ℕ)
    (bootId : Option String) (fill refill : Fill) :
    Orderly issued (fun frame => held frame ∨
      (state.takeFlowCommand session rev bootId fill refill).1 = some frame)
        (state.takeFlowCommand session rev bootId fill refill).2 := by
  unfold GatewayState.takeFlowCommand
  cases bootId with
  | none => exact h.release fun frame hf => hf.resolve_right (by simp)
  | some bootId =>
    dsimp only
    split
    · grind
    · exact takeLoop (h.fill fill)

theorem isLatest_iff : state.isLatest key commandId = true ↔
    ∃ frame, state.flowStates.lookup key = some frame ∧ frame.commandId = commandId := by
  unfold isLatest
  cases state.flowStates.lookup key <;> simp

section

variable (h : Orderly issued held state)
include h

/-- A known command that is still the latest for its flow is the one that is kept for it. -/
theorem lookup_of_isLatest (hu : Unique issued)
    (hf : frame ∈ issued) (hlat : state.isLatest key frame.commandId = true) :
    state.flowStates.lookup key = some frame := by
  obtain ⟨cur, hcur, hid⟩ := isLatest_iff.1 hlat
  rw [hcur, hu cur (h.known key cur hcur) frame hf hid]

/-- A command that its session gives back is dropped or pending again. -/
theorem requeueUnsent (hu : Unique issued)
    (hh : held frame) (session : AgentSession) (fill : Fill) :
    Orderly issued (fun other => held other ∧ other ≠ frame)
      (state.requeueUnsentFlowCommand session frame fill) := by
  have hr : Orderly issued (fun other => held other ∧ other ≠ frame) state :=
    h.release fun _ => And.left
  unfold requeueUnsentFlowCommand
  split
  · exact hr
  · split
    · exact hr
    · rename_i hlat
      rw [Bool.not_eq_true', Bool.not_eq_false] at hlat
      refine Orderly.fill ?_ fill
      exact (hr.resume (h.lookup_of_isLatest hu (h.hand frame hh) hlat)
        (h.heldIdle frame hh) fun hboth => hboth.2 rfl).congr rfl rfl rfl rfl

/-! ### Retries -/

theorem retryPartial (hu : Unique issued) (now : ℤ)
    (key : String) : Orderly issued held (state.retryPartial now key) := by
  unfold GatewayState.retryPartial
  cases hretry : state.flowPartialRetries.lookup key with
  | none => exact h
  | some retry =>
    dsimp only
    -- without the retry its command is idle
    have hremoved : ∀ attempts, Orderly issued held { state with
        flowPartialRetries := state.flowPartialRetries.erase key, flowAttempts := attempts } := by
      intro attempts
      refine h.shrink ?_ ?_ ?_ ?_ <;> grind
    cases hf : (state.flowStates.lookup key).filter fun frame =>
        frame.commandId == retry.commandId && now < frame.expiresAtMs with
    | none => exact hremoved _
    | some frame =>
      obtain ⟨hlat, hmatch⟩ := Option.filter_eq_some_iff.1 hf
      have hid : Idle { state with flowPartialRetries := state.flowPartialRetries.erase key }
          frame.commandId := by grind [Unique]
      have hfree : ¬ held frame := by grind
      exact ((hremoved state.flowAttempts).resume hlat hid hfree).congr rfl rfl rfl rfl

theorem land (commandId : String) (attempts : Rows String ℕ) :
    Orderly issued held { state with
      flowInFlight := state.flowInFlight.erase commandId, flowAttempts := attempts } := by
  refine h.shrink ?_ ?_ ?_ ?_ <;> grind

theorem inFlight_apart {id : String} {command : InFlightFlowCommand}
    (hcmd : state.flowInFlight.lookup id = some command) :
    (∀ key frame, state.flowPending.lookup key = some frame → frame.commandId ≠ id) ∧
      (∀ frame, held frame → frame.commandId ≠ id) ∧
        ∀ key retry, state.flowPartialRetries.lookup key = some retry → retry.commandId ≠ id := by
  grind

theorem retryInFlight (hu : Unique issued) (id : String) :
    Orderly issued held (state.retryInFlight id) := by
  unfold GatewayState.retryInFlight
  cases hcmd : state.flowInFlight.lookup id with
  | none => exact h
  | some command =>
    dsimp only
    split
    · rename_i hlat
      obtain ⟨hissued, hid, hkey⟩ := h.sent id command hcmd
      obtain ⟨-, hh, hdelayed⟩ := h.inFlight_apart hcmd
      refine ((h.land id state.flowAttempts).resume
        (h.lookup_of_isLatest hu hissued (hid.symm ▸ hlat)) ⟨?_, ?_⟩
        fun hf => hh _ hf hid).congr rfl rfl rfl rfl
      · grind
      · rw [hid]
        exact hdelayed
    · exact h.land id _

theorem retryFlowCommands (hu : Unique issued)
    (session : AgentSession) (clock : RetryClock) (fill : Fill) :
    Orderly issued held (state.retryFlowCommands session clock fill) := by
  unfold GatewayState.retryFlowCommands
  split
  · exact h
  · refine Orderly.fill (List.foldlRecOn _ _ (List.foldlRecOn _ _ (List.foldlRecOn _ _ h ?_) ?_) ?_)
      fill
    · exact fun _ h _ _ => h.retryPartial hu _ _
    · exact fun _ h _ _ => h.retryInFlight hu _
    · exact fun _ h _ _ => h.land _ _

/-! ### Acknowledgements -/

/-- The command that was in flight waits for a retry. -/
theorem delayRetry {id : String} {sent : InFlightFlowCommand}
    (hsent : state.flowInFlight.lookup id = some sent) (instant : ℤ) :
    Orderly issued held (GatewayState.delayRetry
      { state with flowInFlight := state.flowInFlight.erase id } sent.key id instant) := by
  constructor <;> grind [GatewayState.delayRetry]

theorem forget (hp : state.flowPending.lookup key = none) :
    Orderly issued held { state with flowStates := state.flowStates.erase key } := by
  refine h.shrink ?_ ?_ ?_ ?_ <;> grind

theorem acknowledgeFlowCommand (session : AgentSession)
    (ack : FlowAck) (wasActive : Bool) (instant now : ℤ) (fill : Fill) :
    Orderly issued held
      (state.acknowledgeFlowCommand session ack wasActive instant now fill).2 := by
  unfold GatewayState.acknowledgeFlowCommand
  split
  · exact h
  · cases hfd : (state.flowInFlight.lookup ack.commandId).filter (ackMatches ack) with
    | none => exact h
    | some sent =>
      obtain ⟨hsent, -⟩ := Option.filter_eq_some_iff.1 hfd
      -- a revocation in flight is not pending, and nothing else can be
      have hn : state.closesRevocation ack sent = true →
          state.flowPending.lookup sent.key = none := by
        intro hcloses
        by_contra hs
        obtain ⟨frame, hf⟩ := Option.ne_none_iff_exists'.1 hs
        simp only [closesRevocation, Bool.and_eq_true] at hcloses
        obtain ⟨cur, hcur, hid⟩ := isLatest_iff.1 hcloses.2
        rw [h.latest _ _ hf] at hcur
        cases hcur
        exact (h.inFlight_apart hsent).1 _ _ hf hid
      have hdelayed := h.delayRetry hsent instant
      have hlanded := h.land ack.commandId (state.flowAttempts.erase ack.commandId)
      refine Orderly.fill ?_ fill
      split_ifs with hcloses
      exacts [hdelayed.forget (hn hcloses), hlanded.forget (hn hcloses), hdelayed, hlanded]

end

end Orderly

/-! ### Runs -/

/-- A hub with what its sessions have in their hands, and the command ids that have been drawn. -/
structure World where
  hub : PolicyHub
  drawn : List String
  hands : List (AgentSession × FlowCommand)

def World.start (controllerEpoch : String) : World := ⟨.new controllerEpoch, [], []⟩

variable {fill : Fill}

variable {now : ℤ}

section Runs

variable (toolkit : Toolkit)

/-- The command that a call hands over. -/
def taken (hub : PolicyHub) : HubCall → Option FlowCommand
  | .take session revision bootId fill refill =>
    ((hub.gatewayState session.gatewayId).takeFlowCommand session revision bootId fill refill).1
  | _ => none

/-- The command ids that are drawn for a call. -/
def draws (hub : PolicyHub) : HubCall → List String
  | .refresh read _ commandIds _ => (hub.gatewayState read.gatewayId).flowStates.keys.map commandIds
  | .queue frame _ _ => [frame.commandId]
  | _ => []

def World.step (w : World) (call : HubCall) : World where
  hub := w.hub.step toolkit call
  drawn := draws w.hub call ++ w.drawn
  hands :=
    match call with
    | .take session .. => ((taken w.hub call).map (session, ·)).toList ++ w.hands
    | .sent session frame _ | .unsent session frame _ => w.hands.erase (session, frame)
    | _ => w.hands

variable (w : World)

/-- The calls as the sessions make them: command ids are never drawn twice; a session that is registered
holds nothing yet; a session sends or gives back what it holds, and does not latch a boot before it has
done so. -/
def Admissible : HubCall → Prop
  | .refresh _ _ commandIds _ => Function.Injective commandIds ∧ ∀ key, commandIds key ∉ w.drawn
  | .queue frame _ _ => frame.commandId ∉ w.drawn
  | .register gatewayId => ∀ hand ∈ w.hands, hand.1 ≠ ⟨gatewayId, w.hub.nextSessionId⟩
  | .latch session .. => ∀ hand ∈ w.hands, hand.1 ≠ session
  | .sent session frame _ | .unsent session frame _ => (session, frame) ∈ w.hands
  | _ => True

def AdmissibleRun : World → List HubCall → Prop
  | _, [] => True
  | w, call :: calls => Admissible w call ∧ AdmissibleRun (w.step toolkit call) calls

def World.run (calls : List HubCall) : World := calls.foldl (World.step toolkit) w

/-- What the active session of a gateway holds. -/
def World.held (gatewayId : String) (frame : FlowCommand) : Prop :=
  ∃ session, (session, frame) ∈ w.hands ∧ session.gatewayId = gatewayId ∧
    (w.hub.gatewayState gatewayId).isActive session = true

/-- The invariant of the runs. -/
def Sound : Prop :=
  w.hands.Nodup ∧ ∃ issued, Unique issued ∧ (∀ frame ∈ issued, frame.commandId ∈ w.drawn) ∧
    ∀ gatewayId, Orderly issued (w.held gatewayId) (w.hub.gatewayState gatewayId)

theorem sound_start (epoch : String) : Sound (.start epoch) := by
  refine ⟨List.nodup_nil, [], by simp [Unique], by simp, fun gatewayId => ?_⟩
  exact Orderly.new.release fun frame ⟨session, hmem, _⟩ => by simp [World.start] at hmem

/-! ### One call -/

variable {issued : List FlowCommand} {held : FlowCommand → Prop} {state : GatewayState}

theorem Unique.append {stored : List FlowCommand} {drawn : List String} (h : Unique issued)
    (hdr : ∀ frame ∈ issued, frame.commandId ∈ drawn) (hsto : Unique stored)
    (hfr : ∀ frame ∈ stored, frame.commandId ∉ drawn) : Unique (stored ++ issued) := by
  intro a ha b hb heq
  rcases List.mem_append.1 ha with ha | ha <;> rcases List.mem_append.1 hb with hb | hb
  · exact hsto a ha b hb heq
  · exact absurd (heq ▸ hdr b hb) (hfr a ha)
  · exact absurd (heq ▸ hdr a ha) (hfr b hb)
  · exact h a ha b hb heq

theorem reissue_commandId (prev : Option FlowCommand) (frame : FlowCommand) :
    (reissue prev frame).commandId = frame.commandId := by
  cases prev <;> rfl

/-- Latching a boot sends everything again, so that nothing may be in the hand of the session. -/
theorem orderly_latch (h : Orderly issued held state)
    (hfree : state.isActive session = true → ∀ frame, ¬ held frame) (bootId : String) :
    Orderly issued held (state.latchAgentBoot session bootId now fill).2 := by
  unfold latchAgentBoot
  dsimp only
  split
  · exact h
  · rename_i hact
    have hn : ∀ frame, held frame → False := hfree (by simpa using hact)
    have hem : Orderly issued (fun _ => False) state := h.release fun _ hf => hf.elim
    refine Orderly.release ?_ hn
    have hlat : Orderly issued (fun _ => False)
        ({ (if (state.flowBootId != some bootId) = true then
            { state.clearFlowCommands with flowCapabilities := none } else state) with
          sessionBootId := some bootId, flowBootId := some bootId } : GatewayState) := by
      split_ifs
      · exact hem.clearFlowCommands.congr rfl rfl rfl rfl
      · exact hem.congr rfl rfl rfl rfl
    split
    · exact hlat.requeueFlowStates now fill
    · exact hlat

theorem unique_revocations (hinj : commandIds.Injective) (epoch : String) (rev : ℕ) :
    Unique ((state.revocations commandIds epoch rev now).map Prod.snd) := by
  intro a ha b hb heq
  obtain ⟨rowa, hrowa, rfl⟩ := List.mem_map.1 ha
  obtain ⟨rowb, hrowb, rfl⟩ := List.mem_map.1 hb
  obtain ⟨olda, holda, -, ha⟩ := mem_revocations hrowa
  obtain ⟨oldb, holdb, -, hb⟩ := mem_revocations hrowb
  rw [ha, hb] at heq ⊢
  have hkey : rowa.1 = rowb.1 := hinj heq
  rw [hkey, holdb] at holda
  cases holda
  rw [hkey]

theorem takeLoop_some {rev : ℕ} {bootId : String} {fill : Fill} {frame : FlowCommand} :
    ∀ {rounds : ℕ} {state : GatewayState},
      (GatewayState.takeLoop rev bootId fill rounds state).1 = some frame →
        (∃ key, state.flowPending.lookup key = some frame) ∧ frame.configRevision = rev ∧
          frame.bootId = bootId
  | 0, state, h => by simp [GatewayState.takeLoop] at h
  | rounds + 1, state, h => by
    -- a frame of another rev goes back, one of another boot goes
    unfold GatewayState.takeLoop at h
    have ih := @takeLoop_some rev bootId fill frame rounds
    grind

/-- **What is taken.** Only the active session gets a command; it was pending and has not expired, and
it carries the revision and the boot that were asked for. -/
theorem takeFlowCommand_some {rev : ℕ} {bootId : Option String} {refill : Fill}
    (h : (state.takeFlowCommand session rev bootId fill refill).1 = some frame) :
    state.isActive session = true ∧ (∃ key, state.flowPending.lookup key = some frame) ∧
      fill.now < frame.expiresAtMs ∧ frame.configRevision = rev ∧
        bootId = some frame.bootId := by
  unfold takeFlowCommand at h
  cases bootId with
  | none => simp at h
  | some bootId =>
    dsimp only at h
    split at h
    · simp at h
    · obtain ⟨⟨key, hkey⟩, hrev, hbt⟩ := takeLoop_some h
      have hp : (state.fillFlowQueue fill).flowPending =
          deleteWhere (fun _ frame => !state.isSendable fill.now frame) state.flowPending := rfl
      rw [hp, lookup_deleteWhere, Option.filter_eq_some_iff, Bool.not_not, isSendable,
        Bool.and_eq_true] at hkey
      grind

/-! ### The invariant -/

variable {toolkit} {w : World} {call : HubCall} {gatewayId : String}

theorem gatewayState_step : (w.step toolkit call).hub.gatewayState gatewayId =
    if gatewayId = call.gatewayId then w.hub.callState toolkit call
    else w.hub.gatewayState gatewayId := w.hub.gatewayState_step toolkit call gatewayId

theorem gatewayState_call :
    (w.step toolkit call).hub.gatewayState call.gatewayId = w.hub.callState toolkit call := by
  rw [gatewayState_step, if_pos rfl]

theorem mem_hands_step {hand : AgentSession × FlowCommand}
    (h : hand ∈ (w.step toolkit call).hands) :
    hand ∈ w.hands ∨ taken w.hub call = some hand.2 ∧ hand.1.gatewayId = call.gatewayId := by
  cases call with
  | take session rev bootId fill refill =>
    rcases List.mem_append.1 h with h | h
    · rw [Option.mem_toList, Option.map_eq_some_iff] at h
      obtain ⟨frame, htaken, rfl⟩ := h
      exact .inr ⟨htaken, rfl⟩
    · exact .inl h
  | sent => exact .inl (List.mem_of_mem_erase h)
  | unsent => exact .inl (List.mem_of_mem_erase h)
  | _ => exact .inl h

theorem held_step_of_ne (hne : gatewayId ≠ call.gatewayId)
    (h : (w.step toolkit call).held gatewayId frame) : w.held gatewayId frame := by
  obtain ⟨session, hmem, rfl, hact⟩ := h
  rw [gatewayState_step, if_neg hne] at hact
  refine ⟨session, ?_, rfl, hact⟩
  exact (mem_hands_step hmem).resolve_right fun htaken => hne htaken.2

/-- As long as the session stays the same, it holds what it held and what it takes. -/
theorem held_step {w : World} {call : HubCall} {frame : FlowCommand}
    (hs : (w.hub.callState toolkit call).session =
      (w.hub.gatewayState call.gatewayId).session)
    (h : (w.step toolkit call).held call.gatewayId frame) :
    w.held call.gatewayId frame ∨ taken w.hub call = some frame := by
  obtain ⟨session, hmem, hgw, hact⟩ := h
  rw [gatewayState_call, isActive, hs] at hact
  exact (mem_hands_step hmem).imp (fun hmem => ⟨session, hmem, hgw, hact⟩) And.left

/-- It is enough to look at the gateway of the call, and at what is stored there. -/
theorem Sound.of_call (hu : Unique issued) (hdr : ∀ frame ∈ issued, frame.commandId ∈ w.drawn)
    (hord : ∀ gatewayId, Orderly issued (w.held gatewayId) (w.hub.gatewayState gatewayId))
    (hnd : (w.step toolkit call).hands.Nodup) (stored : List FlowCommand)
    (hsto : Unique stored) (hdraws : ∀ frame ∈ stored, frame.commandId ∈ draws w.hub call)
    (hfr : ∀ frame ∈ stored, frame.commandId ∉ w.drawn)
    (hc : Orderly (stored ++ issued) ((w.step toolkit call).held call.gatewayId)
      (w.hub.callState toolkit call)) :
    Sound (w.step toolkit call) := by
  refine ⟨hnd, stored ++ issued, hu.append hdr hsto hfr, fun frame hf => ?_,
    fun gatewayId => ?_⟩
  · rcases List.mem_append.1 hf with hf | hf
    · exact List.mem_append_left _ (hdraws frame hf)
    · exact List.mem_append_right _ (hdr frame hf)
  · rw [gatewayState_step]
    split_ifs with hgw
    · subst hgw
      exact hc
    · exact ((hord gatewayId).mono (List.subset_append_right _ _)).release
        fun frame => held_step_of_ne hgw

def keepsSession : HubCall → Bool
  | .refresh .. | .register _ | .unregister _ => false
  | _ => true

theorem session_callState (h : keepsSession call) :
    (w.hub.callState toolkit call).session = (w.hub.gatewayState call.gatewayId).session :=
  congrArg Frame.session (w.hub.frame_callState toolkit (by rintro _ _ _ _ rfl; cases h)
    (by rintro _ rfl; cases h) (by rintro _ rfl; cases h))

section

variable (h : Sound w)
include h

theorem Sound.of_quiet (hnd : (w.step toolkit call).hands.Nodup) (hc : ∀ issued, Unique issued →
      (∀ gatewayId, Orderly issued (w.held gatewayId) (w.hub.gatewayState gatewayId)) →
        Orderly issued ((w.step toolkit call).held call.gatewayId)
          (w.hub.callState toolkit call)) : Sound (w.step toolkit call) := by
  obtain ⟨-, issued, hu, hdr, hord⟩ := h
  exact .of_call hu hdr hord hnd [] (by simp [Unique]) (by simp) (by simp)
    (hc issued hu hord)

theorem Sound.of_kept (hhands : (w.step toolkit call).hands = w.hands)
    (htaken : taken w.hub call = none) (hs : (w.hub.callState toolkit call).session =
      (w.hub.gatewayState call.gatewayId).session) (hc : ∀ issued held, Unique issued →
      Orderly issued held (w.hub.gatewayState call.gatewayId) →
        Orderly issued held (w.hub.callState toolkit call)) : Sound (w.step toolkit call) := by
  refine h.of_quiet (hhands ▸ h.1) fun issued hu hord => ?_
  refine (hc issued _ hu (hord call.gatewayId)).release fun frame hf => ?_
  refine (held_step hs hf).resolve_right ?_
  rw [htaken]
  simp

theorem Sound.refresh {read : SnapshotRead} {force : Bool} {fill : Fill}
    (hc : Admissible w (.refresh read force commandIds fill)) :
    Sound (w.step toolkit (.refresh read force commandIds fill)) := by
  obtain ⟨hinj, hnew⟩ := hc
  rcases (w.hub.gatewayState read.gatewayId).refreshGateway_cases toolkit read.gatewayId
    w.hub.controllerEpoch read.now read.revision read.policies force commandIds fill with
    heq | ⟨-, bundle, -, heq⟩
  · exact h.of_kept rfl rfl (congrArg GatewayState.session heq) fun _ _ _ hord =>
      (congrArg (Orderly _ _) heq).mpr hord
  split_ifs at heq
  · obtain ⟨hnd, issued, hu, hdr, hord⟩ := h
    have hfr : ∀ key, ∀ frame ∈ issued, frame.commandId ≠ commandIds key :=
      fun key frame hf heq => hnew key (heq ▸ hdr frame hf)
    have hid : ∀ frame ∈ ((w.hub.gatewayState read.gatewayId).revocations commandIds
        bundle.controllerEpoch bundle.configRevision read.now).map Prod.snd,
          ∃ key ∈ (w.hub.gatewayState read.gatewayId).flowStates.keys,
            frame.commandId = commandIds key := by
      intro frame hf
      obtain ⟨row, hrow, rfl⟩ := List.mem_map.1 hf
      obtain ⟨old, hold, -, heq⟩ := mem_revocations hrow
      refine ⟨row.1, AList.mem_keys.1 (AList.lookup_isSome.1 (by rw [hold]; rfl)), ?_⟩
      rw [heq]
      rfl
    refine .of_call hu hdr hord hnd _ (unique_revocations hinj _ _)
      (fun frame hf => ?_) (fun frame hf => ?_) (Orderly.release
        ((congrArg (Orderly _ _) heq).mpr (((hord read.gatewayId).revokeActiveFlowStates hfr
          bundle.controllerEpoch bundle.configRevision read.now fill).congr rfl rfl rfl rfl))
        fun frame hf => ?_)
    · obtain ⟨key, hkey, heq⟩ := hid frame hf
      exact List.mem_map.2 ⟨key, hkey, heq.symm⟩
    · grind
    · exact (@held_step toolkit w (.refresh read force commandIds fill) frame
        ((congrArg GatewayState.session heq).trans rfl) hf).resolve_right nofun
  · refine h.of_kept rfl rfl ((congrArg GatewayState.session heq).trans rfl) ?_
    exact fun _ _ _ hord => (congrArg (Orderly _ _) heq).mpr (hord.congr rfl rfl rfl rfl)

theorem Sound.queue {gen : Option ℕ} (hc : Admissible w (.queue frame gen fill)) :
    Sound (w.step toolkit (.queue frame gen fill)) := by
  rcases (w.hub.gatewayState frame.gatewayId).queueFlowCommandInner_cases frame gen fill with
    heq | heq | ⟨-, -, -, -, -, heq⟩
  · exact h.of_kept rfl rfl (session_callState rfl) fun _ _ _ hord =>
      (congrArg (Orderly _ _) heq).mpr hord
  · exact h.of_kept rfl rfl (session_callState rfl) fun _ _ _ hord =>
      (congrArg (Orderly _ _) heq).mpr (hord.ownedBy _)
  obtain ⟨hnd, issued, hu, hdr, hord⟩ := h
  have hid := reissue_commandId (((w.hub.gatewayState frame.gatewayId).ownedBy
    frame.bootId).flowStates.lookup (keyOf frame)) frame
  refine .of_call hu hdr hord hnd [_] (by simp [Unique])
    (fun other ho => ?_) (fun other ho => ?_) (Orderly.release
      ((congrArg (Orderly _ _) heq).mpr (Orderly.fill (((hord frame.gatewayId).ownedBy
        frame.bootId).storeCommand (keyOf_reissue) fun other ho => ?_) fill))
      fun other ho => ?_)
  · rw [List.mem_singleton.1 ho, hid]
    exact List.mem_singleton_self _
  · rw [List.mem_singleton.1 ho, hid]
    exact hc
  · rw [hid]
    exact fun heq => hc (heq ▸ hdr other ho)
  · exact (held_step (session_callState rfl) ho).resolve_right nofun

theorem Sound.register (hc : Admissible w (.register gatewayId)) :
    Sound (w.step toolkit (.register gatewayId)) := by
  by_cases hmax : w.hub.nextSessionId = u64Max
  · have hst : w.hub.callState toolkit (.register gatewayId) = w.hub.gatewayState gatewayId :=
      if_pos hmax
    refine h.of_kept rfl rfl (congrArg GatewayState.session hst) fun _ _ _ hord => ?_
    rw [hst]
    exact hord
  · have hst : w.hub.callState toolkit (.register gatewayId) =
        (w.hub.gatewayState gatewayId).register w.hub.nextSessionId := if_neg hmax
    refine h.of_quiet h.1 fun issued _ hord => ?_
    rw [hst]
    have hcleared : Orderly issued (w.held gatewayId)
        ((w.hub.gatewayState gatewayId).register w.hub.nextSessionId) :=
      (hord gatewayId).clearFlowDelivery.congr rfl rfl rfl rfl
    refine hcleared.release fun frame hf => absurd hf ?_
    -- a new session has nothing in its hands
    rintro ⟨session, hmem, hgw, hact⟩
    rw [@gatewayState_call toolkit w (.register gatewayId), hst, isActive, beq_iff_eq] at hact
    have hs : session = ⟨gatewayId, w.hub.nextSessionId⟩ := by
      rw [Option.some.inj hact]
      exact congrArg (AgentSession.mk · session.id) hgw
    exact absurd hs (hc _ hmem)

theorem Sound.take (session : AgentSession) (rev : ℕ) (bootId : Option String)
    (fill refill : Fill) : Sound (w.step toolkit (.take session rev bootId fill refill)) := by
  refine h.of_quiet ?_ fun issued _ hord =>
    ((hord session.gatewayId).takeFlowCommand session rev bootId fill refill).release
      fun frame => held_step (session_callState rfl)
  obtain ⟨hnd, issued, -, -, hord⟩ := h
  change (((taken w.hub (.take session rev bootId fill refill)).map
    (session, ·)).toList ++ w.hands).Nodup
  cases htaken : taken w.hub (.take session rev bootId fill refill) with
  | none => exact hnd
  | some frame =>
    -- what is pending is not in the hand of the session
    obtain ⟨hact, ⟨key, hkey⟩, -⟩ := takeFlowCommand_some htaken
    refine List.nodup_cons.2 ⟨fun hmem => ?_, hnd⟩
    exact ((hord session.gatewayId).pendingIdle key frame hkey).2 ⟨session, hmem, rfl, hact⟩

end

theorem session_unique {other : AgentSession} (hact : state.isActive session = true)
    (ho : state.isActive other = true) (hgw : session.gatewayId = other.gatewayId) :
    session = other := by
  obtain ⟨gateway, number⟩ := session
  rw [isActive, beq_iff_eq] at hact ho
  rw [hact] at ho
  cases ho
  exact congrArg (AgentSession.mk · other.id) hgw

section

variable (h : Sound w)
include h

/-- A call with which a session passes on what it holds. -/
theorem Sound.of_passed (hgw : call.gatewayId = session.gatewayId)
    (hmem : (session, frame) ∈ w.hands)
    (hhands : (w.step toolkit call).hands = w.hands.erase (session, frame))
    (htaken : taken w.hub call = none) (hs : (w.hub.callState toolkit call).session =
      (w.hub.gatewayState call.gatewayId).session)
    (hina : (w.hub.gatewayState call.gatewayId).isActive session = false →
      w.hub.callState toolkit call = w.hub.gatewayState call.gatewayId)
    (hc : ∀ issued held, Unique issued →
      (w.hub.gatewayState call.gatewayId).isActive session = true → held frame →
      Orderly issued held (w.hub.gatewayState call.gatewayId) →
        Orderly issued (fun other => held other ∧ other ≠ frame)
          (w.hub.callState toolkit call)) : Sound (w.step toolkit call) := by
  refine h.of_quiet (hhands ▸ h.1.erase _) fun issued hu hord => ?_
  cases hact : (w.hub.gatewayState call.gatewayId).isActive session with
  | true =>
    refine (hc issued _ hu hact ⟨session, hmem, hgw.symm, hact⟩
      (hord call.gatewayId)).release
        fun other ho => ?_
    refine ⟨by grind [held_step], ?_⟩
    -- the command has left the hand of the active session, and no other session is active
    rintro rfl
    obtain ⟨owner, hown, how, hownerActive⟩ := ho
    rw [gatewayState_call, isActive, hs] at hownerActive
    rw [session_unique hownerActive hact (how.trans hgw), hhands] at hown
    exact (h.1.mem_erase_iff.1 hown).1 rfl
  | false =>
    rw [hina hact]
    refine (hord call.gatewayId).release fun other ho => ?_
    grind [held_step]

theorem Sound.sent {instant : ℤ} (hc : Admissible w (.sent session frame instant)) :
    Sound (w.step toolkit (.sent session frame instant)) := by
  refine h.of_passed rfl hc rfl rfl (session_callState rfl) (fun hina => ?_)
      fun issued held hu hact hh hord => ?_
  · change markFlowCommandSent _ _ _ _ = _
    unfold markFlowCommandSent
    rw [hina]
    rfl
  · change Orderly issued _ (markFlowCommandSent _ session frame instant)
    unfold markFlowCommandSent
    constructor <;> grind [Unique]

theorem Sound.unsent (hc : Admissible w (.unsent session frame fill)) :
    Sound (w.step toolkit (.unsent session frame fill)) := by
  refine h.of_passed rfl hc rfl rfl (session_callState rfl) (fun hina => ?_)
      fun issued held hu hact hh hord =>
        hord.requeueUnsent hu hh session fill
  change requeueUnsentFlowCommand _ _ _ _ = _
  unfold requeueUnsentFlowCommand
  rw [hina]
  rfl

theorem Sound.latch {bootId : String} (hc : Admissible w (.latch session bootId now fill)) :
    Sound (w.step toolkit (.latch session bootId now fill)) := by
  refine h.of_quiet h.1 fun issued hu hord => ?_
  refine (orderly_latch (hord session.gatewayId) (fun hact frame hh => ?_) bootId).release fun other ho => ?_
  · obtain ⟨owner, hmem, how, hownerActive⟩ := hh
    exact hc _ hmem (session_unique hownerActive hact how)
  · exact (held_step (session_callState rfl) ho).resolve_right nofun

theorem Sound.unregister (session : AgentSession) :
    Sound (w.step toolkit (.unregister session)) := by
  refine h.of_quiet h.1 fun issued _ hord => ?_
  have hcl : Orderly issued (w.held session.gatewayId)
      ((w.hub.gatewayState session.gatewayId).unregister session) := by
    unfold GatewayState.unregister
    split
    · exact (hord session.gatewayId).congr rfl rfl rfl rfl
    · exact hord session.gatewayId
  refine hcl.release fun frame hh => ?_
  obtain ⟨owner, hmem, hgw, hact⟩ := hh
  refine ⟨owner, hmem, hgw, ?_⟩
  -- a session that is still active was active before
  rw [gatewayState_call] at hact
  change ((w.hub.gatewayState session.gatewayId).unregister session).isActive owner = true at hact
  rw [GatewayState.unregister] at hact
  split_ifs at hact with hs
  · simp [isActive] at hact
  · exact hact

/-- **Every call keeps the invariant.** -/
theorem Sound.step (hc : Admissible w call) : Sound (w.step toolkit call) := by
  cases call with
  | refresh => exact h.refresh hc
  | register => exact h.register hc
  | latch => exact h.latch hc
  | refreshActive session now =>
    refine h.of_kept rfl rfl (session_callState rfl) fun issued held _ hord => ?_
    change Orderly issued held (refreshActiveFlowCommands _ session now).2
    unfold refreshActiveFlowCommands
    split
    · exact hord
    · exact hord.congr rfl rfl rfl rfl
  | capabilities session rev capabilities now =>
    refine h.of_kept rfl rfl (session_callState rfl) fun issued held _ hord => ?_
    change Orderly issued held (recordFlowCapabilities _ session rev capabilities now).2
    unfold recordFlowCapabilities
    split
    · exact hord
    · split
      · exact hord.congr rfl rfl rfl rfl
      · exact hord.congr rfl rfl rfl rfl
  | remember =>
    refine h.of_kept rfl rfl (session_callState rfl) fun issued held _ hord => ?_
    change Orderly issued held (if w.hub.nextFlowContextGeneration = u64Max then _ else _)
    split_ifs
    · exact hord
    · unfold rememberFlowContext
      dsimp only
      split_ifs
      · exact hord
      all_goals exact (hord.ownedBy _).congr rfl rfl rfl rfl
  | forget =>
    exact h.of_kept rfl rfl rfl fun issued held _ hord => hord.congr rfl rfl rfl rfl
  | queue => exact h.queue hc
  | take => exact h.take ..
  | sent => exact h.sent hc
  | unsent => exact h.unsent hc
  | retry =>
    exact h.of_kept rfl rfl (session_callState rfl) fun _ _ hu hord =>
      hord.retryFlowCommands hu ..
  | acknowledge =>
    exact h.of_kept rfl rfl (session_callState rfl) fun _ _ _ hord =>
      hord.acknowledgeFlowCommand ..
  | unregister => exact h.unregister ..

end

variable (toolkit)

theorem Sound.run : ∀ {calls : List HubCall} {w : World}, Sound w → AdmissibleRun toolkit w calls →
    Sound (w.run toolkit calls)
  | [], _, h, _ => h
  | _ :: _, _, h, ⟨hc, hcalls⟩ => (h.step hc).run hcalls

/-! ### What is sent -/

/-- **Only the latest decision is ever sent.** In every run of the hub in which its sessions behave,
what is pending for a flow is the decision for the flow; what is taken is the decision for its flow, has
not expired, and carries the revision and the boot that were asked for. -/
theorem only_latest_decision_sent (controllerEpoch : String) (calls : List HubCall)
    (hcalls : AdmissibleRun toolkit (.start controllerEpoch) calls) (gatewayId : String) :
    let state := ((World.start controllerEpoch).run toolkit calls).hub.gatewayState gatewayId
    (∀ key frame, state.flowPending.lookup key = some frame →
      state.flowStates.lookup key = some frame) ∧
    ∀ session revision bootId fill refill frame,
      (state.takeFlowCommand session revision bootId fill refill).1 = some frame →
        state.flowStates.lookup (keyOf frame) = some frame ∧ fill.now < frame.expiresAtMs ∧
          frame.configRevision = revision ∧ bootId = some frame.bootId := by
  intro state
  obtain ⟨-, issued, -, -, horderly⟩ := (sound_start controllerEpoch).run toolkit hcalls
  have hstate : Orderly issued _ state := horderly gatewayId
  refine ⟨fun key frame hpending => hstate.latest key frame hpending,
    fun session revision bootId fill refill frame htaken => ?_⟩
  obtain ⟨-, ⟨key, hpending⟩, hrest⟩ := takeFlowCommand_some htaken
  have hlatest := hstate.latest key frame hpending
  rw [← hstate.keyed key frame hlatest] at hlatest
  exact ⟨hlatest, hrest⟩

/-- **A command is in one place.** In every run of the hub in which its sessions behave, a command that
is pending is neither in flight nor delayed nor in the hand of the active session; one in its hand is
neither in flight nor delayed; and one that is delayed is not in flight. -/
theorem command_in_one_place (controllerEpoch : String) (calls : List HubCall)
    (hcalls : AdmissibleRun toolkit (.start controllerEpoch) calls) (gatewayId : String) :
    let w := (World.start controllerEpoch).run toolkit calls
    let state := w.hub.gatewayState gatewayId
    (∀ key frame, state.flowPending.lookup key = some frame →
      Idle state frame.commandId ∧ ¬ w.held gatewayId frame) ∧
    (∀ frame, w.held gatewayId frame → Idle state frame.commandId) ∧
    ∀ key retry, state.flowPartialRetries.lookup key = some retry →
      state.flowInFlight.lookup retry.commandId = none := by
  obtain ⟨-, issued, -, -, hord⟩ := (sound_start controllerEpoch).run toolkit hcalls
  exact ⟨(hord gatewayId).pendingIdle, (hord gatewayId).heldIdle, (hord gatewayId).delayedIdle⟩

end Runs

/-! ### Sample runs -/

def sampleSession : AgentSession := ⟨"gateway-1", 1⟩

def sampleFill (now : ℤ) : Fill := ⟨now, .asStored⟩

/-- A command that blocks a flow. -/
def blockCommand (commandId : String) (issuedAtMs : ℤ) : FlowCommand where
  wireVersion := policyWireVersion
  gatewayId := "gateway-1"
  bootId := "boot-1"
  controllerEpoch := sampleEpoch
  configRevision := 1
  commandId
  policyFlowId := "flow-1"
  operation := .upsert
  verdict := some .block
  policyIds := ["policy-1"]
  expiresAtMs := issuedAtMs + 120000
  issuedAtMs

/-- A command that lets a flow go again. -/
def revokeCommand (commandId : String) (issuedAtMs : ℤ) : FlowCommand :=
  { blockCommand commandId issuedAtMs with operation := .revoke, verdict := none, policyIds := [] }

def appliedAck (command : FlowCommand) (reportedAtMs : ℤ) : FlowAck where
  wireVersion := policyWireVersion
  gatewayId := command.gatewayId
  bootId := command.bootId
  controllerEpoch := command.controllerEpoch
  commandId := command.commandId
  policyFlowId := command.policyFlowId
  configRevision := command.configRevision
  status := .applied
  reasonCode := none
  aliasCount := 1
  reportedAtMs

/-- A flow is blocked, and then let go before the first command is sent. -/
def changedMind : List HubCall :=
  [.register "gateway-1", .latch sampleSession "boot-1" 500 (sampleFill 500),
    .queue (blockCommand "command-1" 1000) none (sampleFill 1000),
    .queue (revokeCommand "command-2" 1000) none (sampleFill 1000)]

theorem only_revocation_sent :
    let state := ((World.start sampleEpoch).run sampleToolkit changedMind).hub.gatewayState
      "gateway-1"
    (state.takeFlowCommand sampleSession 1 (some "boot-1") (sampleFill 1001)
        (sampleFill 1001)).1 = some (revokeCommand "command-2" 1001) ∧
      state.flowStates.lookup (keyOf (revokeCommand "command-2" 1001)) =
        some (revokeCommand "command-2" 1001) := by
  intro state
  have hrun : AdmissibleRun sampleToolkit (.start sampleEpoch) changedMind := by
    refine ⟨?_, ?_, ?_, ?_, trivial⟩
    · exact fun hand hhand => absurd hhand List.not_mem_nil
    · exact fun hand hhand => absurd hhand List.not_mem_nil
    · exact List.not_mem_nil
    · change _ ∉ _
      decide +kernel
  have htaken : (state.takeFlowCommand sampleSession 1 (some "boot-1") (sampleFill 1001)
      (sampleFill 1001)).1 = some (revokeCommand "command-2" 1001) := by
    decide +kernel
  exact ⟨htaken, ((only_latest_decision_sent sampleToolkit _ changedMind hrun "gateway-1").2
    _ _ _ _ _ _ htaken).1⟩

/-- A shape is sent, and reported to cover a part of the flow. -/
def partlyShaped : List HubCall :=
  let shape := { blockCommand "command-1" 1000 with verdict := some .shape }
  [.register "gateway-1", .queue shape none (sampleFill 1000),
    .take sampleSession 1 (some "boot-1") (sampleFill 1001) (sampleFill 1001),
    .sent sampleSession shape 1002,
    .acknowledge sampleSession { appliedAck shape 1003 with
      status := .partially, reasonCode := some "partial_alias_coverage" } true 1003 1003
      (sampleFill 1003)]

theorem delayed_shape_in_one_place :
    let state := ((World.start sampleEpoch).run sampleToolkit partlyShaped).hub.gatewayState
      "gateway-1"
    ∃ key retry, state.flowPartialRetries.lookup key = some retry ∧
      state.flowInFlight.lookup retry.commandId = none := by
  intro state
  have hdelayed : (state.flowPartialRetries.lookup (keyOf (blockCommand "command-1" 1000))).isSome :=
    by decide +kernel
  obtain ⟨retry, hretry⟩ := Option.isSome_iff_exists.1 hdelayed
  have hrun : AdmissibleRun sampleToolkit (.start sampleEpoch) partlyShaped := by
    refine ⟨fun _ h => absurd h List.not_mem_nil, List.not_mem_nil, trivial, ?_, trivial, trivial⟩
    change _ ∈ _
    decide +kernel
  exact ⟨_, retry, hretry,
    (command_in_one_place sampleToolkit sampleEpoch partlyShaped hrun "gateway-1").2.2 _ _ hretry⟩

/-- A session that latches its boot between taking a revocation and marking it as sent. -/
def hastyLatch : List HubCall :=
  [.register "gateway-1", .queue (revokeCommand "command-1" 1000) none (sampleFill 1000),
    .take sampleSession 1 (some "boot-1") (sampleFill 1001) (sampleFill 1001),
    .latch sampleSession "boot-1" 1002 (sampleFill 1002),
    .sent sampleSession (revokeCommand "command-1" 1000) 1003,
    .acknowledge sampleSession (appliedAck (revokeCommand "command-1" 1000) 1004) true 1004 1004
      (sampleFill 1004)]

/-- The revocation is forgotten when it is acknowledged, and pending all the same. -/
theorem forgotten_revocation_pending :
    let state := ((PolicyHub.new sampleEpoch).run sampleToolkit hastyLatch).gatewayState "gateway-1"
    state.flowPending.lookup (keyOf (revokeCommand "command-1" 1000)) =
        some (revokeCommand "command-1" 1000) ∧
      state.flowStates.lookup (keyOf (revokeCommand "command-1" 1000)) = none := by
  decide +kernel

end Netqmon.Collector.Policy.Decisions
