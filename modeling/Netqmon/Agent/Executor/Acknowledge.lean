import Netqmon.Agent.Executor.Acceptance
import Netqmon.Agent.Executor.Process

/-! # Acknowledgements and their validation

The agent sends the acknowledgement of a snapshot through the same validation that the collector
applies; if it fails, the connection goes down. The acknowledgement of a refused or failed snapshot
always passes. That of an applied one passes exactly if the plan is reportable. -/

namespace Netqmon.Agent.Executor.Acknowledge

open Agent.Flow SavedState Executor.Topology Shaper ShapingPlan Plan
open Report Texts Details Acceptance Process
open Lib.Checks Lib.EarlyReturn Protocol.Policy Protocol.Validate

variable {W : Type} {host : Host W} {ctx : Context} {snapshot : PolicySnapshot}
  {topology : PolicyTopology}

/-! ### Acknowledgements of refused snapshots -/

def Accepted (ack : PolicyAck) : Prop := validateAck ack = .ok ()

/-- The identity that an acknowledgement repeats is in order. -/
structure IdentityOk (ctx : Context) (snapshot : PolicySnapshot) : Prop where
  snapshot : SnapshotOk snapshot
  boot : validText 128 ctx.bootId = true

variable {capabilities : PolicyCapabilities}

variable {status : PolicyAckStatus}

section

variable (h : IdentityOk ctx snapshot)
include h

theorem accepted_policyAck_iff (results : List PolicyResult) :
    Accepted (policyAck ctx snapshot capabilities status results) ↔
      validateResults results = .ok () :=
  validateAck_ok_iff h.snapshot rfl rfl h.boot rfl rfl rfl rfl (le_max_right _ _)

theorem accepted_of_plain {report : PolicySnapshotEntry → PolicyResult}
    (hreport : ∀ p, ∃ status code message, report p = result p.id status code message) :
    Accepted (policyAck ctx snapshot capabilities status (snapshot.policies.map report)) := by
  rw [accepted_policyAck_iff h, validateResults_ok_iff, List.length_map, List.map_map]
  have hid : ∀ p, (report p).policyId = p.id := by
    intro p
    obtain ⟨status, code, message, heq⟩ := hreport p
    rw [heq]
    rfl
  refine ⟨List.forall_mem_map.2 fun p hp => ?_, ?_, h.snapshot.few⟩
  · obtain ⟨status, code, message, heq⟩ := hreport p
    rw [heq]
    have htexts := textsOk_result p.id status code message
    exact ⟨h.snapshot.ids p hp, htexts.1, htexts.2, rfl⟩
  · rw [show (fun e : PolicyResult => e.policyId) ∘ report = (·.id) from funext hid]
    exact h.snapshot.distinct

theorem accepted_failureAck (code message : String) :
    Accepted (failureAck ctx snapshot capabilities code message) :=
  accepted_of_plain h fun _ => ⟨_, _, _, rfl⟩

end

/-! ### What passes each stage -/

/-- The saved state shows that the snapshot is not newer. -/
def isOutdated (snapshot : PolicySnapshot) (previous : PolicyState) : Bool :=
  snapshot.configRevision < previous.configRevision ||
    (snapshot.controllerEpoch == previous.controllerEpoch
      && snapshot.configRevision == previous.configRevision
      && (snapshot.bundleGeneration < previous.bundleGeneration
        || (snapshot.bundleGeneration == previous.bundleGeneration
          && snapshot.checksum != previous.checksum)))

variable {previous : PolicyState}

theorem checkOrder_ok_iff :
    checkOrder ctx snapshot topology previous = .ok () ↔ isOutdated snapshot previous = false := by
  unfold checkOrder isOutdated
  simp only [seq_eq_ok, ensure_eq_ok]
  constructor
  · grind
  · grind

theorem fails_checkOrder (h : IdentityOk ctx snapshot) :
    Fails Accepted (checkOrder ctx snapshot topology previous) :=
  .seq (.ensure (accepted_failureAck h ..)) <| .seq (.ensure (accepted_failureAck h ..)) <|
    .ensure (accepted_failureAck h ..)

/-- The arguments with which the executor plans a snapshot. -/
def planInput (ctx : Context) (snapshot : PolicySnapshot) (topology : PolicyTopology) : PlanInput :=
  ⟨snapshot.policies, snapshot.scheduleIntervals, snapshot.validUntilMs, ctx.now, topology⟩

/-- Whether classes can be made for the limits in force, given the previous ones. -/
def shapeable (ctx : Context) (snapshot : PolicySnapshot) (topology : PolicyTopology)
    (previousShape : Option ShapingState) : Bool :=
  (compileShapingPlan ctx.digest16 ctx.gatewayId topology previousShape
    ((planInput ctx snapshot topology).table addClientRate .empty)
    ((planInput ctx snapshot topology).table addApplicationRate .empty) []).isOk

/-- The executor does not get as far as carrying out a plan. -/
inductive Refuses (ctx : Context) (snapshot : PolicySnapshot) (topology : PolicyTopology)
    (loaded : Except String (Option PolicyState)) (disabled : Bool) : Prop
  | otherGateway (h : snapshot.gatewayId ≠ ctx.gatewayId)
  | marker (h : disabled = true)
  | clientTotal (p : PolicySnapshotEntry) (hp : p ∈ snapshot.policies)
      (henabled : p.spec.enabled = true) (htotal : isClientTotalSpec p.spec = true)
  | stateInvalid (error : String) (h : loaded = .error error)
  | outdated (previous : PolicyState) (h : loaded = .ok (some previous))
      (hold : isOutdated snapshot previous = true)
  | unsupportedTopology (h : topology.supported = false) (p : PolicySnapshotEntry)
      (hp : p ∈ snapshot.policies) (hclient : isSupportedClientPolicy p = true)
  | unshapeable (old : Option PolicyState) (h : loaded = .ok old)
      (hshape : shapeable ctx snapshot topology (old.bind (·.shapingState)) = false)

theorem screen_ok_iff (hval : validateSnapshot ctx.codec snapshot = .ok ()) {disabled : Bool} :
    screen ctx snapshot topology disabled = .ok () ↔
      snapshot.gatewayId = ctx.gatewayId ∧ disabled = false ∧
        ∀ p ∈ snapshot.policies, ¬(p.spec.enabled = true ∧ isClientTotalSpec p.spec = true) := by
  unfold screen
  rw [hval]
  simp [seq_eq_ok, Except.toBool]

theorem fails_screen (h : IdentityOk ctx snapshot) (disabled : Bool) :
    Fails Accepted (screen ctx snapshot topology disabled) :=
  .seq (.ensure (accepted_failureAck h ..)) <| .seq (.ensure (accepted_failureAck h ..)) <|
    .ensure (accepted_failureAck h ..)

theorem checkTopology_ok_iff :
    checkTopology ctx snapshot topology = .ok () ↔
      (topology.supported = false → ∀ p ∈ snapshot.policies, isSupportedClientPolicy p = false) := by
  unfold checkTopology
  cases topology.supported <;> simp

variable (digest16 : String → ℕ) (gatewayId : String) (previous : Option ShapingState)
  (clientRates : ClientRateMap) (applicationRates : ApplicationRateMap)
  (addresses : List (String × IpAddr))

theorem compile_isOk :
    (compileShapingPlan digest16 gatewayId topology previous clientRates applicationRates
      addresses).isOk =
    (compileShapingPlan digest16 gatewayId topology previous clientRates applicationRates
      []).isOk := by
  unfold compileShapingPlan
  cases buildShapingState digest16 gatewayId topology clientRates applicationRates previous with
  | error error => rfl
  | ok s =>
    simp only [bind, Except.bind]
    split_ifs
    · rfl
    · cases topology.lanInterfaces.head? with
      | none => rfl
      | some lan => cases topology.wanInterfaces.isEmpty <;> rfl

variable {previousShape : Option ShapingState}

/-! ### Every way out is accepted -/

theorem shapeable_eq :
    shapeable ctx snapshot topology previousShape =
      (compileShapingPlan ctx.digest16 ctx.gatewayId topology previousShape
        (snapshotPlan ctx snapshot topology).clientRates
        (snapshotPlan ctx snapshot topology).applicationRates addresses).isOk := by
  rw [compile_isOk, shapeable, ← PlanInput.clientRates_eq, ← PlanInput.applicationRates_eq]
  rfl

variable {plan : BuiltPlan}

theorem compilePlan_ok {plan' : BuiltPlan}
    (h : compilePlan ctx topology previousShape plan = .ok plan') :
    plan'.results = plan.results ∧
      (compileShapingPlan ctx.digest16 ctx.gatewayId topology previousShape plan.clientRates
        plan.applicationRates plan.clientAddresses).isOk = true := by
  unfold compilePlan at h
  cases hcomp : compileShapingPlan ctx.digest16 ctx.gatewayId topology previousShape
    plan.clientRates plan.applicationRates plan.clientAddresses with
  | error error => simp [hcomp, bind, Except.bind] at h
  | ok compiled =>
    rw [hcomp] at h
    cases compiled <;> cases h <;> exact ⟨rfl, rfl⟩

/-- Every operation that a successful run calls succeeds. -/
structure Compliant (host : Host W) : Prop where
  persist : ∀ state w, (host.persist state w).1.isOk = true
  clearOwned : ∀ w, (host.clearOwned w).1.isOk = true
  isInstalled : ∀ w, (host.isInstalled w).1.isOk = true
  replace : ∀ topology plan w, (host.replace topology plan w).1.isOk = true
  inspectMarkConflicts : ∀ topology previous w,
    (host.inspectMarkConflicts topology previous w).1.isOk = true
  prepareShaping : ∀ desired previous w, (host.prepareShaping desired previous w).1.isOk = true
  writeShapingJournal : ∀ previous desired w,
    (host.writeShapingJournal previous desired w).1.isOk = true
  applyShaping : ∀ desired previous w, (host.applyShaping desired previous w).1.isOk = true
  recoverShapingJournal : ∀ previous w, (host.recoverShapingJournal previous w).1.isOk = true

/-- An early return: the acknowledgement is accepted, and the snapshot was refused for the reason
`P` or an operation failed. -/
structure WayOut (host : Host W) (P : Prop) (ack : PolicyAck) : Prop where
  accepted : Accepted ack
  cause : P ∨ ¬Compliant host

variable {error : String}

theorem not_isOk {α : Type} {x : Except String α} (h : x = .error error) : ¬x.isOk = true := by
  rw [h]
  exact Bool.false_ne_true

variable {P : Prop}

theorem compilePlan_error (h : compilePlan ctx topology previousShape plan = .error error) :
    (compileShapingPlan ctx.digest16 ctx.gatewayId topology previousShape plan.clientRates
      plan.applicationRates plan.clientAddresses).isOk = false := by
  unfold compilePlan at h
  cases hcomp : compileShapingPlan ctx.digest16 ctx.gatewayId topology previousShape
    plan.clientRates plan.applicationRates plan.clientAddresses with
  | error error => rfl
  | ok compiled =>
    rw [hcomp] at h
    cases compiled <;> cases h

variable {journal : Bool}

theorem undo_yields (h : IdentityOk ctx snapshot) (previous : Option PolicyState)
    (currentShape : ShapingState) (withShape : Bool) (code : String) {post : Unit → Prop}
    (hcause : P ∨ ¬Compliant host) :
    Yields (undo host ctx snapshot topology previous currentShape withShape journal code error)
      post (WayOut host P) := by
  have hleave : ∀ message, Yields (Prog.early (failureAck ctx snapshot topology.capabilities code
      message) : Prog W PolicyAck Unit) post (WayOut host P) :=
    fun message => Yields.early ⟨accepted_failureAck h _ _, hcause⟩
  refine Yields.call_bind fun w => ?_
  split_ifs
  · exact Yields.call_bind fun _ => hleave _
  · exact hleave _

theorem dropJournal_yields {returned : PolicyAck → Prop} :
    Yields (dropJournal host journal) (fun _ => True) returned := by
  unfold dropJournal
  split_ifs
  · exact Yields.call_bind fun _ => Yields.pure trivial
  · exact Yields.pure trivial

theorem prepareShape_yields (h : IdentityOk ctx snapshot) :
    Yields (prepareShape host ctx snapshot topology previousShape plan) (fun _ => True)
      (WayOut host P) := by
  unfold prepareShape
  split
  · refine Yields.call_bind fun w => ?_
    split
    case h_1 => exact Yields.pure trivial
    case h_2 error herr =>
      have hout : ∀ ack, Accepted ack → WayOut host P ack := fun ack hack =>
        ⟨hack, .inr fun hc => not_isOk herr (hc.prepareShaping _ _ w)⟩
      split
      all_goals exact Yields.early (hout _ (accepted_failureAck h _ _))
  · exact Yields.pure trivial

variable {shape : PreparedShape}

section

variable (h : IdentityOk ctx snapshot)
include h

variable (old : Option PolicyState)

theorem writeJournal_yields :
    Yields (writeJournal host ctx snapshot topology old shape) (fun _ => True) (WayOut host P) := by
  unfold writeJournal
  dsimp only
  split_ifs
  · refine Yields.call_bind fun w => ?_
    refine Yields.bind (Yields.ofExcept_mapError (fun _ hok => hok) fun error herr => ?_)
      fun _ _ => Yields.pure trivial
    exact ⟨accepted_failureAck h _ error,
      .inr fun hc => not_isOk herr (hc.writeShapingJournal _ _ w)⟩
  · exact Yields.pure trivial

theorem installNft_yields (saved : Option ShapingState) :
    Yields (installNft host ctx snapshot topology old plan saved journal) (fun _ => True)
      (WayOut host P) := by
  have hfail : ∀ code message, ¬Compliant host → Yields (do
      dropJournal host journal
      Prog.early (failureAck ctx snapshot topology.capabilities code message) :
        Prog W PolicyAck Unit) (fun _ => True) (WayOut host P) := fun code message hfault =>
    (dropJournal_yields).bind fun _ _ => Yields.early ⟨accepted_failureAck h _ _, .inr hfault⟩
  unfold installNft
  split
  · refine Yields.call_bind fun w => ?_
    split
    case h_1 => exact Yields.pure trivial
    case h_2 error herr => exact hfail _ _ fun hc => not_isOk herr (hc.clearOwned w)
  · refine Yields.bind (Q := fun installed => Compliant host → installed.isOk = true) ?_
      fun installed hinstalled => ?_
    · unfold nftInPlace
      split
      · exact Yields.call fun w hc => hc.isInstalled w
      · exact Yields.pure fun _ => rfl
    · match installed with
      | .ok true => exact Yields.pure trivial
      | .error error => exact hfail _ _ fun hc => by cases hinstalled hc
      | .ok false =>
        refine Yields.call_bind fun w => ?_
        split
        case h_1 => exact Yields.pure trivial
        case h_2 error herr =>
          exact Yields.call_bind fun _ => hfail _ _ fun hc => not_isOk herr (hc.replace _ _ w)

theorem installShape_yields :
    Yields (installShape host ctx snapshot topology old shape journal) (fun _ => True)
      (WayOut host P) := by
  unfold installShape
  dsimp only
  split_ifs
  · refine Yields.call_bind fun w => ?_
    split
    case h_1 => exact Yields.pure trivial
    case h_2 error herr =>
      exact undo_yields h _ _ _ _ (.inr fun hc => not_isOk herr (hc.applyShaping _ _ w))
  · exact Yields.pure trivial

theorem saveState_yields
    (hval : validateSnapshot ctx.codec snapshot = .ok ()) (old : Option PolicyState) :
    Yields (saveState host ctx snapshot topology old plan shape journal) (fun _ => True)
      (WayOut host P) := by
  unfold saveState
  rw [hval]
  dsimp only
  split_ifs
  · refine Yields.call_bind fun w => ?_
    split
    case h_1 => exact Yields.pure trivial
    case h_2 error herr =>
      exact undo_yields h _ _ _ _ (.inr fun hc => not_isOk herr (hc.persist _ w))
  · exact Yields.pure trivial

end

/-! ### Refusals -/

variable {loaded : Except String (Option PolicyState)} {disabled : Bool}

theorem loadPrevious_triple (h : IdentityOk ctx snapshot) :
    Triple (fun w => host.load w = loaded) (loadPrevious host ctx snapshot topology)
      (fun old _ => loaded = .ok old ∧
        ∀ previous, old = some previous → isOutdated snapshot previous = false)
      (fun ack _ => WayOut host (Refuses ctx snapshot topology loaded disabled) ack) := by
  have hfail : ∀ code error,
      Accepted (failureAck ctx snapshot topology.capabilities code error) :=
    accepted_failureAck h
  refine Triple.bind_fact (Q := fun read => read = loaded) (Triple.read fun w hw => hw) ?_
  rintro _ rfl
  refine Yields.bind (Yields.ofExcept_mapError (fun _ hok => hok) fun error herr =>
    ⟨hfail _ error, .inl (.stateInvalid error herr)⟩) fun old hold => ?_
  refine Yields.call_bind fun w => ?_
  refine Yields.bind (Yields.ofExcept_mapError (fun _ hok => hok) fun error herr =>
    ⟨hfail _ error, .inr fun hc => not_isOk herr (hc.recoverShapingJournal _ w)⟩)
    fun _ _ => ?_
  cases old with
  | none => exact Yields.pure ⟨hold, by simp⟩
  | some previous =>
    refine Yields.bind (Yields.ofExcept (fun _ hpass => hpass) fun ack hack =>
      ⟨fails_checkOrder h ack hack, .inl (.outdated previous hold ?_)⟩) fun _ hpass => ?_
    · grind [checkOrder_ok_iff]
    · grind [Yields.pure, checkOrder_ok_iff.1]

variable {old : Option PolicyState}

theorem preflight_yields (h : IdentityOk ctx snapshot) (hold : loaded = .ok old) :
    Yields (preflight host ctx snapshot topology (old.bind (·.shapingState))
        (snapshotPlan ctx snapshot topology))
      (fun plan => plan.results = (snapshotPlan ctx snapshot topology).results ∧
        shapeable ctx snapshot topology (old.bind (·.shapingState)) = true)
      (WayOut host (Refuses ctx snapshot topology loaded disabled)) := by
  unfold preflight
  split_ifs with hrt
  · refine Yields.call_bind fun w => ?_
    refine Yields.ofExcept_mapError (fun plan hplan => ?_) fun error herr =>
      ⟨accepted_failureAck h _ _, ?_⟩
    · have hcomp := compilePlan_ok (seq_eq_ok.1 hplan).2
      exact ⟨hcomp.1, (shapeable_eq _).trans hcomp.2⟩
    · cases hinspect : (host.inspectMarkConflicts topology (old.bind (·.shapingState)) w).1 with
      | error _ => exact .inr fun hc => not_isOk hinspect (hc.inspectMarkConflicts _ _ w)
      | ok _ =>
        rw [hinspect] at herr
        exact .inl (.unshapeable old hold ((shapeable_eq _).trans (compilePlan_error herr)))
  · refine Yields.pure ⟨rfl, ?_⟩
    rw [hasShapingRates, Bool.or_eq_true, not_or, Bool.not_eq_true', Bool.not_eq_true',
      Bool.not_eq_false, Bool.not_eq_false] at hrt
    rw [shapeable_eq []]
    unfold compileShapingPlan buildShapingState
    rw [hrt.1, hrt.2]
    rfl

theorem checkTopology_ok (hno : ¬Refuses ctx snapshot topology loaded disabled) :
    checkTopology ctx snapshot topology = .ok () := by
  refine checkTopology_ok_iff.2 fun hunsupported p hp => ?_
  rw [← Bool.not_eq_true]
  exact fun hcli => hno (.unsupportedTopology hunsupported p hp hcli)

theorem fails_checkTopology (h : IdentityOk ctx snapshot) :
    Fails Accepted (checkTopology ctx snapshot topology) := by
  refine .ensure (accepted_of_plain h fun p => ?_)
  split_ifs
  all_goals exact ⟨_, _, _, rfl⟩

theorem not_refuses (hval : validateSnapshot ctx.codec snapshot = .ok ())
    (hscreen : screen ctx snapshot topology disabled = .ok ()) (hload : loaded = .ok old)
    (hfr : ∀ previous, old = some previous → isOutdated snapshot previous = false)
    (htopology : checkTopology ctx snapshot topology = .ok ())
    (hsh : shapeable ctx snapshot topology (old.bind (·.shapingState)) = true) :
    ¬Refuses ctx snapshot topology loaded disabled := by
  obtain ⟨hgw, hdis, htot⟩ := (screen_ok_iff hval).1 hscreen
  intro hrefuses
  cases hrefuses with
  | otherGateway h => exact h hgw
  | marker h => simp [h] at hdis
  | clientTotal p hp hen hcli => exact htot p hp ⟨hen, hcli⟩
  | stateInvalid error h => simp [hload] at h
  | outdated previous h hold => grind
  | unsupportedTopology h p hp hcli => simp [checkTopology_ok_iff.1 htopology h p hp] at hcli
  | unshapeable other h ho => grind

/-- **The ways through the executor.** It reaches the end only with a snapshot that it does not
refuse, and then reports the results of the plan; it leaves before with an acknowledgement that is
accepted, because it refuses the snapshot or because an operation failed. -/
theorem processSnapshotWith_triple (h : IdentityOk ctx snapshot)
    (hval : validateSnapshot ctx.codec snapshot = .ok ()) :
    Triple (fun w => host.load w = loaded ∧ host.disabled w = disabled)
      (processSnapshotWith host ctx snapshot topology)
      (fun ack _ => ¬Refuses ctx snapshot topology loaded disabled ∧
        ∃ status, ack = policyAck ctx snapshot topology.capabilities status
          (snapshotPlan ctx snapshot topology).results)
      (fun ack _ => WayOut host (Refuses ctx snapshot topology loaded disabled) ack) := by
  refine Triple.bind (Q := fun read w => read = disabled ∧ host.load w = loaded)
    (Triple.read fun w hw => ⟨hw.2, hw.1⟩) fun read => ?_
  refine Triple.bind (Q := fun _ w => screen ctx snapshot topology disabled = .ok () ∧
    host.load w = loaded) (Triple.ofExcept ?_ ?_) fun _ => ?_
  · grind
  · rintro ack hack w ⟨rfl, hload⟩
    refine ⟨fails_screen h read ack hack, .inl (by_contra fun hno => ?_)⟩
    have hok : screen ctx snapshot topology read = .ok () := by
      refine (screen_ok_iff hval).2 ⟨?_, ?_, ?_⟩
      · by_contra hgw
        exact hno (.otherGateway hgw)
      · rw [← Bool.not_eq_true]
        exact fun hdis => hno (.marker hdis)
      · exact fun p hp htot => hno (.clientTotal p hp htot.1 htot.2)
    cases hack.symm.trans hok
  refine Triple.assume fun hscreen => Triple.bind_fact (loadPrevious_triple h) fun old hold => ?_
  refine Yields.bind (Yields.ofExcept (fun _ hpass => hpass) fun ack hack =>
    ⟨fails_checkTopology h ack hack, .inl (by_contra fun hno => ?_)⟩) fun _ htopology => ?_
  · cases hack.symm.trans (checkTopology_ok hno)
  refine (preflight_yields h hold.1).bind fun plan hplan => ?_
  refine (prepareShape_yields h).bind fun shape _ => ?_
  refine (writeJournal_yields h old).bind fun journal _ => ?_
  refine (installNft_yields h old shape.saved).bind fun _ _ => ?_
  refine (installShape_yields h old).bind fun _ _ => ?_
  refine (saveState_yields h hval old).bind fun _ _ => ?_
  refine (dropJournal_yields).bind fun _ _ => Yields.pure ⟨?_, plan.ackStatus, ?_⟩
  · grind [not_refuses]
  · rw [hplan.1]

/-- Everything the executor asks for succeeds. -/
def compliantHost (loaded : Except String (Option PolicyState)) (disabled : Bool) : Host Unit :=
  .working (fun _ => disabled) (fun _ => loaded) (fun _ w => w) true

theorem compliant_compliantHost : Compliant (compliantHost loaded disabled) where
  persist _ _ := rfl
  clearOwned _ := rfl
  isInstalled _ := rfl
  replace _ _ _ := rfl
  inspectMarkConflicts _ _ _ := rfl
  prepareShaping _ _ _ := rfl
  writeShapingJournal _ _ _ := rfl
  applyShaping _ _ _ := rfl
  recoverShapingJournal _ _ := rfl

theorem results_snapshotPlan (h : SnapshotOk snapshot) :
    (snapshotPlan ctx snapshot topology).results =
      snapshot.policies.map (reported (planInput ctx snapshot topology)) :=
  results_buildPlan _ _ _ _ h.distinct

theorem accepted_plan_iff (h : IdentityOk ctx snapshot) (status : PolicyAckStatus) :
    Accepted (policyAck ctx snapshot topology.capabilities status
      (snapshotPlan ctx snapshot topology).results) ↔
        Reportable (planInput ctx snapshot topology) := by
  rw [accepted_policyAck_iff h, results_snapshotPlan h.snapshot]
  exact validateResults_iff (policiesOk_of_snapshot h.snapshot)

/-- **Acknowledgements that can be sent.** Whatever the operations of the host do, the
acknowledgement of an accepted snapshot passes validation, exactly if the executor refuses the
snapshot or its plan is reportable. -/
theorem ack_accepted_iff (ctx : Context) (snapshot : PolicySnapshot) (topology : PolicyTopology)
    (loaded : Except String (Option PolicyState)) (disabled : Bool)
    (hboot : validText 128 ctx.bootId = true)
    (hvalid : validateSnapshot ctx.codec snapshot = .ok ()) :
    (∀ (W : Type) (host : Host W) (w : W), host.load w = loaded → host.disabled w = disabled →
      validateAck ((processSnapshotWith host ctx snapshot topology).result w).1 = .ok ()) ↔
    Refuses ctx snapshot topology loaded disabled ∨
      Reportable (planInput ctx snapshot topology) := by
  have h : IdentityOk ctx snapshot := ⟨validateSnapshot_ok hvalid, hboot⟩
  constructor
  · intro haccepted
    rcases (processSnapshotWith_triple h hvalid).result
      (⟨rfl, rfl⟩ : (compliantHost loaded disabled).load () = loaded ∧
        (compliantHost loaded disabled).disabled () = disabled) with ⟨-, status, hack⟩ | hout
    · have hplan := haccepted Unit (compliantHost loaded disabled) () rfl rfl
      rw [hack] at hplan
      exact .inr ((accepted_plan_iff h status).1 hplan)
    · exact .inl (hout.cause.resolve_right (not_not_intro compliant_compliantHost))
  · intro hcond W host w hload hdisabled
    rcases (processSnapshotWith_triple h hvalid).result ⟨hload, hdisabled⟩ with
      ⟨hno, status, hack⟩ | hout
    · rw [hack]
      exact (accepted_plan_iff h status).2 (hcond.resolve_left hno)
    · exact hout.accepted

/-! ### A limit for one client -/

/-- A download limit for one client, at the confidence 0.85. -/
def sampleSpec (mac : String) : PolicySpecV1 :=
  { plainSpec with
    name := "Limit laptop"
    selectors := ⟨[mac], [], [], 7656119366529843 / 9007199254740992⟩
    action := { kind := .limit, downloadBps := some 10000000, uploadBps := none } }

def sampleSnapshot (mac checksum : String) : PolicySnapshot :=
  { plainSnapshot with
    checksum
    policies := [⟨"00000000-0000-4000-8000-000000000002", sampleSpec mac⟩] }

/-- The context in which the hashes and the encoded length are those of the sample. -/
def sampleContext (checksum : String) (digest : ℕ) : Context :=
  { codec := ⟨fun _ => checksum, fun _ => 767⟩
    digest16 := fun _ => digest
    topologyFingerprint := fun _ =>
      "f893fc5ef4fe0ac72dd67e9b62e1568cc2a3612d1216c6593199818a088bfe2b"
    gatewayId := "gw-test"
    bootId := "0b7a2c3e-5d41-4f7c-9a55-0f6b1c2d3e4f-1791500000000"
    now := some 1791600001000
    reportedNow := some 1791600001500 }

/-- The checksum of the snapshot for the client AA:BB:CC:DD:EE:FF. -/
def lettersChecksum : String :=
  "sha256:2ab98aed1f885e97380528c94a088c7c910cda16f8b6290d50e4b1fa19abe7f2"

/-- The checksum of the snapshot for the client 00:11:22:33:44:55. -/
def digitsChecksum : String :=
  "sha256:84f3b8a67acae160e59bd460acc40dbf51e85927d584bf2364603c20bbf82681"

/-- The limit is applied for a client whose address has no letter, and reported. -/
theorem ack_accepted_digits :
    validText 128 (sampleContext digitsChecksum 2995).bootId = true ∧
    validateSnapshot (sampleContext digitsChecksum 2995).codec
      (sampleSnapshot "00:11:22:33:44:55" digitsChecksum) = .ok () ∧
    ∀ (W : Type) (host : Host W) (w : W), host.load w = .ok none → host.disabled w = false →
      validateAck ((processSnapshotWith host (sampleContext digitsChecksum 2995)
        (sampleSnapshot "00:11:22:33:44:55" digitsChecksum)
        (sampleTopology "00:11:22:33:44:55")).result w).1 = .ok () := by
  have hboot : validText 128 (sampleContext digitsChecksum 2995).bootId = true := by decide +kernel
  have hvalid : validateSnapshot (sampleContext digitsChecksum 2995).codec
      (sampleSnapshot "00:11:22:33:44:55" digitsChecksum) = .ok () := by decide +kernel
  refine ⟨hboot, hvalid, (ack_accepted_iff _ _ _ (.ok none) false hboot hvalid).2 (.inr ?_)⟩
  exact (accepted_plan_iff ⟨validateSnapshot_ok hvalid, hboot⟩ .applied).1
    (by unfold Accepted; decide +kernel)

/-- The details repeat the client's address in lower case, which validation does not allow. -/
theorem ack_rejected_letters :
    validText 128 (sampleContext lettersChecksum 29902).bootId = true ∧
    validateSnapshot (sampleContext lettersChecksum 29902).codec
      (sampleSnapshot "AA:BB:CC:DD:EE:FF" lettersChecksum) = .ok () ∧
    validateAck ((processSnapshotWith (compliantHost (.ok none) false)
      (sampleContext lettersChecksum 29902) (sampleSnapshot "AA:BB:CC:DD:EE:FF" lettersChecksum)
      (sampleTopology "aa:bb:cc:dd:ee:ff")).result ()).1 =
        .error "policy result details are invalid" := by
  decide +kernel

end Netqmon.Agent.Executor.Acknowledge
