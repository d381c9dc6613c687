import Mathlib
import Netqmon.Agent.Executor.Blocking
import Netqmon.Agent.Priority.Selection

/-! # Do the two backends enforce the same policy?

A snapshot that the priority backend accepts can also be given to `buildPlan`. `Agree` says that
both come to the same decisions: the same blocked clients, the same total of each client and the
same application limits. They do exactly for the `Aligned` inputs. The plan differs otherwise:

* it does not look at the schedule of an application limit;
* it knows no totals of the scope "agent", the only ones the priority backend accepts;
* it blocks a client by its global addresses, of which the client may have none. -/

namespace Netqmon.Agent.Priority.Agreement

open Executor.Blocking Executor.Details Executor.Details.PlanInput Executor.Enforcement
open Executor.Plan Executor.Shaper Executor.Topology Executor.Report Executor.Visits Selection
open SavedState Lib.FirstMatch Lib.Ordered Lib.RustStr Protocol.Policy Protocol.Validate

/-! ### Shapes -/

/-- What the priority backend takes for a block or an allow of clients. -/
def decision (policy : PolicySnapshotEntry) : Bool :=
  !(total policy || applicationLimit policy || applicationBlock policy || applicationAllow policy)

variable {policy : PolicySnapshotEntry}

theorem decision_eq (h : isVerifiedShape policy = true) :
    decision policy = internetDecision policy := by
  rw [Bool.eq_iff_iff]
  constructor
  · intro hdec
    simp only [decision, isVerifiedShape, Bool.not_eq_true', Bool.or_eq_false_iff] at hdec h
    simpa [hdec] using h
  · simp only [internetDecision, decision, total, isClientTotalSpec, applicationLimit,
      applicationBlock, applicationAllow, isApplicationAction, PolicySpecV1.selectsApplications]
    simp +contextual

/-- The policy decides now about the client. -/
def decides (snapshot : PolicySnapshot) (now : Option ℤ) (policy : PolicySnapshotEntry)
    (mac : String) : Bool :=
  isActive snapshot now policy && internetDecision policy && (clientsOf policy).contains mac

variable {mac : String} {a : Assignments}

/-! ### What the priority backend assigns -/

section

variable {snapshot : PolicySnapshot} {now : Option ℤ} {selection : PrioritySelection}

theorem assignClient_decision (h : decision policy = true) :
    (assignClient policy a mac).blockDecided = a.blockDecided.add mac ∧
      (assignClient policy a mac).blockedMacs =
        if mac ∉ a.blockDecided.keys ∧ policy.spec.action.kind = .block then a.blockedMacs.add mac
        else a.blockedMacs := by
  have hund : (!a.blockDecided.contains mac) = true ↔ mac ∉ a.blockDecided.keys := by
    rw [OrderedMap.mem_keys_iff, OrderedMap.contains, Bool.not_eq_true', Bool.not_eq_true]
  simp only [decision, Bool.not_eq_true', Bool.or_eq_false_iff] at h
  simp only [assignClient, h, Bool.false_eq_true, if_false, Bool.and_eq_true, hund,
    beq_iff_eq]
  split_ifs <;> exact ⟨rfl, rfl⟩

theorem assignClient_other (h : decision policy = false) :
    (assignClient policy a mac).blockDecided = a.blockDecided ∧
      (assignClient policy a mac).blockedMacs = a.blockedMacs := by
  rw [decision] at h
  unfold assignClient
  split_ifs with h1 h2 h3 h4
  · exact ⟨rfl, rfl⟩
  · exact ⟨rfl, rfl⟩
  · exact ⟨rfl, rfl⟩
  · exact ⟨rfl, rfl⟩
  · simp [h1, h2, h3, h4] at h

theorem firstWins_assignClient (policy : PolicySnapshotEntry) :
    FirstWins (assignClient policy) (fun a mac => mac ∈ a.blockDecided.keys)
      (fun a mac => mac ∈ a.blockedMacs.keys) (fun mac other => decision policy && mac == other)
      (fun _ mac other => policy.spec.action.kind = .block ∧ mac = other) where
  decided_step a mac other := by
    cases h : decision policy with
    | true =>
      rw [(assignClient_decision h).1, OrderedSet.mem_keys_add, or_comm]
      exact or_congr_right (by simpa using eq_comm)
    | false =>
      rw [(assignClient_other h).1]
      simp
  effects_step a mac other := by
    cases h : decision policy with
    | true =>
      rw [(assignClient_decision h).2]
      split_ifs with hb
      · grind [OrderedSet.mem_keys_add]
      · refine ⟨Or.inl, fun hor => hor.resolve_right ?_⟩
        rintro ⟨k, hund, hnm, hkd, -⟩
        have hk : mac = k := by simpa using hnm
        exact hb ⟨hk ▸ hund, hkd⟩
    | false =>
      rw [(assignClient_other h).2]
      simp

/-- The clients of a policy that takes effect now. -/
def clientsNow (snapshot : PolicySnapshot) (now : Option ℤ) (policy : PolicySnapshotEntry) :
    List String :=
  if isActive snapshot now policy then clientsOf policy else []

theorem mem_clientsNow :
    mac ∈ clientsNow snapshot now policy ↔
      isActive snapshot now policy = true ∧ mac ∈ clientsOf policy := by
  unfold clientsNow
  split_ifs with h <;> simp [h]

theorem assignPolicy_eq :
    assignPolicy snapshot now a policy =
      (clientsNow snapshot now policy).foldl (assignClient policy) a := by
  unfold assignPolicy clientsNow
  split_ifs <;> rfl

/-- What a policy does for one of its clients now, said of the whole snapshot. -/
theorem foldl_assignPolicy_collects {Q : Assignments → Prop}
    {R : PolicySnapshotEntry → String → Prop}
    (h : ∀ policy a mac, Q (assignClient policy a mac) ↔ Q a ∨ R policy mac)
    (hst : ¬ Q .start) (ps : List PolicySnapshotEntry) :
    Q (ps.foldl (assignPolicy snapshot now) .start) ↔
      ∃ policy ∈ ps, ∃ mac ∈ clientsNow snapshot now policy, R policy mac := by
  have hstp : ∀ a policy, Q (assignPolicy snapshot now a policy) ↔
      Q a ∨ ∃ mac ∈ clientsNow snapshot now policy, R policy mac := by
    intro a policy
    rw [assignPolicy_eq]
    exact foldl_collects (h policy) _ a
  rw [foldl_collects hstp]
  exact or_iff_right hst

theorem mem_ordered {policies : List PolicySnapshotEntry} :
    policy ∈ ordered policies ↔ policy ∈ policies :=
  List.mem_insertionSort _

def totalRate (rates : TotalRates) : ShapeDirection → Option ℕ
  | .upload => rates.uploadBps
  | .download => rates.downloadBps

/-- The total of a client in one direction. -/
def totalOf (totals : OrderedMap String TotalRates) (mac : String) (direction : ShapeDirection) :
    Option ℕ :=
  (totals.lookup mac).bind (totalRate · direction)

theorem totals_assignClient :
    (assignClient policy a mac).totals =
      if total policy then a.totals.upsert mac (addTotal policy) else a.totals := by
  unfold assignClient
  dsimp only
  split_ifs <;> rfl

theorem totalOf_assignClient (policy : PolicySnapshotEntry) (a : Assignments) (mac other : String)
    (dir : ShapeDirection) :
    (totalOf (assignClient policy a mac).totals other dir).isSome = true ↔
      (totalOf a.totals other dir).isSome = true ∨
        total policy = true ∧ (limitRate policy dir).isSome = true ∧ mac = other := by
  unfold totalOf
  rw [totals_assignClient]
  split_ifs with htot
  · rw [OrderedMap.lookup_upsert]
    by_cases hmac : other = mac
    · subst hmac
      cases a.totals.lookup other <;> cases dir <;>
        simp [htot, addTotal, limitRate, totalRate, minRate_isSome]
    · simp [hmac, Ne.symm hmac]
  · simp [htot]

theorem applicationLimits_assignClient :
    (assignClient policy a mac).applicationLimits =
      if applicationLimit policy then
        a.applicationLimits ++
          [⟨mac, policy.id, limitRate policy .upload, limitRate policy .download⟩]
      else a.applicationLimits := by
  have hdisjoint : total policy = true → applicationLimit policy = false := by
    simp only [total, isClientTotalSpec, applicationLimit, isApplicationAction,
      PolicySpecV1.selectsApplications]
    simp +contextual
  unfold assignClient
  dsimp only
  by_cases htot : total policy = true
  · simp [htot, hdisjoint htot]
  · split_ifs <;> rfl

variable (haccepted : Accepted snapshot now selection)
include haccepted

variable (mac : String)

/-- **Blocked clients of the priority backend.** The first active block or allow decides. -/
theorem mem_blockedMacs :
    mac ∈ selection.blockedMacs.keys ↔ ∃ policy,
      (ordered snapshot.policies).find? (decides snapshot now · mac) = some policy ∧
        policy.spec.action.kind = .block := by
  have hwins := FirstWins.ofLoop (clientsNow snapshot now) firstWins_assignClient
  have hnm : ∀ k, ∀ policy ∈ ordered snapshot.policies,
      ((clientsNow snapshot now policy).any fun mac => decision policy && mac == k) =
        decides snapshot now policy k := by
    intro k policy hpol
    have hdec : isActive snapshot now policy = true →
        decision policy = internetDecision policy := by
      intro hact
      rw [isActive, Bool.and_eq_true] at hact
      exact decision_eq (haccepted.policies policy (mem_ordered.1 hpol) hact.1).shape
    rw [Bool.eq_iff_iff, List.any_eq_true]
    simp only [mem_clientsNow, decides]
    constructor
    · grind
    · grind
  have hfo := hwins.effects_foldl (ordered snapshot.policies) .start mac
  simp only [List.find?_congr (hnm _), ← assignPolicy_eq] at hfo
  rw [haccepted.blocked, hfo]
  simp [Assignments.start]

/-- **Totals of the priority backend.** -/
theorem totalOf_isSome (dir : ShapeDirection) :
    (totalOf selection.totals mac dir).isSome = true ↔
      ∃ policy ∈ snapshot.policies, isActive snapshot now policy = true ∧ total policy = true ∧
        (limitRate policy dir).isSome = true ∧ mac ∈ clientsOf policy := by
  rw [haccepted.totals, foldl_assignPolicy_collects
    (Q := fun a => (totalOf a.totals mac dir).isSome = true)
    (fun policy a other => totalOf_assignClient policy a other mac dir)
    (by simp [totalOf, Assignments.start])]
  simp only [mem_ordered, mem_clientsNow]
  constructor
  · grind
  · grind

/-- **Application limits of the priority backend.** -/
theorem mem_applicationLimits (limit : ApplicationRates) :
    limit ∈ selection.applicationLimits ↔
      ∃ policy ∈ snapshot.policies, isActive snapshot now policy = true ∧
        applicationLimit policy = true ∧ limit.mac ∈ clientsOf policy ∧
          limit = ⟨limit.mac, policy.id, limitRate policy .upload, limitRate policy .download⟩ := by
  have hstp : ∀ policy a mac, limit ∈ (assignClient policy a mac).applicationLimits ↔
      limit ∈ a.applicationLimits ∨ applicationLimit policy = true ∧
        limit = ⟨mac, policy.id, limitRate policy .upload, limitRate policy .download⟩ := by
    intro policy a mac
    rw [applicationLimits_assignClient]
    split_ifs with hlim <;> simp [hlim]
  rw [haccepted.limits, foldl_assignPolicy_collects
    (Q := fun a => limit ∈ a.applicationLimits) hstp (by simp [Assignments.start])]
  simp only [mem_ordered, mem_clientsNow]
  constructor
  · grind
  · grind

end

/-! ### What the plan enforces -/

variable (snapshot : PolicySnapshot)

/-- The arguments of `buildPlan` for a snapshot. -/
def input (now : Option ℤ) (topology : PolicyTopology) : PlanInput :=
  ⟨snapshot.policies, snapshot.scheduleIntervals, snapshot.validUntilMs, now, topology⟩

structure AllSupported (capabilities : PolicyCapabilities) : Prop where
  clientBlock : capabilities.clientBlock = .supported
  clientLimit : capabilities.clientLimit = .supported
  applicationBlock : capabilities.applicationBlock = .supported
  applicationLimit : capabilities.applicationLimit = .supported

/-- Every client of a policy in force has unambiguous current addresses. -/
def Resolved (now : Option ℤ) (topology : PolicyTopology) : Prop :=
  ∀ policy ∈ snapshot.policies, isActive snapshot now policy = true →
    ∀ mac ∈ policy.spec.selectors.clients,
      found (.fromNeighbors topology.neighborBindings) mac = true

theorem applicationRates_isSome (i : PlanInput) (key : String ×ₗ String) :
    (i.state.applicationRates.lookup key).isSome = true ↔
      ∃ policy ∈ i.policies, i.enforces policy = true ∧
        (isLimit policy && isApplicationPolicy policy) = true ∧
        ∃ listed ∈ policy.spec.selectors.clients, i.finds listed = true ∧
          key = toLex (policy.id, toAsciiLowercase listed) := by
  have hcli : ∀ policy (t : ApplicationRateMap) listed,
      ((if i.finds listed then addApplicationRate policy (toAsciiLowercase listed) t
        else t).lookup key).isSome = true ↔
      (t.lookup key).isSome = true ∨ (isLimit policy && isApplicationPolicy policy) = true ∧
        i.finds listed = true ∧ key = toLex (policy.id, toAsciiLowercase listed) := by
    intro policy t listed
    split_ifs with hfd
    · grind [lookup_addApplicationRate]
    · simp [hfd]
  have hpol := fun t policy =>
    foldl_collects (Q := fun t : ApplicationRateMap => (t.lookup key).isSome = true)
      (hcli policy) policy.spec.selectors.clients t
  have hps := foldl_collects
    (Q := fun t : ApplicationRateMap => (t.lookup key).isSome = true) hpol i.candidates .empty
  rw [applicationRates_eq]
  refine hps.trans ?_
  simp only [OrderedMap.lookup_empty, PlanInput.mem_candidates]
  constructor
  · grind
  · grind

section

variable {snapshot : PolicySnapshot} {now : Option ℤ} {selection : PrioritySelection}
  {topology : PolicyTopology}

theorem clientShape_eq (h : isVerifiedShape policy = true) :
    isClientPolicyShape policy = internetDecision policy := by
  rw [Bool.eq_iff_iff]
  simp only [isVerifiedShape, isClientPolicyShape, internetDecision, total, isClientTotalSpec,
    policyClientTotalScope, applicationLimit, applicationBlock, applicationAllow,
    isApplicationAction, PolicySpecV1.selectsApplications] at h ⊢
  constructor
  · intro hsh
    simp_all
  · simp_all

theorem isApplicationLimit_eq (hcapabilities : AllSupported topology.capabilities)
    (hdir : policy.spec.network.direction = "both") :
    isApplicationLimit topology policy = applicationLimit policy := by
  rw [Bool.eq_iff_iff]
  simp only [isApplicationLimit, applicationLimit, isApplicationAction,
    hcapabilities.applicationLimit, hdir]
  simp only [Bool.and_eq_true]
  tauto

variable (haccepted : Accepted snapshot now selection)
  (hcapabilities : AllSupported topology.capabilities)
include haccepted hcapabilities

/-- The plan enforces an application limit at any time. -/
theorem enforces_eq (hpol : policy ∈ snapshot.policies) :
    (input snapshot now topology).enforces policy =
      (isActive snapshot now policy && internetDecision policy
        || policy.spec.enabled && applicationLimit policy) := by
  unfold PlanInput.enforces isEnforced isActive
  cases hen : policy.spec.enabled with
  | false => rfl
  | true =>
    have haccept := haccepted.policies policy hpol hen
    have hdir := validatePolicySpec_direction (haccepted.valid.specs policy hpol)
    have hplannable : isPlannable topology snapshot.scheduleIntervals policy = true := by
      have hkn : policy.spec.schedule.isSome = true →
          snapshot.scheduleIntervals.all (·.policyId != policy.id) = false := by
        intro hsc
        obtain ⟨e, he, hid⟩ := haccept.scheduled hsc
        exact List.all_eq_false.2 ⟨e, he, by simp [hid]⟩
      unfold isPlannable
      rw [hcapabilities.clientLimit]
      grind
    have hexclusive : internetDecision policy = true → applicationLimit policy = false := by
      simp only [internetDecision, applicationLimit, isApplicationAction]
      simp +contextual
    simp only [input, clientShape_eq haccept.shape, isApplicationLimit_eq hcapabilities hdir]
    grind

omit hcapabilities in
theorem candidates_eq :
    (input snapshot now topology).candidates =
      (ordered snapshot.policies).filter ((input snapshot now topology).enforces ·) := by
  have hcands : (input snapshot now topology).candidates =
      ordered (snapshot.policies.filter ((input snapshot now topology).enforces ·)) := by
    unfold PlanInput.candidates Executor.Plan.candidates ordered
    simp only [classify_enforced]
    rfl
  rw [hcands]
  refine List.Perm.eq_of_pairwise ?_ (List.pairwise_insertionSort _ _)
    ((List.pairwise_insertionSort _ _).filter _)
    ((List.perm_insertionSort _ _).trans ((List.perm_insertionSort _ _).filter _).symm)
  intro a b ha hb hab hba
  have ha := (List.mem_filter.1 (mem_ordered.1 ha)).1
  have hb := mem_ordered.1 (List.mem_filter.1 hb).1
  have hrank : candidateRank a = candidateRank b := le_antisymm hab hba
  exact eq_of_id_eq haccepted.valid.distinct ha hb (congrArg (fun rank => (ofLex rank).2) hrank)

variable (hresolved : Resolved snapshot now topology)
include hresolved

theorem find_candidates (mac : String) :
    (input snapshot now topology).candidates.find?
        (decidesFound (.fromNeighbors topology.neighborBindings) · mac) =
      (ordered snapshot.policies).find? (decides snapshot now · mac) := by
  rw [candidates_eq haccepted, List.find?_filter]
  refine List.find?_congr fun policy hpol => ?_
  have hpol := mem_ordered.1 hpol
  rw [Bool.eq_iff_iff, decide_eq_true_eq, enforces_eq haccepted hcapabilities hpol]
  unfold decidesFound decides clientsOf
  simp only [Bool.or_eq_true, Bool.and_eq_true, List.any_eq_true, List.contains_iff_mem,
    List.mem_map, beq_iff_eq, Bool.not_eq_true']
  constructor
  · grind [applicationLimit, isApplicationAction, isLimit]
  · rintro ⟨⟨hact, hdec⟩, listed, hli, hmac⟩
    refine ⟨.inl ⟨hact, hdec⟩, listed, hli, ⟨?_, ?_⟩, hmac⟩
    · simp only [internetDecision, Bool.and_eq_true, bne_iff_ne] at hdec
      simpa [isLimit] using hdec.2
    · exact hresolved policy hpol hact listed hli

omit hresolved in
theorem rateAt_clientRates (mac : String) (dir : ShapeDirection) :
    rateAt (plan (input snapshot now topology)).clientRates mac dir = none := by
  rw [← Option.not_isSome_iff_eq_none]
  intro hs
  have hlimited := (rateAt_isSome (input snapshot now topology) mac dir).1 hs
  obtain ⟨policy, hpol, hall⟩ := List.any_eq_true.1 hlimited
  simp only [Bool.and_eq_true] at hall
  obtain ⟨⟨⟨⟨henf, hlim⟩, hcli⟩, -⟩, -⟩ := hall
  rw [enforces_eq haccepted hcapabilities hpol, Bool.or_eq_true, Bool.and_eq_true,
    Bool.and_eq_true] at henf
  rcases henf with ⟨-, hdec⟩ | ⟨-, happ⟩
  · simp_all [internetDecision, isLimit]
  · simp_all [applicationLimit, isApplicationAction, isApplicationPolicy]

omit hresolved in
/-- **Application limits of the plan.** -/
theorem lookup_plan_applicationRates (policyId mac : String) (rates : ClientRates) :
    (plan (input snapshot now topology)).applicationRates.lookup (toLex (policyId, mac)) =
        some rates ↔
      ∃ policy ∈ snapshot.policies, policy.spec.enabled = true ∧ applicationLimit policy = true ∧
        policy.id = policyId ∧ rates = ⟨limitRate policy .upload, limitRate policy .download⟩ ∧
          ∃ listed ∈ policy.spec.selectors.clients,
            found (.fromNeighbors topology.neighborBindings) listed = true ∧
              toAsciiLowercase listed = mac := by
  have hown : ∀ policy ∈ snapshot.policies, policy.spec.enabled = true →
      applicationLimit policy = true → ∀ listed ∈ policy.spec.selectors.clients,
        found (.fromNeighbors topology.neighborBindings) listed = true →
          (plan (input snapshot now topology)).applicationRates.lookup
            (toLex (policy.id, toAsciiLowercase listed)) =
              some ⟨limitRate policy .upload, limitRate policy .download⟩ := by
    intro policy hpol hen hlim listed hli hfd
    have henf : (input snapshot now topology).enforces policy = true := by
      rw [enforces_eq haccepted hcapabilities hpol, hen, hlim]
      simp
    have hkd : (isLimit policy && isApplicationPolicy policy) = true := by
      simp only [applicationLimit, isApplicationAction, Bool.and_eq_true] at hlim
      rw [isLimit, isApplicationPolicy, hlim.1.1.1, hlim.2]
      rfl
    exact lookup_applicationRates (input snapshot now topology) haccepted.valid.distinct hpol
      hkd ((mem_selected _ haccepted.valid.distinct hpol).2
        ⟨henf, listed, hli, hfd, rfl⟩)
  constructor
  · intro hl
    have hs : ((plan (input snapshot now topology)).applicationRates.lookup
        (toLex (policyId, mac))).isSome = true := by rw [hl]; rfl
    obtain ⟨policy, hpol, henf, hkd, listed, hli, hfd, hkey⟩ :=
      (applicationRates_isSome (input snapshot now topology) _).1 hs
    obtain ⟨rfl, rfl⟩ : policyId = policy.id ∧ mac = toAsciiLowercase listed := by simpa using hkey
    rw [enforces_eq haccepted hcapabilities hpol, Bool.or_eq_true, Bool.and_eq_true,
      Bool.and_eq_true] at henf
    rcases henf with ⟨-, hdec⟩ | ⟨hen, hlim⟩
    · simp_all [internetDecision, isLimit]
    · have hrt := (hown policy hpol hen hlim listed hli hfd).symm.trans hl
      exact ⟨policy, hpol, hen, hlim, rfl, (Option.some.inj hrt).symm, listed,
        hli, hfd, rfl⟩
  · grind

end

/-! ### Agreement -/

/-- The plan and the selection come to the same decisions. -/
structure Agree (topology : PolicyTopology) (plan : BuiltPlan) (selection : PrioritySelection) :
    Prop where
  blocked : ∀ mac, BlocksClient topology plan mac ↔ mac ∈ selection.blockedMacs.keys
  totals : ∀ mac direction,
    rateAt plan.clientRates mac direction = totalOf selection.totals mac direction
  limits : ∀ policyId mac rates,
    plan.applicationRates.lookup (toLex (policyId, mac)) = some rates ↔
      ⟨mac, policyId, rates.uploadBps, rates.downloadBps⟩ ∈ selection.applicationLimits

/-- Only policies whose schedule is active contribute, to either of the two. -/
structure FromActive (snapshot : PolicySnapshot) (now : Option ℤ) (topology : PolicyTopology)
    (plan : BuiltPlan) (selection : PrioritySelection) : Prop where
  blocked : ∀ mac, BlocksClient topology plan mac ∨ mac ∈ selection.blockedMacs.keys →
    ∃ policy ∈ snapshot.policies, isActive snapshot now policy = true ∧
      policy.spec.action.kind = .block ∧ mac ∈ clientsOf policy
  totals : ∀ mac direction, (rateAt plan.clientRates mac direction).isSome = true ∨
      (totalOf selection.totals mac direction).isSome = true →
    ∃ policy ∈ snapshot.policies, isActive snapshot now policy = true ∧
      policy.spec.action.kind = .limit ∧ mac ∈ clientsOf policy
  limits : ∀ policyId mac,
    (plan.applicationRates.lookup (toLex (policyId, mac))).isSome = true ∨
      (∃ limit ∈ selection.applicationLimits, limit.policyId = policyId ∧ limit.mac = mac) →
    ∃ policy ∈ snapshot.policies, isActive snapshot now policy = true ∧
      policy.spec.action.kind = .limit ∧ policy.id = policyId ∧ mac ∈ clientsOf policy

/-- What the two backends need to agree. -/
structure Aligned (snapshot : PolicySnapshot) (now : Option ℤ) (topology : PolicyTopology) :
    Prop where
  /-- No total is in force. -/
  totals : ∀ policy ∈ snapshot.policies, isActive snapshot now policy = true →
    total policy = false
  /-- Enabled application limits, with a client that is present, are in force. -/
  limits : ∀ policy ∈ snapshot.policies, policy.spec.enabled = true →
    applicationLimit policy = true →
    (∃ listed ∈ policy.spec.selectors.clients,
      found (.fromNeighbors topology.neighborBindings) listed = true) →
    isActive snapshot now policy = true
  /-- Clients that are to be blocked have a global address. -/
  addresses : ∀ mac policy,
    (ordered snapshot.policies).find? (decides snapshot now · mac) = some policy →
    policy.spec.action.kind = .block →
    ∃ binding ∈ topology.neighborBindings, toAsciiLowercase binding.1 = mac ∧
      isUnicastGlobal binding.2 = true

section

variable {snapshot : PolicySnapshot} {now : Option ℤ} {selection : PrioritySelection}
  {topology : PolicyTopology} (haccepted : Accepted snapshot now selection)
  (hcapabilities : AllSupported topology.capabilities)
include haccepted hcapabilities

theorem blocked_agree_iff (hipv6 : topology.ipv6Coverage = true)
    (hresolved : Resolved snapshot now topology) :
    (∀ mac, BlocksClient topology (plan (input snapshot now topology)) mac ↔
        mac ∈ selection.blockedMacs.keys) ↔
      ∀ mac policy, (ordered snapshot.policies).find? (decides snapshot now · mac) = some policy →
        policy.spec.action.kind = .block →
        ∃ binding ∈ topology.neighborBindings, toAsciiLowercase binding.1 = mac ∧
          isUnicastGlobal binding.2 = true := by
  have hplan : ∀ mac, BlocksClient topology (plan (input snapshot now topology)) mac ↔
      mac ∈ selection.blockedMacs.keys ∧ ∃ binding ∈ topology.neighborBindings,
        toAsciiLowercase binding.1 = mac ∧ isUnicastGlobal binding.2 = true := by
    intro mac
    rw [mem_blockedMacs haccepted]
    have hcli := blocksClient_iff (input snapshot now topology) hipv6 mac
    have hfd := find_candidates haccepted hcapabilities hresolved mac
    refine hcli.trans (and_congr_left fun _ => ?_)
    exact exists_congr fun policy => by rw [← hfd]; rfl
  constructor
  · intro hagree mac policy hfd hkd
    have hbl := (mem_blockedMacs haccepted mac).2 ⟨policy, hfd, hkd⟩
    exact ((hplan mac).1 ((hagree mac).2 hbl)).2
  · intro haddr mac
    rw [hplan]
    refine and_iff_left_of_imp fun hbl => ?_
    obtain ⟨policy, hfd, hkd⟩ := (mem_blockedMacs haccepted mac).1 hbl
    exact haddr mac policy hfd hkd

theorem totals_agree_iff :
    (∀ mac dir, rateAt (plan (input snapshot now topology)).clientRates mac dir =
        totalOf selection.totals mac dir) ↔
      ∀ policy ∈ snapshot.policies, isActive snapshot now policy = true → total policy = false := by
  simp only [rateAt_clientRates haccepted hcapabilities]
  constructor
  · intro hn policy hpol hact
    by_contra htot
    rw [Bool.not_eq_false] at htot
    have hspec := validatePolicySpec_ok (haccepted.valid.specs policy hpol)
    have hsh := htot
    simp only [total, isClientTotalSpec, Bool.and_eq_true, beq_iff_eq, Bool.not_eq_true',
      List.isEmpty_eq_false_iff] at hsh
    obtain ⟨⟨⟨⟨⟨-, -⟩, hkd⟩, hcl⟩, -⟩, -⟩ := hsh
    obtain ⟨listed, hli⟩ := List.exists_mem_of_ne_nil _ hcl
    obtain ⟨dir, hrate⟩ : ∃ dir, (limitRate policy dir).isSome = true := by
      rcases hspec.someRate hkd with hup | hdown
      · exact ⟨.upload, hup⟩
      · exact ⟨.download, hdown⟩
    have hs := (totalOf_isSome haccepted (toAsciiLowercase listed) dir).2
      ⟨policy, hpol, hact, htot, hrate, List.mem_map_of_mem hli⟩
    rw [← hn] at hs
    cases hs
  · grind [Option.not_isSome_iff_eq_none, totalOf_isSome]

theorem limits_agree_iff (hresolved : Resolved snapshot now topology) :
    (∀ policyId mac rates, (plan (input snapshot now topology)).applicationRates.lookup
        (toLex (policyId, mac)) = some rates ↔
      ⟨mac, policyId, rates.uploadBps, rates.downloadBps⟩ ∈ selection.applicationLimits) ↔
      ∀ policy ∈ snapshot.policies, policy.spec.enabled = true → applicationLimit policy = true →
        (∃ listed ∈ policy.spec.selectors.clients,
          found (.fromNeighbors topology.neighborBindings) listed = true) →
        isActive snapshot now policy = true := by
  constructor
  · rintro hagree policy hpol hen hlim ⟨listed, hli, hfd⟩
    have hplan := (lookup_plan_applicationRates haccepted hcapabilities policy.id
      (toAsciiLowercase listed) ⟨limitRate policy .upload, limitRate policy .download⟩).2
      ⟨policy, hpol, hen, hlim, rfl, rfl, listed, hli, hfd, rfl⟩
    obtain ⟨other, ho, hact, -, -, heq⟩ :=
      (mem_applicationLimits haccepted _).1 ((hagree _ _ _).1 hplan)
    have hid : policy.id = other.id := congrArg ApplicationRates.policyId heq
    rwa [eq_of_id_eq haccepted.valid.distinct hpol ho hid]
  · intro hact policyId mac rates
    rw [lookup_plan_applicationRates haccepted hcapabilities, mem_applicationLimits haccepted]
    constructor
    · rintro ⟨policy, hpol, hen, hlim, rfl, rfl, listed, hli, hfd, rfl⟩
      exact ⟨policy, hpol, hact policy hpol hen hlim ⟨listed, hli, hfd⟩,
        hlim, List.mem_map_of_mem hli, rfl⟩
    · rintro ⟨policy, hpol, hnow, hlim, hmem, heq⟩
      obtain ⟨listed, hli, rfl⟩ := List.mem_map.1 hmem
      obtain ⟨rfl, hrt⟩ : policyId = policy.id ∧
          rates = ⟨limitRate policy .upload, limitRate policy .download⟩ := by
        simp only [ApplicationRates.mk.injEq, true_and] at heq
        exact ⟨heq.1, by cases rates; simp_all⟩
      have hen : policy.spec.enabled = true := by grind [isActive]
      exact ⟨policy, hpol, hen, hlim, rfl, hrt, listed, hli,
        hresolved policy hpol hnow listed hli, rfl⟩

end

variable {now : Option ℤ}

/-- The priority backend only lets policies in force contribute; so does a plan that agrees. -/
theorem fromActive_of_agree {snapshot : PolicySnapshot} {selection : PrioritySelection}
    {topology : PolicyTopology} {plan : BuiltPlan} (haccepted : Accepted snapshot now selection)
    (hagree : Agree topology plan selection) : FromActive snapshot now topology plan selection where
  blocked mac hbl := by
    have hsel : mac ∈ selection.blockedMacs.keys := hbl.elim (hagree.blocked mac).1 id
    obtain ⟨policy, hfd, hkd⟩ := (mem_blockedMacs haccepted mac).1 hsel
    have hdec := List.find?_some hfd
    simp only [decides, Bool.and_eq_true, List.contains_iff_mem] at hdec
    exact ⟨policy, mem_ordered.1 (List.mem_of_find?_eq_some hfd), hdec.1.1, hkd,
      hdec.2⟩
  totals mac direction hs := by
    rw [hagree.totals, or_self, totalOf_isSome haccepted] at hs
    obtain ⟨policy, hpol, hact, htot, -, hmem⟩ := hs
    simp only [total, isClientTotalSpec, Bool.and_eq_true, beq_iff_eq] at htot
    exact ⟨policy, hpol, hact, htot.1.1.1.2, hmem⟩
  limits policyId mac hs := by
    have hlim : ∃ limit ∈ selection.applicationLimits,
        limit.policyId = policyId ∧ limit.mac = mac := by
      rcases hs with hplan | hsel
      · obtain ⟨rates, hrt⟩ := Option.isSome_iff_exists.1 hplan
        exact ⟨_, (hagree.limits policyId mac rates).1 hrt, rfl, rfl⟩
      · exact hsel
    obtain ⟨limit, hlim, rfl, rfl⟩ := hlim
    obtain ⟨policy, hpol, hact, hkd, hmem, heq⟩ :=
      (mem_applicationLimits haccepted limit).1 hlim
    simp only [applicationLimit, isApplicationAction, Bool.and_eq_true, beq_iff_eq] at hkd
    grind

/-- **Agreement of the backends.** On a topology that supports every policy, the plan and the
priority selection of an accepted snapshot agree if and only if no total is in force, no
application limit is suspended by its schedule and every client to be blocked has a global
address. -/
theorem backends_agree_iff {codec : Codec} {snapshot : PolicySnapshot} {gateway : String}
    {now : Option ℤ} {selection : PrioritySelection} {topology : PolicyTopology}
    (hok : fromSnapshot codec snapshot gateway now = .ok selection)
    (hcapabilities : AllSupported topology.capabilities)
    (hipv6 : topology.ipv6Coverage = true) (hresolved : Resolved snapshot now topology) :
    (Agree topology (buildPlan snapshot.policies snapshot.scheduleIntervals snapshot.validUntilMs
        now topology) selection ∧
      FromActive snapshot now topology (buildPlan snapshot.policies snapshot.scheduleIntervals
        snapshot.validUntilMs now topology) selection) ↔ Aligned snapshot now topology := by
  have haccepted := accepted_of_ok hok
  have hblocked := blocked_agree_iff haccepted hcapabilities hipv6 hresolved
  have htotals := totals_agree_iff haccepted hcapabilities
  have hlimits := limits_agree_iff haccepted hcapabilities hresolved
  constructor
  · rintro ⟨hagree, -⟩
    exact ⟨htotals.1 hagree.totals, hlimits.1 hagree.limits, hblocked.1 hagree.blocked⟩
  · intro haligned
    have hagree : Agree topology (plan (input snapshot now topology)) selection :=
      ⟨hblocked.2 haligned.addresses, htotals.2 haligned.totals, hlimits.2 haligned.limits⟩
    exact ⟨hagree, fromActive_of_agree haccepted hagree⟩

/-! ### A limit on Sunday evenings -/

/-- Videos of one client are limited on Sundays from six to eight in the evening. -/
def videoSpec : PolicySpecV1 :=
  { plainSpec with
    name := "Limit video"
    selectors := ⟨["AA:BB:CC:DD:EE:FF"], ["youtube"], [], 7656119366529843 / 9007199254740992⟩
    action := { kind := .limit, downloadBps := some 10000000, uploadBps := none }
    schedule := some ⟨"UTC", [⟨[.sun], "18:00", "20:00"⟩]⟩ }

def videoSnapshot : PolicySnapshot :=
  { plainSnapshot with
    checksum := "sha256:7f724f0c014cf2f15980f2752e7025ebec004a3736d8e23bbc437e19eeeb1f31"
    policies := [⟨"00000000-0000-4000-8000-000000000002", videoSpec⟩]
    scheduleIntervals := [⟨"00000000-0000-4000-8000-000000000002",
      [⟨1791741600000, 1791748800000⟩, ⟨1792346400000, 1792353600000⟩,
        ⟨1792951200000, 1792958400000⟩, ⟨1793556000000, 1793563200000⟩,
        ⟨1794160800000, 1794168000000⟩]⟩] }

/-- The hash and the encoded length are those of the sample. -/
def videoCodec : Codec := ⟨fun _ => videoSnapshot.checksum, fun _ => 1164⟩

def videoTopology : PolicyTopology :=
  { sampleTopology "aa:bb:cc:dd:ee:ff" with
    capabilities := ⟨.supported, .supported, .supported, .supported, some .supported⟩
    ipv6Coverage := true }

def saturdayNight : Option ℤ := some 1791600001000

def sundayEvening : Option ℤ := some 1791743400000

theorem selected_of_limits {limits : List ApplicationRates}
    (h : (fromSnapshot videoCodec videoSnapshot "gw-test" now).toOption.map
      (·.applicationLimits) = some limits) :
    ∃ selection, fromSnapshot videoCodec videoSnapshot "gw-test" now = .ok selection ∧
      selection.applicationLimits = limits := by
  rcases hres : fromSnapshot videoCodec videoSnapshot "gw-test" now with error | selection
  · rw [hres] at h
    cases h
  · rw [hres] at h
    exact ⟨selection, rfl, Option.some.inj h⟩

/-- On a Saturday night the plan limits the client and the priority backend does not. -/
theorem suspended_limit_planned :
    AllSupported videoTopology.capabilities ∧ videoTopology.ipv6Coverage = true ∧
      Resolved videoSnapshot saturdayNight videoTopology ∧
      (∀ policy ∈ videoSnapshot.policies, isActive videoSnapshot saturdayNight policy = false ∧
        ∀ mac ∈ policy.spec.selectors.clients,
          found (.fromNeighbors videoTopology.neighborBindings) mac = true ∧
            (MacAddress.fromStr mac).toOption.map (·.isUnicast) = some true) ∧
      ∃ selection, fromSnapshot videoCodec videoSnapshot "gw-test" saturdayNight = .ok selection ∧
        selection.applicationLimits = [] ∧
        ¬ Agree videoTopology (buildPlan videoSnapshot.policies videoSnapshot.scheduleIntervals
          videoSnapshot.validUntilMs saturdayNight videoTopology) selection := by
  obtain ⟨selection, hok, hlimits⟩ :=
    @selected_of_limits saturdayNight [] (by decide +kernel)
  have hplanned : ((buildPlan videoSnapshot.policies videoSnapshot.scheduleIntervals
      videoSnapshot.validUntilMs saturdayNight videoTopology).applicationRates.lookup
        (toLex ("00000000-0000-4000-8000-000000000002", "aa:bb:cc:dd:ee:ff"))).isSome = true := by
    decide +kernel
  refine ⟨⟨rfl, rfl, rfl, rfl⟩, rfl, ?_, ?_, selection, hok, hlimits, fun hagree => ?_⟩
  · unfold Resolved
    decide +kernel
  · decide +kernel
  · obtain ⟨rates, hrates⟩ := Option.isSome_iff_exists.1 hplanned
    have hmem := (hagree.limits _ _ rates).1 hrates
    rw [hlimits] at hmem
    cases hmem

/-- On a Sunday evening both limit it. -/
theorem limit_in_force_agrees :
    ∃ selection, fromSnapshot videoCodec videoSnapshot "gw-test" sundayEvening = .ok selection ∧
      AllSupported videoTopology.capabilities ∧
      Resolved videoSnapshot sundayEvening videoTopology ∧
      Aligned videoSnapshot sundayEvening videoTopology ∧
      Agree videoTopology (buildPlan videoSnapshot.policies videoSnapshot.scheduleIntervals
        videoSnapshot.validUntilMs sundayEvening videoTopology) selection ∧
      selection.applicationLimits =
        [⟨"aa:bb:cc:dd:ee:ff", "00000000-0000-4000-8000-000000000002", none, some 10000000⟩] := by
  obtain ⟨selection, hok, hlimits⟩ := @selected_of_limits sundayEvening
    [⟨"aa:bb:cc:dd:ee:ff", "00000000-0000-4000-8000-000000000002", none, some 10000000⟩]
    (by decide +kernel)
  have hresolved : Resolved videoSnapshot sundayEvening videoTopology := by
    unfold Resolved
    decide +kernel
  have hnone : ∀ policy ∈ ordered videoSnapshot.policies, internetDecision policy = false := by
    decide +kernel
  have haligned : Aligned videoSnapshot sundayEvening videoTopology := by
    refine ⟨by decide +kernel, by decide +kernel, fun mac policy hfind _ => ?_⟩
    have hdecides := List.find?_some hfind
    simp [decides, hnone policy (List.mem_of_find?_eq_some hfind)] at hdecides
  exact ⟨selection, hok, ⟨rfl, rfl, rfl, rfl⟩, hresolved, haligned,
    ((backends_agree_iff hok ⟨rfl, rfl, rfl, rfl⟩ rfl hresolved).2 haligned).1, hlimits⟩

end Netqmon.Agent.Priority.Agreement
