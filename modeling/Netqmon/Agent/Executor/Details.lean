import Netqmon.Agent.Executor.Enforcement
import Netqmon.Agent.Executor.Texts

/-! # The details of limits

The details of a limit list its clients with their effective rates. `validDetails_iff` says when
they pass validation, in terms of the policies: which clients were found (`selected`) and which
directions some client limit covers (`isLimited`). -/

namespace Netqmon.Agent.Executor.Details

open SavedState Executor.Topology Shaper Plan Visits Report Enforcement Lib.Ordered Lib.RustStr
open Protocol.Policy Protocol.Validate

/-! ### Directions -/

def limitRate (policy : PolicySnapshotEntry) : ShapeDirection → Option ℕ
  | .upload => policy.spec.action.uploadBps
  | .download => policy.spec.action.downloadBps

def effectiveBps (client : PolicyClientRate) : ShapeDirection → Option ℕ
  | .upload => client.effectiveUploadBps
  | .download => client.effectiveDownloadBps

variable (topology : PolicyTopology)

/-- The interface on which a direction is shaped. -/
def egress : ShapeDirection → Option String
  | .upload => topology.shapingWan
  | .download => topology.lanInterfaces.head?

def capacity : ShapeDirection → Option ℕ
  | .upload => topology.wanCapacityBps
  | .download => topology.lanCapacityBps

theorem forall_direction {P : ShapeDirection → Prop} :
    (∀ direction, P direction) ↔ P .upload ∧ P .download :=
  ⟨fun h => ⟨h _, h _⟩, fun h direction => by cases direction <;> simp [h.1, h.2]⟩

/-! ### Tables -/

/-- The arguments of `buildPlan`. -/
structure PlanInput where
  policies : List PolicySnapshotEntry
  intervals : List PolicyScheduleIntervals
  validUntilMs : ℤ
  now : Option ℤ
  topology : PolicyTopology

variable {p : PolicySnapshotEntry}

namespace PlanInput

variable (i : PlanInput)

def state : PlanState :=
  planState i.policies i.intervals i.validUntilMs i.now i.topology

def enforces (policy : PolicySnapshotEntry) : Bool :=
  isEnforced i.topology i.intervals i.validUntilMs i.now policy

/-- The client was found in the neighbor table. -/
def finds (mac : String) : Bool :=
  found (.fromNeighbors i.topology.neighborBindings) mac

def candidates (i : PlanInput) : List PolicySnapshotEntry :=
  Plan.candidates i.topology i.intervals i.validUntilMs i.now i.policies

variable {i : PlanInput}

theorem mem_candidates : p ∈ i.candidates ↔ p ∈ i.policies ∧ i.enforces p = true := by
  rw [candidates, Report.mem_candidates, classify_enforced]
  rfl

/-- The table that visits of the found clients of the candidates fill. -/
def table {S : Type} (i : PlanInput) (visit : PolicySnapshotEntry → String → S → S) (s : S) : S :=
  visitFound (.fromNeighbors i.topology.neighborBindings) visit i.candidates s

theorem policyClients_eq (i : PlanInput) : i.state.policyClients = i.table addPolicyClient .empty :=
  proj_foldl_planPolicy (·.policyClients) addPolicyClient (fun _ _ => rfl)
    (fun _ _ _ _ => applyClient_proj (·.policyClients) (fun _ _ _ => rfl) _ _) _ _

theorem clientRates_eq (i : PlanInput) : i.state.clientRates = i.table addClientRate .empty :=
  proj_foldl_planPolicy (·.clientRates) addClientRate (fun _ _ => rfl)
    (fun _ _ _ _ => applyClient_proj (·.clientRates) (fun _ _ _ => rfl) _ _) _ _

theorem applicationRates_eq (i : PlanInput) :
    i.state.applicationRates = i.table addApplicationRate .empty :=
  proj_foldl_planPolicy (·.applicationRates) addApplicationRate (fun _ _ => rfl)
    (fun _ _ _ _ => applyClient_proj (·.applicationRates) (fun _ _ _ => rfl) _ _) _ _

theorem table_induct {S : Type} {visit : PolicySnapshotEntry → String → S → S} {P : S → Prop}
    {s : S} (hs : P s)
    (hstp : ∀ q ∈ i.policies, i.enforces q = true → ∀ m ∈ q.spec.selectors.clients,
      i.finds m = true → ∀ s, P s → P (visit q (toAsciiLowercase m) s)) : P (i.table visit s) := by
  refine List.foldlRecOn i.candidates _ hs fun s hs q hq => ?_
  refine List.foldlRecOn q.spec.selectors.clients _ hs fun s hs m hm => ?_
  split_ifs with hfd
  · exact hstp q (mem_candidates.1 hq).1 (mem_candidates.1 hq).2 m hm hfd s hs
  · exact hs

theorem table_reaches {S : Type} {visit : PolicySnapshotEntry → String → S → S} {Q : S → Prop}
    (hkp : ∀ q mac s, Q s → Q (visit q mac s)) (hp : p ∈ i.policies) (henf : i.enforces p = true)
    {m : String} (hm : m ∈ p.spec.selectors.clients) (hfd : i.finds m = true)
    (hset : ∀ s, Q (visit p (toAsciiLowercase m) s)) (s : S) : Q (i.table visit s) := by
  have hcli : ∀ (q : PolicySnapshotEntry) (s : S) (mac : String), Q s →
      Q (if i.finds mac then visit q (toAsciiLowercase mac) s else s) := by
    intro q s mac hs
    split_ifs
    · exact hkp q _ s hs
    · exact hs
  refine foldl_reaches (fun s q hs => foldl_keeps (hcli q) _ hs)
    (mem_candidates.2 ⟨hp, henf⟩) (fun s => ?_) s
  refine foldl_reaches (hcli p) hm (fun s => ?_) s
  rw [if_pos hfd]
  exact hset s

end PlanInput

open PlanInput

variable (i : PlanInput)

variable (policy : PolicySnapshotEntry)

/-- The clients of a policy that were found, in the order of their addresses. -/
def selected : List String :=
  ((i.state.policyClients.lookup
    policy.id).getD .empty).keys

/-- A client limit in force covers this direction of the client. -/
def isLimited (mac : String) (direction : ShapeDirection) : Bool :=
  i.policies.any fun q =>
    i.enforces q && isLimit q && !isApplicationPolicy q
      && (limitRate q direction).isSome
      && q.spec.selectors.clients.any fun m => i.finds m && toAsciiLowercase m == mac

variable {mac : String}

/-- The clients of a policy that were found are those listed for it. -/
theorem mem_selected (hnd : (i.policies.map (·.id)).Nodup) (hp : p ∈ i.policies) :
    mac ∈ selected i p ↔ i.enforces p = true ∧
      ∃ m ∈ p.spec.selectors.clients, i.finds m = true ∧ toAsciiLowercase m = mac := by
  unfold selected
  rw [policyClients_eq]
  constructor
  · revert mac
    refine table_induct (P := fun t : OrderedMap String (OrderedSet String) => ∀ {mac},
      mac ∈ ((t.lookup p.id).getD .empty).keys → i.enforces p = true ∧
        ∃ m ∈ p.spec.selectors.clients, i.finds m = true ∧ toAsciiLowercase m = mac) ?_ ?_
    · intro mac h
      simp at h
    · intro q hq henf m hm hfd t ih mac h
      rw [addPolicyClient, OrderedMap.lookup_upsert] at h
      split_ifs at h with hid
      · obtain rfl := eq_of_id_eq hnd hp hq hid
        rcases OrderedSet.mem_keys_add.1 h with rfl | h
        · exact ⟨henf, m, hm, hfd, rfl⟩
        · exact ih h
      · exact ih h
  · rintro ⟨henf, m, hm, hfd, rfl⟩
    refine table_reaches (Q := fun t : OrderedMap String (OrderedSet String) =>
      toAsciiLowercase m ∈ ((t.lookup p.id).getD .empty).keys) ?_ hp henf hm hfd ?_ _
    · grind [addPolicyClient, OrderedMap.lookup_upsert, OrderedSet.mem_keys_add.2]
    · grind [addPolicyClient, OrderedMap.lookup_upsert, OrderedSet.mem_keys_add.2]

variable {direction : ShapeDirection}

/-! ### Rates -/

theorem rate_addLimit (rates : ClientRates) :
    (rates.addLimit p.spec.action.uploadBps p.spec.action.downloadBps).rate direction =
      minRate (rates.rate direction) (limitRate p direction) := by
  cases direction <;> rfl

theorem minRate_isSome (a b : Option ℕ) : (minRate a b).isSome = (a.isSome || b.isSome) := by
  cases a <;> cases b <;> rfl

theorem minRate_self (a : Option ℕ) : minRate a a = a := by
  cases a <;> simp [minRate]

theorem minRate_all {P : ℕ → Bool} :
    ∀ {a b : Option ℕ}, a.all P = true → b.all P = true → (minRate a b).all P = true
  | none, _, _, hb => hb
  | some _, none, ha, _ => ha
  | some x, some y, ha, hb => by rcases min_choice x y with h | h <;> simp_all [minRate]

/-- The rate of a client in a table. -/
def rateAt (table : ClientRateMap) (mac : String) (direction : ShapeDirection) : Option ℕ :=
  (table.lookup mac).bind (·.rate direction)

variable {q : PolicySnapshotEntry}

theorem rateAt_addClientRate (other : String) (table : ClientRateMap) :
    rateAt (addClientRate q mac table) other direction =
      if (isLimit q && !isApplicationPolicy q) = true ∧ other = mac then
        minRate (rateAt table other direction) (limitRate q direction)
      else rateAt table other direction := by
  unfold rateAt addClientRate
  by_cases hq : (isLimit q && !isApplicationPolicy q) = true
  · rw [if_pos hq, OrderedMap.lookup_upsert]
    by_cases hmac : other = mac
    · subst hmac
      rw [if_pos rfl, if_pos ⟨hq, rfl⟩, Option.bind_some, rate_addLimit]
      cases table.lookup other with
      | none => cases direction <;> rfl
      | some rates => rfl
    · rw [if_neg hmac, if_neg fun h => hmac h.2]
  · rw [if_neg hq, if_neg fun h => hq h.1]

theorem rateAt_isSome (mac : String) (direction : ShapeDirection) :
    (rateAt i.state.clientRates mac direction).isSome = true ↔
      isLimited i mac direction = true := by
  rw [clientRates_eq]
  constructor
  · revert mac
    refine table_induct (P := fun t : ClientRateMap => ∀ mac,
      (rateAt t mac direction).isSome = true → isLimited i mac direction = true) ?_ ?_
    · intro mac h
      simp [rateAt] at h
    · intro q hq henf m hm hfd t ih mac h
      rw [rateAt_addClientRate] at h
      split_ifs at h with hcond
      · rw [minRate_isSome, Bool.or_eq_true] at h
        rcases h with h | h
        · exact ih mac h
        · refine List.any_eq_true.2 ⟨q, hq, ?_⟩
          grind
      · exact ih mac h
  · intro h
    obtain ⟨q, hq, hall⟩ := List.any_eq_true.1 h
    simp only [Bool.and_eq_true, List.any_eq_true, beq_iff_eq] at hall
    obtain ⟨⟨⟨⟨henf, hlim⟩, happ⟩, hrate⟩, m, hm, hfd, rfl⟩ := hall
    refine table_reaches (Q := fun t : ClientRateMap =>
      (rateAt t (toAsciiLowercase m) direction).isSome = true) ?_ hq henf hm hfd ?_ _
    · intro q' mac t h
      rw [rateAt_addClientRate]
      grind [minRate_isSome]
    · grind [rateAt_addClientRate, minRate_isSome]

/-- What a validated limit policy promises about its rates. -/
structure LimitOk (policy : PolicySnapshotEntry) : Prop where
  valid : ∀ direction, (limitRate policy direction).all validRate = true
  some : ∃ direction, (limitRate policy direction).isSome = true

theorem rateAt_valid (hrt : ∀ q ∈ i.policies, isLimit q = true → LimitOk q) (mac : String)
    (direction : ShapeDirection) :
    (rateAt i.state.clientRates mac direction).all validRate = true := by
  rw [clientRates_eq]
  revert mac
  refine table_induct (P := fun t : ClientRateMap => ∀ mac,
    (rateAt t mac direction).all validRate = true) ?_ ?_
  · intro mac
    rfl
  · intro q hq _ m _ _ t ih mac
    rw [rateAt_addClientRate]
    split_ifs with hcond
    · rw [Bool.and_eq_true] at hcond
      exact minRate_all (ih mac) ((hrt q hq hcond.1.1).valid direction)
    · exact ih mac

theorem lookup_addApplicationRate (table : ApplicationRateMap) (key : String ×ₗ String) :
    (addApplicationRate q mac table).lookup key =
      if (isLimit q && isApplicationPolicy q) = true ∧ key = toLex (q.id, mac) then
        some (((table.lookup key).getD .default).addLimit q.spec.action.uploadBps
          q.spec.action.downloadBps)
      else table.lookup key := by
  unfold addApplicationRate
  by_cases hq : (isLimit q && isApplicationPolicy q) = true
  · grind [OrderedMap.lookup_upsert]
  · rw [if_neg hq, if_neg fun h => hq h.1]

/-- The limits of an application policy are its own, however often it names a client. -/
theorem lookup_applicationRates (hnd : (i.policies.map (·.id)).Nodup)
    (hp : p ∈ i.policies) (hkd : (isLimit p && isApplicationPolicy p) = true)
    (hmac : mac ∈ selected i p) :
    i.state.applicationRates.lookup (toLex (p.id, mac)) =
      some ⟨p.spec.action.uploadBps, p.spec.action.downloadBps⟩ := by
  obtain ⟨henf, m, hm, hfd, rfl⟩ := (mem_selected i hnd hp).1 hmac
  rw [applicationRates_eq]
  have hown : ∀ mac rates,
      (i.table addApplicationRate .empty).lookup (toLex (p.id, mac)) = some rates →
        rates = ⟨p.spec.action.uploadBps, p.spec.action.downloadBps⟩ := by
    refine table_induct (P := fun t : ApplicationRateMap => ∀ mac rates,
      t.lookup (toLex (p.id, mac)) = some rates →
        rates = ⟨p.spec.action.uploadBps, p.spec.action.downloadBps⟩) ?_ ?_
    · intro mac rates h
      simp at h
    · intro q hq _ _ _ _ t ih mac rates h
      rw [lookup_addApplicationRate] at h
      split_ifs at h with hcond
      · have hid : p.id = q.id := congrArg (fun key => (ofLex key).1) hcond.2
        obtain rfl := eq_of_id_eq hnd hp hq hid
        rw [← Option.some.inj h]
        cases hold : t.lookup (toLex (p.id, mac)) with
        | none => rfl
        | some old =>
          rw [ih mac old hold]
          simp [ClientRates.addLimit, minRate_self]
      · exact ih mac rates h
  have hs : ((i.table addApplicationRate .empty).lookup
      (toLex (p.id, toAsciiLowercase m))).isSome = true := by
    refine table_reaches (Q := fun t : ApplicationRateMap =>
      (t.lookup (toLex (p.id, toAsciiLowercase m))).isSome = true) ?_ hp henf hm hfd ?_ _
    · grind [lookup_addApplicationRate]
    · grind [lookup_addApplicationRate]
  obtain ⟨rates, hrt⟩ := Option.isSome_iff_exists.1 hs
  rw [hrt, hown _ rates hrt]

/-! ### The listed clients -/

/-- The policy reports a rate of this direction of a client. -/
def reportsRate (mac : String) (direction : ShapeDirection) : Bool :=
  if isApplicationPolicy policy then (limitRate policy direction).isSome
  else isLimited i mac direction

/-- An application limit inherits at most the rate of the client limit, or else of the
interface. -/
def inheritedRate (mac : String) (direction : ShapeDirection) (rate : ℕ) : ℕ :=
  (rateAt i.state.clientRates mac direction).getD ((capacity i.topology direction).getD rate)

/-- The rate reported for a client of a policy. -/
def reportedRate (mac : String) (direction : ShapeDirection) : Option ℕ :=
  if isApplicationPolicy policy then
    (limitRate policy direction).map fun rate => min rate (inheritedRate i mac direction rate)
  else rateAt i.state.clientRates mac direction

theorem clientRateOf_selected (hnd : (i.policies.map (·.id)).Nodup)
    (hp : p ∈ i.policies) (hlim : isLimit p = true) (hok : LimitOk p) (hmac : mac ∈ selected i p) :
    ∃ client, clientRateOf i.topology i.state.clientRates i.state.applicationRates p mac =
        some client ∧
      client.mac = mac ∧ ∀ direction, effectiveBps client direction =
        reportedRate i p mac direction := by
  unfold clientRateOf reportedRate
  by_cases happ : isApplicationPolicy p = true
  · rw [lookup_applicationRates i hnd hp (by rw [hlim, happ]; rfl) hmac]
    simp only [happ]
    exact ⟨_, rfl, rfl, fun direction => by cases direction <;> rfl⟩
  · obtain ⟨henf, m, hm, hfd, rfl⟩ := (mem_selected i hnd hp).1 hmac
    obtain ⟨direction, hrate⟩ := hok.some
    have hs := (rateAt_isSome i (toAsciiLowercase m) direction).2
      (List.any_eq_true.2 ⟨p, hp, by simp [henf, hlim, happ, hrate]; exact ⟨m, hm, hfd, rfl⟩⟩)
    simp only [happ]
    cases hl : i.state.clientRates.lookup (toAsciiLowercase m) with
    | none => simp [rateAt, hl] at hs
    | some rates =>
      refine ⟨_, rfl, rfl, fun direction => ?_⟩
      cases direction <;> simp [rateAt, hl, effectiveBps, ClientRates.rate]

theorem reportedRate_isSome :
    (reportedRate i p mac direction).isSome = reportsRate i p mac direction := by
  unfold reportedRate reportsRate
  split_ifs
  · rw [Option.isSome_map]
  · grind [rateAt_isSome]

/-- The rate of an application limit stays valid unless it inherits a tiny capacity. -/
theorem validRate_inherited (hrt : ∀ q ∈ i.policies, isLimit q = true → LimitOk q)
    (mac : String) (direction : ShapeDirection) {rate : ℕ} (hrate : validRate rate = true) :
    validRate (min rate (inheritedRate i mac direction rate)) = true ↔
      isLimited i mac direction = true ∨
        (capacity i.topology direction).all (64000 ≤ ·) = true := by
  have hval := rateAt_valid i hrt mac direction
  rw [← rateAt_isSome]
  unfold inheritedRate
  simp only [validRate, Bool.and_eq_true, decide_eq_true_eq] at hrate ⊢
  cases hparent : rateAt i.state.clientRates mac direction with
  | some parent =>
    rw [hparent, Option.all_some, validRate, Bool.and_eq_true, decide_eq_true_eq] at hval
    grind
  | none =>
    cases capacity i.topology direction with
    | none => simpa using hrate
    | some bps =>
      simp only [Option.getD_none, Option.getD_some, Option.isSome_none, Bool.false_eq_true,
        false_or, Option.all_some, decide_eq_true_eq]
      omega

theorem reportedRate_valid (hrt : ∀ q ∈ i.policies, isLimit q = true → LimitOk q)
    (hp : p ∈ i.policies) (hlim : isLimit p = true) (mac : String) (direction : ShapeDirection) :
    (reportedRate i p mac direction).all validRate = true ↔
      (isApplicationPolicy p = true → reportsRate i p mac direction = true →
        isLimited i mac direction = true ∨
          (capacity i.topology direction).all (64000 ≤ ·) = true) := by
  unfold reportedRate reportsRate
  by_cases happ : isApplicationPolicy p = true
  · simp only [happ]
    have hval := (hrt p hp hlim).valid direction
    cases hrate : limitRate p direction with
    | none => simp
    | some rate =>
      rw [hrate] at hval
      simpa using validRate_inherited i hrt mac direction hval
  · simp [happ, rateAt_valid i hrt mac direction]

/-! ### Validity of the details -/

theorem length_selected_le (hnd : (i.policies.map (·.id)).Nodup)
    (hp : p ∈ i.policies) : (selected i p).length ≤ p.spec.selectors.clients.length := by
  have hsub : selected i p ⊆ p.spec.selectors.clients.map toAsciiLowercase := by
    grind [mem_selected]
  have hle := (List.subperm_of_subset OrderedMap.nodup_keys hsub).length_le
  rwa [List.length_map] at hle

variable {clients : List PolicyClientRate}

theorem mem_controlledInterfaces {topology : PolicyTopology} {name : String} :
    name ∈ (controlledInterfaces topology clients).keys ↔
      ∃ direction, clients.any (fun client => (effectiveBps client direction).isSome) = true ∧
        egress topology direction = some name := by
  have hpick : ∀ (cond : Bool) (option : Option String),
      name ∈ (if cond then option else none).toList ↔ cond = true ∧ option = some name := by
    intro cond option
    cases cond <;> simp
  have hexists : ∀ P : ShapeDirection → Prop, (∃ d, P d) ↔ P .upload ∨ P .download :=
    fun P => ⟨fun ⟨d, h⟩ => by cases d <;> simp [h], fun h => h.elim (⟨_, ·⟩) (⟨_, ·⟩)⟩
  unfold controlledInterfaces
  rw [OrderedMap.mem_keys_ofList, List.map_map, hexists]
  simp only [Function.comp_def, List.map_id', List.mem_append, hpick]
  rfl

theorem length_controlledInterfaces_le : (controlledInterfaces topology clients).keys.length ≤ 2 := by
  have hone : ∀ option : Option String, option.toList.length ≤ 1 := by
    intro option
    cases option <;> simp
  have hle := OrderedMap.length_keys_ofList_le
    (((if clients.any (·.effectiveUploadBps.isSome) then topology.shapingWan else none).toList ++
      (if clients.any (·.effectiveDownloadBps.isSome) then topology.lanInterfaces.head?
        else none).toList).map (·, ()))
  rw [List.length_map, List.length_append] at hle
  refine hle.trans ?_
  have hup := hone (if clients.any (·.effectiveUploadBps.isSome) then topology.shapingWan
    else none)
  have hdown := hone (if clients.any (·.effectiveDownloadBps.isSome) then
    topology.lanInterfaces.head? else none)
  omega

/-- The interfaces and the rates reported for one client are fit to be sent. -/
def RatesOk (mac : String) : Prop :=
  ∀ direction, reportsRate i policy mac direction = true →
    (egress i.topology direction).all (validText 15) = true ∧
      (isApplicationPolicy policy = true → isLimited i mac direction = true ∨
        (capacity i.topology direction).all (64000 ≤ ·) = true)

theorem validClientRate_iff {client : PolicyClientRate} :
    validClientRate client = true ↔ validMac client.mac = true ∧
      ∀ direction, (effectiveBps client direction).all validRate = true := by
  rw [forall_direction, validClientRate, Bool.and_eq_true, Bool.and_eq_true, and_assoc]
  rfl

/-- **Details of a limit.** They pass validation if the lower-case address of every found client
does, and no interface or inherited capacity gets in the way. -/
theorem validDetails_iff (hnd : (i.policies.map (·.id)).Nodup)
    (hrt : ∀ q ∈ i.policies, isLimit q = true → LimitOk q)
    (hp : p ∈ i.policies) (hlim : isLimit p = true) (hcl : p.spec.selectors.clients.length ≤ 32) :
    validDetails (limitDetails i.topology i.state p) = true ↔
      ∀ mac ∈ selected i p, validMac mac = true ∧ RatesOk i p mac := by
  have he : ∀ mac ∈ selected i p, ∃ client, clientRateOf i.topology i.state.clientRates
      i.state.applicationRates p mac = some client ∧ client.mac = mac ∧
        ∀ direction, effectiveBps client direction = reportedRate i p mac direction :=
    fun mac hmac => clientRateOf_selected i hnd hp hlim (hrt p hp hlim) hmac
  have hmem : ∀ client, client ∈ (limitDetails i.topology i.state p).clients ↔
      ∃ mac ∈ selected i p, clientRateOf i.topology i.state.clientRates
        i.state.applicationRates p mac = some client := fun client => List.mem_filterMap
  have hlen : (limitDetails i.topology i.state p).clients.length ≤ 32 :=
    (List.length_filterMap_le ..).trans ((length_selected_le i hnd hp).trans hcl)
  have hinterfaces : (limitDetails i.topology i.state p).controlledInterfaces.length ≤ 2 :=
    length_controlledInterfaces_le ..
  have hqdisc : (limitDetails i.topology i.state p).qdisc.all (validText 128) = true := by
    have hname : validText 128 "HTB + fq_codel" = true := by decide +kernel
    show (if (selected i p).isEmpty then none else some "HTB + fq_codel").all (validText 128) = true
    split_ifs
    · rfl
    · exact hname
  have hmark : (limitDetails i.topology i.state p).markConflictCode.all (validText 128) = true := rfl
  rw [validDetails, hqdisc, hmark, decide_eq_true hlen, decide_eq_true hinterfaces, Bool.true_and,
    Bool.true_and, Bool.true_and, Bool.true_and, Bool.and_eq_true, List.all_eq_true,
    List.all_eq_true]
  constructor
  · rintro ⟨hnm, hval⟩ mac hmac
    obtain ⟨client, hcli, rfl, heff⟩ := he mac hmac
    have hc := (hmem client).2 ⟨client.mac, hmac, hcli⟩
    obtain ⟨hmacOk, hrateOk⟩ := validClientRate_iff.1 (hval client hc)
    refine ⟨hmacOk, fun direction hreports => ⟨?_, fun happ => ?_⟩⟩
    · cases hegress : egress i.topology direction with
      | none => rfl
      | some name =>
        refine hnm name (mem_controlledInterfaces.2 ⟨direction, ?_, hegress⟩)
        refine List.any_eq_true.2 ⟨client, hc, ?_⟩
        rw [heff, reportedRate_isSome, hreports]
    · refine (reportedRate_valid i hrt hp hlim client.mac direction).1 ?_ happ hreports
      rw [← heff]
      exact hrateOk direction
  · intro hall
    constructor
    · intro name hname
      obtain ⟨direction, hany, hegress⟩ := mem_controlledInterfaces.1 hname
      obtain ⟨client, hc, hs⟩ := List.any_eq_true.1 hany
      obtain ⟨mac, hmac, hcli⟩ := (hmem client).1 hc
      obtain ⟨client', hclient', rfl, heff⟩ := he mac hmac
      obtain rfl := Option.some.inj (hcli.symm.trans hclient')
      rw [heff, reportedRate_isSome] at hs
      have hok := ((hall _ hmac).2 direction hs).1
      rwa [hegress] at hok
    · intro client hc
      obtain ⟨mac, hmac, hcli⟩ := (hmem client).1 hc
      obtain ⟨client', hclient', rfl, heff⟩ := he mac hmac
      obtain rfl := Option.some.inj (hcli.symm.trans hclient')
      refine validClientRate_iff.2 ⟨(hall _ hmac).1, fun direction => ?_⟩
      rw [heff]
      exact (reportedRate_valid i hrt hp hlim client.mac direction).2
        fun happ hreports => ((hall _ hmac).2 direction hreports).2 happ

end Netqmon.Agent.Executor.Details
