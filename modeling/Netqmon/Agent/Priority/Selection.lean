import Netqmon.Agent.Executor.Details
import Netqmon.Agent.FlowVerdict.Model

/-! # Policy selection of the priority backend

The priority backend does not build a plan of addresses and marks; it selects, from a snapshot and
the time, which clients are blocked, which total rate each client gets and which application limits
are in force. `fromSnapshot` works through the policies in the order of their priority and refuses
snapshots with a policy of a shape that it does not know.

`accepted_of_ok` says what an accepted snapshot is like and that the selection is the result of a
loop over the active policies, `assignPolicy`, in which nothing can fail any more. -/

namespace Netqmon.Agent.Priority.Selection

open Executor.Plan Executor.Shaper Executor.Topology FlowVerdict.Model Lib.Checks Lib.Ordered
open Lib.RustStr Protocol.Policy Protocol.Validate

/-! ### MAC addresses -/

/-- Six octets, the first one first. -/
structure MacAddress where
  octets : List ℕ
deriving DecidableEq

namespace MacAddress

def isUnicast (mac : MacAddress) : Bool :=
  mac.octets != List.replicate 6 0 && mac.octets.headD 0 % 2 == 0

def octetCount (count : ℕ) : String :=
  "MAC address has " ++ toString count ++ " octets, expected 6"

def invalidOctet (part : List Char) : String :=
  "invalid MAC address octet " ++ (String.ofList part).quote

/-- The value of two hexadecimal digits. -/
def parseOctet (part : List Char) : Except String ℕ :=
  match part with
  | [a, b] =>
    match u8FromStrRadix16 a b with
    | some octet => .ok octet
    | none => .error (invalidOctet part)
  | _ => .error (invalidOctet part)

def fromStr (value : String) : Except String MacAddress := do
  let parts := value.toList.splitOn ':'
  let octets ← (parts.take 6).mapM parseOctet
  ensure (parts.length ≤ 6) (octetCount 7)
  ensure (octets.length == 6) (octetCount octets.length)
  return ⟨octets⟩

def hexOctet (octet : ℕ) : List Char := [Nat.digitChar (octet / 16), Nat.digitChar (octet % 16)]

def display (mac : MacAddress) : String :=
  String.ofList ([':'].intercalate (mac.octets.map hexOctet))

end MacAddress

/-! ### The selection -/

structure TotalRates where
  (uploadBps downloadBps : Option ℕ)
  policyIds : OrderedSet String

structure ApplicationRates where
  (mac policyId : String)
  (uploadBps downloadBps : Option ℕ)
deriving DecidableEq

structure PrioritySelection where
  totals : OrderedMap String TotalRates
  applicationLimits : List ApplicationRates
  (clients blockedMacs : OrderedSet String)
  results : List PolicyResult
  nextTransitionMs : Option ℤ

/-- What the active policies have assigned to their clients so far. -/
structure Assignments where
  totals : OrderedMap String TotalRates
  applicationLimits : List ApplicationRates
  (clients blockedMacs blockDecided : OrderedSet String)

/-- The variables of the loop over the policies. -/
structure Progress where
  assigned : Assignments
  results : List PolicyResult
  nextTransitionMs : Option ℤ

def Assignments.start : Assignments := ⟨.empty, [], .empty, .empty, .empty⟩

/-! ### Shapes of policies -/

/-- A policy about applications of listed clients, with the given action. -/
def isApplicationAction (kind : PolicyActionKind) (policy : PolicySnapshotEntry) : Bool :=
  policy.spec.action.kind == kind && policy.spec.network.scope == "internet"
    && !policy.spec.selectors.clients.isEmpty && policy.spec.selectsApplications

variable (policy : PolicySnapshotEntry)

def applicationLimit : Bool := isApplicationAction .limit policy
def applicationBlock : Bool := isApplicationAction .block policy
def applicationAllow : Bool := isApplicationAction .allow policy

def total : Bool := isClientTotalSpec policy.spec

def internetDecision : Bool :=
  policy.spec.network.scope == "internet" && policy.spec.network.direction == "both"
    && !policy.spec.selectors.clients.isEmpty && policy.spec.selectors.applications.isEmpty
    && policy.spec.selectors.categories.isEmpty && policy.spec.action.kind != .limit

def isVerifiedShape : Bool :=
  total policy || internetDecision policy || applicationLimit policy || applicationBlock policy
    || applicationAllow policy

/-! ### Clients -/

def addTotal (rates : Option TotalRates) : TotalRates :=
  let rates := rates.getD ⟨none, none, .empty⟩
  { uploadBps := minRate rates.uploadBps policy.spec.action.uploadBps
    downloadBps := minRate rates.downloadBps policy.spec.action.downloadBps
    policyIds := rates.policyIds.add policy.id }

def assignClient (a : Assignments) (mac : String) : Assignments :=
  if total policy then
    { a with clients := a.clients.add mac, totals := a.totals.upsert mac (addTotal policy) }
  else if applicationLimit policy then
    { a with
      clients := a.clients.add mac
      applicationLimits := a.applicationLimits ++
        [⟨mac, policy.id, policy.spec.action.uploadBps, policy.spec.action.downloadBps⟩] }
  else if applicationBlock policy then { a with clients := a.clients.add mac }
  else if applicationAllow policy then { a with clients := a.clients.add mac }
  else
    let undecided := !a.blockDecided.contains mac
    let a := { a with blockDecided := a.blockDecided.add mac }
    if undecided && policy.spec.action.kind == .block then
      { a with clients := a.clients.add mac, blockedMacs := a.blockedMacs.add mac }
    else a

def selectClient (a : Assignments) (text : String) : Except String Assignments := do
  let mac ← MacAddress.fromStr text
  ensure mac.isUnicast "priority_identity_invalid"
  return assignClient policy a mac.display

/-! ### Policies -/

/-- The moments after `now` at which a schedule may change its state. -/
def transitions (entry : PolicyScheduleIntervals) (validUntilMs now : ℤ) : List ℤ :=
  ((entry.intervals.flatMap fun interval => [interval.startMs, interval.endMs])
    ++ [validUntilMs]).filter (now < ·)

def noteTransitions (next : Option ℤ) (moments : List ℤ) : Option ℤ :=
  moments.foldl (fun next moment => some ((next.map (min · moment)).getD moment)) next

variable (snapshot : PolicySnapshot)

variable (now : Option ℤ)

/-- The next transition once the schedule of the policy is taken into account. -/
def nextTransition (policy : PolicySnapshotEntry) (next : Option ℤ) : Except String (Option ℤ) :=
  if policy.spec.schedule.isSome then
    match snapshot.scheduleIntervals.find? (·.policyId == policy.id) with
    | none => .error "schedule_window_missing"
    | some entry =>
      match now.filter (1500000000000 ≤ ·) with
      | none => .error "clock_invalid"
      | some now => .ok (noteTransitions next (transitions entry snapshot.validUntilMs now))
  else .ok next

def policyResult (status : PolicyResultStatus)
    (reasonCode message : Option String) : PolicyResult :=
  { policyId := policy.id
    status
    reasonCode
    message
    details := none }

def selectPolicy (p : Progress) (policy : PolicySnapshotEntry) : Except String Progress :=
  let applied := policyResult policy .applied none none
  if !policy.spec.enabled then
    .ok { p with results := p.results ++ [policyResult policy .disabled none none] }
  else do
    ensure (!(policy.spec.selectsApplications && policy.spec.selectors.clients.isEmpty))
      "application_client_selector_required"
    ensure (isVerifiedShape policy) "priority_policy_shape_not_verified"
    let next ← nextTransition snapshot now policy p.nextTransitionMs
    match evaluate policy snapshot.scheduleIntervals now snapshot.validUntilMs with
    | .clockInvalid => .error "clock_invalid"
    | .expired =>
      let expired := policyResult policy .failed (some "schedule_expired")
        (some "the Collector schedule window has expired")
      .ok ⟨p.assigned, p.results ++ [expired], next⟩
    | .inactive => .ok ⟨p.assigned, p.results ++ [applied], next⟩
    | .active => do
      let assigned ← policy.spec.selectors.clients.foldlM (selectClient policy) p.assigned
      return ⟨assigned, p.results ++ [applied], next⟩

/-- The policies in the order of their priority. -/
def ordered (policies : List PolicySnapshotEntry) : List PolicySnapshotEntry :=
  policies.insertionSort fun a b => candidateRank a ≤ candidateRank b

def limitRank (limit : ApplicationRates) : String ×ₗ String := toLex (limit.mac, limit.policyId)

def fromSnapshot (codec : Codec) (snapshot : PolicySnapshot) (gateway : String) (now : Option ℤ) :
    Except String PrioritySelection := do
  validateSnapshot codec snapshot
  ensure (snapshot.gatewayId == gateway) "priority_gateway_mismatch"
  let p ← (ordered snapshot.policies).foldlM (selectPolicy snapshot now) ⟨.start, [], none⟩
  ensure (p.assigned.clients.keys.length ≤ 256) "priority_class_slots_exhausted"
  return {
    totals := p.assigned.totals
    applicationLimits :=
      p.assigned.applicationLimits.insertionSort fun a b => limitRank a ≤ limitRank b
    clients := p.assigned.clients
    blockedMacs := p.assigned.blockedMacs
    results := p.results.insertionSort fun a b => a.policyId ≤ b.policyId
    nextTransitionMs := p.nextTransitionMs }

/-! ### Clients of validated policies -/

/-- A digit or a capital letter, as it occurs in a canonical address. -/
def isCapitalHex (c : Char) : Bool := isAsciiDigit c || ('A' ≤ c && c ≤ 'F')

def capitals : List Char := "0123456789ABCDEF".toList

theorem mem_capitals {c : Char} (h : isCapitalHex c = true) : c ∈ capitals := by
  rcases Bool.or_eq_true_iff.1 h with hdigit | hlet
  · simp only [isAsciiDigit, Bool.and_eq_true, decide_eq_true_eq] at hdigit
    exact @forall_char_range (· ∈ capitals) _ _ _ hdigit.1 hdigit.2 (by decide)
  · simp only [Bool.and_eq_true, decide_eq_true_eq] at hlet
    exact @forall_char_range (· ∈ capitals) _ _ _ hlet.1 hlet.2 (by decide)

theorem ne_colon {c : Char} (h : isCapitalHex c = true) : (c == ':') = false := by
  have hall : ∀ c ∈ capitals, (c == ':') = false := List.forall_iff_forall_mem.1 (by decide)
  exact hall c (mem_capitals h)

/-- The octet of two canonical digits is written with their small letters. -/
theorem parseOctet_capitalHex {a b : Char} (ha : isCapitalHex a = true)
    (hb : isCapitalHex b = true) :
    ∃ octet, MacAddress.parseOctet [a, b] = .ok octet ∧
      MacAddress.hexOctet octet = [a.toLower, b.toLower] := by
  have hall : ∀ digits ∈ capitals ×ˢ capitals,
      (MacAddress.parseOctet [digits.1, digits.2]).toOption.map MacAddress.hexOctet =
        some [digits.1.toLower, digits.2.toLower] :=
    List.forall_iff_forall_mem.1 (by decide +kernel)
  have hab := hall (a, b) (List.mem_product.2 ⟨mem_capitals ha, mem_capitals hb⟩)
  rcases hpa : MacAddress.parseOctet [a, b] with error | octet <;> rw [hpa] at hab
  · cases hab
  · exact ⟨octet, rfl, Option.some.inj hab⟩

theorem fromStr_of_validMac {value : String} (h : validMac value = true) :
    ∃ mac, MacAddress.fromStr value = .ok mac ∧ mac.display = toAsciiLowercase value := by
  obtain ⟨hlen, hall⟩ := Bool.and_eq_true_iff.1 h
  unfold MacAddress.fromStr toAsciiLowercase
  generalize value.toList = l at *
  match l, hlen with
  | [c0, c1, c2, c3, c4, c5, c6, c7, c8, c9, c10, c11, c12, c13, c14, c15, c16], _ =>
    simp only [List.zipIdx, List.all_cons, List.all_nil, Bool.and_true, Bool.and_eq_true, if_true,
      beq_iff_eq] at hall
    obtain ⟨h0, h1, rfl, h2, h3, rfl, h4, h5, rfl, h6, h7, rfl, h8, h9, rfl, h10, h11⟩ := hall
    have hparts : List.splitOn ':' [c0, c1, ':', c3, c4, ':', c6, c7, ':', c9, c10, ':', c12, c13,
        ':', c15, c16] = [[c0, c1], [c3, c4], [c6, c7], [c9, c10], [c12, c13], [c15, c16]] := by
      simp [List.splitOn, List.splitOnP_cons_eq_if_modifyHead, ne_colon h0, ne_colon h1,
        ne_colon h2, ne_colon h3, ne_colon h4, ne_colon h5, ne_colon h6, ne_colon h7, ne_colon h8,
        ne_colon h9, ne_colon h10, ne_colon h11]
    obtain ⟨o0, hparse0, hhex0⟩ := parseOctet_capitalHex h0 h1
    obtain ⟨o1, hparse1, hhex1⟩ := parseOctet_capitalHex h2 h3
    obtain ⟨o2, hparse2, hhex2⟩ := parseOctet_capitalHex h4 h5
    obtain ⟨o3, hparse3, hhex3⟩ := parseOctet_capitalHex h6 h7
    obtain ⟨o4, hparse4, hhex4⟩ := parseOctet_capitalHex h8 h9
    obtain ⟨o5, hparse5, hhex5⟩ := parseOctet_capitalHex h10 h11
    refine ⟨⟨[o0, o1, o2, o3, o4, o5]⟩, ?_, ?_⟩
    · rw [hparts]
      simp only [List.take, List.mapM_cons, hparse0, hparse1, hparse2, hparse3, hparse4, hparse5]
      rfl
    · simp only [MacAddress.display, List.map_cons, hhex0, hhex1, hhex2, hhex3, hhex4, hhex5]
      rfl

/-! ### Accepted snapshots -/

theorem foldlM_eq_foldl {S A ε : Type} {f : S → A → Except ε S} {g : S → A → S} :
    ∀ {l : List A} {s s' : S}, (∀ a ∈ l, ∀ s s', f s a = .ok s' → s' = g s a) →
      l.foldlM f s = .ok s' → s' = l.foldl g s
  | [], _, _, _, h => (Except.ok.inj h).symm
  | a :: l, s, s', hstp, h => by
    obtain ⟨t, ht, hr⟩ := bind_eq_ok.1 h
    rw [List.foldl_cons, ← hstp a (.head _) s t ht]
    exact foldlM_eq_foldl (fun b hb => hstp b (.tail _ hb)) hr

/-- The policy is enabled and its schedule, if any, is active. -/
def isActive (policy : PolicySnapshotEntry) : Bool :=
  policy.spec.enabled
    && evaluate policy snapshot.scheduleIntervals now snapshot.validUntilMs == .active

/-- The clients of a policy as the backends name them. -/
def clientsOf : List String :=
  policy.spec.selectors.clients.map toAsciiLowercase

/-- What a policy of an accepted snapshot assigns. -/
def assignPolicy (a : Assignments) (policy : PolicySnapshotEntry) : Assignments :=
  if isActive snapshot now policy then (clientsOf policy).foldl (assignClient policy) a else a

/-- What an accepted policy is like, if it is enabled. -/
structure PolicyAccepted (snapshot : PolicySnapshot) (policy : PolicySnapshotEntry) : Prop where
  shape : isVerifiedShape policy = true
  scheduled : policy.spec.schedule.isSome = true →
    ∃ entry ∈ snapshot.scheduleIntervals, entry.policyId = policy.id

variable {policy : PolicySnapshotEntry}

variable {snapshot : PolicySnapshot} {now : Option ℤ}

theorem selectPolicy_ok {p p' : Progress}
    (hmacs : ∀ mac ∈ policy.spec.selectors.clients, validMac mac = true)
    (h : selectPolicy snapshot now p policy = .ok p') :
    p'.assigned = assignPolicy snapshot now p.assigned policy ∧
      (policy.spec.enabled = true → PolicyAccepted snapshot policy) := by
  unfold selectPolicy at h
  unfold assignPolicy isActive
  cases hen : policy.spec.enabled with
  | false => grind
  | true =>
    simp only [hen, Bool.not_true, Bool.false_eq_true, if_false, seq_eq_ok, ensure_eq_ok] at h
    obtain ⟨-, hsh, hr⟩ := h
    obtain ⟨next, hnx, hr⟩ := bind_eq_ok.1 hr
    refine ⟨?_, fun _ => ⟨hsh, fun hsc => ?_⟩⟩
    swap
    · unfold nextTransition at hnx
      rw [if_pos hsc] at hnx
      rcases hfd : snapshot.scheduleIntervals.find? (·.policyId == policy.id) with _ | e
      · simp [hfd] at hnx
      · grind
    cases hst : evaluate policy snapshot.scheduleIntervals now snapshot.validUntilMs with
    | clockInvalid =>
      rw [hst] at hr
      cases hr
    | expired => grind
    | inactive => grind
    | active =>
      rw [hst] at hr
      obtain ⟨assigned, hcl, hdn⟩ := bind_eq_ok.1 hr
      obtain rfl := Except.ok.inj hdn
      have hfo := foldlM_eq_foldl
        (g := fun a text => assignClient policy a (toAsciiLowercase text))
        (fun text htext a a' hok => by
          obtain ⟨mac, hpa, hdisplay⟩ := fromStr_of_validMac (hmacs text htext)
          obtain ⟨mac', hparse', hdn⟩ := bind_eq_ok.1 hok
          obtain rfl := Except.ok.inj (hpa.symm.trans hparse')
          rw [← hdisplay]
          exact (Except.ok.inj (seq_eq_ok.1 hdn).2).symm) hcl
      simpa [clientsOf, List.foldl_map] using hfo

/-- **What `fromSnapshot` accepts and returns.** -/
structure Accepted (snapshot : PolicySnapshot) (now : Option ℤ) (selection : PrioritySelection) :
    Prop where
  valid : SnapshotOk snapshot
  policies : ∀ policy ∈ snapshot.policies, policy.spec.enabled = true →
    PolicyAccepted snapshot policy
  totals : selection.totals =
    ((ordered snapshot.policies).foldl (assignPolicy snapshot now) .start).totals
  limits : ∀ limit, limit ∈ selection.applicationLimits ↔
    limit ∈ ((ordered snapshot.policies).foldl (assignPolicy snapshot now) .start).applicationLimits
  blocked : selection.blockedMacs =
    ((ordered snapshot.policies).foldl (assignPolicy snapshot now) .start).blockedMacs

theorem foldlM_selectPolicy_ok :
    ∀ {l : List PolicySnapshotEntry} {p p' : Progress},
      (∀ policy ∈ l, ∀ mac ∈ policy.spec.selectors.clients, validMac mac = true) →
      l.foldlM (selectPolicy snapshot now) p = .ok p' →
        p'.assigned = l.foldl (assignPolicy snapshot now) p.assigned ∧
          ∀ policy ∈ l, policy.spec.enabled = true → PolicyAccepted snapshot policy
  | [], _, _, _, h => ⟨by rw [← Except.ok.inj h]; rfl, nofun⟩
  | policy :: l, p, p', hmacs, h => by
    obtain ⟨q, hq, hrest⟩ := bind_eq_ok.1 h
    obtain ⟨hasg, hacc⟩ := selectPolicy_ok (hmacs policy (.head _)) hq
    obtain ⟨hassigned', haccepted'⟩ :=
      foldlM_selectPolicy_ok (fun r hr => hmacs r (.tail _ hr)) hrest
    grind

theorem accepted_of_ok {codec : Codec} {gateway : String} {selection : PrioritySelection}
    (h : fromSnapshot codec snapshot gateway now = .ok selection) :
    Accepted snapshot now selection := by
  obtain ⟨hval, hr⟩ := seq_eq_ok.1 h
  obtain ⟨-, hr⟩ := seq_eq_ok.1 hr
  obtain ⟨p, hp, hr⟩ := bind_eq_ok.1 hr
  obtain rfl := Except.ok.inj (seq_eq_ok.1 hr).2
  have hok := validateSnapshot_ok hval
  have hmem : ∀ policy, policy ∈ ordered snapshot.policies ↔ policy ∈ snapshot.policies :=
    fun policy => List.mem_insertionSort _
  obtain ⟨hasg, hacc⟩ := foldlM_selectPolicy_ok (fun policy hpol =>
    (validatePolicySpec_ok (hok.specs policy ((hmem policy).1 hpol))).macs) hp
  refine ⟨hok, fun policy hpol => hacc policy ((hmem policy).2 hpol), ?_, ?_, ?_⟩
  · exact congrArg Assignments.totals hasg
  · grind [List.mem_insertionSort]
  · exact congrArg Assignments.blockedMacs hasg

end Netqmon.Agent.Priority.Selection
