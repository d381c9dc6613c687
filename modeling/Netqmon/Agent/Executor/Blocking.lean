import Netqmon.Agent.Executor.Details
import Netqmon.Lib.FirstMatch

/-! # Which clients a plan blocks

A plan blocks addresses, not clients. `blocked_iff` says which: the current global addresses of the
clients whose first candidate, in the order of the priorities, is a block. A client that was found
shares no address with another one (`resolve_ok`), so `blocksClient_iff` can speak of clients. -/

namespace Netqmon.Agent.Executor.Blocking

open Agent.Flow Details Plan Executor.Topology Visits
open Lib.FirstMatch Lib.Ordered Lib.RustStr Protocol.Policy

/-! ### Addresses of a client -/

theorem toAsciiLowercase_idem (s : String) :
    toAsciiLowercase (toAsciiLowercase s) = toAsciiLowercase s := by
  unfold toAsciiLowercase
  rw [String.toList_ofList, List.map_map]
  congr 1
  refine List.map_congr_left fun c _ => ?_
  show c.toLower.toLower = c.toLower
  by_cases h : 'A' ≤ c ∧ c ≤ 'Z'
  · exact @forall_char_range (fun c => c.toLower.toLower = c.toLower) _ _ _ h.1 h.2 (by decide)
  · have hsm : c.toLower = c := dif_neg h
    rw [hsm, hsm]

/-- The members of the groups into which a list is divided by a key. -/
theorem mem_grouped {A K V : Type} [LinearOrder K] [LinearOrder V] (key : A → K) (val : A → V)
    (l : List A) (k : K) (v : V) :
    v ∈ (((l.foldl (fun (m : OrderedMap K (OrderedSet V)) a =>
        m.upsert (key a) fun s => (s.getD .empty).add (val a)) .empty).lookup k).getD
          .empty).keys ↔ ∃ a ∈ l, key a = k ∧ val a = v := by
  have hcollects := foldl_collects
    (f := fun (m : OrderedMap K (OrderedSet V)) a =>
      m.upsert (key a) fun s => (s.getD .empty).add (val a))
    (Q := fun m => v ∈ ((m.lookup k).getD .empty).keys) (R := fun a => key a = k ∧ val a = v)
    (fun m a => by
      rw [OrderedMap.lookup_upsert]
      split_ifs with hk
      · grind [OrderedSet.mem_keys_add]
      · simp [Ne.symm hk])
    l .empty
  simpa using hcollects

variable {neighbors : List (String × IpAddr)} {mac : String}

/-- What it takes to be found: the addresses are those of the neighbor table, and no other client
has one of them. -/
structure Identified (neighbors : List (String × IpAddr)) (mac : String)
    (addresses : List IpAddr) : Prop where
  mem_iff : ∀ address, address ∈ addresses ↔
    ∃ binding ∈ neighbors, toAsciiLowercase binding.1 = toAsciiLowercase mac ∧
      binding.2 = address
  own : ∀ address ∈ addresses, ∀ binding ∈ neighbors, binding.2 = address →
    toAsciiLowercase binding.1 = toAsciiLowercase mac

variable {addresses : List IpAddr}

theorem resolve_ok (h : (ClientAddresses.fromNeighbors neighbors).resolve mac = .ok addresses) :
    Identified neighbors mac addresses := by
  have hbyMac := mem_grouped (fun b : String × IpAddr => toAsciiLowercase b.1) (·.2) neighbors
  have hbyIp := mem_grouped (·.2) (fun b : String × IpAddr => toAsciiLowercase b.1) neighbors
  unfold ClientAddresses.resolve at h
  rcases hl : (ClientAddresses.fromNeighbors neighbors).byMac.lookup (toAsciiLowercase mac)
    with _ | found
  · simp [hl] at h
  simp only [hl] at h
  split_ifs at h with hconf hem
  obtain rfl := Except.ok.inj h
  have hmem : ∀ address, address ∈ found.keys ↔
      ∃ binding ∈ neighbors, toAsciiLowercase binding.1 = toAsciiLowercase mac ∧
        binding.2 = address := by
    intro address
    rw [← hbyMac]
    unfold ClientAddresses.fromNeighbors at hl
    rw [hl, Option.getD_some]
  refine ⟨hmem, fun address haddr binding hbind hown => ?_⟩
  obtain ⟨first, hfst, hmac, hfirstOwn⟩ := (hmem address).1 haddr
  -- an address of two clients would be in conflict
  by_contra ho
  refine hconf (List.any_eq_true.2 ⟨address, haddr, decide_eq_true ?_⟩)
  have hcs := fun b hb hba => (hbyIp address (toAsciiLowercase (Prod.fst b))).2
    ⟨b, hb, hba, rfl⟩
  rcases hgroup : OrderedMap.lookup (neighbors.foldl
      (fun (m : OrderedMap IpAddr (OrderedSet String)) b =>
        m.upsert b.2 fun s => (s.getD .empty).add (toAsciiLowercase b.1)) .empty) address
    with _ | group
  · have hn := hcs first hfst hfirstOwn
    simp [hgroup] at hn
  · simp only [hgroup] at hcs
    refine List.mem_map.2 ⟨(address, group), List.mem_filter.2
      ⟨OrderedMap.mem_entries_iff.2 hgroup, decide_eq_true ?_⟩, rfl⟩
    have hone := hcs first hfst hfirstOwn
    have htwo := hcs binding hbind hown
    have hne : toAsciiLowercase first.1 ≠ toAsciiLowercase binding.1 :=
      fun heq => ho (heq.symm.trans hmac)
    have hsub : [toAsciiLowercase first.1, toAsciiLowercase binding.1] ⊆ group.keys := by
      simpa using ⟨hone, htwo⟩
    have hle := (List.subperm_of_subset (by simpa using hne) hsub).length_le
    rwa [OrderedMap.keys, List.length_map] at hle

variable (identities : ClientAddresses)

/-- The current addresses of a client, none if it was not found. -/
def addressesOf (mac : String) : List IpAddr :=
  match identities.resolve mac with
  | .ok addresses => addresses
  | .error _ => []

/-! ### Blocked addresses -/

def Blocked (state : PlanState) (address : IpAddr) : Prop :=
  address ∈ state.blockedV4.keys ∨ address ∈ state.blockedV6.keys

section

variable {topology : PolicyTopology} (hipv6 : topology.ipv6Coverage = true)
include hipv6

variable (policy : PolicySnapshotEntry) (state : PlanState) (address : IpAddr)

theorem blocked_blockAddress (added address : IpAddr) :
    Blocked (blockAddress topology state added) address ↔
      Blocked state address ∨ isUnicastGlobal added = true ∧ added = address := by
  unfold blockAddress Blocked
  by_cases hglob : isUnicastGlobal added = true
  · grind [OrderedSet.mem_keys_add]
  · simp [hglob]

theorem blocked_applyClient :
    Blocked (applyClient topology policy mac addresses state) address ↔
      Blocked state address ∨ policy.spec.action.kind = .block ∧
        mac ∉ state.decidedClientRules.keys ∧ isUnicastGlobal address = true ∧
          address ∈ addresses := by
  have hund : (!state.decidedClientRules.contains mac) = true ↔
      mac ∉ state.decidedClientRules.keys := by
    rw [OrderedMap.mem_keys_iff, OrderedMap.contains, Bool.not_eq_true', Bool.not_eq_true]
  unfold applyClient
  by_cases hb : policy.spec.action.kind = .block ∧
      (!state.decidedClientRules.contains mac) = true
  · rw [if_pos hb, foldl_collects (Q := (Blocked · address))
      (fun s added => blocked_blockAddress hipv6 s added address)]
    refine or_congr Iff.rfl ?_
    constructor
    · rintro ⟨added, hadded, hglob, rfl⟩
      exact ⟨hb.1, hund.1 hb.2, hglob, hadded⟩
    · grind
  · rw [if_neg hb]
    refine ⟨Or.inl, fun h => h.resolve_right ?_⟩
    rintro ⟨hkd, hmac, -⟩
    exact hb ⟨hkd, hund.2 hmac⟩

end

theorem decided_applyClient {topology : PolicyTopology} (policy : PolicySnapshotEntry)
    (state : PlanState) (other : String) :
    other ∈ (applyClient topology policy mac addresses state).decidedClientRules.keys ↔
      other ∈ state.decidedClientRules.keys ∨ isLimit policy = false ∧ mac = other := by
  rw [applyClient_proj (·.decidedClientRules) (fun _ _ _ => rfl)]
  split_ifs with hlim
  · simp [hlim]
  · rw [OrderedSet.mem_keys_add, or_comm]
    simp [hlim, eq_comm]

/-! ### The first candidate decides -/

/-- The policy decides about a client that was found. -/
def decidesFound (policy : PolicySnapshotEntry) (mac : String) : Bool :=
  policy.spec.selectors.clients.any fun listed =>
    !isLimit policy && found identities listed && toAsciiLowercase listed == mac

/-- What a block of a client comes to. -/
def BlocksAddress (policy : PolicySnapshotEntry) (mac : String) (address : IpAddr) : Prop :=
  policy.spec.action.kind = .block ∧ isUnicastGlobal address = true ∧
    address ∈ addressesOf identities mac

section

variable {topology : PolicyTopology} (hipv6 : topology.ipv6Coverage = true)
  (identities : ClientAddresses)
include hipv6

theorem firstWins_planClient (policy : PolicySnapshotEntry) :
    FirstWins (planClient topology identities policy)
      (fun acc mac => mac ∈ acc.1.decidedClientRules.keys) (fun acc => Blocked acc.1)
      (fun listed mac => !isLimit policy && found identities listed
        && toAsciiLowercase listed == mac) (fun _ => BlocksAddress identities policy) where
  decided_step acc listed mac := by
    unfold planClient found
    dsimp only
    cases identities.resolve (toAsciiLowercase listed) with
    | ok addresses => simpa [Except.toBool] using decided_applyClient ..
    | error error => simp [Except.toBool]
  effects_step acc listed address := by
    unfold planClient found BlocksAddress addressesOf
    dsimp only
    cases hres : identities.resolve (toAsciiLowercase listed) with
    | ok addresses =>
      have hkd : policy.spec.action.kind = .block → isLimit policy = false := by
        intro hkd
        rw [isLimit, hkd]
        rfl
      rw [blocked_applyClient hipv6]
      refine or_congr Iff.rfl ⟨?_, ?_⟩
      · rintro ⟨hb, hund, hglob, hmem⟩
        refine ⟨toAsciiLowercase listed, hund, ?_, hb, hglob, ?_⟩
        · simp [hkd hb, Except.toBool]
        · rw [hres]
          exact hmem
      · rintro ⟨mac, hund, hnm, hb, hglob, hmem⟩
        simp only [Bool.and_eq_true, beq_iff_eq] at hnm
        obtain ⟨-, rfl⟩ := hnm
        rw [hres] at hmem
        exact ⟨hb, hund, hglob, hmem⟩
    | error error => simp [Except.toBool, Blocked]

theorem firstWins_planPolicy :
    FirstWins (planPolicy topology identities)
      (fun state mac => mac ∈ state.decidedClientRules.keys) Blocked
      (decidesFound identities) (BlocksAddress identities) := by
  have hloop := FirstWins.ofLoop (fun policy => policy.spec.selectors.clients)
    (firstWins_planClient hipv6 identities)
  have hplan : ∀ state policy,
      (planPolicy topology identities state policy).decidedClientRules =
        (policy.spec.selectors.clients.foldl (planClient topology identities policy)
          (state, false, false)).1.decidedClientRules ∧
      Blocked (planPolicy topology identities state policy) =
        Blocked (policy.spec.selectors.clients.foldl (planClient topology identities policy)
          (state, false, false)).1 := by
    intro state policy
    unfold planPolicy
    dsimp only
    split_ifs <;> exact ⟨rfl, rfl⟩
  refine ⟨fun state policy mac => ?_, fun state policy address => ?_⟩
  · rw [(hplan state policy).1]
    exact hloop.decided_step (state, false, false) policy mac
  · rw [(hplan state policy).2]
    exact hloop.effects_step (state, false, false) policy address

end

variable (i : PlanInput)

/-- **Blocked addresses.** A plan blocks the global addresses of the clients whose first candidate
is a block. -/
theorem blocked_iff (hipv6 : i.topology.ipv6Coverage = true) (address : IpAddr) :
    Blocked i.state address ↔ ∃ mac policy,
      i.candidates.find? (decidesFound (.fromNeighbors i.topology.neighborBindings) · mac) =
          some policy ∧
        BlocksAddress (.fromNeighbors i.topology.neighborBindings) policy mac address := by
  refine ((firstWins_planPolicy hipv6
    (.fromNeighbors i.topology.neighborBindings)).effects_foldl i.candidates _ address).trans ?_
  simp [Blocked]

/-- The plan blocks an address that the neighbor table gives to the client. -/
def BlocksClient (topology : PolicyTopology) (plan : BuiltPlan) (mac : String) : Prop :=
  ∃ binding ∈ topology.neighborBindings, toAsciiLowercase binding.1 = mac ∧
    (binding.2 ∈ plan.blockedV4.keys ∨ binding.2 ∈ plan.blockedV6.keys)

def plan (i : PlanInput) : BuiltPlan :=
  buildPlan i.policies i.intervals i.validUntilMs i.now i.topology

/-- **Blocked clients.** A plan blocks the clients whose first candidate is a block and that have a
global address. -/
theorem blocksClient_iff (hipv6 : i.topology.ipv6Coverage = true) (mac : String) :
    BlocksClient i.topology (plan i) mac ↔
      (∃ policy, i.candidates.find?
          (decidesFound (.fromNeighbors i.topology.neighborBindings) · mac) = some policy ∧
        policy.spec.action.kind = .block) ∧
      ∃ binding ∈ i.topology.neighborBindings, toAsciiLowercase binding.1 = mac ∧
        isUnicastGlobal binding.2 = true := by
  have hid : ∀ {other policy}, i.candidates.find?
      (decidesFound (.fromNeighbors i.topology.neighborBindings) · other) = some policy →
        toAsciiLowercase other = other ∧ Identified i.topology.neighborBindings other
          (addressesOf (.fromNeighbors i.topology.neighborBindings) other) := by
    intro other policy hfind
    have hdec := List.find?_some
      hfind
    obtain ⟨listed, -, hli⟩ := List.any_eq_true.1 hdec
    simp only [Bool.and_eq_true, beq_iff_eq] at hli
    obtain ⟨⟨-, hfd⟩, rfl⟩ := hli
    refine ⟨toAsciiLowercase_idem listed, ?_⟩
    unfold found at hfd
    unfold addressesOf
    cases hres : (ClientAddresses.fromNeighbors i.topology.neighborBindings).resolve
        (toAsciiLowercase listed) with
    | ok addresses => exact resolve_ok hres
    | error error => simp [hres, Except.toBool] at hfd
  constructor
  · rintro ⟨binding, hbind, rfl, hbl⟩
    obtain ⟨other, policy, hfind, hkd, hglob, hmem⟩ := (blocked_iff i hipv6 _).1 hbl
    obtain ⟨hlo, hown⟩ := hid hfind
    have hsm : toAsciiLowercase binding.1 = other :=
      (hown.own binding.2 hmem binding hbind rfl).trans hlo
    grind
  · rintro ⟨⟨policy, hfind, hkd⟩, binding, hbind, hmac, hglob⟩
    obtain ⟨hlo, hown⟩ := hid hfind
    refine ⟨binding, hbind, hmac, (blocked_iff i hipv6 _).2
      ⟨mac, policy, hfind, hkd, hglob, (hown.mem_iff _).2 ⟨binding, hbind, ?_, rfl⟩⟩⟩
    rw [hlo, hmac]

end Netqmon.Agent.Executor.Blocking
