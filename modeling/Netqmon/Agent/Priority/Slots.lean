import Netqmon.Agent.Priority.Selection

/-! # Class slots of the priority backend

Every client of the priority backend has a slot, from which the numbers of its classes follow.
`allocate` gives each selected client the slot that it has, or the lowest free one. A lease is never
taken away: that of a client that is no longer selected becomes inactive. Removing unused classes from
the trees does not change the leases, so in the end the slots are used up (`slots_used_up`). -/

namespace Netqmon.Agent.Priority.Slots

open Selection Selection.MacAddress Lib.Checks Lib.Ordered

/-! ### Allocation -/

def clientFirst : ℕ := 0x0100
def clientLast : ℕ := 0x01ff
def defaultFirst : ℕ := 0x0200
def defaultLast : ℕ := 0x02ff
def slotCount : ℕ := clientLast - clientFirst + 1

structure ClientSlotLease where
  mac : String
  slot : ℕ
  active : Bool

def canonicalMac (value : String) : Except String MacAddress := do
  let mac ← (fromStr value).mapError ("priority_identity_invalid: " ++ ·)
  ensure (mac.isUnicast && mac.display == value)
    "priority_identity_invalid: expected a canonical unicast client MAC"
  return mac

def ClientSlotLease.validate (lease : ClientSlotLease) : Except String Unit := do
  let _ ← canonicalMac lease.mac
  ensure (lease.slot < slotCount && defaultFirst + lease.slot ≤ defaultLast)
    "priority_classid_invalid: client slot is outside the shared ABI"

variable (selected : OrderedSet String)

def keepLease (leases : List ClientSlotLease)
    (lease : ClientSlotLease) : Except String (List ClientSlotLease) := do
  lease.validate
  ensure (lease.slot ∉ leases.map (·.slot) ∧ lease.mac ∉ leases.map (·.mac))
    "priority_classid_conflict: duplicate client or class lease"
  return leases ++ [{ lease with active := selected.contains lease.mac }]

def drainRequired : String :=
  "priority_class_slots_exhausted: retired client queues require verified drain before reuse"

variable (leases : List ClientSlotLease)

def leaseClient (mac : String) : Except String (List ClientSlotLease) :=
  if mac ∈ leases.map (·.mac) then .ok leases
  else
    match (List.range slotCount).find? fun slot => slot ∉ leases.map (·.slot) with
    | none => .error drainRequired
    | some slot => .ok (leases ++ [⟨mac, slot, true⟩])

def tooManyLeases : String :=
  "priority_class_slots_exhausted: at most 256 client leases are available"

def allocate (previous : List ClientSlotLease) : Except String (List ClientSlotLease) := do
  ensure (selected.keys.length ≤ slotCount ∧ previous.length ≤ slotCount) tooManyLeases
  selected.keys.forM fun mac => do let _ ← canonicalMac mac
  let kept ← previous.foldlM (keepLease selected) []
  let leases ← selected.keys.foldlM leaseClient kept
  return leases.insertionSort fun a b => a.slot ≤ b.slot

/-! ### Runs -/

/-- An application of a snapshot, as far as slots are concerned. -/
structure Application where
  selected : OrderedSet String
  canonical : ∀ mac ∈ selected.keys, ∃ address, canonicalMac mac = .ok address
  few : selected.keys.length ≤ 200
  /-- All that comes after the allocation succeeds as well. -/
  committed : Bool

/-- The result of the allocation, and the leases that are saved. -/
def apply (saved : List ClientSlotLease) (a : Application) :
    Except String (List ClientSlotLease) × List ClientSlotLease :=
  match allocate a.selected saved with
  | .error error => (.error error, saved)
  | .ok leases => (.ok leases, if a.committed then leases else saved)

def exhausted : Except String (List ClientSlotLease) → Bool
  | .error error => error == drainRequired || error == tooManyLeases
  | .ok _ => false

/-- No application of the run finds the slots used up. -/
def neverExhausted : List ClientSlotLease → List Application → Prop
  | _, [] => True
  | saved, a :: rest => exhausted (apply saved a).1 = false ∧ neverExhausted (apply saved a).2 rest

/-- The clients that were selected before and those of each application are not too many. -/
def fewClients : Finset String → List Application → Prop
  | _, [] => True
  | clients, a :: rest =>
    (clients ∪ a.selected.keys.toFinset).card ≤ slotCount ∧
      fewClients (if a.committed then clients ∪ a.selected.keys.toFinset else clients) rest

/-! ### Leases -/

/-- Leases that can be saved. -/
structure Good (leases : List ClientSlotLease) : Prop where
  valid : ∀ lease ∈ leases, lease.validate = .ok ()
  macs : (leases.map (·.mac)).Nodup
  slots : (leases.map (·.slot)).Nodup

def clientsOf : Finset String := (leases.map (·.mac)).toFinset

variable {leases leases' : List ClientSlotLease} {lease : ClientSlotLease} {mac : String}
  {selected : OrderedSet String}

theorem good_nil : Good [] := ⟨nofun, List.nodup_nil, List.nodup_nil⟩

theorem validate_eq_ok : lease.validate = .ok () ↔
    (∃ address, canonicalMac lease.mac = .ok address) ∧ lease.slot < slotCount := by
  unfold ClientSlotLease.validate
  rw [bind_eq_ok]
  simp only [ensure_eq_ok, Bool.and_eq_true, decide_eq_true_eq, exists_and_right]
  have hdefault : lease.slot < slotCount → defaultFirst + lease.slot ≤ defaultLast := by
    unfold slotCount clientLast clientFirst defaultFirst defaultLast
    omega
  exact ⟨fun h => ⟨h.1, h.2.1⟩, fun h => ⟨h.1, h.2, hdefault h.2⟩⟩

theorem Good.perm (h : Good leases) (hperm : leases'.Perm leases) : Good leases' :=
  ⟨fun lease hlease => h.valid lease (hperm.mem_iff.1 hlease), (hperm.map _).nodup_iff.2 h.macs,
    (hperm.map _).nodup_iff.2 h.slots⟩

theorem Good.card (h : Good leases) : (clientsOf leases).card = leases.length := by
  rw [clientsOf, List.toFinset_card_of_nodup h.macs, List.length_map]

theorem Good.length_le (h : Good leases) : leases.length ≤ slotCount := by
  have hsb : leases.map (·.slot) ⊆ List.range slotCount := by
    have hval := h.valid
    grind [validate_eq_ok]
  simpa using h.slots.length_le_of_subset hsb

theorem foldlM_keepLease : ∀ {prev kept : List ClientSlotLease}, Good (kept ++ prev) →
    ∃ leases, prev.foldlM (keepLease selected) kept = .ok leases ∧ Good leases ∧
      clientsOf leases = clientsOf (kept ++ prev)
  | [], kept, h => by
    rw [List.append_nil] at h ⊢
    exact ⟨kept, rfl, h, rfl⟩
  | lease :: prev, kept, h => by
    have hfree : lease.slot ∉ kept.map (·.slot) ∧ lease.mac ∉ kept.map (·.mac) := by
      have hmacs := h.macs
      have hslots := h.slots
      grind
    have hval := h.valid lease (List.mem_append_right _ List.mem_cons_self)
    have hstp : keepLease selected kept lease =
        .ok (kept ++ [{ lease with active := selected.contains lease.mac }]) :=
      seq_eq_ok.2 ⟨hval, seq_eq_ok.2 ⟨ensure_eq_ok.2 (decide_eq_true hfree), rfl⟩⟩
    have hnx : Good (kept ++ [{ lease with active := selected.contains lease.mac }] ++ prev) := by
      have hvalidOther := h.valid
      exact ⟨by grind [ClientSlotLease.validate], by simpa using h.macs, by simpa using h.slots⟩
    obtain ⟨leases, hrun, hgd, hcl⟩ := foldlM_keepLease hnx
    refine ⟨leases, ?_, hgd, ?_⟩
    · rw [List.foldlM_cons, hstp]
      exact hrun
    · rw [hcl]
      simp [clientsOf]

theorem leaseClient_spec (h : Good leases) (hcn : ∃ address, canonicalMac mac = .ok address) :
    (leaseClient leases mac = .error drainRequired ∧
        slotCount < (clientsOf leases ∪ {mac}).card) ∨
      ∃ leases', leaseClient leases mac = .ok leases' ∧ Good leases' ∧
        clientsOf leases' = clientsOf leases ∪ {mac} := by
  unfold leaseClient
  by_cases hkn : mac ∈ leases.map (·.mac)
  · rw [if_pos hkn]
    refine .inr ⟨leases, rfl, h, ?_⟩
    rw [Finset.union_singleton]
    exact (Finset.insert_eq_of_mem (List.mem_toFinset.2 hkn)).symm
  rw [if_neg hkn]
  cases hfd : (List.range slotCount).find? fun slot => slot ∉ leases.map (·.slot) with
  | none =>
    refine .inl ⟨rfl, ?_⟩
    have hall : List.range slotCount ⊆ leases.map (·.slot) := fun slot hslot => by
      simpa using List.find?_eq_none.1 hfd slot hslot
    have hle := List.nodup_range.length_le_of_subset hall
    rw [List.length_range, List.length_map] at hle
    rw [Finset.union_singleton, Finset.card_insert_of_notMem (by rwa [clientsOf, List.mem_toFinset]),
      h.card]
    omega
  | some slot =>
    have hval : (⟨mac, slot, true⟩ : ClientSlotLease).validate = .ok () :=
      validate_eq_ok.2 ⟨hcn, List.mem_range.1 (List.mem_of_find?_eq_some hfd)⟩
    have hvalidOther := h.valid
    have hmacs := h.macs
    have hslots := h.slots
    exact .inr ⟨_, rfl, ⟨by grind, by grind, by grind⟩, by simp [clientsOf]⟩

theorem foldlM_leaseClient : ∀ {macs : List String} {leases : List ClientSlotLease}, Good leases →
    (∀ mac ∈ macs, ∃ address, canonicalMac mac = .ok address) →
    (macs.foldlM leaseClient leases = .error drainRequired ∧
        slotCount < (clientsOf leases ∪ macs.toFinset).card) ∨
      ∃ leases', macs.foldlM leaseClient leases = .ok leases' ∧ Good leases' ∧
        clientsOf leases' = clientsOf leases ∪ macs.toFinset
  | [], leases, h, _ => .inr ⟨leases, rfl, h, by simp⟩
  | mac :: macs, leases, h, hcn => by
    rw [List.foldlM_cons, List.toFinset_cons, Finset.insert_eq, ← Finset.union_assoc]
    rcases leaseClient_spec h (hcn mac List.mem_cons_self) with
      ⟨hfu, hcard⟩ | ⟨leases', hstp, hgd, hcl⟩
    · refine .inl ⟨by rw [hfu]; rfl, hcard.trans_le ?_⟩
      exact Finset.card_le_card Finset.subset_union_left
    · rw [hstp, ← hcl]
      exact foldlM_leaseClient hgd fun mac hmac => hcn mac (List.mem_cons_of_mem _ hmac)

/-- **What an application does.** It finds slots unless its clients are too many together with those
that have a lease. -/
theorem apply_spec (a : Application) (h : Good leases) :
    (exhausted (apply leases a).1 = true ∧
        slotCount < (clientsOf leases ∪ a.selected.keys.toFinset).card) ∨
      exhausted (apply leases a).1 = false ∧ Good (apply leases a).2 ∧
        clientsOf (apply leases a).2 = (if a.committed then
          clientsOf leases ∪ a.selected.keys.toFinset else clientsOf leases) ∧
        (clientsOf leases ∪ a.selected.keys.toFinset).card ≤ slotCount := by
  obtain ⟨kept, hkp, hk, hcl⟩ := @foldlM_keepLease a.selected leases [] h
  have hmacs : a.selected.keys.forM (fun mac => do let _ ← canonicalMac mac) =
      (.ok () : Except String Unit) := by
    refine forM_eq_ok.2 fun mac hmac => ?_
    obtain ⟨address, haddr⟩ := a.canonical mac hmac
    rw [haddr]
    rfl
  have hallocate : allocate a.selected leases = (do
      let leases ← a.selected.keys.foldlM leaseClient kept
      return leases.insertionSort fun a b => a.slot ≤ b.slot) := by
    unfold allocate
    rw [decide_eq_true ⟨a.few.trans (by decide), h.length_le⟩, hmacs, hkp]
    rfl
  change clientsOf kept = clientsOf leases at hcl
  unfold apply
  rw [hallocate, ← hcl]
  rcases foldlM_leaseClient hk a.canonical with ⟨hfu, hcard⟩ | ⟨leases', hrun, hgd, hclients'⟩
  · rw [hfu]
    exact .inl ⟨rfl, hcard⟩
  · have hperm : (leases'.insertionSort fun a b => a.slot ≤ b.slot).Perm leases' :=
      List.perm_insertionSort _ _
    have hsm : clientsOf (leases'.insertionSort fun a b => a.slot ≤ b.slot) = clientsOf leases' :=
      List.toFinset_eq_of_perm _ _ (hperm.map _)
    rw [hrun]
    refine .inr ⟨rfl, ?_, ?_, hclients' ▸ hgd.card.trans_le hgd.length_le⟩
    · split_ifs
      exacts [hgd.perm hperm, h]
    · split_ifs
      exacts [hsm.trans hclients', hcl.symm]

theorem neverExhausted_iff : ∀ {run : List Application} {leases : List ClientSlotLease},
    Good leases → (neverExhausted leases run ↔ fewClients (clientsOf leases) run)
  | [], _, _ => Iff.rfl
  | a :: run, leases, h => by
    unfold neverExhausted fewClients
    rcases apply_spec a h with ⟨hfu, hcard⟩ | ⟨hfree, hnx, hcl, hcard⟩
    · rw [hfu]
      exact iff_of_false (fun h => Bool.noConfusion h.1) fun h => absurd h.1 (not_le.2 hcard)
    · rw [← hcl, ← neverExhausted_iff hnx]
      exact and_congr_left' (iff_of_true hfree hcard)

/-- **When slots are enough.** In a run of applications with at most two hundred clients each, the slots
are never used up if and only if the clients of each application and all clients that were selected
before it are at most as many as there are slots. -/
theorem slots_never_exhausted_iff (run : List Application) :
    neverExhausted [] run ↔ fewClients ∅ run := neverExhausted_iff good_nil

/-! ### Many clients -/

def sampleMac (i : ℕ) : String := display ⟨[2, 0, 0, 0, i / 256, i % 256]⟩

theorem hexOctet_spec : ∀ octet < 256,
    parseOctet (hexOctet octet) = .ok octet ∧ ':' ∉ hexOctet octet := by
  decide +kernel

theorem canonicalMac_sampleMac {i : ℕ} (h : i < 400) :
    canonicalMac (sampleMac i) = .ok ⟨[2, 0, 0, 0, i / 256, i % 256]⟩ := by
  have hsp : (sampleMac i).toList.splitOn ':' = [2, 0, 0, 0, i / 256, i % 256].map hexOctet := by
    rw [sampleMac, display, String.toList_ofList]
    refine List.splitOn_intercalate _ (fun part hpt => ?_) (by simp)
    obtain ⟨octet, hoctet, rfl⟩ := List.mem_map.1 hpt
    refine (hexOctet_spec octet ?_).2
    simp only [List.mem_cons, List.not_mem_nil, or_false] at hoctet
    omega
  have hpa : fromStr (sampleMac i) = .ok ⟨[2, 0, 0, 0, i / 256, i % 256]⟩ := by
    have hhi := hexOctet_spec (i / 256) (by omega)
    have hlow := hexOctet_spec (i % 256) (by omega)
    unfold fromStr
    rw [hsp]
    simp only [List.map_cons, List.take, List.mapM_cons, hhi, hlow]
    rfl
  refine bind_eq_ok.2 ⟨_, by rw [hpa]; rfl, seq_eq_ok.2 ⟨ensure_eq_ok.2 ?_, rfl⟩⟩
  simp [isUnicast, sampleMac]

/-- A snapshot that selects two hundred clients. -/
def sampleApplication (first : Fin 201) : Application where
  selected := .ofList ((List.range' first 200).map fun i => (sampleMac i, ()))
  canonical mac hmac := by
    obtain ⟨entry, hentry, rfl⟩ := List.mem_map.1 (OrderedMap.mem_keys_ofList.1 hmac)
    obtain ⟨i, hi, rfl⟩ := List.mem_map.1 hentry
    rw [List.mem_range'_1] at hi
    exact ⟨_, canonicalMac_sampleMac (by omega)⟩
  few := (OrderedMap.length_keys_ofList_le _).trans (by simp)
  committed := true

theorem sampleMac_mem {first : Fin 201} {i : ℕ} (h : first ≤ i ∧ i < first + 200) :
    sampleMac i ∈ (sampleApplication first).selected.keys.toFinset :=
  List.mem_toFinset.2 (OrderedMap.mem_keys_ofList.2
    (List.mem_map.2 ⟨_, List.mem_map.2 ⟨i, List.mem_range'_1.2 h, rfl⟩, rfl⟩))

/-- The second of two snapshots with two hundred clients each is refused. -/
theorem slots_used_up : ¬ neverExhausted [] [sampleApplication 0, sampleApplication 200] := by
  rw [neverExhausted_iff good_nil]
  rintro ⟨-, hcard, -⟩
  have hsubset : (Finset.range 400).image sampleMac ⊆
      clientsOf [] ∪ (sampleApplication 0).selected.keys.toFinset ∪
        (sampleApplication 200).selected.keys.toFinset := by
    intro mac hmac
    obtain ⟨i, hi, rfl⟩ := Finset.mem_image.1 hmac
    rw [Finset.mem_range] at hi
    rcases lt_or_ge i 200 with hlt | hge
    · exact Finset.mem_union_left _ (Finset.mem_union_right _ (sampleMac_mem ⟨i.zero_le, by simpa⟩))
    · exact Finset.mem_union_right _ (sampleMac_mem ⟨hge, hi⟩)
  have hinjective : Set.InjOn sampleMac (Finset.range 400) := by
    intro i hi j hj heq
    have hsame := canonicalMac_sampleMac (Finset.mem_range.1 hi)
    rw [heq, canonicalMac_sampleMac (Finset.mem_range.1 hj)] at hsame
    simp only [Except.ok.injEq, MacAddress.mk.injEq, List.cons.injEq] at hsame
    omega
  have hle := (Finset.card_le_card hsubset).trans hcard
  rw [Finset.card_image_of_injOn hinjective, Finset.card_range] at hle
  exact absurd hle (by decide)

end Netqmon.Agent.Priority.Slots
