import Netqmon.Agent.Receiver.Runs
import Netqmon.Bpf.Program
import Netqmon.Lib.Checks

/-! # Endpoint blocks

A block command may leave behind a block of the endpoint that its flow talks to. Such a block holds for
five minutes at most and only as long as nothing changes in the application policies of the client. The
packet program finds it for the packets of the client to the endpoint and for the answers. -/

namespace Netqmon.Agent.Receiver.EndpointLease

open Lib.Checks Agent.Flow Bpf.Packet Bpf.Program Command FlowVerdict.Model Protocol.Policy Runs

variable {snapshot : PolicySnapshot} {clientMac : String} {now t e : ℤ}

/-! ### Policies of a client -/

/-- The policy has no schedule, or one of its compiled intervals contains the time. -/
def activeAt (snapshot : PolicySnapshot) (time : ℤ) (policy : PolicySnapshotEntry) : Bool :=
  policy.spec.schedule.isNone || (activeInterval snapshot policy.id time).isSome

/-- An enabled application policy of the client; one that names no client is about all of them. -/
def governs (clientMac : String) (policy : PolicySnapshotEntry) : Bool :=
  policy.spec.enabled && policy.spec.selectsApplications
    && (policy.spec.selectors.clients.isEmpty || selectsClient policy.spec clientMac)

/-! ### The lease -/

theorem le_foldl_min {l : List ℤ} {a : ℤ} : e ≤ l.foldl min a ↔ e ≤ a ∧ ∀ b ∈ l, e ≤ b := by
  induction l generalizing a with
  | nil => simp
  | cons b l ih => simp [ih, and_assoc]

/-- The snapshot has an active policy of the client under the id. -/
def Named (snapshot : PolicySnapshot) (clientMac : String) (time : ℤ) (id : String) : Prop :=
  ∃ policy, snapshot.policies.find? (·.id == id) = some policy ∧
    governs clientMac policy = true ∧ activeAt snapshot time policy = true

/-- No interval of the policy begins or ends after the first time and before the second. -/
def Settled (snapshot : PolicySnapshot) (now e : ℤ) (policy : PolicySnapshotEntry) : Prop :=
  ∃ entry, snapshot.scheduleIntervals.find? (·.policyId == policy.id) = some entry ∧
    ∀ interval ∈ entry.intervals, ∀ b ∈ [interval.startMs, interval.endMs], now < b → e ≤ b

variable {policy : PolicySnapshotEntry}

theorem Settled.activeAt_eq (h : Settled snapshot now e policy) (hle : now ≤ t) (hlt : t < e) :
    activeAt snapshot t policy = activeAt snapshot now policy := by
  obtain ⟨entry, he, hboundary⟩ := h
  unfold activeAt activeInterval
  rw [he, Option.bind_some, Option.bind_some, Bool.eq_iff_iff]
  simp only [Bool.or_eq_true, List.find?_isSome, Bool.and_eq_true, decide_eq_true_eq]
  refine or_congr_right (exists_congr fun interval => and_congr_right fun hmem => ?_)
  have hst := hboundary interval hmem interval.startMs (by simp)
  have hend := hboundary interval hmem interval.endMs (by simp)
  omega

/-- What bounds a lease. -/
structure Leased (snapshot : PolicySnapshot) (policyIds : List String) (clientMac : String)
    (issuedAtMs now e : ℤ) : Prop where
  ttl : e ≤ issuedAtMs + endpointCacheTtlMs ∧ e ≤ snapshot.validUntilMs
  named : ∀ id ∈ policyIds, Named snapshot clientMac now id
  scheduled : ∀ policy ∈ snapshot.policies.filter (fun policy => policy.spec.enabled &&
    policy.spec.schedule.isSome && policy.spec.selectsApplications &&
    selectsClient policy.spec clientMac), Settled snapshot now e policy

variable {policyIds : List String} {issuedAtMs : ℤ}

theorem leased_of_some
    (h : endpointExpiresAtMs snapshot policyIds clientMac issuedAtMs now = some e) :
    Leased snapshot policyIds clientMac issuedAtMs now e := by
  unfold endpointExpiresAtMs at h
  split at h
  · cases h
  next hguard =>
  obtain ⟨own, hown, h⟩ := Option.bind_eq_some_iff.1 h
  obtain ⟨expiry, hoth, h⟩ := Option.bind_eq_some_iff.1 h
  obtain ⟨-, ⟨⟩⟩ := Option.ite_none_right_eq_some.1 h
  have hsc := le_foldlM (P := Settled snapshot now e) (fun policy x y hstp hy => by
    obtain ⟨entry, he, hy'⟩ := Option.bind_eq_some_iff.1 hstp
    cases hy'
    obtain ⟨hx, hbounds⟩ := le_foldl_min.1 hy
    refine ⟨hx, ⟨entry, he, fun interval hiv b hb hlt => hbounds b ?_⟩⟩
    exact List.mem_filter.2 ⟨List.mem_flatMap.2 ⟨interval, hiv, hb⟩, by simpa using hlt⟩)
    hoth le_rfl
  have hnamed := le_foldlM (P := Named snapshot clientMac now) (fun id x y hstp hy => by
    obtain ⟨policy, hpol, hstp⟩ := Option.bind_eq_some_iff.1 hstp
    have hid : policy.id = id := by simpa using List.find?_some hpol
    obtain ⟨hown, hstp⟩ := Option.ite_none_left_eq_some.1 hstp
    simp only [Bool.or_eq_true, Bool.not_eq_eq_eq_not, Bool.not_true, not_or] at hown
    have hgov : governs clientMac policy = true := by
      simp [governs, hown.1.1.1, hown.1.2, hown.2]
    split at hstp
    · obtain ⟨interval, hiv, hy'⟩ := Option.bind_eq_some_iff.1 hstp
      cases hy'
      refine ⟨by omega, policy, hpol, hgov, ?_⟩
      simp [activeAt, hid, hiv]
    next hn =>
      cases hstp
      refine ⟨hy, policy, hpol, hgov, ?_⟩
      simp [activeAt, Option.not_isSome_iff_eq_none.1 hn]) hown hsc.1
  refine ⟨?_, hnamed.2, hsc.2⟩
  have httl := hnamed.1
  simp only [Bool.or_eq_true, decide_eq_true_eq] at hguard
  simp only [saturatingSub, endpointCacheTtlMs, i64Min] at httl ⊢
  omega

/-- Up to the end of the lease nothing changes in the application policies of the client. -/
theorem Leased.activeAt_eq (h : Leased snapshot policyIds clientMac issuedAtMs now e)
    (hcl : ∀ policy ∈ snapshot.policies, policy.spec.selectsApplications = true →
      policy.spec.selectors.clients ≠ []) (hle : now ≤ t) (hlt : t < e)
    (hmem : policy ∈ snapshot.policies) (hgov : governs clientMac policy = true) :
    activeAt snapshot t policy = activeAt snapshot now policy := by
  rcases hsc : policy.spec.schedule with _ | schedule
  · simp [activeAt, hsc]
  · simp only [governs, Bool.and_eq_true, Bool.or_eq_true, List.isEmpty_iff] at hgov
    have hcli := hgov.2.resolve_left (hcl policy hmem hgov.1.2)
    refine (h.scheduled policy ?_).activeAt_eq hle hlt
    simp [hmem, hgov.1, hsc, hcli]

/-! ### The key -/

/-- The bytes of a number of `n` bytes in network order. -/
def networkBytes (n : ℕ) (x : BitVec (8 * n)) : List (BitVec 8) :=
  (List.range n).reverse.map fun i => x.extractLsb' (8 * i) 8

/-- The bytes that `endpoint_block::key` fills in; the last two stay zero. -/
def learnedBytes (key : EndpointKey) : List (BitVec 8) :=
  [key.ipVersion.toBitVec, key.protocol.toBitVec] ++ networkBytes 2 key.destinationPort.toBitVec
    ++ networkBytes 16 key.sourceAddress ++ networkBytes 16 key.destinationAddress
    ++ networkBytes 6 key.clientMac ++ [0, 0]

/-- The layout of `struct endpoint_block_key`. -/
def structBytes (key : EndpointBlockKey) : List (BitVec 8) :=
  [key.ipVersion.toBitVec, key.protocol.toBitVec] ++ networkBytes 2 key.remotePort.toBitVec
    ++ networkBytes 16 key.clientAddress ++ networkBytes 16 key.remoteAddress
    ++ networkBytes 6 key.clientMac ++ [0, 0]

/-- A packet of the client to the endpoint of a learned key at ingress, or an answer of the endpoint at
egress; the ports of the client, the interface and the direction may be any. -/
inductive Exchanged (learned : FlowKey) (mac : BitVec 48) (skb : SkBuff) (key : FlowKey) : Prop
  | sent (hook : key.hook = Hook.ingress.code)
      (client : key.sourceAddress = learned.sourceAddress ∧ skb.mac 6 = mac)
      (remote : key.destinationAddress = learned.destinationAddress ∧
        key.destinationPort = learned.destinationPort)
  | answered (hook : key.hook = Hook.egress.code)
      (client : key.destinationAddress = learned.sourceAddress ∧ skb.mac 0 = mac)
      (remote : key.sourceAddress = learned.destinationAddress ∧
        key.sourcePort = learned.destinationPort)

/-- **Endpoint block.** A block of an endpoint ends within five minutes and with its snapshot, and before
any change in the application policies of the client. Its key is the one that the packet program builds
for both sides of the exchange. -/
theorem endpoint_block_justified (snapshot : PolicySnapshot) (policyIds : List String)
    (clientMac : String) (issuedAtMs now e : ℤ)
    (hclients : ∀ policy ∈ snapshot.policies, policy.spec.selectsApplications = true →
      policy.spec.selectors.clients ≠ [])
    (h : endpointExpiresAtMs snapshot policyIds clientMac issuedAtMs now = some e) :
    (e ≤ issuedAtMs + 300000 ∧ e ≤ snapshot.validUntilMs ∧
      ∀ t, now ≤ t → t < e → (∀ id ∈ policyIds, Named snapshot clientMac t id) ∧
        snapshot.policies.filter (fun policy => governs clientMac policy && activeAt snapshot t policy) =
          snapshot.policies.filter fun policy =>
            governs clientMac policy && activeAt snapshot now policy) ∧
      ∀ (learned key : FlowKey) (mac : BitVec 48) (skb : SkBuff), key.ipVersion = learned.ipVersion →
        key.protocol = learned.protocol → Exchanged learned mac skb key →
        learnedBytes (FlowVerdict.Operations.endpointBlockKey learned mac) =
          structBytes (endpointBlockKey skb key) := by
  have hleased := leased_of_some h
  refine ⟨⟨hleased.ttl.1, hleased.ttl.2, fun t hle hlt => ⟨fun id hid => ?_, ?_⟩⟩,
    fun learned key mac skb hversion hprotocol hexchanged => ?_⟩
  · obtain ⟨policy, hfind, hgoverns, hactive⟩ := hleased.named id hid
    have hsame := hleased.activeAt_eq hclients hle hlt (List.mem_of_find?_eq_some hfind) hgoverns
    exact ⟨policy, hfind, hgoverns, hsame.trans hactive⟩
  · refine List.filter_congr fun policy hmem => ?_
    rcases hgoverns : governs clientMac policy with _ | _
    · rfl
    · rw [hleased.activeAt_eq hclients hle hlt hmem hgoverns]
  · cases hexchanged with
    | sent hook client remote =>
      simp [endpointBlockKey, hook, learnedBytes, structBytes,
        FlowVerdict.Operations.endpointBlockKey, hversion, hprotocol, client, remote]
    | answered hook client remote =>
      simp [endpointBlockKey, hook, learnedBytes, structBytes, Hook.code,
        FlowVerdict.Operations.endpointBlockKey, hversion, hprotocol, client, remote]

/-- `sampleSnapshot` with intervals in which it blocks the videos of its client. -/
def scheduledSnapshot : PolicySnapshot :=
  { sampleSnapshot with
    policies := [⟨"policy-1", { sampleSpec "block" "video" ⟨.block, none, none⟩ with
      schedule := some ⟨"UTC", [⟨[.mon], "09:00", "10:00"⟩]⟩ }⟩]
    scheduleIntervals := [⟨"policy-1", [⟨0, 200000⟩, ⟨900000, 950000⟩]⟩] }

theorem scheduled_block_justified :
    endpointExpiresAtMs scheduledSnapshot ["policy-1"] sampleClient 1000 2000 = some 200000 ∧
      Named scheduledSnapshot sampleClient 199999 "policy-1" :=
  have hexpiry : endpointExpiresAtMs scheduledSnapshot ["policy-1"] sampleClient 1000 2000 =
    some 200000 := by decide +kernel
  have hjustified := endpoint_block_justified scheduledSnapshot ["policy-1"] sampleClient 1000 2000
    200000 (by decide +kernel) hexpiry
  ⟨hexpiry, (hjustified.1.2.2 199999 (by decide) (by decide)).1 "policy-1" (by simp)⟩

end Netqmon.Agent.Receiver.EndpointLease
