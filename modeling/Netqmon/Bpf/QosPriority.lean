import Netqmon.Bpf.Builds

/-! # Client budgets and client blocks

With the shaping features built in, the programs also work on clients, which they know by their MAC
addresses. A blocked client's packets to and from the Internet are dropped. The packets of a limited
client are sent into a queue: at ingress `qosPriorityIngress` notes the queue in the packet's
priority, and the filter behind it, `netqmonQosPriorityMatch`, decides whether the packet is
redirected to the device that has the queues; at egress `qosPriorityEgress` sets the priority.

* A blocked client's packet is dropped if it has at most two VLAN tags, or if the first two cannot be
  read directly (`blocked_client_dropped_iff`).
* A limited client's packet is dropped or queued for the client, except that a packet with the queue
  of an application of its own is let through unqueued when there is no device to redirect it to
  (`limited_client_contained`). -/

namespace Netqmon.Bpf.QosPriority

open Lib.Keyed Packet Program Builds

/-! ### Class ids -/

def downloadMajor : UInt32 := 0x0051
def uploadMajor : UInt32 := 0x0052
def bypassMinor : UInt32 := 0xfffe
def clientFirst : UInt32 := 0x0100
def clientLast : UInt32 := 0x01ff
def defaultFirst : UInt32 := 0x0200
def defaultLast : UInt32 := 0x02ff
def applicationFirst : UInt32 := 0x1000
def applicationLast : UInt32 := 0x1fff
def applicationsPerClient : UInt32 := 0x0010

def qosClassid (major minor : UInt32) : UInt32 := (major <<< 16) ||| minor

/-- The class of one of the applications of a client. -/
def qosPriorityApplicationClassidValid (classid major slot : UInt32) : Prop :=
  let minor := classid &&& 0xffff
  classid >>> 16 = major ∧ applicationFirst ≤ minor ∧ minor ≤ applicationLast ∧
    (minor - applicationFirst) / applicationsPerClient = slot

instance (classid major slot : UInt32) :
    Decidable (qosPriorityApplicationClassidValid classid major slot) :=
  inferInstanceAs (Decidable (_ ∧ _))

/-- Any class of the upload tree that packets may be sent into. -/
def qosPriorityUploadClassidValid (classid : UInt32) : Prop :=
  let minor := classid &&& 0xffff
  classid >>> 16 = uploadMajor ∧
    ((defaultFirst ≤ minor ∧ minor ≤ defaultLast) ∨
      (applicationFirst ≤ minor ∧ minor ≤ applicationLast))

instance (classid : UInt32) : Decidable (qosPriorityUploadClassidValid classid) :=
  inferInstanceAs (Decidable (_ ∧ _))

/-! ### Clients and maps -/

def qosClientUpload : UInt32 := 1
def qosClientDownload : UInt32 := 2
def qosClientBlock : UInt32 := 4

structure QosClientAssignment where
  (slot deliveryIfindex flags generation : UInt32)
  expiresNs : ℕ
  (uploadClassid downloadClassid : UInt32)
deriving DecidableEq

variable (client : QosClientAssignment)

def QosClientAssignment.Has (flag : UInt32) : Prop :=
  client.flags &&& flag ≠ 0

instance (client : QosClientAssignment) (flag : UInt32) : Decidable (client.Has flag) :=
  inferInstanceAs (Decidable (_ ≠ _))

/-- A network of the household: the length and the bits of its address part. -/
structure InternalNetwork where
  length : ℕ
  address : BitVec 128
deriving DecidableEq

structure QosMaps where
  /-- The inner map of the published clients, by MAC address. -/
  clientsActive : Option (Rows (BitVec 48) QosClientAssignment)
  /-- The device with the queues for uploads. -/
  priorityIfb : Option UInt32
  (ingressPorts roots : List UInt32)
  internalV4 : List InternalNetwork
  internalV6 : List InternalNetwork

/-- The lookup of an address in a trie of networks. -/
def inInternal (networks : List InternalNetwork) (length : ℕ) (address : BitVec 128) : Prop :=
  ∃ network ∈ networks, network.length ≤ length ∧
    network.address >>> (128 - network.length) = address >>> (128 - network.length)

instance (networks : List InternalNetwork) (length : ℕ) (address : BitVec 128) :
    Decidable (inInternal networks length address) :=
  inferInstanceAs (Decidable (∃ _ ∈ _, _))

variable (maps : QosMaps)

variable (skb : SkBuff)

def qosPriorityClient (upload : Bool) : Option QosClientAssignment :=
  match maps.clientsActive with
  | none => none
  | some clients =>
    if ¬ skb.Fits 0 ethernetHeader then none
    else clients.lookup (if upload then skb.mac 6 else skb.mac 0)

def qosPriorityAssignmentValid : Prop :=
  let minor := defaultFirst + client.slot
  ¬ (clientLast - clientFirst < client.slot ∨ client.generation = 0 ∨
      client.flags &&& ~~~(qosClientUpload ||| qosClientDownload ||| qosClientBlock) ≠ 0) ∧
    minor ≤ defaultLast ∧ client.uploadClassid = qosClassid uploadMajor minor ∧
    client.downloadClassid = qosClassid downloadMajor minor ∧
    (¬ client.Has qosClientDownload ∨ client.deliveryIfindex ≠ 0)

instance (client : QosClientAssignment) : Decidable (qosPriorityAssignmentValid client) :=
  inferInstanceAs (Decidable (_ ∧ _))

/-- Whether a packet of a blocked client is to be dropped: it goes to, or comes from, an address
outside the household, or its IP header cannot be read. -/
def qosPriorityIsInternetPacket (sourceAddress : Bool) : Bool :=
  match networkLayer skb with
  | none => true
  | some (protocol, ip) =>
    if protocol = ethPIp then
      let address := skb.ipv4Address (if sourceAddress then ip + 12 else ip + 16)
      (¬ skb.Fits ip ipv4Header ∨ skb.byte ip >>> 4 ≠ 4) ∨ ¬ inInternal maps.internalV4 32 address
    else if protocol = ethPIpv6 then
      let address := skb.ipv6Address (if sourceAddress then ip + 8 else ip + 24)
      (¬ skb.Fits ip ipv6Header ∨ skb.byte ip >>> 4 ≠ 6) ∨ ¬ inInternal maps.internalV6 128 address
    else false

/-! ### The programs -/

/-- What a program does with a packet, and the counters that it increments. -/
structure Outcome where
  action : Action
  skb : SkBuff
  counted : List ℕ
deriving DecidableEq

/-- A device is published to which packets of the interface can be redirected. -/
def usableIfb (ifindex : UInt32) : Prop :=
  ∃ ifb, maps.priorityIfb = some ifb ∧ ifb ≠ 0 ∧ ifb ≠ ifindex

instance (maps : QosMaps) (ifindex : UInt32) : Decidable (usableIfb maps ifindex) :=
  match h : maps.priorityIfb with
  | none => isFalse (by simp [usableIfb, h])
  | some ifb => decidable_of_iff (ifb ≠ 0 ∧ ifb ≠ ifindex) (by simp [usableIfb, h])

def mirredCbMagic : UInt32 := 0x4e514d52

/-- The note for the filter behind the program. -/
def noteMirred : SkBuff :=
  { skb with cb0 := mirredCbMagic ^^^ skb.ifindex, cb1 := skb.priority }

def qosPriorityIngress (now : ℕ) (skb : SkBuff) : Outcome :=
  if skb.ifindex ∉ maps.ingressPorts then ⟨.ok, skb, []⟩
  else
    match qosPriorityClient maps skb true with
    | none => ⟨.ok, skb, []⟩
    | some client =>
      if client.expiresNs ≤ now ∨ ¬ qosPriorityAssignmentValid client then ⟨.ok, skb, []⟩
      else if client.Has qosClientBlock ∧ qosPriorityIsInternetPacket maps skb false then
        ⟨.shot, skb, [7]⟩
      else if qosPriorityApplicationClassidValid skb.priority uploadMajor client.slot then
        ⟨.unspec, if usableIfb maps skb.ifindex then noteMirred skb else skb, [0]⟩
      else if ¬ client.Has qosClientUpload then ⟨.ok, skb, []⟩
      else if ¬ usableIfb maps skb.ifindex then ⟨.shot, skb, [4]⟩
      else ⟨.unspec, noteMirred { skb with priority := client.uploadClassid }, [0]⟩

def bypassed : SkBuff :=
  { skb with priority := qosClassid downloadMajor bypassMinor }

/-- The end of `qosPriorityEgress`, for a client that is to be limited. -/
def deliver : Outcome :=
  if ¬ qosPriorityAssignmentValid client then ⟨.shot, bypassed skb, [4]⟩
  else if client.deliveryIfindex ≠ skb.ifindex then ⟨.shot, bypassed skb, [5]⟩
  else ⟨.ok, { skb with priority := client.downloadClassid }, [2]⟩

def qosPriorityEgress (now : ℕ) (skb : SkBuff) : Outcome :=
  if skb.ifindex ∉ maps.roots then ⟨.ok, skb, []⟩
  else
    let uploadedAfterIfb := qosPriorityUploadClassidValid skb.priority
    let bypass : Outcome := ⟨.ok, bypassed skb, if uploadedAfterIfb then [6, 3] else [3]⟩
    match qosPriorityClient maps skb false with
    | none => bypass
    | some client =>
      let active := now < client.expiresNs ∧ qosPriorityAssignmentValid client
      if active ∧ client.Has qosClientBlock ∧ qosPriorityIsInternetPacket maps skb true then
        ⟨.shot, skb, [7]⟩
      else if ¬ uploadedAfterIfb ∧ skb.priority >>> 16 = downloadMajor ∧ active ∧
          client.deliveryIfindex = skb.ifindex ∧
          qosPriorityApplicationClassidValid skb.priority downloadMajor client.slot then
        ⟨.ok, skb, [2]⟩
      else if ¬ client.Has qosClientDownload ∨ client.expiresNs ≤ now then bypass
      else deliver client skb

/-- The filter behind the ingress program; it matches a packet by leaving the verdict to its action,
which redirects the packet. -/
def netqmonQosPriorityMatch (now : ℕ) (skb : SkBuff) : Outcome :=
  if skb.cb0 = mirredCbMagic ^^^ skb.ifindex ∧ skb.cb1 = skb.priority ∧
      qosPriorityUploadClassidValid skb.priority then
    ⟨.unspec, { skb with cb0 := 0, cb1 := 0 }, [1]⟩
  else if ¬ usableIfb maps skb.ifindex ∨ skb.ifindex ∉ maps.ingressPorts then ⟨.ok, skb, []⟩
  else
    match qosPriorityClient maps skb true with
    | none => ⟨.ok, skb, []⟩
    | some client =>
      if ¬ qosPriorityAssignmentValid client ∨ client.expiresNs ≤ now then ⟨.ok, skb, []⟩
      else if ¬ qosPriorityApplicationClassidValid skb.priority uploadMajor client.slot ∧
          (¬ client.Has qosClientUpload ∨ skb.priority ≠ client.uploadClassid) then ⟨.ok, skb, []⟩
      else ⟨.unspec, skb, [1]⟩

/-! ### Blocked clients -/

variable {maps maps' : QosMaps} {now now' : ℕ} {skb : SkBuff} {client : QosClientAssignment}
  {tags ip : ℕ} {protocol : UInt16}

/-- Exactly `n` VLAN tags of the frame are skipped, whether they can be read directly or not. -/
def skipTags (skb : SkBuff) : ℕ → UInt16 × ℕ → Option (UInt16 × ℕ)
  | 0, place => some place
  | n + 1, (protocol, cursor) =>
    if IsVlan protocol ∧ cursor + vlanHeader ≤ skb.len then
      skipTags skb n (skb.be16 (cursor + 2), cursor + vlanHeader)
    else none

/-- The frame carries an IPv4 or IPv6 packet behind a number of VLAN tags. -/
structure IpBehind (skb : SkBuff) (tags : ℕ) (protocol : UInt16) (ip : ℕ) : Prop where
  tagged : skipTags skb tags (skb.be16 12, ethernetHeader) = some (protocol, ip)
  header : (protocol = ethPIp ∧ ip + ipv4Header ≤ skb.len ∧ skb.byte ip >>> 4 = 4) ∨
    (protocol = ethPIpv6 ∧ ip + ipv6Header ≤ skb.len ∧ skb.byte ip >>> 4 = 6)

/-- The address of the other side is in none of the networks of the household. -/
def Outside (maps : QosMaps) (skb : SkBuff) (protocol : UInt16) (ip : ℕ) (sourceAddress : Bool) :
    Prop :=
  if protocol = ethPIp then
    ¬ inInternal maps.internalV4 32 (skb.ipv4Address (if sourceAddress then ip + 12 else ip + 16))
  else
    ¬ inInternal maps.internalV6 128 (skb.ipv6Address (if sourceAddress then ip + 8 else ip + 24))

section Tags

variable {n cursor : ℕ} {type : UInt16}
  (h : skipTags skb tags (type, cursor) = some (protocol, ip))
include h

theorem skipVlans_of_few (hip : ¬ IsVlan protocol) (hle : tags ≤ n) :
    skipVlans skb n type cursor = none ∨ skipVlans skb n type cursor = some (protocol, ip) := by
  induction n generalizing tags type cursor with
  | zero =>
    obtain rfl := Nat.le_zero.1 hle
    exact .inr h
  | succ n ih =>
    cases tags with
    | zero =>
      obtain ⟨rfl, rfl⟩ := Prod.mk.inj (Option.some.inj h)
      exact .inr (if_pos hip)
    | succ tags =>
      simp only [skipTags, Option.ite_none_right_eq_some] at h
      obtain ⟨⟨hvlan, -⟩, hr⟩ := h
      rw [skipVlans, if_neg (not_not_intro hvlan)]
      split_ifs
      · exact ih hr (Nat.le_of_succ_le_succ hle)
      · exact .inl rfl

/-- More tags than are looked for: the last one is left, or a tag cannot be read. -/
theorem skipVlans_of_many (hlt : n < tags) (hcursor : cursor ≤ skb.dataEnd) :
    if skb.Fits cursor (n * vlanHeader) then ∃ type' cursor',
      skipVlans skb n type cursor = some (type', cursor') ∧ IsVlan type'
    else skipVlans skb n type cursor = none := by
  induction n generalizing tags type cursor with
  | zero =>
    obtain ⟨tags, rfl⟩ := Nat.exists_eq_succ_of_ne_zero hlt.ne'
    simp only [skipTags, Option.ite_none_right_eq_some] at h
    rw [if_pos (by simpa [SkBuff.Fits] using hcursor)]
    exact ⟨type, cursor, rfl, h.1.1⟩
  | succ n ih =>
    obtain ⟨tags, rfl⟩ := Nat.exists_eq_succ_of_ne_zero (Nat.ne_zero_of_lt hlt)
    simp only [skipTags, Option.ite_none_right_eq_some] at h
    obtain ⟨⟨hvlan, -⟩, hr⟩ := h
    rw [skipVlans, if_neg (not_not_intro hvlan)]
    by_cases hfit : skb.Fits cursor vlanHeader
    · have hrest := ih hr (Nat.lt_of_succ_lt_succ hlt) hfit
      have hsame : skb.Fits cursor ((n + 1) * vlanHeader) ↔
          skb.Fits (cursor + vlanHeader) (n * vlanHeader) := by
        unfold SkBuff.Fits
        grind
      simpa only [hsame, if_neg (not_not_intro hfit)] using hrest
    · have hlong : ¬ skb.Fits cursor ((n + 1) * vlanHeader) := by
        unfold SkBuff.Fits vlanHeader at *
        omega
      rw [if_neg hlong, if_pos hfit]

end Tags

/-- At most two VLAN tags, or the first two cannot be read directly. -/
def TagsHandled (skb : SkBuff) (tags : ℕ) : Prop :=
  tags ≤ 2 ∨ ¬ skb.Fits ethernetHeader (2 * vlanHeader)

theorem IpBehind.not_vlan (h : IpBehind skb tags protocol ip) : ¬ IsVlan protocol := by
  rcases h.header with ⟨rfl, -⟩ | ⟨rfl, -⟩ <;> decide

theorem fits_ethernet (h : skb.Fits ethernetHeader (2 * vlanHeader)) :
    skb.Fits 0 ethernetHeader := by
  unfold SkBuff.Fits at *
  omega

/-- Behind more tags the IP header is not found. -/
theorem IpBehind.not_internet (h : IpBehind skb tags protocol ip) (htags : ¬ TagsHandled skb tags)
    (maps : QosMaps) (sourceAddress : Bool) :
    qosPriorityIsInternetPacket maps skb sourceAddress = false := by
  obtain ⟨hmany, hfits⟩ := not_or.1 htags
  have hethernet := fits_ethernet (not_not.1 hfits)
  have hskip := skipVlans_of_many h.tagged (not_le.1 hmany) (by simpa [SkBuff.Fits] using hethernet)
  rw [if_pos (not_not.1 hfits)] at hskip
  obtain ⟨type, cursor, hskip, hvlan⟩ := hskip
  have hlayer : networkLayer skb = some (type, cursor) := by
    rw [networkLayer, if_neg (not_not_intro hethernet)]
    exact hskip
  have hip : type ≠ ethPIp ∧ type ≠ ethPIpv6 := by rcases hvlan with rfl | rfl <;> decide
  simp [qosPriorityIsInternetPacket, hlayer, hip]

/-- What cannot be read counts as a packet of the Internet. -/
theorem IpBehind.internet (h : IpBehind skb tags protocol ip) (htags : TagsHandled skb tags)
    {sourceAddress : Bool} (hout : Outside maps skb protocol ip sourceAddress) :
    qosPriorityIsInternetPacket maps skb sourceAddress = true := by
  have hlayer : networkLayer skb = none ∨ networkLayer skb = some (protocol, ip) := by
    unfold networkLayer
    split_ifs with hethernet
    · by_cases hfew : tags ≤ 2
      · exact skipVlans_of_few h.tagged h.not_vlan hfew
      · have hskip := skipVlans_of_many h.tagged (not_le.1 hfew)
          (by simpa [SkBuff.Fits] using hethernet)
        rw [if_neg (htags.resolve_left hfew)] at hskip
        exact .inl hskip
    · exact .inl rfl
  unfold qosPriorityIsInternetPacket
  rcases hlayer with hlayer | hlayer <;> rw [hlayer]
  rcases h.header with ⟨rfl, -⟩ | ⟨rfl, -⟩
  · rw [Outside, if_pos rfl] at hout
    simp [hout]
  · rw [Outside, if_neg (by decide)] at hout
    simp [hout, ethPIp, ethPIpv6]

/-- A client of slot 0 that is blocked, and nothing else. -/
def blockedClient : QosClientAssignment :=
  ⟨0, 0, qosClientBlock, 1, 1, qosClassid uploadMajor 0x200, qosClassid downloadMajor 0x200⟩

/-- **A blocked client is cut off from the Internet**, in both directions, as far as its frames have
at most two VLAN tags or the first two cannot be read directly. -/
theorem blocked_client_dropped_iff (h : IpBehind skb tags protocol ip) :
    (∀ (maps : QosMaps) (now : ℕ) (client : QosClientAssignment),
      qosPriorityAssignmentValid client → now < client.expiresNs → client.Has qosClientBlock →
        (skb.ifindex ∈ maps.ingressPorts → qosPriorityClient maps skb true = some client →
          Outside maps skb protocol ip false → (qosPriorityIngress maps now skb).action = .shot) ∧
        (skb.ifindex ∈ maps.roots → qosPriorityClient maps skb false = some client →
          Outside maps skb protocol ip true → (qosPriorityEgress maps now skb).action = .shot)) ↔
      TagsHandled skb tags := by
  constructor
  · intro hall
    by_contra htags
    -- the client is found, and nothing of its packet is
    let maps : QosMaps :=
      ⟨some (AList.insert (skb.mac 6) blockedClient ∅), none, [skb.ifindex], [], [], []⟩
    have hclient : qosPriorityClient maps skb true = some blockedClient := by
      dsimp only [qosPriorityClient, maps]
      rw [if_neg (not_not_intro (fits_ethernet (not_not.1 (not_or.1 htags).2)))]
      exact AList.lookup_insert _
    have hout : Outside maps skb protocol ip false := by
      unfold Outside
      split <;> simp [inInternal, maps]
    have hshot := (hall maps 0 blockedClient (by decide) (by decide) (by decide)).1
      (List.mem_singleton.2 rfl) hclient hout
    have hvalid : qosPriorityAssignmentValid blockedClient := by decide
    have hupload : ¬ blockedClient.Has qosClientUpload := by decide
    have hexpires : ¬ blockedClient.expiresNs ≤ 0 := by decide
    simp only [qosPriorityIngress, hclient, h.not_internet htags, hvalid, hexpires, maps,
      List.mem_singleton, not_true_eq_false, if_false, or_self, and_false, Bool.false_eq_true]
      at hshot
    split at hshot <;> cases hshot
  · intro htags maps now client hvalid hlive hblock
    have hexpires : ¬ client.expiresNs ≤ now := by omega
    refine ⟨fun hport hclient hout => ?_, fun hroot hclient hout => ?_⟩
    · simp [qosPriorityIngress, hport, hclient, hexpires, hvalid, hblock, h.internet htags hout]
    · simp [qosPriorityEgress, hroot, hclient, hlive, hvalid, hblock, h.internet htags hout]

/-- An IPv4 packet from 192.168.1.2 to 203.0.113.5. -/
def ipv4Frame (tags : List UInt8) : SkBuff :=
  wholeFrame ([0x02, 0, 0, 0, 0, 0x02, 0x02, 0, 0, 0, 0, 0x01] ++ tags ++ [0x08, 0, 0x45, 0, 0, 20, 0,
    0, 0, 0, 64, 6, 0, 0, 192, 168, 1, 2, 203, 0, 113, 5]) 0 2

def untagged : SkBuff := ipv4Frame []
def doubleTagged : SkBuff := ipv4Frame [0x81, 0, 0, 1, 0x81, 0, 0, 2]
def tripleTagged : SkBuff := ipv4Frame [0x81, 0, 0, 1, 0x81, 0, 0, 2, 0x81, 0, 0, 3]

/-- The client is blocked, its home network is 192.168.1.0/24, and interface 2 is an ingress port.
-/
def blockingMaps : QosMaps :=
  ⟨some (AList.insert 0x020000000001 blockedClient ∅), none, [2], [],
    [⟨24, 0xc0a80100000000000000000000000000⟩], []⟩

/-- A packet of a blocked client that is let through. -/
theorem tripleTagged_passes :
    qosPriorityClient blockingMaps tripleTagged true = some blockedClient ∧
      qosPriorityAssignmentValid blockedClient ∧ 0 < blockedClient.expiresNs ∧
      blockedClient.Has qosClientBlock ∧ tripleTagged.ifindex ∈ blockingMaps.ingressPorts ∧
      skipTags tripleTagged 3 (tripleTagged.be16 12, ethernetHeader) = some (ethPIp, 26) ∧
      ¬ inInternal blockingMaps.internalV4 32 (tripleTagged.ipv4Address (26 + 16)) ∧
      (qosPriorityIngress blockingMaps 0 tripleTagged).action = .ok := by
  decide +kernel

/-- The receiver is blocked, there is no home network, and interface 2 has a queue tree. -/
def receivingMaps : QosMaps :=
  ⟨some (AList.insert 0x020000000002 blockedClient ∅), none, [], [2], [], []⟩

theorem doubleTagged_dropped : (qosPriorityIngress blockingMaps 0 doubleTagged).action = .shot ∧
    (qosPriorityEgress receivingMaps 0 doubleTagged).action = .shot := by
  have hip : IpBehind doubleTagged 2 ethPIp 22 := ⟨by decide +kernel, by decide +kernel⟩
  have hdropped := (blocked_client_dropped_iff hip).2 (.inl le_rfl)
  constructor
  · refine (hdropped blockingMaps 0 blockedClient (by decide) (by decide) (by decide)).1
      (by decide +kernel) (by decide +kernel) ?_
    rw [Outside]
    decide +kernel
  · refine (hdropped receivingMaps 0 blockedClient (by decide) (by decide) (by decide)).2
      (by decide +kernel) (by decide +kernel) ?_
    rw [Outside]
    decide +kernel

/-! ### Limited clients -/

/-- The priority is the class of the client for uploads, or one of an application of the client. -/
def OwnUpload (client : QosClientAssignment) (priority : UInt32) : Prop :=
  priority = client.uploadClassid ∨
    qosPriorityApplicationClassidValid priority uploadMajor client.slot

def OwnDownload (client : QosClientAssignment) (priority : UInt32) : Prop :=
  priority = client.downloadClassid ∨
    qosPriorityApplicationClassidValid priority downloadMajor client.slot

/-- The packet is dropped, or the filter behind matches it with a priority of the client. -/
def Contained (maps maps' : QosMaps) (now now' : ℕ) (skb : SkBuff) (client : QosClientAssignment) :
    Prop :=
  let first := qosPriorityIngress maps now skb
  let second := netqmonQosPriorityMatch maps' now' first.skb
  first.action = .shot ∨
    first.action = .unspec ∧ second.action = .unspec ∧ OwnUpload client second.skb.priority

/-- **The way out**: the packet comes with the class of an application of the client, there is no
device for it when the program and the filter run, and the scratch fields of the packet do not
happen to hold the program's note. -/
structure Escapes (maps maps' : QosMaps) (skb : SkBuff) (client : QosClientAssignment) : Prop where
  application : qosPriorityApplicationClassidValid skb.priority uploadMajor client.slot
  unblocked : ¬ (client.Has qosClientBlock ∧ qosPriorityIsInternetPacket maps skb false = true)
  noDevice : ¬ usableIfb maps skb.ifindex
  noDeviceLater : ¬ usableIfb maps' skb.ifindex
  noNote : ¬ (skb.cb0 = mirredCbMagic ^^^ skb.ifindex ∧ skb.cb1 = skb.priority)

theorem uploadClassid_valid (h : qosPriorityAssignmentValid client) :
    qosPriorityUploadClassidValid client.uploadClassid := by
  obtain ⟨hslot, -, hup, -⟩ := h
  have hall : ∀ n : Fin 256, qosPriorityUploadClassidValid
      (qosClassid uploadMajor (defaultFirst + UInt32.ofNat n)) := by decide +kernel
  have hlt : client.slot.toNat < 256 := by
    have hle : ¬ clientLast - clientFirst < client.slot := fun hlt => hslot (.inl hlt)
    have hmax : (clientLast - clientFirst).toNat = 255 := by decide
    rw [UInt32.lt_iff_toNat_lt] at hle
    omega
  have hslot' := hall ⟨client.slot.toNat, hlt⟩
  rw [hup]
  simpa using hslot'

theorem application_uploadClassid_valid {classid slot : UInt32}
    (h : qosPriorityApplicationClassidValid classid uploadMajor slot) :
    qosPriorityUploadClassidValid classid :=
  ⟨h.1, .inr ⟨h.2.1, h.2.2.1⟩⟩

theorem match_noted (hval : qosPriorityUploadClassidValid skb.priority) :
    (netqmonQosPriorityMatch maps now (noteMirred skb)).action = .unspec ∧
      (netqmonQosPriorityMatch maps now (noteMirred skb)).skb.priority = skb.priority := by
  have hnote : (noteMirred skb).cb0 = mirredCbMagic ^^^ (noteMirred skb).ifindex ∧
      (noteMirred skb).cb1 = (noteMirred skb).priority ∧
      qosPriorityUploadClassidValid (noteMirred skb).priority := ⟨rfl, rfl, hval⟩
  rw [netqmonQosPriorityMatch, if_pos hnote]
  exact ⟨rfl, rfl⟩

theorem contained_iff (hport : skb.ifindex ∈ maps.ingressPorts)
    (hport' : skb.ifindex ∈ maps'.ingressPorts)
    (hcli : qosPriorityClient maps skb true = some client)
    (hclient' : qosPriorityClient maps' skb true = some client)
    (hval : qosPriorityAssignmentValid client) (hlv : now < client.expiresNs)
    (hlive' : now' < client.expiresNs) (hup : client.Has qosClientUpload) :
    Contained maps maps' now now' skb client ↔ ¬ Escapes maps maps' skb client := by
  have hx : ¬ client.expiresNs ≤ now := by omega
  by_cases hbl : client.Has qosClientBlock ∧ qosPriorityIsInternetPacket maps skb false = true
  · refine iff_of_true (.inl ?_) fun h => h.unblocked hbl
    grind [qosPriorityIngress]
  by_cases happ : qosPriorityApplicationClassidValid skb.priority uploadMajor client.slot
  · by_cases husable : usableIfb maps skb.ifindex
    · -- the program leaves its note for the filter
      have hfst : qosPriorityIngress maps now skb = ⟨.unspec, noteMirred skb, [0]⟩ := by
        grind [qosPriorityIngress]
      obtain ⟨hmatch, hprio⟩ := @match_noted maps' now' skb
        (application_uploadClassid_valid happ)
      refine iff_of_true (.inr ?_) fun h => h.noDevice husable
      rw [hfst]
      exact ⟨rfl, hmatch, .inr (hprio ▸ happ)⟩
    · have hfst : qosPriorityIngress maps now skb = ⟨.unspec, skb, [0]⟩ := by
        grind [qosPriorityIngress]
      -- the filter behind the program, for a packet without its note
      obtain ⟨hprio, hmatch⟩ :
          (netqmonQosPriorityMatch maps' now' skb).skb.priority = skb.priority ∧
          ((netqmonQosPriorityMatch maps' now' skb).action = .unspec ↔
            (skb.cb0 = mirredCbMagic ^^^ skb.ifindex ∧ skb.cb1 = skb.priority) ∨
              usableIfb maps' skb.ifindex) := by
        have hup := application_uploadClassid_valid happ
        unfold netqmonQosPriorityMatch
        by_cases hnote : skb.cb0 = mirredCbMagic ^^^ skb.ifindex ∧ skb.cb1 = skb.priority
        · simp [hnote, hup]
        · grind
      unfold Contained
      rw [hfst]
      dsimp only
      rw [hmatch, hprio]
      constructor
      · rintro (hshot | ⟨-, hmatched, -⟩) hescapes
        · cases hshot
        · exact hmatched.elim hescapes.noNote hescapes.noDeviceLater
      · intro hnot
        refine .inr ⟨rfl, ?_, .inr happ⟩
        by_contra hunm
        obtain ⟨hnote, hlt⟩ := not_or.1 hunm
        exact hnot ⟨happ, hbl, husable, hlt, hnote⟩
  · refine iff_of_true ?_ fun h => happ h.application
    by_cases husable : usableIfb maps skb.ifindex
    · have hfst : qosPriorityIngress maps now skb =
          ⟨.unspec, noteMirred { skb with priority := client.uploadClassid }, [0]⟩ := by
        simp [qosPriorityIngress, hport, hcli, hx, hval, happ, husable, hup,
          if_neg hbl]
      obtain ⟨hmatch, hprio⟩ := @match_noted maps' now'
        { skb with priority := client.uploadClassid } (uploadClassid_valid hval)
      refine .inr ?_
      rw [hfst]
      exact ⟨rfl, hmatch, .inl hprio⟩
    · refine .inl ?_
      grind [qosPriorityIngress]

/-- **A limited client stays within its queues.** Of its uploads, exactly those packets escape that
have the class of an application while no device is published; its downloads never do. -/
theorem limited_client_contained (maps maps' : QosMaps) (now now' : ℕ) (skb : SkBuff)
    (client : QosClientAssignment) :
    (skb.ifindex ∈ maps.ingressPorts → skb.ifindex ∈ maps'.ingressPorts →
      qosPriorityClient maps skb true = some client →
      qosPriorityClient maps' skb true = some client → qosPriorityAssignmentValid client →
      now < client.expiresNs → now' < client.expiresNs → client.Has qosClientUpload →
        (Contained maps maps' now now' skb client ↔ ¬ Escapes maps maps' skb client)) ∧
    (skb.ifindex ∈ maps.roots → qosPriorityClient maps skb false = some client →
      now < client.expiresNs → client.Has qosClientDownload →
        (qosPriorityEgress maps now skb).action = .shot ∨
          (qosPriorityEgress maps now skb).action = .ok ∧
            OwnDownload client (qosPriorityEgress maps now skb).skb.priority) := by
  refine ⟨fun hport hport' hclient hclient' hvalid hlive hlive' hupload =>
    contained_iff hport hport' hclient hclient' hvalid hlive hlive' hupload,
    fun hroot hclient hlive hdownload => ?_⟩
  have hexpires : ¬ (¬ client.Has qosClientDownload ∨ client.expiresNs ≤ now) := by grind
  unfold qosPriorityEgress
  rw [if_neg (not_not_intro hroot), hclient]
  dsimp only
  split
  · exact .inl rfl
  split
  · next happlication => exact .inr ⟨rfl, .inr happlication.2.2.2.2⟩
  unfold deliver
  split
  · exact .inl rfl
  split
  · exact .inl rfl
  · exact .inr ⟨rfl, .inl rfl⟩

/-- A client of slot 0 with limits in both directions. -/
def limitedClient : QosClientAssignment :=
  ⟨0, 3, qosClientUpload ||| qosClientDownload, 1, 9000, qosClassid uploadMajor 0x200,
    qosClassid downloadMajor 0x200⟩

/-- Interface 2 is an ingress port, interface 3 has a queue tree. -/
def limitingMaps (ifb : Option UInt32) : QosMaps :=
  ⟨some (AList.insert 0x020000000001 limitedClient ∅), ifb, [2], [3], [], []⟩

/-- The packet has the class of the client's first application. -/
def applicationPacket : SkBuff := { untagged with priority := qosClassid uploadMajor 0x1000 }

/-- Without a device the packet is neither dropped nor matched. -/
theorem applicationPacket_escapes :
    qosPriorityClient (limitingMaps none) applicationPacket true = some limitedClient ∧
      qosPriorityAssignmentValid limitedClient ∧ limitedClient.Has qosClientUpload ∧
      applicationPacket.ifindex ∈ (limitingMaps none).ingressPorts ∧
      (qosPriorityIngress (limitingMaps none) 0 applicationPacket).action = .unspec ∧
      (netqmonQosPriorityMatch (limitingMaps none) 0
        (qosPriorityIngress (limitingMaps none) 0 applicationPacket).skb).action = .ok := by
  decide +kernel

/-- A packet to the client. -/
def packetToClient : SkBuff :=
  wholeFrame [0x02, 0, 0, 0, 0, 0x01, 0x02, 0, 0, 0, 0, 0x02, 0x08, 0] 0 3

/-- With a device the packet is redirected, and packets to the client get its class. -/
theorem limitedClient_contained :
    Contained (limitingMaps (some 9)) (limitingMaps (some 9)) 0 0 applicationPacket limitedClient ∧
      ((qosPriorityEgress (limitingMaps none) 0 packetToClient).action = .shot ∨
        (qosPriorityEgress (limitingMaps none) 0 packetToClient).action = .ok ∧
        OwnDownload limitedClient
          (qosPriorityEgress (limitingMaps none) 0 packetToClient).skb.priority) := by
  have hup := (limited_client_contained (limitingMaps (some 9)) (limitingMaps (some 9)) 0 0
    applicationPacket limitedClient).1
  have hdown := (limited_client_contained (limitingMaps none) (limitingMaps none) 0 0
    packetToClient limitedClient).2
  refine ⟨(hup (by decide +kernel) (by decide +kernel) (by decide +kernel)
      (by decide +kernel) (by decide) (by decide) (by decide) (by decide)).2 fun h => ?_,
    hdown (by decide +kernel) (by decide +kernel) (by decide) (by decide)⟩
  exact h.noDevice (by decide +kernel)

end Netqmon.Bpf.QosPriority
