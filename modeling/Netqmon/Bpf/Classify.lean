import Netqmon.Bpf.Program

/-! # What the parser finds in a frame

`sight` says for a frame under which key the parser counts it, and on which of four ways it gets
there:

* `Kind.listed`: the ports were read, and the verdict maps are consulted with the key before
  anything else;
* `Kind.portless`: a key without ports, which no verdict is looked up for;
* `Kind.late`: the ports were read behind the last round of the extension-header loop, no verdict is
  looked up;
* `Kind.cutOff`: the TCP or UDP header of an IPv6 packet is cut off before its ports; the parser
  goes on also when it should only consult the verdicts.

`parsePacket_eq` says what the parser does in terms of the sight. The frames of the third kind are
those of `LongChain` (`exists_late_iff`). -/

namespace Netqmon.Bpf.Classify

open Agent.Flow Packet Program

inductive Kind
  | listed
  | portless
  | late
  | cutOff
deriving DecidableEq

/-- What is captured from a frame besides samples. -/
inductive Capture
  | nothing
  | transport (offset : ℕ)
  | dns (offset : ℕ)

structure Sight where
  kind : Kind
  key : FlowKey
  tcpFlags : UInt8
  sample : Option (ℕ × ℕ)
  capture : Capture

variable (s : Sight)

/-- The ports of the key were read from the frame. -/
def Sight.PortsRead : Prop := s.kind = .listed ∨ s.kind = .late

variable (skb : SkBuff)

def flagsAt (protocol : UInt8) (offset : ℕ) : UInt8 :=
  if protocol = ipprotoTcp then readTcpFlags skb offset else 0

def withPorts (key : FlowKey) (offset : ℕ) : FlowKey :=
  { key with sourcePort := skb.be16 offset, destinationPort := skb.be16 (offset + 2) }

variable (cursor : ℕ) (hook : Hook)

def ipv4Key : FlowKey :=
  ⟨4, skb.byte (cursor + 9), 0, hook.code, skb.ifindex, skb.ipv4Address (cursor + 12),
    skb.ipv4Address (cursor + 16), 0, 0⟩

def ipv6Key (protocol : UInt8) : FlowKey :=
  ⟨6, protocol, 0, hook.code, skb.ifindex, skb.ipv6Address (cursor + 8),
    skb.ipv6Address (cursor + 24), 0, 0⟩

def sightIpv4 : Option Sight :=
  let ihl := 4 * (skb.byte cursor &&& 0x0F).toNat
  let protocol := skb.byte (cursor + 9)
  let totalLength := (skb.be16 (cursor + 2)).toNat
  let key := ipv4Key skb cursor hook
  if ¬ skb.Fits cursor ipv4Header then none
  else if skb.byte cursor >>> 4 ≠ 4 then none
  else if ihl < ipv4Header ∨ ¬ skb.Fits cursor ihl then none
  else if protocol ≠ ipprotoTcp ∧ protocol ≠ ipprotoUdp ∧ protocol ≠ ipprotoEsp ∧
      protocol ≠ ipprotoGre then none
  else if skb.be16 (cursor + 6) &&& 0x1FFF ≠ 0 then some ⟨.portless, key, 0, none, .nothing⟩
  else if protocol = ipprotoEsp ∨ protocol = ipprotoGre then
    some ⟨.portless, key, 0, some (cursor, totalLength), .nothing⟩
  else if ¬ skb.Fits (cursor + ihl) transportPorts then none
  else
    some ⟨.listed, withPorts skb key (cursor + ihl), flagsAt skb protocol (cursor + ihl),
      if ihl ≤ totalLength then some (cursor, totalLength) else none, .transport (cursor + ihl)⟩

def sightIpv6 : Option Sight :=
  let sample := some (cursor, ipv6Header + (skb.be16 (cursor + 4)).toNat)
  if ¬ skb.Fits cursor ipv6Header then none
  else if skb.byte cursor >>> 4 ≠ 6 then none
  else
    match walkExtensions skb ipv6MaxExtensionHeaders (skb.byte (cursor + 6))
        (cursor + ipv6Header) with
    | .transport protocol transport =>
      let key := ipv6Key skb cursor hook protocol
      let flags := flagsAt skb protocol transport
      if skb.Fits transport transportPorts then
        some ⟨.listed, withPorts skb key transport, flags, sample, .transport transport⟩
      else some ⟨.cutOff, key, flags, sample, .transport transport⟩
    | .left nextHeader transport canParseTransport =>
      let key := ipv6Key skb cursor hook nextHeader
      if canParseTransport ∧ IsTransport nextHeader then
        let flags := flagsAt skb nextHeader transport
        let capture : Capture := if nextHeader = ipprotoUdp then .dns transport else .nothing
        if skb.Fits transport transportPorts then
          some ⟨.late, withPorts skb key transport, flags, none, capture⟩
        else some ⟨.portless, key, flags, none, capture⟩
      else some ⟨.portless, key, 0, none, .nothing⟩

/-- **What the parser finds in a frame.** -/
def sight : Option Sight :=
  match networkLayer skb with
  | none => none
  | some (protocol, cursor) =>
    if protocol = ethPIp then sightIpv4 skb cursor hook
    else if protocol = ethPIpv6 then sightIpv6 skb cursor hook
    else none

/-! ### What the parser does with it -/

def Sight.captured (ctx : Context) (skb : SkBuff) (m : Machine) : Machine :=
  match s.capture with
  | .nothing => m
  | .transport offset => captureTransport ctx skb s.key offset m
  | .dns offset => maybeCaptureDns ctx skb offset s.key.destinationAddress 6 m

variable (build : Build)

/-- Counting, capturing and sampling. -/
def Sight.observed (ctx : Context) (skb : SkBuff) (m : Machine) : Exit × Machine :=
  account build ctx skb s.key s.tcpFlags s.sample (s.captured ctx skb m)

def Sight.handled (ctx : Context) (skb : SkBuff) (mode : Mode) (m : Machine) : Exit × Machine :=
  let rest (m : Machine) :=
    if policyOnly build mode then (.ret .ok, m) else s.observed build ctx skb m
  match s.kind with
  | .listed => checked build ctx skb s.key mode m rest
  | .portless => rest m
  | .late => rest m
  | .cutOff => s.observed build ctx skb m

/-- What the parser does with what it has found. -/
def handle (ctx : Context) (skb : SkBuff) (mode : Mode) (m : Machine) :
    Option Sight → Exit × Machine
  | none => (.ret .ok, m)
  | some s => s.handled build ctx skb mode m

section Equations

variable (build : Build) (ctx : Context) (skb : SkBuff) (cursor : ℕ) (hook : Hook) (mode : Mode)
  (m : Machine)

theorem parseIpv4_eq :
    parseIpv4 build ctx skb cursor hook mode m =
      handle build ctx skb mode m (sightIpv4 skb cursor hook) := by
  unfold parseIpv4 sightIpv4
  dsimp only
  by_cases hhd : skb.Fits cursor ipv4Header
  case neg => rw [if_pos hhd, if_pos hhd, handle]
  rw [if_neg (not_not_intro hhd), if_neg (not_not_intro hhd)]
  by_cases hver : skb.byte cursor >>> 4 ≠ 4
  case pos => rw [if_pos hver, if_pos hver, handle]
  rw [if_neg hver, if_neg hver]
  by_cases hihl : 4 * (skb.byte cursor &&& 0x0F).toNat < ipv4Header ∨
      ¬ skb.Fits cursor (4 * (skb.byte cursor &&& 0x0F).toNat)
  case pos => rw [if_pos hihl, if_pos hihl, handle]
  rw [if_neg hihl]
  split
  case isTrue => rfl
  by_cases hfrag : skb.be16 (cursor + 6) &&& 0x1FFF = 0
  case neg => rw [if_neg hfrag, if_pos hfrag]; rfl
  rw [if_pos hfrag, if_neg (not_not_intro hfrag)]
  split
  case isTrue => rfl
  split
  case isTrue => rfl
  rfl

theorem parseIpv6_eq :
    parseIpv6 build ctx skb cursor hook mode m =
      handle build ctx skb mode m (sightIpv6 skb cursor hook) := by
  unfold parseIpv6 sightIpv6
  by_cases hhd : skb.Fits cursor ipv6Header
  case neg => rw [if_pos hhd, if_pos hhd, handle]
  rw [if_neg (not_not_intro hhd), if_neg (not_not_intro hhd)]
  by_cases hver : skb.byte cursor >>> 4 ≠ 6
  case pos => rw [if_pos hver, if_pos hver, handle]
  rw [if_neg hver, if_neg hver]
  cases walkExtensions skb ipv6MaxExtensionHeaders (skb.byte (cursor + 6))
    (cursor + ipv6Header) with
  | transport protocol transport =>
    dsimp only
    split <;> rfl
  | left nextHeader transport canParseTransport =>
    dsimp only
    by_cases hpa : canParseTransport = true ∧ IsTransport nextHeader
    · rw [if_pos hpa, if_pos hpa]
      by_cases hfit : skb.Fits transport transportPorts <;>
        by_cases hudp : nextHeader = ipprotoUdp <;>
        simp only [hfit, hudp] <;>
        rfl
    · rw [if_neg hpa, if_neg hpa]
      rfl

/-- **The parser in terms of what it finds.** -/
theorem parsePacket_eq :
    parsePacket build ctx skb hook mode m = handle build ctx skb mode m (sight skb hook) := by
  unfold parsePacket sight
  cases networkLayer skb with
  | none => rfl
  | some found =>
    obtain ⟨protocol, cursor⟩ := found
    dsimp only
    split
    · exact parseIpv4_eq build ctx skb cursor hook mode m
    · split
      · exact parseIpv6_eq build ctx skb cursor hook mode m
      · rfl

end Equations

/-! ### Frames of the four kinds -/

section Kinds

variable {skb : SkBuff} {cursor : ℕ} {hook : Hook} {s : Sight}

/-- The frame carries an IPv6 packet, whose header starts at `cursor`. -/
structure Ipv6At (skb : SkBuff) (cursor : ℕ) : Prop where
  layer : networkLayer skb = some (ethPIpv6, cursor)
  header : skb.Fits cursor ipv6Header
  version : skb.byte cursor >>> 4 = 6

/-- What follows `n` extension headers of an IPv6 packet: its type and its offset. -/
def behindExtensions (skb : SkBuff) (cursor n : ℕ) : Option (UInt8 × ℕ) :=
  skipExtensions skb n (skb.byte (cursor + 6), cursor + ipv6Header)

/-- **Six extension headers** lie before the ports of a TCP or UDP header. -/
def LongChain (skb : SkBuff) : Prop :=
  ∃ cursor h c, Ipv6At skb cursor ∧
    behindExtensions skb cursor ipv6MaxExtensionHeaders = some (h, c) ∧ IsTransport h ∧
      skb.Fits c transportPorts

theorem sightIpv4_cases (h : sightIpv4 skb cursor hook = some s) :
    s.kind = .portless ∨ s.kind = .listed ∧ IsTransport s.key.protocol := by
  unfold sightIpv4 at h
  dsimp only at h
  split at h
  · cases h
  split at h
  · cases h
  split at h
  · cases h
  split at h
  · cases h
  next hproto =>
  split at h
  · obtain rfl := Option.some.inj h
    exact .inl rfl
  split at h
  · obtain rfl := Option.some.inj h
    exact .inl rfl
  next hpo =>
  split at h
  · cases h
  · obtain rfl := Option.some.inj h
    tauto

theorem sightIpv6_cases (h : sightIpv6 skb cursor hook = some s) :
    (skb.Fits cursor ipv6Header ∧ skb.byte cursor >>> 4 = 6) ∧
      (s.kind = .portless ∨
        (∃ c, (∃ n < ipv6MaxExtensionHeaders,
            behindExtensions skb cursor n = some (s.key.protocol, c)) ∧
          IsTransport s.key.protocol ∧
          (s.kind = .listed ∧ skb.Fits c transportPorts ∨
            s.kind = .cutOff ∧ ¬ skb.Fits c transportPorts)) ∨
        ∃ c, behindExtensions skb cursor ipv6MaxExtensionHeaders = some (s.key.protocol, c) ∧
          IsTransport s.key.protocol ∧ s.kind = .late ∧ skb.Fits c transportPorts) := by
  unfold sightIpv6 at h
  split at h
  · cases h
  next hhd =>
  split at h
  · cases h
  next hver =>
  refine ⟨⟨not_not.1 hhd, not_not.1 hver⟩, ?_⟩
  cases hwk : walkExtensions skb ipv6MaxExtensionHeaders (skb.byte (cursor + 6))
    (cursor + ipv6Header) with
  | transport protocol transport =>
    rw [hwk] at h
    dsimp only at h
    obtain ⟨ht, hbeh⟩ := walkExtensions_eq_transport_iff.1 hwk
    split at h <;> next hfit =>
      obtain rfl := Option.some.inj h
      exact .inr (.inl ⟨transport, hbeh, ht, by tauto⟩)
  | left nextHeader transport canParse =>
    rw [hwk] at h
    dsimp only at h
    split at h
    · next hpa =>
      obtain ⟨rfl, ht⟩ := hpa
      split at h <;> next hfit =>
        obtain rfl := Option.some.inj h
        have hbeh := (walkExtensions_eq_left_iff ht).1 hwk
        first
        | exact .inl rfl
        | exact .inr (.inr ⟨transport, hbeh, ht, rfl, hfit⟩)
    · obtain rfl := Option.some.inj h
      exact .inl rfl

section

variable (h : sight skb hook = some s)
include h

theorem sight_eq_some :
    (∃ cursor, networkLayer skb = some (ethPIp, cursor) ∧ sightIpv4 skb cursor hook = some s) ∨
      ∃ cursor, networkLayer skb = some (ethPIpv6, cursor) ∧
        sightIpv6 skb cursor hook = some s := by
  unfold sight at h
  cases hlayer : networkLayer skb with
  | none => simp [hlayer] at h
  | some found => grind

theorem isTransport_of_sight (hpo : s.PortsRead) : IsTransport s.key.protocol := by
  obtain ⟨cursor, -, h⟩ | ⟨cursor, -, h⟩ := sight_eq_some h
  · obtain hkd | ⟨-, ht⟩ := sightIpv4_cases h
    · rcases hpo with hpo | hpo <;> simp [hkd] at hpo
    · exact ht
  · obtain ⟨-, hkd | ⟨c, -, ht, -⟩ | ⟨c, -, ht, -⟩⟩ := sightIpv6_cases h
    · rcases hpo with hpo | hpo <;> simp [hkd] at hpo
    · exact ht
    · exact ht

end

theorem sight_ipv6 (h : Ipv6At skb cursor) : sight skb hook = sightIpv6 skb cursor hook := by
  simp [sight, h.layer, ethPIp, ethPIpv6]

/-- **Ports behind six extension headers** are read without a look at the verdicts. -/
theorem exists_late_iff : (∃ s, sight skb hook = some s ∧ s.kind = .late) ↔ LongChain skb := by
  constructor
  · rintro ⟨s, hs, hkd⟩
    obtain ⟨cursor, -, hs⟩ | ⟨cursor, hlayer, hs⟩ := sight_eq_some hs
    · obtain hk | ⟨hk, -⟩ := sightIpv4_cases hs <;> simp [hk] at hkd
    · obtain ⟨⟨hhd, hver⟩, hk | ⟨c, -, -, hk⟩ | ⟨c, hbeh, ht, -, hfit⟩⟩ :=
        sightIpv6_cases hs
      · simp [hk] at hkd
      · rcases hk with ⟨hk, -⟩ | ⟨hk, -⟩ <;> simp [hk] at hkd
      · exact ⟨cursor, s.key.protocol, c, ⟨hlayer, hhd, hver⟩, hbeh, ht, hfit⟩
  · rintro ⟨cursor, h, c, hat, hbeh, ht, hfit⟩
    rw [sight_ipv6 hat]
    have hwk := (walkExtensions_eq_left_iff ht).2 hbeh
    simp only [sightIpv6, hat.header, hat.version, hwk, ht, hfit]
    exact ⟨_, rfl, rfl⟩

end Kinds

end Netqmon.Bpf.Classify
