import Mathlib
import Netqmon.Agent.Flow

/-! # Packets as the TC programs see them

A program reads the bytes of a frame that lie before `dataEnd` directly, and must compare every
offset with `dataEnd` first; bytes behind it are only reached by `loadBytes`. Numbers in a frame are
in network byte order, the host is little-endian.

`skipVlans` walks over VLAN tags, `skipExtension` over one extension header of an IPv6 packet. -/

namespace Netqmon.Bpf.Packet

inductive Action
  | ok
  | shot
  /-- The verdict is left to the next filter. -/
  | unspec
deriving DecidableEq

inductive Hook
  | ingress
  | egress
deriving DecidableEq

def Hook.code : Hook → UInt8
  | .ingress => 1
  | .egress => 2

/-- `bytes` is the whole frame; the part before `dataEnd` can be read directly. -/
structure SkBuff where
  bytes : List UInt8
  dataEnd : ℕ
  dataEnd_le : dataEnd ≤ bytes.length
  (mark priority ingressIfindex ifindex : UInt32)
  cb0 : UInt32
  cb1 : UInt32
deriving DecidableEq

namespace SkBuff

variable (skb : SkBuff)

def len : ℕ := skb.bytes.length

/-- A header of `size` bytes at `offset` ends before `dataEnd`. -/
def Fits (offset size : ℕ) : Prop := offset + size ≤ skb.dataEnd

instance (skb : SkBuff) (offset size : ℕ) : Decidable (skb.Fits offset size) :=
  inferInstanceAs (Decidable (_ ≤ _))

def byte (offset : ℕ) : UInt8 := skb.bytes.getD offset 0

/-- A 16-bit number of the frame, after `netqmon_ntohs`. -/
def be16 (offset : ℕ) : UInt16 :=
  UInt16.ofNat (256 * (skb.byte offset).toNat + (skb.byte (offset + 1)).toNat)

/-- `size` bytes as one number, the first byte the most significant one. -/
def bits (offset size : ℕ) : BitVec (8 * size) :=
  BitVec.ofNat _ (((skb.bytes.drop offset).take size).foldl (fun acc b => 256 * acc + b.toNat) 0)

/-- An IPv4 address in the sixteen bytes of a flow key. -/
def ipv4Address (offset : ℕ) : BitVec 128 := skb.bits offset 4 ++ (0 : BitVec 96)

def ipv6Address (offset : ℕ) : BitVec 128 := skb.bits offset 16

def mac (offset : ℕ) : BitVec 48 := skb.bits offset 6

/-- `bpf_skb_load_bytes` -/
def loadBytes (offset length : ℕ) : Option (List UInt8) :=
  if offset + length ≤ skb.len then some ((skb.bytes.drop offset).take length) else none

end SkBuff

/-! ### Header sizes and protocol numbers -/

def ethernetHeader : ℕ := 14
def vlanHeader : ℕ := 4
def ipv4Header : ℕ := 20
def ipv6Header : ℕ := 40
def udpHeader : ℕ := 8
def tcpHeaderPrefix : ℕ := 14
def transportPorts : ℕ := 4
def ipv6ExtensionHeader : ℕ := 2
def ipv6FragmentHeader : ℕ := 8

def ethPIp : UInt16 := 0x0800
def ethPIpv6 : UInt16 := 0x86DD
def ethP8021Q : UInt16 := 0x8100
def ethP8021AD : UInt16 := 0x88A8

def ipprotoHopopts : UInt8 := 0
def ipprotoTcp : UInt8 := 6
def ipprotoUdp : UInt8 := 17
def ipprotoRouting : UInt8 := 43
def ipprotoFragment : UInt8 := 44
def ipprotoGre : UInt8 := 47
def ipprotoEsp : UInt8 := 50
def ipprotoAh : UInt8 := 51
def ipprotoDstopts : UInt8 := 60

def maxVlanHeaders : ℕ := 2
def ipv6MaxExtensionHeaders : ℕ := 6

/-! ### VLAN tags -/

def IsVlan (protocol : UInt16) : Prop := protocol = ethP8021Q ∨ protocol = ethP8021AD

instance (protocol : UInt16) : Decidable (IsVlan protocol) := inferInstanceAs (Decidable (_ ∨ _))

/-- At most `n` tags are skipped, starting with the type `protocol` of what lies at `cursor`; `none`
if a tag is cut off. -/
def skipVlans (skb : SkBuff) : ℕ → UInt16 → ℕ → Option (UInt16 × ℕ)
  | 0, protocol, cursor => some (protocol, cursor)
  | n + 1, protocol, cursor =>
    if ¬ IsVlan protocol then some (protocol, cursor)
    else if ¬ skb.Fits cursor vlanHeader then none
    else skipVlans skb n (skb.be16 (cursor + 2)) (cursor + vlanHeader)

/-! ### IPv6 extension headers -/

def IsTransport (protocol : UInt8) : Prop := protocol = ipprotoTcp ∨ protocol = ipprotoUdp

instance (protocol : UInt8) : Decidable (IsTransport protocol) :=
  inferInstanceAs (Decidable (_ ∨ _))

/-- The length of an extension header at `cursor` by its own length field; `none` for types without
one. -/
def extensionLength (skb : SkBuff) (nextHeader : UInt8) (cursor : ℕ) : Option ℕ :=
  let length := (skb.byte (cursor + 1)).toNat
  if nextHeader = ipprotoHopopts ∨ nextHeader = ipprotoRouting ∨ nextHeader = ipprotoDstopts then
    some ((length + 1) * 8)
  else if nextHeader = ipprotoAh then some ((length + 2) * 4)
  else none

/-- Where the extension-header loop ends: at a TCP or UDP header, or elsewhere; then
`canParseTransport` is false behind the header of a later fragment. -/
inductive Walk
  | transport (protocol : UInt8) (cursor : ℕ)
  | left (nextHeader : UInt8) (cursor : ℕ) (canParseTransport : Bool)
deriving DecidableEq

/-- The loop over extension headers, at most `n` of them. -/
def walkExtensions (skb : SkBuff) : ℕ → UInt8 → ℕ → Walk
  | 0, nextHeader, cursor => .left nextHeader cursor true
  | n + 1, nextHeader, cursor =>
    if IsTransport nextHeader then .transport nextHeader cursor
    else if ¬ skb.Fits cursor ipv6ExtensionHeader then .left nextHeader cursor true
    else if nextHeader = ipprotoFragment then
      if ¬ skb.Fits cursor ipv6FragmentHeader then .left nextHeader cursor true
      else if skb.be16 (cursor + 2) &&& 0xFFF8 ≠ 0 then
        .left (skb.byte cursor) (cursor + ipv6FragmentHeader) false
      else walkExtensions skb n (skb.byte cursor) (cursor + ipv6FragmentHeader)
    else
      match extensionLength skb nextHeader cursor with
      | none => .left nextHeader cursor true
      | some length =>
        if ¬ skb.Fits cursor length then .left nextHeader cursor true
        else walkExtensions skb n (skb.byte cursor) (cursor + length)

/-- One complete extension header: the type and the offset of what follows it. The header of a later
fragment is followed by no header. -/
def skipExtension (skb : SkBuff) (place : UInt8 × ℕ) : Option (UInt8 × ℕ) :=
  if ¬ skb.Fits place.2 ipv6ExtensionHeader then none
  else if place.1 = ipprotoFragment then
    if skb.Fits place.2 ipv6FragmentHeader ∧ skb.be16 (place.2 + 2) &&& 0xFFF8 = 0 then
      some (skb.byte place.2, place.2 + ipv6FragmentHeader)
    else none
  else
    match extensionLength skb place.1 place.2 with
    | none => none
    | some length =>
      if skb.Fits place.2 length then some (skb.byte place.2, place.2 + length) else none

/-- `n` complete extension headers. -/
def skipExtensions (skb : SkBuff) : ℕ → UInt8 × ℕ → Option (UInt8 × ℕ)
  | 0, place => some place
  | n + 1, place => (skipExtension skb place).bind (skipExtensions skb n)

variable {skb : SkBuff} {n : ℕ} {h h' : UInt8} {c c' : ℕ}

theorem skipExtension_transport (ht : IsTransport h) : skipExtension skb (h, c) = none := by
  rcases ht with rfl | rfl <;>
    simp [skipExtension, extensionLength, ipprotoTcp, ipprotoUdp, ipprotoFragment, ipprotoHopopts,
      ipprotoRouting, ipprotoDstopts, ipprotoAh]

theorem walkExtensions_succ (ht : ¬ IsTransport h) :
    (∃ h₁ c₁, skipExtension skb (h, c) = some (h₁, c₁) ∧
      walkExtensions skb (n + 1) h c = walkExtensions skb n h₁ c₁) ∨
    skipExtension skb (h, c) = none ∧
      (walkExtensions skb (n + 1) h c = .left h c true ∨
        ∃ h₁ c₁, walkExtensions skb (n + 1) h c = .left h₁ c₁ false) := by
  simp only [walkExtensions, if_neg ht, skipExtension]
  by_cases hfit : skb.Fits c ipv6ExtensionHeader
  · by_cases hfrag : h = ipprotoFragment
    · grind
    · grind
  · exact .inr ⟨by simp [hfit], .inl (by simp [hfit])⟩

/-- The loop ends at an unread TCP or UDP header only when all its rounds were used up by extension
headers. -/
theorem walkExtensions_eq_left_iff (ht : IsTransport h') :
    walkExtensions skb n h c = .left h' c' true ↔ skipExtensions skb n (h, c) = some (h', c') := by
  induction n generalizing h c with
  | zero => simp [walkExtensions, skipExtensions]
  | succ n ih =>
    by_cases hh : IsTransport h
    · have hn : skipExtension skb (h, c) = none := skipExtension_transport hh
      simp [walkExtensions, hh, skipExtensions, hn]
    · obtain ⟨h₁, c₁, hskip, hwk⟩ | ⟨hskip, hwk | ⟨h₁, c₁, hwk⟩⟩ :=
        @walkExtensions_succ skb n h c hh
      · rw [hwk, ih, skipExtensions, hskip, Option.bind_some]
      · have hne : h ≠ h' := fun heq => hh (heq ▸ ht)
        simp [hwk, skipExtensions, hskip, hne]
      · simp [hwk, skipExtensions, hskip]

/-- The loop stops at the first TCP or UDP header that it meets. -/
theorem walkExtensions_eq_transport_iff :
    walkExtensions skb n h c = .transport h' c' ↔
      IsTransport h' ∧ ∃ k < n, skipExtensions skb k (h, c) = some (h', c') := by
  induction n generalizing h c with
  | zero => simp [walkExtensions]
  | succ n ih =>
    by_cases hh : IsTransport h
    · have hn : skipExtension skb (h, c) = none := skipExtension_transport hh
      simp only [walkExtensions, if_pos hh]
      constructor
      · rintro ⟨rfl, rfl⟩
        exact ⟨hh, 0, n.succ_pos, rfl⟩
      · rintro ⟨-, k, -, hk⟩
        cases k with
        | zero => simpa [skipExtensions] using hk
        | succ k => simp [skipExtensions, hn] at hk
    · have hshift : (IsTransport h' ∧ ∃ k < n + 1, skipExtensions skb k (h, c) = some (h', c')) ↔
          IsTransport h' ∧
            ∃ k < n, (skipExtension skb (h, c)).bind (skipExtensions skb k) = some (h', c') := by
        refine and_congr_right fun ht => ⟨?_, ?_⟩
        · rintro ⟨k, hk, heq⟩
          cases k with
          | zero => grind [skipExtensions]
          | succ k => exact ⟨k, by omega, heq⟩
        · rintro ⟨k, hk, heq⟩
          exact ⟨k + 1, by omega, heq⟩
      rw [hshift]
      obtain ⟨h₁, c₁, hskip, hwk⟩ | ⟨hskip, hwk | ⟨h₁, c₁, hwk⟩⟩ :=
        @walkExtensions_succ skb n h c hh
      · rw [hwk, ih, hskip]
        rfl
      · simp [hwk, hskip]
      · simp [hwk, hskip]

end Netqmon.Bpf.Packet
