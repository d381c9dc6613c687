import Netqmon.Agent.FlowVerdict.Model
import Netqmon.Lib.Keyed
import Netqmon.Lib.RustStr

/-! # Vendors of MAC addresses

A vendor owns the addresses that begin with its prefix, which is given in hexadecimal digits. An odd
number of digits is padded to whole bytes, and `prefixMatches` compares the last byte under a mask.
`lookup` asks for the longest prefix first. -/

namespace Netqmon.Collector.MacPrefixes

open Agent.FlowVerdict.Model Lib.Keyed Lib.RustStr

structure MacPrefixEntry where
  prefixBytes : List (BitVec 8)
  prefixBits : ℕ
  vendor : String

structure MacPrefixDataset where
  entries : List MacPrefixEntry
  byLength : Rows ℕ (List MacPrefixEntry)

/-- The digits are ASCII, so that their number is the length of the text. -/
def parsePrefix (value : String) : Option (List (BitVec 8) × ℕ) :=
  let hex := value.toList.filter (· ∉ ['-', ':', '.'])
  if hex.isEmpty || 12 < hex.length || !hex.all isAsciiHexdigit then none
  else do
    let bytes ← hexBytes (if hex.length % 2 ≠ 0 then hex ++ ['0'] else hex)
    return (bytes.map (BitVec.ofNat 8), 4 * hex.length)

/-- `get(..n)` of a slice. -/
def sliceTo (bytes : List (BitVec 8)) (n : ℕ) : Option (List (BitVec 8)) :=
  if n ≤ bytes.length then some (bytes.take n) else none

/-- `u8::MAX << (8 - n)`. -/
def highBits (n : ℕ) : BitVec 8 := BitVec.allOnes 8 <<< (8 - n)

def prefixMatches (mac bytes : List (BitVec 8)) (bits : ℕ) : Bool :=
  let fullBytes := bits / 8
  let remainingBits := bits % 8
  if mac.length < fullBytes + (if remainingBits ≠ 0 then 1 else 0) || bytes.length ≤ fullBytes then
    remainingBits = 0 && sliceTo mac fullBytes = sliceTo bytes fullBytes
  else if mac.take fullBytes ≠ bytes.take fullBytes then false
  else if remainingBits = 0 then true
  else
    let mask := highBits remainingBits
    mac[fullBytes]?.map (· &&& mask) = bytes[fullBytes]?.map (· &&& mask)

def MacPrefixDataset.rebuildIndex (dataset : MacPrefixDataset) : MacPrefixDataset :=
  let entries := dataset.entries.map fun entry =>
    if entry.prefixBits = 0 then
      let bits := 8 * entry.prefixBytes.length
      { entry with prefixBits := if bits < 2 ^ 8 then bits else 0 }
    else entry
  ⟨entries, entries.foldl
    (fun byLength entry => upsert byLength entry.prefixBits [entry] (· ++ [entry])) ∅⟩

def MacPrefixDataset.lookup (dataset : MacPrefixDataset) (mac : List (BitVec 8)) : Option String :=
  if mac.length ≠ 6 then none
  else (List.range' 1 48).reverse.findSome? fun bits => do
    let entries ← dataset.byLength.lookup bits
    let entry ← entries.find? fun entry => prefixMatches mac entry.prefixBytes bits
    return entry.vendor

/-! ### Bits -/

/-- A bit of a row of bytes, the most significant one of the first byte first. -/
def bitAt (bytes : List (BitVec 8)) (i : ℕ) : Option Bool := bytes[i / 8]?.map (·.getMsbD (i % 8))

/-- The address begins with the prefix of an entry. -/
def BeginsWith (mac : List (BitVec 8)) (entry : MacPrefixEntry) : Prop :=
  ∀ i < entry.prefixBits, bitAt mac i = bitAt entry.prefixBytes i

/-- The vendor is that of the earliest one of the longest prefixes that the address begins with. -/
def EarliestLongest (mac : List (BitVec 8)) (entries : List MacPrefixEntry) (vendor : String) : Prop :=
  ∃ before entry after, entries = before ++ entry :: after ∧ entry.vendor = vendor ∧
    BeginsWith mac entry ∧
    (∀ other ∈ before, BeginsWith mac other → other.prefixBits < entry.prefixBits) ∧
    ∀ other ∈ after, BeginsWith mac other → other.prefixBits ≤ entry.prefixBits

variable {mac bytes : List (BitVec 8)} {bits : ℕ}

theorem and_highBits_eq_iff {a b : BitVec 8} {n : ℕ} (hn : n ≤ 8) :
    a &&& highBits n = b &&& highBits n ↔ ∀ j < n, a.getMsbD j = b.getMsbD j := by
  have hmask : ∀ j < 8, (highBits n).getMsbD j = decide (j < n) := by
    intro j hj
    rw [highBits, BitVec.getMsbD_shiftLeft, BitVec.getMsbD_allOnes, decide_eq_decide]
    omega
  constructor
  · intro h j hj
    have hbit := congrArg (·.getMsbD j) h
    simpa [hmask j (hj.trans_le hn), hj] using hbit
  · refine fun h => BitVec.eq_of_getMsbD_eq fun j hj => ?_
    rw [BitVec.getMsbD_and, BitVec.getMsbD_and, hmask j hj]
    by_cases hjn : j < n <;> simp [hjn, h]

theorem map_getMsbD_eq_iff {x y : Option (BitVec 8)} :
    (∀ j < 8, x.map (·.getMsbD j) = y.map (·.getMsbD j)) ↔ x = y := by
  refine ⟨fun h => ?_, fun h _ _ => by rw [h]⟩
  cases x <;> cases y
  · rfl
  · simpa using h 0 (by decide)
  · simpa using h 0 (by decide)
  · exact congrArg some (BitVec.eq_of_getMsbD_eq fun j hj => Option.some.inj (h j hj))

theorem take_eq_take_iff {n : ℕ} : mac.take n = bytes.take n ↔ ∀ k < n, mac[k]? = bytes[k]? := by
  rw [List.ext_getElem?_iff]
  refine forall_congr' fun k => ?_
  rw [List.getElem?_take, List.getElem?_take]
  split_ifs with hk <;> simp [hk]

/-- The bits of two rows agree as far as the whole bytes do, and those of the next byte. -/
theorem forall_bitAt_iff : (∀ i < bits, bitAt mac i = bitAt bytes i) ↔
    mac.take (bits / 8) = bytes.take (bits / 8) ∧
      ∀ j < bits % 8, mac[bits / 8]?.map (·.getMsbD j) = bytes[bits / 8]?.map (·.getMsbD j) := by
  rw [take_eq_take_iff]
  constructor
  · intro h
    refine ⟨fun k hk => map_getMsbD_eq_iff.1 fun j hj => ?_, fun j hj => ?_⟩
    · have hbit := h (8 * k + j) (by omega)
      rwa [bitAt, bitAt, show (8 * k + j) / 8 = k by omega, show (8 * k + j) % 8 = j by omega] at hbit
    · have hbit := h (8 * (bits / 8) + j) (by omega)
      rwa [bitAt, bitAt, show (8 * (bits / 8) + j) / 8 = bits / 8 by omega,
        show (8 * (bits / 8) + j) % 8 = j by omega] at hbit
  · rintro ⟨hwhole, hr⟩ i hi
    rcases Nat.lt_or_ge (i / 8) (bits / 8) with hk | hk
    · rw [bitAt, hwhole _ hk, bitAt]
    · have hk' : i / 8 = bits / 8 := by omega
      rw [bitAt, bitAt, hk']
      exact hr _ (by omega)

/-- The bytes of a prefix are as many as its bits need. -/
theorem prefixMatches_iff (hmac : mac.length = 6) (hbits : bits ≤ 48)
    (hby : bytes.length = (bits + 7) / 8) :
    prefixMatches mac bytes bits = true ↔ ∀ i < bits, bitAt mac i = bitAt bytes i := by
  rw [forall_bitAt_iff]
  unfold prefixMatches
  by_cases hr : bits % 8 = 0
  · rw [if_pos (by simp; omega)]
    simp [hr, sliceTo, show bits / 8 ≤ mac.length by omega, show bits / 8 ≤ bytes.length by omega]
  · rw [if_neg (by simp [hr]; omega)]
    have hm : bits / 8 < mac.length := by omega
    have hb : bits / 8 < bytes.length := by omega
    simp [hr, hm, hb, and_highBits_eq_iff (show bits % 8 ≤ 8 by omega)]

/-! ### Parsed prefixes and the index -/

theorem length_hexBytes : ∀ {digits : List Char} {bytes : List ℕ}, hexBytes digits = some bytes →
    bytes.length = digits.length / 2
  | [], _, h | [_], _, h => by
    obtain rfl := Option.some.inj h
    simp
  | a :: b :: rest, _, h => by
    obtain ⟨byte, -, h⟩ := Option.bind_eq_some_iff.1 h
    obtain ⟨tail, htail, h⟩ := Option.bind_eq_some_iff.1 h
    obtain rfl := Option.some.inj h
    rw [List.length_cons, length_hexBytes htail, List.length_cons, List.length_cons]
    omega

theorem lengths_parsePrefix {value : String} (h : parsePrefix value = some (bytes, bits)) :
    0 < bits ∧ bits ≤ 48 ∧ bytes.length = (bits + 7) / 8 := by
  unfold parsePrefix at h
  dsimp only at h
  split at h
  · cases h
  · rename_i hhex
    obtain ⟨parsed, hparsed, h⟩ := Option.bind_eq_some_iff.1 h
    obtain ⟨rfl, rfl⟩ := Prod.mk.inj (Option.some.inj h)
    simp only [Bool.or_eq_true, List.isEmpty_iff, ← List.length_eq_zero_iff, decide_eq_true_eq,
      not_or] at hhex
    rw [List.length_map, length_hexBytes hparsed]
    split_ifs with hodd
    · rw [List.length_append, List.length_singleton]
      omega
    · omega

theorem lookup_index (entries : List MacPrefixEntry) (byLength : Rows ℕ (List MacPrefixEntry)) :
    ((entries.foldl (fun byLength entry =>
      upsert byLength entry.prefixBits [entry] (· ++ [entry])) byLength).lookup bits).getD [] =
      (byLength.lookup bits).getD [] ++ entries.filter (·.prefixBits = bits) := by
  induction entries generalizing byLength with
  | nil => simp
  | cons entry entries ih =>
    rw [List.foldl_cons, ih, lookup_upsert]
    by_cases hbits : bits = entry.prefixBits
    · subst hbits
      cases byLength.lookup entry.prefixBits <;> simp
    · simp [hbits, Ne.symm hbits]

section

variable {dataset : MacPrefixDataset} {entry : MacPrefixEntry} (hmac : mac.length = 6)
  (hparsed : ∀ entry ∈ dataset.entries, ∃ value,
    parsePrefix value = some (entry.prefixBytes, entry.prefixBits))
include hmac hparsed

theorem prefixMatches_iff_beginsWith (he : entry ∈ dataset.entries) :
    entry.prefixBits ∈ (List.range' 1 48).reverse ∧
      (prefixMatches mac entry.prefixBytes entry.prefixBits = true ↔ BeginsWith mac entry) := by
  obtain ⟨value, hv⟩ := hparsed entry he
  obtain ⟨hpos, hle, hlen⟩ := lengths_parsePrefix hv
  exact ⟨by simp; omega, prefixMatches_iff hmac hle hlen⟩

/-- The index has for each length the entries of the dataset in their order. -/
theorem lookup_rebuildIndex :
    dataset.rebuildIndex.lookup mac = (List.range' 1 48).reverse.findSome? fun bits =>
      (dataset.entries.find? fun entry => entry.prefixBits = bits &&
        prefixMatches mac entry.prefixBytes bits).map MacPrefixEntry.vendor := by
  have hents : dataset.rebuildIndex.entries = dataset.entries := by
    refine (List.map_congr_left fun entry he => ?_).trans (List.map_id _)
    obtain ⟨value, hv⟩ := hparsed entry he
    exact if_neg (lengths_parsePrefix hv).1.ne'
  rw [MacPrefixDataset.lookup, if_neg (not_not_intro hmac)]
  congr
  funext bits
  have hindex : (dataset.rebuildIndex.byLength.lookup bits).getD [] =
      dataset.entries.filter (·.prefixBits = bits) := hents ▸ lookup_index _ ∅
  have hfd : (dataset.entries.find? fun entry => entry.prefixBits = bits &&
      prefixMatches mac entry.prefixBytes bits) =
      (dataset.entries.filter (·.prefixBits = bits)).find? fun entry =>
        prefixMatches mac entry.prefixBytes bits := by simp [List.find?_filter]
  rw [hfd, ← hindex]
  cases dataset.rebuildIndex.byLength.lookup bits with
  | none => rfl
  | some entries => exact (Option.map_eq_bind ..).symm

theorem earliestLongest_of_lookup {vendor : String}
    (h : dataset.rebuildIndex.lookup mac = some vendor) :
    EarliestLongest mac dataset.entries vendor := by
  rw [lookup_rebuildIndex hmac hparsed] at h
  obtain ⟨longer, bits, shorter, hlengths, hfd, hlonger⟩ := List.findSome?_eq_some_iff.1 h
  obtain ⟨entry, he, hvendor⟩ := Option.map_eq_some_iff.1 hfd
  obtain ⟨hp, before, after, hents, hbef⟩ := List.find?_eq_some_iff_append.1 he
  obtain ⟨rfl, hmatch⟩ : entry.prefixBits = bits ∧
    prefixMatches mac entry.prefixBytes bits = true := by simpa using hp
  -- a longer prefix would have been found before
  have hmax : ∀ other ∈ dataset.entries, BeginsWith mac other →
      other.prefixBits ≤ entry.prefixBits := by
    intro other ho hbegins
    obtain ⟨hrange, hiff⟩ := prefixMatches_iff_beginsWith hmac hparsed ho
    by_contra hlt
    have hdescending : (List.range' 1 48).reverse.Pairwise (· > ·) := by decide
    rw [hlengths] at hdescending hrange
    have hmem : other.prefixBits ∈ longer := by grind [List.pairwise_cons]
    have hn := List.find?_eq_none.1 (Option.map_eq_none_iff.1 (hlonger _ hmem)) other ho
    simp [hiff.2 hbegins] at hn
  have hmem : entry ∈ dataset.entries := List.mem_of_find?_eq_some he
  refine ⟨before, entry, after, hents, hvendor,
    (prefixMatches_iff_beginsWith hmac hparsed hmem).2.1 hmatch, fun other ho hbegins => ?_,
    fun other ho => hmax other (by simp [hents, ho])⟩
  have hother' : other ∈ dataset.entries := by simp [hents, ho]
  refine (hmax other hother' hbegins).lt_of_ne fun heq => ?_
  have hmatch' := (prefixMatches_iff_beginsWith hmac hparsed hother').2.2 hbegins
  simpa [heq, heq ▸ hmatch'] using hbef other ho

end

/-- **The vendor of an address is that of the longest prefix that it begins with**, the earliest one
of the dataset if several entries have it. -/
theorem vendor_of_longest_prefix (dataset : MacPrefixDataset) (mac : List (BitVec 8))
    (hmac : mac.length = 6) (hparsed : ∀ entry ∈ dataset.entries, ∃ value,
      parsePrefix value = some (entry.prefixBytes, entry.prefixBits)) :
    ((dataset.rebuildIndex.lookup mac).isSome ↔ ∃ entry ∈ dataset.entries, BeginsWith mac entry) ∧
    ∀ vendor, dataset.rebuildIndex.lookup mac = some vendor →
      EarliestLongest mac dataset.entries vendor := by
  refine ⟨⟨fun h => ?_, fun ⟨entry, hentry, hbegins⟩ => ?_⟩,
    fun vendor => earliestLongest_of_lookup hmac hparsed⟩
  · obtain ⟨vendor, hvendor⟩ := Option.isSome_iff_exists.1 h
    obtain ⟨before, entry, after, hentries, -, hbegins, -⟩ :=
      earliestLongest_of_lookup hmac hparsed hvendor
    exact ⟨entry, by simp [hentries], hbegins⟩
  · obtain ⟨hrange, hiff⟩ := prefixMatches_iff_beginsWith hmac hparsed hentry
    rw [lookup_rebuildIndex hmac hparsed, Option.isSome_iff_ne_none]
    intro hnone
    have hunmatched := List.find?_eq_none.1
      (Option.map_eq_none_iff.1 (List.findSome?_eq_none_iff.1 hnone _ hrange)) entry hentry
    simp [hiff.2 hbegins] at hunmatched

/-- Two entries of one address; the second one has more bits. -/
def sampleDataset : MacPrefixDataset :=
  ⟨[⟨[0xAC, 0xDE, 0x48], 24, "Block"⟩, ⟨[0xAC, 0xDE, 0x48, 0x10], 28, "Part"⟩], ∅⟩

theorem vendor_of_sample :
    EarliestLongest [0xAC, 0xDE, 0x48, 0x1F, 0, 1] sampleDataset.entries "Part" := by
  have hparsed : ∀ entry ∈ sampleDataset.entries, ∃ value,
      parsePrefix value = some (entry.prefixBytes, entry.prefixBits) := by
    simp only [sampleDataset, List.forall_mem_cons]
    exact ⟨⟨"AC-DE-48", by decide⟩, ⟨"AC-DE-48-1", by decide⟩, nofun⟩
  obtain ⟨-, hvendor⟩ := vendor_of_longest_prefix sampleDataset [0xAC, 0xDE, 0x48, 0x1F, 0, 1] rfl
    hparsed
  exact hvendor "Part" (by decide)

end Netqmon.Collector.MacPrefixes
