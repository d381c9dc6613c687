import Netqmon.Protocol.Json
import Netqmon.Protocol.Snapshot

/-! # Frames on the wire

`encode` and `decode` are the two ends of the policy connection. A snapshot is put in order before it is
hashed, so that its parts may come in any order (`schedules_eq`), and its checksum covers every field
(`eq_of_checksum`). What was encoded passed the checks that `decode` makes, so it is decoded to itself
(`decode_encode`). -/

namespace Netqmon.Protocol.Frames

open Lib.Checks Lib.RustStr Policy Validate Snapshot Json

/-! ### Frames -/

structure PolicyHealth where
  wireVersion : ℕ
  (gatewayId bootId : String)
  lastAppliedRevision : ℕ
  controllerEpoch : Option String
  bundleGeneration : Option ℕ
  checksum : Option String
  capabilities : PolicyCapabilities
  reportedAtMs : ℤ
  emergencyDisabled : Bool
deriving DecidableEq

structure PolicyMetrics where
  wireVersion : ℕ
  (gatewayId bootId : String)
  sampledAtMs : ℤ
  metrics : List PolicyClientMetrics
deriving DecidableEq

inductive PolicyWireFrame
  | policySnapshot (frame : PolicySnapshot)
  | policyAck (frame : PolicyAck)
  | policyHealth (frame : PolicyHealth)
  | policyMetrics (frame : PolicyMetrics)
  | flowCommand (frame : FlowCommand)
  | flowAck (frame : FlowAck)
deriving DecidableEq

/-- The JSON and hash libraries. Texts are only compared and measured. What is written is read back, the
doubles included: the crate of the canonical form turns the exact number parser on. -/
structure Library where
  Text : Type
  len : Text → ℕ
  toVec : PolicyWireFrame → Text
  fromSlice : Text → Except String PolicyWireFrame
  fromSlice_toVec : ∀ frame, fromSlice (toVec frame) = .ok frame
  /-- Canonical JSON. -/
  jcs : SnapshotChecksumPayload → Text
  jcs_injective : Function.Injective jcs
  /-- SHA-256 in lowercase hexadecimal digits. -/
  digest : Text → String

variable (lib : Library)

def Library.codec : Codec where
  checksumFor payload := "sha256:" ++ lib.digest (lib.jcs payload)
  encodedLen s := lib.len (lib.toVec (.policySnapshot s))

/-! ### Validation -/

def policyMaxMetricsFrameBytes : ℕ := 256 * 1024

def validateHealth (health : PolicyHealth) : Except String Unit := do
  ensure (health.wireVersion == policyWireVersion) "unsupported policy wire version"
  validateGateway health.gatewayId
  validateNonemptyId health.bootId "boot_id"
  ensure (health.lastAppliedRevision ≤ maxSafeJsonInteger)
    "last applied revision is outside the JSON safe integer range"
  match health.controllerEpoch, health.bundleGeneration, health.checksum with
  | some epoch, some generation, some checksum => do
    validateEpoch epoch
    ensure (generation != 0 && generation ≤ maxSafeJsonInteger)
      "bundle generation is outside the JSON safe integer range"
    validateChecksum checksum
  | none, none, none =>
    ensure (health.lastAppliedRevision == 0) "health snapshot identity fields are incomplete"
  | _, _, _ => .error "health snapshot identity fields are incomplete"
  ensure (decide (0 ≤ health.reportedAtMs)) "reported_at_ms must be non-negative"

def validInterface (interface : String) : Bool :=
  !interface.toList.isEmpty && byteLen interface ≤ 15 && interface.toList.all fun c =>
    isAsciiDigit c || ('a' ≤ c && c ≤ 'z') || ('A' ≤ c && c ≤ 'Z') || c ∈ ['_', '.', ':', '-']

def validDirectionMetrics (direction : PolicyDirectionMetrics) : Bool :=
  validInterface direction.interface
    && [direction.bytes, direction.packets, direction.drops, direction.overlimits].all
      (·.all (· ≤ maxSafeJsonInteger))

def validatePolicyMetrics (metrics : List PolicyClientMetrics) : Except String Unit := do
  ensure (metrics.length ≤ 256) "policy metrics frame contains more than 256 client summaries"
  ensure (decide (metrics.IsChain fun a b =>
      a.policyId < b.policyId ∨ a.policyId = b.policyId ∧ a.mac < b.mac))
    "policy metrics must be sorted by unique policy and client"
  metrics.forM fun metric => do
    validateNonemptyId metric.policyId "metrics policy id"
    ensure (validMac metric.mac) "policy metrics contain an invalid client MAC"
    ensure (metric.upload.isSome || metric.download.isSome)
      "policy metrics must contain at least one traffic direction"
    ensure (metric.upload.all validDirectionMetrics && metric.download.all validDirectionMetrics)
      "policy metrics contain invalid interface or counter data"

def validateMetrics (frame : PolicyMetrics) : Except String Unit := do
  ensure (frame.wireVersion == policyWireVersion) "unsupported policy wire version"
  validateGateway frame.gatewayId
  validateNonemptyId frame.bootId "boot_id"
  ensure (decide (0 ≤ frame.sampledAtMs)) "sampled_at_ms must be non-negative"
  validatePolicyMetrics frame.metrics
  ensure (lib.len (lib.toVec (.policyMetrics frame)) ≤ policyMaxMetricsFrameBytes)
    "policy metrics frame exceeds 256 KiB"

def validateFlowAck (ack : FlowAck) : Except String Unit := do
  ensure (ack.wireVersion == policyWireVersion) "unsupported policy wire version"
  validateGateway ack.gatewayId
  validateNonemptyId ack.bootId "boot_id"
  validateEpoch ack.controllerEpoch
  validateNonemptyId ack.commandId "command_id"
  ensure (validText 64 ack.policyFlowId)
    "policy_flow_id must contain 1 through 64 non-control characters"
  ensure (ack.configRevision ≤ maxSafeJsonInteger && decide (0 ≤ ack.reportedAtMs))
    "flow acknowledgement identity or timestamp is invalid"
  ensure (ack.reasonCode.all (validText 128)) "flow acknowledgement reason_code is invalid"

def validate : PolicyWireFrame → Except String Unit
  | .policySnapshot frame => validateSnapshot lib.codec frame
  | .policyAck frame => validateAck frame
  | .policyHealth frame => validateHealth frame
  | .policyMetrics frame => validateMetrics lib frame
  | .flowCommand frame => validateFlowCommand frame
  | .flowAck frame => validateFlowAck frame

def encode (frame : PolicyWireFrame) : Except String lib.Text := do
  validate lib frame
  ensure (lib.len (lib.toVec frame) ≤ policyMaxFrameBytes) "policy frame exceeds 1 MiB"
  return lib.toVec frame

def decode (text : lib.Text) : Except String PolicyWireFrame := do
  ensure (lib.len text ≤ policyMaxFrameBytes) "policy frame exceeds 1 MiB"
  let frame ← lib.fromSlice text
  validate lib frame
  return frame

/-! ### Order -/

/-- The same schedules, in any order and each with its intervals in any order. -/
def SameSchedules (a b : List PolicyScheduleIntervals) : Prop :=
  ∃ c, a.Perm c ∧ List.Forall₂
    (fun x y => x.policyId = y.policyId ∧ x.intervals.Perm y.intervals) c b

/-- Elements with distinct keys have one order. -/
theorem insertionSort_eq_of_perm {α : Type} {key : α → String} {l l' : List α} (h : l.Perm l')
    (hnd : (l.map key).Nodup) :
    l.insertionSort (key · ≤ key ·) = l'.insertionSort (key · ≤ key ·) := by
  have hperm := (List.perm_insertionSort (key · ≤ key ·) l).trans
    (h.trans (List.perm_insertionSort (key · ≤ key ·) l').symm)
  refine List.Perm.eq_of_pairwise (fun a b ha hb hab hba => ?_) (List.pairwise_insertionSort _ l)
    (List.pairwise_insertionSort _ l') hperm
  have ha : a ∈ l := (List.perm_insertionSort _ l).mem_iff.1 ha
  have hb : b ∈ l := h.mem_iff.2 ((List.perm_insertionSort _ l').mem_iff.1 hb)
  exact List.inj_on_of_nodup_map hnd ha hb (le_antisymm hab hba)

theorem sortIntervals_eq {a b : List PolicyScheduleInterval} (h : a.Perm b) :
    sortIntervals a = sortIntervals b := by
  have : Std.Total PolicyScheduleInterval.notAfter := ⟨fun a b => by
    unfold PolicyScheduleInterval.notAfter
    omega⟩
  have : IsTrans _ PolicyScheduleInterval.notAfter := ⟨fun a b c => by
    unfold PolicyScheduleInterval.notAfter
    omega⟩
  refine List.Perm.eq_of_pairwise (fun x y _ _ hxy hyx => ?_) (List.pairwise_insertionSort _ a)
    (List.pairwise_insertionSort _ b) ((List.perm_insertionSort _ a).trans
      (h.trans (List.perm_insertionSort _ b).symm))
  unfold PolicyScheduleInterval.notAfter at hxy hyx
  cases x
  cases y
  simp only [PolicyScheduleInterval.mk.injEq]
  dsimp only at hxy hyx
  omega

/-- A schedule with its intervals in order. -/
def ordered (schedule : PolicyScheduleIntervals) : PolicyScheduleIntervals :=
  { schedule with intervals := sortIntervals schedule.intervals }

variable {a b : List PolicyScheduleIntervals}

theorem perm_ordered (h : SameSchedules a b) : (a.map ordered).Perm (b.map ordered) := by
  obtain ⟨c, hperm, hsm⟩ := h
  have heq : c.map ordered = b.map ordered := by
    clear hperm
    induction hsm with
    | nil => rfl
    | cons hxy _ ih =>
      rw [List.map_cons, List.map_cons, ih, ordered, ordered, hxy.1, sortIntervals_eq hxy.2]
  rw [← heq]
  exact hperm.map ordered

theorem schedules_eq (h : SameSchedules a b) (hnd : (a.map (·.policyId)).Nodup) :
    (a.insertionSort (·.policyId ≤ ·.policyId)).map ordered =
      (b.insertionSort (·.policyId ≤ ·.policyId)).map ordered := by
  have hmap : ∀ l : List PolicyScheduleIntervals,
      (l.insertionSort (·.policyId ≤ ·.policyId)).map ordered =
        (l.map ordered).insertionSort (·.policyId ≤ ·.policyId) := fun l =>
    List.map_insertionSort _ _ ordered l fun _ _ _ _ => Iff.rfl
  rw [hmap, hmap]
  refine @insertionSort_eq_of_perm _ (·.policyId) _ _ (perm_ordered h) ?_
  rwa [List.map_map]

/-! ### Round trips and checksums -/

theorem decode_encode {frame : PolicyWireFrame} {text : lib.Text} (h : encode lib frame = .ok text) :
    decode lib text = .ok frame := by
  simp only [encode, seq_eq_ok, ensure_eq_ok] at h
  obtain ⟨hval, hlen, htext⟩ := h
  cases htext
  unfold decode
  rw [seq_eq_ok, ensure_eq_ok, lib.fromSlice_toVec]
  exact ⟨hlen, bind_eq_ok.2 ⟨frame, rfl, seq_eq_ok.2 ⟨hval, rfl⟩⟩⟩

theorem eq_of_checksum {texts : Set lib.Text} (hdigest : texts.InjOn lib.digest)
    {a b : PolicySnapshot} (ha : validate lib (.policySnapshot a) = .ok ())
    (hb : validate lib (.policySnapshot b) = .ok ()) (hma : lib.jcs (checksumPayload a) ∈ texts)
    (hmb : lib.jcs (checksumPayload b) ∈ texts) (heq : a.checksum = b.checksum) : a = b := by
  simp only [validate, validateSnapshot, seq_eq_ok, ensure_eq_ok, beq_iff_eq] at ha hb
  obtain ⟨haversion, -, -, -, -, -, -, -, -, -, -, hachecksum, -⟩ := ha
  obtain ⟨hbversion, -, -, -, -, -, -, -, -, -, -, hbchecksum, -⟩ := hb
  have hpayload : checksumPayload a = checksumPayload b := by
    rw [← hachecksum, ← hbchecksum] at heq
    exact lib.jcs_injective (hdigest hma hmb (String.append_right_inj _ |>.1 heq))
  cases a
  cases b
  simp only [checksumPayload] at hpayload
  simp_all

/-- **Snapshot frames are canonical.** They do not depend on the order of policies, schedules and
intervals, pass validation, and are determined by their checksum as far as the hash has no collisions.
A frame that was encoded is decoded to itself. -/
theorem frames_canonical (texts : Set lib.Text) (hdigest : texts.InjOn lib.digest) :
    (∀ gatewayId controllerEpoch configRevision bundleGeneration generatedAtMs validUntilMs policies
        policies' schedules schedules' frame,
      snapshot lib.codec gatewayId controllerEpoch configRevision bundleGeneration generatedAtMs
        validUntilMs policies schedules = .ok frame →
      policies.Perm policies' → SameSchedules schedules schedules' →
      snapshot lib.codec gatewayId controllerEpoch configRevision bundleGeneration generatedAtMs
        validUntilMs policies' schedules' = .ok frame) ∧
    (∀ gatewayId controllerEpoch configRevision bundleGeneration generatedAtMs validUntilMs policies
        schedules frame,
      snapshot lib.codec gatewayId controllerEpoch configRevision bundleGeneration generatedAtMs
        validUntilMs policies schedules = .ok frame → validate lib (.policySnapshot frame) = .ok ()) ∧
    (∀ frame text, encode lib frame = .ok text → decode lib text = .ok frame) ∧
    ∀ a b : PolicySnapshot, validate lib (.policySnapshot a) = .ok () →
      validate lib (.policySnapshot b) = .ok () → lib.jcs (checksumPayload a) ∈ texts →
      lib.jcs (checksumPayload b) ∈ texts → a.checksum = b.checksum → a = b := by
  refine ⟨?_, ?_, fun _ _ => decode_encode lib, fun _ _ => eq_of_checksum lib hdigest⟩
  · intro gatewayId controllerEpoch configRevision bundleGeneration generatedAtMs validUntilMs policies
      policies' schedules schedules' frame h hpolicies hschedules
    have hnodup : (policies.map (·.id)).Nodup ∧ (schedules.map (·.policyId)).Nodup := by
      simp only [snapshot, checkFrame, arrange, validateSnapshot, seq_eq_ok, ensure_eq_ok,
        decide_eq_true_eq, List.map_map] at h
      obtain ⟨⟨-, ⟨-, -, -, -, -, -, -, hids, -, hscheduleIds, -⟩, -⟩, -⟩ := h
      have hdistinct : ∀ {l : List String}, l.IsChain (· < ·) → l.Nodup := fun hchain =>
        (List.isChain_iff_pairwise.1 hchain).imp ne_of_lt
      exact ⟨((List.perm_insertionSort _ policies).map _).nodup_iff.1
          (hdistinct (of_decide_eq_true hids)),
        ((List.perm_insertionSort _ schedules).map _).nodup_iff.1 (hdistinct hscheduleIds)⟩
    have hsorted := insertionSort_eq_of_perm hpolicies hnodup.1
    have hordered := schedules_eq hschedules hnodup.2
    unfold ordered at hordered
    unfold snapshot arrange at h ⊢
    rw [← hsorted, ← hordered]
    exact h
  · intro _ _ _ _ _ _ _ _ frame h
    simp only [snapshot, checkFrame, seq_eq_ok] at h
    obtain ⟨⟨-, hvalid, -⟩, hframe⟩ := h
    cases hframe
    exact hvalid

/-! ### A sample -/

/-- A client block with some confidence. -/
def sampleEntry (id : String) (confidence : ℚ) : PolicySnapshotEntry :=
  ⟨id, { plainSpec with
    name := "Block laptop"
    selectors := ⟨["AA:BB:CC:DD:EE:FF"], [], [], confidence⟩ }⟩

/-- Texts are the values they stand for, and one payload has another digest than the others. -/
abbrev sampleLibrary (payload : SnapshotChecksumPayload) : Library where
  Text := PolicyWireFrame ⊕ SnapshotChecksumPayload
  len
    | .inl (.policySnapshot s) => snapshotLen (fun _ => 18) s
    | _ => 0
  toVec := .inl
  fromSlice
    | .inl frame => .ok frame
    | .inr _ => .error "missing field"
  fromSlice_toVec _ := rfl
  jcs := .inr
  jcs_injective := Sum.inr_injective
  digest text := String.ofList (List.replicate 64 (if text = .inr payload then '0' else '1'))

/-- A snapshot with two policies; the confidence of the second has sixteen digits. -/
def sampleFrame : PolicySnapshot :=
  { plainSnapshot with
    checksum := "sha256:" ++ String.ofList (List.replicate 64 '0')
    policies := [sampleEntry "a" (85 / 100), sampleEntry "b" (8112963841460669 / 2 ^ 53)]
    scheduleIntervals := [⟨"b", [⟨1791600000000, 1791603600000⟩, ⟨1791700000000, 1791703600000⟩]⟩] }

/-- Its parts in another order. -/
def sampleSnapshot (lib : Library) : Except String PolicySnapshot :=
  snapshot lib.codec "gw-test" "00000000-0000-4000-8000-000000000001" 12 40 1791600000000
    1794192000000 sampleFrame.policies.reverse
    [⟨"b", [⟨1791700000000, 1791703600000⟩, ⟨1791600000000, 1791603600000⟩]⟩]

theorem frames_canonical_sample :
    let lib := sampleLibrary (checksumPayload sampleFrame)
    let texts : Set lib.Text := {.inr (checksumPayload sampleFrame)}
    texts.InjOn lib.digest ∧ sampleSnapshot lib = .ok sampleFrame ∧
      validate lib (.policySnapshot sampleFrame) = .ok () ∧
      decode lib (.inl (.policySnapshot sampleFrame)) = .ok (.policySnapshot sampleFrame) ∧
      ∀ other, validate lib (.policySnapshot other) = .ok () →
        lib.jcs (checksumPayload other) ∈ texts → other.checksum = sampleFrame.checksum →
        other = sampleFrame := by
  intro lib texts
  have hdigest : texts.InjOn lib.digest := Set.injOn_singleton _ _
  have hsnapshot : sampleSnapshot lib = .ok sampleFrame := by decide +kernel
  have hencode : encode lib (.policySnapshot sampleFrame) =
      .ok (.inl (.policySnapshot sampleFrame)) := by decide +kernel
  obtain ⟨-, hvalid, hdecode, hchecksum⟩ := frames_canonical lib texts hdigest
  have hframe := hvalid _ _ _ _ _ _ _ _ sampleFrame hsnapshot
  exact ⟨hdigest, hsnapshot, hframe, hdecode _ _ hencode, fun other hother hmem =>
    hchecksum other sampleFrame hother hframe hmem rfl⟩

end Netqmon.Protocol.Frames
