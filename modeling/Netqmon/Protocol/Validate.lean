import Mathlib
import Netqmon.Lib.Checks
import Netqmon.Lib.RustStr
import Netqmon.Protocol.Policy

/-! # Validation of snapshots and acknowledgements

Both ends of the policy connection validate every frame they send or receive. `validateSnapshot`
and `validateAck` are the snapshot and the acknowledgement branch of `PolicyWireFrame::validate`;
`validateAck_ok_iff` says what an accepted acknowledgement is. -/

namespace Netqmon.Protocol.Validate

open Lib.Checks Lib.RustStr Policy

structure SnapshotChecksumPayload where
  (gatewayId controllerEpoch : String)
  (configRevision bundleGeneration : ℕ)
  (generatedAtMs validUntilMs : ℤ)
  policies : List PolicySnapshotEntry
  scheduleIntervals : List PolicyScheduleIntervals
deriving DecidableEq

/-- What the JSON and hash libraries compute: the hash of a payload in canonical JSON, and the size
of a snapshot in JSON. -/
structure Codec where
  checksumFor : SnapshotChecksumPayload → String
  encodedLen : PolicySnapshot → ℕ

/-! ### Fields -/

/-- Between one and `limit` bytes without a control character. -/
def validText (limit : ℕ) (value : String) : Bool :=
  !value.toList.isEmpty && byteLen value ≤ limit && !hasControl value

variable (value : String)

def validateGateway : Except String Unit :=
  ensure (validText 128 value) "gateway_id is invalid"

def validateNonemptyId (value name : String) : Except String Unit :=
  ensure (validText 128 value) (name ++ " is invalid")

def isLowerHex (c : Char) : Bool := isAsciiDigit c || ('a' ≤ c && c ≤ 'f')

def validateEpoch : Except String Unit :=
  ensure (value.toList.length == 36 && value.toList.zipIdx.all fun (c, index) =>
      if index ∈ [8, 13, 18, 23] then c == '-' else isLowerHex c)
    "controller_epoch must be a lowercase 128-bit UUID"

def validateGenerations (revision generation : ℕ) : Except String Unit :=
  ensure (revision ≤ maxSafeJsonInteger && generation != 0 && generation ≤ maxSafeJsonInteger)
    "revision or generation is outside the JSON safe integer range"

def validateChecksum : Except String Unit :=
  ensure (value.toList.length == 71 && "sha256:".toList.isPrefixOf value.toList
      && (value.toList.drop 7).all isLowerHex)
    "checksum must be sha256 followed by 64 lowercase hex digits"

/-- Six colon-separated pairs of digits and capital letters. A byte of a longer character is
neither, so that counting characters is as good as counting bytes. -/
def validMac : Bool :=
  value.toList.length == 17 && value.toList.zipIdx.all fun (c, index) =>
    if index % 3 = 2 then c == ':' else isAsciiDigit c || ('A' ≤ c && c ≤ 'F')

def validRate (rate : ℕ) : Bool := 64000 ≤ rate && rate ≤ 1000000000

/-! ### Snapshots -/

/-- The double nearest to 0.80. -/
def minConfidence : ℚ := 3602879701896397 / 4503599627370496

def validatePolicySpec (gatewayId : String) (spec : PolicySpecV1) : Except String Unit := do
  ensure (spec.schemaVersion == 1 && spec.gatewayId == gatewayId)
    "policy spec schema or gateway does not match snapshot"
  ensure (!(trim spec.name).toList.isEmpty && spec.name.toList.length ≤ 100)
    "policy spec name is invalid"
  ensure (spec.description.toList.length ≤ 500 && spec.priority ≤ 1000)
    "policy spec description or priority is invalid"
  ensure ((spec.network.scope == "internet" || isClientTotalSpec spec)
      && spec.network.direction == "both")
    "policy spec uses an unsupported network scope"
  ensure (spec.selectors.clients.length ≤ 32 && spec.selectors.applications.length ≤ 32
      && spec.selectors.categories.length ≤ 16
      && !(spec.selectors.clients.isEmpty && spec.selectors.applications.isEmpty
        && spec.selectors.categories.isEmpty))
    "policy spec selectors are invalid"
  ensure (decide (minConfidence ≤ spec.selectors.minApplicationConfidence)
      && decide (spec.selectors.minApplicationConfidence ≤ 1))
    "policy application confidence is invalid"
  ensure (spec.selectors.clients.all validMac) "policy contains a non-canonical client MAC"
  ensure (spec.selectors.applications.all (validText 128))
    "policy contains an invalid application selector"
  ensure (spec.selectors.categories.all (validText 128))
    "policy contains an invalid category selector"
  match spec.action.kind with
  | .block | .allow =>
    ensure (spec.action.downloadBps.isNone && spec.action.uploadBps.isNone)
      "block/allow actions cannot contain rate limits"
  | .limit =>
    ensure (!spec.selectors.clients.isEmpty
        && !(spec.action.downloadBps.isNone && spec.action.uploadBps.isNone)
        && spec.action.downloadBps.all validRate && spec.action.uploadBps.all validRate)
      "policy limit action is invalid"

def checksumPayload (s : PolicySnapshot) : SnapshotChecksumPayload :=
  { gatewayId := s.gatewayId
    controllerEpoch := s.controllerEpoch
    configRevision := s.configRevision
    bundleGeneration := s.bundleGeneration
    generatedAtMs := s.generatedAtMs
    validUntilMs := s.validUntilMs
    policies := s.policies
    scheduleIntervals := s.scheduleIntervals }

/-- `start_ms` and `end_ms` compared as a pair. -/
def PolicyScheduleInterval.before (a b : PolicyScheduleInterval) : Prop :=
  a.startMs < b.startMs ∨ a.startMs = b.startMs ∧ a.endMs < b.endMs

instance : DecidableRel PolicyScheduleInterval.before := fun a b =>
  inferInstanceAs (Decidable (a.startMs < b.startMs ∨ a.startMs = b.startMs ∧ a.endMs < b.endMs))

def validateSnapshot (codec : Codec) (s : PolicySnapshot) : Except String Unit := do
  ensure (s.wireVersion == policyWireVersion) "unsupported policy wire version"
  validateGateway s.gatewayId
  validateEpoch s.controllerEpoch
  validateGenerations s.configRevision s.bundleGeneration
  validateChecksum s.checksum
  ensure (decide (0 ≤ s.generatedAtMs) && decide (s.generatedAtMs < s.validUntilMs))
    "snapshot validity timestamps are invalid"
  ensure (s.policies.length ≤ 256) "snapshot contains more than 256 policies"
  ensure (decide ((s.policies.map (·.id)).IsChain (· < ·)))
    "snapshot policies must be sorted by unique policy id"
  s.policies.forM fun policy => do
    validateNonemptyId policy.id "policy id"
    validatePolicySpec s.gatewayId policy.spec
  ensure (decide ((s.scheduleIntervals.map (·.policyId)).IsChain (· < ·)))
    "schedule intervals must be sorted by unique policy id"
  s.scheduleIntervals.forM fun schedule => do
    validateNonemptyId schedule.policyId "schedule policy id"
    ensure (s.policies.any (·.id == schedule.policyId))
      "schedule intervals reference an unknown policy"
    ensure (decide (schedule.intervals.IsChain PolicyScheduleInterval.before)
        && schedule.intervals.all fun interval => decide (interval.startMs < interval.endMs))
      "schedule intervals must be sorted, unique, and non-empty"
  ensure (codec.checksumFor (checksumPayload s) == s.checksum)
    "policy snapshot checksum mismatch"
  ensure (codec.encodedLen s ≤ policyMaxSnapshotBytes) "policy snapshot exceeds 768 KiB"

/-! ### Acknowledgements -/

def validClientRate (client : PolicyClientRate) : Bool :=
  validMac client.mac && client.effectiveUploadBps.all validRate
    && client.effectiveDownloadBps.all validRate

def validDetails (details : PolicyResultDetails) : Bool :=
  details.clients.length ≤ 32 && details.controlledInterfaces.length ≤ 2
    && details.qdisc.all (validText 128) && details.markConflictCode.all (validText 128)
    && details.controlledInterfaces.all (validText 15) && details.clients.all validClientRate

def validMessage (message : String) : Bool := byteLen message ≤ 512 && !hasControl message

def validateResults (results : List PolicyResult) : Except String Unit := do
  checkDistinct (·.policyId) "policy result ids must be unique"
    (fun result => validateNonemptyId result.policyId "result policy id")
    (fun result => do
      ensure (result.reasonCode.all (validText 128) && result.message.all validMessage)
        "policy result reason/message is invalid"
      ensure (result.details.all validDetails) "policy result details are invalid")
    [] results
  ensure (results.length ≤ 256) "policy ack contains more than 256 results"

def validateAck (ack : PolicyAck) : Except String Unit := do
  ensure (ack.wireVersion == policyWireVersion) "unsupported policy wire version"
  validateGateway ack.gatewayId
  validateNonemptyId ack.bootId "boot_id"
  validateEpoch ack.controllerEpoch
  validateGenerations ack.configRevision ack.bundleGeneration
  validateChecksum ack.checksum
  ensure (decide (0 ≤ ack.reportedAtMs)) "reported_at_ms must be non-negative"
  validateResults ack.results

/-! ### Client addresses -/

/-- The characters of a canonical MAC address. -/
def macAlphabet : List Char := "0123456789ABCDEF:".toList

theorem validMac_alphabet {mac : String} (h : validMac mac = true) {c : Char}
    (hc : c ∈ mac.toList) : c ∈ macAlphabet := by
  rw [validMac, Bool.and_eq_true, List.all_eq_true] at h
  obtain ⟨index, hindex, rfl⟩ := List.mem_iff_getElem.1 hc
  have hchar := h.2 (mac.toList[index], index) (by simp [List.mem_zipIdx_iff_getElem?])
  dsimp only at hchar
  split_ifs at hchar
  · rw [beq_iff_eq.1 hchar]
    decide
  · rcases Bool.or_eq_true_iff.1 hchar with hdigit | hlet
    · simp only [isAsciiDigit, Bool.and_eq_true, decide_eq_true_eq] at hdigit
      exact @forall_char_range (· ∈ macAlphabet) _ _ _ hdigit.1 hdigit.2 (by decide)
    · simp only [Bool.and_eq_true, decide_eq_true_eq] at hlet
      exact @forall_char_range (· ∈ macAlphabet) _ _ _ hlet.1 hlet.2 (by decide)

theorem validMac_eq_of_lowercase {mac other : String} (h : validMac mac = true)
    (ho : validMac other = true) (heq : toAsciiLowercase mac = toAsciiLowercase other) :
    mac = other := by
  have hcase : ∀ c ∈ macAlphabet, c.toLower.toUpper = c :=
    List.forall_iff_forall_mem.1 (by decide)
  have hbk : ∀ {mac : String}, validMac mac = true →
      toAsciiUppercase (toAsciiLowercase mac) = mac := by
    intro mac h
    have hmap : mac.toList.map (Char.toUpper ∘ Char.toLower) = mac.toList.map id :=
      List.map_congr_left fun c hc => hcase c (validMac_alphabet h hc)
    rw [toAsciiUppercase, toAsciiLowercase, String.toList_ofList, List.map_map, hmap, List.map_id,
      String.ofList_toList]
  rw [← hbk h, heq, hbk ho]

/-! ### What is accepted -/

/-- What an accepted snapshot promises. -/
structure SnapshotOk (s : PolicySnapshot) : Prop where
  gateway : validateGateway s.gatewayId = .ok ()
  epoch : validateEpoch s.controllerEpoch = .ok ()
  generations : validateGenerations s.configRevision s.bundleGeneration = .ok ()
  checksum : validateChecksum s.checksum = .ok ()
  few : s.policies.length ≤ 256
  distinct : (s.policies.map (·.id)).Nodup
  ids : ∀ policy ∈ s.policies, validText 128 policy.id = true
  specs : ∀ policy ∈ s.policies, validatePolicySpec s.gatewayId policy.spec = .ok ()

variable {s : PolicySnapshot}

theorem validateSnapshot_ok {codec : Codec} (h : validateSnapshot codec s = .ok ()) :
    SnapshotOk s := by
  simp only [validateSnapshot, seq_eq_ok, forM_eq_ok, ensure_eq_ok, decide_eq_true_eq] at h
  obtain ⟨-, hgw, hep, hgenerations, hsum, -, hfew, hso, hps, -⟩ := h
  refine ⟨hgw, hep, hgenerations, hsum, hfew, ?_, fun p hpol => ?_,
    fun p hpol => (hps p hpol).2⟩
  · grind
  · exact ensure_eq_ok.1 (hps p hpol).1

/-- What an accepted policy promises about its clients and rates. -/
structure SpecOk (spec : PolicySpecV1) : Prop where
  few : spec.selectors.clients.length ≤ 32
  macs : ∀ mac ∈ spec.selectors.clients, validMac mac = true
  someRate : spec.action.kind = .limit →
    spec.action.uploadBps.isSome = true ∨ spec.action.downloadBps.isSome = true
  upload : spec.action.kind = .limit → spec.action.uploadBps.all validRate = true
  download : spec.action.kind = .limit → spec.action.downloadBps.all validRate = true

variable {spec : PolicySpecV1} {gatewayId : String}

theorem validatePolicySpec_ok (h : validatePolicySpec gatewayId spec = .ok ()) : SpecOk spec := by
  simp only [validatePolicySpec, seq_eq_ok, ensure_eq_ok] at h
  obtain ⟨-, -, -, -, hsels, -, hmacs, -, -, hkd⟩ := h
  have hlim : spec.action.kind = .limit →
      (!(spec.action.downloadBps.isNone && spec.action.uploadBps.isNone)) = true ∧
        spec.action.downloadBps.all validRate = true ∧
          spec.action.uploadBps.all validRate = true := by
    intro hlim
    simp only [hlim, ensure_eq_ok, Bool.and_eq_true] at hkd
    exact ⟨hkd.1.1.2, hkd.1.2, hkd.2⟩
  refine ⟨?_, List.all_eq_true.1 hmacs, fun hkd => ?_, fun hkd => (hlim hkd).2.2,
    fun hkd => (hlim hkd).2.1⟩
  · simp only [Bool.and_eq_true, decide_eq_true_eq] at hsels
    exact hsels.1.1.1
  · grind

theorem validatePolicySpec_direction (h : validatePolicySpec gatewayId spec = .ok ()) :
    spec.network.direction = "both" := by
  simp only [validatePolicySpec, seq_eq_ok, ensure_eq_ok] at h
  obtain ⟨-, -, -, hnet, -⟩ := h
  rw [Bool.and_eq_true, beq_iff_eq] at hnet
  exact hnet.2

/-- One result passes on its own. -/
structure ResultOk (result : PolicyResult) : Prop where
  id : validText 128 result.policyId = true
  reason : result.reasonCode.all (validText 128) = true
  message : result.message.all validMessage = true
  details : result.details.all validDetails = true

theorem validateResults_ok_iff {results : List PolicyResult} :
    validateResults results = .ok () ↔
      (∀ res ∈ results, ResultOk res) ∧ (results.map (·.policyId)).Nodup ∧
        results.length ≤ 256 := by
  simp only [validateResults, seq_eq_ok, checkDistinct_eq_ok, validateNonemptyId, ensure_eq_ok,
    Bool.and_eq_true, decide_eq_true_eq, List.not_mem_nil, not_false_eq_true, implies_true,
    and_true]
  constructor
  · rintro ⟨⟨hall, hnd⟩, hlen⟩
    refine ⟨fun res hmem => ?_, hnd, hlen⟩
    obtain ⟨hid, ⟨hreason, hmsg⟩, hdetails⟩ := hall res hmem
    exact ⟨hid, hreason, hmsg, hdetails⟩
  · rintro ⟨hall, hnd, hlen⟩
    refine ⟨⟨fun res hmem => ?_, hnd⟩, hlen⟩
    have h := hall res hmem
    exact ⟨h.id, ⟨h.reason, h.message⟩, h.details⟩

/-- An acknowledgement that repeats the identity of an accepted snapshot stands or falls with its
results. -/
theorem validateAck_ok_iff {ack : PolicyAck} (hs : SnapshotOk s)
    (hver : ack.wireVersion = policyWireVersion) (hgw : ack.gatewayId = s.gatewayId)
    (hbt : validText 128 ack.bootId = true) (hep : ack.controllerEpoch = s.controllerEpoch)
    (hrev : ack.configRevision = s.configRevision)
    (hgen : ack.bundleGeneration = s.bundleGeneration)
    (hsum : ack.checksum = s.checksum) (hreported : 0 ≤ ack.reportedAtMs) :
    validateAck ack = .ok () ↔ validateResults ack.results = .ok () := by
  simp [validateAck, seq_eq_ok, hver, hgw, hep, hrev, hgen, hsum,
    hs.gateway, hs.epoch, hs.generations, hs.checksum, validateNonemptyId, hbt, hreported]

end Netqmon.Protocol.Validate
