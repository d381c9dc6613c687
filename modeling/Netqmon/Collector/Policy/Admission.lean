import Netqmon.Collector.Policy.Compiler
import Netqmon.Protocol.Json

/-! # What is admitted and what can be published

The collector checks policies when they are stored, and once more, with the checks of the wire, when it
compiles a snapshot. The two count lengths in different units. -/

namespace Netqmon.Collector.Policy.Admission

open Lib.Checks Lib.RustStr Protocol.Policy Protocol.Validate Protocol.Json Protocol.Snapshot
open Validation Compiler

/-! ### Trimmed strings -/

/-- What is left after trimming does not vanish when it is trimmed again. -/
theorem trimChars_ne_nil {cs : List Char} (h : trimChars cs ≠ []) :
    trimChars (trimChars cs) ≠ [] := by
  have hla : ¬ isWhitespace ((trimChars cs).getLast h) = true :=
    List.rdropWhile_last_not _ _ h
  intro hnil
  have hspace : ∀ c ∈ (trimChars cs).dropWhile isWhitespace, isWhitespace c = true :=
    List.rdropWhile_eq_nil_iff.1 hnil
  have hem : (trimChars cs).dropWhile isWhitespace = [] := by
    by_contra hne
    have hhd := List.head_dropWhile_not isWhitespace hne
    grind
  exact hla (List.dropWhile_eq_nil_iff.1 hem _ (List.getLast_mem h))

/-! ### Clients -/

theorem pair_of_length {part : List Char} (hlen : part.length = 2)
    (hhex : ∀ c ∈ part, isAsciiHexdigit c = true) :
    ∃ a b, part = [a, b] ∧ isAsciiHexdigit a = true ∧ isAsciiHexdigit b = true := by
  obtain ⟨a, b, rfl⟩ := List.length_eq_two.1 hlen
  exact ⟨a, b, rfl, hhex a (by simp), hhex b (by simp)⟩

theorem validMac_pairs {parts : List (List Char)} (hlen : parts.length = 6)
    (hparts : ∀ part ∈ parts, part.length = 2 ∧ ∀ c ∈ part, isAsciiHexdigit c = true) :
    validMac (toAsciiUppercase (String.ofList ([':'].intercalate parts))) = true := by
  match parts, hlen with
  | [p, q, r, s, t, u], _ =>
    simp only [List.forall_mem_cons] at hparts
    obtain ⟨hp, hq, hr, hs, ht, hu, -⟩ := hparts
    obtain ⟨a, b, rfl, ha, hb⟩ := pair_of_length hp.1 hp.2
    obtain ⟨c, d, rfl, hc, hd⟩ := pair_of_length hq.1 hq.2
    obtain ⟨e, f, rfl, he, hf⟩ := pair_of_length hr.1 hr.2
    obtain ⟨g, h, rfl, hg, hh⟩ := pair_of_length hs.1 hs.2
    obtain ⟨i, j, rfl, hi, hj⟩ := pair_of_length ht.1 ht.2
    obtain ⟨k, l, rfl, hk, hl⟩ := pair_of_length hu.1 hu.2
    have hjoin : (toAsciiUppercase (String.ofList ([':'].intercalate
        [[a, b], [c, d], [e, f], [g, h], [i, j], [k, l]]))).toList =
        [a.toUpper, b.toUpper, ':', c.toUpper, d.toUpper, ':', e.toUpper, f.toUpper, ':',
          g.toUpper, h.toUpper, ':', i.toUpper, j.toUpper, ':', k.toUpper, l.toUpper] := by
      simp [toAsciiUppercase]
    simp only [validMac, hjoin, List.zipIdx_cons, List.all_cons, hexdigit_toUpper, ha, hb, hc, hd,
      he, hf, hg, hh, hi, hj, hk, hl]
    rfl

variable {value : String}

theorem validMac_normalizeMac {mac : String} (h : normalizeMac value = some mac) :
    validMac mac = true := by
  unfold normalizeMac at h
  simp only [Option.ite_none_left_eq_some, Option.some.injEq, Bool.or_eq_true, decide_eq_true_eq,
    List.any_eq_true, Bool.not_eq_true', List.all_eq_false, not_or, not_not, not_exists,
    not_and] at h
  obtain ⟨⟨hlen, hparts⟩, rfl⟩ := h
  exact validMac_pairs hlen hparts

theorem validMac_canonicalClients (clients : List String) : ∀ (index : ℕ) (canonical : List String),
    (∀ mac ∈ canonical, validMac mac = true) →
      ∀ mac ∈ (canonicalClients index canonical clients).1, validMac mac = true := by
  induction clients with
  | nil => exact fun _ _ hcn => hcn
  | cons client clients ih =>
    intro index canonical hcn
    unfold canonicalClients
    cases hmac : normalizeMac client with
    | none => exact ih (index + 1) canonical hcn
    | some mac => grind [validMac_normalizeMac]

/-! ### What is left of a policy without issues -/

@[simp] theorem issueIf_eq_nil {wrong : Bool} {path code message : String} :
    issueIf wrong path code message = [] ↔ wrong = false := by
  cases wrong <;> simp [issueIf]

theorem isBadId_of_checkIds {path : String} {known : Option (List String)} :
    ∀ {values : List String} {index : ℕ} {seen : List String},
      checkIds path known index seen values = [] → ∀ value ∈ values, isBadId value = false
  | [], _, _, _ => by simp
  | value :: values, index, seen, h => by
    simp only [checkIds, List.append_eq_nil_iff] at h
    have hv : isBadId value = false := by grind
    rw [List.forall_mem_cons]
    exact ⟨hv, isBadId_of_checkIds h.2⟩

/-- A policy in normal form with which nothing is wrong. -/
structure Normal (spec : PolicySpecV1) : Prop where
  schema : spec.schemaVersion = 1
  gateway : spec.gatewayId.toList ≠ []
  named : (trim spec.name).toList ≠ []
  name : spec.name.toList.length ≤ 100
  description : spec.description.toList.length ≤ 500
  priority : spec.priority ≤ 1000
  fewClients : spec.selectors.clients.length ≤ 32
  fewApplications : spec.selectors.applications.length ≤ 32
  fewCategories : spec.selectors.categories.length ≤ 16
  clients : ∀ mac ∈ spec.selectors.clients, validMac mac = true
  applications : ∀ id ∈ spec.selectors.applications, isBadId id = false
  categories : ∀ id ∈ spec.selectors.categories, isBadId id = false
  confidence : minConfidence ≤ spec.selectors.minApplicationConfidence ∧
    spec.selectors.minApplicationConfidence ≤ 1
  selective : (spec.selectors.clients.isEmpty && spec.selectors.applications.isEmpty
    && spec.selectors.categories.isEmpty) = false
  network : validateNetwork spec = []
  action : validateAction spec = []

theorem mem_sorted {values : List String} : value ∈ sorted values ↔ value ∈ values :=
  (List.perm_insertionSort _ values).mem_iff

variable {spec : PolicySpecV1}

theorem normal_of_no_issue {zones : Zones} {known : Option KnownSelectors}
    (h : (normalizeAndValidate zones known spec).2 = []) :
    Normal (normalizeAndValidate zones known spec).1 := by
  simp only [normalizeAndValidate, List.append_eq_nil_iff] at h
  obtain ⟨⟨⟨⟨hident, hsels⟩, hnet⟩, ha⟩, -⟩ := h
  simp only [validateIdentity, List.append_eq_nil_iff, issueIf_eq_nil, decide_eq_false_iff_not,
    not_not, Bool.or_eq_false_iff, not_lt] at hident
  obtain ⟨⟨⟨⟨⟨hschema, hgw, -⟩, -⟩, hname, hlg⟩, hdescription⟩, hprio⟩ := hident
  simp only [validateSelectors, List.append_eq_nil_iff, issueIf_eq_nil] at hsels
  obtain ⟨⟨⟨⟨hcl, happs⟩, hcats⟩, hconf⟩, hsel⟩ := hsels
  simp only [validateClients, validateIds, List.append_eq_nil_iff, issueIf_eq_nil,
    decide_eq_false_iff_not, not_lt] at hcl happs hcats
  have hids : ∀ {values : List String} {path : String} {names : Option (List String)},
      checkIds path names 0 [] (values.map trim) = [] →
        ∀ id ∈ sorted (values.map trim), isBadId id = false :=
    fun hvalues id hid => isBadId_of_checkIds hvalues id (mem_sorted.1 hid)
  constructor
  case schema => exact hschema
  case gateway => exact List.isEmpty_eq_false_iff.1 hgw
  case named =>
    have hname : trimChars spec.name.toList ≠ [] := by
      intro hem
      simp [trim, hem] at hname
    have htwice := trimChars_ne_nil hname
    simpa [normalizeAndValidate, validateSelectors, validateIdentity, trim] using htwice
  case name => exact hlg
  case description => exact hdescription
  case priority => exact hprio
  case fewClients => exact hcl.1.2
  case fewApplications =>
    exact (List.length_insertionSort _ _).trans_le ((List.length_map _).trans_le happs.1)
  case fewCategories =>
    exact (List.length_insertionSort _ _).trans_le ((List.length_map _).trans_le hcats.1)
  case clients =>
    exact fun mac hmac => validMac_canonicalClients _ 0 [] (by simp) mac (mem_sorted.1 hmac)
  case applications => exact hids happs.2
  case categories => exact hids hcats.2
  case confidence =>
    simp only [Bool.not_eq_false', Bool.and_eq_true, decide_eq_true_eq] at hconf
    exact hconf
  case selective => exact hsel
  case network => exact hnet
  case action => exact ha

/-! ### Publishing -/

/-- The texts that the collector measures in characters fit in bytes, and the gateway has no control
characters in its name. -/
def fitsWire (spec : PolicySpecV1) : Prop :=
  byteLen (trim spec.gatewayId) ≤ 128 ∧ hasControl (trim spec.gatewayId) = false ∧
    (∀ id ∈ spec.selectors.applications, byteLen (trim id) ≤ 128) ∧
      ∀ id ∈ spec.selectors.categories, byteLen (trim id) ≤ 128

theorem Normal.action_ok (h : Normal spec) :
    (spec.action.kind = .limit → (!spec.selectors.clients.isEmpty
      && (spec.action.downloadBps.isSome || spec.action.uploadBps.isSome)
      && spec.action.downloadBps.all validRate && spec.action.uploadBps.all validRate) = true) ∧
    (spec.action.kind ≠ .limit →
      (spec.action.downloadBps.isNone && spec.action.uploadBps.isNone) = true) := by
  have ha := h.action
  simp only [validateAction, List.append_eq_nil_iff, issueIf_eq_nil] at ha
  obtain ⟨happs, hkd⟩ := ha
  constructor
  · intro hlim
    simp only [hlim, List.append_eq_nil_iff, validateRate, issueIf_eq_nil] at hkd
    obtain ⟨⟨⟨hcl, hdown⟩, hup⟩, hrate⟩ := hkd
    have hs : spec.selectors.clients.isEmpty = false := by grind
    have hval : ∀ rate : Option ℕ,
        (rate.any fun rate => !(decide (64000 ≤ rate) && decide (rate ≤ 1000000000))) = false →
          rate.all validRate = true := by
      intro rate hrate
      cases rate <;> simp_all [validRate]
    have hany : (spec.action.downloadBps.isSome || spec.action.uploadBps.isSome) = true := by
      rw [← Bool.not_eq_false', ← hrate]
      simp
    simp [hs, hany, hval _ hdown, hval _ hup]
  · cases hk : spec.action.kind <;> simp_all

/-- A policy in normal form can be published if its texts are short enough in bytes. -/
theorem Normal.publishable_iff (h : Normal spec) :
    (validateGateway spec.gatewayId = .ok () ∧ validatePolicySpec spec.gatewayId spec = .ok ()) ↔
      (byteLen spec.gatewayId ≤ 128 ∧ hasControl spec.gatewayId = false) ∧
        (∀ id ∈ spec.selectors.applications, byteLen id ≤ 128) ∧
          ∀ id ∈ spec.selectors.categories, byteLen id ≤ 128 := by
  have hnet := h.network
  simp only [validateNetwork, List.append_eq_nil_iff, issueIf_eq_nil, Bool.and_eq_false_iff] at hnet
  have hgw : validateGateway spec.gatewayId = .ok () ↔
      byteLen spec.gatewayId ≤ 128 ∧ hasControl spec.gatewayId = false := by
    simp [validateGateway, validText, h.gateway]
  have hids : ∀ {ids : List String}, (∀ id ∈ ids, isBadId id = false) →
      (ids.all (validText 128) = true ↔ ∀ id ∈ ids, byteLen id ≤ 128) := by
    intro ids hids
    rw [List.all_eq_true]
    -- identifiers that passed are refused by the wire for their bytes only
    refine forall₂_congr fun id hid => ?_
    have hgd := hids id hid
    simp only [isBadId, Bool.or_eq_false_iff] at hgd
    simp [validText, hgd.1.1, hgd.2]
  have hscope : ((spec.network.scope == "internet" || isClientTotalSpec spec)
      && spec.network.direction == "both") = true := by
    simpa using hnet
  have hcl := List.all_eq_true.2 h.clients
  rw [hgw]
  cases hkd : spec.action.kind <;>
    simp [validatePolicySpec, seq_eq_ok, hkd, h.schema, hscope, h.named, h.name, h.description,
      h.priority, h.fewClients, h.fewApplications, h.fewCategories, h.selective, h.confidence.1,
      h.confidence.2, hids h.applications, hids h.categories, hcl, h.action_ok.1,
      h.action_ok.2]

/-- **Admission and publishing.** A policy that the collector finds nothing wrong with passes the checks
of the wire exactly if its texts fit. One that does not fit blocks its whole gateway. -/
theorem admitted_publishable_iff (zones : Zones) (known : Option KnownSelectors)
    (spec : PolicySpecV1) (h : (normalizeAndValidate zones known spec).2 = []) :
    let normal := (normalizeAndValidate zones known spec).1
    ((validateGateway normal.gatewayId = .ok () ∧
        validatePolicySpec normal.gatewayId normal = .ok ()) ↔ fitsWire spec) ∧
      (¬ fitsWire spec → ∀ chrono codec epoch generation generatedAtMs revision policies,
        normal ∈ policies.map (·.spec) → ∀ s, compileSnapshot chrono codec normal.gatewayId epoch
          generation generatedAtMs revision policies ≠ .ok s) := by
  intro normal
  have hiff : (validateGateway normal.gatewayId = .ok () ∧
      validatePolicySpec normal.gatewayId normal = .ok ()) ↔ fitsWire spec := by
    rw [(normal_of_no_issue h).publishable_iff, and_assoc]
    have hids : ∀ values : List String, (∀ id ∈ sorted (values.map trim), byteLen id ≤ 128) ↔
        ∀ id ∈ values, byteLen (trim id) ≤ 128 := by
      intro values
      simp [mem_sorted]
    exact Iff.and Iff.rfl (Iff.and Iff.rfl (Iff.and (hids _) (hids _)))
  refine ⟨hiff, fun hunfit chrono codec epoch generation generatedAtMs revision policies hmem s
    hs => ?_⟩
  obtain ⟨policy, hpolicy, hspec⟩ := List.mem_map.1 hmem
  obtain ⟨hcheck, intervals, -, rfl⟩ := compileSnapshot_eq_ok hs
  simp only [checkFrame, seq_eq_ok] at hcheck
  have hok := validateSnapshot_ok hcheck.2.1
  exact hunfit (hiff.1 ⟨hok.gateway,
    hspec ▸ hok.specs policy ((List.perm_insertionSort _ policies).mem_iff.2 hpolicy)⟩)

/-- A block of one application for one client. -/
def blockOf (application : String) : PolicySpecV1 :=
  { plainSpec with
    gatewayId := "gateway-1"
    name := "block"
    priority := 100
    selectors := ⟨["02:00:00:00:00:01"], [application], [], 9 / 10⟩ }

theorem short_block_publishable :
    let normal := (normalizeAndValidate (fun _ => none) none (blockOf " video ")).1
    validateGateway normal.gatewayId = .ok () ∧
      validatePolicySpec normal.gatewayId normal = .ok () :=
  (admitted_publishable_iff (fun _ => none) none (blockOf " video ") (by decide +kernel)).1.2
    (by unfold fitsWire; decide +kernel)

/-- An application id of 65 characters in 130 bytes. -/
def longId : String := String.ofList (List.replicate 65 'é')

def testCodec : Codec :=
  jsonCodec (fun _ => 3) fun _ => "sha256:" ++ String.ofList (List.replicate 64 '0')

/-- For sample runs of the hub. -/
def sampleToolkit : Toolkit := ⟨.strict fun _ => none, testCodec⟩

/-- The handlers take the policy in, whatever the catalogue knows, and then not even the policies beside
it can be published. -/
theorem long_id_blocks_gateway :
    (∀ catalog, validateSpec (fun _ => none) catalog (blockOf longId) = (blockOf longId, [])) ∧
      normalizeAndValidate (fun _ => none)
        (some ⟨true, ["02:00:00:00:00:01"], [longId], []⟩) (blockOf longId) =
          (blockOf longId, []) ∧
      validatePolicySpec "gateway-1" (blockOf longId) =
        .error "policy contains an invalid application selector" ∧
      (compileSnapshot (.strict fun _ => none) testCodec "gateway-1"
        "6f9619ff-8b86-4011-b42d-00cf4fc964ff" 1 1700000000000 1
        [⟨"a", blockOf "video"⟩]).isOk = true ∧
      (compileSnapshot (.strict fun _ => none) testCodec "gateway-1"
        "6f9619ff-8b86-4011-b42d-00cf4fc964ff" 1 1700000000000 1
        [⟨"a", blockOf "video"⟩, ⟨"b", blockOf longId⟩]).isOk = false := by
  refine ⟨fun catalog => ?_, ?_, ?_, ?_, ?_⟩
  · have hstructural : normalizeAndValidate (fun _ => none) none (blockOf longId) =
        (blockOf longId, []) := by
      decide +kernel
    unfold validateSpec
    rw [hstructural, if_pos (by decide +kernel)]
  · decide +kernel
  · decide +kernel
  · decide +kernel
  · decide +kernel

end Netqmon.Collector.Policy.Admission
