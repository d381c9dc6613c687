import Netqmon.Agent.Executor.Report

/-! # The texts of results

Results built by `result` have valid texts by construction, and those about clients that were not
found are short. Only a degraded capability puts a text of the topology into a result unchanged. -/

namespace Netqmon.Agent.Executor.Texts

open Executor.Topology Plan Visits Report Lib.RustStr Protocol.Policy Protocol.Validate

def TextsOk (reasonCode message : Option String) : Prop :=
  reasonCode.all (validText 128) = true ∧ message.all validMessage = true

/-! ### Sanitised messages -/

theorem length_sanitizeChars :
    ∀ (cs : List Char) (length : ℕ), length ≤ 512 →
      length + ((sanitizeChars length cs).map Char.utf8Size).sum ≤ 512
  | [], length, h => by simpa [sanitizeChars] using h
  | c :: cs, length, h => by
    rw [sanitizeChars]
    generalize (if isControl c then ' ' else c) = d
    split_ifs with hfu
    · simpa using h
    · have ih := length_sanitizeChars cs _ (not_lt.1 hfu)
      grind

theorem sanitizeChars_plain :
    ∀ (cs : List Char) (length : ℕ), (sanitizeChars length cs).any isControl = false
  | [], length => rfl
  | c :: cs, length => by
    rw [sanitizeChars]
    split_ifs with hcontrol hfu hfu
    · rfl
    · rw [List.any_cons, sanitizeChars_plain cs, Bool.or_false]
      rfl
    · rfl
    · rw [List.any_cons, sanitizeChars_plain cs, Bool.or_false]
      simpa using hcontrol

theorem validMessage_sanitize (message : String) :
    validMessage (sanitizeResultMessage message) = true := by
  have hlen : byteLen (String.ofList (sanitizeChars 0 message.toList)) ≤ 512 := by
    have h := length_sanitizeChars message.toList 0 (Nat.zero_le _)
    rw [byteLen_ofList]
    omega
  have hplain : hasControl (String.ofList (sanitizeChars 0 message.toList)) = false := by
    rw [hasControl_ofList, sanitizeChars_plain]
  rw [validMessage, sanitizeResultMessage, hasControl_trim hplain]
  simpa using (byteLen_trim_le _).trans hlen

theorem textsOk_result (id : String) (status : PolicyResultStatus)
    (reasonCode message : Option String) :
    TextsOk (result id status reasonCode message).reasonCode
      (result id status reasonCode message).message := by
  constructor
  · cases reasonCode with
    | none => rfl
    | some code => simp [result]
  · cases message with
    | none => rfl
    | some text => simp [result, validMessage_sanitize]

variable {policy : PolicySnapshotEntry} {mac : String}

variable {error : IdentityError}

section

variable (ivs : List PolicyScheduleIntervals) (untilMs : ℤ) (now : Option ℤ)
  (topo : PolicyTopology) (idents : ClientAddresses)

theorem textsOk_classify :
    TextsOk (classify topo ivs untilMs now policy).1.reasonCode
      (classify topo ivs untilMs now policy).1.message := by
  unfold classify classifyApplication unsupportedResult
  split_ifs <;> try exact textsOk_result ..
  split <;> exact textsOk_result ..

/-! ### Clients that were not found -/

theorem byteLen_lowercase_mac (h : validMac mac = true) : byteLen (toAsciiLowercase mac) = 17 := by
  have hsize : ∀ c ∈ macAlphabet, c.toLower.utf8Size = 1 :=
    List.forall_iff_forall_mem.1 (by decide)
  have hlen : mac.toList.length = 17 := by grind [validMac]
  have hones : mac.toList.map (Char.utf8Size ∘ Char.toLower) = mac.toList.map fun _ => 1 :=
    List.map_congr_left fun c hc => hsize c (validMac_alphabet h hc)
  rw [toAsciiLowercase, byteLen_ofList, List.map_map, hones]
  simp [hlen]

theorem hasControl_lowercase_mac (h : validMac mac = true) :
    hasControl (toAsciiLowercase mac) = false := by
  have hplain : ∀ c ∈ macAlphabet, isControl c.toLower = false :=
    List.forall_iff_forall_mem.1 (by decide)
  rw [toAsciiLowercase, hasControl_ofList, List.any_eq_false]
  intro c hc
  obtain ⟨d, hd, rfl⟩ := List.mem_map.1 hc
  simp [hplain d (validMac_alphabet h hd)]

theorem validMessage_mac {lead mac : String} (hlen : byteLen lead ≤ 495)
    (hplain : hasControl lead = false) (h : validMac mac = true) :
    validMessage (lead ++ toAsciiLowercase mac) = true := by
  have hmac := byteLen_lowercase_mac h
  rw [validMessage, hasControl_append, hplain, hasControl_lowercase_mac h]
  simp
  omega

theorem validMessage_identityMessage (h : validMac mac = true) :
    validMessage (identityMessage error (toAsciiLowercase mac)) = true := by
  cases error with
  | unresolved =>
    exact @validMessage_mac "no current LAN neighbor address was found for " mac
      (by decide +kernel) (by decide +kernel) h
  | conflict =>
    exact @validMessage_mac "current LAN neighbor data maps an address to multiple MACs for " mac
      (by decide +kernel) (by decide +kernel) h

theorem textsOk_identityFailure (h : validMac mac = true) (e : PolicyResult) :
    TextsOk (identityFailure policy (toAsciiLowercase mac) error e).reasonCode
      (identityFailure policy (toAsciiLowercase mac) error e).message := by
  have hcodes : ∀ error : IdentityError, ∀ limit : Bool,
      validText 128 (if limit then "identity_partial" else error.reasonCode) = true := by
    rintro (_ | _) (_ | _) <;> decide +kernel
  exact ⟨hcodes error (isLimit policy), validMessage_identityMessage h⟩

theorem textsOk_settledResult (hmacs : ∀ mac ∈ policy.spec.selectors.clients, validMac mac = true) :
    TextsOk (settledResult ivs untilMs now topo policy).reasonCode
      (settledResult ivs untilMs now topo policy).message := by
  unfold settledResult
  dsimp only
  split_ifs
  · unfold identityResult
    dsimp only
    split_ifs
    · have hmsg : validMessage ("some selected clients have no unambiguous current LAN identity; "
          ++ "known clients remain shaped") = true := by decide +kernel
      have hcode : validText 128 "identity_partial" = true := by decide +kernel
      exact ⟨hcode, hmsg⟩
    · refine List.foldlRecOn policy.spec.selectors.clients _
        (motive := fun e : PolicyResult => TextsOk e.reasonCode e.message) (textsOk_classify ..) ?_
      grind [identityStep, textsOk_identityFailure]
  · exact textsOk_classify ..

end

end Netqmon.Agent.Executor.Texts
