import Netqmon.Lib.RustStr

/-! # License checks

The collector asks the cloud at intervals whether its installation is licensed and hands the answer
to the classifier as an entitlement. A check that gets no answer leaves the entitlement in place for
a day after the last success; later the classifier falls back to the community edition, as it does
when the cloud rejects the credential.

The classifier answers every request and keeps the entitlement last applied to it, so that it is a
field of `Coordinator`. -/

namespace Netqmon.Collector.License

open Lib.RustStr

def offlineGraceSeconds : ℤ := 24 * 60 * 60

structure PersistedIdentity where
  installationId : String
  installationCredential : Option String
  lastSuccessAt : Option ℤ
  (edition licenseStatus : String)
  leaseValidUntil : Option ℤ

structure AllowedRule where
  (artifactId ruleVersion edition : String)

structure EntitlementLease where
  (edition licenseStatus : String)
  leaseValidUntil : ℤ
  allowedRule : Option AllowedRule
  cloudApiUrl : String
  (installationCredential sealedRuleKey : Option String)

structure CloudAllowedRule where
  (artifactId ruleVersion : String)

/-- The times of the cloud are seconds. -/
structure CheckResponse where
  (edition licenseStatus : String)
  leaseValidUntil : ℤ
  allowedRule : Option CloudAllowedRule
  sealedRuleKey : Option String

structure LicenseStatus where
  installationId : String
  activated : Bool
  (edition licenseStatus : String)
  ruleVersion : Option String
  (leaseValidUntil lastSuccessAt : Option ℤ)
  lastError : Option String

/-- The coordinator after it has loaded its identity, and the entitlement of its classifier. -/
structure Coordinator where
  cloudApiUrl : String
  identity : PersistedIdentity
  lastError : Option String
  entitlement : EntitlementLease

/-- What comes of a request: a transport error, or an answer with its status code, its body read as
a `CheckResponse`, and the message that is made of it for other status codes. -/
inductive Reply
  | failed (error : String)
  | answered (status : ℕ) (body : Except String CheckResponse) (message : String)

/-- What a check meets: the clock, the reply, the outcome of writing the identity file and the rule
version of the classifier. -/
structure Attempt where
  now : ℤ
  reply : Reply
  written : Except String Unit
  ruleVersion : Option String

def isSuccess (status : ℕ) : Bool := 200 ≤ status && status < 300

def mentions (text part : String) : Bool := (splitOnce part text).isSome

def cloudLocalStatus (status : ℕ) (message : String) : String :=
  let lower := toAsciiLowercase message
  if mentions lower "license_expired" || mentions lower "license expired" then "expired"
  else if mentions lower "license_revoked" || mentions lower "license revoked" then "revoked"
  else if mentions lower "account_disabled" || mentions lower "account disabled" then "disabled"
  else if status = 401 then "credential_invalid"
  else "access_denied"

namespace Coordinator

def status (ruleVersion : Option String) (c : Coordinator) : LicenseStatus :=
  { installationId := c.identity.installationId
    activated := c.identity.installationCredential.isSome
    edition := c.entitlement.edition
    licenseStatus := c.entitlement.licenseStatus
    ruleVersion
    leaseValidUntil := c.identity.leaseValidUntil
    lastSuccessAt := c.identity.lastSuccessAt
    lastError := c.lastError }

def applyCommunity (status : String) (now : ℤ) (c : Coordinator) : Coordinator :=
  { c with
    entitlement :=
      { edition := "community"
        licenseStatus := status
        leaseValidUntil := now
        allowedRule := none
        cloudApiUrl := c.cloudApiUrl
        installationCredential := none
        sealedRuleKey := none } }

def fail (error : String) (c : Coordinator) : Except String LicenseStatus × Coordinator :=
  (.error error, { c with lastError := some error })

def transportFailure (now : ℤ) (error : String) (c : Coordinator) :
    Except String LicenseStatus × Coordinator :=
  fail error <|
    if c.identity.lastSuccessAt.all fun value => offlineGraceSeconds < now - value then
      c.applyCommunity "offline_grace_expired" now
    else c

def lease (credential : String) (response : CheckResponse) (c : Coordinator) : EntitlementLease :=
  { edition := response.edition
    licenseStatus := response.licenseStatus
    leaseValidUntil := response.leaseValidUntil
    allowedRule := response.allowedRule.map fun rule =>
      { artifactId := rule.artifactId, ruleVersion := rule.ruleVersion, edition := response.edition }
    cloudApiUrl := c.cloudApiUrl
    installationCredential := some credential
    sealedRuleKey := response.sealedRuleKey }

def succeed (now : ℤ) (response : CheckResponse) (c : Coordinator) : Coordinator :=
  { c with
    identity :=
      { c.identity with
        lastSuccessAt := some now
        edition := response.edition
        licenseStatus := response.licenseStatus
        leaseValidUntil := some response.leaseValidUntil }
    lastError :=
      if response.edition = "pro" ∧ response.allowedRule.isNone then
        some ("Pro license is active, but Cloud has no compatible Pro rule package for this " ++
          "installation.")
      else none }

def checkInner (attempt : Attempt) (c : Coordinator) : Except String LicenseStatus × Coordinator :=
  match c.identity.installationCredential, attempt.reply with
  | none, _ => (.error "No license has been activated", c)
  | some _, .failed error => c.transportFailure attempt.now error
  | some credential, .answered status body message =>
    if isSuccess status then
      match body with
      -- returned at once, past the grace period
      | .error error => (.error error, c)
      | .ok response =>
        let applied := { c with entitlement := c.lease credential response }
        match attempt.written with
        | .error error => (.error error, applied)
        | .ok () =>
          let c := applied.succeed attempt.now response
          (.ok (c.status attempt.ruleVersion), c)
    else if status = 401 ∨ status = 403 then
      let reason := if status = 401 then "401 Unauthorized" else "403 Forbidden"
      (c.applyCommunity (cloudLocalStatus status message) attempt.now).fail
        s!"Cloud rejected device credential ({reason}): {message}"
    else c.transportFailure attempt.now message

/-- The check ended well, and stored its time as that of the last success. -/
def Succeeds (attempt : Attempt) (c : Coordinator) : Prop := (c.checkInner attempt).1.isOk = true

instance (attempt : Attempt) (c : Coordinator) : Decidable (c.Succeeds attempt) :=
  inferInstanceAs (Decidable (_ = _))

def run (c : Coordinator) (attempts : List Attempt) : Coordinator :=
  attempts.foldl (fun c attempt => (c.checkInner attempt).2) c

/-- None of the checks ends well. -/
def Failing (c : Coordinator) : List Attempt → Prop
  | [] => True
  | attempt :: rest => ¬ c.Succeeds attempt ∧ Failing (c.checkInner attempt).2 rest

/-- The check runs out of the grace period, or is rejected. -/
def Due (c : Coordinator) (attempt : Attempt) : Prop :=
  (∃ value ∈ c.identity.lastSuccessAt, offlineGraceSeconds < attempt.now - value) ∨
    ∃ body message, attempt.reply = .answered 401 body message ∨
      attempt.reply = .answered 403 body message

end Coordinator

/-- An answer that reports success can be read, and its time can be stored. -/
def Attempt.Heeded (attempt : Attempt) : Prop :=
  ∀ status body message, attempt.reply = .answered status body message → isSuccess status = true →
    body.isOk = true ∧ attempt.written.isOk = true

namespace Coordinator

variable {c : Coordinator} {attempt : Attempt} {now : ℤ} {error : String}

/-- What a check that does not end well leaves of a coordinator: its identity, and the community
edition or, if the check was not due, the entitlement there was. -/
def Spares (c : Coordinator) (attempt : Attempt) (c' : Coordinator) : Prop :=
  c'.identity = c.identity ∧ (c'.entitlement.edition = "community" ∨
    c'.entitlement = c.entitlement ∧ ¬ c.Due attempt)

theorem spares_transportFailure (hrejected : ∀ body message,
      attempt.reply ≠ .answered 401 body message ∧ attempt.reply ≠ .answered 403 body message) :
    c.Spares attempt (c.transportFailure attempt.now error).2 := by
  unfold transportFailure fail
  split_ifs with hgrace
  · exact ⟨rfl, .inl rfl⟩
  · refine ⟨rfl, .inr ⟨rfl, ?_⟩⟩
    rintro (⟨v, hv, hlate⟩ | ⟨body, message, hreply⟩)
    · rw [Option.mem_def.1 hv] at hgrace
      exact hgrace (by simpa using hlate)
    · exact hreply.elim (hrejected body message).1 (hrejected body message).2

theorem spares_checkInner (hact : c.identity.installationCredential.isSome = true)
    (hheeded : attempt.Heeded) (hfl : ¬ c.Succeeds attempt) :
    c.Spares attempt (c.checkInner attempt).2 := by
  obtain ⟨credential, hcredential⟩ := Option.isSome_iff_exists.1 hact
  unfold Succeeds at hfl
  cases hreply : attempt.reply with
  | failed error =>
    simp only [checkInner, hcredential, hreply]
    exact spares_transportFailure (by simp [hreply])
  | answered status body message =>
    by_cases hsuccess : isSuccess status = true
    · -- an answer of success that is heeded ends the check well
      obtain ⟨hbody, hwr⟩ := hheeded status body message hreply hsuccess
      cases body <;> cases hw : attempt.written <;>
        simp_all [checkInner, Except.toBool]
    · simp only [checkInner, hcredential, hreply, if_neg hsuccess]
      by_cases hsa : status = 401 ∨ status = 403
      · rw [if_pos hsa]
        exact ⟨rfl, .inl rfl⟩
      · rw [if_neg hsa]
        exact spares_transportFailure (by simp_all)

theorem credential_checkInner : (c.checkInner attempt).2.identity.installationCredential =
    c.identity.installationCredential := by
  have htransport : ∀ error, (c.transportFailure attempt.now error).2.identity = c.identity := by
    intro error
    unfold transportFailure fail
    split_ifs <;> rfl
  unfold checkInner
  split
  · rfl
  · rw [htransport]
  · split_ifs
    · split
      · rfl
      · cases attempt.written <;> rfl
    · rfl
    · rfl
    · rw [htransport]

variable {attempts : List Attempt}

theorem credential_run :
    (c.run attempts).identity.installationCredential = c.identity.installationCredential := by
  induction attempts generalizing c with
  | nil => rfl
  | cons attempt rest ih => exact ih.trans credential_checkInner

theorem community_of_failing (hact : c.identity.installationCredential.isSome = true)
    (hheeded : ∀ attempt ∈ attempts, attempt.Heeded) (hfl : c.Failing attempts)
    (h : c.entitlement.edition = "community") :
    (c.run attempts).entitlement.edition = "community" := by
  induction attempts generalizing c with
  | nil => exact h
  | cons attempt rest ih =>
    obtain ⟨hid, hk⟩ := spares_checkInner hact (hheeded attempt (by simp)) hfl.1
    refine ih (by rwa [hid]) (fun a ha => hheeded a (by simp [ha])) hfl.2 ?_
    rcases hk with hcommunity | ⟨hsm, _⟩
    · exact hcommunity
    · rwa [hsm]

/-- **The grace period is enforced.** -/
theorem run_community {before after : List Attempt}
    (hactive : c.identity.installationCredential.isSome = true)
    (hheeded : ∀ x ∈ before ++ attempt :: after, x.Heeded) (hdue : (c.run before).Due attempt)
    (hfails : (c.run before).Failing (attempt :: after)) :
    (c.run (before ++ attempt :: after)).entitlement.edition = "community" := by
  rw [run, List.foldl_append, List.foldl_cons]
  have hheeded' : ∀ x ∈ attempt :: after, x.Heeded := fun x hx => hheeded x (by simp [hx])
  rw [← credential_run] at hactive
  obtain ⟨hidentity, hkept⟩ := spares_checkInner hactive (hheeded' attempt (by simp)) hfails.1
  refine community_of_failing ?_ (fun x hx => hheeded' x (by simp [hx])) hfails.2 ?_
  · rwa [← hidentity] at hactive
  · exact hkept.resolve_right fun hspared => hspared.2 hdue

/-- A pro installation whose last success was at second 0. -/
def samplePro : Coordinator :=
  { cloudApiUrl := "https://netqmon.com"
    identity := ⟨"installation", some "credential", some 0, "pro", "active", some 86400⟩
    lastError := none
    entitlement := ⟨"pro", "active", 86400, none, "https://netqmon.com", some "credential", none⟩ }

theorem run_community_offline :
    (samplePro.run [⟨86401, .failed "connection refused", .ok (), none⟩]).entitlement.edition =
      "community" :=
  @run_community _ _ [] [] rfl (by simp [Attempt.Heeded])
    (.inl ⟨0, rfl, by decide⟩) ⟨by decide, trivial⟩

/-- A success that cannot be read, as of a captive portal, leaves the edition in place. -/
theorem unreadable_success_keeps_pro : ∃ c : Coordinator, ∃ attempt : Attempt,
    c.identity.installationCredential.isSome = true ∧ c.Due attempt ∧ c.Failing [attempt] ∧
      (c.run [attempt]).entitlement.edition ≠ "community" := by
  refine ⟨samplePro, ⟨864000, .answered 200 (.error "expected value at line 1 column 1") "", .ok (),
    none⟩, rfl, .inl ⟨0, rfl, by decide⟩, ⟨by decide, trivial⟩, by decide⟩

end Coordinator

end Netqmon.Collector.License
