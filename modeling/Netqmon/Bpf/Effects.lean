import Netqmon.Bpf.Classify

/-! # What the steps of the packet program change

`Adds P Q m m'` says that `m'` comes from `m` by updates that satisfy `P` and events that satisfy
`Q`. Captures never update the flow map, samples only touch budgets and their statistics;
`flowCount` counts the packets that are added to the flow map. `foundVerdict` is the verdict that
decides about a frame. -/

namespace Netqmon.Bpf.Effects

open Agent.Flow Lib.Keyed Packet Program Classify

variable {P P' : Update → Prop} {Q Q' : Event → Prop} {m m' m'' : Machine}

/-! ### Updates and events -/

structure Adds (P : Update → Prop) (Q : Event → Prop) (m m' : Machine) : Prop where
  updates : ∃ us, m'.updates = m.updates ++ us ∧ m'.maps = us.foldl Maps.apply m.maps ∧
    ∀ u ∈ us, P u
  events : ∃ es, m'.events = m.events ++ es ∧ ∀ e ∈ es, Q e

theorem Adds.refl (m : Machine) : Adds P Q m m :=
  ⟨⟨[], by simp, rfl, by simp⟩, ⟨[], by simp, by simp⟩⟩

theorem Adds.trans (h : Adds P Q m m') (h' : Adds P Q m' m'') : Adds P Q m m'' := by
  obtain ⟨⟨us, hus, hmaps, hP⟩, es, hes, hQ⟩ := h
  obtain ⟨⟨us', hus', hmaps', hP'⟩, es', hes', hQ'⟩ := h'
  refine ⟨⟨us ++ us', by rw [hus', hus, List.append_assoc],
    by rw [hmaps', hmaps, List.foldl_append], ?_⟩,
    es ++ es', by rw [hes', hes, List.append_assoc], ?_⟩
  · grind
  · grind

theorem Adds.imp (h : Adds P Q m m') (hP : ∀ u, P u → P' u) (hQ : ∀ e, Q e → Q' e) :
    Adds P' Q' m m' := by
  obtain ⟨⟨us, hus, hmaps, hall⟩, es, hes, hall'⟩ := h
  exact ⟨⟨us, hus, hmaps, fun u hu => hP u (hall u hu)⟩, es, hes, fun e he => hQ e (hall' e he)⟩

variable {u : Update}

theorem Adds.perform (h : Adds P Q m m') (hu : P u) : Adds P Q m (m'.perform u) :=
  h.trans ⟨⟨[u], rfl, rfl, by simpa using hu⟩, ⟨[], by simp [Machine.perform], by simp⟩⟩

theorem Adds.submit (h : Adds P Q m m') {e : Event} (he : Q e) : Adds P Q m (m'.submit e) :=
  h.trans ⟨⟨[], by simp [Machine.submit], rfl, by simp⟩, ⟨[e], rfl, by simpa using he⟩⟩

/-- What no single update changes, all of them together do not change. -/
theorem Adds.maps_fixed {α : Type} (h : Adds P Q m m') (f : Maps → α)
    (hf : ∀ maps u, P u → f (maps.apply u) = f maps) : f m'.maps = f m.maps := by
  obtain ⟨⟨us, -, hmaps, hall⟩, -⟩ := h
  rw [hmaps]
  clear hmaps
  generalize m.maps = maps
  induction us generalizing maps with
  | nil => rfl
  | cons u us ih =>
    rw [List.foldl_cons, ih (fun v hv => hall v (.tail _ hv)), hf maps u (hall u (.head _))]

/-! ### Counted packets -/

def isFlow : Update → Bool
  | .flow .. => true
  | _ => false

/-- The number of packets that were added to the flow map. -/
def flowCount (m : Machine) : ℕ := m.updates.countP isFlow

theorem Adds.flowCount_eq (h : Adds P Q m m') (hP : ∀ u, P u → isFlow u = false) :
    flowCount m' = flowCount m := by
  obtain ⟨⟨us, hus, -, hall⟩, -⟩ := h
  have hz : us.countP isFlow = 0 := List.countP_eq_zero.2 fun u hu => by simp [hP u (hall u hu)]
  rw [flowCount, hus, List.countP_append, hz, flowCount, Nat.add_zero]

@[simp] theorem flowCount_perform :
    flowCount (m.perform u) = flowCount m + if isFlow u then 1 else 0 := by
  cases hu : isFlow u <;> simp [flowCount, Machine.perform, hu]

@[simp] theorem flowCount_start (maps : Maps) (skb : SkBuff) : flowCount (start maps skb) = 0 := rfl

/-! ### Captures -/

variable (ctx : Context) (skb : SkBuff)

def IsDnsDrop (u : Update) : Prop := u = .dnsDrop

def NoSample (e : Event) : Prop := ∀ event, e ≠ .sample event

variable (udp : ℕ)

theorem adds_maybeCaptureDns (client : BitVec 128) (version : UInt8) (m : Machine) :
    Adds IsDnsDrop NoSample m (maybeCaptureDns ctx skb udp client version m) := by
  unfold maybeCaptureDns
  dsimp only
  split
  · exact .refl m
  split
  · exact .perform (.refl m) rfl
  split
  · exact .perform (.refl m) rfl
  · exact .submit (.refl m) nofun

theorem adds_maybeCaptureDhcp (m : Machine) :
    Adds IsDnsDrop NoSample m (maybeCaptureDhcp ctx skb udp m) := by
  unfold maybeCaptureDhcp
  dsimp only
  split
  · exact .refl m
  split
  · exact .refl m
  split
  · exact .refl m
  split
  · exact .refl m
  · exact .submit (.refl m) nofun

variable (ports payloadOffset originalLength captureLength : ℕ) (source : BitVec 128)
  (version : UInt8)

theorem adds_submitDiscovery :
    Adds IsDnsDrop NoSample m (submitDiscovery ctx skb ports payloadOffset originalLength
      captureLength source version m) := by
  unfold submitDiscovery
  dsimp only
  split
  · exact .refl m
  split
  · exact .refl m
  · exact .submit (.refl m) nofun

theorem adds_maybeCaptureDiscovery :
    Adds IsDnsDrop NoSample m (maybeCaptureDiscovery ctx skb udp source version m) := by
  unfold maybeCaptureDiscovery
  dsimp only
  split
  · exact .refl m
  · exact adds_submitDiscovery ctx skb ..

variable (key : FlowKey)

theorem adds_captureTransport (transport : ℕ) :
    Adds IsDnsDrop NoSample m (captureTransport ctx skb key transport m) := by
  unfold captureTransport
  split
  · split
    · unfold maybeCaptureHttpDiscovery
      dsimp only
      split
      · exact .refl m
      split
      · exact .refl m
      split
      · exact .refl m
      · exact adds_submitDiscovery ctx skb ..
    · exact .refl m
  · have hdns := adds_maybeCaptureDns ctx skb transport key.destinationAddress key.ipVersion m
    split
    · have hdhcp := adds_maybeCaptureDhcp ctx skb transport
        (maybeCaptureDns ctx skb transport key.destinationAddress key.ipVersion m)
      exact (hdns.trans hdhcp).trans (adds_maybeCaptureDiscovery ctx skb ..)
    · exact hdns.trans (adds_maybeCaptureDiscovery ctx skb ..)

variable (s : Sight)

theorem adds_captured (m : Machine) : Adds IsDnsDrop NoSample m (s.captured ctx skb m) := by
  unfold Sight.captured
  split
  · exact .refl m
  · exact adds_captureTransport ctx ..
  · exact adds_maybeCaptureDns ctx skb ..

/-! ### Samples -/

/-- An update of the statistics, or the note that a flow was sampled. -/
def IsStatistic : Update → Prop
  | .budgetSampled k => k = key
  | .sampleCount _ _ => True
  | _ => False

/-- An update of a budget, under the given key, or of the statistics. -/
def IsSampling : Update → Prop
  | .budgetCreated k _ => k = key
  | .budgetSeen k _ => k = key
  | .budgetPacket k _ => k = key
  | .budgetBytes k _ => k = key
  | u => IsStatistic key u

def IsSampleOf (e : Event) : Prop := ∃ event, e = .sample event ∧ event.key = key

theorem IsStatistic.isSampling {key : FlowKey} (h : IsStatistic key u) : IsSampling key u := by
  cases u <;> first | exact h | exact h.elim

theorem IsSampling.isFlow_eq {key : FlowKey} (h : IsSampling key u) : isFlow u = false := by
  cases u <;> first | rfl | exact h.elim

variable (stage : PacketStageContext) (budget : SampleBudget) (length : ℕ)

theorem adds_submitSample (m : Machine) :
    Adds (IsStatistic (canonicalKey stage.key)) (IsSampleOf stage.key) m
      (submitSample ctx skb stage budget length m) := by
  unfold submitSample
  dsimp only
  split
  · exact .perform (.perform (.refl m) trivial) trivial
  split
  · exact .refl m
  split
  · exact .perform (.perform (.refl m) trivial) trivial
  · refine .submit (.perform (.perform ?_ trivial) trivial) ⟨_, rfl, rfl⟩
    split
    · exact .refl m
    · have hsampled : IsStatistic (canonicalKey stage.key)
          (.budgetSampled (canonicalKey stage.key)) := rfl
      exact .perform (.perform (.refl m) hsampled) trivial

theorem adds_chargeSample :
    Adds (IsSampling (canonicalKey stage.key)) (IsSampleOf stage.key) m
      (chargeSample ctx skb stage budget length m) := by
  have hsn : Adds (IsSampling (canonicalKey stage.key)) (IsSampleOf stage.key) m
      (m.perform (.budgetSeen (canonicalKey stage.key) ctx.now)) := .perform (.refl m) rfl
  have hpacket : IsSampling (canonicalKey stage.key)
      (.budgetPacket (canonicalKey stage.key) (sampleDirection stage.key)) := rfl
  have hby : IsSampling (canonicalKey stage.key)
      (.budgetBytes (canonicalKey stage.key) length) := rfl
  have hcharge := (hsn.perform hpacket).perform hby
  unfold chargeSample
  dsimp only
  split
  · exact hsn
  split
  · exact hcharge
  · exact hcharge.trans ((adds_submitSample ctx skb ..).imp (fun _ => IsStatistic.isSampling)
      fun _ h => h)

theorem adds_captureSampleBody (m : Machine) :
    Adds (IsSampling (canonicalKey stage.key)) (IsSampleOf stage.key) m
      (captureSampleBody ctx skb stage m) := by
  unfold captureSampleBody
  dsimp only
  split
  · exact .refl m
  split
  · exact adds_chargeSample ctx skb ..
  split
  · exact .perform (.perform (.refl m) trivial) trivial
  · refine .trans ?_ (adds_chargeSample ctx skb ..)
    exact .perform (.refl m) rfl

theorem flowCount_captured : flowCount (s.captured ctx skb m) = flowCount m :=
  (adds_captured ctx skb s m).flowCount_eq fun u h => by rw [show u = .dnsDrop from h]; rfl

theorem flowMap_captured : (s.captured ctx skb m).maps.flowMap = m.maps.flowMap :=
  (adds_captured ctx skb s m).maps_fixed Maps.flowMap fun maps u h => by
    rw [show u = .dnsDrop from h]
    rfl

/-! ### Verdicts -/

variable (maps : Maps)

/-- **The verdict that decides about a frame**: that of its exact key, or else that of its endpoint.
-/
def foundVerdict : Option FlowVerdict :=
  match (maps.flowVerdictMap.lookup key).filter
      (¬ verdictOutdated ctx.now maps.flowPolicyState ·) with
  | some verdict => some verdict
  | none =>
    (maps.endpointBlocks.lookup (endpointBlockKey skb key)).filter
      (¬ endpointOutdated ctx maps.flowPolicyState ·)

/-- A block is in force for the key. -/
def Blocked : Prop :=
  ∃ verdict, foundVerdict ctx skb key maps = some verdict ∧ verdict.verdict = verdictBlock

/-- The updates of a policy check that finds no block. -/
def IsExpiry : Update → Prop
  | .verdictDeleted _ => True
  | .endpointDeleted _ => True
  | _ => False

theorem IsExpiry.isFlow_eq (h : IsExpiry u) : isFlow u = false := by
  cases u <;> first | rfl | exact h.elim

/-- What is looked up, and that only outdated entries are deleted. -/
theorem activeFlowVerdict_spec (m : Machine) :
    (activeFlowVerdict ctx key m).1 = (m.maps.flowVerdictMap.lookup key).filter
        (¬ verdictOutdated ctx.now m.maps.flowPolicyState ·) ∧
      Adds IsExpiry (fun _ => False) m (activeFlowVerdict ctx key m).2 := by
  unfold activeFlowVerdict
  cases m.maps.flowVerdictMap.lookup key with
  | none => exact ⟨rfl, .refl m⟩
  | some verdict =>
    dsimp only
    split
    · next h => exact ⟨by simp [Option.filter, h], .perform (.refl m) trivial⟩
    · next h => exact ⟨by simp [Option.filter, h], .refl m⟩

theorem activeEndpointBlock_spec (key : EndpointBlockKey) (m : Machine) :
    (activeEndpointBlock ctx key m).1 = (m.maps.endpointBlocks.lookup key).filter
        (¬ endpointOutdated ctx m.maps.flowPolicyState ·) ∧
      Adds IsExpiry (fun _ => False) m (activeEndpointBlock ctx key m).2 := by
  unfold activeEndpointBlock
  cases m.maps.endpointBlocks.lookup key with
  | none => exact ⟨rfl, .refl m⟩
  | some verdict =>
    dsimp only
    split
    · next h => exact ⟨by simp [Option.filter, h], .perform (.refl m) trivial⟩
    · next h => exact ⟨by simp [Option.filter, h], .refl m⟩

variable {ctx skb} in
theorem enforce_found {key : FlowKey} {verdict : FlowVerdict}
    (hfd : foundVerdict ctx skb key m.maps = some verdict) (hct : flowCount m' = flowCount m) :
    (∃ m'', enforce ctx skb key verdict m' = (.shot, m'') ∧ Blocked ctx skb key m.maps ∧
        flowCount m'' = flowCount m + 1) ∨
      ∃ m'', enforce ctx skb key verdict m' = (.ok, m'') ∧ ¬ Blocked ctx skb key m.maps ∧
        flowCount m'' = flowCount m := by
  have hpasses : verdict.verdict ≠ verdictBlock → ¬ Blocked ctx skb key m.maps := by
    rintro hne ⟨v, hv, hb⟩
    grind
  unfold enforce
  split
  · next hsh =>
    have hne : verdict.verdict ≠ verdictBlock := by rw [hsh]; decide
    split <;> exact .inr ⟨_, rfl, hpasses hne, hct⟩
  · split
    · next hne => exact .inr ⟨_, rfl, hpasses hne, hct⟩
    · next heq =>
      exact .inl ⟨_, rfl, ⟨verdict, hfd, not_not.1 heq⟩, by simp [recordFlow, isFlow, hct]⟩

/-- **The policy check**: a block drops the frame and counts it; otherwise the frame is accepted and
counted nowhere. -/
theorem evaluateFlowPolicy_cases (m : Machine) :
    (∃ m', evaluateFlowPolicy ctx skb key m = (.shot, m') ∧ Blocked ctx skb key m.maps ∧
        flowCount m' = flowCount m + 1) ∨
      ∃ m', evaluateFlowPolicy ctx skb key m = (.ok, m') ∧ ¬ Blocked ctx skb key m.maps ∧
        flowCount m' = flowCount m := by
  obtain ⟨hfd, had⟩ := activeFlowVerdict_spec ctx key m
  have hct := had.flowCount_eq fun _ h => h.isFlow_eq
  -- the expiry of a verdict neither touches the endpoint map nor the generation
  have hes : (activeFlowVerdict ctx key m).2.maps.endpointBlocks =
      m.maps.endpointBlocks := by
    unfold activeFlowVerdict
    split
    · rfl
    · split <;> rfl
  have hst : (activeFlowVerdict ctx key m).2.maps.flowPolicyState = m.maps.flowPolicyState :=
    had.maps_fixed Maps.flowPolicyState fun maps u hu => by
      cases u <;> first | rfl | exact hu.elim
  unfold evaluateFlowPolicy
  rcases hrun : activeFlowVerdict ctx key m with ⟨_ | verdict, m₁⟩ <;>
    rw [hrun] at hfd hct hes hst <;> dsimp only at hfd hct hes hst ⊢
  · obtain ⟨hfound', hadds'⟩ := activeEndpointBlock_spec ctx (endpointBlockKey skb key) m₁
    have hcount' := hadds'.flowCount_eq fun _ h => h.isFlow_eq
    rw [hes, hst] at hfound'
    have hall : foundVerdict ctx skb key m.maps =
        (activeEndpointBlock ctx (endpointBlockKey skb key) m₁).1 := by
      rw [foundVerdict, ← hfd, hfound']
    rcases hrun' : activeEndpointBlock ctx (endpointBlockKey skb key) m₁ with ⟨_ | verdict, m₂⟩ <;>
      rw [hrun'] at hall hcount' <;> dsimp only at hall hcount' ⊢
    · refine .inr ⟨m₂, rfl, ?_, hcount'.trans hct⟩
      rintro ⟨v, hv, -⟩
      rw [hall] at hv
      cases hv
    · exact enforce_found hall (hcount'.trans hct)
  · exact enforce_found (by rw [foundVerdict, ← hfd]) hct

/-! ### Counting a frame -/

/-- The packets of a flow, with one more. -/
def packetsAfter (key : FlowKey) : ℕ :=
  match maps.flowMap.lookup key with
  | some value => value.packets + 1
  | none => 1

/-- What of a frame that is being counted goes to the sampling stage. -/
def sampledStage : Option PacketStageContext :=
  match s.sample with
  | none => none
  | some (networkOffset, originalLength) =>
    if ctx.config.enabled ∧ packetsAfter maps s.key ≤ ctx.config.maxPacketsPerDirection then
      some ⟨s.key, networkOffset, originalLength⟩
    else none

/-- A frame after it was counted, and captured from. -/
def counted (m : Machine) : Machine :=
  (s.captured ctx skb m).perform (.flow s.key skb.len ctx.now s.tcpFlags)

theorem flowCount_counted (m : Machine) : flowCount (counted ctx skb s m) = flowCount m + 1 := by
  rw [counted, flowCount_perform, flowCount_captured]
  rfl

/-- **Counting a frame**: it is counted once, and handed to the sampling stage if it is to be
sampled. -/
theorem observed_eq (build : Build) :
    s.observed build ctx skb m =
      match sampledStage ctx s m.maps with
      | none => (.ret .ok, counted ctx skb s m)
      | some stage => maybeCaptureSample build ctx skb stage (counted ctx skb s m) := by
  unfold Sight.observed account sampledStage recordFlow
  rw [flowMap_captured]
  cases s.sample with
  | none => rfl
  | some found =>
    dsimp only
    by_cases hsample : ctx.config.enabled = true ∧
        packetsAfter m.maps s.key ≤ ctx.config.maxPacketsPerDirection
    · rw [if_pos hsample]
      exact if_pos hsample
    · rw [if_neg hsample]
      exact if_neg hsample

theorem enabled_of_sampledStage {s : Sight} {maps : Maps} {stage : PacketStageContext}
    (h : sampledStage ctx s maps = some stage) : ctx.config.enabled = true := by
  unfold sampledStage at h
  split at h
  · cases h
  · grind

end Netqmon.Bpf.Effects
