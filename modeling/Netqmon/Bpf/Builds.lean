import Netqmon.Bpf.Effects

/-! # The two builds of the packet program

The build without subprograms goes over a frame twice. When all tail calls work, it does the same as
the other build, except for one kind of frame: of an IPv6 packet whose TCP or UDP header is cut off,
the first pass counts the frame although it should only consult the verdicts. If that frame is
sampled, the tail call into the sampling stage never comes back and the second pass is not made;
otherwise it counts the frame once more (`builds_agree_iff`). -/

namespace Netqmon.Bpf.Builds

open Packet Program Classify Effects

variable {ctx : Context} {skb : SkBuff} {hook : Hook} {maps : Maps} {s : Sight} {m : Machine}

/-- All tail calls work. -/
def Works (ctx : Context) : Prop := ∀ stage, ctx.tailCalls stage = true

/-- The parser's result when sampling has been done. -/
def complete (ctx : Context) (skb : SkBuff) : Exit × Machine → Action × Machine
  | (.ret action, m) => (action, m)
  | (.sample stage, m) => (.ok, captureSampleBody ctx skb stage m)

section

variable (hworks : Works ctx)
include hworks

theorem tailFinish_eq (action : Action) : tailFinish ctx action hook m = (action, m) := by
  unfold tailFinish
  split
  · rfl
  · next hok => rw [if_pos (hworks _), not_not.1 hok]

theorem netqmonSample_eq (stage : PacketStageContext) :
    netqmonSample ctx skb stage m = complete ctx skb (.sample stage, m) := by
  unfold netqmonSample complete
  split
  · exact tailFinish_eq hworks ..
  · rfl

theorem complete_observed (build : Build) :
    complete ctx skb (s.observed build ctx skb m) =
      (.ok, match sampledStage ctx s m.maps with
        | none => counted ctx skb s m
        | some stage => captureSampleBody ctx skb stage (counted ctx skb s m)) := by
  rw [observed_eq]
  cases hstage : sampledStage ctx s m.maps with
  | none => rfl
  | some stage =>
    have hen := enabled_of_sampledStage ctx hstage
    cases build with
    | subprograms => rfl
    | tailCalls => simp [maybeCaptureSample, hen, hworks _, complete]

theorem netqmonIngress_subprograms :
    netqmonIngress .subprograms ctx skb m =
      complete ctx skb (handle .subprograms ctx skb .whole m (sight skb .ingress)) := by
  unfold netqmonIngress
  rw [← parsePacket_eq]
  rcases parsePacket .subprograms ctx skb .ingress .whole m with ⟨action | stage, m'⟩
  · rfl
  · exact netqmonSample_eq hworks ..

theorem netqmonEgress_subprograms
    (hsn : ¬ (observedBefore m.maps skb ∧ ¬ m.maps.flowPolicyState.enabled)) :
    netqmonEgress .subprograms ctx skb m =
      complete ctx skb (handle .subprograms ctx skb
        (if observedBefore m.maps skb then .policy else .whole) m (sight skb .egress)) := by
  unfold netqmonEgress
  rw [if_neg hsn, ← parsePacket_eq]
  dsimp only
  rcases parsePacket .subprograms ctx skb .egress _ m with ⟨action | stage, m'⟩
  · rfl
  · exact netqmonSample_eq hworks ..

/-- The second pass counts and samples what the frame shows. -/
theorem netqmonObserve_eq :
    netqmonObserve ctx skb hook m =
      match sight skb hook with
      | none => (.ok, m)
      | some s => complete ctx skb (s.observed .subprograms ctx skb m) := by
  have hend : netqmonObserve ctx skb hook m =
      complete ctx skb (parsePacket .tailCalls ctx skb hook .observe m) := by
    unfold netqmonObserve
    rcases parsePacket .tailCalls ctx skb hook .observe m with ⟨action | stage, m'⟩
    · cases hook
      · exact tailFinish_eq hworks ..
      · rfl
    · exact netqmonSample_eq hworks ..
  rw [hend, parsePacket_eq]
  cases sight skb hook with
  | none => rfl
  | some s =>
    have hr : s.handled .tailCalls ctx skb .observe m = s.observed .tailCalls ctx skb m := by
      unfold Sight.handled checked
      cases s.kind <;> simp [policyOnly, checkPolicy]
    dsimp only [handle]
    rw [hr, complete_observed hworks, complete_observed hworks]

/-- The first pass of the build without subprograms, and what follows it; `again` says whether a
second pass is made. -/
def twoPasses (ctx : Context) (skb : SkBuff) (hook : Hook) (again : Bool) (m : Machine) :
    Action × Machine :=
  match handle .tailCalls ctx skb .policy m (sight skb hook) with
  | (.sample stage, m) => complete ctx skb (.sample stage, m)
  | (.ret action, m) =>
    if action = .ok ∧ again then netqmonObserve ctx skb hook m else (action, m)

theorem netqmonIngress_tailCalls :
    netqmonIngress .tailCalls ctx skb m = twoPasses ctx skb .ingress true m := by
  unfold netqmonIngress twoPasses
  dsimp only
  rw [parsePacket_eq]
  obtain ⟨exit, m'⟩ := handle .tailCalls ctx skb .policy m (sight skb .ingress)
  cases exit with
  | sample stage => exact netqmonSample_eq hworks ..
  | ret action =>
    simp only [hworks _]
    split
    · rfl
    · exact tailFinish_eq hworks ..

theorem netqmonEgress_tailCalls
    (hsn : ¬ (observedBefore m.maps skb ∧ ¬ m.maps.flowPolicyState.enabled)) :
    netqmonEgress .tailCalls ctx skb m =
      twoPasses ctx skb .egress (¬ observedBefore m.maps skb) m := by
  unfold netqmonEgress twoPasses
  rw [if_neg hsn]
  rw [parsePacket_eq]
  obtain ⟨exit, m'⟩ := handle .tailCalls ctx skb .policy m (sight skb .egress)
  cases exit with
  | sample stage => exact netqmonSample_eq hworks ..
  | ret action => simp [hworks _]

/-! ### Comparing the builds -/

/-- Without a second pass the builds only differ in the way into the sampling stage. -/
theorem onePass_eq (m : Machine) :
    twoPasses ctx skb hook false m =
      complete ctx skb (handle .subprograms ctx skb .policy m (sight skb hook)) := by
  have hend : ∀ e : Exit × Machine, (match e with
      | (.sample stage, m) => complete ctx skb (.sample stage, m)
      | (.ret action, m) =>
        if action = .ok ∧ false = true then netqmonObserve ctx skb hook m else (action, m)) =
      complete ctx skb e := by
    rintro ⟨action | stage, m⟩
    · simp [complete]
    · rfl
  unfold twoPasses
  cases sight skb hook with
  | none => rfl
  | some s =>
    dsimp only [handle, Sight.handled]
    grind [checked, checkPolicy, policyOnly, complete_observed]

/-- A frame whose transport header is cut off, and which is not sampled. -/
def Unsampled (ctx : Context) (skb : SkBuff) (hook : Hook) (maps : Maps) : Prop :=
  ∃ s, sight skb hook = some s ∧ s.kind = .cutOff ∧ sampledStage ctx s maps = none

/-- **Two passes come to one**, unless the first pass counts the frame and the second is made. -/
theorem twoPasses_eq (h : ¬ Unsampled ctx skb hook m.maps) :
    twoPasses ctx skb hook true m =
      complete ctx skb (handle .subprograms ctx skb .whole m (sight skb hook)) := by
  have hobs : ∀ m s, sight skb hook = some s →
      netqmonObserve ctx skb hook m = complete ctx skb (s.observed .subprograms ctx skb m) := by
    intro m s hs
    rw [netqmonObserve_eq hworks, hs]
  unfold twoPasses
  cases hs : sight skb hook with
  | none =>
    have hn : netqmonObserve ctx skb hook m = _ := netqmonObserve_eq hworks
    simpa [hs, handle, complete] using hn
  | some s =>
    dsimp only [handle, Sight.handled]
    cases hkd : s.kind with
    | listed =>
      unfold checked checkPolicy
      by_cases hen : m.maps.flowPolicyState.enabled = true
      · simp only [hen]
        rcases evaluateFlowPolicy ctx skb s.key m with ⟨_ | _ | _, m'⟩
        · simp [policyOnly, hobs m' s hs]
        · rfl
        · rfl
      · simp [hen, policyOnly, hobs m s hs]
    | portless => simp [policyOnly, hobs m s hs]
    | late => simp [policyOnly, hobs m s hs]
    | cutOff =>
      rw [complete_observed hworks, observed_eq]
      cases hstage : sampledStage ctx s m.maps with
      | none => exact absurd ⟨s, hs, hkd, hstage⟩ h
      | some stage =>
        have hen := enabled_of_sampledStage ctx hstage
        simp [maybeCaptureSample, hen, hworks _, complete]

/-- A cut-off frame that is not sampled is counted by both passes. -/
theorem twoPasses_unsampled (hs : sight skb hook = some s)
    (hkd : s.kind = .cutOff) (hstage : sampledStage ctx s m.maps = none) :
    twoPasses ctx skb hook true m =
      complete ctx skb (s.observed .subprograms ctx skb (counted ctx skb s m)) := by
  unfold twoPasses
  rw [hs]
  dsimp only [handle, Sight.handled]
  rw [hkd]
  rw [observed_eq, hstage]
  simp [netqmonObserve_eq hworks, hs]

theorem flowCount_complete_observed (build : Build) :
    flowCount (complete ctx skb (s.observed build ctx skb m)).2 = flowCount m + 1 := by
  rw [complete_observed hworks]
  cases sampledStage ctx s m.maps with
  | none => exact flowCount_counted ctx skb s m
  | some stage =>
    exact ((adds_captureSampleBody ctx skb stage _).flowCount_eq fun _ h => h.isFlow_eq).trans
      (flowCount_counted ctx skb s m)

end

/-! ### The same updates -/

/-- An update of the flow map, of the drop counters or of a sample budget. -/
def isCounter : Update → Bool
  | .flow .. => true
  | .policyDrop .. => true
  | .budgetCreated .. => true
  | .budgetSeen .. => true
  | .budgetPacket .. => true
  | .budgetBytes .. => true
  | .budgetSampled .. => true
  | _ => false

/-- The same action, and the same updates in any order. -/
def Agree (a b : Action × Machine) : Prop :=
  a.1 = b.1 ∧ (a.2.updates.filter isCounter).Perm (b.2.updates.filter isCounter)

instance (a b : Action × Machine) : Decidable (Agree a b) := inferInstanceAs (Decidable (_ ∧ _))

variable {a b : Action × Machine}

theorem Agree.of_eq (h : a = b) : Agree a b := h ▸ ⟨rfl, .refl _⟩

theorem Agree.flowCount_eq (h : Agree a b) : flowCount a.2 = flowCount b.2 := by
  have hfilter : ∀ m : Machine, flowCount m = (m.updates.filter isCounter).countP isFlow := by
    intro m
    rw [List.countP_filter]
    refine List.countP_congr fun u _ => ?_
    cases u <;> simp [isFlow, isCounter]
  rw [hfilter, hfilter, h.2.countP_eq]

/-- Both passes of the build without subprograms count the frame. -/
def CountedTwice (ctx : Context) (skb : SkBuff) (hook : Hook) (maps : Maps) : Prop :=
  Unsampled ctx skb hook maps ∧ ¬ (hook = .egress ∧ observedBefore maps skb)

/-- How the builds work on a frame: two passes against one, or one against one for a frame that an
observing hook has seen before. -/
theorem program_cases (hworks : Works ctx) :
    (hook = .egress ∧ observedBefore maps skb ∧
        program .tailCalls ctx skb hook maps = program .subprograms ctx skb hook maps) ∨
      ¬ (hook = .egress ∧ observedBefore maps skb) ∧
        program .subprograms ctx skb hook maps = complete ctx skb
          (handle .subprograms ctx skb .whole (start maps skb) (sight skb hook)) ∧
        program .tailCalls ctx skb hook maps = twoPasses ctx skb hook true (start maps skb) := by
  cases hook with
  | ingress =>
    exact .inr ⟨by simp, netqmonIngress_subprograms hworks, netqmonIngress_tailCalls hworks⟩
  | egress =>
    by_cases hearly : observedBefore maps skb ∧ ¬ maps.flowPolicyState.enabled
    · have hrun : ∀ build, program build ctx skb .egress maps = (.ok, start maps skb) :=
        fun build => if_pos hearly
      exact .inl ⟨rfl, hearly.1, by rw [hrun, hrun]⟩
    · have hone : netqmonEgress .subprograms ctx skb (start maps skb) = _ :=
        netqmonEgress_subprograms hworks hearly
      have htwo : netqmonEgress .tailCalls ctx skb (start maps skb) = _ :=
        netqmonEgress_tailCalls hworks hearly
      by_cases hsn : observedBefore maps skb
      · refine .inl ⟨rfl, hsn, ?_⟩
        rw [program, program, hone, htwo]
        simpa [hsn] using @onePass_eq ctx skb .egress hworks (start maps skb)
      · refine .inr ⟨by simp [hsn], ?_, ?_⟩
        · simpa [program, hsn] using hone
        · simpa [program, hsn] using htwo

/-- The builds do the same with every frame that is not counted twice. -/
theorem program_tailCalls (hworks : Works ctx) (h : ¬ CountedTwice ctx skb hook maps) :
    program .tailCalls ctx skb hook maps = program .subprograms ctx skb hook maps := by
  obtain ⟨-, -, heq⟩ | ⟨hagain, hone, htwo⟩ := program_cases hworks
  · exact heq
  · rw [hone, htwo]
    exact twoPasses_eq hworks fun hun => h ⟨hun, hagain⟩

/-- **The two builds agree** exactly on the frames that are not counted by both passes of the build
without subprograms. -/
theorem builds_agree_iff (hworks : Works ctx) (skb : SkBuff) (hook : Hook) (maps : Maps) :
    Agree (program .subprograms ctx skb hook maps) (program .tailCalls ctx skb hook maps) ↔
      ¬ CountedTwice ctx skb hook maps := by
  refine ⟨?_, fun h => .of_eq (program_tailCalls hworks h).symm⟩
  rintro hagree ⟨hun, hagain⟩
  obtain ⟨hegress, hseen, -⟩ | ⟨-, hone, htwo⟩ := program_cases hworks
  · exact hagain ⟨hegress, hseen⟩
  · rw [hone, htwo] at hagree
    -- the first pass has counted the frame as well
    obtain ⟨s, hs, hkind, hstage⟩ := hun
    have hcount := hagree.flowCount_eq
    rw [hs, handle, Sight.handled, hkind] at hcount
    rw [twoPasses_unsampled hworks hs hkind hstage, flowCount_complete_observed hworks,
      flowCount_complete_observed hworks, flowCount_counted] at hcount
    omega

/-! ### A frame on which the builds disagree -/

/-- A frame of which everything can be read directly. -/
def wholeFrame (bytes : List UInt8) (ingressIfindex ifindex : UInt32) : SkBuff :=
  ⟨bytes, bytes.length, le_rfl, 0, 0, ingressIfindex, ifindex, 0, 0⟩

/-- The address `fd00::1` of a client. -/
def clientAddress : List UInt8 := [0xfd, 0, 0, 0, 0, 0, 0, 0, 0, 0, 0, 0, 0, 0, 0, 1]

/-- The address `2001:db8::2`. -/
def remoteAddress : List UInt8 := [0x20, 0x01, 0x0d, 0xb8, 0, 0, 0, 0, 0, 0, 0, 0, 0, 0, 0, 2]

/-- An Ethernet frame with an IPv6 packet. -/
def ipv6Between (source destination : List UInt8) (nextHeader : UInt8) (payload : List UInt8) :
    List UInt8 :=
  [0x02, 0, 0, 0, 0, 0x02, 0x02, 0, 0, 0, 0, 0x01, 0x86, 0xDD,
    0x60, 0, 0, 0, 0, UInt8.ofNat payload.length, nextHeader, 64] ++ source ++ destination ++
      payload

def ipv6Frame (nextHeader : UInt8) (payload : List UInt8) : List UInt8 :=
  ipv6Between clientAddress remoteAddress nextHeader payload

def emptyMaps : Maps :=
  ⟨∅, ∅, ∅, ∅, [], ∅, fun _ => 0, 0, ⟨false, 0⟩⟩

/-- Sampling is off. -/
def unsampling : Context :=
  ⟨⟨false, 4, 1024, 4096, 65536⟩, 1000, fun _ => true, fun _ => true⟩

/-- An IPv6 packet with two bytes of a TCP header. -/
def cutOffFrame : SkBuff := wholeFrame (ipv6Frame 6 [0x1f, 0x90]) 0 2

/-- The frame with two bytes of a TCP header is counted once by one build and twice by the other. -/
theorem cutOffFrame_counted_twice :
    ¬ Agree (program .subprograms unsampling cutOffFrame .ingress emptyMaps)
        (program .tailCalls unsampling cutOffFrame .ingress emptyMaps) ∧
      flowCount (program .subprograms unsampling cutOffFrame .ingress emptyMaps).2 = 1 ∧
      flowCount (program .tailCalls unsampling cutOffFrame .ingress emptyMaps).2 = 2 := by
  decide +kernel

/-- An IPv6 packet with the ports of a TCP header. -/
def portsFrame : SkBuff := wholeFrame (ipv6Frame 6 [0x1f, 0x90, 0, 80]) 0 2

/-- Where the ports can be read, nothing is counted twice. -/
theorem builds_agree_on_portsFrame :
    Agree (program .subprograms unsampling portsFrame .ingress emptyMaps)
      (program .tailCalls unsampling portsFrame .ingress emptyMaps) := by
  refine (builds_agree_iff (fun _ => rfl) _ _ _).2 ?_
  rintro ⟨⟨s, hs, hkind, -⟩, -⟩
  have hlisted : (sight portsFrame .ingress).map Sight.kind = some .listed := by decide +kernel
  simp [hs, hkind] at hlisted

end Netqmon.Bpf.Builds
