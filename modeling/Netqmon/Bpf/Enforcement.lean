import Netqmon.Bpf.Builds

/-! # Blocks and counters

Two properties of the programs at the hooks, both for either build.

A frame that is counted under a key with ports is dropped if a block is in force for exactly that
key; the frames for which this fails are those with six IPv6 extension headers before the ports
(`blocked_dropped_iff`).

A frame that is accepted at ingress and later leaves the host is counted once. It is counted again
at egress if its TCP or UDP header is cut off behind an IPv6 header, or if it is blocked there
(`counted_once_iff`). -/

namespace Netqmon.Bpf.Enforcement

open Agent.Flow Packet Program Classify Effects Builds

variable {build : Build} {ctx : Context} {skb : SkBuff} {hook : Hook} {mode : Mode}
  {maps : Maps} {s : Sight} {m : Machine}

/-! ### A block in force -/

/-- The map holds an unexpired block of the current generation for the key. -/
structure BlockedExactly (ctx : Context) (maps : Maps) (key : FlowKey) (verdict : FlowVerdict) :
    Prop where
  found : maps.flowVerdictMap.lookup key = some verdict
  block : verdict.verdict = verdictBlock
  unexpired : ctx.now < verdict.expiresMonotonicNs
  current : verdict.policyGeneration = maps.flowPolicyState.generation

theorem BlockedExactly.blocked {key : FlowKey} {verdict : FlowVerdict}
    (h : BlockedExactly ctx maps key verdict) : Blocked ctx skb key maps := by
  have hfr : ¬ verdictOutdated ctx.now maps.flowPolicyState verdict := by
    rintro (hx | ⟨-, hold⟩)
    · exact absurd h.unexpired (by omega)
    · exact hold h.current
  exact ⟨verdict, by simp [foundVerdict, h.found, Option.filter, hfr], h.block⟩

/-- The programs drop a frame whose key is looked up and blocked, whether tail calls work or not. -/
theorem program_blocked (hs : sight skb hook = some s) (hkd : s.kind = .listed)
    (hen : maps.flowPolicyState.enabled = true) (hbl : Blocked ctx skb s.key maps) :
    (program build ctx skb hook maps).1 = .shot := by
  have hrun : ∀ build mode, checkPolicy maps build mode = true →
      ∃ m', parsePacket build ctx skb hook mode (start maps skb) = (.ret .shot, m') := by
    intro build mode hcheck
    obtain ⟨m', hm', -⟩ | ⟨-, -, hnot, -⟩ := evaluateFlowPolicy_cases ctx skb s.key (start maps skb)
    · exact ⟨m', by grind [parsePacket_eq, handle, Sight.handled, checked, start]⟩
    · exact absurd hbl hnot
  cases hook with
  | ingress =>
    cases build with
    | subprograms =>
      obtain ⟨m', hm'⟩ := hrun .subprograms .whole hen
      simp [program, netqmonIngress, hm']
    | tailCalls =>
      obtain ⟨m', hm'⟩ := hrun .tailCalls .policy (by simp [checkPolicy, hen])
      simp [program, netqmonIngress, hm', tailFinish]
  | egress =>
    cases build with
    | subprograms =>
      obtain ⟨m', hm'⟩ := hrun .subprograms .policy hen
      obtain ⟨m'', hm''⟩ := hrun .subprograms .whole hen
      by_cases hsn : observedBefore maps skb <;>
        simp [program, netqmonEgress, hen, hsn, hm', hm'']
    | tailCalls =>
      obtain ⟨m', hm'⟩ := hrun .tailCalls .policy (by simp [checkPolicy, hen])
      simp [program, netqmonEgress, hen, hm']

theorem complete_unlisted (hw : Works ctx) (hkd : s.kind ≠ .listed) :
    (complete ctx skb (s.handled .subprograms ctx skb mode m)).1 = .ok := by
  have hobs : (complete ctx skb (s.observed .subprograms ctx skb m)).1 = .ok := by
    rw [complete_observed hw]
  unfold Sight.handled
  cases hk : s.kind with
  | listed => exact absurd hk hkd
  | cutOff => exact hobs
  | portless => dsimp only; split <;> first | rfl | exact hobs
  | late => dsimp only; split <;> first | rfl | exact hobs

/-- The program at a hook looks at what a frame shows. -/
theorem program_subprograms (hw : Works ctx)
    (hsn : ¬ (hook = .egress ∧ observedBefore maps skb ∧ ¬ maps.flowPolicyState.enabled)) :
    ∃ mode, program .subprograms ctx skb hook maps =
      complete ctx skb (handle .subprograms ctx skb mode (start maps skb) (sight skb hook)) := by
  cases hook with
  | ingress => exact ⟨.whole, netqmonIngress_subprograms hw⟩
  | egress => exact ⟨_, netqmonEgress_subprograms hw fun h => hsn ⟨rfl, h⟩⟩

/-- The key under which a frame is counted has ports that were read from the frame. -/
def CountedByPorts (skb : SkBuff) (hook : Hook) (key : FlowKey) : Prop :=
  IsTransport key.protocol ∧ ∃ s, sight skb hook = some s ∧ s.PortsRead ∧ s.key = key

/-- **Blocks are enforced.** A frame that is counted by its ports is dropped by a block for exactly
its key, unless its ports lie behind six extension headers. -/
theorem blocked_dropped_iff (build : Build) (skb : SkBuff) (hook : Hook) :
    (∀ (ctx : Context) (maps : Maps) (key : FlowKey) (verdict : FlowVerdict),
      CountedByPorts skb hook key → maps.flowPolicyState.enabled = true →
        BlockedExactly ctx maps key verdict → (program build ctx skb hook maps).1 = .shot) ↔
      ¬ LongChain skb := by
  constructor
  · intro hall hlong
    obtain ⟨s, hs, hkind⟩ := (exists_late_iff).2 hlong
    have hports : s.PortsRead := .inr hkind
    -- a block for the key, and nothing else
    let verdict : FlowVerdict := ⟨1, 0, 0, 0, 0, verdictBlock⟩
    let ctx : Context := ⟨⟨false, 0, 0, 0, 0⟩, 0, fun _ => true, fun _ => true⟩
    let maps : Maps :=
      { emptyMaps with
        flowVerdictMap := AList.insert s.key verdict ∅, flowPolicyState := ⟨true, 0⟩ }
    have hworks : Works ctx := fun _ => rfl
    have hshot := hall ctx maps s.key verdict
      ⟨isTransport_of_sight hs hports, s, hs, hports, rfl⟩ rfl
      ⟨AList.lookup_insert _, rfl, Nat.one_pos, rfl⟩
    have hsame : program build ctx skb hook maps = program .subprograms ctx skb hook maps := by
      cases build with
      | subprograms => rfl
      | tailCalls =>
        refine program_tailCalls hworks ?_
        rintro ⟨⟨s', hs', hkind', -⟩, -⟩
        grind
    obtain ⟨mode, hrun⟩ :=
      @program_subprograms ctx skb hook maps hworks fun h => h.2.2 rfl
    rw [hsame, hrun, hs, handle, complete_unlisted hworks (by rw [hkind]; decide)] at hshot
    cases hshot
  · rintro hshort ctx maps key verdict ⟨-, s, hs, hports, rfl⟩ henabled hblock
    rcases hports with hkind | hkind
    · exact program_blocked hs hkind henabled hblock.blocked
    · exact absurd ((exists_late_iff).1 ⟨s, hs, hkind⟩) hshort

/-- Six empty destination options before a TCP header from port 8080 to port 80. -/
def longChainFrame : SkBuff :=
  wholeFrame (ipv6Frame 60 (
    (List.replicate 5 ([60, 0, 1, 4, 0, 0, 0, 0] : List UInt8)).flatten ++
      [6, 0, 1, 4, 0, 0, 0, 0, 0x1f, 0x90, 0, 80])) 0 2

/-- The key of the frame at ingress. -/
def longChainKey : FlowKey :=
  ⟨6, 6, 0, 1, 2, 0xfd000000000000000000000000000001, 0x20010db8000000000000000000000002, 8080, 80⟩

def longChainMaps : Maps :=
  { emptyMaps with
    flowVerdictMap := AList.insert longChainKey ⟨2000, 7, 1, 0x020000000001, 0, verdictBlock⟩ ∅
    flowPolicyState := ⟨true, 7⟩ }

/-- A blocked frame is accepted, and counted under the blocked key. -/
theorem longChainFrame_accepted :
    (sight longChainFrame .ingress).map (fun s => (s.kind, s.key)) = some (.late, longChainKey) ∧
      BlockedExactly unsampling longChainMaps longChainKey
        ⟨2000, 7, 1, 0x020000000001, 0, verdictBlock⟩ ∧
      (program .subprograms unsampling longChainFrame .ingress longChainMaps).1 = .ok ∧
      (program .subprograms unsampling longChainFrame .ingress longChainMaps).2.updates =
        [.flow longChainKey longChainFrame.len 1000 0] := by
  refine ⟨by decide +kernel, ⟨?_, rfl, by decide, rfl⟩, by decide +kernel, by decide +kernel⟩
  exact AList.lookup_insert _

/-! ### Counting a frame at two hooks -/

/-- What a program that works on the whole frame counts, if it accepts the frame. -/
theorem flowCount_whole (hw : Works ctx)
    (hok : (complete ctx skb (handle .subprograms ctx skb .whole m (sight skb hook))).1 = .ok) :
    flowCount (complete ctx skb (handle .subprograms ctx skb .whole m (sight skb hook))).2 =
      flowCount m + if (sight skb hook).isSome then 1 else 0 := by
  cases hs : sight skb hook with
  | none => rfl
  | some s =>
    rw [hs] at hok
    dsimp only [handle, Sight.handled] at hok ⊢
    cases hkd : s.kind with
    | listed =>
      rw [hkd] at hok
      unfold checked at hok ⊢
      by_cases hcheck : checkPolicy m.maps .subprograms .whole = true
      · rw [if_pos hcheck] at hok ⊢
        obtain ⟨m', hrun, -⟩ | ⟨m', hrun, -, hct⟩ := evaluateFlowPolicy_cases ctx skb s.key m
        · rw [hrun] at hok
          cases hok
        · rw [hrun]
          have hobs := @flowCount_complete_observed ctx skb s m' hw .subprograms
          simpa [policyOnly, hct] using hobs
      · rw [if_neg hcheck]
        exact flowCount_complete_observed hw .subprograms
    | portless => exact flowCount_complete_observed hw .subprograms
    | late => exact flowCount_complete_observed hw .subprograms
    | cutOff => exact flowCount_complete_observed hw .subprograms

/-- **What counts a frame that was seen before**: a cut-off header behind an IPv6 header, or a
block. -/
def CountedAgain (ctx : Context) (skb : SkBuff) (maps : Maps) : Prop :=
  ∃ s, sight skb .egress = some s ∧
    (s.kind = .cutOff ∨ s.kind = .listed ∧ Blocked ctx skb s.key maps)

open Classical in
/-- A program that should only look for verdicts counts the frames that it should not. -/
theorem flowCount_policy (hw : Works ctx) (hen : m.maps.flowPolicyState.enabled = true) :
    flowCount (complete ctx skb (handle .subprograms ctx skb .policy m (sight skb .egress))).2 =
      flowCount m + if CountedAgain ctx skb m.maps then 1 else 0 := by
  cases hs : sight skb .egress with
  | none =>
    rw [if_neg (by rintro ⟨s, hs', -⟩; rw [hs] at hs'; cases hs')]
    rfl
  | some s =>
    have hiff : CountedAgain ctx skb m.maps ↔
        s.kind = .cutOff ∨ s.kind = .listed ∧ Blocked ctx skb s.key m.maps := by
      constructor
      · rintro ⟨s', hs', h⟩
        grind
      · exact fun h => ⟨s, hs, h⟩
    dsimp only [handle, Sight.handled]
    cases hkd : s.kind with
    | listed =>
      unfold checked
      rw [if_pos (show checkPolicy m.maps .subprograms .policy = true from hen)]
      obtain ⟨m', hrun, hbl, hct⟩ | ⟨m', hrun, hbl, hct⟩ :=
        evaluateFlowPolicy_cases ctx skb s.key m
      · rw [hrun, if_pos (hiff.2 (.inr ⟨hkd, hbl⟩))]
        exact hct
      · have hnot : ¬ CountedAgain ctx skb m.maps := by rw [hiff, hkd]; simp [hbl]
        rw [hrun, if_neg hnot]
        exact hct
    | portless =>
      have hnot : ¬ CountedAgain ctx skb m.maps := by rw [hiff, hkd]; simp
      rw [if_neg hnot]
      rfl
    | late =>
      have hnot : ¬ CountedAgain ctx skb m.maps := by rw [hiff, hkd]; simp
      rw [if_neg hnot]
      rfl
    | cutOff => grind [flowCount_complete_observed]

open Classical in
theorem flowCount_ingress (hw : Works ctx) (hok : (program build ctx skb .ingress maps).1 = .ok) :
    flowCount (program build ctx skb .ingress maps).2 =
      (if (sight skb .ingress).isSome then 1 else 0) +
        if build = .tailCalls ∧ Unsampled ctx skb .ingress maps then 1 else 0 := by
  have hone : netqmonIngress .subprograms ctx skb (start maps skb) = _ :=
    netqmonIngress_subprograms hw
  cases build with
  | subprograms =>
    rw [program, hone] at hok ⊢
    simpa using flowCount_whole hw hok
  | tailCalls =>
    by_cases hun : Unsampled ctx skb .ingress maps
    · have hagain := hun
      obtain ⟨s, hs, hkd, hstage⟩ := hagain
      rw [program, netqmonIngress_tailCalls hw, twoPasses_unsampled hw hs hkd hstage,
        flowCount_complete_observed hw, flowCount_counted]
      simp [hs, hun]
    · rw [program_tailCalls hw fun h => hun h.1, program, hone] at hok ⊢
      simp [flowCount_whole hw hok, hun]

open Classical in
theorem flowCount_egress (hw : Works ctx) (hsn : observedBefore maps skb) :
    flowCount (program build ctx skb .egress maps).2 =
      if maps.flowPolicyState.enabled = true ∧ CountedAgain ctx skb maps then 1 else 0 := by
  have hsm : program build ctx skb .egress maps = program .subprograms ctx skb .egress maps := by
    cases build with
    | subprograms => rfl
    | tailCalls => exact program_tailCalls hw fun h => h.2 ⟨rfl, hsn⟩
  rw [hsm]
  by_cases hen : maps.flowPolicyState.enabled = true
  · rw [program, netqmonEgress_subprograms hw (by simp [hen])]
    have hct := @flowCount_policy ctx skb (start maps skb) hw hen
    by_cases hagain : CountedAgain ctx skb maps <;> simpa [hsn, hen, hagain] using hct
  · have hrun : program .subprograms ctx skb .egress maps = (.ok, start maps skb) :=
      if_pos ⟨hsn, hen⟩
    rw [hrun, if_neg fun h => hen h.1]
    rfl

variable {ctx₁ ctx₂ : Context} {skb₁ skb₂ : SkBuff} {maps₁ maps₂ : Maps}

/-- **A frame is counted once** at the hooks that it passes, the frame and the maps being what they
are at each of them, exactly if
* it is not counted at ingress at all, or verdicts are not consulted at egress, or it is neither
  blocked there nor cut off before its ports, and
* in the build without subprograms, it is not cut off before its ports at ingress either, unless it
  is sampled. -/
theorem counted_once_iff (build : Build) (hworks₁ : Works ctx₁) (hworks₂ : Works ctx₂)
    (hok : (program build ctx₁ skb₁ .ingress maps₁).1 = .ok) (hifindex : skb₁.ifindex ≠ 0)
    (hingress : skb₂.ingressIfindex = skb₁.ifindex)
    (hobserved : skb₁.ifindex ∈ maps₂.observedIfindexes) :
    flowCount (program build ctx₁ skb₁ .ingress maps₁).2 +
        flowCount (program build ctx₂ skb₂ .egress maps₂).2 ≤ 1 ↔
      ((sight skb₁ .ingress).isSome → ¬ (maps₂.flowPolicyState.enabled = true ∧
          CountedAgain ctx₂ skb₂ maps₂)) ∧
        ¬ (build = .tailCalls ∧ Unsampled ctx₁ skb₁ .ingress maps₁) := by
  have hseen : observedBefore maps₂ skb₂ := by grind [observedBefore]
  rw [flowCount_ingress hworks₁ hok, flowCount_egress hworks₂ hseen]
  -- a frame that is counted twice at ingress is counted there
  have hsome : Unsampled ctx₁ skb₁ .ingress maps₁ → (sight skb₁ .ingress).isSome := by
    rintro ⟨s, hs, -⟩
    rw [hs]
    rfl
  split_ifs <;> simp_all

/-! ### Frames that are counted at both hooks -/

/-- An IPv6 packet with a TCP header, at the hooks of two interfaces. -/
def forwardedFrame (ingressIfindex ifindex : UInt32) : SkBuff :=
  wholeFrame (ipv6Frame 6 [0x1f, 0x90, 0, 80]) ingressIfindex ifindex

/-- Interface 2 is observed and verdicts are consulted; interface 3 has a block for the flow. -/
def egressBlockMaps : Maps :=
  { emptyMaps with
    flowVerdictMap := AList.insert { longChainKey with hook := 2, ifindex := 3 }
      ⟨2000, 7, 1, 0x020000000001, 0, verdictBlock⟩ ∅
    observedIfindexes := [2]
    flowPolicyState := ⟨true, 7⟩ }

/-- A frame that is only blocked at egress is counted at both hooks, and so is one whose TCP header
is cut off. -/
theorem forwardedFrame_counted_twice :
    ((program .subprograms unsampling (forwardedFrame 0 2) .ingress egressBlockMaps).1 = .ok ∧
      flowCount (program .subprograms unsampling (forwardedFrame 0 2) .ingress egressBlockMaps).2 +
        flowCount (program .subprograms unsampling (forwardedFrame 2 3) .egress egressBlockMaps).2 =
          2) ∧
    (program .subprograms unsampling cutOffFrame .ingress egressBlockMaps).1 = .ok ∧
      flowCount (program .subprograms unsampling cutOffFrame .ingress egressBlockMaps).2 +
        flowCount (program .subprograms unsampling (wholeFrame (ipv6Frame 6 [0x1f, 0x90]) 2 3)
          .egress egressBlockMaps).2 = 2 := by
  decide +kernel

/-- Without the block the frame is counted once. -/
theorem forwardedFrame_counted_once :
    flowCount (program .subprograms unsampling (forwardedFrame 0 2) .ingress emptyMaps).2 +
      flowCount (program .subprograms unsampling (forwardedFrame 2 3) .egress
        { egressBlockMaps with flowVerdictMap := ∅ }).2 ≤ 1 := by
  refine (counted_once_iff .subprograms (fun _ => rfl) (fun _ => rfl) (by decide +kernel)
    (by decide +kernel) rfl (by decide +kernel)).2 ⟨?_, by simp⟩
  rintro - ⟨-, s, hs, hagain⟩
  have hfound : (sight (forwardedFrame 2 3) .egress).map (fun s => (s.kind,
      foundVerdict unsampling (forwardedFrame 2 3) s.key
        { egressBlockMaps with flowVerdictMap := ∅ })) = some (.listed, none) := by decide +kernel
  rw [hs] at hfound
  obtain ⟨hkind, hnone⟩ := Prod.mk.inj (Option.some.inj hfound)
  rcases hagain with hcut | ⟨-, verdict, hv, -⟩
  · rw [hkind] at hcut
    cases hcut
  · cases hv

end Netqmon.Bpf.Enforcement
