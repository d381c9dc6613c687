import Netqmon.Agent.Executor.Report

/-! # Which policies are enforced

`isEnforced` and `isUndisturbed` say, of a policy, the topology and the clock alone, when the policy
is a candidate for enforcement and when its result stays "applied" once its clients are worked
through. -/

namespace Netqmon.Agent.Executor.Enforcement

open Executor.Topology Plan Visits Report Protocol.Policy

variable {idents : ClientAddresses}

/-! ### Which policies take effect -/

section

variable (topology : PolicyTopology) (intervals : List PolicyScheduleIntervals) (validUntilMs : ℤ)
  (now : Option ℤ) (policy : PolicySnapshotEntry)

def isApplicationLimit : Bool :=
  isApplicationPolicy policy && isLimit policy && !policy.spec.selectors.clients.isEmpty
    && policy.spec.network.scope == "internet" && policy.spec.network.direction == "both"
    && topology.capabilities.applicationLimit != .unsupported

/-- A client policy that the topology supports and whose schedule, if any, is known. -/
def isPlannable : Bool :=
  !(isLimit policy && topology.capabilities.clientLimit == .unsupported)
    && !(policy.spec.schedule.isSome && intervals.all (·.policyId != policy.id))

/-- The policy is enforced now: an enabled application limit, or an enabled client policy whose
schedule is active. -/
def isEnforced : Bool :=
  policy.spec.enabled &&
    if isClientPolicyShape policy then
      isPlannable topology intervals policy
        && evaluate policy intervals now validUntilMs == .active
    else isApplicationLimit topology policy

/-- The policy is in order as far as its clients do not matter. -/
def isInOrder : Bool :=
  policy.spec.enabled &&
    if isClientPolicyShape policy then
      isPlannable topology intervals policy
        && (evaluate policy intervals now validUntilMs == .active
          || evaluate policy intervals now validUntilMs == .inactive)
    else
      isApplicationLimit topology policy
        || (isApplicationPolicy policy && !isLimit policy
          && topology.capabilities.applicationBlock != .unsupported)

theorem classify_enforced :
    (classify topology intervals validUntilMs now policy).2 =
      isEnforced topology intervals validUntilMs now policy := by
  unfold classify isEnforced classifyApplication isPlannable isApplicationLimit
  cases policy.spec.enabled
  · rfl
  cases isClientPolicyShape policy
  · grind
  · simp only [Bool.not_true, Bool.false_eq_true, if_false]
    split_ifs with h1 h2
    · simp [h1]
    · simp [h2]
    · grind

theorem classify_inOrder :
    (classify topology intervals validUntilMs now policy).1.status = .applied ↔
      isInOrder topology intervals validUntilMs now policy = true := by
  unfold classify isInOrder classifyApplication isPlannable isApplicationLimit
  cases policy.spec.enabled
  · simp [result]
  cases isClientPolicyShape policy
  · split_ifs with h1 h2 <;> simp_all [result, unsupportedResult]
  · simp only [Bool.not_true, Bool.false_eq_true, if_false]
    split_ifs with h1 h2
    · simp [h1, unsupportedResult, result]
    · simp [h2, result]
    · grind [result]

/-! ### Which results stay applied -/

variable {policy} {mac : String}

theorem identityStep_found (h : found idents mac = true) (entry : PolicyResult) :
    identityStep idents policy entry mac = entry := by
  unfold found at h
  unfold identityStep
  split
  · rfl
  · grind [Except.toBool]

theorem identityStep_not_found (h : found idents mac = false) (e : PolicyResult) :
    (identityStep idents policy e mac).status ≠ .applied := by
  unfold found at h
  unfold identityStep
  split
  · grind [Except.toBool]
  · unfold identityFailure
    dsimp only
    split_ifs <;> decide

theorem identityResult_applied {entry : PolicyResult} (happ : entry.status = .applied) :
    (identityResult idents policy entry).status = .applied ↔
      ∀ mac ∈ policy.spec.selectors.clients, found idents mac = true := by
  constructor
  · intro h mac hmac
    by_contra hnot
    refine absurd h ?_
    have hfo : (policy.spec.selectors.clients.foldl (identityStep idents policy)
        entry).status ≠ .applied := by
      refine foldl_reaches (Q := fun e : PolicyResult => e.status ≠ .applied) ?_ hmac
        (identityStep_not_found (Bool.eq_false_iff.2 hnot)) entry
      intro e other he
      by_cases ho : found idents other = true
      · rwa [identityStep_found ho]
      · exact identityStep_not_found (Bool.eq_false_iff.2 ho) e
    unfold identityResult
    dsimp only
    split_ifs
    · exact PolicyResultStatus.noConfusion
    · exact hfo
  · intro hall
    have hfo : policy.spec.selectors.clients.foldl (identityStep idents policy) entry =
        entry :=
      List.foldlRecOn policy.spec.selectors.clients _ (motive := (· = entry)) rfl
        fun e he mac hmac => (identityStep_found (hall mac hmac) e).trans he
    have hn : policy.spec.selectors.clients.any (!found idents ·) = false := by
      simpa using hall
    grind [identityResult]

/-- The result of the policy is not degraded by its clients. -/
def isUndisturbed (policy : PolicySnapshotEntry) : Bool :=
  isInOrder topology intervals validUntilMs now policy
    && (!isEnforced topology intervals validUntilMs now policy
      || policy.spec.selectors.clients.all (found (.fromNeighbors topology.neighborBindings)))

theorem enforced_inOrder (h : isEnforced topology intervals validUntilMs now policy = true) :
    isInOrder topology intervals validUntilMs now policy = true := by
  unfold isEnforced at h
  unfold isInOrder
  rw [Bool.and_eq_true] at h ⊢
  refine ⟨h.1, ?_⟩
  have h2 := h.2
  split_ifs at h2 ⊢
  · grind
  · rw [h2, Bool.true_or]

theorem settledResult_applied :
    (settledResult intervals validUntilMs now topology policy).status = .applied ↔
      isUndisturbed topology intervals validUntilMs now policy = true := by
  unfold settledResult isUndisturbed
  dsimp only
  rw [classify_enforced]
  by_cases henf : isEnforced topology intervals validUntilMs now policy = true
  · have hor := enforced_inOrder topology intervals validUntilMs now henf
    grind [identityResult_applied, classify_inOrder]
  · grind [classify_inOrder]

end

end Netqmon.Agent.Executor.Enforcement
