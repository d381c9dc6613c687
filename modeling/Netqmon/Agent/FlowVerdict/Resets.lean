import Netqmon.Agent.FlowVerdict.Operations

/-! # A reset fails closed

A reset disables enforcement, empties both maps and writes the state it was asked for. Each of its
operations may fail; the second write enables enforcement only if nothing has failed before. -/

namespace Netqmon.Agent.FlowVerdict.Resets

open Lib.FaultMap Model Operations

variable (w : FlowVerdictWriter) (generation : ℕ) (enabled : Bool)

/-- What has failed before the second write of the policy state. -/
def errorsBefore : List String :=
  (writePolicyState w.policyStateMap false generation).1
    ++ (w.verdictMap.sweep w.verdictMap.entries.keys).1.map ("clear BPF flow verdict: " ++ ·)
    ++ (w.endpointMap.sweep w.endpointMap.entries.keys).1.map ("clear BPF endpoint block: " ++ ·)

def secondWrite : List String × Table Unit PolicyStateValue :=
  writePolicyState (writePolicyState w.policyStateMap false generation).2
    (enabled && (errorsBefore w generation).isEmpty) generation

/-- The reset comes to its writes of the policy state. -/
def Reached : Prop := w.ready = true ∧ w.available = true

def FirstWritten : Prop := Reached w ∧ (writePolicyState w.policyStateMap false generation).1 = []

def SecondWritten : Prop := Reached w ∧ (secondWrite w generation enabled).1 = []

/-- Enforcement is enabled: the packet program applies the verdicts it finds. -/
def Enforcing : Prop := ∃ state, w.policyStateMap.get () = some state ∧ state.enabled = true

variable {w generation enabled}

theorem reset_eq (h : Reached w) :
    reset w generation enabled =
      (if (errorsBefore w generation ++ (secondWrite w generation enabled).1).isEmpty then .ok ()
        else .error ("; ".intercalate
          (errorsBefore w generation ++ (secondWrite w generation enabled).1)),
        { w with
          verdictMap := (w.verdictMap.sweep w.verdictMap.entries.keys).2
          endpointMap := (w.endpointMap.sweep w.endpointMap.entries.keys).2
          policyStateMap := (secondWrite w generation enabled).2
          blockClaims := BlockClaims.empty }) := by
  unfold reset
  rw [h.1, h.2]
  rfl

/-- A write that succeeds is there; one that fails leaves at most what was there. -/
theorem writePolicyState_cases (map : Table Unit PolicyStateValue) (s : Bool) (generation : ℕ) :
    let written := writePolicyState map s generation
    written.1 = [] ∧ written.2.get () = some ⟨s, generation⟩ ∨
      written.1 ≠ [] ∧ Shrinks map written.2 := by
  have hcs := put_cases map () (some ⟨s, generation⟩)
  simp only [Table.put] at hcs
  unfold writePolicyState
  rcases hup : map.update () ⟨s, generation⟩ with ⟨_ | _, map'⟩
  · rw [hup] at hcs
    exact .inr ⟨List.cons_ne_nil _ _, (hcs.resolve_right fun h => by cases h.1).2⟩
  · rw [hup] at hcs
    obtain ⟨⟨_, h⟩, -⟩ | ⟨-, hput, -⟩ := hcs
    · cases h
    · exact .inl ⟨rfl, hput⟩

theorem sweep_spec {K V : Type} [DecidableEq K] (keys : List K) (m : Table K V) :
    Shrinks m (m.sweep keys).2 ∧
      ((m.sweep keys).1 = [] → ∀ key ∈ keys, (m.sweep keys).2.get key = none) := by
  induction keys generalizing m with
  | nil => exact ⟨.refl m, by simp⟩
  | cons first keys ih =>
    have hcs := put_cases m first none
    unfold Table.put at hcs
    unfold Table.sweep
    rcases hdel : m.delete first with ⟨_ | _, m'⟩
    · rw [hdel] at hcs
      exact ⟨(hcs.resolve_right fun h => by cases h.1).2.trans (ih m').1, by simp⟩
    · rw [hdel] at hcs
      obtain ⟨⟨_, h⟩, -⟩ | ⟨-, hgo, ho⟩ := hcs
      · cases h
      have hshr : Shrinks m m' := fun key => by
        by_cases hkey : key = first
        · exact .inr (hkey ▸ hgo)
        · exact ho key hkey
      refine ⟨hshr.trans (ih m').1, fun hok key hmem => ?_⟩
      rcases List.mem_cons.1 hmem with rfl | hmem
      · exact ((ih m').1 key).elim (fun heq => heq.trans hgo) id
      · exact (ih m').2 hok key hmem

theorem sweep_empty {K V : Type} [DecidableEq K] {m : Table K V}
    (h : (m.sweep m.entries.keys).1 = []) (key : K) : (m.sweep m.entries.keys).2.get key = none := by
  obtain ⟨hshr, hgo⟩ := sweep_spec m.entries.keys m
  by_cases hkey : key ∈ m.entries.keys
  · exact hgo h key hkey
  · exact (hshr key).elim (fun heq => heq.trans (AList.lookup_eq_none.2 hkey)) id

/-- Without an error before the second write both maps are empty. -/
theorem empty_of_errorsBefore (h : errorsBefore w generation = []) :
    (∀ key, (w.verdictMap.sweep w.verdictMap.entries.keys).2.get key = none) ∧
      ∀ key, (w.endpointMap.sweep w.endpointMap.entries.keys).2.get key = none := by
  obtain ⟨hbef, hes⟩ := List.append_eq_nil_iff.1 h
  obtain ⟨-, hverd⟩ := List.append_eq_nil_iff.1 hbef
  exact ⟨sweep_empty (List.map_eq_nil_iff.1 hverd), sweep_empty (List.map_eq_nil_iff.1 hes)⟩

/-- Enforcement is enabled after a reset one of whose writes succeeded only if nothing failed before
the second one. -/
theorem errorsBefore_of_enforcing
    (hwr : FirstWritten w generation ∨ SecondWritten w generation enabled)
    (h : Enforcing (reset w generation enabled).2) : errorsBefore w generation = [] := by
  have hreached : Reached w := hwr.elim And.left And.left
  rw [reset_eq hreached] at h
  obtain ⟨s, hst, hen⟩ := h
  rcases writePolicyState_cases (writePolicyState w.policyStateMap false generation).2
    (enabled && (errorsBefore w generation).isEmpty) generation with ⟨-, hsnd⟩ | ⟨hfailed, hshr⟩
  · cases hst.symm.trans hsnd
    exact List.isEmpty_iff.1 (Bool.and_eq_true_iff.1 hen).2
  · have hfst := (hwr.resolve_right fun h => hfailed h.2).2
    rcases writePolicyState_cases w.policyStateMap false generation with ⟨-, hdis⟩ | ⟨hnot, -⟩
    · rcases hshr () with hsm | hn
      · cases hst.symm.trans (hsm.trans hdis)
        cases hen
      · cases hst.symm.trans hn
    · exact absurd hfst hnot

/-- **A reset fails closed.** If it succeeds, the maps and the registry are empty and the state is as
asked for. If it fails and its second write succeeded, enforcement is disabled. If one of its writes
succeeded and enforcement is enabled, no verdict and no endpoint block of before is left. -/
theorem reset_fails_closed (w : FlowVerdictWriter) (generation : ℕ) (enabled : Bool) :
    let result := reset w generation enabled
    (result.1 = .ok () →
        (∀ key, result.2.verdictMap.get key = none) ∧ (∀ key, result.2.endpointMap.get key = none) ∧
        result.2.blockClaims = BlockClaims.empty ∧
        result.2.policyStateMap.get () = some ⟨enabled, generation⟩) ∧
      (∀ error, result.1 = .error error → SecondWritten w generation enabled → ¬ Enforcing result.2) ∧
      (FirstWritten w generation ∨ SecondWritten w generation enabled → Enforcing result.2 →
        (∀ key verdict, w.verdictMap.get key = some verdict → result.2.verdictMap.get key = none) ∧
        ∀ key block, w.endpointMap.get key = some block → result.2.endpointMap.get key = none) := by
  intro result
  refine ⟨fun hok => ?_, fun error herror hsecond henforcing => ?_, fun hwritten henforcing => ?_⟩
  · have hreached : Reached w := by
      by_contra hnot
      unfold Reached at hnot
      unfold result reset at hok
      split_ifs at hok
      simp_all
    unfold result at hok ⊢
    rw [reset_eq hreached] at hok ⊢
    have hnone := List.isEmpty_iff.1 (by_contra fun hnot => by rw [if_neg hnot] at hok; cases hok)
    obtain ⟨hbefore, hsecond⟩ := List.append_eq_nil_iff.1 hnone
    obtain ⟨hverdicts, hendpoints⟩ := empty_of_errorsBefore hbefore
    rcases writePolicyState_cases (writePolicyState w.policyStateMap false generation).2
      (enabled && (errorsBefore w generation).isEmpty) generation with ⟨-, hstate⟩ | ⟨hfailed, -⟩
    · refine ⟨hverdicts, hendpoints, rfl, hstate.trans ?_⟩
      rw [hbefore, List.isEmpty_nil, Bool.and_true]
    · exact absurd hsecond hfailed
  · have hbefore := errorsBefore_of_enforcing (.inr hsecond) henforcing
    unfold result at herror
    rw [reset_eq hsecond.1, hbefore, hsecond.2] at herror
    cases herror
  · have hbefore := errorsBefore_of_enforcing hwritten henforcing
    unfold result
    rw [reset_eq (hwritten.elim And.left And.left)]
    obtain ⟨hverdicts, hendpoints⟩ := empty_of_errorsBefore hbefore
    exact ⟨fun key _ _ => hverdicts key, fun key _ _ => hendpoints key⟩

end Netqmon.Agent.FlowVerdict.Resets
