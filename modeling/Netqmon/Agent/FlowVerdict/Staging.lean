import Netqmon.Agent.FlowVerdict.Operations

/-! # Staged updates of the verdict map

`installOwnedBlock` and `clearAliases` share one shape: read every alias, decide on its claims and
its next value, write all next values, store all claims. This module says once what the reading
part (`stage_ok`) and the writing part (`commit_spec`) do to the map, with arbitrary faults, and
without faults (`stage_calm`, `commit_calm`). -/

namespace Netqmon.Agent.FlowVerdict.Staging

open Agent.Flow Lib.FaultMap Model

variable {registry : BlockClaims} {readError : String} {decision : Decision}

/-- The running claim count after the staged aliases. -/
def stagedCount (registry : BlockClaims) : List Staged → ℕ → ℕ
  | [], count => count
  | s :: rest, count =>
    stagedCount registry rest (count - (registry.at s.key).length + s.claims.length)

/-! ### Reading -/

theorem shrinks_stage :
    ∀ (keys : List FlowKey) (count : ℕ) (map : Table FlowKey VerdictValue),
      Shrinks map (stage registry readError decision keys count map).2
  | [], _, map => Shrinks.refl map
  | key :: rest, count, map => by
    have hlook := shrinks_lookup map key
    unfold stage
    rcases hl : map.lookup key with ⟨error | prev, map'⟩ <;> rw [hl] at hlook
    · exact hlook
    · rcases hd : decision key (registry.at key) prev with error | ⟨claims, next⟩
      · simp only [hd]; exact hlook
      · have hr := shrinks_stage rest (count - (registry.at key).length + claims.length) map'
        simp only [hd]
        split
        · rename_i h; rw [h] at hr; exact hlook.trans hr
        · rename_i h; rw [h] at hr; exact hlook.trans hr

/-- What a completed reading pass has recorded. -/
structure StagedFrom (registry : BlockClaims) (decision : Decision) (keys : List FlowKey)
    (map map' : Table FlowKey VerdictValue) (staged : List Staged) : Prop where
  keys_eq : staged.map (·.key) = keys
  decided : ∀ s ∈ staged, decision s.key (registry.at s.key) s.previous = .ok (s.claims, s.next)
  previous_eq : ∀ s ∈ staged, s.previous = map.get s.key ∨ s.previous = none
  current : ∀ s ∈ staged, map'.get s.key = s.previous ∨ map'.get s.key = none
  shrinks : Shrinks map map'

theorem stage_ok :
    ∀ (keys : List FlowKey) (count : ℕ) (map map' : Table FlowKey VerdictValue)
      (staged : List Staged) (total : ℕ),
      stage registry readError decision keys count map = (.ok (staged, total), map') →
      StagedFrom registry decision keys map map' staged ∧ total = stagedCount registry staged count
  | [], count, map, map', staged, total, h => by
    obtain ⟨⟨rfl, rfl⟩, rfl⟩ := h
    exact ⟨⟨rfl, by simp, by simp, by simp, Shrinks.refl map⟩, rfl⟩
  | key :: rest, count, map, map', staged, total, h => by
    have hlook := shrinks_lookup map key
    have hget := fun v => @lookup_ok _ _ _ map key v
    unfold stage at h
    rcases hl : map.lookup key with ⟨error | previous, map1⟩ <;> simp only [hl] at h hlook hget
    · simp at h
    have hpr : map1.get key = previous := hget previous rfl
    rcases hd : decision key (registry.at key) previous with error | ⟨claims, next⟩ <;>
      simp only [hd] at h
    · simp at h
    rcases hs : stage registry readError decision rest
        (count - (registry.at key).length + claims.length) map1 with ⟨error | ⟨staged1, total1⟩, map2⟩
      <;> simp only [hs, Prod.mk.injEq, Except.ok.injEq, reduceCtorEq, false_and] at h
    obtain ⟨⟨rfl, rfl⟩, rfl⟩ := h
    obtain ⟨hst, htot⟩ := stage_ok rest _ map1 map2 staged1 total1 hs
    refine ⟨⟨by simp [hst.keys_eq], ?_, ?_, ?_, hlook.trans hst.shrinks⟩, htot⟩
    · intro s hmem
      rcases List.mem_cons.1 hmem with rfl | hmem
      · exact hd
      · exact hst.decided s hmem
    · intro s hmem
      rcases List.mem_cons.1 hmem with rfl | hmem
      · exact hpr ▸ hlook key
      · rcases hst.previous_eq s hmem with h | h
        · rw [h]; exact hlook s.key
        · exact .inr h
    · intro s hmem
      rcases List.mem_cons.1 hmem with rfl | hmem
      · exact hpr ▸ hst.shrinks key
      · exact hst.current s hmem

/-! ### Writing -/

variable {map map' : Table FlowKey VerdictValue}

variable {updates : List (FlowKey × Option VerdictValue × Option VerdictValue)}

theorem applyVerdictUpdates_fst (h : applyVerdictUpdates map updates = (.ok (), map')) :
    (map.transact updates []).1 = .ok () ∧ (map.transact updates []).2 = map' := by
  unfold applyVerdictUpdates at h
  split at h
  · grind
  · simp at h

theorem applyVerdictUpdates_snd :
    (applyVerdictUpdates map updates).2 = (map.transact updates []).2 := by
  unfold applyVerdictUpdates
  split <;> simp_all

variable {staged : List Staged}

theorem mem_stagedUpdates {key : FlowKey}
    {prev next : Option VerdictValue} (h : (key, prev, next) ∈ stagedUpdates staged) :
    ∃ s ∈ staged, s.key = key ∧ s.previous = prev ∧ s.next = next := by
  simp only [stagedUpdates, List.mem_map, Prod.mk.injEq] at h
  exact h

/-- After a completed write every staged key holds its next value, unless deleted meanwhile. -/
structure CommittedTo (keys : List FlowKey) (map map' : Table FlowKey VerdictValue)
    (staged : List Staged) : Prop where
  written : ∀ s ∈ staged, map'.get s.key = s.next ∨ map'.get s.key = none
  others : ∀ key, key ∉ keys → map'.get key = map.get key ∨ map'.get key = none

variable {keys : List FlowKey}

theorem stagedUpdates_keys (hst : StagedFrom registry decision keys map map' staged) :
    (stagedUpdates staged).map Prod.fst = keys := by
  rw [← hst.keys_eq]
  simp [stagedUpdates]

variable {map1 : Table FlowKey VerdictValue}

theorem commit_spec {map2 : Table FlowKey VerdictValue} (hnd : keys.Nodup)
    (hst : StagedFrom registry decision keys map map1 staged)
    (hap : applyVerdictUpdates map1 (stagedUpdates staged) = (.ok (), map2)) :
    CommittedTo keys map map2 staged := by
  obtain ⟨hok, rfl⟩ := applyVerdictUpdates_fst hap
  have hks := stagedUpdates_keys hst
  obtain ⟨hstg, ho⟩ := transact_ok_staged _ _ _ (hks ▸ hnd) hok
  refine ⟨fun s hs => ?_, fun key hnot => ?_⟩
  · exact hstg s.key s.previous s.next (List.mem_map.2 ⟨s, hs, rfl⟩) (hst.current s hs)
  · rcases ho key (hks ▸ hnot) with h | h
    · rw [h]; exact hst.shrinks key
    · exact .inr h

/-- A property of all entries survives staging and writing, if each decision keeps it. -/
theorem holds_commit {P : FlowKey → VerdictValue → Prop}
    (hst : StagedFrom registry decision keys map map1 staged) (hm : Holds P map)
    (hdec : ∀ key ∈ keys, ∀ prev claims next,
      decision key (registry.at key) prev = .ok (claims, next) →
      (∀ v, prev = some v → P key v) → ∀ v, next = some v → P key v) :
    Holds P (applyVerdictUpdates map1 (stagedUpdates staged)).2 := by
  rw [applyVerdictUpdates_snd]
  refine holds_transact _ _ _ (hst.shrinks.holds hm) (by simp) fun key prev next hmem => ?_
  obtain ⟨s, hs, rfl, rfl, rfl⟩ := mem_stagedUpdates hmem
  have hpr : ∀ v, s.previous = some v → P s.key v := by
    intro v hv
    rcases hst.previous_eq s hs with h | h
    · exact hm s.key v (h ▸ hv)
    · rw [h] at hv; cases hv
  have hkey : s.key ∈ keys := hst.keys_eq ▸ List.mem_map_of_mem hs
  exact ⟨hpr, hdec s.key hkey s.previous s.claims s.next (hst.decided s hs) hpr⟩

/-! ### Without faults -/

theorem stage_calm {map : Table FlowKey VerdictValue} (hc : Calm map) :
    ∀ (keys : List FlowKey) (count : ℕ),
      (stage registry readError decision keys count map).2 = map ∧
      ∀ staged total, (stage registry readError decision keys count map).1 = .ok (staged, total) →
        ∀ s ∈ staged, s.previous = map.get s.key
  | [], _ => ⟨rfl, by rintro staged total h; cases h; simp⟩
  | key :: rest, count => by
    unfold stage
    simp only [lookup_calm hc]
    rcases hd : decision key (registry.at key) (map.get key) with error | ⟨claims, next⟩
    · exact ⟨rfl, by rintro staged total h; cases h⟩
    · obtain ⟨hmap, hpr⟩ := stage_calm hc rest
        (count - (registry.at key).length + claims.length)
      grind

theorem stage_calm_eq {count : ℕ} {r : Except String (List Staged × ℕ)} (hc : Calm map)
    (hs : stage registry readError decision keys count map = (r, map')) : map' = map := by
  have h : (stage registry readError decision keys count map).2 = map :=
    (stage_calm hc keys count).1
  rwa [hs] at h

theorem commit_calm (hc : Calm map) (hnd : keys.Nodup)
    (hst : StagedFrom registry decision keys map map staged)
    (hpr : ∀ s ∈ staged, s.previous = map.get s.key) :
    (applyVerdictUpdates map (stagedUpdates staged)).1 = .ok () ∧
      Calm (applyVerdictUpdates map (stagedUpdates staged)).2 ∧
      (∀ s ∈ staged, (applyVerdictUpdates map (stagedUpdates staged)).2.get s.key = s.next) ∧
      ∀ key, key ∉ keys →
        (applyVerdictUpdates map (stagedUpdates staged)).2.get key = map.get key := by
  have hks := stagedUpdates_keys hst
  obtain ⟨hok, hcm, hstg, ho⟩ := transact_calm (stagedUpdates staged) [] map hc
    (hks ▸ hnd) fun key prev next hmem => by grind [mem_stagedUpdates]
  rw [applyVerdictUpdates_snd]
  refine ⟨?_, hcm, fun s hs => ?_, fun key hnot => ho key (hks ▸ hnot)⟩
  · grind [applyVerdictUpdates]
  · exact hstg s.key s.previous s.next (List.mem_map.2 ⟨s, hs, rfl⟩)

end Netqmon.Agent.FlowVerdict.Staging
