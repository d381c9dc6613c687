import Netqmon.Collector.Policy.Publication

/-! # The audit log

Every change of a policy leaves an event with the policy before and after it. `replay` makes the
policies of a gateway from its events alone. `Records` says what one event stands for in the tables,
and `audit_log_determines_policies` that a replay gives the stored policies after every run. -/

namespace Netqmon.Collector.Policy.AuditLog

open Lib.Keyed Protocol.Policy Collector.Policy.Service Collector.Policy.Publication
open Collector.Policy.Sessions (PolicyService)

/-! ### Replaying -/

/-- A policy of a gateway. -/
def stored (t : Tables) (gatewayId id : String) : Option PolicySpecV1 :=
  match t.policies.lookup id with
  | none => none
  | some row => if row.gatewayId = gatewayId then some row.spec else none

def eventsOf (t : Tables) (gatewayId : String) : List PolicyEvent :=
  t.events.filter (·.gatewayId == gatewayId)

def apply (policies : Rows String PolicySpecV1) (event : PolicyEvent) : Rows String PolicySpecV1 :=
  match event.policyId, event.after with
  | none, _ => policies
  | some id, some spec => policies.insert id spec
  | some id, none => policies.erase id

/-- Apply the events in the order of their revisions. -/
def replay (events : List PolicyEvent) : Rows String PolicySpecV1 :=
  (events.insertionSort (·.revision ≤ ·.revision)).foldl apply ∅

/-! ### One event -/

/-- What an event says about the tables before and after it. -/
structure Records (t t' : Tables) (event : PolicyEvent) : Prop where
  events : t'.events = t.events ++ [event]
  newer : readRevision t event.gatewayId < event.revision
  revision : ∀ gatewayId, readRevision t' gatewayId =
    if gatewayId = event.gatewayId then event.revision else readRevision t gatewayId
  before : ∀ id, event.policyId = some id → event.before = stored t event.gatewayId id
  stored : ∀ gatewayId id, stored t' gatewayId id =
    if gatewayId = event.gatewayId ∧ event.policyId = some id then event.after
    else stored t gatewayId id

variable {t t' : Tables} {event : PolicyEvent}

theorem records_of_revised (hfi : Filed t) (h : Revised t t' event) : Records t t' event := by
  have hrev := Revised.readRevision hfi h
  obtain ⟨id, htl⟩ := h.tells
  obtain ⟨t₀, t₁, hba, hbu, heq⟩ := h.bumped
  have hown := hfi.own id
  refine ⟨?_, ?_, fun gw => (hrev gw).1, fun other ho => ?_,
    fun gw other => ?_⟩
  · have hevs : t₀.events = t.events := by rcases hba with rfl | ⟨rfl, -⟩ <;> rfl
    rw [heq, (bumpRevision_eq_ok hbu).2, ← hevs]
    rfl
  · have hnx := (hrev event.gatewayId).2.1
    omega
  · obtain rfl : id = other := Option.some.inj (htl.policyId.symm.trans ho)
    have hgw := htl.ofGateway
    rw [htl.before, AuditLog.stored]
    grind
  · rw [htl.policyId, htl.after, AuditLog.stored, AuditLog.stored]
    by_cases hid : other = id
    · have hgw := htl.ofGateway
      have hnew := htl.filed
      grind
    · rw [htl.others other hid, if_neg fun h => hid (Option.some.inj h.2).symm]

variable {service : PolicyService} (library : Library)

/-- **What a call leaves in the log**: nothing, and then the policies are as before, or one event. -/
theorem step_records (hfi : Filed service.tables) (call : Sessions.Event) :
    Untouched service.tables (Sessions.step library service call).tables ∨
      ∃ event, Records service.tables (Sessions.step library service call).tables event := by
  cases call with
  | session call => exact .inl (untouched_sessionStep service call)
  | mutation call =>
    unfold Sessions.step Service.step
    dsimp only
    split
    · exact .inl (untouched_of_eq rfl rfl rfl)
    · rename_i result hres
      rcases (perform_spec hres).2 with heq | ⟨event, hrevised⟩
      · rw [heq]
        exact .inl (untouched_of_eq rfl rfl rfl)
      · exact .inr ⟨event, records_of_revised hfi hrevised⟩
  | republish nowMs gw actorUserId =>
    unfold Sessions.step
    dsimp only
    split
    · exact .inl (untouched_of_eq rfl rfl rfl)
    · rename_i result hres
      obtain ⟨hlt, event, ⟨hgw, hpol, hrev⟩, heq⟩ := republish_eq_ok hres
      rw [readRevision_ensureGateway] at hlt
      refine .inr ⟨event, ?_, ?_, fun other => ?_, fun id hid => ?_, fun other id => ?_⟩
      · rw [heq]
        rfl
      · rw [hgw, hrev]
        exact hlt
      · rw [heq, readRevision_republish, hgw, hrev]
      · rw [hpol] at hid
        cases hid
      · rw [if_neg (by simp [hpol]), heq]
        rfl

/-! ### Runs -/

structure Audited (t : Tables) : Prop where
  filed : Filed t
  bounded : ∀ event ∈ t.events, event.revision ≤ readRevision t event.gatewayId
  ordered : ∀ gatewayId, (eventsOf t gatewayId).Pairwise (·.revision < ·.revision)
  replayed : ∀ gatewayId id,
    ((eventsOf t gatewayId).foldl apply ∅).lookup id = stored t gatewayId id

theorem audited_empty : Audited .empty :=
  ⟨filed_empty, fun _ hev => absurd hev List.not_mem_nil, fun _ => .nil, fun _ _ => rfl⟩

theorem Audited.untouched (h : Audited t) (hk : Untouched t t') : Audited t' where
  filed := hk.filed h.filed
  bounded event hev := by
    rw [hk.revision]
    exact h.bounded event (hk.events ▸ hev)
  ordered gatewayId := by
    rw [eventsOf, hk.events]
    exact h.ordered gatewayId
  replayed gatewayId id := by
    rw [eventsOf, hk.events, stored, hk.policies]
    exact h.replayed gatewayId id

theorem Audited.records (h : Audited t) (hfi : Filed t') (hr : Records t t' event) :
    Audited t' := by
  have heventsOf : ∀ gw, eventsOf t' gw =
      eventsOf t gw ++ if event.gatewayId = gw then [event] else [] := by
    intro gw
    rw [eventsOf, hr.events, List.filter_append]
    congr 1
    by_cases heq : event.gatewayId = gw <;> simp [heq]
  refine ⟨hfi, fun other ho => ?_, fun gw => ?_, fun gw id => ?_⟩
  · rw [hr.revision]
    have hnewer := hr.newer
    have hbd := h.bounded other
    rw [hr.events] at ho
    grind
  · rw [heventsOf, List.pairwise_append]
    refine ⟨h.ordered gw, ?_, fun old hold new hnew => ?_⟩
    · split_ifs <;> simp
    · obtain ⟨hmem, hgw⟩ := List.mem_filter.1 hold
      have hbd := h.bounded old hmem
      have hnewer := hr.newer
      grind
  · rw [heventsOf, hr.stored, ← h.replayed]
    grind [apply]

theorem audited_run (h : Audited service.tables) :
    ∀ calls, Audited (Sessions.run library service calls).tables := by
  intro calls
  induction calls generalizing service with
  | nil => exact h
  | cons call calls ih =>
    refine ih ?_
    rcases step_records library h.filed call with hk | ⟨event, hr⟩
    · exact h.untouched hk
    · exact h.records (step_advances library h.filed call).1 hr

theorem Audited.replay (h : Audited t) (gatewayId id : String) :
    (replay (eventsOf t gatewayId)).lookup id = stored t gatewayId id := by
  have hso : (eventsOf t gatewayId).insertionSort (·.revision ≤ ·.revision) =
      eventsOf t gatewayId :=
    List.Pairwise.insertionSort_eq ((h.ordered gatewayId).imp fun hlt => hlt.le)
  rw [AuditLog.replay, hso]
  exact h.replayed gatewayId id

/-- **The audit log determines the policies.** After every run from an empty database, the events of
a gateway have increasing revisions and a replay of them gives its policies. A further call leaves
no event, or one with the revision of the gateway after the call and the policy before it. -/
theorem audit_log_determines_policies (library : Library) (calls : List Sessions.Event) :
    let service := Sessions.run library ⟨.empty, ∅⟩ calls
    (∀ gatewayId, (eventsOf service.tables gatewayId).Pairwise (·.revision < ·.revision) ∧
      ∀ id, (AuditLog.replay (eventsOf service.tables gatewayId)).lookup id =
        stored service.tables gatewayId id) ∧
    ∀ call, let t' := (Sessions.step library service call).tables
      t'.events = service.tables.events ∨
        ∃ event, t'.events = service.tables.events ++ [event] ∧
          event.revision = readRevision t' event.gatewayId ∧
          ∀ id, event.policyId = some id →
            event.before = stored service.tables event.gatewayId id := by
  intro service
  have haudited : Audited service.tables := audited_run library audited_empty calls
  refine ⟨fun gatewayId => ⟨haudited.ordered gatewayId, haudited.replay gatewayId⟩,
    fun call => ?_⟩
  rcases step_records library haudited.filed call with hkept | ⟨event, hr⟩
  · exact .inl hkept.events
  · refine .inr ⟨event, hr.events, ?_, hr.before⟩
    rw [hr.revision, if_pos rfl]

end Netqmon.Collector.Policy.AuditLog
