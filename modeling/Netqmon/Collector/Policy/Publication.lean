import Netqmon.Collector.Policy.Admission
import Netqmon.Collector.Policy.Hub
import Netqmon.Collector.Policy.Sessions

/-! # Publishing snapshots

`refresh_gateway` reads the revision and the policies of a gateway from the database, and only then takes
the lock of the hub. In between, policies may be edited and other readers may overtake it. A `World` has
the database, the hub, the reads that were made, and as history the snapshots that were stored. A refresh
uses any of the reads.

Every change of the policies of a gateway comes with a larger revision (`Advances`), so reads with one
revision agree, and a read that is older than the stored snapshot is dropped under the lock. -/

namespace Netqmon.Collector.Policy.Publication

open Lib.Keyed Protocol.Policy Protocol.Snapshot Collector.Policy.Compiler Collector.Policy.Service
open Collector.Policy.Hub Collector.Policy.Hub.GatewayState
open Collector.Policy.Validation (sampleEpoch)
open Collector.Policy.Admission (sampleToolkit)
open Collector.Policy.Sessions (PolicyService SessionCall SessionIdentity SessionOp
  sessionStep recordAck recordMetrics AckReport SessionWrite)

/-! ### Worlds -/

structure World where
  service : PolicyService
  hub : PolicyHub
  reads : List SnapshotRead
  /-- The stored snapshots with their gateways, the latest first. -/
  stored : List (String × PolicySnapshot)

inductive Event
  | database (event : Sessions.Event)
  | read (gatewayId : String) (now : ℤ)
  | hub (call : HubCall)

namespace World

/-- A collector process starts with the database that it finds. -/
def start (service : PolicyService) (controllerEpoch : String) : World :=
  ⟨service, .new controllerEpoch, [], []⟩

/-- The snapshot that a call has stored, if it has. -/
def storedBy (toolkit : Toolkit) (w : World) (call : HubCall) : List (String × PolicySnapshot) :=
  let state := w.hub.callState toolkit call
  if state.generation = (w.hub.gatewayState call.gatewayId).generation then []
  else state.bundle.toList.map fun bundle => (call.gatewayId, bundle)

def step (library : Library) (toolkit : Toolkit) (w : World) : Event → World
  | .database event => { w with service := Sessions.step library w.service event }
  | .read gatewayId now =>
    let (revision, policies) := snapshot w.service.tables gatewayId
    { w with reads := ⟨gatewayId, now, revision, policies⟩ :: w.reads }
  | .hub call =>
    { w with hub := w.hub.step toolkit call, stored := w.storedBy toolkit call ++ w.stored }

def run (library : Library) (toolkit : Toolkit) (w : World) (events : List Event) : World :=
  events.foldl (step library toolkit) w

/-- Snapshots are made of what was read. -/
def Possible (w : World) : Event → Prop
  | .hub (.refresh read _ _ _) => read ∈ w.reads
  | _ => True

def PossibleRun (library : Library) (toolkit : Toolkit) : World → List Event → Prop
  | _, [] => True
  | w, event :: events =>
    w.Possible event ∧ PossibleRun library toolkit (w.step library toolkit event) events

/-- The snapshots stored for a gateway, the latest first. -/
def bundlesOf (w : World) (gatewayId : String) : List PolicySnapshot :=
  (w.stored.filter (·.1 == gatewayId)).map (·.2)

end World

/-! ### Revisions -/

/-- Every policy is filed under its own gateway, and the gateway is known. -/
structure Filed (t : Tables) : Prop where
  own : ∀ id row, t.policies.lookup id = some row → row.gatewayId = row.spec.gatewayId
  known : ∀ id row, t.policies.lookup id = some row → (t.gateways.lookup row.gatewayId).isSome

/-- What is published for the gateway is the same, or the revision is larger. -/
def Advances (t t' : Tables) (gatewayId : String) : Prop :=
  snapshot t' gatewayId = snapshot t gatewayId ∨
    readRevision t gatewayId < readRevision t' gatewayId

variable {gatewayId : String} {t t' : Tables}

theorem snapshot_congr (hrev : readRevision t' gatewayId = readRevision t gatewayId)
    (hrs : ∀ id row, row.gatewayId = gatewayId →
      (t'.policies.lookup id = some row ↔ t.policies.lookup id = some row)) :
    snapshot t' gatewayId = snapshot t gatewayId := by
  have hmem : ∀ policy, policy ∈ (snapshot t' gatewayId).2 ↔ policy ∈ (snapshot t gatewayId).2 := by
    grind [mem_snapshot]
  have hperm : (snapshot t' gatewayId).2.Perm (snapshot t gatewayId).2 :=
    (List.perm_ext_iff_of_nodup (nodup_snapshot t' gatewayId).of_map
      (nodup_snapshot t gatewayId).of_map).2 hmem
  have hso : ∀ t : Tables, (snapshot t gatewayId).2.Pairwise (·.id ≤ ·.id) := fun t =>
    List.pairwise_insertionSort (r := fun a b : PolicySnapshotEntry => a.id ≤ b.id) _
  refine Prod.ext hrev (hperm.eq_of_pairwise (fun a b ha hb hab hba => ?_) (hso t')
    (hso t))
  -- the identifier says which row it is
  obtain ⟨row, hrow, -, hspec⟩ := mem_snapshot.1 ((hmem a).1 ha)
  obtain ⟨row', hrow', -, hspec'⟩ := mem_snapshot.1 hb
  have hid : a.id = b.id := le_antisymm hab hba
  rw [hid, hrow'] at hrow
  cases hrow
  obtain ⟨ida, speca⟩ := a
  obtain ⟨idb, specb⟩ := b
  simp_all

theorem readRevision_ensureGateway (t : Tables) (other : String) :
    readRevision (ensureGateway other t) gatewayId = readRevision t gatewayId := by
  change ((upsert t.gateways other 0 id).lookup gatewayId).getD 0 = _
  rw [lookup_upsert]
  split_ifs with heq
  · rw [heq, readRevision]
    cases t.gateways.lookup other <;> rfl
  · rfl

variable {other : String} {t : Tables}

theorem isSome_ensureGateway (h : (t.gateways.lookup gatewayId).isSome ∨ gatewayId = other) :
    ((ensureGateway other t).gateways.lookup gatewayId).isSome := by
  change ((upsert t.gateways other 0 id).lookup gatewayId).isSome
  rw [lookup_upsert]
  split_ifs with heq
  · rfl
  · exact h.resolve_right heq

variable {revision : ℕ}

theorem readRevision_setRevision (t : Tables) :
    readRevision (setRevision other revision t) gatewayId =
      if gatewayId = other ∧ (t.gateways.lookup gatewayId).isSome then revision
      else readRevision t gatewayId := by
  change ((updateWhere _ _ t.gateways).lookup gatewayId).getD 0 = _
  rw [lookup_updateWhere, readRevision]
  cases t.gateways.lookup gatewayId with
  | none => simp
  | some old => grind

theorem isSome_setRevision (t : Tables) :
    ((setRevision other revision t).gateways.lookup gatewayId).isSome =
      (t.gateways.lookup gatewayId).isSome := by
  change ((updateWhere _ _ t.gateways).lookup gatewayId).isSome = _
  rw [lookup_updateWhere, Option.isSome_map]

/-- Only gateways were added, or rows that have nothing to do with policies were changed. -/
structure Untouched (t t' : Tables) : Prop where
  policies : t'.policies = t.policies
  events : t'.events = t.events
  revision : ∀ gatewayId, readRevision t' gatewayId = readRevision t gatewayId
  known : ∀ gatewayId, (t.gateways.lookup gatewayId).isSome →
    (t'.gateways.lookup gatewayId).isSome

theorem untouched_of_eq (hps : t'.policies = t.policies) (hevs : t'.events = t.events)
    (hgws : t'.gateways = t.gateways) : Untouched t t' where
  policies := hps
  events := hevs
  revision gatewayId := by rw [readRevision, readRevision, hgws]
  known gatewayId h := by rwa [hgws]

theorem untouched_of_ensureGateway (hps : t'.policies = t.policies) (hevs : t'.events = t.events)
    (hgws : t'.gateways = (ensureGateway gatewayId t).gateways) : Untouched t t' where
  policies := hps
  events := hevs
  revision other := by
    rw [readRevision, hgws]
    exact readRevision_ensureGateway t gatewayId
  known other h := by
    rw [hgws]
    exact isSome_ensureGateway (.inl h)

theorem Untouched.filed (h : Untouched t t') (hfi : Filed t) : Filed t' where
  own id row hrow := hfi.own id row (h.policies ▸ hrow)
  known id row hrow := h.known _ (hfi.known id row (h.policies ▸ hrow))

theorem Untouched.advances (h : Untouched t t') (gatewayId : String) : Advances t t' gatewayId :=
  .inl (snapshot_congr (h.revision gatewayId) fun id row _ => by rw [h.policies])

theorem untouched_recordAck {session : SessionIdentity} {ack : AckReport}
    {result : SessionWrite × Tables} (h : recordAck gatewayId session ack t = .ok result) :
    Untouched t result.2 := by
  unfold Sessions.recordAck at h
  dsimp only at h
  split at h
  · cases h
  · split at h
    · cases h
      exact untouched_of_ensureGateway rfl rfl rfl
    · split at h <;> rename_i hup <;> cases h
      all_goals
        have hps := congrArg (·.2.policies) hup
        have hevs := congrArg (·.2.events) hup
        have hgws := congrArg (·.2.gateways) hup
        refine untouched_of_ensureGateway (Eq.trans ?_ hps.symm)
          (Eq.trans ?_ hevs.symm) (Eq.trans ?_ hgws.symm) <;> grind

variable {service : PolicyService}

/-- Agent sessions have nothing to do with policies. -/
theorem untouched_sessionStep (service : PolicyService) (call : SessionCall) :
    Untouched service.tables (sessionStep service call).tables := by
  obtain ⟨gatewayId, session, op⟩ := call
  cases op with
  | connected => exact untouched_of_ensureGateway rfl rfl rfl
  | delivery revision deliveredAtMs => exact untouched_of_ensureGateway rfl rfl rfl
  | health bootId epoch agentRevision caps emergencyDisabled reportedAtMs =>
    exact untouched_of_ensureGateway rfl rfl rfl
  | disconnected => exact untouched_of_eq rfl rfl rfl
  | ack ack =>
    unfold Sessions.sessionStep
    dsimp only
    split
    · exact untouched_of_eq rfl rfl rfl
    · rename_i result hres
      exact untouched_recordAck hres
  | metrics bootId sampledAtMs metrics nowMs =>
    unfold Sessions.sessionStep
    dsimp only
    split
    · exact untouched_of_eq rfl rfl rfl
    · rename_i result hres
      unfold Sessions.recordMetrics at hres
      dsimp only at hres
      split at hres
      · cases hres
      · split at hres
        · cases hres
          exact untouched_of_ensureGateway rfl rfl rfl
        · cases (Netqmon.Lib.Checks.seq_eq_ok.1 hres).2
          exact untouched_of_ensureGateway rfl rfl rfl

section Revised

variable {t t' : Tables} {event : PolicyEvent}

/-- A change of policies: their gateway was known, and gets the next revision. -/
theorem Revised.readRevision (hfi : Filed t) (h : Revised t t' event) (other : String) :
    readRevision t' other =
        (if other = event.gatewayId then event.revision else readRevision t other) ∧
      event.revision = readRevision t event.gatewayId + 1 ∧
      ((t.gateways.lookup other).isSome ∨ other = event.gatewayId →
        (t'.gateways.lookup other).isSome) := by
  obtain ⟨t₀, t₁, hba, hbu, heq⟩ := h.bumped
  have hkn : (t₀.gateways.lookup event.gatewayId).isSome := by
    rcases hba with rfl | ⟨rfl, id, row, hrow, hgw⟩
    · exact isSome_ensureGateway (.inr rfl)
    · rw [← hgw, ← hfi.own id row hrow]
      exact hfi.known id row hrow
  have hrev : ∀ other, Service.readRevision t₀ other = Service.readRevision t other := by
    grind [readRevision_ensureGateway]
  have hs : (t.gateways.lookup other).isSome → (t₀.gateways.lookup other).isSome := by
    grind [isSome_ensureGateway]
  obtain ⟨hv, htables⟩ := bumpRevision_eq_ok hbu
  rw [if_pos hkn, show Service.readRevision { t₀ with policies := t'.policies }
    event.gatewayId = Service.readRevision t₀ event.gatewayId from rfl, hrev] at hv
  have hgws : t'.gateways = (setRevision event.gatewayId event.revision t₀).gateways := by
    rw [heq, htables]
    rfl
  refine ⟨?_, hv, ?_⟩
  · have hrd : Service.readRevision t' other =
        Service.readRevision (setRevision event.gatewayId event.revision t₀) other := by
      rw [Service.readRevision, hgws]
      rfl
    grind [readRevision_setRevision]
  · grind [isSome_setRevision]

theorem Revised.filed (hfi : Filed t) (h : Revised t t' event) : Filed t' := by
  obtain ⟨changed, htl⟩ := h.tells
  have hrow : ∀ id row, t'.policies.lookup id = some row → row.gatewayId = row.spec.gatewayId ∧
      ((t.gateways.lookup row.gatewayId).isSome ∨ row.gatewayId = event.gatewayId) := by
    intro id row hrow
    have hown := hfi.own id
    have hkn := hfi.known id
    grind [htl.others id, htl.ofGateway, htl.filed]
  exact ⟨fun id row h => (hrow id row h).1, fun id row hl =>
    (Revised.readRevision hfi h _).2.2 (hrow id row hl).2⟩

theorem Revised.advances (hfi : Filed t) (h : Revised t t' event) (other : String) :
    Advances t t' other := by
  obtain ⟨hrev, hnx, -⟩ := Revised.readRevision hfi h other
  have hfiled' := Revised.filed hfi h
  by_cases ho : other = event.gatewayId
  · rw [if_pos ho] at hrev
    rw [← ho] at hnx
    exact .inr (by omega)
  · rw [if_neg ho] at hrev
    refine .inl (snapshot_congr hrev fun id row hgw => ?_)
    -- both rows of the policy that changes belong to the gateway of the event
    obtain ⟨changed, htl⟩ := h.tells
    have hown := hfi.own id row
    have hown' := hfiled'.own id row
    grind [htl.others id, htl.ofGateway, htl.filed]

end Revised

theorem readRevision_republish (t : Tables) (event : PolicyEvent) :
    readRevision (insertEvent event (setRevision gatewayId revision (ensureGateway gatewayId t)))
      other = if other = gatewayId then revision else readRevision t other := by
  change readRevision (setRevision gatewayId revision (ensureGateway gatewayId t)) other = _
  rw [readRevision_setRevision, readRevision_ensureGateway]
  by_cases ho : other = gatewayId
  · grind [isSome_ensureGateway]
  · rw [if_neg ho, if_neg fun h => ho h.1]

theorem republish_advances (hfi : Filed t) {nowMs : ℤ} {actorUserId : String}
    {result : ℕ × Tables} (h : republish nowMs gatewayId actorUserId t = .ok result) :
    Filed result.2 ∧ ∀ other, Advances t result.2 other := by
  obtain ⟨hlt, event, -, heq⟩ := republish_eq_ok h
  rw [readRevision_ensureGateway] at hlt
  have hps : result.2.policies = t.policies := by rw [heq]; rfl
  have hgws : result.2.gateways =
      (setRevision gatewayId result.1 (ensureGateway gatewayId t)).gateways := by rw [heq]; rfl
  have hrev : ∀ other, readRevision result.2 other =
      if other = gatewayId then result.1 else readRevision t other := by
    intro other
    rw [heq]
    exact readRevision_republish t event
  refine ⟨⟨fun id row hrow => hfi.own id row (hps ▸ hrow), fun id row hrow => ?_⟩,
    fun other => ?_⟩
  · rw [hgws, isSome_setRevision]
    exact isSome_ensureGateway (.inl (hfi.known id row (hps ▸ hrow)))
  · by_cases ho : other = gatewayId
    · refine .inr ?_
      grind
    · refine .inl (snapshot_congr ?_ fun id row _ => by rw [hps])
      rw [hrev, if_neg ho]

variable (library : Library)

/-- **What is published for a gateway changes only together with its revision, which grows.** -/
theorem step_advances (hfi : Filed service.tables) (event : Sessions.Event) :
    Filed (Sessions.step library service event).tables ∧
      ∀ gatewayId, Advances service.tables (Sessions.step library service event).tables
        gatewayId := by
  cases event with
  | session call =>
    have hunt := untouched_sessionStep service call
    exact ⟨hunt.filed hfi, hunt.advances⟩
  | mutation call =>
    unfold Sessions.step Service.step
    dsimp only
    split
    · exact ⟨hfi, fun _ => .inl rfl⟩
    · rename_i result hres
      rcases (perform_spec hres).2 with heq | ⟨event, hrev⟩
      · rw [heq]
        exact ⟨hfi, fun _ => .inl rfl⟩
      · exact ⟨Revised.filed hfi hrev, Revised.advances hfi hrev⟩
  | republish nowMs gatewayId actorUserId =>
    unfold Sessions.step
    dsimp only
    split
    · exact ⟨hfi, fun _ => .inl rfl⟩
    · grind [republish_advances]

theorem filed_empty : Filed .empty := ⟨by simp [Tables.empty], by simp [Tables.empty]⟩

/-- The database after what happened in earlier processes. -/
theorem filed_run (hfi : Filed service.tables) :
    ∀ events, Filed (Sessions.run library service events).tables := by
  intro events
  induction events generalizing service with
  | nil => exact hfi
  | cons event events ih => exact ih (step_advances library hfi event).1

variable {call : HubCall}

theorem published_callState (toolkit : Toolkit) (hub : PolicyHub)
    (href : ∀ read force ids fill, call ≠ .refresh read force ids fill) :
    (hub.callState toolkit call).generation = (hub.gatewayState call.gatewayId).generation ∧
      (hub.callState toolkit call).bundle = (hub.gatewayState call.gatewayId).bundle := by
  by_cases hreg : ∃ gatewayId, call = .register gatewayId
  · obtain ⟨gatewayId, rfl⟩ := hreg
    dsimp only [PolicyHub.callState]
    split_ifs <;> exact ⟨rfl, rfl⟩
  by_cases hunreg : ∃ session, call = .unregister session
  · grind [PolicyHub.callState, GatewayState.unregister]
  have hk := hub.frame_callState toolkit href (fun gatewayId h => hreg ⟨gatewayId, h⟩)
    fun session h => hunreg ⟨session, h⟩
  exact ⟨congrArg Frame.generation hk, congrArg Frame.bundle hk⟩

/-! ### The invariant -/

/-- The later of two snapshots that are stored for a gateway. -/
structure Follows (later earlier : PolicySnapshot) : Prop where
  revision : earlier.configRevision ≤ later.configRevision
  generation : earlier.bundleGeneration < later.bundleGeneration
  policies : earlier.configRevision = later.configRevision → earlier.policies = later.policies

structure Consistent (w : World) : Prop where
  filed : Filed w.service.tables
  /-- Nothing was read that is not in the database yet. -/
  reached : ∀ read ∈ w.reads, read.revision ≤ readRevision w.service.tables read.gatewayId
  current : ∀ read ∈ w.reads, read.revision = readRevision w.service.tables read.gatewayId →
    read.policies = (snapshot w.service.tables read.gatewayId).2
  agree : ∀ a ∈ w.reads, ∀ b ∈ w.reads, a.gatewayId = b.gatewayId → a.revision = b.revision →
    a.policies = b.policies
  /-- Snapshots are made of reads. -/
  origin : ∀ gatewayId, ∀ bundle ∈ w.bundlesOf gatewayId, ∃ read ∈ w.reads,
    read.gatewayId = gatewayId ∧ bundle.configRevision = read.revision ∧
      bundle.policies = read.policies.insertionSort (·.id ≤ ·.id)
  bounded : ∀ gatewayId, ∀ bundle ∈ w.bundlesOf gatewayId,
    bundle.bundleGeneration ≤ (w.hub.gatewayState gatewayId).generation
  /-- The latest snapshot is the one in the hub. -/
  latest : ∀ gatewayId, (w.bundlesOf gatewayId).head? = (w.hub.gatewayState gatewayId).bundle
  ordered : ∀ gatewayId, (w.bundlesOf gatewayId).Pairwise Follows

theorem consistent_start (hfi : Filed service.tables)
    (epoch : String) : Consistent (.start service epoch) where
  filed := hfi
  reached := nofun
  current := nofun
  agree := nofun
  origin := nofun
  bounded := nofun
  latest _ := rfl
  ordered _ := .nil

namespace Consistent

variable {w : World} {library : Library} {toolkit : Toolkit}

section

variable (h : Consistent w)
include h

theorem database (event : Sessions.Event) :
    Consistent (w.step library toolkit (.database event)) := by
  obtain ⟨hfi, hadv⟩ := step_advances library h.filed event
  refine ⟨hfi, fun read hrd => ?_, fun read hrd hrev => ?_, h.agree, h.origin,
    h.bounded, h.latest, h.ordered⟩
  · have hle := h.reached read hrd
    rcases hadv read.gatewayId with heq | hlt
    · exact hle.trans_eq (congrArg Prod.fst heq).symm
    · exact hle.trans hlt.le
  · have hle := h.reached read hrd
    rcases hadv read.gatewayId with heq | hlt
    · rw [h.current read hrd (hrev.trans (congrArg Prod.fst heq))]
      exact (congrArg Prod.snd heq).symm
    · change read.revision = readRevision (Sessions.step library w.service event).tables _
        at hrev
      omega

theorem read (gatewayId : String) (now : ℤ) :
    Consistent (w.step library toolkit (.read gatewayId now)) := by
  refine ⟨h.filed, ?_, ?_, ?_, fun gateway bundle hbun => ?_, h.bounded, h.latest, h.ordered⟩
  · exact List.forall_mem_cons.2 ⟨le_refl _, h.reached⟩
  · exact List.forall_mem_cons.2 ⟨fun _ => rfl, h.current⟩
  · intro a ha b hb hgw hrev
    rcases List.mem_cons.1 ha with rfl | hold
    · rcases List.mem_cons.1 hb with rfl | hold
      · rfl
      · dsimp only at hgw hrev ⊢
        rw [hgw] at hrev ⊢
        exact (h.current b hold hrev.symm).symm
    · rcases List.mem_cons.1 hb with rfl | hold'
      · dsimp only at hgw hrev ⊢
        rw [← hgw] at hrev ⊢
        exact h.current a hold hrev
      · exact h.agree a hold b hold' hgw hrev
  · obtain ⟨read, hrd, hr⟩ := h.origin gateway bundle hbun
    exact ⟨read, List.mem_cons_of_mem _ hrd, hr⟩

theorem quiet (hgen : (w.hub.callState toolkit call).generation =
      (w.hub.gatewayState call.gatewayId).generation)
    (hbun : (w.hub.callState toolkit call).bundle =
      (w.hub.gatewayState call.gatewayId).bundle) :
    Consistent (w.step library toolkit (.hub call)) := by
  have hsto : (w.step library toolkit (.hub call)).stored = w.stored := by
    change w.storedBy toolkit call ++ w.stored = w.stored
    rw [World.storedBy, if_pos hgen, List.nil_append]
  have hbuns : ∀ gatewayId,
      (w.step library toolkit (.hub call)).bundlesOf gatewayId = w.bundlesOf gatewayId := by
    intro gatewayId
    rw [World.bundlesOf, hsto, World.bundlesOf]
  refine ⟨h.filed, h.reached, h.current, h.agree, fun gatewayId => ?_, fun gatewayId => ?_,
    fun gatewayId => ?_, fun gatewayId => ?_⟩
  · rw [hbuns]
    exact h.origin gatewayId
  · rw [hbuns]
    change ∀ bundle ∈ w.bundlesOf gatewayId,
      bundle.bundleGeneration ≤ ((w.hub.step toolkit call).gatewayState gatewayId).generation
    rw [PolicyHub.gatewayState_step]
    split_ifs with heq
    · rw [hgen, ← heq]
      exact h.bounded gatewayId
    · exact h.bounded gatewayId
  · rw [hbuns]
    change _ = ((w.hub.step toolkit call).gatewayState gatewayId).bundle
    rw [PolicyHub.gatewayState_step]
    split_ifs with heq
    · rw [hbun, ← heq]
      exact h.latest gatewayId
    · exact h.latest gatewayId
  · rw [hbuns]
    exact h.ordered gatewayId

variable {read : SnapshotRead}

/-- A snapshot that is stored follows all that were stored before. -/
theorem follows (hrd : read ∈ w.reads) {frame : PolicySnapshot}
    (hrev : frame.configRevision = read.revision)
    (hgen : frame.bundleGeneration = (w.hub.gatewayState read.gatewayId).generation + 1)
    (hps : frame.policies = read.policies.insertionSort (·.id ≤ ·.id))
    (hbun : ∀ bundle ∈ (w.hub.gatewayState read.gatewayId).bundle,
      bundle.configRevision ≤ read.revision) :
    ∀ bundle ∈ w.bundlesOf read.gatewayId, Follows frame bundle := by
  intro bundle hmem
  obtain ⟨source, hsource, hgw, hrevision', hpolicies'⟩ :=
    h.origin read.gatewayId bundle hmem
  have hbd := h.bounded read.gatewayId bundle hmem
  refine ⟨?_, by omega, fun heq => ?_⟩
  · -- the latest of the snapshots has the largest revision
    have hlat := h.latest read.gatewayId
    have hord := h.ordered read.gatewayId
    cases hbuns : w.bundlesOf read.gatewayId with
    | nil => simp [hbuns] at hmem
    | cons first rest =>
      rw [hbuns] at hlat hord hmem
      have hfst := hbun first hlat.symm
      rcases List.mem_cons.1 hmem with rfl | hmem
      · omega
      · have hr := ((List.pairwise_cons.1 hord).1 bundle hmem).revision
        omega
  · have hsm : source.policies = read.policies :=
      h.agree source hsource read hrd hgw (by omega)
    rw [hps, hpolicies', hsm]

theorem refresh (hrd : read ∈ w.reads) (force : Bool) (ids : String → String) (fill : Fill)
    : Consistent (w.step library toolkit (.hub (.refresh read force ids fill))) := by
  have hcs := refreshGateway_cases (w.hub.gatewayState read.gatewayId) toolkit read.gatewayId
    w.hub.controllerEpoch read.now read.revision read.policies force ids fill
  rcases hcs with hsm | ⟨hbun, frame, hf, hst⟩
  · refine h.quiet ?_ ?_
    · exact congrArg GatewayState.generation hsm
    · exact congrArg GatewayState.bundle hsm
  · obtain ⟨-, ivs, -, rfl⟩ := compileSnapshot_eq_ok hf
    set frame := arrange toolkit.codec read.gatewayId w.hub.controllerEpoch read.revision
      ((w.hub.gatewayState read.gatewayId).generation + 1) read.now
      (read.now + scheduleHorizonMs) read.policies ivs with hf
    have hfol := @Consistent.follows w h read hrd frame rfl rfl rfl hbun
    have hgen : (w.hub.callState toolkit (.refresh read force ids fill)).generation =
        (w.hub.gatewayState read.gatewayId).generation + 1 :=
      congrArg GatewayState.generation hst
    have hnew : (w.hub.callState toolkit (.refresh read force ids fill)).bundle =
        some frame := congrArg GatewayState.bundle hst
    have hsto : w.storedBy toolkit (.refresh read force ids fill) =
        [(read.gatewayId, frame)] := by
      rw [World.storedBy, hgen, if_neg (by exact Nat.succ_ne_self _), hnew]
      rfl
    have hbuns : ∀ gatewayId, (w.step library toolkit
        (.hub (.refresh read force ids fill))).bundlesOf gatewayId =
          if gatewayId = read.gatewayId then frame :: w.bundlesOf gatewayId
          else w.bundlesOf gatewayId := by
      intro gatewayId
      change ((w.storedBy toolkit _ ++ w.stored).filter (·.1 == gatewayId)).map (·.2) = _
      rw [hsto, List.singleton_append]
      by_cases heq : gatewayId = read.gatewayId
      · rw [if_pos heq, List.filter_cons_of_pos (by simp [heq])]
        rfl
      · rw [if_neg heq, List.filter_cons_of_neg (by simpa using Ne.symm heq)]
        rfl
    have hgw : ∀ gatewayId, (w.step library toolkit
        (.hub (.refresh read force ids fill))).hub.gatewayState gatewayId =
          if gatewayId = read.gatewayId then
            w.hub.callState toolkit (.refresh read force ids fill)
          else w.hub.gatewayState gatewayId :=
      PolicyHub.gatewayState_step toolkit w.hub _
    refine ⟨h.filed, h.reached, h.current, h.agree, fun gatewayId => ?_, fun gatewayId => ?_,
      fun gatewayId => ?_, fun gatewayId => ?_⟩
    · rw [hbuns]
      split_ifs with heq
      · exact List.forall_mem_cons.2 ⟨⟨read, hrd, heq.symm, rfl, rfl⟩, h.origin gatewayId⟩
      · exact h.origin gatewayId
    · rw [hbuns, hgw]
      split_ifs with heq
      · subst heq
        rw [hgen]
        exact List.forall_mem_cons.2 ⟨le_refl _, fun bundle hmem =>
          (h.bounded _ bundle hmem).trans (Nat.le_succ _)⟩
      · exact h.bounded gatewayId
    · rw [hbuns, hgw]
      split_ifs with heq
      · exact hnew.symm
      · exact h.latest gatewayId
    · rw [hbuns]
      split_ifs with heq
      · subst heq
        exact List.pairwise_cons.2 ⟨hfol, h.ordered _⟩
      · exact h.ordered gatewayId

theorem step {event : Event} (hev : w.Possible event) :
    Consistent (w.step library toolkit event) := by
  cases event with
  | database event => exact h.database event
  | read gatewayId now => exact h.read gatewayId now
  | hub call =>
    by_cases href : ∃ read force ids fill, call = .refresh read force ids fill
    · obtain ⟨read, force, ids, fill, rfl⟩ := href
      exact h.refresh hev force ids fill
    · have hk := published_callState toolkit w.hub fun read force ids fill heq =>
        href ⟨read, force, ids, fill, heq⟩
      exact h.quiet hk.1 hk.2

end

theorem run : ∀ {events : List Event} {w : World}, Consistent w →
    w.PossibleRun library toolkit events → Consistent (w.run library toolkit events)
  | [], _, h, _ => h
  | _ :: _, _, h, hevs => (h.step hevs.1).run hevs.2

end Consistent

/-- **Publication is monotone.** Whatever the order in which policies are edited, read and published,
the snapshots that are stored for a gateway have growing generations and revisions that never decrease,
and snapshots with one revision have the same policies. -/
theorem publication_monotone (library : Library) (toolkit : Toolkit) (earlier : List Sessions.Event)
    (controllerEpoch : String) (events : List Event) (hevents : World.PossibleRun library toolkit
      (.start (Sessions.run library ⟨.empty, ∅⟩ earlier) controllerEpoch) events)
    (gatewayId : String) :
    ((World.run library toolkit (.start (Sessions.run library ⟨.empty, ∅⟩ earlier) controllerEpoch)
      events).bundlesOf gatewayId).Pairwise Follows :=
  ((consistent_start (filed_run library filed_empty earlier) controllerEpoch).run
    hevents).ordered gatewayId

/-- **What is published is what is stored.** The snapshot in the hub is never ahead of the database, and
at the revision of the database it holds the policies of the database. -/
theorem published_snapshot_current (library : Library) (toolkit : Toolkit)
    (earlier : List Sessions.Event) (controllerEpoch : String) (events : List Event)
    (hevents : World.PossibleRun library toolkit
      (.start (Sessions.run library ⟨.empty, ∅⟩ earlier) controllerEpoch) events)
    (gatewayId : String) :
    let w := World.run library toolkit
      (.start (Sessions.run library ⟨.empty, ∅⟩ earlier) controllerEpoch) events
    ∀ bundle ∈ (w.hub.gatewayState gatewayId).bundle,
      bundle.configRevision ≤ readRevision w.service.tables gatewayId ∧
        (bundle.configRevision = readRevision w.service.tables gatewayId →
          bundle.policies =
            (snapshot w.service.tables gatewayId).2.insertionSort (·.id ≤ ·.id)) := by
  intro w bundle hbundle
  have hc : Consistent w :=
    (consistent_start (filed_run library filed_empty earlier) controllerEpoch).run hevents
  -- The snapshot in the hub is the latest one stored, and that was made of a read.
  have hmem : bundle ∈ w.bundlesOf gatewayId :=
    List.mem_of_mem_head? ((hc.latest gatewayId).symm ▸ hbundle)
  obtain ⟨read, hread, rfl, hrevision, hpolicies⟩ := hc.origin gatewayId bundle hmem
  rw [hrevision, hpolicies]
  exact ⟨hc.reached read hread, fun heq => by rw [hc.current read hread heq]⟩

/-! ### A sample run -/

def firstPolicy : Sessions.Event :=
  .mutation ⟨1000, "admin", .create "policy-1" (Admission.blockOf "video") 0⟩

def secondPolicy : Sessions.Event :=
  .mutation ⟨3000, "admin", .create "policy-2" (Admission.blockOf "games") 1⟩

/-- What is read before and after the second policy. -/
def sampleRead (now : ℤ) (events : List Sessions.Event) : SnapshotRead :=
  let read := snapshot (Sessions.run sampleLibrary ⟨.empty, ∅⟩ events).tables "gateway-1"
  ⟨"gateway-1", now, read.1, read.2⟩

def sampleRefresh (read : SnapshotRead) (force : Bool) : Event :=
  .hub (.refresh read force (fun key => key) ⟨read.now, .asStored⟩)

def earlyRead : SnapshotRead := sampleRead 2000 [firstPolicy]
def lateRead : SnapshotRead := sampleRead 4000 [firstPolicy, secondPolicy]

/-- The first policy is published; a read from before the second comes too late; what was read after it
is published twice. -/
def overtaken : List Event :=
  [.read "gateway-1" 2000, sampleRefresh earlyRead false, .database secondPolicy,
    .read "gateway-1" 4000, sampleRefresh lateRead false, sampleRefresh earlyRead true,
    sampleRefresh lateRead true]

theorem overtaken_publication :
    let w := World.run sampleLibrary sampleToolkit
      (.start (Sessions.run sampleLibrary ⟨.empty, ∅⟩ [firstPolicy]) sampleEpoch) overtaken
    (w.bundlesOf "gateway-1").map (fun bundle => (bundle.configRevision, bundle.bundleGeneration)) =
        [(2, 3), (2, 2), (1, 1)] ∧
      (w.bundlesOf "gateway-1").Pairwise Follows := by
  refine ⟨by decide +kernel, publication_monotone sampleLibrary sampleToolkit [firstPolicy]
    sampleEpoch overtaken ?_ "gateway-1"⟩
  refine ⟨trivial, ?_, trivial, trivial, ?_, ?_, ?_, trivial⟩
  · exact List.mem_singleton.2 rfl
  · exact List.mem_cons_self
  · exact List.mem_cons_of_mem _ (List.mem_singleton.2 rfl)
  · exact List.mem_cons_self

theorem overtaken_current :
    let w := World.run sampleLibrary sampleToolkit
      (.start (Sessions.run sampleLibrary ⟨.empty, ∅⟩ [firstPolicy]) sampleEpoch) overtaken
    ∀ bundle ∈ (w.hub.gatewayState "gateway-1").bundle,
      bundle.configRevision ≤ readRevision w.service.tables "gateway-1" ∧
        (bundle.configRevision = readRevision w.service.tables "gateway-1" →
          bundle.policies =
            (snapshot w.service.tables "gateway-1").2.insertionSort (·.id ≤ ·.id)) :=
  published_snapshot_current sampleLibrary sampleToolkit [firstPolicy] sampleEpoch overtaken
    ⟨trivial, List.mem_singleton.2 rfl, trivial, trivial, List.mem_cons_self,
      List.mem_cons_of_mem _ (List.mem_singleton.2 rfl), List.mem_cons_self, trivial⟩ "gateway-1"

end Netqmon.Collector.Policy.Publication
