import Netqmon.Agent.Executor.Plan

/-! # The loop over the candidates, accumulator by accumulator

The loop of `planState` fills several tables at once. Each of them depends only on the clients that
were found (`visitFound`) or, for the results, on those that were not (`identityResult`); the rules
of this module bring statements about a table back to single visits. -/

namespace Netqmon.Agent.Executor.Visits

open Agent.Flow Executor.Topology Plan Lib.Ordered Lib.RustStr Protocol.Policy

variable {S : Type} {topo : PolicyTopology} {identities : ClientAddresses}

/-- The client has current addresses, and no other client claims one of them. -/
def found (identities : ClientAddresses) (mac : String) : Bool :=
  (identities.resolve (toAsciiLowercase mac)).isOk

/-! ### Clients that were found -/

def visitFound (identities : ClientAddresses) (visit : PolicySnapshotEntry → String → S → S)
    (policies : List PolicySnapshotEntry) (s : S) : S :=
  policies.foldl (fun s policy => policy.spec.selectors.clients.foldl (fun s mac =>
    if found identities mac then visit policy (toAsciiLowercase mac) s else s) s) s

variable {visit : PolicySnapshotEntry → String → S → S}

variable {Q : S → Prop} {α : Type}

theorem foldl_keeps {f : S → α → S} (hkp : ∀ s a, Q s → Q (f s a)) (l : List α) {s : S} (hs : Q s) :
    Q (l.foldl f s) :=
  List.foldlRecOn l f hs fun s hs a _ => hkp s a hs

theorem foldl_reaches {f : S → α → S} (hkp : ∀ s a, Q s → Q (f s a)) {l : List α} {a : α}
    (ha : a ∈ l) (hset : ∀ s, Q (f s a)) (s : S) : Q (l.foldl f s) := by
  obtain ⟨before, after, rfl⟩ := List.append_of_mem ha
  rw [List.foldl_append]
  exact foldl_keeps hkp after (hset _)

variable {policy : PolicySnapshotEntry}

/-! ### Tables of the plan state -/

variable {T : Type}

variable {addresses : List IpAddr}

section

variable (proj : PlanState → T)
include proj

theorem foldl_blockAddress
    (hproj : ∀ (s : PlanState) v4 v6, proj { s with blockedV4 := v4, blockedV6 := v6 } = proj s)
    (s : PlanState) : proj (addresses.foldl (blockAddress topo) s) = proj s := by
  refine foldl_keeps (Q := fun s' => proj s' = proj s) (fun s' address h => ?_) addresses rfl
  cases address with
  | v4 _ => grind [blockAddress]
  | v6 _ => grind [blockAddress]

variable (visit : PolicySnapshotEntry → String → T → T)

/-- A table that visits of found clients fill and nothing else changes. -/
theorem proj_planPolicy (hres : ∀ (s : PlanState) r, proj { s with results := r } = proj s)
    (hvisit : ∀ policy mac addresses s,
      proj (applyClient topo policy mac addresses s) = visit policy mac (proj s))
    (s : PlanState) :
    proj (planPolicy topo identities s policy) =
      policy.spec.selectors.clients.foldl (fun t mac =>
        if found identities mac then visit policy (toAsciiLowercase mac) t else t) (proj s) := by
  have hcl : ∀ (clients : List String) (acc : PlanState × Bool × Bool),
      proj (clients.foldl (planClient topo identities policy) acc).1 =
        clients.foldl (fun t mac =>
          if found identities mac then visit policy (toAsciiLowercase mac) t else t)
          (proj acc.1) := by
    intro clients
    induction clients with
    | nil => intro acc; rfl
    | cons mac clients ih =>
      intro acc
      rw [List.foldl_cons, ih]
      unfold planClient found
      grind [Except.toBool]
  unfold planPolicy
  dsimp only
  split_ifs
  · rw [hres, hcl]
  · exact hcl _ _

theorem proj_foldl_planPolicy (hres : ∀ (s : PlanState) r, proj { s with results := r } = proj s)
    (hvisit : ∀ policy mac addresses s,
      proj (applyClient topo policy mac addresses s) = visit policy mac (proj s))
    (policies : List PolicySnapshotEntry) (s : PlanState) :
    proj (policies.foldl (planPolicy topo identities) s) =
      visitFound identities visit policies (proj s) := by
  induction policies generalizing s with
  | nil => rfl
  | cons policy policies ih =>
    rw [List.foldl_cons, ih, proj_planPolicy proj visit hres hvisit]
    rfl

theorem applyClient_proj
    (hproj : ∀ (s : PlanState) v4 v6, proj { s with blockedV4 := v4, blockedV6 := v6 } = proj s)
    (mac : String) (s : PlanState) :
    proj (applyClient topo policy mac addresses s) =
      proj { s with
        decidedClientRules :=
          if isLimit policy then s.decidedClientRules else s.decidedClientRules.add mac
        policyClients := s.policyClients.upsert policy.id fun clients =>
          (clients.getD .empty).add mac
        clientAddresses := s.clientAddresses ++ addresses.map (mac, ·)
        clientRates := addClientRate policy mac s.clientRates
        applicationRates := addApplicationRate policy mac s.applicationRates } := by
  unfold applyClient
  dsimp only
  split_ifs
  all_goals first | exact foldl_blockAddress proj hproj _ | rfl

end

/-- The clients of a policy that were found. -/
def addPolicyClient (policy : PolicySnapshotEntry) (mac : String)
    (clients : OrderedMap String (OrderedSet String)) : OrderedMap String (OrderedSet String) :=
  clients.upsert policy.id fun current => (current.getD .empty).add mac

/-! ### Results -/

/-- The result of a policy after one of its clients. -/
def identityStep (identities : ClientAddresses) (policy : PolicySnapshotEntry)
    (entry : PolicyResult) (mac : String) : PolicyResult :=
  match identities.resolve (toAsciiLowercase mac) with
  | .ok _ => entry
  | .error error => identityFailure policy (toAsciiLowercase mac) error entry

/-- The result of a candidate after all its clients. -/
def identityResult (identities : ClientAddresses) (policy : PolicySnapshotEntry)
    (entry : PolicyResult) : PolicyResult :=
  let clients := policy.spec.selectors.clients
  let entry := clients.foldl (identityStep identities policy) entry
  if isLimit policy && clients.any (!found identities ·) && clients.any (found identities) then
    identityPartial entry
  else entry

theorem applyClient_results (mac : String) (s : PlanState) :
    (applyClient topo policy mac addresses s).results = s.results :=
  applyClient_proj (·.results) (fun _ _ _ => rfl) mac s

variable (topo identities)

theorem lookup_planClient {acc : PlanState × Bool × Bool}
    (hs : (acc.1.results.lookup policy.id).isSome = true) (mac id : String) :
    (planClient topo identities policy acc mac).1.results.lookup id =
      if id = policy.id then
        (acc.1.results.lookup policy.id).map (identityStep identities policy · mac)
      else acc.1.results.lookup id := by
  unfold planClient identityStep
  dsimp only
  cases identities.resolve (toAsciiLowercase mac) with
  | ok addresses =>
    rw [applyClient_results]
    split_ifs with h <;> simp [h]
  | error error =>
    obtain ⟨e, he⟩ := Option.isSome_iff_exists.1 hs
    rw [OrderedMap.lookup_upsert, he]
    rfl

theorem lookup_foldl_planClient (policy : PolicySnapshotEntry) (id : String) :
    ∀ (clients : List String) (acc : PlanState × Bool × Bool),
      (acc.1.results.lookup policy.id).isSome = true →
        (clients.foldl (planClient topo identities policy) acc).1.results.lookup id =
          if id = policy.id then (acc.1.results.lookup policy.id).map
              (clients.foldl (identityStep identities policy))
          else acc.1.results.lookup id
  | [], acc, _ => by split_ifs with h <;> simp [h]
  | mac :: clients, acc, hs => by
    have hown := lookup_planClient topo identities hs mac
    have hsome' : ((planClient topo identities policy acc mac).1.results.lookup
        policy.id).isSome = true := by
      rw [hown, if_pos rfl, Option.isSome_map]
      exact hs
    rw [List.foldl_cons, lookup_foldl_planClient policy id clients _ hsome', hown, hown,
      if_pos rfl, Option.map_map]
    split_ifs <;> rfl

theorem flags_foldl_planClient (policy : PolicySnapshotEntry) :
    ∀ (clients : List String) (acc : PlanState × Bool × Bool),
      (clients.foldl (planClient topo identities policy) acc).2 =
        (acc.2.1 || clients.any (found identities), acc.2.2 || clients.any (!found identities ·))
  | [], acc => by simp
  | mac :: clients, acc => by
    rw [List.foldl_cons, flags_foldl_planClient policy clients, List.any_cons, List.any_cons]
    unfold planClient found
    grind [Except.toBool]

theorem lookup_planPolicy {policy : PolicySnapshotEntry} {s : PlanState}
    (hs : (s.results.lookup policy.id).isSome = true) (id : String) :
    (planPolicy topo identities s policy).results.lookup id =
      if id = policy.id then (s.results.lookup policy.id).map (identityResult identities policy)
      else s.results.lookup id := by
  have hl := fun id => lookup_foldl_planClient topo identities policy id
    policy.spec.selectors.clients (s, false, false) hs
  have hflags := flags_foldl_planClient topo identities policy
    policy.spec.selectors.clients (s, false, false)
  simp only [Bool.false_or] at hflags
  unfold planPolicy identityResult
  dsimp only
  rw [hflags]
  split_ifs with hflag hid hid
  · rw [OrderedMap.lookup_adjust, if_pos hid, hl, if_pos rfl, Option.map_map]
    rfl
  · grind [OrderedMap.lookup_adjust]
  · rw [hl, if_pos hid]
  · rw [hl, if_neg hid]

end Netqmon.Agent.Executor.Visits
