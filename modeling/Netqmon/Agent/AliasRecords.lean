import Netqmon.Agent.FlowAlias

/-! # The records of the alias cache

An entry of the alias cache keeps its keys in six places. `Tidy` says how these agree: observations,
directions and verified keys are keys of the entry, and a key waits for verification only as long as
it is not verified. Every operation keeps entries tidy except one branch of `insertProxyReturn`: a
key that the flow already has is verified, but stays on the waiting list
(`proxy_return_stays_unresolved`). `undisputed` excludes that branch. -/

namespace Netqmon.Agent.AliasRecords

open Agent.Flow FlowAlias Lib.AssocWeight Lib.CappedList Lib.Keyed Lib.RustStr

/-! ### Runs -/

inductive Op
  | observeWithClient (id : String) (key : FlowKey) (clientMac : Option String) (now : ℕ)
  | observeDirection (id : String) (key : FlowKey) (direction : Direction)
      (clientIp : Option IpAddr) (egressIfindexes : Option (UInt32 × UInt32))
      (tracked : Option ConntrackEntry)
  | insertProxyReturn (id : String) (key : FlowKey)
  | reconcileForCommand (hashOrder : PolicyFlowAliasCache.HashOrder) (id : String)
      (clientIfindex : Option UInt32) (conntrack : ConntrackContext)
  | markEnded (id : String)
  | prune (now tcpIdle udpIdle : ℕ)

variable (cache : PolicyFlowAliasCache)

def step : Op → PolicyFlowAliasCache
  | .observeWithClient id key clientMac now => (cache.observeWithClient id key clientMac now).2
  | .observeDirection id key direction clientIp egressIfindexes tracked =>
    cache.observeDirection id key direction clientIp egressIfindexes tracked
  | .insertProxyReturn id key => (cache.insertProxyReturn id key).2
  | .reconcileForCommand hashOrder id clientIfindex conntrack =>
    .reconcileForCommand hashOrder cache id clientIfindex conntrack
  | .markEnded id => cache.markEnded id
  | .prune now tcpIdle udpIdle => cache.prune now tcpIdle udpIdle

def run (capacity : ℕ) (ops : List Op) : PolicyFlowAliasCache := ops.foldl step (.new capacity)

/-- No key is reported as a proxy return that the flow has and waits for. -/
def undisputed : Op → Bool
  | .insertProxyReturn id key => (cache.entries.lookup id).all fun entry =>
    entry.ended || decide (key ∉ entry.keys) || decide (key ∉ entry.unresolved)
  | _ => true

def allUndisputed : PolicyFlowAliasCache → List Op → Bool
  | _, [] => true
  | cache, op :: ops => undisputed cache op && allUndisputed (step cache op) ops

/-- The time of an observation of the flow. -/
def observedAt (id : String) : Op → Option ℕ
  | .observeWithClient id' _ _ now => if id' = id then some now else none
  | _ => none

/-- When the flow was last observed. -/
def lastObserved (ops : List Op) (id : String) : Option ℕ :=
  ops.foldl (fun last op => (observedAt id op).or last) none

/-! ### Entries -/

@[grind cases]
structure Tidy (entry : AliasEntry) : Prop where
  observed : ∀ key ∈ entry.observed, key ∈ entry.keys
  verified : ∀ key ∈ entry.verified, key ∈ entry.keys
  directions : ∀ key ∈ entry.directions, key ∈ entry.keys
  few : entry.unresolved.length ≤ maxAliasesPerFlow
  disjoint : ∀ key ∈ entry.unresolved, key ∉ entry.verified

/-- An operation on an entry that does not observe it. -/
structure Carries (entry entry' : AliasEntry) : Prop where
  tidy : Tidy entry → Tidy entry'
  lastSeen : entry'.lastSeen = entry.lastSeen
  ended : entry'.ended = false → entry.ended = false

theorem Carries.refl (entry : AliasEntry) : Carries entry entry := ⟨id, rfl, id⟩

theorem Carries.trans {a b c : AliasEntry} (hab : Carries a b) (hbc : Carries b c) : Carries a c :=
  ⟨hbc.tidy ∘ hab.tidy, hbc.lastSeen.trans hab.lastSeen, hab.ended ∘ hbc.ended⟩

section Entries

variable (entry : AliasEntry) (key : FlowKey) (direction : AliasDirection)

theorem mem_push_of_not_full (h : entry.full key = false) : key ∈ (entry.pushKey key).keys := by
  grind [AliasEntry.full, AliasEntry.pushKey, push]

theorem mem_pushKey {other : FlowKey} (h : other ∈ entry.keys) : other ∈ (entry.pushKey key).keys :=
  (prefix_push maxAliasesPerFlow entry.keys key).subset h

theorem carries_verify (hkey : key ∈ entry.keys) (hunresolved : key ∉ entry.unresolved) :
    Carries entry (entry.verify key direction) := by
  refine ⟨fun h => ?_, rfl, id⟩
  constructor <;> grind [AliasEntry.verify, AList.mem_insert]

theorem carries_settle : Carries entry (entry.settle key) := by
  refine ⟨fun h => ?_, rfl, id⟩
  constructor <;> grind [AliasEntry.settle]

theorem carries_pushKey : Carries entry (entry.pushKey key) := by
  refine ⟨fun h => ?_, rfl, id⟩
  have hmem := fun other => @mem_pushKey entry key other
  constructor <;> grind [AliasEntry.pushKey]

/-- A key with a place is pushed, taken off the waiting list and verified. -/
theorem carries_verified (h : entry.full key = false) :
    Carries entry (((entry.pushKey key).settle key).verify key direction) := by
  refine ((carries_pushKey entry key).trans (carries_settle _ key)).trans (carries_verify _ _ _ ?_ ?_)
  · exact mem_push_of_not_full entry key h
  · simp [AliasEntry.settle]

theorem carries_mark : Carries entry { entry with isPartial := true } :=
  ⟨fun h => { h with }, rfl, id⟩

theorem carries_insertAlias : Carries entry (entry.insertAlias key direction) := by
  unfold AliasEntry.insertAlias
  split_ifs with h
  · exact carries_mark entry
  · exact carries_verified entry key direction (Bool.eq_false_of_not_eq_true h)

theorem carries_recordUnresolved : Carries entry (entry.recordUnresolved key) := by
  unfold AliasEntry.recordUnresolved
  split_ifs with hkn hfu
  · exact .refl entry
  · exact carries_mark entry
  · refine ⟨fun h => ?_, rfl, id⟩
    constructor <;> grind

theorem carries_noteClient (clientMac : Option String) :
    Carries entry (entry.noteClient clientMac) := by
  unfold AliasEntry.noteClient
  repeat' split
  all_goals
    exact ⟨fun h => { h with }, rfl, id⟩

theorem carries_direction (hkey : key ∈ entry.keys) :
    Carries entry { entry with directions := entry.directions.insert key direction } := by
  refine ⟨fun h => ?_, rfl, id⟩
  constructor <;> grind [AList.mem_insert]

theorem carries_observeShaped (hkey : key ∈ entry.keys) (clientIp : Option IpAddr)
    (egressIfindexes : Option (UInt32 × UInt32)) (tracked : Option ConntrackEntry) :
    Carries entry (entry.observeShaped key direction clientIp egressIfindexes tracked) := by
  have hsn : ∀ (ip : Option IpAddr) (ifindex : Option UInt32), Carries entry { entry with
      directions := entry.directions.insert key direction
      unresolved := entry.unresolved.filter (· ≠ key)
      clientIp := ip
      defaultClientIfindex := ifindex } := by
    intro ip ifindex
    have hdir := carries_direction entry key direction hkey
    refine ⟨fun h => ?_, rfl, id⟩
    have hset := (hdir.trans (carries_settle _ key)).tidy h
    exact { hset with }
  exact AliasEntry.observeShaped_rel (R := Carries) Carries.trans carries_insertAlias
    carries_recordUnresolved hsn clientIp egressIfindexes tracked

end Entries

/-! ### The cache -/

/-- No flow is new, and the entries of the others are carried on. -/
structure Follows (cache cache' : PolicyFlowAliasCache) : Prop where
  capacity : cache'.capacity = cache.capacity
  count : cache'.entries.keys.length ≤ cache.entries.keys.length
  entry : ∀ id entry', cache'.entries.lookup id = some entry' →
    ∃ entry, cache.entries.lookup id = some entry ∧ Carries entry entry'

section Cache

variable {cache cache' : PolicyFlowAliasCache} {id : String} {entry entry' : AliasEntry}

theorem Follows.refl (cache : PolicyFlowAliasCache) : Follows cache cache :=
  ⟨rfl, le_rfl, fun _ entry h => ⟨entry, h, .refl entry⟩⟩

theorem Follows.trans {a b c : PolicyFlowAliasCache} (hab : Follows a b) (hbc : Follows b c) :
    Follows a c := by
  refine ⟨hbc.capacity.trans hab.capacity, hbc.count.trans hab.count, fun id entry'' h => ?_⟩
  obtain ⟨entry', h', hcarries'⟩ := hbc.entry id entry'' h
  obtain ⟨entry, h, hcar⟩ := hab.entry id entry' h'
  exact ⟨entry, h, hcar.trans hcarries'⟩

theorem length_keys_insert :
    (cache.set id entry).entries.keys.length =
      if (cache.entries.lookup id).isSome then cache.entries.keys.length
      else cache.entries.keys.length + 1 := by
  rw [PolicyFlowAliasCache.set, AList.keys_insert, List.length_cons]
  by_cases h : id ∈ cache.entries.keys
  · have hpos := List.length_pos_of_mem h
    rw [if_pos (AList.lookup_isSome.2 h), List.length_erase_of_mem h]
    omega
  · rw [if_neg (fun hs => h (AList.lookup_isSome.1 hs)), List.erase_of_not_mem h]

theorem follows_set (he : cache.entries.lookup id = some entry) (h : Carries entry entry') :
    Follows cache (cache.set id entry') := by
  refine ⟨rfl, ?_, fun other found hfd => ?_⟩
  · rw [length_keys_insert, he]
    rfl
  · rw [PolicyFlowAliasCache.set, lookup_insert_ite] at hfd
    split_ifs at hfd with hid
    · cases hfd
      exact ⟨entry, hid ▸ he, h⟩
    · exact ⟨found, hfd, .refl found⟩

theorem follows_modify {f : AliasEntry → AliasEntry} (h : ∀ entry, Carries entry (f entry)) :
    Follows cache (cache.modify id f) := by
  unfold PolicyFlowAliasCache.modify
  split
  · exact .refl cache
  · next entry he => exact follows_set he (h entry)

theorem follows_observeDirection (key : FlowKey) (direction : Direction) (clientIp : Option IpAddr)
    (egressIfindexes : Option (UInt32 × UInt32)) (tracked : Option ConntrackEntry) :
    Follows cache (cache.observeDirection id key direction clientIp egressIfindexes tracked) := by
  refine follows_modify fun entry => ?_
  split_ifs with hkey
  · cases direction with
    | upload => exact carries_observeShaped entry key _ hkey _ _ _
    | download => exact carries_observeShaped entry key _ hkey _ _ _
    | internal => exact carries_direction entry key _ hkey
    | unknown => exact carries_direction entry key _ hkey
  · exact .refl entry

theorem follows_reconcileForCommand (hashOrder : PolicyFlowAliasCache.HashOrder)
    (clientIfindex : Option UInt32) (conntrack : ConntrackContext) :
    Follows cache (.reconcileForCommand hashOrder cache id clientIfindex conntrack) := by
  refine PolicyFlowAliasCache.reconcileForCommand_rel (R := Follows) cache id (.refl cache)
    Follows.trans (fun entry he => follows_set he ?_) (fun _ => follows_observeDirection)
    hashOrder clientIfindex conntrack
  exact ⟨fun h => ⟨h.observed, h.verified, h.directions, Nat.zero_le _, nofun⟩, rfl, fun h => h⟩

variable {key : FlowKey}

theorem follows_insertProxyReturn (h : undisputed cache (.insertProxyReturn id key) = true) :
    Follows cache (cache.insertProxyReturn id key).2 := by
  unfold PolicyFlowAliasCache.insertProxyReturn
  split
  · exact .refl cache
  · next entry he =>
    rw [undisputed, he] at h
    split_ifs with hend hkey hfu
    · exact .refl cache
    · refine follows_set he (carries_verify entry key .download hkey ?_)
      simpa [hend, hkey] using h
    · exact follows_set he (carries_mark entry)
    · refine follows_set he (carries_verified entry key .download ?_)
      simp [AliasEntry.full, hfu]

theorem follows_markEnded : Follows cache (cache.markEnded id) :=
  follows_modify fun _ => ⟨fun h => { h with }, rfl,
    nofun⟩

theorem follows_prune (now tcpIdle udpIdle : ℕ) : Follows cache (cache.prune now tcpIdle udpIdle) := by
  refine ⟨rfl, ?_, fun id entry h => ⟨entry, ((lookup_keep _ _ _ _).1 h).1, .refl entry⟩⟩
  exact (List.filter_sublist.map _).length_le

/-! ### Runs stay tidy -/

/-- What holds of the cache after some operations. -/
structure Sound (ops : List Op) (cache : PolicyFlowAliasCache) : Prop where
  tidy : ∀ id entry, cache.entries.lookup id = some entry → Tidy entry
  fits : cache.entries.keys.length ≤ cache.capacity
  seen : ∀ id entry, cache.entries.lookup id = some entry → entry.ended = false →
    lastObserved ops id = some entry.lastSeen

variable {ops : List Op} {op : Op}

theorem lastObserved_concat :
    lastObserved (ops ++ [op]) id = (observedAt id op).or (lastObserved ops id) := by
  rw [lastObserved, List.foldl_append]
  rfl

section

variable (h : Sound ops cache)
include h

theorem Sound.follow (hfol : Follows cache cache')
    (hop : ∀ id, observedAt id op = none) : Sound (ops ++ [op]) cache' := by
  refine ⟨fun id entry' hentry' => ?_, ?_, fun id entry' hentry' hend => ?_⟩
  · obtain ⟨entry, he, hcar⟩ := hfol.entry id entry' hentry'
    exact hcar.tidy (h.tidy id entry he)
  · rw [hfol.capacity]
    exact hfol.count.trans h.fits
  · obtain ⟨entry, he, hcar⟩ := hfol.entry id entry' hentry'
    rw [lastObserved_concat, hop, hcar.lastSeen]
    exact h.seen id entry he (hcar.ended hend)

/-- An observation is stored with its time. -/
theorem Sound.set {clientMac : Option String} {now : ℕ} (htidy : Tidy entry)
    (hnow : entry.lastSeen = now)
    (hroom : cache.entries.lookup id = none → cache.entries.keys.length < cache.capacity) :
    Sound (ops ++ [.observeWithClient id key clientMac now]) (cache.set id entry) := by
  have hl : ∀ other, (cache.set id entry).entries.lookup other =
      if other = id then some entry else cache.entries.lookup other :=
    fun other => lookup_insert_ite other
  refine ⟨fun other found hfd => ?_, ?_, fun other found hfd hend => ?_⟩
  · have := h.tidy other found
    grind
  · have hfits := h.fits
    rw [length_keys_insert]
    cases hold : cache.entries.lookup id with
    | none => exact hroom hold
    | some old => exact hfits
  · have := h.seen other found
    rw [lastObserved_concat, observedAt]
    grind

theorem Sound.observeWithClient (id : String) (key : FlowKey)
    (clientMac : Option String) (now : ℕ) :
    Sound (ops ++ [.observeWithClient id key clientMac now])
      (cache.observeWithClient id key clientMac now).2 := by
  -- a flow that is not touched has ended or is not there
  have hsm : (∀ entry, cache.entries.lookup id = some entry → entry.ended = true) →
      Sound (ops ++ [.observeWithClient id key clientMac now]) cache := by
    refine fun hend => ⟨h.tidy, h.fits, fun other entry he hop => ?_⟩
    have := h.seen other entry he hop
    rw [lastObserved_concat, observedAt]
    grind
  unfold PolicyFlowAliasCache.observeWithClient
  split
  · next entry he =>
    have hnoted : Tidy ({ entry with lastSeen := now }.noteClient
        (clientMac.map toAsciiLowercase)) := by
      have htidy := h.tidy id entry he
      exact (carries_noteClient _ _).tidy
        { htidy with }
    have hnow := (carries_noteClient { entry with lastSeen := now }
      (clientMac.map toAsciiLowercase)).lastSeen
    have hroom : cache.entries.lookup id = none → cache.entries.keys.length < cache.capacity :=
      fun hn => by rw [hn] at he; cases he
    dsimp only
    split_ifs with hend hfu
    · exact hsm fun other ho => by grind
    · exact h.set ((carries_mark _).tidy hnoted) hnow hroom
    · have hpushed := (carries_pushKey _ key).tidy hnoted
      refine h.set ⟨?_, hpushed.verified, hpushed.directions, hpushed.few, hpushed.disjoint⟩ hnow
        hroom
      have hkey := mem_push_of_not_full _ key (Bool.eq_false_of_not_eq_true hfu)
      grind [AliasEntry.pushKey]
  · next hn =>
    split_ifs with hfu
    · exact hsm fun entry he => by rw [hn] at he; cases he
    · refine h.set ⟨fun _ hkey => hkey, ?_, ?_, Nat.zero_le _, ?_⟩ rfl fun _ => ?_
      iterate 3 exact fun _ hkey => by cases hkey
      omega

theorem Sound.step (hund : undisputed cache op = true) : Sound (ops ++ [op]) (step cache op) := by
  cases op with
  | observeWithClient id key clientMac now => exact h.observeWithClient id key clientMac now
  | observeDirection => exact h.follow (follows_observeDirection _ _ _ _ _) fun _ => rfl
  | insertProxyReturn => exact h.follow (follows_insertProxyReturn hund) fun _ => rfl
  | reconcileForCommand => exact h.follow (follows_reconcileForCommand _ _ _) fun _ => rfl
  | markEnded => exact h.follow follows_markEnded fun _ => rfl
  | prune => exact h.follow (follows_prune _ _ _) fun _ => rfl

theorem Sound.run {later : List Op} (hund : allUndisputed cache later = true) :
    Sound (ops ++ later) (later.foldl AliasRecords.step cache) := by
  induction later generalizing ops cache with
  | nil =>
    rw [List.append_nil]
    exact h
  | cons op later ih =>
    rw [allUndisputed, Bool.and_eq_true] at hund
    rw [List.append_cons]
    exact ih (h.step hund.1) hund.2

end

end Cache

/-- **The alias cache stays tidy.** In every run without a disputed proxy return every entry has at
most eight distinct keys and tidy records, there are no more entries than the capacity, and a flow
that has not ended and was observed within its time to live survives pruning. -/
theorem alias_cache_tidy (capacity : ℕ) (ops : List Op)
    (h : allUndisputed (.new capacity) ops = true) :
    (∀ id entry, (run capacity ops).entries.lookup id = some entry →
      Capped 8 entry.keys ∧ Tidy entry) ∧
    (run capacity ops).entries.keys.length ≤ (run capacity ops).capacity ∧
    ∀ id entry seen now tcpIdle udpIdle, (run capacity ops).entries.lookup id = some entry →
      entry.ended = false → lastObserved ops id = some seen →
      (now - seen < if entry.keys.all (·.protocol == 17) then udpIdle else tcpIdle) →
      ((run capacity ops).prune now tcpIdle udpIdle).entries.lookup id = some entry := by
  have hnone : ∀ id, (PolicyFlowAliasCache.new capacity).entries.lookup id = none := fun id => rfl
  have hnew : Sound [] (.new capacity) := ⟨by simp [hnone], Nat.zero_le _, by simp [hnone]⟩
  have hsound : Sound ops (run capacity ops) := hnew.run h
  refine ⟨fun id entry hentry => ⟨entry.keysCapped, hsound.tidy id entry hentry⟩, hsound.fits, ?_⟩
  intro id entry seen now tcpIdle udpIdle hentry hended hseen hlive
  rw [hsound.seen id entry hentry hended, Option.some_inj] at hseen
  subst hseen
  exact (lookup_keep _ _ _ _).2 ⟨hentry, decide_eq_true hlive⟩

/-! ### A disputed proxy return -/

/-- A client asks the proxy of its router. -/
def sampleKey : FlowKey := ⟨4, 6, 0, 1, 7, 0xc0a80002#32 ++ 0#96, 0xc0a80001#32 ++ 0#96, 50000, 3128⟩

/-- The answer of the proxy. -/
def sampleReturn : FlowKey := { sampleKey.reverse with hook := 2 }

/-- The request is seen on the client's interface without connection tracking, so the answer waits
for verification. Then the answer is seen. -/
def sampleRun : List Op :=
  [.observeWithClient "flow" sampleKey (some "02:00:00:00:00:01") 0,
    .observeDirection "flow" sampleKey .upload (some (.v4 0xc0a80002)) (some (7, 7)) none,
    .observeWithClient "flow" sampleReturn (some "02:00:00:00:00:01") 1,
    .observeDirection "flow" sampleReturn .internal none none none]

/-- The socket of the proxy verifies the answer, which still waits. -/
theorem proxy_return_stays_unresolved :
    ((run 8192 (sampleRun ++ [.insertProxyReturn "flow" sampleReturn])).entries.lookup "flow").any
      (fun entry => decide (sampleReturn ∈ entry.verified) &&
        decide (sampleReturn ∈ entry.unresolved)) = true := by
  decide +kernel

/-- A proxy return of another port is not disputed. -/
theorem alias_cache_tidy_sample :
    let ops := sampleRun ++
      [.insertProxyReturn "flow" { sampleReturn with sourcePort := 8080 }, .markEnded "other"]
    allUndisputed (.new 8192) ops = true ∧ lastObserved ops "flow" = some 1 ∧
      (∀ id entry, (run 8192 ops).entries.lookup id = some entry →
        Capped 8 entry.keys ∧ Tidy entry) ∧
      (run 8192 ops).entries.keys.length ≤ (run 8192 ops).capacity ∧
      ∀ entry, (run 8192 ops).entries.lookup "flow" = some entry → entry.ended = false →
        (10 < if entry.keys.all (·.protocol == 17) then 20 else 30) →
        ((run 8192 ops).prune 11 30 20).entries.lookup "flow" = some entry := by
  intro ops
  have hundisputed : allUndisputed (.new 8192) ops = true := by decide +kernel
  have hlast : lastObserved ops "flow" = some 1 := by decide +kernel
  obtain ⟨hentries, hcount, hprune⟩ := alias_cache_tidy 8192 ops hundisputed
  exact ⟨hundisputed, hlast, hentries, hcount, fun entry hentry hended hlive =>
    hprune "flow" entry 1 11 30 20 hentry hended hlast hlive⟩

end Netqmon.Agent.AliasRecords
