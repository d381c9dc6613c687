import Netqmon.Delivery
import Netqmon.Storage.Frames
import Netqmon.Storage.Restart
import Netqmon.Storage.Staging

/-! # Telemetry takes effect once and in order

The sender posts a batch again and again until an answer says that it was taken in. A request may
get lost, be handled late or more than once; its transaction may fail; the answer may get lost; and
the collector may restart at any time. Batches of other agents, late samples, roll-ups and pruning
go on between the attempts; retention, which forgets old batches, does not.

`record` writes down what should have happened: every batch where it was handled for the first time
without a failure, and everything else as it came.

* `ingestBatches_step`, `ingestBatches_fromConnectionAt`: nothing but a new batch changes which
  batches are known.
* `telemetry_takes_effect_once`: the storage is that of the record, and the record has the batches
  of the sender once each and in their order.
* `restart_changes_sessions`: without the restarts the record gives another database. -/

namespace Netqmon.ExactlyOnce

open Lib.Keyed Agent.Transport Collector.Ingest
open Delivery (Deployment)
open Protocol.Telemetry Storage.Attribution Storage.Schema
open Storage.Ledger Storage.Batch Storage.Operations
open Storage.Frames Storage.Restart Storage.Staging

/-! ### The system -/

/-- What the collector has found out about a batch when it stores it. -/
structure Attempt where
  attributions : List FlowAttribution
  /-- Devices that were seen in flows and discovery messages only. -/
  devices : List DeviceObservation
  receivedAtMs : ℕ

variable (attempt : Attempt)

/-- Store a batch with the observations the collector adds to it. -/
def Attempt.persist (batch : TelemetryBatch) (storage : SqliteStorage) :
    PersistDisposition × SqliteStorage :=
  persistClassifiedBatch
    { batch with deviceObservations := batch.deviceObservations ++ attempt.devices }
    attempt.attributions attempt.receivedAtMs storage

inductive Outcome
  /-- The classifier is not available, or a statement fails and the transaction is rolled back. -/
  | failed
  /-- The transaction ends; the answer, if it arrives, asks for probes. -/
  | finished (attempt : Attempt) (answer : Option (ProbeView × List ProbeRequest))

structure System where
  sender : Sender
  /-- The requests that were posted. Any of them may still be on its way. -/
  posted : List EncodedTelemetryBatch
  storage : SqliteStorage

inductive Event
  /-- The sender has no batch in flight and takes one from the buffer. -/
  | take (batch : TelemetryBatch)
  /-- The collector handles one of the requests. -/
  | handle (number : ℕ) (outcome : Outcome)
  /-- The collector stops and starts again. -/
  | restart (scan : Scan) (turns : List StartupTurn) (nowMs : ℕ)
  | operate (op : Op)

variable (d : Deployment)

/-- A batch of this agent since its start. -/
def isOwn (batch : TelemetryBatch) : Bool :=
  batch.gatewayId = d.gatewayId && batch.bootId = d.bootId

/-- Anything but a batch of this agent. -/
def isForeign : Op → Bool
  | .persist batch _ _ => !isOwn d batch
  | _ => true

def takeBatch (batch : TelemetryBatch) (s : System) : System :=
  match s.sender.inFlight with
  | some _ => s
  | none =>
    let sender := s.sender.take d.bootId batch
    { s with
      sender
      posted := s.posted ++ sender.inFlight.toList.map (Sender.request d.zstdLen d.gatewayId) }

/-- The request passes the checks of the handler. -/
def isAdmissible (request : EncodedTelemetryBatch) : Bool :=
  match checkTelemetry d.gatewayId request with
  | .ok () => true
  | .error _ => false

variable (number : ℕ)

/-- An answer counts only if it is about the batch in flight, which was posted last. -/
def answered (answer : Option (ProbeView × List ProbeRequest)) (s : System) : Sender :=
  match answer with
  | some (view, requests) =>
    if number + 1 = s.posted.length && s.sender.inFlight.isSome then
      s.sender.accepted view requests
    else s.sender
  | none => s.sender

def handle (outcome : Outcome) (s : System) : System :=
  match s.posted[number]?, outcome with
  | some request, .finished attempt answer =>
    if isAdmissible d request then
      { s with
        sender := answered number answer s
        storage := (attempt.persist request.batch s.storage).2 }
    else s
  | _, _ => s

def step (s : System) : Event → System
  | .take batch => takeBatch d batch s
  | .handle number outcome => handle d number outcome s
  | .restart scan turns nowMs =>
    { s with storage := fromConnectionAt scan turns nowMs s.storage.database }
  | .operate op =>
    if isForeign d op then { s with storage := Storage.Operations.step s.storage op } else s

/-! ### The record -/

/-- Something that should change the storage. -/
inductive Change
  | persist (attempt : Attempt) (batch : TelemetryBatch)
  | restart (scan : Scan) (turns : List StartupTurn) (nowMs : ℕ)
  | operate (op : Op)

variable (storage : SqliteStorage)

def Change.apply : Change → SqliteStorage
  | .persist attempt batch => (attempt.persist batch storage).2
  | .restart scan turns nowMs => fromConnectionAt scan turns nowMs storage.database
  | .operate op => Storage.Operations.step storage op

variable (start : SqliteStorage) (changes : List Change)

def replay : SqliteStorage :=
  changes.foldl Change.apply start

def Change.persisted : Change → Option TelemetryBatch
  | .persist _ batch => some batch
  | _ => none

/-- The batches of a record. -/
def batches : List TelemetryBatch := changes.filterMap Change.persisted

/-- What an event adds to the record. A batch is added once: its number is that of the first batch
which is not in the record yet. -/
def newChange (s : System) (changes : List Change) : Event → Option Change
  | .handle number (.finished attempt _) =>
    match s.posted[number]? with
    | some request =>
      if isAdmissible d request && (batches changes).length ≤ number then
        some (.persist attempt request.batch)
      else none
    | none => none
  | .restart scan turns nowMs => some (.restart scan turns nowMs)
  | .operate op => if isForeign d op then some (.operate op) else none
  | _ => none

/-- A system with its record. -/
structure Recorded where
  system : System
  changes : List Change

def record (r : Recorded) (event : Event) : Recorded :=
  ⟨step d r.system event, r.changes ++ (newChange d r.system r.changes event).toList⟩

def run (start : SqliteStorage) (events : List Event) : Recorded :=
  events.foldl (record d) ⟨⟨.new, [], start⟩, []⟩

/-- How the batches of a record are taken in. -/
def dispositions : SqliteStorage → List Change → List PersistDisposition
  | _, [] => []
  | storage, c :: changes =>
    match c with
    | .persist attempt batch =>
      (attempt.persist batch storage).1 :: dispositions (c.apply storage) changes
    | _ => dispositions (c.apply storage) changes

/-! ### Which batches are known -/

variable (batch : TelemetryBatch)

/-- The row that a batch leaves. -/
def entryOf : String × String × ℤ :=
  (batch.gatewayId, batch.bootId, toI64 batch.sequence)

theorem ingestBatches_updateActiveFlow (receivedAt : ℤ) (st : BatchState)
    (delta : FlowDelta × FlowAttribution) :
    (updateActiveFlow batch receivedAt st delta).db.ingestBatches = st.db.ingestBatches := by
  have hsettle : ∀ prev cur,
      (settle batch prev cur receivedAt st).db.ingestBatches = st.db.ingestBatches := by
    intro prev cur
    unfold settle
    split
    · exact (reassign_kept _ _).1
    · rfl
  unfold updateActiveFlow count
  rw [outside_checkpoint.ingestBatches, (outside_record batch).ingestBatches]
  exact hsettle _ _

variable (attributions : List FlowAttribution)

/-- **A batch is taken in exactly if its row is new**, and then leaves it. -/
theorem ingestBatches_persist (nowMs : ℕ) (storage : SqliteStorage) :
    (storage.database.ingestBatches.lookup (entryOf batch) ≠ none ∧
      persistClassifiedBatch batch attributions nowMs storage = (.duplicate, storage)) ∨
    (storage.database.ingestBatches.lookup (entryOf batch) = none ∧
      (persistClassifiedBatch batch attributions nowMs storage).1 = .accepted ∧
      (persistClassifiedBatch batch attributions nowMs storage).2.database.ingestBatches =
        storage.database.ingestBatches.insert (entryOf batch) (toI64 nowMs)) := by
  unfold persistClassifiedBatch
  dsimp only
  cases hrow : storage.database.ingestBatches.lookup (entryOf batch) with
  | some _ =>
    refine .inl ⟨Option.some_ne_none _, ?_⟩
    rw [show storage.database.ingestBatches.lookup
      (batch.gatewayId, batch.bootId, toI64 batch.sequence) = some _ from hrow]
    rfl
  | none =>
    refine .inr ⟨rfl, ?_⟩
    rw [show storage.database.ingestBatches.lookup
      (batch.gatewayId, batch.bootId, toI64 batch.sequence) = none from hrow]
    exact ⟨rfl, List.foldlRecOn (motive := fun st : BatchState => st.db.ingestBatches = _)
      (classified batch.flows attributions) _ rfl
      fun st hst delta _ => (ingestBatches_updateActiveFlow batch _ st delta).trans hst⟩

/-- Operations other than a batch leave the rows as they are. -/
theorem ingestBatches_step {op : Op} (hop : ∀ batch attributions receivedAtMs,
      op ≠ .persist batch attributions receivedAtMs) (storage : SqliteStorage) :
    (Storage.Operations.step storage op).database.ingestBatches =
      storage.database.ingestBatches := by
  cases op with
  | persist batch attributions receivedAtMs => exact absurd rfl (hop batch attributions receivedAtMs)
  | reclassify scan gateway flow attr receivedAtMs =>
    refine foldl_fixed
      (fun db ss => ?_) _ _
    exact (reassign_kept _ _).1
  | prune nowMs => exact (outside_pruneReclassification _).ingestBatches
  | pruneBounded scan nowMs limit => exact (outside_pruneReclassificationBounded ..).ingestBatches
  | rollUp nowMs =>
    unfold Storage.Operations.step rollUpHourAndDay markAggregated
    rfl

theorem ingestBatches_fromConnectionAt (scan : Scan) (turns : List StartupTurn) (nowMs : ℕ)
    (db : Database) :
    (fromConnectionAt scan turns nowMs db).database.ingestBatches = db.ingestBatches := by
  suffices ∀ (rows : ℕ) (storage : SqliteStorage),
      (pruneReclassificationAtStartup nowMs turns rows storage).database.ingestBatches =
        storage.database.ingestBatches from this _ ⟨db, ∅⟩
  induction turns with
  | nil => exact fun rows storage => rfl
  | cons turn turns ih =>
    intro rows storage
    cases turn with
    | busy => exact ih rows storage
    | interrupted => exact ih _ storage
    | committed slice fast =>
      have hslice := (outside_pruneReclassificationBounded slice nowMs rows storage).ingestBatches
      unfold pruneReclassificationAtStartup
      dsimp only
      split
      · exact hslice
      · exact (ih _ _).trans hslice

/-! ### The invariant -/

/-- The sequence number of a batch. -/
def sequenceOf : ℕ := min (number + 1) Agent.Transport.u64Max

/-- A batch of this agent with this number is known. -/
def isKnown (sequence : ℤ) : Prop :=
  storage.database.ingestBatches.lookup (d.gatewayId, d.bootId, sequence) ≠ none

structure Numbered (d : Deployment) (number : ℕ) (batch : TelemetryBatch) : Prop where
  gateway : batch.gatewayId = d.gatewayId
  boot : batch.bootId = d.bootId
  sequence : batch.sequence = sequenceOf number

structure InStep (d : Deployment) (start : SqliteStorage) (r : Recorded) : Prop where
  replayed : r.system.storage = replay start r.changes
  inOrder : batches r.changes =
    (r.system.posted.take (batches r.changes).length).map (·.batch)
  /-- Only the batch in flight may be missing in the record. -/
  allButLast : r.system.posted.length ≤ (batches r.changes).length + 1
  idle : r.system.sender.inFlight = none → r.system.posted.length ≤ (batches r.changes).length
  counted : r.system.sender.sequence = min r.system.posted.length Agent.Transport.u64Max
  numbered : ∀ number request, r.system.posted[number]? = some request →
    Numbered d number request.batch
  known : ∀ sequence, isKnown d r.system.storage sequence ↔
    ∃ number < (batches r.changes).length, sequence = toI64 (sequenceOf number)
  taken : ∀ number, (dispositions start r.changes)[number]? = some .duplicate → 2 ^ 63 ≤ number + 1

variable {c : Change}

theorem replay_append : replay start (changes ++ [c]) = c.apply (replay start changes) := by
  rw [replay, List.foldl_append]
  rfl

theorem batches_append : batches (changes ++ [c]) = batches changes ++ c.persisted.toList := by
  unfold batches
  cases hc : c.persisted <;> simp [hc]

/-- How one more change is taken in, if it is a batch. -/
def Change.disposition : Change → Option PersistDisposition
  | .persist attempt batch => some (attempt.persist batch storage).1
  | _ => none

theorem dispositions_append :
    dispositions start (changes ++ [c]) =
      dispositions start changes ++ (c.disposition (replay start changes)).toList := by
  induction changes generalizing start with
  | nil => cases c <;> rfl
  | cons first changes ih =>
    have hr := ih (first.apply start)
    cases first with
    | persist attempt batch => exact congrArg _ hr
    | restart scan turns nowMs => exact hr
    | operate op => exact hr

theorem length_dispositions : (dispositions start changes).length = (batches changes).length := by
  induction changes generalizing start with
  | nil => rfl
  | cons c changes ih =>
    have hr := ih (c.apply start)
    cases c with
    | persist attempt batch => exact congrArg Nat.succ hr
    | restart scan turns nowMs => exact hr
    | operate op => exact hr

variable (batch : TelemetryBatch)

theorem Attempt.persist_cases (storage : SqliteStorage) :
    (storage.database.ingestBatches.lookup (entryOf batch) ≠ none ∧
      attempt.persist batch storage = (.duplicate, storage)) ∨
    (storage.database.ingestBatches.lookup (entryOf batch) = none ∧
      (attempt.persist batch storage).1 = .accepted ∧
      (attempt.persist batch storage).2.database.ingestBatches =
        storage.database.ingestBatches.insert (entryOf batch) (toI64 attempt.receivedAtMs)) :=
  ingestBatches_persist
    { batch with deviceObservations := batch.deviceObservations ++ attempt.devices }
    attempt.attributions attempt.receivedAtMs storage

theorem batch_encodeTelemetryBatch (zstdLen : TelemetryBatch → ℕ) (batch : TelemetryBatch)
    (threshold : ℕ) : (encodeTelemetryBatch zstdLen batch threshold).batch = batch := by
  unfold encodeTelemetryBatch
  split <;> rfl

/-- Batches of other agents leave the rows of this one as they are. -/
theorem isKnown_foreign {d : Deployment} {op : Op} (h : isForeign d op = true)
    (storage : SqliteStorage) (sequence : ℤ) :
    isKnown d (Storage.Operations.step storage op) sequence ↔ isKnown d storage sequence := by
  unfold isKnown
  cases op with
  | persist batch attributions nowMs =>
    have ho : (d.gatewayId, d.bootId, sequence) ≠ entryOf batch := by
      grind [entryOf, isForeign, isOwn]
    rw [Storage.Operations.step]
    rcases ingestBatches_persist batch attributions nowMs storage with
      ⟨-, hsm⟩ | ⟨-, -, hrow⟩
    · rw [hsm]
    · rw [hrow, lookup_insert_ite, if_neg ho]
  | reclassify | prune | pruneBounded | rollUp =>
    rw [ingestBatches_step fun _ _ _ heq => by cases heq]

theorem toI64_sequenceOf_inj {a b : ℕ} (hb : b + 1 < 2 ^ 63) (hlt : a < b) :
    toI64 (sequenceOf a) ≠ toI64 (sequenceOf b) := by
  unfold sequenceOf toI64 i64Max Agent.Transport.u64Max
  omega

theorem handle_failed (s : System) : handle d number .failed s = s := by
  unfold handle
  split
  · rename_i heq
    cases heq
  · rfl

theorem inStep_new {d : Deployment} {start : SqliteStorage}
    (h : ∀ sequence, ¬ isKnown d start sequence) : InStep d start ⟨⟨.new, [], start⟩, []⟩ where
  replayed := rfl
  inOrder := rfl
  allButLast := Nat.zero_le _
  idle _ := Nat.le_refl _
  counted := rfl
  numbered _ _ hn := by cases hn
  known sequence := ⟨fun hkn => absurd hkn (h sequence), fun ⟨_, hlt, _⟩ => by cases hlt⟩
  taken _ hn := by cases hn

variable {request : EncodedTelemetryBatch}

section Steps

variable {d : Deployment} {start : SqliteStorage} {r : Recorded} (h : InStep d start r)
include h

theorem InStep.unrecorded :
    InStep d start ⟨r.system, r.changes ++ (none : Option Change).toList⟩ := by
  rw [Option.toList_none, List.append_nil]
  exact h

/-- Nothing is recorded, and the storage stays as it is. -/
theorem InStep.quiet {system : System} (hstore : system.storage = r.system.storage)
    (hposted : system.posted = r.system.posted)
    (hseq : system.sender.sequence = r.system.sender.sequence)
    (hid : system.sender.inFlight = none →
      r.system.sender.inFlight = none ∨ r.system.posted.length ≤ (batches r.changes).length) :
    InStep d start ⟨system, r.changes⟩ where
  replayed := hstore.trans h.replayed
  inOrder := by rw [hposted]; exact h.inOrder
  allButLast := by rw [hposted]; exact h.allButLast
  idle hn := by
    rw [hposted]
    exact (hid hn).elim h.idle id
  counted := by rw [hposted, hseq]; exact h.counted
  numbered := by rw [hposted]; exact h.numbered
  known := by rw [hstore]; exact h.known
  taken := h.taken

theorem InStep.other (hc : c.persisted = none) (hd : ∀ storage, c.disposition storage = none)
    (hkn : ∀ sequence, isKnown d (c.apply r.system.storage) sequence ↔
      isKnown d r.system.storage sequence) :
    InStep d start ⟨{ r.system with storage := c.apply r.system.storage }, r.changes ++ [c]⟩ := by
  have hbs : batches (r.changes ++ [c]) = batches r.changes := by
    rw [batches_append, hc, Option.toList_none, List.append_nil]
  have hdispositions : dispositions start (r.changes ++ [c]) = dispositions start r.changes := by
    rw [dispositions_append, hd, Option.toList_none, List.append_nil]
  refine ⟨?_, ?_, ?_, ?_, h.counted, h.numbered, fun sequence => ?_, ?_⟩
  · rw [replay_append, ← h.replayed]
  · rw [hbs]; exact h.inOrder
  · rw [hbs]; exact h.allButLast
  · rw [hbs]; exact h.idle
  · rw [hbs, ← h.known]; exact hkn sequence
  · rw [hdispositions]; exact h.taken

theorem InStep.length_le : (batches r.changes).length ≤ r.system.posted.length := by
  have hlen := congrArg List.length h.inOrder
  grind

theorem InStep.takeBatch : InStep d start ⟨takeBatch d batch r.system, r.changes⟩ := by
  have hlen := h.length_le
  unfold ExactlyOnce.takeBatch
  split
  · exact h
  · rename_i hid
    have hall := h.idle hid
    have hcnt := h.counted
    refine ⟨h.replayed, ?_, ?_, fun hn => (by cases hn), ?_, fun number request hreq => ?_,
      h.known, h.taken⟩
    · rw [List.take_append_of_le_length hlen]
      exact h.inOrder
    · grind
    · grind [Sender.take]
    · rw [List.getElem?_append] at hreq
      split at hreq
      · exact h.numbered number request hreq
      · simp only [Sender.take, Option.toList_some, List.map_singleton,
          List.getElem?_singleton] at hreq
        split at hreq
        · cases hreq
          refine ⟨?_, ?_, ?_⟩
          · rw [Sender.request, batch_encodeTelemetryBatch]
          · rw [Sender.request, batch_encodeTelemetryBatch]
          · rw [Sender.request, batch_encodeTelemetryBatch]
            grind [sequenceOf]
        · cases hreq

variable {number : ℕ}

/-- A batch that is in the record is a duplicate and changes nothing. -/
theorem InStep.repeated (hreq : r.system.posted[number]? = some request)
    (hold : number < (batches r.changes).length) (attempt : Attempt) :
    attempt.persist request.batch r.system.storage = (.duplicate, r.system.storage) := by
  have hnum := h.numbered number request hreq
  have hkn := (h.known _).2 ⟨number, hold, rfl⟩
  rcases attempt.persist_cases request.batch r.system.storage with ⟨-, hsm⟩ | ⟨hnew, -⟩
  · exact hsm
  · rw [entryOf, hnum.gateway, hnum.boot, hnum.sequence] at hnew
    exact absurd hnew hkn

/-- The next batch is handled for the first time. -/
theorem InStep.first (hreq : r.system.posted[number]? = some request)
    (hnew : (batches r.changes).length ≤ number) (attempt : Attempt) {sender : Sender}
    (hseq : sender.sequence = r.system.sender.sequence) :
    InStep d start
      ⟨{ r.system with
          sender
          storage := (attempt.persist request.batch r.system.storage).2 },
        r.changes ++ [.persist attempt request.batch]⟩ := by
  have hlt := (List.getElem?_eq_some_iff.1 hreq).1
  have hall := h.allButLast
  -- only the last batch may be missing, so it is this one
  have hnumber : number = (batches r.changes).length := by omega
  have hbs : batches (r.changes ++ [.persist attempt request.batch]) =
      batches r.changes ++ [request.batch] := batches_append _
  have hlen : (batches (r.changes ++ [.persist attempt request.batch])).length =
      (batches r.changes).length + 1 := by
    rw [hbs, List.length_append, List.length_singleton]
  have hnum := h.numbered number request hreq
  have he : entryOf request.batch =
      (d.gatewayId, d.bootId, toI64 (sequenceOf number)) := by
    rw [entryOf, hnum.gateway, hnum.boot, hnum.sequence]
  refine ⟨?_, ?_, ?_, fun _ => ?_, ?_, h.numbered, fun sequence => ?_, fun other ho => ?_⟩
  · rw [replay_append, ← h.replayed]
    rfl
  · rw [hlen, hbs, List.take_add_one, List.map_append, ← h.inOrder, ← hnumber, hreq]
    rfl
  · grind
  · rw [hlen]
    exact hall
  · rw [hseq]
    exact h.counted
  · have hone : isKnown d (attempt.persist request.batch r.system.storage).2 sequence ↔
        sequence = toI64 (sequenceOf number) ∨ isKnown d r.system.storage sequence := by
      unfold isKnown
      rcases attempt.persist_cases request.batch r.system.storage with ⟨hkn, hsm⟩ | ⟨-, -, hrow⟩
      · grind
      · grind
    rw [hone, h.known]
    grind
  · rw [dispositions_append, List.getElem?_append, length_dispositions] at ho
    split at ho
    · exact h.taken other ho
    · by_contra hsmall
      have hthis : other = number := by grind
      subst hthis
      rw [hnumber, Nat.sub_self, ← h.replayed] at ho
      have hdup : (attempt.persist request.batch r.system.storage).1 = .duplicate :=
        Option.some.inj ho
      rcases attempt.persist_cases request.batch r.system.storage with ⟨hkn, -⟩ | ⟨-, hok, -⟩
      · rw [he] at hkn
        obtain ⟨earlier, hearlier, heq⟩ := (h.known _).1 hkn
        exact toI64_sequenceOf_inj (by omega) (by omega) heq.symm
      · grind

theorem InStep.handle (number : ℕ) (outcome : Outcome) :
    InStep d start (record d r (.handle number outcome)) := by
  unfold record ExactlyOnce.step newChange
  cases outcome with
  | failed =>
    dsimp only
    rw [handle_failed]
    exact h.unrecorded
  | finished attempt answer =>
    unfold ExactlyOnce.handle
    dsimp only
    cases hreq : r.system.posted[number]? with
    | none => exact h.unrecorded
    | some request =>
      dsimp only
      by_cases hadm : isAdmissible d request = true
      swap
      · rw [if_neg hadm, Bool.eq_false_iff.2 hadm, Bool.false_and]
        exact h.unrecorded
      rw [hadm, Bool.true_and]
      have hseq : (answered number answer r.system).sequence = r.system.sender.sequence := by
        unfold answered
        split
        · split <;> rfl
        · rfl
      by_cases hnew : (batches r.changes).length ≤ number
      · rw [decide_eq_true hnew]
        exact h.first hreq hnew attempt hseq
      · rw [decide_eq_false hnew]
        have hquiet : InStep d start
            ⟨{ r.system with
                sender := answered number answer r.system
                storage := (attempt.persist request.batch r.system.storage).2 }, r.changes⟩ := by
          refine h.quiet ?_ rfl hseq fun hid => ?_
          · exact congrArg Prod.snd (h.repeated hreq (Nat.lt_of_not_le hnew) attempt)
          · revert hid
            unfold answered
            split
            · split
              · rename_i hla
                simp only [Bool.and_eq_true, decide_eq_true_eq] at hla
                exact fun _ => .inr (by omega)
              · exact .inl
            · exact .inl
        exact hquiet.unrecorded

theorem InStep.step (event : Event) : InStep d start (record d r event) := by
  cases event with
  | take batch => exact (h.takeBatch batch).unrecorded
  | handle number outcome => exact h.handle number outcome
  | restart scan turns nowMs =>
    refine h.other (c := .restart scan turns nowMs) rfl (fun _ => rfl) fun sequence => ?_
    unfold isKnown Change.apply
    rw [ingestBatches_fromConnectionAt]
  | operate op =>
    unfold record ExactlyOnce.step newChange
    dsimp only
    by_cases hfor : isForeign d op = true
    · rw [if_pos hfor, if_pos hfor]
      exact h.other (c := .operate op) rfl (fun _ => rfl) fun sequence =>
        isKnown_foreign hfor r.system.storage sequence
    · rw [if_neg hfor, if_neg hfor]
      exact h.unrecorded

end Steps

/-! ### The result -/

/-- Store a batch without staging: the flows in memory are updated in place. -/
def persistInPlace (batch : TelemetryBatch) (storage : SqliteStorage) : SqliteStorage :=
  let batch := { batch with deviceObservations := batch.deviceObservations ++ attempt.devices }
  if (storage.database.ingestBatches.lookup (entryOf batch)).isSome then storage
  else
    let receivedAt := toI64 attempt.receivedAtMs
    let updated := updateActiveFlows batch attempt.attributions receivedAt storage.activeFlows
      (admitted batch receivedAt storage.database)
    ⟨updated.2, updated.1⟩

/-- **Telemetry takes effect exactly once and in order.** After any events the storage is that of the
record; a sender that has got through its batches finds them in the record once each and in their
order, and every one of the first `2 ^ 63 - 1` was taken in. An attempt that fails or is a duplicate
changes neither the database nor the flows in memory, and staging gives the flows that an update in
place gives. -/
theorem telemetry_takes_effect_once (d : Deployment) (start : SqliteStorage)
    (hnew : ∀ sequence, ¬ isKnown d start sequence) (events : List Event) :
    (run d start events).system.storage = replay start (run d start events).changes ∧
      ((run d start events).system.sender.inFlight = none →
        batches (run d start events).changes =
          (run d start events).system.posted.map (·.batch)) ∧
      (∀ number disposition, number + 1 < 2 ^ 63 →
        (dispositions start (run d start events).changes)[number]? = some disposition →
        disposition = .accepted) ∧
      (∀ number, step d (run d start events).system (.handle number .failed) =
        (run d start events).system) ∧
      ∀ (attempt : Attempt) (batch : TelemetryBatch) (storage : SqliteStorage),
        ((attempt.persist batch storage).1 = .duplicate →
          (attempt.persist batch storage).2 = storage) ∧
        (attempt.persist batch storage).2.database =
          (persistInPlace attempt batch storage).database ∧
        ∀ key, (attempt.persist batch storage).2.activeFlows.lookup key =
          (persistInPlace attempt batch storage).activeFlows.lookup key := by
  have h : InStep d start (run d start events) := List.foldlRecOn events _
    (inStep_new hnew) fun _ hr event _ => hr.step event
  refine ⟨h.replayed, fun hidle => ?_, fun number disposition hsmall hdisposition => ?_,
    fun number => handle_failed d number _, fun attempt batch storage => ⟨fun hduplicate => ?_, ?_⟩⟩
  · have hall := h.idle hidle
    rw [h.inOrder, List.take_of_length_le hall]
  · cases disposition with
    | accepted => rfl
    | duplicate =>
      have hlarge := h.taken number hdisposition
      omega
  · rcases attempt.persist_cases batch storage with ⟨-, hsame⟩ | ⟨-, haccepted, -⟩
    · rw [hsame]
    · grind
  · unfold Attempt.persist persistClassifiedBatch persistInPlace entryOf
    dsimp only
    split
    · exact ⟨rfl, fun _ => rfl⟩
    · exact ⟨database_staged, fun key => lookup_staged⟩

/-- An agent with the usual settings. -/
def sampleDeployment : Deployment where
  gatewayId := "gateway"
  bootId := "boot"
  capacityBytes := 8 * 1024 * 1024
  tcpIdleTimeout := 120000000000
  udpIdleTimeout := 60000000000
  zstdLen := TelemetryBatch.encodedLen
  gatewayId_ne := by decide
  bootId_ne := by decide

def sampleAttempt (age : ℕ) : Attempt := ⟨[], [], sampleTime + age⟩

theorem length_zeros : (List.replicate 32 (0 : UInt8)).length = 32 := rfl

def noProbes : ProbeView where
  sha256 _ := ⟨List.replicate 32 0, length_zeros⟩
  observedAtMs _ := sampleTime
  clientBuilds := true
  iconPaths _ _ := []
  fetch _ _ _ := none

/-- The first answer gets lost, the collector is down for half an hour, and the batch is sent
again. -/
def outage : List Event :=
  [.take (sampleBatch 0 0 1), .handle 0 .failed, .handle 0 (.finished (sampleAttempt 10) none),
    .restart .asStored [.committed .asStored false] (sampleTime + 31 * 60000),
    .handle 0 (.finished (sampleAttempt (31 * 60000 + 10)) (some (noProbes, [])))]

theorem outage_takes_effect_once :
    (run sampleDeployment .empty outage).system.sender.inFlight = none ∧
      (run sampleDeployment .empty outage).system.storage =
        replay .empty (run sampleDeployment .empty outage).changes ∧
      batches (run sampleDeployment .empty outage).changes =
        (run sampleDeployment .empty outage).system.posted.map (·.batch) := by
  have hidle : (run sampleDeployment .empty outage).system.sender.inFlight = none := by
    decide +kernel
  obtain ⟨hreplayed, hbatches, -⟩ := telemetry_takes_effect_once sampleDeployment .empty
    (fun sequence hknown => hknown rfl) outage
  exact ⟨hidle, hreplayed, hbatches hidle⟩

/-- **A restart is not neutral.** The collector that was down closes the flow of the batch when it
starts; without the restart no session of it is stored yet. -/
theorem restart_changes_sessions :
    (run sampleDeployment .empty outage).system.sender.inFlight = none ∧
      (run sampleDeployment .empty outage).system.storage.database ≠
        (replay .empty ((run sampleDeployment .empty outage).changes.filter
          (·.persisted.isSome))).database := by
  refine ⟨by decide +kernel, fun heq => ?_⟩
  have hrows := congrArg (fun db : Database => db.flowSessions.entries.length) heq
  revert hrows
  decide +kernel

end Netqmon.ExactlyOnce
