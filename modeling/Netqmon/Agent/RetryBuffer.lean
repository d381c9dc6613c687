import Mathlib
import Netqmon.Agent.Transport

/-! # What the retry buffer keeps

Every call of the buffer works under its lock, so that any interleaving of the threads that push, take
and close is a list of calls (`BufferCall`). Over all of them the buffer keeps its books: a batch that
was pushed is delivered, waiting or dropped, and only once; nothing overtakes; the bytes are those of
the batches that wait; and every batch that is lost is counted (`Accounts`). -/

namespace Netqmon.Agent.RetryBuffer

open Protocol.Telemetry Agent.Transport Agent.Transport.TelemetryBuffer

inductive BufferCall where
  | push (batch : TelemetryBatch)
  | pop
  | close

/-- The buffer, with what was pushed and what was taken so far. -/
structure World where
  buffer : TelemetryBuffer
  (pushed delivered : List TelemetryBatch)

def World.step (w : World) : BufferCall → World
  | .push batch => ⟨w.buffer.push batch, w.pushed ++ [batch], w.delivered⟩
  | .pop =>
    match w.buffer.pop with
    | none => w
    | some (batch, buffer) => ⟨buffer, w.pushed, w.delivered ++ [batch]⟩
  | .close => { w with buffer := w.buffer.close }

def run (capacityBytes : ℕ) (calls : List BufferCall) : World :=
  calls.foldl World.step ⟨.new capacityBytes, [], []⟩

/-- The statistics count the batches in `dropped`. -/
structure Counts (dropped : List TelemetryBatch) (stats : TransportStats) : Prop where
  batches : stats.droppedBatches = dropped.length % 2 ^ 64
  flows : stats.droppedFlows = (dropped.map (·.flows.length)).sum % 2 ^ 64
  bytes : stats.droppedBytes = (dropped.map (·.encodedLen)).sum % 2 ^ 64

variable {dropped : List TelemetryBatch} {stats : TransportStats}

theorem Counts.record (h : Counts dropped stats) (b : TelemetryBatch) :
    Counts (dropped ++ [b]) (stats.recordDropped b b.encodedLen) := by
  constructor <;> simp [TransportStats.recordDropped, h.batches, h.flows, h.bytes]

/-- The entries of a queue know the size of their batch, and `bytes` is the sum of these. -/
structure Measured (queue : List QueuedTelemetry) (bytes : ℕ) : Prop where
  sizes : ∀ queued ∈ queue, queued.encodedBytes = queued.batch.encodedLen
  sum : bytes = (queue.map (·.encodedBytes)).sum

variable {queue : List QueuedTelemetry} {bytes : ℕ}

theorem Measured.tail {oldest : QueuedTelemetry} (h : Measured (oldest :: queue) bytes) :
    Measured queue (bytes - oldest.encodedBytes) :=
  ⟨fun queued hmem => h.sizes queued (List.mem_cons_of_mem _ hmem), by simp [h.sum]⟩

/-- The oldest batches go, and are counted, until the new one fits. -/
theorem evict_spec {cap encodedBytes : ℕ} (hfits : encodedBytes ≤ cap)
    (h : Measured queue bytes) (hcounts : Counts dropped stats) :
    let room := evict cap encodedBytes queue bytes stats
    Measured room.1 room.2.1 ∧ room.2.1 + encodedBytes ≤ cap ∧
      ∃ gone, queue = gone ++ room.1 ∧ Counts (dropped ++ gone.map (·.batch)) room.2.2 := by
  induction queue generalizing bytes dropped stats with
  | nil =>
    have hz : bytes = 0 := h.sum
    exact ⟨h, by simpa [evict, hz] using hfits, [], rfl, by simpa [evict] using hcounts⟩
  | cons oldest rest ih =>
    unfold evict
    split_ifs with hfu
    · have holdest := hcounts.record oldest.batch
      rw [← h.sizes oldest List.mem_cons_self] at holdest
      obtain ⟨hmeasured, hroom, gone, hsp, hgo⟩ := ih h.tail holdest
      refine ⟨hmeasured, hroom, oldest :: gone, by rw [List.cons_append, ← hsp], ?_⟩
      simpa using hgo
    · exact ⟨h, not_lt.1 hfu, [], rfl, by simpa using hcounts⟩

/-- **The books of the buffer.** -/
structure Accounts (dropped : List TelemetryBatch) (w : World) : Prop where
  measured : Measured w.buffer.batches w.buffer.bytes
  fits : w.buffer.bytes ≤ w.buffer.capacityBytes
  order : (w.delivered ++ w.buffer.batches.map (·.batch)).Sublist w.pushed
  all : w.pushed.Perm (w.delivered ++ w.buffer.batches.map (·.batch) ++ dropped)
  counts : Counts dropped w.buffer.stats
  depth : w.buffer.stats.queueDepth = w.buffer.batches.length
  queueBytes : w.buffer.stats.queueBytes = w.buffer.bytes

variable {w : World}

theorem Accounts.push (h : Accounts dropped w) (b : TelemetryBatch) :
    ∃ dropped, Accounts dropped (w.step (.push b)) := by
  unfold World.step TelemetryBuffer.push
  dsimp only
  split_ifs with hrefused
  · -- a b that is refused counts as dropped
    refine ⟨dropped ++ [b], h.measured, h.fits, h.order.trans (List.sublist_append_left _ _), ?_,
      h.counts.record b, h.depth, h.queueBytes⟩
    rw [← List.append_assoc]
    exact h.all.append_right _
  · rw [Bool.or_eq_true, decide_eq_true_eq, not_or, not_lt] at hrefused
    obtain ⟨hmeasured, hroom, gone, hsp, hgo⟩ := evict_spec hrefused.2 h.measured h.counts
    have hall := h.all
    have hor := h.order
    rw [hsp, List.map_append] at hall hor
    refine ⟨dropped ++ gone.map (·.batch), ⟨?_, ?_⟩, hroom, ?_, ?_, { hgo with }, rfl,
      rfl⟩
    · intro queued hmem
      rcases List.mem_append.1 hmem with hmem | hmem
      · exact hmeasured.sizes queued hmem
      · rw [List.mem_singleton.1 hmem]
    · simp [hmeasured.sum]
    · have hk : (w.delivered ++ (evict w.buffer.capacityBytes b.encodedLen w.buffer.batches
          w.buffer.bytes w.buffer.stats).1.map (·.batch)).Sublist w.pushed :=
        ((List.sublist_append_right _ _).append_left _).trans hor
      simpa using hk.append (List.Sublist.refl [b])
    · refine (hall.append_right [b]).trans ?_
      rw [List.perm_iff_count]
      intro other
      simp only [List.count_append, List.map_append, List.map_cons, List.map_nil]
      omega

theorem Accounts.pop (h : Accounts dropped w) : Accounts dropped (w.step .pop) := by
  unfold World.step TelemetryBuffer.pop
  cases hq : w.buffer.batches with
  | nil => exact h
  | cons queued rest =>
    obtain ⟨hmeasured, hfits, hor, hall, hcounts, -, -⟩ := h
    rw [hq] at hmeasured hor hall
    refine ⟨hmeasured.tail, (Nat.sub_le _ _).trans hfits, ?_, ?_, { hcounts with },
      rfl, rfl⟩
    · simpa using hor
    · simpa using hall

theorem accounts_step (h : ∃ dropped, Accounts dropped w) (call : BufferCall) :
    ∃ dropped, Accounts dropped (w.step call) := by
  obtain ⟨dropped, h⟩ := h
  cases call with
  | push b => exact h.push b
  | pop => exact ⟨dropped, h.pop⟩
  | close => exact ⟨dropped, { h with }⟩

/-- **Nothing is lost unseen.** After any interleaving of calls every batch that was pushed has been
delivered, is waiting or is counted as dropped, each once; what was delivered and what waits is in the
order of the pushes; and the bytes of the buffer are those of the waiting batches, within the bound. -/
theorem retry_buffer_accounts (cap : ℕ) (calls : List BufferCall) :
    ∃ dropped, Accounts dropped (run cap calls) := by
  unfold run
  generalize hw : (⟨.new cap, [], []⟩ : World) = w
  have hst : ∃ dropped, Accounts dropped w := by
    subst hw
    exact ⟨[], ⟨nofun, rfl⟩, Nat.zero_le _, .refl _, .refl _, ⟨rfl, rfl, rfl⟩, rfl, rfl⟩
  clear hw
  induction calls generalizing w with
  | nil => exact hst
  | cons call calls ih => exact ih _ (accounts_step hst call)

end Netqmon.Agent.RetryBuffer
