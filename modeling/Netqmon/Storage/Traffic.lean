import Mathlib
import Netqmon.Lib.Keyed

/-! # Traffic tables

Traffic is counted by minute, hour and day in five dimensions (`Tiers`), and by minute in detail
(`ScopeTables`). Only minutes are written directly. Triggers queue every change of a minute row for
its hour and every change of an hour row for its day; `aggregate` adds the queued counts to the
hours or days that are over. `transfer` moves counts from one key to another in all of this.

The tables of the five dimensions of a tier are one table here, whose keys say the dimension. -/

namespace Netqmon.Storage.Traffic

open Lib.Keyed

/-! ### Data -/

def minuteMs : ℤ := 60 * 1000
def hourMs : ℤ := 60 * minuteMs
def dayMs : ℤ := 24 * hourMs

@[ext] structure Metrics where
  upload : ℤ
  download : ℤ
  packets : ℤ
  flows : ℤ
deriving DecidableEq

namespace Metrics

instance : Zero Metrics := ⟨⟨0, 0, 0, 0⟩⟩
instance : Add Metrics := ⟨fun a b =>
  ⟨a.upload + b.upload, a.download + b.download, a.packets + b.packets, a.flows + b.flows⟩⟩
instance : Neg Metrics := ⟨fun a => ⟨-a.upload, -a.download, -a.packets, -a.flows⟩⟩
instance : Sub Metrics := ⟨fun a b =>
  ⟨a.upload - b.upload, a.download - b.download, a.packets - b.packets, a.flows - b.flows⟩⟩
instance : SMul ℕ Metrics := ⟨fun n a =>
  ⟨n • a.upload, n • a.download, n • a.packets, n • a.flows⟩⟩
instance : SMul ℤ Metrics := ⟨fun n a =>
  ⟨n • a.upload, n • a.download, n • a.packets, n • a.flows⟩⟩

def toProd (a : Metrics) : ℤ × ℤ × ℤ × ℤ := (a.upload, a.download, a.packets, a.flows)

theorem toProd_injective : Function.Injective toProd := by
  rintro ⟨u, d, p, f⟩ ⟨u', d', p', f'⟩ h
  grind [toProd]

instance : AddCommGroup Metrics :=
  toProd_injective.addCommGroup toProd rfl (fun _ _ => rfl) (fun _ => rfl) (fun _ _ => rfl)
    (fun _ _ => rfl) (fun _ _ => rfl)

end Metrics

inductive Dimension
  | total
  | device
  | application
  | domain
  | destination
deriving DecidableEq

def dimensions : List Dimension := [.total, .device, .application, .domain, .destination]

/-- The key columns of a dimension besides time and gateway. -/
inductive DimensionKey
  | total
  | device (deviceId : ℤ)
  | application (applicationId categoryId : String)
  | domain (domain : String)
  | destination (remoteIp : List UInt8)
deriving DecidableEq

def DimensionKey.dimension : DimensionKey → Dimension
  | .total => .total
  | .device _ => .device
  | .application _ _ => .application
  | .domain _ => .domain
  | .destination _ => .destination

structure Bucket where
  timestamp : ℤ
  gatewayId : String
  key : DimensionKey
deriving DecidableEq

/-- The bucket of a coarser tier. -/
def Bucket.truncate (size : ℤ) (b : Bucket) : Bucket :=
  { b with timestamp := b.timestamp / size * size }

inductive Tier
  | minute
  | hour
  | day
deriving DecidableEq

def Tier.size : Tier → ℤ
  | .minute => minuteMs
  | .hour => hourMs
  | .day => dayMs

abbrev Counters : Type := Rows Bucket Metrics

structure Tiers where
  (minute hour hourPending day dayPending : Counters)

def Tiers.empty : Tiers := ⟨∅, ∅, ∅, ∅, ∅⟩

/-! ### Rows of the tiers -/

namespace Tiers

variable (t : Tiers)

def table : Tier → Counters
  | .minute => t.minute
  | .hour => t.hour
  | .day => t.day

def setTable : Tier → Counters → Tiers
  | .minute, table => { t with minute := table }
  | .hour, table => { t with hour := table }
  | .day, table => { t with day := table }

/-- The queue of an upper tier; nothing is queued for minutes. -/
def pending : Tier → Counters
  | .minute => ∅
  | .hour => t.hourPending
  | .day => t.dayPending

def setPending : Tier → Counters → Tiers
  | .minute, _ => t
  | .hour, table => { t with hourPending := table }
  | .day, table => { t with dayPending := table }

end Tiers

/-- The trigger after an insert queues the new row; the one after an update takes back the old row
and queues the new one. -/
def enqueue (pending : Counters) (b : Bucket) (old : Option Metrics) (new : Metrics) : Counters :=
  match old with
  | none => adjust pending b new
  | some old => adjust (adjust pending b (-old)) b new

variable (tier : Tier)

/-- Add to a row of a tier, with the trigger of its table. -/
def adjustRollup (b : Bucket) (m : Metrics) (t : Tiers) : Tiers :=
  match tier with
  | .minute =>
    let minute := adjust t.minute b m
    { t with
      minute
      hourPending := enqueue t.hourPending (b.truncate Tier.hour.size) (t.minute.lookup b)
        (value minute b) }
  | .hour =>
    let hour := adjust t.hour b m
    { t with
      hour
      dayPending := enqueue t.dayPending (b.truncate Tier.day.size) (t.hour.lookup b)
        (value hour b) }
  | .day => { t with day := adjust t.day b m }

/-- Add to a row of the queue of a tier. -/
def adjustPending (b : Bucket) (m : Metrics) (t : Tiers) : Tiers :=
  t.setPending tier (adjust (t.pending tier) b m)

/-- Delete a row that counts nothing. -/
def deleteZero (b : Bucket) (t : Tiers) : Tiers :=
  t.setTable tier (deleteWhere (fun k v => k = b && v = 0) (t.table tier))

/-! ### Transfers -/

/-- The statements that a transfer runs on a table. -/
structure RollupTable (S K : Type) where
  lookup : S → K → Option Metrics
  adjust : K → Metrics → S → S
  /-- Take back what is queued for the table; minutes have no queue. -/
  cancel : K → Metrics → S → S
  deleteZero : K → S → S

/-- Move counts from one row to another, unless the source row is gone. -/
def transfer {S K : Type} [DecidableEq K] (table : RollupTable S K) (old new : K) (m : Metrics)
    (s : S) : S :=
  if old = new then s
  else
    match table.lookup s old with
    | none => s
    | some _ =>
      table.deleteZero old (table.cancel new (-m) (table.cancel old m
        (table.adjust new m (table.adjust old (-m) s))))

def tierTable : RollupTable Tiers Bucket where
  lookup t b := (t.table tier).lookup b
  adjust := adjustRollup tier
  cancel := adjustPending tier
  deleteZero := deleteZero tier

/-! ### Aggregation -/

def isDue (dimension : Dimension) (cutoff : ℤ) (b : Bucket) : Bool :=
  b.key.dimension == dimension && b.timestamp < cutoff

/-- Add the queued counts before the cutoff to the rows of a tier. -/
def aggregate (dimension : Dimension) (target : Tier) (cutoff : ℤ) (t : Tiers) : Tiers :=
  let due := select (fun b _ => isDue dimension cutoff b) (t.pending target)
  let added := due.foldl (fun t row => adjustRollup target row.1 row.2 t) t
  let cleaned := added.setTable target (deleteWhere (fun b m => b.key.dimension == dimension
    && due.any (fun row => row.1.timestamp == b.timestamp) && m == 0) (added.table target))
  cleaned.setPending target
    (deleteWhere (fun b _ => isDue dimension cutoff b) (cleaned.pending target))

def cutoff (now : ℤ) : ℤ := now / tier.size * tier.size

def aggregateAll (target : Tier) (now : ℤ) (t : Tiers) : Tiers :=
  dimensions.foldl (fun t dimension => aggregate dimension target (cutoff target now) t) t

/-- The part of the roll-up that works on the tiers. -/
def rollUpTiers (now : ℤ) (t : Tiers) : Tiers := aggregateAll .day now (aggregateAll .hour now t)

/-! ### Scope tables -/

structure ScopeKey where
  timestamp : ℤ
  gatewayId : String
  (scope direction deviceId : ℤ)
  (applicationId categoryId domain : String)
  remoteIp : List UInt8
  protocol : ℤ
  protocolId : String
deriving DecidableEq

structure ScopeTotalKey where
  (scope timestamp direction : ℤ)
  gatewayId : String
deriving DecidableEq

variable (k : ScopeKey)

def ScopeKey.totalKey : ScopeTotalKey :=
  ⟨k.scope, k.timestamp, k.direction, k.gatewayId⟩

structure ScopeTotal where
  metrics : Metrics
  /-- The number of rows that are added up. -/
  sourceRows : ℤ
deriving DecidableEq

structure ScopeTables where
  minute : Rows ScopeKey Metrics
  total : Rows ScopeTotalKey ScopeTotal

def ScopeTables.empty : ScopeTables := ⟨∅, ∅⟩

/-- Add to a row; triggers keep the totals. -/
def adjustScope (m : Metrics) (t : ScopeTables) : ScopeTables :=
  { minute := adjust t.minute k m
    total :=
      match t.minute.lookup k with
      | none => upsert t.total k.totalKey ⟨m, 1⟩
          fun total => ⟨total.metrics + m, total.sourceRows + 1⟩
      | some old => updateWhere (fun total _ => total == k.totalKey && old != old + m)
          (fun _ total => ⟨total.metrics + (old + m) - old, total.sourceRows⟩) t.total }

/-- Delete a row that counts nothing; a trigger keeps the totals. -/
def deleteZeroScope (t : ScopeTables) : ScopeTables :=
  match t.minute.lookup k with
  | none => t
  | some old =>
    if old = 0 then
      { minute := t.minute.erase k
        total := deleteWhere (fun total row => total == k.totalKey && row.sourceRows == 0)
          (updateWhere (fun total _ => total == k.totalKey)
            (fun _ row => ⟨row.metrics - old, row.sourceRows - 1⟩) t.total) }
    else t

def scopeTable : RollupTable ScopeTables ScopeKey where
  lookup t k := t.minute.lookup k
  adjust := adjustScope
  cancel _ _ t := t
  deleteZero := deleteZeroScope

end Netqmon.Storage.Traffic
