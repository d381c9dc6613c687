import Mathlib
import Netqmon.Lib.RustNet

/-! # Addresses of a name from a DNS response

A response may answer a query through aliases. `cnamePath` follows the first CNAME record of each
name from the query name on, and `observations` reports the addresses of the names it visits. The
loop makes at most one step for each answer, which is enough: names on the path are distinct, and all
but the last one own an answer. -/

namespace Netqmon.Agent.DnsAnswers

open Lib.RustNet

inductive DnsResponseCode
  | noError
  | nxDomain
  | other (code : UInt16)
deriving DecidableEq

inductive DnsAnswerData
  | a (a b c d : UInt8)
  | aaaa (octets : { octets : List UInt8 // octets.length = 16 })
  | cname (target : String)

structure DnsAnswer where
  name : String
  ttl : UInt32
  data : DnsAnswerData

structure DnsResponse where
  qname : String
  rcode : DnsResponseCode
  answers : List DnsAnswer

inductive DnsRecordType
  | a
  | aaaa

structure DnsObservation where
  clientAddr : IpAddr
  domain : String
  answerIp : IpAddr
  recordType : DnsRecordType
  ttl : UInt32
  observedAt : ℕ

def u32Max : UInt32 := 0xffffffff

/-- The target and the lifetime of the first CNAME record of a name. -/
def firstCname (answers : List DnsAnswer) (name : String) : Option (String × UInt32) :=
  answers.findSome? fun answer =>
    if answer.name ≠ name then none
    else match answer.data with
      | .cname target => some (target, answer.ttl)
      | _ => none

/-- The loop of `cnamePath`; the path so far is `before` and its last entry `current`. -/
def extendPath (answers : List DnsAnswer) :
    ℕ → List (String × UInt32) → String × UInt32 → List (String × UInt32)
  | 0, before, current => before ++ [current]
  | steps + 1, before, current =>
    match firstCname answers current.1 with
    | none => before ++ [current]
    | some (target, ttl) =>
      if (before ++ [current]).any (·.1 = target) then before ++ [current]
      else extendPath answers steps (before ++ [current]) (target, min current.2 ttl)

def cnamePath (response : DnsResponse) : List (String × UInt32) :=
  extendPath response.answers response.answers.length [] (response.qname, u32Max)

/-- The address that an answer carries. -/
def address : DnsAnswerData → Option (IpAddr × DnsRecordType)
  | .a a b c d => some (.v4 a b c d, .a)
  | .aaaa octets => some (.v6 octets, .aaaa)
  | .cname _ => none

def observations (clientAddr : IpAddr) (response : DnsResponse) (observedAt : ℕ) :
    List DnsObservation :=
  if response.rcode ≠ .noError then []
  else
    let path := cnamePath response
    response.answers.filterMap fun answer => do
      let cnameTtl ← path.findSome? fun entry => if entry.1 = answer.name then some entry.2 else none
      let (answerIp, recordType) ← address answer.data
      return ⟨clientAddr, response.qname, answerIp, recordType, min answer.ttl cnameTtl, observedAt⟩

/-! ### Walks along first CNAME records -/

variable (answers : List DnsAnswer) (qname : String)

/-- A walk from the query name to a name, with the lifetimes of the records that it follows. -/
inductive Walk : String → List UInt32 → Prop
  | start : Walk qname []
  | follow {name target : String} {ttls : List UInt32} {ttl : UInt32} :
    Walk name ttls → firstCname answers name = some (target, ttl) → Walk target (ttls ++ [ttl])

def Shortest (name : String) (ttls : List UInt32) : Prop :=
  Walk answers qname name ttls ∧ ∀ others, Walk answers qname name others →
    ttls.length ≤ others.length

/-- What holds of the path before each round of the loop: its entries are the walks of length 0, 1
and so on, and only the record of the last name may lead out of it. -/
structure Exploring (before : List (String × UInt32)) (current : String × UInt32) : Prop where
  start : qname ∈ (before ++ [current]).map Prod.fst
  walks : ∀ i entry, (before ++ [current])[i]? = some entry →
    ∃ ttls, Walk answers qname entry.1 ttls ∧ ttls.length = i ∧ entry.2 = ttls.foldl min u32Max
  distinct : ((before ++ [current]).map Prod.fst).Nodup
  closed : ∀ entry ∈ before, ∃ next, firstCname answers entry.1 = some next ∧
    next.1 ∈ (before ++ [current]).map Prod.fst

variable {answers qname} {name : String} {ttls : List UInt32} {before : List (String × UInt32)}
  {current : String × UInt32}

/-- Each name has one first record, so that the length determines a walk. -/
theorem Walk.unique (h : Walk answers qname name ttls) {other : String} {others : List UInt32}
    (ho : Walk answers qname other others) (hlen : ttls.length = others.length) : name = other := by
  induction h generalizing other others with
  | start =>
    cases ho with
    | start => rfl
    | follow => simp at hlen
  | follow _ hnx ih =>
    cases ho with
    | start => simp at hlen
    | follow hwk hnext' =>
      obtain rfl := ih hwk (by simpa using hlen)
      rw [hnx, Option.some.injEq, Prod.mk.injEq] at hnext'
      exact hnext'.1

theorem mem_of_firstCname {next : String × UInt32} (h : firstCname answers name = some next) :
    name ∈ answers.map DnsAnswer.name := by
  obtain ⟨answer, hmem, hanswer⟩ := List.exists_of_findSome?_eq_some h
  refine List.mem_map.2 ⟨answer, hmem, ?_⟩
  by_contra hne
  rw [if_pos hne] at hanswer
  cases hanswer

namespace Exploring

variable (h : Exploring answers qname before current)
include h

variable {ttl : UInt32}

theorem extend {target : String} (hnx : firstCname answers current.1 = some (target, ttl))
    (hnew : target ∉ (before ++ [current]).map Prod.fst) :
    Exploring answers qname (before ++ [current]) (target, min current.2 ttl) := by
  refine ⟨?_, fun i e he => ?_, ?_, fun e he => ?_⟩
  · rw [List.map_append]
    exact List.mem_append_left _ h.start
  · rcases Nat.lt_trichotomy i (before ++ [current]).length with hi | rfl | hi
    · rw [List.getElem?_append_left hi] at he
      exact h.walks i e he
    · rw [List.getElem?_concat_length, Option.some.injEq] at he
      obtain ⟨ttls, hwk, hlen, hmin⟩ := h.walks before.length current List.getElem?_concat_length
      refine ⟨ttls ++ [ttl], he ▸ hwk.follow hnx, by simp [hlen], ?_⟩
      rw [List.foldl_append, ← hmin, ← he]
      rfl
    · rw [List.getElem?_eq_none (by simp at hi ⊢; omega)] at he
      cases he
  · rw [List.map_append, List.map_singleton, ← List.concat_eq_append]
    exact List.Nodup.concat hnew h.distinct
  · rw [List.map_append]
    rcases List.mem_append.1 he with hbef | hcur
    · obtain ⟨next, hfst, hmem⟩ := h.closed e hbef
      exact ⟨next, hfst, List.mem_append_left _ hmem⟩
    · rw [List.mem_singleton.1 hcur]
      exact ⟨_, hnx, List.mem_append_right _ (List.mem_singleton_self _)⟩

/-- One name more than there are answers cannot all own an answer. -/
theorem exhausted (hlen : before.length = answers.length) : firstCname answers current.1 = none := by
  by_contra hs
  obtain ⟨next, hnx⟩ := Option.ne_none_iff_exists'.1 hs
  have howners : (before ++ [current]).map Prod.fst ⊆ answers.map DnsAnswer.name := by
    intro name hname
    obtain ⟨e, he, rfl⟩ := List.mem_map.1 hname
    rcases List.mem_append.1 he with hbef | hcur
    · obtain ⟨next', hnext', -⟩ := h.closed e hbef
      exact mem_of_firstCname hnext'
    · exact mem_of_firstCname (List.mem_singleton.1 hcur ▸ hnx)
  have hle := (h.distinct.subperm howners).length_le
  simp only [List.length_map, List.length_append, List.length_singleton] at hle
  omega

/-- The loop stops where no record leads out of the path. -/
theorem run {steps : ℕ} (hsteps : before.length + steps = answers.length) :
    ∃ before' current', extendPath answers steps before current = before' ++ [current'] ∧
      Exploring answers qname before' current' ∧
      ∀ next, firstCname answers current'.1 = some next →
        next.1 ∈ (before' ++ [current']).map Prod.fst := by
  induction steps generalizing before current with
  | zero => exact ⟨before, current, rfl, h, by simp [h.exhausted hsteps]⟩
  | succ steps ih =>
    unfold extendPath
    split
    next hnx => exact ⟨before, current, rfl, h, by simp [hnx]⟩
    next target ttl hnx =>
      split_ifs with hsn
      · refine ⟨before, current, rfl, h, fun next hnext' => ?_⟩
        rw [hnx, Option.some.injEq] at hnext'
        simpa [← hnext', @eq_comm _ target] using hsn
      · refine ih (h.extend hnx (by simpa [@eq_comm _ target] using hsn)) ?_
        rw [List.length_append, List.length_singleton]
        omega

theorem complete (hla : ∀ next, firstCname answers current.1 = some next →
    next.1 ∈ (before ++ [current]).map Prod.fst) (hwk : Walk answers qname name ttls) :
    name ∈ (before ++ [current]).map Prod.fst := by
  induction hwk with
  | start => exact h.start
  | follow _ hnx ih =>
    obtain ⟨e, he, rfl⟩ := List.mem_map.1 ih
    rcases List.mem_append.1 he with hbef | hcur
    · obtain ⟨next, hnext', hmem⟩ := h.closed e hbef
      rw [hnx] at hnext'
      obtain rfl := Option.some.inj hnext'
      exact hmem
    · exact hla _ (List.mem_singleton.1 hcur ▸ hnx)

theorem shortest (hfd : ((before ++ [current]).findSome? fun e =>
      if e.1 = name then some e.2 else none) = some ttl) :
    ∃ ttls, Shortest answers qname name ttls ∧ ttl = ttls.foldl min u32Max := by
  have hwalks := h.walks
  obtain ⟨earlier, e, later, hpath, he, hearlier⟩ := List.findSome?_eq_some_iff.1 hfd
  rw [hpath] at hwalks
  obtain ⟨rfl, rfl⟩ : e.1 = name ∧ e.2 = ttl := by simpa using he
  obtain ⟨ttls, hwk, hlen, hmin⟩ := hwalks earlier.length e (by simp)
  refine ⟨ttls, ⟨hwk, fun others hoth => ?_⟩, hmin⟩
  by_contra hsh
  have hi : others.length < earlier.length := by omega
  obtain ⟨ttls', hwalk', hlen', -⟩ := hwalks others.length earlier[others.length]
    (by rw [List.getElem?_append_left hi, List.getElem?_eq_getElem])
  simpa [hwalk'.unique hoth hlen'] using hearlier _ (List.getElem_mem hi)

end Exploring

theorem min_foldl_min (a : UInt32) (ttls : List UInt32) :
    min a (ttls.foldl min u32Max) = ttls.foldl min a := by
  induction ttls using List.reverseRecOn with
  | nil => exact if_pos (UInt32.le_iff_toNat_le.2 (Nat.le_of_lt_succ a.toNat_lt))
  | append_singleton ttls ttl ih =>
    rw [List.foldl_append, List.foldl_append, ← ih]
    grind

/-- **An address is reported exactly for the names that the first CNAME records lead to**, with the
smallest lifetime on the way. -/
theorem reports_reachable_names (clientAddr : IpAddr) (qname : String) (answers : List DnsAnswer)
    (observedAt : ℕ) :
    ∃ report : DnsAnswer → Option DnsObservation,
      observations clientAddr ⟨qname, .noError, answers⟩ observedAt = answers.filterMap report ∧
      ∀ answer,
        ((report answer).isSome ↔
          (address answer.data).isSome ∧ ∃ ttls, Walk answers qname answer.name ttls) ∧
        ∀ observation, report answer = some observation → ∃ answerIp recordType ttls,
          address answer.data = some (answerIp, recordType) ∧
          Shortest answers qname answer.name ttls ∧
          observation =
            ⟨clientAddr, qname, answerIp, recordType, ttls.foldl min answer.ttl, observedAt⟩ := by
  have hstart : Exploring answers qname [] (qname, u32Max) := by
    refine ⟨by simp, fun i entry hentry => ?_, by simp, nofun⟩
    obtain ⟨rfl, rfl⟩ : i = 0 ∧ entry = (qname, u32Max) := by cases i <;> simp_all
    exact ⟨[], .start, rfl, rfl⟩
  obtain ⟨before, current, hpath, h, hlast⟩ := hstart.run (Nat.zero_add _)
  refine ⟨_, if_neg (not_not_intro rfl), fun answer => ?_⟩
  change cnamePath ⟨qname, .noError, answers⟩ = _ at hpath
  rw [hpath]
  cases hfind : (before ++ [current]).findSome? fun entry =>
      if entry.1 = answer.name then some entry.2 else none with
  | none =>
    refine ⟨⟨by simp, fun ⟨_, ttls, hwalk⟩ => ?_⟩, by simp⟩
    obtain ⟨entry, hentry, hname⟩ := List.mem_map.1 (h.complete hlast hwalk)
    simpa [hname] using List.findSome?_eq_none_iff.1 hfind entry hentry
  | some ttl =>
    obtain ⟨ttls, hshortest, rfl⟩ := h.shortest hfind
    cases haddress : address answer.data with
    | none => simp
    | some found =>
      refine ⟨by simpa [hfind, haddress] using ⟨ttls, hshortest.1⟩, fun observation hreport => ?_⟩
      refine ⟨found.1, found.2, ttls, rfl, hshortest, ?_⟩
      simpa [hfind, haddress, min_foldl_min, eq_comm] using hreport

end Netqmon.Agent.DnsAnswers
