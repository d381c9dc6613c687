import Mathlib

/-! # Ordered maps

A finite map that lists its entries in the order of their keys. That the keys increase is a field,
so no key occurs twice and iteration order is a function of the contents. Every update goes through
`insert`, and proofs only need `lookup_insert`; a set is a map to `Unit`. -/

namespace Netqmon.Lib.Ordered

structure OrderedMap (K V : Type) [LinearOrder K] where
  entries : List (K × V)
  sorted : entries.Pairwise fun a b => a.1 < b.1

variable {K V : Type} [LinearOrder K]

/-! ### Insertion into a sorted list -/

def insertEntry (key : K) (value : V) : List (K × V) → List (K × V)
  | [] => [(key, value)]
  | (k, v) :: rest =>
    if key < k then (key, value) :: (k, v) :: rest
    else if k < key then (k, v) :: insertEntry key value rest
    else (key, value) :: rest

variable {value : V}

theorem mem_insertEntry {key : K} {e : K × V} :
    ∀ {l : List (K × V)}, e ∈ insertEntry key value l → e = (key, value) ∨ e ∈ l
  | [], h => by simpa [insertEntry] using h
  | (k, v) :: rest, h => by
    rw [insertEntry] at h
    split_ifs at h
    · simpa using h
    · rcases List.mem_cons.1 h with h | h
      · exact .inr (by simp [h])
      · exact (mem_insertEntry h).imp id (List.mem_cons_of_mem _)
    · exact (List.mem_cons.1 h).imp id (List.mem_cons_of_mem _)

theorem sorted_insertEntry (key : K) (value : V) :
    ∀ {l : List (K × V)}, l.Pairwise (fun a b => a.1 < b.1) →
      (insertEntry key value l).Pairwise fun a b => a.1 < b.1
  | [], _ => by simp [insertEntry]
  | (k, v) :: rest, h => by
    have hr := List.pairwise_cons.1 h
    rw [insertEntry]
    split_ifs with hlt hgt
    · grind
    · refine List.pairwise_cons.2 ⟨fun e he => ?_, sorted_insertEntry key value hr.2⟩
      rcases mem_insertEntry he with rfl | he
      · exact hgt
      · exact hr.1 e he
    · have heq : k = key := le_antisymm (not_lt.1 hlt) (not_lt.1 hgt)
      subst heq
      exact List.pairwise_cons.2 ⟨hr.1, hr.2⟩

variable {other : K}

theorem lookup_cons_ite (key : K) (l : List (K × V)) :
    ((key, value) :: l).lookup other = if other = key then some value else l.lookup other := by
  rw [List.lookup_cons]
  by_cases h : other = key
  · simp [h]
  · simp [h, beq_eq_false_iff_ne.2 h]

theorem lookup_insertEntry (key other : K) (value : V) :
    ∀ l : List (K × V),
      (insertEntry key value l).lookup other = if other = key then some value else l.lookup other
  | [] => lookup_cons_ite key []
  | (k, v) :: rest => by
    have ih := lookup_insertEntry key other value rest
    rcases lt_trichotomy key k with h | h | h
    · simp [insertEntry, h, lookup_cons_ite]
    · grind [insertEntry]
    · have hne : key ≠ k := ne_of_gt h
      by_cases hkey : other = key
      · subst hkey
        simp [insertEntry, h, not_lt_of_gt h, lookup_cons_ite, ih, hne]
      · simp [insertEntry, h, not_lt_of_gt h, lookup_cons_ite, ih, hkey]

theorem length_insertEntry_le (key : K) (value : V) :
    ∀ l : List (K × V), (insertEntry key value l).length ≤ l.length + 1
  | [] => le_rfl
  | (k, v) :: rest => by
    have ih := length_insertEntry_le key value rest
    grind [insertEntry]

/-! ### Operations -/

namespace OrderedMap

def empty : OrderedMap K V := ⟨[], List.Pairwise.nil⟩

variable (m : OrderedMap K V) (key : K)

def lookup : Option V := m.entries.lookup key

def insert (value : V) : OrderedMap K V :=
  ⟨insertEntry key value m.entries, sorted_insertEntry key value m.sorted⟩

/-- Change the value of a key, which may be absent. -/
def upsert (f : Option V → V) : OrderedMap K V :=
  m.insert key (f (m.lookup key))

/-- Change the value of a key that is present. -/
def adjust (f : V → V) : OrderedMap K V :=
  match m.lookup key with
  | none => m
  | some value => m.insert key (f value)

def erase : OrderedMap K V :=
  ⟨m.entries.filter fun e => e.1 ≠ key, m.sorted.filter _⟩

def keys : List K := m.entries.map Prod.fst

def values : List V := m.entries.map Prod.snd

def isEmpty : Bool := m.entries.isEmpty

def contains : Bool := (m.lookup key).isSome

def ofList (l : List (K × V)) : OrderedMap K V := l.foldl (fun m e => m.insert e.1 e.2) empty

@[simp] theorem lookup_empty : (empty : OrderedMap K V).lookup key = none := rfl

@[simp] theorem keys_empty : (empty : OrderedMap K V).keys = [] := rfl

theorem lookup_insert (other : K) (value : V) :
    (m.insert key value).lookup other = if other = key then some value else m.lookup other :=
  lookup_insertEntry key other value m.entries

theorem lookup_upsert (other : K) (f : Option V → V) :
    (m.upsert key f).lookup other =
      if other = key then some (f (m.lookup key)) else m.lookup other :=
  lookup_insert m key other _

theorem lookup_adjust (other : K) (f : V → V) :
    (m.adjust key f).lookup other =
      if other = key then (m.lookup key).map f else m.lookup other := by
  unfold adjust
  split
  · grind
  · next value h => rw [lookup_insert, h]; rfl

variable {m : OrderedMap K V}

theorem mem_entries_iff {key : K} : (key, value) ∈ m.entries ↔ m.lookup key = some value := by
  obtain ⟨l, hl⟩ := m
  show (key, value) ∈ l ↔ l.lookup key = some value
  induction l with
  | nil => simp
  | cons e rest ih =>
    obtain ⟨k, v⟩ := e
    have hr := List.pairwise_cons.1 hl
    rw [lookup_cons_ite, List.mem_cons, ih hr.2]
    by_cases hk : key = k
    · subst hk
      have hnot : rest.lookup key ≠ some value := fun h =>
        lt_irrefl key (hr.1 (key, value) ((ih hr.2).2 h))
      simp [hnot, eq_comm]
    · simp [hk]

theorem lookup_erase_ne {key : K} (h : other ≠ key) :
    (m.erase key).lookup other = m.lookup other := by
  ext value
  rw [← mem_entries_iff, ← mem_entries_iff]
  simp [erase, h]

theorem mem_keys_iff {key : K} : key ∈ m.keys ↔ (m.lookup key).isSome = true := by
  rw [keys, List.mem_map, Option.isSome_iff_exists]
  constructor
  · rintro ⟨⟨k, v⟩, hmem, rfl⟩
    exact ⟨v, mem_entries_iff.1 hmem⟩
  · rintro ⟨v, hv⟩
    exact ⟨(key, v), mem_entries_iff.2 hv, rfl⟩

theorem nodup_keys : m.keys.Nodup :=
  List.pairwise_map.2 (m.sorted.imp fun h => ne_of_lt h)

theorem mem_keys_insert {key : K} :
    other ∈ (m.insert key value).keys ↔ other = key ∨ other ∈ m.keys := by
  rw [mem_keys_iff, mem_keys_iff, lookup_insert]
  by_cases h : other = key <;> simp [h]

theorem mem_keys_ofList {l : List (K × V)} {key : K} :
    key ∈ (ofList l).keys ↔ key ∈ l.map Prod.fst := by
  have hfo : ∀ (l : List (K × V)) (m : OrderedMap K V),
      key ∈ (l.foldl (fun m e => m.insert e.1 e.2) m).keys ↔
        key ∈ l.map Prod.fst ∨ key ∈ m.keys := by
    intro l
    induction l with
    | nil => simp
    | cons e l ih =>
      intro m
      rw [List.foldl_cons, ih, mem_keys_insert, List.map_cons, List.mem_cons]
      tauto
  rw [ofList, hfo]
  simp [keys, empty]

theorem length_keys_ofList_le (l : List (K × V)) : (ofList l).keys.length ≤ l.length := by
  have hfo : ∀ (l : List (K × V)) (m : OrderedMap K V),
      (l.foldl (fun m e => m.insert e.1 e.2) m).entries.length ≤ m.entries.length + l.length := by
    intro l
    induction l with
    | nil => simp
    | cons e l ih =>
      intro m
      have h := length_insertEntry_le e.1 e.2 m.entries
      have ih := ih (m.insert e.1 e.2)
      simp only [insert, List.foldl_cons, List.length_cons] at ih ⊢
      omega
  have h := hfo l empty
  rw [keys]
  simpa [ofList, empty] using h

end OrderedMap

/-! ### Keyed updates

A fold whose steps each change the value of one key, with no key changed twice. -/

theorem lookup_foldl_keyed {S A : Type} {look : S → K → Option V} {step : S → A → S}
    {key : A → K} {change : A → V → V} (hstp : ∀ s a, (look s (key a)).isSome = true →
      ∀ k, look (step s a) k = if k = key a then (look s (key a)).map (change a) else look s k) :
    ∀ {l : List A} {s : S}, (l.map key).Nodup → (∀ a ∈ l, (look s (key a)).isSome = true) →
      (∀ a ∈ l, look (l.foldl step s) (key a) = (look s (key a)).map (change a)) ∧
        ∀ k ∉ l.map key, look (l.foldl step s) k = look s k
  | [], s, _, _ => by simp
  | a :: l, s, hnd, hs => by
    obtain ⟨hfr, hnd⟩ := List.nodup_cons.1 hnd
    have ho : ∀ b ∈ l, look (step s a) (key b) = look s (key b) := by grind
    obtain ⟨hmem, hnot⟩ := @lookup_foldl_keyed S A look step key change hstp l (step s a) hnd
      fun b hb => by rw [ho b hb]; exact hs b (List.mem_cons_of_mem _ hb)
    grind

/-! ### Sets -/

abbrev OrderedSet (K : Type) [LinearOrder K] := OrderedMap K Unit

def OrderedSet.add (s : OrderedSet K) (key : K) : OrderedSet K := OrderedMap.insert s key ()

theorem OrderedSet.mem_keys_add {s : OrderedSet K} {key : K} :
    other ∈ OrderedMap.keys (s.add key) ↔ other = key ∨ other ∈ OrderedMap.keys s :=
  OrderedMap.mem_keys_insert

end Netqmon.Lib.Ordered
