/-
# Maps whose entries stand in key order

A `SortedMap` is a list of entries with strictly increasing keys.  Each key occurs once, a
later write replaces an earlier one, and the order of the entries does not depend on the
order of the writes.

* `get?_eq_some_iff`: looking a key up finds exactly what the entries say;
* `get?_insert`: after a write the written value stands under its key, and every other key
  has what it had before;
* `get?_extend`: merging is right-biased;
* `ext_get?`: two maps with the same look-ups are equal, entries and all.
-/
import SinglePage.KeyOrder

namespace SinglePage

/-- **Entries in strictly increasing key order.** -/
@[ext] structure SortedMap (κ α : Type) [LT κ] where
  entries : List (κ × α)
  sorted : entries.Pairwise fun a b => a.1 < b.1

namespace SortedMap

variable {κ α β : Type}

/-! ## 1. Looking up in a list of entries -/

section Lookup

variable [DecidableEq κ]

/-- The first value under a key in a list of entries. -/
def lookup (key : κ) : List (κ × α) → Option α
  | [] => none
  | (k, v) :: rest => if key = k then some v else lookup key rest

theorem lookup_append (key : κ) (l r : List (κ × α)) :
    lookup key (l ++ r) = (lookup key l).or (lookup key r) := by
  induction l with
  | nil => rfl
  | cons e l ih =>
    simp only [List.cons_append, lookup]
    split
    · rfl
    · exact ih

theorem mem_of_lookup {key : κ} {value : α} : ∀ {l : List (κ × α)},
    lookup key l = some value → (key, value) ∈ l
  | [], h => by simp [lookup] at h
  | (k, v) :: rest, h => by
    simp only [lookup] at h
    split at h
    · rename_i eq
      subst eq
      rw [Option.some.inj h]
      exact List.mem_cons_self
    · exact List.mem_cons_of_mem _ (mem_of_lookup h)

theorem lookup_reverse_eq_none_iff {key : κ} {entries : List (κ × α)} :
    lookup key entries.reverse = none ↔ key ∉ entries.map Prod.fst := by
  induction entries with
  | nil => simp [lookup]
  | cons e entries ih =>
    rw [List.reverse_cons, lookup_append, Option.or_eq_none_iff, ih, List.map_cons, List.mem_cons,
      not_or, and_comm]
    simp [lookup]

/-- **The last entry of a key is found by looking it up from behind.** -/
theorem lookup_reverse_eq_some_iff {key : κ} {value : α} {entries : List (κ × α)} :
    lookup key entries.reverse = some value ↔
      ∃ earlier later, entries = earlier ++ (key, value) :: later ∧ key ∉ later.map Prod.fst := by
  constructor
  · intro found
    induction entries with
    | nil => exact absurd found (by simp [lookup])
    | cons e entries ih =>
      rw [List.reverse_cons, lookup_append] at found
      cases behind : lookup key entries.reverse with
      | some later =>
        rw [behind, Option.some_or] at found
        obtain ⟨earlier, later, rfl, last⟩ := ih (behind.trans found)
        exact ⟨e :: earlier, later, rfl, last⟩
      | none =>
        rw [behind, Option.none_or] at found
        obtain rfl := List.mem_singleton.mp (mem_of_lookup found)
        exact ⟨[], entries, rfl, lookup_reverse_eq_none_iff.mp behind⟩
  · rintro ⟨earlier, later, rfl, last⟩
    rw [List.reverse_append, List.reverse_cons, List.append_assoc, lookup_append,
      lookup_reverse_eq_none_iff.mpr last]
    simp [lookup]

theorem lookup_of_mem {key : κ} {value : α} : ∀ {l : List (κ × α)},
    l.Pairwise (fun a b => a.1 ≠ b.1) → (key, value) ∈ l → lookup key l = some value
  | (k, v) :: rest, distinct, h => by
    obtain ⟨head, tail⟩ := List.pairwise_cons.mp distinct
    rcases List.mem_cons.mp h with h | h
    · obtain ⟨rfl, rfl⟩ := Prod.mk.inj h
      simp [lookup]
    · rw [lookup, if_neg (Ne.symm (head _ h))]
      exact lookup_of_mem tail h

theorem lookup_map (f : κ → α → β) (key : κ) : ∀ entries : List (κ × α),
    lookup key (entries.map fun e => (e.1, f e.1 e.2)) = (lookup key entries).map (f key)
  | [] => rfl
  | (k, v) :: rest => by
    simp only [List.map_cons, lookup]
    split
    · rename_i eq
      subst eq
      rfl
    · exact lookup_map f key rest

theorem lookup_filter (keep : κ → Bool) (key : κ) : ∀ entries : List (κ × α),
    lookup key (entries.filter fun e => keep e.1) =
      if keep key then lookup key entries else none
  | [] => by simp [lookup]
  | (k, v) :: rest => by
    have ih := lookup_filter keep key rest
    cases hk : keep k with
    | true =>
      rw [List.filter_cons_of_pos (by simpa using hk)]
      simp only [lookup]
      split
      · rename_i eq
        rw [eq, hk, if_pos rfl]
      · exact ih
    | false =>
      rw [List.filter_cons_of_neg (by simp [hk]), ih]
      split
      · rename_i keepKey
        rw [lookup, if_neg]
        intro eq
        rw [eq, hk] at keepKey
        exact absurd keepKey (by simp)
      · rfl

end Lookup

/-! ## 2. Maps, read -/

variable [LT κ]

/-- The map without entries. -/
def empty : SortedMap κ α := ⟨[], List.Pairwise.nil⟩

instance : EmptyCollection (SortedMap κ α) := ⟨empty⟩

instance : Inhabited (SortedMap κ α) := ⟨empty⟩

/-- The keys, in increasing order. -/
def keys (m : SortedMap κ α) : List κ := m.entries.map Prod.fst

/-- The number of entries. -/
def size (m : SortedMap κ α) : Nat := m.entries.length

/-- Whether there is no entry. -/
def isEmpty (m : SortedMap κ α) : Bool := m.entries.isEmpty

/-- The same keys with other values. -/
def mapValues (f : κ → α → β) (m : SortedMap κ α) : SortedMap κ β :=
  ⟨m.entries.map fun e => (e.1, f e.1 e.2), by
    rw [List.pairwise_map]
    exact m.sorted⟩

theorem keys_sorted (m : SortedMap κ α) : m.keys.Pairwise fun a b => a < b :=
  List.pairwise_map.mpr m.sorted

variable [DecidableEq κ]

/-- The value under a key. -/
def get? (m : SortedMap κ α) (key : κ) : Option α := lookup key m.entries

theorem get?_mapValues (f : κ → α → β) (m : SortedMap κ α) (key : κ) :
    (m.mapValues f).get? key = (m.get? key).map (f key) :=
  lookup_map f key m.entries

/-! ## 3. Writing -/

section Entries

variable [DecidableLT κ]

/-- Writes one entry into a list of entries in key order, in place of the entry that has the
same key, if there is one. -/
def insertEntry (key : κ) (value : α) : List (κ × α) → List (κ × α)
  | [] => [(key, value)]
  | (k, v) :: rest =>
    if key < k then (key, value) :: (k, v) :: rest
    else if key = k then (key, value) :: rest
    else (k, v) :: insertEntry key value rest

theorem mem_insertEntry {key : κ} {value : α} {e : κ × α} :
    ∀ {entries : List (κ × α)}, e ∈ insertEntry key value entries →
      e = (key, value) ∨ e ∈ entries
  | [], h => by simpa [insertEntry] using h
  | (k, v) :: rest, h => by
    simp only [insertEntry] at h
    split at h
    · simpa using h
    · split at h
      · simp only [List.mem_cons] at h ⊢
        rcases h with h | h
        · exact .inl h
        · exact .inr (.inr h)
      · simp only [List.mem_cons] at h ⊢
        rcases h with h | h
        · exact .inr (.inl h)
        · rcases mem_insertEntry h with h | h
          · exact .inl h
          · exact .inr (.inr h)

theorem lookup_insertEntry (key : κ) (value : α) (k : κ) : ∀ entries : List (κ × α),
    lookup k (insertEntry key value entries) = if k = key then some value else lookup k entries
  | [] => rfl
  | (k', v) :: rest => by
    simp only [insertEntry]
    split
    · rfl
    · split
      · rename_i eq
        subst eq
        simp only [lookup]
        split <;> rfl
      · rename_i ne
        simp only [lookup]
        rw [lookup_insertEntry key value k rest]
        split
        · rename_i eq
          subst eq
          rw [if_neg (Ne.symm ne)]
        · rfl

/-- Merges an entry, and what `after` leaves of the entries that follow it, into a list of entries
in key order.  Where the list has the same key, its own entry stays. -/
def weave (key : κ) (value : α) (after : List (κ × α) → List (κ × α)) :
    List (κ × α) → List (κ × α)
  | [] => (key, value) :: after []
  | (k, v) :: rest =>
    if key < k then (key, value) :: after ((k, v) :: rest)
    else if key = k then (k, v) :: after rest
    else (k, v) :: weave key value after rest

/-- Merges two lists of entries in key order.  Where both have a key, the entry of the second one
stays. -/
def mergeEntries : List (κ × α) → List (κ × α) → List (κ × α)
  | [], others => others
  | (key, value) :: entries, others => weave key value (mergeEntries entries) others

theorem mem_mergeEntries {e : κ × α} : ∀ {entries others : List (κ × α)},
    e ∈ mergeEntries entries others → e ∈ entries ∨ e ∈ others
  | [], others, h => .inr h
  | (key, value) :: entries, others, h => by
    rw [mergeEntries] at h
    induction others with
    | nil =>
      rcases List.mem_cons.mp h with rfl | h
      · exact .inl List.mem_cons_self
      · exact (mem_mergeEntries h).imp_left (List.mem_cons_of_mem _)
    | cons other others ih =>
      simp only [weave] at h
      split at h
      · rcases List.mem_cons.mp h with rfl | h
        · exact .inl List.mem_cons_self
        · exact (mem_mergeEntries h).imp_left (List.mem_cons_of_mem _)
      · split at h
        · rcases List.mem_cons.mp h with rfl | h
          · exact .inr List.mem_cons_self
          · exact (mem_mergeEntries h).imp (List.mem_cons_of_mem _) (List.mem_cons_of_mem _)
        · rcases List.mem_cons.mp h with rfl | h
          · exact .inr List.mem_cons_self
          · exact (ih h).imp_right (List.mem_cons_of_mem _)

end Entries

variable [KeyOrder κ]

section Writes

variable [DecidableLT κ]

theorem insertEntry_sorted (key : κ) (value : α) : ∀ {entries : List (κ × α)},
    entries.Pairwise (fun a b => a.1 < b.1) →
      (insertEntry key value entries).Pairwise fun a b => a.1 < b.1
  | [], _ => by simp [insertEntry]
  | (k, v) :: rest, h => by
    obtain ⟨head, tail⟩ := List.pairwise_cons.mp h
    simp only [insertEntry]
    split
    · rename_i lt
      refine List.pairwise_cons.mpr ⟨fun e he => ?_, h⟩
      rcases List.mem_cons.mp he with rfl | he
      · exact lt
      · exact KeyOrder.trans lt (head e he)
    · split
      · rename_i eq
        subst eq
        exact List.pairwise_cons.mpr ⟨head, tail⟩
      · rename_i nlt ne
        refine List.pairwise_cons.mpr ⟨fun e he => ?_, insertEntry_sorted key value tail⟩
        rcases mem_insertEntry he with rfl | he
        · rcases Classical.em (k < key) with lt | nlt'
          · exact lt
          · exact absurd (KeyOrder.connected nlt nlt') ne
        · exact head e he

omit [DecidableLT κ] in
/-- A key that comes before all keys of a list is not in it. -/
theorem lookup_eq_none_of_lt {key : κ} : ∀ {entries : List (κ × α)},
    (∀ e ∈ entries, key < e.1) → lookup key entries = none
  | [], _ => rfl
  | (k, v) :: rest, h => by
    have first := h (k, v) List.mem_cons_self
    rw [lookup, if_neg]
    · exact lookup_eq_none_of_lt fun e he => h e (List.mem_cons_of_mem _ he)
    · rintro rfl
      exact KeyOrder.irrefl _ first

theorem mergeEntries_sorted : ∀ {entries others : List (κ × α)},
    entries.Pairwise (fun a b => a.1 < b.1) → others.Pairwise (fun a b => a.1 < b.1) →
      (mergeEntries entries others).Pairwise fun a b => a.1 < b.1
  | [], _, _, h => h
  | (key, value) :: entries, others, hl, hr => by
    obtain ⟨above, sorted⟩ := List.pairwise_cons.mp hl
    rw [mergeEntries]
    induction others with
    | nil =>
      refine List.pairwise_cons.mpr ⟨fun e he => ?_, mergeEntries_sorted sorted hr⟩
      exact above e ((mem_mergeEntries he).resolve_right (by simp))
    | cons other others ih =>
      obtain ⟨aboveOther, sortedOthers⟩ := List.pairwise_cons.mp hr
      simp only [weave]
      split
      · rename_i lt
        refine List.pairwise_cons.mpr ⟨fun e he => ?_, mergeEntries_sorted sorted hr⟩
        rcases mem_mergeEntries he with he | he
        · exact above e he
        · rcases List.mem_cons.mp he with rfl | he
          · exact lt
          · exact KeyOrder.trans lt (aboveOther e he)
      · split
        · rename_i same
          refine List.pairwise_cons.mpr ⟨fun e he => ?_, mergeEntries_sorted sorted sortedOthers⟩
          rcases mem_mergeEntries he with he | he
          · exact same ▸ above e he
          · exact aboveOther e he
        · rename_i nlt ne
          have lt : other.1 < key := by
            rcases Classical.em (other.1 < key) with lt | nlt'
            · exact lt
            · exact absurd (KeyOrder.connected nlt nlt') ne
          refine List.pairwise_cons.mpr ⟨fun e he => ?_, ih sortedOthers⟩
          have whole : e ∈ mergeEntries ((key, value) :: entries) others := he
          rcases mem_mergeEntries whole with he | he
          · rcases List.mem_cons.mp he with rfl | he
            · exact lt
            · exact KeyOrder.trans lt (above e he)
          · exact aboveOther e he

theorem lookup_mergeEntries (k : κ) : ∀ {entries others : List (κ × α)},
    others.Pairwise (fun a b => a.1 < b.1) →
      lookup k (mergeEntries entries others) = (lookup k others).or (lookup k entries)
  | [], others, _ => by simp [mergeEntries, lookup]
  | (key, value) :: entries, others, hr => by
    rw [mergeEntries]
    induction others with
    | nil =>
      simp only [weave, lookup]
      rw [lookup_mergeEntries k hr]
      simp [lookup]
    | cons other others ih =>
      obtain ⟨aboveOther, sortedOthers⟩ := List.pairwise_cons.mp hr
      simp only [weave]
      split
      · rename_i lt
        rw [lookup, lookup_mergeEntries k hr]
        by_cases eq : k = key
        · subst eq
          have none : lookup k (other :: others) = none := by
            refine lookup_eq_none_of_lt fun e he => ?_
            rcases List.mem_cons.mp he with rfl | he
            · exact lt
            · exact KeyOrder.trans lt (aboveOther e he)
          rw [if_pos rfl, none]
          simp [lookup]
        · simp [lookup, eq]
      · split
        · rename_i same
          simp only [lookup]
          rw [lookup_mergeEntries k sortedOthers]
          by_cases eq : k = other.1
          · simp [eq]
          · have ne : k ≠ key := fun h => eq (h.trans same)
            simp [eq, ne]
        · simp only [lookup]
          rw [ih sortedOthers]
          by_cases eq : k = other.1
          · simp [eq]
          · simp [eq, lookup]

/-- Writes `value` under `key`. -/
def insert (m : SortedMap κ α) (key : κ) (value : α) : SortedMap κ α :=
  ⟨insertEntry key value m.entries, insertEntry_sorted key value m.sorted⟩

/-- Writes every entry of a list, from first to last. -/
def insertAll (m : SortedMap κ α) (entries : List (κ × α)) : SortedMap κ α :=
  entries.foldl (fun m e => m.insert e.1 e.2) m

/-- Writes every entry of `other` into `m`. -/
def extend (m other : SortedMap κ α) : SortedMap κ α :=
  ⟨mergeEntries m.entries other.entries, mergeEntries_sorted m.sorted other.sorted⟩

/-- The map with a single entry. -/
def single (key : κ) (value : α) : SortedMap κ α := ⟨[(key, value)], List.pairwise_singleton _ _⟩

/-- The map that holds the last value given for each key. -/
def ofList (entries : List (κ × α)) : SortedMap κ α :=
  entries.foldr (fun e later => (single e.1 e.2).extend later) empty

/-- **The last write wins**, and leaves the other keys alone. -/
theorem get?_insert (m : SortedMap κ α) (key : κ) (value : α) (k : κ) :
    (m.insert key value).get? k = if k = key then some value else m.get? k :=
  lookup_insertEntry key value k m.entries

theorem get?_insertAll (m : SortedMap κ α) (entries : List (κ × α)) (k : κ) :
    (m.insertAll entries).get? k = (lookup k entries.reverse).or (m.get? k) := by
  induction entries generalizing m with
  | nil => rfl
  | cons e entries ih =>
    simp only [insertAll, List.foldl_cons] at ih ⊢
    rw [ih, get?_insert, List.reverse_cons, lookup_append]
    simp only [lookup]
    cases lookup k entries.reverse with
    | some v => rfl
    | none => split <;> rfl

/-- **Merging is right-biased.** -/
theorem get?_extend (m other : SortedMap κ α) (key : κ) :
    (m.extend other).get? key = (other.get? key).or (m.get? key) :=
  lookup_mergeEntries key other.sorted

theorem get?_ofList (entries : List (κ × α)) (key : κ) :
    (ofList entries).get? key = lookup key entries.reverse := by
  induction entries with
  | nil => rfl
  | cons e entries ih =>
    have step : ofList (e :: entries) = (single e.1 e.2).extend (ofList entries) := rfl
    rw [step, get?_extend, ih, List.reverse_cons, lookup_append]
    rfl

end Writes

/-! ## 4. A map is its look-ups -/

omit [DecidableEq κ] in
theorem keys_distinct (m : SortedMap κ α) : m.entries.Pairwise fun a b => a.1 ≠ b.1 :=
  m.sorted.imp fun {a b} lt eq => by
    rw [eq] at lt
    exact KeyOrder.irrefl _ lt

theorem get?_eq_some_iff (m : SortedMap κ α) {key : κ} {value : α} :
    m.get? key = some value ↔ (key, value) ∈ m.entries :=
  ⟨mem_of_lookup, lookup_of_mem m.keys_distinct⟩

/-- The keys are those that have a value. -/
theorem mem_keys_iff (m : SortedMap κ α) {key : κ} :
    key ∈ m.keys ↔ ∃ value, m.get? key = some value := by
  simp only [get?_eq_some_iff, keys, List.mem_map]
  constructor
  · rintro ⟨⟨key, value⟩, mem, rfl⟩
    exact ⟨value, mem⟩
  · rintro ⟨value, mem⟩
    exact ⟨(key, value), mem, rfl⟩

omit [DecidableEq κ] in
/-- Lists of entries in key order that hold the same entries are equal. -/
theorem entries_ext : ∀ {l r : List (κ × α)}, l.Pairwise (fun a b => a.1 < b.1) →
    r.Pairwise (fun a b => a.1 < b.1) → (∀ e, e ∈ l ↔ e ∈ r) → l = r
  | [], [], _, _, _ => rfl
  | [], e :: r, _, _, h => by simpa using h e
  | e :: l, [], _, _, h => by simpa using h e
  | e :: l, f :: r, hl, hr, h => by
    obtain ⟨le, tl⟩ := List.pairwise_cons.mp hl
    obtain ⟨lf, tr⟩ := List.pairwise_cons.mp hr
    have irrefl : ∀ k : κ, ¬ k < k := KeyOrder.irrefl
    have heads : e = f := by
      rcases List.mem_cons.mp ((h e).mp List.mem_cons_self) with eq | me
      · exact eq
      · rcases List.mem_cons.mp ((h f).mpr List.mem_cons_self) with eq | mf
        · exact eq.symm
        · exact absurd (KeyOrder.trans (le f mf) (lf e me)) (irrefl _)
    subst heads
    refine congrArg (e :: ·) (entries_ext tl tr fun x => ?_)
    constructor
    · intro hx
      rcases List.mem_cons.mp ((h x).mp (List.mem_cons_of_mem _ hx)) with rfl | hx'
      · exact absurd (le _ hx) (irrefl _)
      · exact hx'
    · intro hx
      rcases List.mem_cons.mp ((h x).mpr (List.mem_cons_of_mem _ hx)) with rfl | hx'
      · exact absurd (lf _ hx) (irrefl _)
      · exact hx'

/-- **A map is its look-ups.** -/
theorem ext_get? {m n : SortedMap κ α} (h : ∀ key, m.get? key = n.get? key) : m = n := by
  refine SortedMap.ext (entries_ext m.sorted n.sorted fun e => ?_)
  rw [← get?_eq_some_iff, ← get?_eq_some_iff, h]

section Entries

variable [DecidableLT κ]

/-- The entries of a map, written one by one, make the map again. -/
theorem ofList_entries (m : SortedMap κ α) : ofList m.entries = m := by
  refine ext_get? fun key => ?_
  have distinct : m.entries.reverse.Pairwise fun a b => a.1 ≠ b.1 :=
    List.pairwise_reverse.mpr (m.keys_distinct.imp Ne.symm)
  rw [get?_ofList]
  cases found : m.get? key with
  | some value =>
    exact lookup_of_mem distinct (List.mem_reverse.mpr ((get?_eq_some_iff m).mp found))
  | none =>
    cases other : lookup key m.entries.reverse with
    | none => rfl
    | some value =>
      have := (get?_eq_some_iff m).mpr (List.mem_reverse.mp (mem_of_lookup other))
      rw [found] at this
      exact absurd this (by simp)

end Entries

end SortedMap

end SinglePage
