/-
# Maps and what was written into them

Whatever is written into a map, entry by entry or all at once, comes to a list of entries, and the map
made from this list holds the last value of each key.  So a map can be read off the list.

Two maps whose values are of different types, or are the same in different forms, cannot be equal.  They
can still have the same keys, and under each key values that belong together (`Related`).

* `insertAll_ofList`, `extend_eq_insertAll`: writing more makes the list longer, and merging is writing
  the entries of the other map one by one;
* `get?_ofList_eq_some_iff`, `mem_keys_ofList_iff`, `size_ofList`, `isEmpty_ofList_iff`: what a map made
  from a list holds;
* `Related.forall₂_entries`: the entries of related maps are related one by one;
* `Related.extend`: merging keeps maps related.
-/
import Mathlib.Data.List.Forall2
import SinglePage.Proofs.Map.Merging

namespace SinglePage.SortedMap

variable {κ α β γ δ : Type} [LT κ] [DecidableEq κ] [KeyOrder κ]

/-! ## 1. Lists of writes -/

section Lists

variable [DecidableLT κ]

/-- **Writing more entries makes the list longer.** -/
theorem insertAll_ofList (entries later : List (κ × α)) :
    (ofList entries).insertAll later = ofList (entries ++ later) := by
  refine ext_get? fun key => ?_
  rw [get?_insertAll, get?_ofList, get?_ofList, List.reverse_append, lookup_append]

/-- **Merging is writing the entries of the other map one by one.** -/
theorem extend_eq_insertAll (m other : SortedMap κ α) : m.extend other = m.insertAll other.entries := by
  refine ext_get? fun key => ?_
  rw [get?_extend, get?_insertAll, ← get?_ofList, ofList_entries]

/-- **A map made from a list holds the last value of each key.** -/
theorem get?_ofList_eq_some_iff {entries : List (κ × α)} {key : κ} {value : α} :
    (ofList entries).get? key = some value ↔
      ∃ earlier later, entries = earlier ++ (key, value) :: later ∧ key ∉ later.map Prod.fst := by
  rw [get?_ofList, lookup_reverse_eq_some_iff]

theorem get?_ofList_eq_none_iff {entries : List (κ × α)} {key : κ} :
    (ofList entries).get? key = none ↔ key ∉ entries.map Prod.fst := by
  rw [get?_ofList, lookup_reverse_eq_none_iff]

theorem mem_keys_ofList_iff {entries : List (κ × α)} {key : κ} :
    key ∈ (ofList entries).keys ↔ key ∈ entries.map Prod.fst := by
  rw [← not_iff_not, not_mem_keys_iff, get?_ofList_eq_none_iff]

/-- A map made from a list has as many entries as there are different keys in the list. -/
theorem size_ofList (entries : List (κ × α)) :
    (ofList entries).size = (entries.map Prod.fst).toFinset.card := by
  have keys : (ofList entries).keys.toFinset = (entries.map Prod.fst).toFinset := by
    ext key
    rw [List.mem_toFinset, List.mem_toFinset, mem_keys_ofList_iff]
  rw [size_eq_card, keys]

/-- **Only a list without entries makes a map without entries.** -/
theorem isEmpty_ofList_iff {entries : List (κ × α)} :
    (ofList entries).isEmpty = true ↔ entries = [] := by
  rw [isEmpty, List.isEmpty_iff]
  constructor
  · intro none
    refine List.eq_nil_iff_forall_not_mem.mpr fun entry mem => ?_
    have held := mem_keys_ofList_iff.mpr (List.mem_map_of_mem (f := Prod.fst) mem)
    rw [keys, none] at held
    exact absurd held List.not_mem_nil
  · rintro rfl
    rfl

/-- Values can be replaced before or after the map is made. -/
theorem ofList_map (f : κ → α → β) (entries : List (κ × α)) :
    ofList (entries.map fun e => (e.1, f e.1 e.2)) = (ofList entries).mapValues f := by
  refine ext_get? fun key => ?_
  rw [get?_ofList, get?_mapValues, get?_ofList, ← List.map_reverse, lookup_map]

end Lists

/-! ## 2. Related maps -/

/-- **Two maps have the same keys, and related values under them.** -/
structure Related (R : α → β → Prop) (m : SortedMap κ α) (n : SortedMap κ β) : Prop where
  keys : ∀ key, key ∈ m.keys ↔ key ∈ n.keys
  values : ∀ key value other, m.get? key = some value → n.get? key = some other → R value other

omit [LT κ] [DecidableEq κ] [KeyOrder κ] in
/-- Lists with the same keys are related one by one if all their entries of one key are. -/
theorem forall₂_of_keys {R : α → β → Prop} : ∀ {l : List (κ × α)} {r : List (κ × β)},
    l.map Prod.fst = r.map Prod.fst → (∀ e ∈ l, ∀ f ∈ r, e.1 = f.1 → R e.2 f.2) →
      List.Forall₂ (fun e f => e.1 = f.1 ∧ R e.2 f.2) l r
  | [], [], _, _ => .nil
  | [], f :: r, keys, _ => absurd keys (by simp)
  | e :: l, [], keys, _ => absurd keys (by simp)
  | e :: l, f :: r, keys, related => by
    obtain ⟨first, rest⟩ := List.cons.inj keys
    have behind : ∀ e' ∈ l, ∀ f' ∈ r, e'.1 = f'.1 → R e'.2 f'.2 := fun e' mem f' mem' =>
      related e' (List.mem_cons_of_mem _ mem) f' (List.mem_cons_of_mem _ mem')
    exact .cons ⟨first, related e List.mem_cons_self f List.mem_cons_self first⟩
      (forall₂_of_keys rest behind)

namespace Related

omit [KeyOrder κ] in
/-- A map is related to itself if each value is. -/
theorem refl {R : α → α → Prop} (each : ∀ value, R value value) (m : SortedMap κ α) :
    Related R m m where
  keys _ := Iff.rfl
  values key value other here there := by
    obtain rfl := Option.some.inj (here.symm.trans there)
    exact each value

variable {R : α → β → Prop} {m : SortedMap κ α} {n : SortedMap κ β}

/-- **At each key there is a value in both maps or in neither.** -/
theorem get?_cases (related : Related R m n) (key : κ) :
    (m.get? key = none ∧ n.get? key = none) ∨
      ∃ value other, m.get? key = some value ∧ n.get? key = some other ∧ R value other := by
  have both := related.keys key
  rw [mem_keys_iff, mem_keys_iff] at both
  cases here : m.get? key with
  | none =>
    cases there : n.get? key with
    | none => exact .inl ⟨rfl, rfl⟩
    | some other =>
      obtain ⟨value, held⟩ := both.mpr ⟨other, there⟩
      exact absurd (here.symm.trans held) (by simp)
  | some value =>
    obtain ⟨other, there⟩ := both.mp ⟨value, here⟩
    exact .inr ⟨value, other, rfl, there, related.values key value other here there⟩

omit [KeyOrder κ] in
theorem mapValues {S : γ → δ → Prop} (related : Related R m n) {f : κ → α → γ} {g : κ → β → δ}
    (each : ∀ key value other, R value other → S (f key value) (g key other)) :
    Related S (m.mapValues f) (n.mapValues g) where
  keys key := by
    rw [keys_mapValues, keys_mapValues, related.keys]
  values key value other here there := by
    rw [get?_mapValues, Option.map_eq_some_iff] at here there
    obtain ⟨value, held, rfl⟩ := here
    obtain ⟨other, held', rfl⟩ := there
    exact each key value other (related.values key value other held held')

/-- Where related values become equal, the maps do. -/
theorem mapValues_eq (related : Related R m n) {f : κ → α → γ} {g : κ → β → γ}
    (same : ∀ key value other, R value other → f key value = g key other) :
    m.mapValues f = n.mapValues g := by
  refine ext_get? fun key => ?_
  rw [get?_mapValues, get?_mapValues]
  rcases related.get?_cases key with ⟨here, there⟩ | ⟨value, other, here, there, both⟩
  · rw [here, there]
    rfl
  · rw [here, there, Option.map_some, Option.map_some, same key value other both]

theorem keys_eq (related : Related R m n) : m.keys = n.keys := by
  have blank : (m.mapValues fun _ _ => ()) = n.mapValues fun _ _ => () :=
    related.mapValues_eq fun _ _ _ _ => rfl
  rw [← keys_mapValues (fun _ _ => ()) m, blank, keys_mapValues]

/-- **The entries of related maps are related one by one.** -/
theorem forall₂_entries (related : Related R m n) :
    List.Forall₂ (fun e f => e.1 = f.1 ∧ R e.2 f.2) m.entries n.entries := by
  refine forall₂_of_keys related.keys_eq ?_
  intro e mem f mem' same
  have here := m.get?_eq_some_iff.mpr mem
  have there := n.get?_eq_some_iff.mpr mem'
  rw [← same] at there
  exact related.values e.1 e.2 f.2 here there

/-- **Merging keeps maps related.** -/
theorem extend [DecidableLT κ] (related : Related R m n) {m' : SortedMap κ α} {n' : SortedMap κ β}
    (related' : Related R m' n') : Related R (m.extend m') (n.extend n') where
  keys key := by
    rw [mem_keys_extend_iff, mem_keys_extend_iff, related.keys, related'.keys]
  values key value other here there := by
    rw [get?_extend] at here there
    rcases related'.get?_cases key with ⟨none, none'⟩ | ⟨last, last', held, held', both⟩
    · rw [none, Option.none_or] at here
      rw [none', Option.none_or] at there
      exact related.values key value other here there
    · rw [held, Option.some_or] at here
      rw [held', Option.some_or] at there
      obtain rfl := Option.some.inj here
      obtain rfl := Option.some.inj there
      exact both

end Related

end SinglePage.SortedMap
