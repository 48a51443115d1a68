/-
# How deep renderings are nested

The rank of a value says how deep records are nested in it, and the rank of an action how deep
renderings of records are nested in it.  Filling a template in leads from a rendering to
the filters that it sees and to the entries of a record, and both of these have lower ranks:

* `rank_of_perform`: what an action returns has no greater rank than the action and its argument,
  whatever the calls inside it return;
* `below_of_record`: what a rendering sees has a lower rank than the rendering or the list.
-/
import SinglePage.Filter.Action

namespace SinglePage

/-! ## 1. Ranks -/

mutual

/-- The rank of a value: how deep records are nested in it.  Lists do not count. -/
def Value.rank : Value → Nat
  | .text _ => 0
  | .list items => itemsRank items
  | .record entries => entriesRank entries + 1
  | .filter _ action => action.rank

/-- The rank of an action: how deep renderings of records are nested in it. -/
def Action.rank : Action → Nat
  | .postifyEach _ filters => filtersRank filters + 1
  | .constant value => value.rank
  | _ => 0

/-- The greatest rank of an item. -/
def itemsRank : List Value → Nat
  | [] => 0
  | item :: items => max item.rank (itemsRank items)

/-- The greatest rank of the value of an entry. -/
def entriesRank : List (String × Value) → Nat
  | [] => 0
  | (_, value) :: entries => max value.rank (entriesRank entries)

/-- The greatest rank of a filter. -/
def filtersRank : List (String × Action) → Nat
  | [] => 0
  | (_, action) :: filters => max action.rank (filtersRank filters)

end

/-! ## 2. Ranks of parts -/

theorem rank_le_itemsRank {item : Value} : ∀ {items : List Value}, item ∈ items →
    item.rank ≤ itemsRank items
  | other :: items, h => by
    rw [itemsRank]
    rcases List.mem_cons.mp h with rfl | h
    · omega
    · have := rank_le_itemsRank h
      omega

theorem rank_le_entriesRank {key : String} {value : Value} :
    ∀ {entries : List (String × Value)}, (key, value) ∈ entries →
      value.rank ≤ entriesRank entries
  | (k, v) :: entries, h => by
    rw [entriesRank]
    rcases List.mem_cons.mp h with h | h
    · obtain ⟨rfl, rfl⟩ := Prod.mk.inj h
      omega
    · have := rank_le_entriesRank h
      omega

theorem rank_le_filtersRank {name : String} {action : Action} :
    ∀ {filters : List (String × Action)}, (name, action) ∈ filters →
      action.rank ≤ filtersRank filters
  | (n, a) :: filters, h => by
    rw [filtersRank]
    rcases List.mem_cons.mp h with h | h
    · obtain ⟨rfl, rfl⟩ := Prod.mk.inj h
      omega
    · have := rank_le_filtersRank h
      omega

theorem itemsRank_texts : ∀ texts : List String, itemsRank (texts.map .text) = 0
  | [] => by simp [itemsRank]
  | text :: texts => by simp [itemsRank, Value.rank, itemsRank_texts texts]

/-! ## 3. What renderings see -/

/-- Variables whose values all have a rank below `bound`. -/
def Variables.Below (bound : Nat) (vars : Variables) : Prop :=
  ∀ key value, SortedMap.get? vars key = some value → value.rank < bound

theorem Variables.Below.value {bound : Nat} {vars : Variables} (below : vars.Below bound)
    {key : String} {value : Value} (h : Variables.value vars key = .ok value) :
    value.rank < bound := by
  unfold Variables.value at h
  split at h
  · rename_i found
    obtain rfl := Except.ok.inj h
    exact below _ _ found
  · exact absurd h (by simp)

theorem Variables.Below.filter {bound : Nat} {vars : Variables} (below : vars.Below bound)
    {name : String} {filter : Filter} (h : Variables.filter vars name = .ok filter) :
    filter.action.rank < bound := by
  unfold Variables.filter at h
  split at h
  · rename_i held found
    have := below name held found
    cases held with
    | filter n action =>
      obtain rfl := Except.ok.inj h
      simpa [Value.rank] using this
    | _ => exact absurd h (by simp [Value.asFilter])
  · exact absurd h (by simp)

/-- What a look-up finds in a map made from entries is one of the entries. -/
theorem mem_of_get?_ofList {entries : List (String × Value)} {key : String} {value : Value}
    (h : (SortedMap.ofList entries).get? key = some value) : (key, value) ∈ entries := by
  rw [SortedMap.get?_ofList] at h
  exact List.mem_reverse.mp (SortedMap.mem_of_lookup h)

/-- **The variables of a rendering have lower ranks than the rendering or the list.** -/
theorem below_of_record {filters : List (String × Action)} {item : Value} {record : Variables}
    (h : item.asRecord = .ok record) :
    Variables.Below (max (filtersRank filters + 1) item.rank)
      (record.extend (filterVariables filters)) := by
  intro key value found
  rw [SortedMap.get?_extend] at found
  cases item with
  | record entries =>
    obtain rfl := Except.ok.inj h
    cases inFilters : (filterVariables filters).get? key with
    | some v =>
      rw [inFilters] at found
      obtain rfl : v = value := by simpa using found
      obtain ⟨⟨name, action⟩, mem, eq⟩ := List.mem_map.mp (mem_of_get?_ofList inFilters)
      obtain ⟨rfl, rfl⟩ := Prod.mk.inj eq
      have := rank_le_filtersRank mem
      simp only [Value.rank]
      omega
    | none =>
      rw [inFilters] at found
      have := rank_le_entriesRank (mem_of_get?_ofList (by simpa using found))
      simp only [Value.rank]
      omega
  | _ => exact absurd h (by simp [Value.asRecord])

/-! ## 4. What actions return -/

/-- **What an action returns has no greater rank than what it is made from.** -/
theorem rank_of_perform {call : Call} {action : Action} {value result : Value}
    (h : action.perform call value = .ok result) :
    result.rank ≤ max action.rank value.rank := by
  cases action with
  | joinLines =>
    simp only [Action.perform, joinLines, bind, Except.bind] at h
    split at h
    · exact absurd h (by simp)
    · split at h
      · exact absurd h (by simp)
      · obtain rfl := Except.ok.inj h
        simp [Value.rank]
  | friendlyDatetime =>
    simp only [Action.perform, friendlyDatetime, bind, Except.bind] at h
    split at h
    · exact absurd h (by simp)
    · split at h
      · obtain rfl := Except.ok.inj h
        simp [Value.rank]
      · exact absurd h (by simp)
  | postifyEach template filters =>
    simp only [Action.perform, bind, Except.bind] at h
    split at h
    · exact absurd h (by simp)
    · split at h
      · exact absurd h (by simp)
      · obtain rfl := Except.ok.inj h
        rw [Value.rank, itemsRank_texts]
        omega
  | identity =>
    obtain rfl := Except.ok.inj h
    omega
  | append text =>
    simp only [Action.perform, bind, Except.bind] at h
    split at h
    · exact absurd h (by simp)
    · obtain rfl := Except.ok.inj h
      simp [Value.rank]
  | wrap =>
    obtain rfl : Value.list [value] = result := Except.ok.inj h
    simp only [Value.rank, itemsRank]
    omega
  | kind =>
    obtain rfl := Except.ok.inj h
    simp [Value.rank]
  | display =>
    obtain rfl := Except.ok.inj h
    simp [Value.rank]
  | constant fixed =>
    obtain rfl : fixed = result := Except.ok.inj h
    simp only [Action.rank]
    omega
  | field key =>
    simp only [Action.perform, fieldOf, bind, Except.bind] at h
    cases value with
    | record entries =>
      simp only [Value.asRecord, Variables.value] at h
      split at h
      · rename_i found
        obtain rfl := Except.ok.inj h
        have := rank_le_entriesRank (mem_of_get?_ofList found)
        simp only [Value.rank]
        omega
      · exact absurd h (by simp)
    | _ => exact absurd h (by simp [Value.asRecord])
  | fail reason => exact absurd h (by simp [Action.perform])

end SinglePage
