/-
# Values that are the same, however they were written

The entries of a record count as written one after the other, so one record can be written in many ways:
in any order of its keys, and with entries that a later one replaces.  Records stand in lists and in other
records, filters hold values and other filters, and so there are many forms of most values.

The forms of a value are the same to all that a program does with it.  They are written alike.  Filters
that are the same make the same of them, or fail with the same error; this is what takes an induction,
because a filter can render the records of a list through a template, and then calls filters itself.

* `Value.Same`, `Action.Same`: the same value, and the same thing that filters do;
* `Value.Same.display`: the same values are written alike;
* `callsAlikeBelow`: what the same filters make of the same values is the same;
* `Template.apply_related`: a template is filled in alike from the same variables.
-/
import SinglePage.Proofs.Filter.Locality
import SinglePage.Proofs.Filter.Termination
import SinglePage.Proofs.Map.Written

namespace SinglePage

open SortedMap (Related)

/-! ## 1. Values in different forms -/

mutual

/-- **Two values are the same**, although the records in them may be written in different ways: records
are the same if they have the same keys and the same value under each. -/
inductive Value.Same : Value → Value → Prop
  | refl (value : Value) : Value.Same value value
  | list {items others : List Value} (length : items.length = others.length)
    (each : ∀ item other, (item, other) ∈ items.zip others → Value.Same item other) :
    Value.Same (.list items) (.list others)
  | record {entries others : List (String × Value)}
    (keys : ∀ key, key ∈ (SortedMap.ofList entries).keys ↔ key ∈ (SortedMap.ofList others).keys)
    (values : ∀ key value other, (SortedMap.ofList entries).get? key = some value →
      (SortedMap.ofList others).get? key = some other → Value.Same value other) :
    Value.Same (.record entries) (.record others)
  | filter (name : String) {action other : Action} (same : Action.Same action other) :
    Value.Same (.filter name action) (.filter name other)

/-- **Two filters do the same**: the values in them are the same, and they see the same filters. -/
inductive Action.Same : Action → Action → Prop
  | refl (action : Action) : Action.Same action action
  | constant {value other : Value} (same : Value.Same value other) :
    Action.Same (.constant value) (.constant other)
  | postifyEach (template : Template) {filters others : List (String × Action)}
    (names : ∀ name, name ∈ (SortedMap.ofList filters).keys ↔ name ∈ (SortedMap.ofList others).keys)
    (actions : ∀ name action other, (SortedMap.ofList filters).get? name = some action →
      (SortedMap.ofList others).get? name = some other → Action.Same action other) :
    Action.Same (.postifyEach template filters) (.postifyEach template others)

end

/-- What is written of a record is its entries as a map, with their written values. -/
theorem ofList_displayEntries (entries : List (String × Value)) :
    SortedMap.ofList (displayEntries entries) =
      (SortedMap.ofList entries).mapValues fun _ value => value.display := by
  rw [displayEntries_eq_map]
  exact SortedMap.ofList_map (fun _ value => value.display) entries

namespace Value.Same

/-- **The same values are written alike.**  By recursion on why they are the same. -/
theorem display : ∀ {value other : Value}, value.Same other → value.display = other.display
  | _, _, .refl _ => rfl
  | .list items, .list others, .list length each => by
    have written : items.map Value.display = others.map Value.display := by
      rw [← List.forall₂_eq_eq_eq, List.forall₂_map_left_iff, List.forall₂_map_right_iff]
      exact List.forall₂_iff_zip.mpr ⟨length, fun mem => (each _ _ mem).display⟩
    rw [Value.display, Value.display, displayItems_eq_map, displayItems_eq_map, written]
  | .record entries, .record others, .record keys values => by
    have written : Related (fun value other => value.display = other.display)
        (SortedMap.ofList entries) (SortedMap.ofList others) :=
      ⟨keys, fun key value other here there => (values key value other here there).display⟩
    rw [Value.display, Value.display, displayRecord, displayRecord, ofList_displayEntries,
      ofList_displayEntries, written.mapValues_eq fun _ _ _ same => same]
  | _, _, .filter name _ => by rw [Value.display, Value.display]

/-! ## 2. What is read off a value -/

variable {value other : Value}

theorem kind (same : value.Same other) : value.kind = other.kind := by cases same <;> rfl

theorem asText (same : value.Same other) : value.asText = other.asText := by cases same <;> rfl

theorem asList (same : value.Same other) :
    Alike (List.Forall₂ Value.Same) value.asList other.asList := by
  cases same with
  | refl value => exact .refl (fun items => List.forall₂_same.mpr fun item _ => .refl item) _
  | list length each => exact .ok (List.forall₂_iff_zip.mpr ⟨length, fun mem => each _ _ mem⟩)
  | record keys values => exact .error _
  | filter name same => exact .error _

theorem asRecord (same : value.Same other) :
    Alike (Related Value.Same) value.asRecord other.asRecord := by
  cases same with
  | refl value => exact .refl (Related.refl .refl) _
  | list length each => exact .error _
  | record keys values => exact .ok ⟨keys, values⟩
  | filter name same => exact .error _

theorem asFilter (same : value.Same other) :
    Alike (fun filter filter' => filter.action.Same filter'.action) value.asFilter other.asFilter := by
  cases same with
  | refl value => exact .refl (fun filter => .refl filter.action) _
  | list length each => exact .error _
  | record keys values => exact .error _
  | filter name same => exact .ok same

end Value.Same

namespace Variables

variable {vars others : Variables}

theorem value_alike (related : Related Value.Same vars others) (key : String) :
    Alike Value.Same (Variables.value vars key) (Variables.value others key) := by
  unfold Variables.value
  rcases related.get?_cases key with ⟨here, there⟩ | ⟨value, other, here, there, same⟩
  · rw [here, there]
    exact .error _
  · rw [here, there]
    exact .ok same

theorem filter_alike (related : Related Value.Same vars others) (name : String) :
    Alike (fun filter filter' => filter.action.Same filter'.action) (Variables.filter vars name)
      (Variables.filter others name) := by
  unfold Variables.filter
  rcases related.get?_cases name with ⟨here, there⟩ | ⟨value, other, here, there, same⟩
  · rw [here, there]
    exact .error _
  · rw [here, there]
    exact same.asFilter

end Variables

/-- The same filters are the same variables. -/
theorem filterVariables_related {filters others : List (String × Action)}
    (related : Related Action.Same (SortedMap.ofList filters) (SortedMap.ofList others)) :
    Related Value.Same (filterVariables filters) (filterVariables others) := by
  have asValues : ∀ filters,
      filterVariables filters = (SortedMap.ofList filters).mapValues Value.filter :=
    SortedMap.ofList_map Value.filter
  rw [asValues, asValues]
  exact related.mapValues fun name _ _ same => .filter name same

/-! ## 3. Single actions -/

/-- **An action that renders nothing makes the same of the same values.** -/
theorem Action.perform_same {action : Action}
    (single : ∀ template filters, action ≠ .postifyEach template filters) (call : Call)
    {value other : Value} (same : value.Same other) :
    Alike Value.Same (action.perform call value) (action.perform call other) := by
  cases action with
  | joinLines =>
    refine same.asList.bind fun items items' _ each => ?_
    have lines : items.mapM Value.asText = items'.mapM Value.asText :=
      mapM_congr_forall₂ (each.imp fun _ _ same => same.asText)
    rw [lines]
    exact .refl Value.Same.refl _
  | friendlyDatetime =>
    simp only [perform, SinglePage.friendlyDatetime, same.asText]
    exact .refl Value.Same.refl _
  | postifyEach template filters => exact absurd rfl (single template filters)
  | identity => exact .ok same
  | append text =>
    simp only [perform, same.asText]
    exact .refl Value.Same.refl _
  | wrap =>
    refine .ok (.list rfl fun item item' mem => ?_)
    obtain ⟨rfl, rfl⟩ : item = value ∧ item' = other := by simpa using mem
    exact same
  | kind =>
    simp only [perform, same.kind]
    exact .ok (.refl _)
  | display =>
    simp only [perform, same.display]
    exact .ok (.refl _)
  | constant fixed => exact .ok (.refl fixed)
  | field key =>
    exact same.asRecord.bind fun record record' _ related => Variables.value_alike related key
  | fail reason => exact .error _

/-! ## 4. Calls of low ranks -/

/-- Calls of ranks below a bound make the same of the same values. -/
def CallsAlikeBelow (bound : Nat) : Prop :=
  ∀ (action other : Action) (value argument : Value), action.Same other → value.Same argument →
    action.rank < bound → value.rank < bound →
      Alike Value.Same (action.call value) (other.call argument)

section Below

variable {bound : Nat} {vars others : Variables}

/-- **The same variables of low ranks are related scopes.**  The ranks are kept beside the values,
because filters are called on what other filters return. -/
theorem Variables.scope_related (calls : CallsAlikeBelow bound) (below : vars.Below bound)
    (related : Related Value.Same vars others) :
    Scope.Related (fun value other => value.Same other ∧ value.rank < bound)
      (Variables.scope Filter.call vars) (Variables.scope Filter.call others) where
  value key := (value_alike related key).mono fun _ _ found same => ⟨same, below.value found⟩
  send value other both name := by
    have sent : Alike Value.Same (Variables.send Filter.call vars value name)
        (Variables.send Filter.call others other name) :=
      (filter_alike related name).bind fun _ _ found same =>
        calls _ _ _ _ same both.1 (below.filter found) both.2
    exact sent.mono fun _ _ found same => ⟨same, rank_of_send below both.2 found⟩
  display _ _ both := both.1.display

variable {filters filters' : List (String × Action)}

/-- **The same records are rendered alike** by filters that see the same filters. -/
theorem renderRecord_same (calls : CallsAlikeBelow bound) (template : Template)
    (related : Related Action.Same (SortedMap.ofList filters) (SortedMap.ofList filters'))
    (low : filtersRank filters < bound) {item other : Value} (same : item.Same other)
    (small : item.rank ≤ bound) :
    renderRecord Filter.call template (filterVariables filters) item =
      renderRecord Filter.call template (filterVariables filters') other := by
  refine same.asRecord.bind_eq fun record record' isRecord records => ?_
  have below : Variables.Below bound (record.extend (filterVariables filters)) :=
    (below_of_record isRecord).mono (Nat.max_le.mpr ⟨low, small⟩)
  have seen := records.extend (filterVariables_related related)
  exact template.applyIn_related (Variables.scope_related calls below seen)

/-- **The same lists are rendered alike**, item by item. -/
theorem Action.postifyEach_same (calls : CallsAlikeBelow bound) (template : Template)
    (related : Related Action.Same (SortedMap.ofList filters) (SortedMap.ofList filters'))
    (low : (Action.postifyEach template filters).rank ≤ bound) {value other : Value}
    (same : value.Same other) (small : value.rank ≤ bound) :
    Alike Value.Same ((Action.postifyEach template filters).call value)
      ((Action.postifyEach template filters').call other) := by
  rw [Action.rank] at low
  rw [Action.call_eq, Action.call_eq]
  refine same.asList.bind fun items items' isList each => ?_
  obtain rfl := Value.asList_eq_ok_iff.mp isList
  obtain ⟨length, each⟩ := List.forall₂_iff_zip.mp each
  have rendered : items.mapM (renderRecord Filter.call template (filterVariables filters)) =
      items'.mapM (renderRecord Filter.call template (filterVariables filters')) := by
    refine mapM_congr_forall₂ (List.forall₂_iff_zip.mpr ⟨length, fun mem => ?_⟩)
    have smaller := rank_le_itemsRank (List.of_mem_zip mem).1
    exact renderRecord_same calls template related low (each mem) (smaller.trans small)
  rw [rendered]
  exact .refl Value.Same.refl _

end Below

/-- **Calls make the same of the same values.**  By induction on a bound for the ranks: a call makes calls
of lower ranks only. -/
theorem callsAlikeBelow (bound : Nat) : CallsAlikeBelow bound := by
  induction bound with
  | zero =>
    intro action other value argument same same' small
    exact absurd small (Nat.not_lt_zero _)
  | succ bound ih =>
    intro action other value argument same same' small small'
    have low := Nat.le_of_lt_succ small
    have low' := Nat.le_of_lt_succ small'
    cases same with
    | postifyEach template names actions =>
      exact Action.postifyEach_same ih template ⟨names, actions⟩ low same' low'
    | constant same =>
      rw [Action.call_eq, Action.call_eq]
      exact .ok same
    | refl =>
      cases action with
      | postifyEach template filters =>
        exact Action.postifyEach_same ih template (.refl .refl _) low same' low'
      | _ =>
        rw [Action.call_eq, Action.call_eq]
        exact Action.perform_same (by simp) Filter.call same'

/-! ## 5. The same variables -/

/-- **A template is filled in alike from the same variables.** -/
theorem Template.apply_related {vars others : Variables} (related : Related Value.Same vars others)
    (template : Template) : template.apply vars = template.apply others := by
  obtain ⟨bound, below⟩ := vars.exists_below
  exact template.applyIn_related (Variables.scope_related (callsAlikeBelow bound) below related)

/-- The same variables are the same record. -/
theorem Value.Same.ofVariables {vars others : Variables} (related : Related Value.Same vars others) :
    (Value.ofVariables vars).Same (Value.ofVariables others) := by
  refine .record ?_ ?_
  · rw [SortedMap.ofList_entries, SortedMap.ofList_entries]
    exact related.keys
  · rw [SortedMap.ofList_entries, SortedMap.ofList_entries]
    exact related.values

end SinglePage
