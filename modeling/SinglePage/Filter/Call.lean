/-
# Calling filters

Only one action calls other filters: rendering the records of a list through a template.  What
such a rendering calls, and what it calls it on, has a lower rank than the action or the list,
so calls within calls come to an end.  While a template is filled in, its values are therefore
kept together with the proof that their rank is low (`LowValue`); the ranks themselves are never
computed.

* `Action.call`, `Filter.call`: calling an action or a filter;
* `Action.call_eq`: calling an action is performing it, with calls inside;
* `Template.apply`: filling a template in, with such calls.
-/
import SinglePage.Filter.Rank

namespace SinglePage

/-! ## 1. Scopes of low ranks -/

/-- A value whose rank is below a bound. -/
abbrev LowValue (bound : Nat) := { value : Value // value.rank < bound }

/-- A way of calling filters whose ranks are below a bound. -/
abbrev LowCall (bound : Nat) :=
  (filter : Filter) → filter.action.rank < bound → LowValue bound →
    Except SiteError (LowValue bound)

/-- The scope of variables of low ranks, given a way to call filters of such ranks. -/
def Variables.lowScope {bound : Nat} (vars : Variables) (below : vars.Below bound)
    (call : LowCall bound) : Scope (LowValue bound) where
  value key :=
    match found : Variables.value vars key with
    | .ok value => .ok ⟨value, below.value found⟩
    | .error e => .error e
  send value name :=
    match found : Variables.filter vars name with
    | .ok filter => call filter (below.filter found) value
    | .error e => .error e
  display value := value.1.display

/-- Knowing the ranks to be low changes nothing. -/
theorem Variables.lowScope_image {bound : Nat} {vars : Variables} {below : vars.Below bound}
    {low : LowCall bound} {call : Call}
    (agree : ∀ filter small value, Subtype.val <$> low filter small value = call filter value.1) :
    Scope.Image Subtype.val (vars.lowScope below low) (Variables.scope call vars) where
  value key := by
    simp only [lowScope, scope]
    split <;> (rename_i found; exact found.symm)
  send value name := by
    simp only [lowScope, scope, Variables.send]
    split
    · rename_i filter found
      conv => rhs; rw [found]
      exact agree _ _ _
    · rename_i found
      conv => rhs; rw [found]
      rfl
  display _ := rfl

/-! ## 2. Calls -/

/-- What an action can return: its rank is not greater than those of the action and its
argument. -/
abbrev Returned (action : Action) (value : Value) :=
  { result : Value // result.rank ≤ max action.rank value.rank }

/-- What an action returns that calls no filters, with its rank. -/
def Action.performAlone (action : Action) (value : Value) :
    Except SiteError (Returned action value) :=
  match done : action.perform (fun _ x => .ok x) value with
  | .ok result => .ok ⟨result, rank_of_perform done⟩
  | .error e => .error e

/-- Calls an action, and keeps the rank of what it returns. -/
def Action.callRanked (action : Action) (value : Value) :
    Except SiteError (Returned action value) :=
  match action, value with
  | .postifyEach template filters, .list items => do
    let seen := filterVariables filters
    let texts ← items.attach.mapM fun ⟨item, inside⟩ =>
      match isRecord : item.asRecord with
      | .ok record =>
        template.applyIn <|
          Variables.lowScope (record.extend seen) (below_of_record isRecord)
            fun filter small value => do
              let result ← filter.action.callRanked value.1
              return ⟨result.1, Nat.lt_of_le_of_lt result.2 (Nat.max_lt.mpr ⟨small, value.2⟩)⟩
      | .error e => .error e
    return ⟨.list (texts.map .text), by rw [Value.rank, itemsRank_texts]; exact Nat.zero_le _⟩
  | action, value => action.performAlone value
termination_by max action.rank value.rank
decreasing_by
  have := value.2
  have := rank_le_itemsRank inside
  simp only [Action.rank, Value.rank]
  omega

/-- **Calls an action.** -/
def Action.call (action : Action) (value : Value) : Except SiteError Value :=
  Subtype.val <$> action.callRanked value

/-- **Calls a filter.** -/
def Filter.call (filter : Filter) (value : Value) : Except SiteError Value :=
  filter.action.call value

/-- **Fills a template in.** -/
def Template.apply (template : Template) (vars : Variables) : Except SiteError String :=
  template.applyWith Filter.call vars

/-! ## 3. Calling is performing -/

theorem mapM_attach {ε α β : Type} (f : α → Except ε β) (items : List α) :
    (items.attach.mapM fun item => f item.1) = items.mapM f := by
  have erased := List.mapM_map (l := items.attach) (f := Subtype.val) (g := f)
  rw [List.attach_map_subtype_val] at erased
  exact erased.symm

theorem Action.performAlone_val (action : Action) (value : Value) :
    Subtype.val <$> action.performAlone value = action.perform (fun _ x => .ok x) value := by
  unfold performAlone
  split <;> (rename_i done; exact done.symm)

/-- Rendering the items of a list, each in a way that agrees with `renderRecord`. -/
theorem rendering_val {template : Template} {filters : List (String × Action)}
    {items : List Value} {bound : Nat} {each : { item // item ∈ items } → Except SiteError String}
    (low : ∀ texts : List String, (Value.list (texts.map .text)).rank ≤ bound)
    (same : ∀ item,
      each item = renderRecord Filter.call template (filterVariables filters) item.1) :
    Subtype.val <$> (do
      let texts ← items.attach.mapM each
      return (⟨.list (texts.map .text), low texts⟩ : { result : Value // result.rank ≤ bound })) =
      (Action.postifyEach template filters).perform Filter.call (.list items) := by
  simp only [Action.perform, Value.asList, bind, Except.bind]
  rw [funext same, mapM_attach]
  cases items.mapM (renderRecord Filter.call template (filterVariables filters)) <;> rfl

/-- **Calling an action is performing it, with calls inside.** -/
theorem Action.call_eq (action : Action) (value : Value) :
    action.call value = action.perform Filter.call value := by
  unfold call callRanked
  split
  · rename_i template filters items
    refine rendering_val _ fun ⟨item, inside⟩ => ?_
    simp only [renderRecord]
    split
    · rename_i record isRecord
      conv => rhs; rw [isRecord]
      refine Template.applyIn_image (Variables.lowScope_image ?_) template
      intro filter small value
      unfold Filter.call Action.call
      cases filter.action.callRanked value.1 <;> rfl
    · rename_i isRecord
      rw [isRecord]
      rfl
  · rename_i noRendering
    rw [performAlone_val]
    cases action with
    | postifyEach template filters =>
      cases value with
      | list items => exact absurd rfl (noRendering template filters items rfl)
      | _ => simp only [perform, Value.asList, bind, Except.bind]
    | _ => simp only [perform]

end SinglePage
