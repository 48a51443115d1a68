/-
# Rendering comes to an end

Filters are values, so a template can call filters that it finds in a record which it is filled in
from, and such a filter can fill in templates in turn.  Neither the filter nor its argument gets
smaller on the way: a filter can wrap its argument in lists, and can return another filter.  What
gets smaller is the greater one of their ranks.

Here the steps of a rendering are written down as they are taken, without ranks: `CallEnds` and its
companions relate a call to its result only if finitely many steps lead to it.

* `CallEnds.eq` and its companions: what a rendering ends with is what the functions return;
* `StagesEnd.of_below`, `SegmentsEnd.of_below`, `RecordsEnd.of_below`: a rendering ends if the calls
  of lower ranks that it makes do;
* `Invokes.rank_lt`: a call that is made inside of another one has a lower rank;
* `rendering_ends`: so every call and every rendering ends, and calls are not nested forever.
-/
import Mathlib.Order.WellFounded
import SinglePage.Proofs.Filter.Stages

namespace SinglePage

/-! ## 1. Renderings that end -/

mutual

/-- **Calling an action on a value ends** with this result. -/
inductive CallEnds : Action → Value → Except SiteError Value → Prop
  /-- The actions that render nothing call no filters. -/
  | alone {action : Action} {value : Value} (call : Call)
    (single : ∀ template filters, action ≠ .postifyEach template filters) :
    CallEnds action value (action.perform call value)
  | refused {template : Template} {filters : List (String × Action)} {value : Value} {e : SiteError}
    (noList : value.asList = .error e) : CallEnds (.postifyEach template filters) value (.error e)
  | rendered {template : Template} {filters : List (String × Action)} {items : List Value}
    {result : Except SiteError (List String)}
    (records : RecordsEnd template (filterVariables filters) items result) :
    CallEnds (.postifyEach template filters) (.list items)
      ((fun texts => .list (texts.map .text)) <$> result)

/-- Rendering the records of a list through a template that sees these filters ends. -/
inductive RecordsEnd : Template → Variables → List Value → Except SiteError (List String) → Prop
  | nil {template : Template} {seen : Variables} : RecordsEnd template seen [] (.ok [])
  | refused {template : Template} {seen : Variables} {item : Value} {items : List Value}
    {e : SiteError} (noRecord : item.asRecord = .error e) :
    RecordsEnd template seen (item :: items) (.error e)
  | failed {template : Template} {seen record : Variables} {item : Value} {items : List Value}
    {e : SiteError} (isRecord : item.asRecord = .ok record)
    (segments : SegmentsEnd (record.extend seen) template.segments (.error e)) :
    RecordsEnd template seen (item :: items) (.error e)
  | next {template : Template} {seen record : Variables} {item : Value} {items : List Value}
    {texts : List String} {result : Except SiteError (List String)}
    (isRecord : item.asRecord = .ok record)
    (segments : SegmentsEnd (record.extend seen) template.segments (.ok texts))
    (rest : RecordsEnd template seen items result) :
    RecordsEnd template seen (item :: items) ((String.join texts :: ·) <$> result)

/-- Replacing the segments of a template ends. -/
inductive SegmentsEnd : Variables → List Segment → Except SiteError (List String) → Prop
  | nil {vars : Variables} : SegmentsEnd vars [] (.ok [])
  | literal {vars : Variables} {text : String} {segments : List Segment}
    {result : Except SiteError (List String)} (rest : SegmentsEnd vars segments result) :
    SegmentsEnd vars (.literal text :: segments) ((text :: ·) <$> result)
  | missing {vars : Variables} {ref : Reference} {segments : List Segment} {e : SiteError}
    (noValue : vars.value ref.key = .error e) :
    SegmentsEnd vars (.reference ref :: segments) (.error e)
  | failed {vars : Variables} {ref : Reference} {segments : List Segment} {value : Value}
    {e : SiteError} (found : vars.value ref.key = .ok value)
    (stages : StagesEnd vars value ref.filters (.error e)) :
    SegmentsEnd vars (.reference ref :: segments) (.error e)
  | next {vars : Variables} {ref : Reference} {segments : List Segment} {value last : Value}
    {result : Except SiteError (List String)} (found : vars.value ref.key = .ok value)
    (stages : StagesEnd vars value ref.filters (.ok last))
    (rest : SegmentsEnd vars segments result) :
    SegmentsEnd vars (.reference ref :: segments) ((last.display :: ·) <$> result)

/-- Sending a value through filters ends. -/
inductive StagesEnd : Variables → Value → List String → Except SiteError Value → Prop
  | nil {vars : Variables} {value : Value} : StagesEnd vars value [] (.ok value)
  | missing {vars : Variables} {value : Value} {name : String} {names : List String}
    {e : SiteError} (noFilter : vars.filter name = .error e) :
    StagesEnd vars value (name :: names) (.error e)
  | failed {vars : Variables} {value : Value} {name : String} {names : List String}
    {filter : Filter} {e : SiteError} (stands : vars.filter name = .ok filter)
    (call : CallEnds filter.action value (.error e)) :
    StagesEnd vars value (name :: names) (.error e)
  | next {vars : Variables} {value following : Value} {name : String} {names : List String}
    {filter : Filter} {result : Except SiteError Value} (stands : vars.filter name = .ok filter)
    (call : CallEnds filter.action value (.ok following))
    (rest : StagesEnd vars following names result) : StagesEnd vars value (name :: names) result

end

/-- **Filling a template in ends** with this result. -/
def TemplateEnds (template : Template) (vars : Variables) (result : Except SiteError String) :
    Prop :=
  ∃ texts, SegmentsEnd vars template.segments texts ∧ result = String.join <$> texts

/-! ## 2. What they end with -/

section Steps

variable {ε α β : Type} {f : α → Except ε β} {a : α} {l : List α}

theorem mapM_cons_ok {b : β} (first : f a = .ok b) : (a :: l).mapM f = (b :: ·) <$> l.mapM f := by
  rw [List.mapM_cons, first]
  cases l.mapM f <;> rfl

theorem mapM_cons_error {e : ε} (first : f a = .error e) : (a :: l).mapM f = .error e := by
  rw [List.mapM_cons, first]
  rfl

end Steps

/-- What an action does that renders nothing does not depend on how filters are called. -/
theorem Action.perform_alone {action : Action}
    (single : ∀ template filters, action ≠ .postifyEach template filters) (call other : Call)
    (value : Value) : action.perform call value = action.perform other value := by
  cases action with
  | postifyEach template filters => exact absurd rfl (single template filters)
  | _ => rfl

theorem renderRecord_of_record {template : Template} {seen record : Variables} {item : Value}
    (isRecord : item.asRecord = .ok record) :
    renderRecord Filter.call template seen item =
      String.join <$> template.segments.mapM
        (Segment.renderIn (Variables.scope Filter.call (record.extend seen))) := by
  rw [renderRecord, isRecord]
  rfl

mutual

theorem CallEnds.eq : ∀ {action : Action} {value : Value} {result : Except SiteError Value},
    CallEnds action value result → action.call value = result
  | action, value, _, .alone call single => by
    rw [Action.call_eq, Action.perform_alone single _ call]
  | _, _, _, .refused noList => by
    rw [Action.call_eq, Action.perform, noList]
    rfl
  | .postifyEach template filters, .list items, _, .rendered records => by
    rw [Action.call_eq, perform_postifyEach_list, records.eq]

theorem RecordsEnd.eq : ∀ {template : Template} {seen : Variables} {items : List Value}
    {result : Except SiteError (List String)}, RecordsEnd template seen items result →
      items.mapM (renderRecord Filter.call template seen) = result
  | _, _, _, _, .nil => rfl
  | _, _, _, _, .refused noRecord => by
    refine mapM_cons_error ?_
    rw [renderRecord, noRecord]
    rfl
  | _, _, _, _, .failed isRecord segments => by
    refine mapM_cons_error ?_
    rw [renderRecord_of_record isRecord, segments.eq]
    rfl
  | _, _, _, _, .next isRecord segments rest => by
    rw [← rest.eq]
    refine mapM_cons_ok ?_
    rw [renderRecord_of_record isRecord, segments.eq]
    rfl

theorem SegmentsEnd.eq : ∀ {vars : Variables} {segments : List Segment}
    {result : Except SiteError (List String)}, SegmentsEnd vars segments result →
      segments.mapM (Segment.renderIn (Variables.scope Filter.call vars)) = result
  | _, _, _, .nil => rfl
  | _, _, _, .literal rest => by
    rw [← rest.eq]
    exact mapM_cons_ok rfl
  | _, _, _, .missing noValue => by
    refine mapM_cons_error ?_
    simp only [Segment.renderIn, Reference.evaluateIn, Variables.scope, noValue]
    rfl
  | _, _, _, .failed found stages => by
    refine mapM_cons_error ?_
    simp only [Segment.renderIn, Reference.evaluateIn, Variables.scope, found]
    exact congrArg (Value.display <$> ·) stages.eq
  | _, _, _, .next found stages rest => by
    rw [← rest.eq]
    refine mapM_cons_ok ?_
    simp only [Segment.renderIn, Reference.evaluateIn, Variables.scope, found]
    exact congrArg (Value.display <$> ·) stages.eq

theorem StagesEnd.eq : ∀ {vars : Variables} {value : Value} {names : List String}
    {result : Except SiteError Value}, StagesEnd vars value names result →
      names.foldlM (Variables.send Filter.call vars) value = result
  | _, _, _, _, .nil => rfl
  | _, _, _, _, .missing noFilter => by
    rw [List.foldlM_cons, Variables.send, noFilter]
    rfl
  | _, _, _, _, .failed stands call => by
    rw [List.foldlM_cons, Variables.send, stands]
    exact congrArg (· >>= _) call.eq
  | _, _, _, _, .next stands call rest => by
    rw [List.foldlM_cons, Variables.send, stands, ← rest.eq]
    exact congrArg (· >>= _) call.eq

end

/-! ## 3. Calls of low ranks -/

theorem Variables.Below.mono {bound larger : Nat} {vars : Variables} (below : vars.Below bound)
    (le : bound ≤ larger) : vars.Below larger :=
  fun key value found => Nat.lt_of_lt_of_le (below key value found) le

/-- There is a bound for the ranks of all variables. -/
theorem Variables.exists_below (vars : Variables) : ∃ bound, vars.Below bound := by
  refine ⟨entriesRank vars.entries + 1, fun key value found => ?_⟩
  exact Nat.lt_succ_of_le (rank_le_entriesRank (SortedMap.mem_of_lookup found))

/-- Calls of ranks below a bound end. -/
def CallsEndBelow (bound : Nat) : Prop :=
  ∀ (action : Action) (value : Value), action.rank < bound → value.rank < bound →
    CallEnds action value (action.call value)

section Below

variable {bound : Nat} {vars : Variables}

/-- **A filter does not raise the rank of a value** above those that it could see. -/
theorem rank_of_send (below : vars.Below bound) {value next : Value} {name : String}
    (small : value.rank < bound) (sent : Variables.send Filter.call vars value name = .ok next) :
    next.rank < bound := by
  obtain ⟨own, action, found, called⟩ := Variables.send_eq_ok_iff.mp sent
  have low := below name _ found
  rw [Value.rank] at low
  exact Nat.lt_of_le_of_lt (rank_of_perform called) (Nat.max_lt.mpr ⟨low, small⟩)

/-- Neither do filters one behind the other. -/
theorem rank_of_stages (below : vars.Below bound) {names : List String} {value last : Value}
    (small : value.rank < bound)
    (sent : names.foldlM (Variables.send Filter.call vars) value = .ok last) :
    last.rank < bound := by
  induction names generalizing value with
  | nil =>
    obtain rfl : value = last := Except.ok.inj sent
    exact small
  | cons name names ih =>
    obtain ⟨next, first, rest⟩ := bind_eq_ok_iff.mp (List.foldlM_cons.symm.trans sent)
    exact ih (rank_of_send below small first) rest

theorem StagesEnd.of_below (ends : CallsEndBelow bound) (below : vars.Below bound) {value : Value}
    (small : value.rank < bound) (names : List String) :
    StagesEnd vars value names (names.foldlM (Variables.send Filter.call vars) value) := by
  induction names generalizing value with
  | nil => exact .nil
  | cons name names ih =>
    cases stands : Variables.filter vars name with
    | error e =>
      have missing : StagesEnd vars value (name :: names) (.error e) := .missing stands
      rwa [missing.eq]
    | ok filter =>
      have call := ends filter.action value (below.filter stands) small
      cases called : filter.action.call value with
      | error e =>
        rw [called] at call
        have failed : StagesEnd vars value (name :: names) (.error e) := .failed stands call
        rwa [failed.eq]
      | ok following =>
        rw [called] at call
        have sent : Variables.send Filter.call vars value name = .ok following := by
          rw [Variables.send, stands]
          exact called
        have whole := StagesEnd.next stands call (ih (rank_of_send below small sent))
        rwa [whole.eq]

theorem SegmentsEnd.of_below (ends : CallsEndBelow bound) (below : vars.Below bound)
    (segments : List Segment) : SegmentsEnd vars segments
      (segments.mapM (Segment.renderIn (Variables.scope Filter.call vars))) := by
  induction segments with
  | nil => exact .nil
  | cons segment segments ih =>
    cases segment with
    | literal text =>
      have whole : SegmentsEnd vars (.literal text :: segments) _ := .literal ih
      rwa [whole.eq]
    | reference ref =>
      cases found : Variables.value vars ref.key with
      | error e =>
        have missing : SegmentsEnd vars (.reference ref :: segments) (.error e) := .missing found
        rwa [missing.eq]
      | ok value =>
        have stages := StagesEnd.of_below ends below (below.value found) ref.filters
        cases sent : ref.filters.foldlM (Variables.send Filter.call vars) value with
        | error e =>
          rw [sent] at stages
          have failed : SegmentsEnd vars (.reference ref :: segments) (.error e) :=
            .failed found stages
          rwa [failed.eq]
        | ok last =>
          rw [sent] at stages
          have whole := SegmentsEnd.next found stages ih
          rwa [whole.eq]

theorem RecordsEnd.of_below (ends : CallsEndBelow bound) (template : Template)
    {filters : List (String × Action)} (low : filtersRank filters < bound) {items : List Value}
    (lows : ∀ item ∈ items, item.rank ≤ bound) :
    RecordsEnd template (filterVariables filters) items
      (items.mapM (renderRecord Filter.call template (filterVariables filters))) := by
  induction items with
  | nil => exact .nil
  | cons item items ih =>
    obtain ⟨lowItem, lows⟩ := List.forall_mem_cons.mp lows
    cases isRecord : item.asRecord with
    | error e =>
      have refused : RecordsEnd template (filterVariables filters) (item :: items) (.error e) :=
        .refused isRecord
      rwa [refused.eq]
    | ok record =>
      have below : Variables.Below bound (record.extend (filterVariables filters)) :=
        (below_of_record isRecord).mono (Nat.max_le.mpr ⟨low, lowItem⟩)
      have segments := SegmentsEnd.of_below ends below template.segments
      cases filled : template.segments.mapM (Segment.renderIn
          (Variables.scope Filter.call (record.extend (filterVariables filters)))) with
      | error e =>
        rw [filled] at segments
        have failed : RecordsEnd template (filterVariables filters) (item :: items) (.error e) :=
          .failed isRecord segments
        rwa [failed.eq]
      | ok texts =>
        rw [filled] at segments
        have whole := RecordsEnd.next isRecord segments (ih lows)
        rwa [whole.eq]

end Below

theorem CallEnds.of_single {action : Action}
    (single : ∀ template filters, action ≠ .postifyEach template filters) (value : Value) :
    CallEnds action value (action.call value) := by
  rw [Action.call_eq]
  exact .alone Filter.call single

theorem CallEnds.of_refused (template : Template) (filters : List (String × Action))
    {value : Value} {e : SiteError} (noList : value.asList = .error e) :
    CallEnds (.postifyEach template filters) value
      ((Action.postifyEach template filters).call value) := by
  have refused : CallEnds (.postifyEach template filters) value (.error e) := .refused noList
  rwa [refused.eq]

/-- **All calls end.**  By induction on a bound for the ranks: a call makes calls of lower ranks
only. -/
theorem callsEndBelow (bound : Nat) : CallsEndBelow bound := by
  induction bound with
  | zero =>
    intro action value small
    exact absurd small (Nat.not_lt_zero _)
  | succ bound ih =>
    intro action value small small'
    cases action with
    | postifyEach template filters =>
      cases value with
      | list items =>
        rw [Action.rank] at small
        rw [Value.rank] at small'
        have lows : ∀ item ∈ items, item.rank ≤ bound := fun item mem =>
          (rank_le_itemsRank mem).trans (Nat.le_of_lt_succ small')
        have records := RecordsEnd.of_below ih template (Nat.lt_of_succ_lt_succ small) lows
        have whole := CallEnds.rendered records
        rwa [whole.eq]
      | _ => exact .of_refused template filters rfl
    | _ => exact .of_single (by simp) value

/-! ## 4. Calls inside of calls -/

/-- **A call that is made inside of another one**: a record of the list is rendered, and the value
of a reference has come to one of its filters. -/
inductive Invokes : Filter × Value → Filter × Value → Prop
  | stage {own : String} {template : Template} {filters : List (String × Action)}
    {items : List Value} {item start value : Value} {record : Variables} {ref : Reference}
    {before after : List String} {name : String} {filter : Filter} (inside : item ∈ items)
    (isRecord : item.asRecord = .ok record) (mem : .reference ref ∈ template.segments)
    (split : ref.filters = before ++ name :: after)
    (found : Variables.value (record.extend (filterVariables filters)) ref.key = .ok start)
    (sent : before.foldlM (Variables.send Filter.call
      (record.extend (filterVariables filters))) start = .ok value)
    (stands : Variables.filter (record.extend (filterVariables filters)) name = .ok filter) :
    Invokes (⟨own, .postifyEach template filters⟩, .list items) (filter, value)

/-- The rank of a call: the greater one of those of the filter and its argument. -/
def callRank (call : Filter × Value) : Nat := max call.1.action.rank call.2.rank

/-- **A call that is made inside of another one has a lower rank.** -/
theorem Invokes.rank_lt {outer inner : Filter × Value} (invokes : Invokes outer inner) :
    callRank inner < callRank outer := by
  cases invokes with
  | @stage own template filters items item _ _ record _ _ _ _ _ inside isRecord _ _ found sent
      stands =>
    have whole : callRank (⟨own, .postifyEach template filters⟩, .list items) =
        max (filtersRank filters + 1) (itemsRank items) := by
      rw [callRank, Action.rank, Value.rank]
    have low := rank_le_itemsRank inside
    have below : Variables.Below (max (filtersRank filters + 1) (itemsRank items))
        (record.extend (filterVariables filters)) := (below_of_record isRecord).mono (by omega)
    rw [whole]
    exact Nat.max_lt.mpr
      ⟨below.filter stands, rank_of_stages below (below.value found) sent⟩

/-- **Rendering always ends.**  Every call of a filter ends, and so does filling in a template from
any variables; what they end with is what the functions return.  And calls inside of calls are not
nested forever. -/
theorem rendering_ends :
    (∀ (filter : Filter) (value : Value) (result : Except SiteError Value),
        CallEnds filter.action value result ↔ filter.call value = result) ∧
      (∀ (template : Template) (vars : Variables) (result : Except SiteError String),
        TemplateEnds template vars result ↔ template.apply vars = result) ∧
      ∀ calls : Nat → Filter × Value, ∃ n, ¬ Invokes (calls n) (calls (n + 1)) := by
  refine ⟨?_, ?_, ?_⟩
  · intro filter value result
    constructor
    · exact fun ends => ends.eq
    · rintro rfl
      exact callsEndBelow (callRank (filter, value) + 1) filter.action value
        (Nat.lt_succ_of_le (Nat.le_max_left _ _)) (Nat.lt_succ_of_le (Nat.le_max_right _ _))
  · intro template vars result
    constructor
    · rintro ⟨texts, segments, rfl⟩
      exact congrArg (String.join <$> ·) segments.eq
    · rintro rfl
      obtain ⟨bound, below⟩ := vars.exists_below
      exact ⟨_, SegmentsEnd.of_below (callsEndBelow bound) below template.segments, rfl⟩
  · intro calls
    obtain ⟨n, noLower⟩ := WellFounded.not_rel_apply_succ (r := (· < ·)) (callRank ∘ calls)
    exact ⟨n, fun invokes => noLower invokes.rank_lt⟩

end SinglePage
