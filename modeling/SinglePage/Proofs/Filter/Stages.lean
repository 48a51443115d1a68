/-
# When references have values

A template can be filled in when each of its references has a value, and a reference has one when
its key stands for a value and each of its filters accepts what the one before it returned.  These
are the lemmas that say what a step which succeeded has done, one for each kind of step.

* `Template.applyIn_succeeds_iff`: a template can be filled in when its references have values;
* `Variables.value_eq_ok_iff`, `Variables.send_eq_ok_iff`: keys and filters are what stands under
  their names;
* `joinLines_eq_ok_iff` and its two companions: which values a filter accepts;
* `Timestamp.spoken_ne_text`: no timestamp is written as it is spoken.
-/
import Mathlib.Data.List.Forall2
import SinglePage.Filter.Call

namespace SinglePage

/-- Two steps succeed when the second one accepts what the first one gives. -/
theorem bind_eq_ok_iff {ε α β : Type} {step : Except ε α} {next : α → Except ε β} {b : β} :
    step >>= next = .ok b ↔ ∃ a, step = .ok a ∧ next a = .ok b := by
  cases step with
  | error e => simp [bind, Except.bind]
  | ok a => simp [bind, Except.bind]

theorem map_eq_ok_iff {ε α β : Type} {step : Except ε α} {f : α → β} {b : β} :
    f <$> step = .ok b ↔ ∃ a, step = .ok a ∧ f a = b := by
  cases step with
  | error e => simp [Functor.map, Except.map]
  | ok a => simp [Functor.map, Except.map]

theorem map_eq_error_iff {ε α β : Type} {step : Except ε α} {f : α → β} {e : ε} :
    f <$> step = .error e ↔ step = .error e := by
  cases step with
  | error other => simp [Functor.map, Except.map]
  | ok a => simp [Functor.map, Except.map]

theorem mapM_eq_ok_map {ε α β : Type} {f : α → Except ε β} {g : α → β} {l : List α}
    (each : ∀ a ∈ l, f a = .ok (g a)) : l.mapM f = .ok (l.map g) := by
  rw [mapM_eq_ok_iff, List.map_map]
  exact List.map_congr_left each

/-- **Steps succeed one by one**, each with what stands in its place in the list of results. -/
theorem mapM_eq_ok_iff_forall₂ {ε α β : Type} {f : α → Except ε β} {l : List α} {r : List β} :
    l.mapM f = .ok r ↔ List.Forall₂ (fun a b => f a = .ok b) l r := by
  rw [mapM_eq_ok_iff, ← List.forall₂_eq_eq_eq, List.forall₂_map_left_iff,
    List.forall₂_map_right_iff]

/-- The first step that fails is the one whose error is returned. -/
theorem mapM_eq_error {ε α β : Type} {f : α → Except ε β} {e : ε} {a : α} {after : List α}
    (fails : f a = .error e) : ∀ {before : List α}, (∀ b ∈ before, ∃ c, f b = .ok c) →
      (before ++ a :: after).mapM f = .error e
  | [], _ => by
    rw [List.nil_append, List.mapM_cons, fails]
    rfl
  | b :: before, succeed => by
    obtain ⟨c, eq⟩ := succeed b (by simp)
    have rest : (before ++ a :: after).mapM f = .error e :=
      mapM_eq_error fails fun b mem => succeed b (List.mem_cons_of_mem _ mem)
    rw [List.cons_append, List.mapM_cons, eq, rest]
    rfl

/-- **Every step succeeds, or one is the first to fail.** -/
theorem map_outcomes {ε α β : Type} (f : α → Except ε β) : ∀ l : List α,
    (∃ r : List β, l.map f = r.map .ok) ∨
      ∃ before a after e, l = before ++ a :: after ∧ (∀ b ∈ before, ∃ c, f b = .ok c) ∧
        f a = .error e
  | [] => .inl ⟨[], rfl⟩
  | a :: l => by
    cases first : f a with
    | error e => exact .inr ⟨[], a, l, e, rfl, by simp, first⟩
    | ok b =>
      rcases map_outcomes f l with ⟨r, rest⟩ | ⟨before, fails, after, e, rfl, succeed, error⟩
      · exact .inl ⟨b :: r, by rw [List.map_cons, List.map_cons, first, rest]⟩
      · exact .inr ⟨a :: before, fails, after, e, rfl,
          List.forall_mem_cons.mpr ⟨⟨b, first⟩, succeed⟩, error⟩

/-! ## 1. Templates and references -/

section Scopes

variable {V : Type} {scope : Scope V}

/-- The value is accepted by the filters, one behind the other. -/
def Scope.Passes (scope : Scope V) (value : V) (filters : List String) : Prop :=
  ∃ result, filters.foldlM scope.send value = .ok result

theorem Scope.passes_nil (value : V) : scope.Passes value [] := ⟨value, rfl⟩

/-- **A value passes filters** when the first accepts it and what it returns passes the others. -/
theorem Scope.passes_cons {value : V} {name : String} {filters : List String} :
    scope.Passes value (name :: filters) ↔
      ∃ next, scope.send value name = .ok next ∧ scope.Passes next filters := by
  simp only [Passes, List.foldlM_cons, bind_eq_ok_iff]
  constructor
  · rintro ⟨result, next, sent, passed⟩
    exact ⟨next, sent, result, passed⟩
  · rintro ⟨next, sent, result, passed⟩
    exact ⟨result, next, sent, passed⟩

/-- What no filter accepts passes none. -/
theorem Scope.passes_iff_nil {value : V} (refused : ∀ name next, scope.send value name ≠ .ok next)
    {filters : List String} : scope.Passes value filters ↔ filters = [] := by
  constructor
  · intro passes
    cases filters with
    | nil => rfl
    | cons name filters =>
      obtain ⟨next, sent, -⟩ := passes_cons.mp passes
      exact absurd sent (refused name next)
  · rintro rfl
    exact passes_nil value

/-- The reference has a value. -/
def Scope.Values (scope : Scope V) (key : String) (filters : List String) : Prop :=
  ∃ value, scope.value key = .ok value ∧ scope.Passes value filters

/-- A reference has a value when its key has one that its filters accept. -/
theorem Reference.evaluates_iff {ref : Reference} :
    (∃ value, ref.evaluateIn scope = .ok value) ↔ scope.Values ref.key ref.filters := by
  simp only [evaluateIn, bind_eq_ok_iff]
  constructor
  · rintro ⟨result, value, found, passed⟩
    exact ⟨value, found, result, passed⟩
  · rintro ⟨value, found, result, passed⟩
    exact ⟨result, value, found, passed⟩

/-- A reference has a text exactly when it has a value. -/
theorem Segment.renderIn_reference_iff {ref : Reference} :
    (∃ text, Segment.renderIn scope (.reference ref) = .ok text) ↔
      ∃ value, ref.evaluateIn scope = .ok value := by
  simp only [renderIn, map_eq_ok_iff]
  constructor
  · rintro ⟨_, value, evaluated, rfl⟩
    exact ⟨value, evaluated⟩
  · rintro ⟨value, evaluated⟩
    exact ⟨_, value, evaluated, rfl⟩

theorem Segment.renderIn_succeeds_iff {ref : Reference} :
    (∃ text, Segment.renderIn scope (.reference ref) = .ok text) ↔
      scope.Values ref.key ref.filters :=
  renderIn_reference_iff.trans Reference.evaluates_iff

/-- Each step of a list succeeds when there is a list of what they give. -/
theorem exists_map_eq_ok_iff {ε α β : Type} {f : α → Except ε β} {l : List α} :
    (∃ r : List β, l.map f = r.map .ok) ↔ ∀ a ∈ l, ∃ b, f a = .ok b := by
  induction l with
  | nil => simp
  | cons a l ih =>
    rw [List.forall_mem_cons, ← ih]
    constructor
    · rintro ⟨_ | ⟨b, r⟩, same⟩
      · exact absurd same (by simp)
      · obtain ⟨first, rest⟩ := List.cons.inj same
        exact ⟨⟨b, first⟩, r, rest⟩
    · rintro ⟨⟨b, first⟩, r, rest⟩
      exact ⟨b :: r, by rw [List.map_cons, List.map_cons, first, rest]⟩

/-- The first segment without a text is the one whose error is returned. -/
theorem Template.applyIn_eq_error {template : Template} {before after : List Segment}
    {segment : Segment} {e : SiteError} (segments : template.segments = before ++ segment :: after)
    (rendered : ∀ other ∈ before, ∃ text, Segment.renderIn scope other = .ok text)
    (fails : Segment.renderIn scope segment = .error e) : template.applyIn scope = .error e := by
  rw [applyIn, segments, mapM_eq_error fails rendered]
  rfl

/-- **A template can be filled in when each of its references has a value.** -/
theorem Template.applyIn_succeeds_iff {template : Template} :
    (∃ output, template.applyIn scope = .ok output) ↔
      ∀ ref, .reference ref ∈ template.segments → scope.Values ref.key ref.filters := by
  have byTexts : (∃ output, template.applyIn scope = .ok output) ↔
      ∃ texts : List String, template.segments.map (Segment.renderIn scope) = texts.map .ok := by
    simp only [Template.applyIn_eq_ok_iff]
    exact ⟨fun ⟨_, texts, same, _⟩ => ⟨texts, same⟩, fun ⟨texts, same⟩ => ⟨_, texts, same, rfl⟩⟩
  rw [byTexts, exists_map_eq_ok_iff]
  constructor
  · exact fun each ref mem => Segment.renderIn_succeeds_iff.mp (each _ mem)
  · intro each segment mem
    cases segment with
    | literal text => exact ⟨text, rfl⟩
    | reference ref => exact Segment.renderIn_succeeds_iff.mpr (each ref mem)

end Scopes

/-! ## 2. Variables -/

namespace Variables

variable {vars : Variables}

theorem value_eq_ok_iff {key : String} {value : Value} :
    Variables.value vars key = .ok value ↔ vars.get? key = some value := by
  unfold Variables.value
  split
  · rename_i found
    rw [found]
    rw [Except.ok.injEq, Option.some.injEq]
  · rename_i none
    simp [none]

/-- **A value is sent through what stands under the name of the filter.** -/
theorem send_eq_ok_iff {value result : Value} {name : String} :
    Variables.send Filter.call vars value name = .ok result ↔
      ∃ own action, vars.get? name = some (.filter own action) ∧
        action.perform Filter.call value = .ok result := by
  have performed : ∀ filter : Filter,
      filter.call value = filter.action.perform Filter.call value :=
    fun filter => Action.call_eq filter.action value
  rw [Variables.send, bind_eq_ok_iff]
  simp only [performed]
  unfold Variables.filter
  cases vars.get? name with
  | none => simp
  | some held =>
    cases held with
    | filter own action =>
      simp only [Value.asFilter, Except.ok.injEq, Option.some.injEq, Value.filter.injEq]
      constructor
      · rintro ⟨_, rfl, called⟩
        exact ⟨own, action, ⟨rfl, rfl⟩, called⟩
      · rintro ⟨_, _, ⟨rfl, rfl⟩, called⟩
        exact ⟨_, rfl, called⟩
    | _ => simp [Value.asFilter]

end Variables

/-! ## 3. What filters accept -/

theorem Value.asText_eq_ok_iff {value : Value} {text : String} :
    value.asText = .ok text ↔ value = .text text := by
  cases value <;> simp [asText]

theorem Value.asList_eq_ok_iff {value : Value} {items : List Value} :
    value.asList = .ok items ↔ value = .list items := by
  cases value <;> simp [asList]

theorem mapM_asText_eq_ok_iff {items : List Value} {texts : List String} :
    items.mapM Value.asText = .ok texts ↔ items = texts.map .text := by
  rw [mapM_eq_ok_iff]
  induction items generalizing texts with
  | nil => cases texts <;> simp
  | cons item items ih =>
    cases texts with
    | nil => simp
    | cons text texts =>
      rw [List.map_cons, List.map_cons, List.map_cons, List.cons.injEq, List.cons.injEq,
        Value.asText_eq_ok_iff, ih]

/-- Lists of texts are joined, and nothing else. -/
theorem joinLines_eq_ok_iff {value result : Value} :
    joinLines value = .ok result ↔
      ∃ lines : List String, value = .list (lines.map .text) ∧
        result = .text ("\n".intercalate lines) := by
  simp only [joinLines, bind_eq_ok_iff, Value.asList_eq_ok_iff, mapM_asText_eq_ok_iff]
  constructor
  · rintro ⟨_, rfl, lines, rfl, done⟩
    exact ⟨lines, rfl, (Except.ok.inj done).symm⟩
  · rintro ⟨lines, rfl, rfl⟩
    exact ⟨_, rfl, lines, rfl, rfl⟩

/-- Timestamps are spoken, and nothing else. -/
theorem friendlyDatetime_eq_ok_iff {value result : Value} :
    friendlyDatetime value = .ok result ↔
      ∃ timestamp : Timestamp, value = .text timestamp.text ∧ result = .text timestamp.spoken := by
  simp only [friendlyDatetime, bind_eq_ok_iff, Value.asText_eq_ok_iff]
  constructor
  · rintro ⟨input, rfl, done⟩
    split at done
    · rename_i timestamp parsed
      exact ⟨timestamp, by rw [Timestamp.text_of_parse? parsed], (Except.ok.inj done).symm⟩
    · exact absurd done (by simp)
  · rintro ⟨timestamp, rfl, rfl⟩
    refine ⟨_, rfl, ?_⟩
    rw [Timestamp.parse?_text]
    rfl

/-- A list is rendered item by item. -/
theorem perform_postifyEach_list (call : Call) (template : Template)
    (filters : List (String × Action)) (items : List Value) :
    (Action.postifyEach template filters).perform call (.list items) =
      (fun texts => .list (texts.map .text)) <$>
        items.mapM (renderRecord call template (filterVariables filters)) := by
  simp only [Action.perform, Value.asList, bind, Except.bind]
  cases items.mapM (renderRecord call template (filterVariables filters)) <;> rfl

/-- Lists of records are rendered, and nothing else. -/
theorem postifyEach_eq_ok_iff {call : Call} {template : Template}
    {filters : List (String × Action)} {value result : Value} :
    (Action.postifyEach template filters).perform call value = .ok result ↔
      ∃ items texts, value = .list items ∧
        items.mapM (renderRecord call template (filterVariables filters)) = .ok texts ∧
          result = .list (texts.map .text) := by
  simp only [Action.perform, bind_eq_ok_iff, Value.asList_eq_ok_iff]
  constructor
  · rintro ⟨items, rfl, texts, rendered, done⟩
    exact ⟨items, texts, rfl, rendered, (Except.ok.inj done).symm⟩
  · rintro ⟨items, texts, rfl, rendered, rfl⟩
    exact ⟨items, rfl, texts, rendered, rfl⟩

/-! ## 4. Timestamps -/

theorem Timestamp.length_text (timestamp : Timestamp) : timestamp.text.toList.length = 19 := by
  simp only [text, String.toList_ofList, Fields.text, List.length_append, List.length_cons,
    Text.length_digits]

/-- No timestamp is empty. -/
theorem Timestamp.empty_ne_text (timestamp : Timestamp) : "" ≠ timestamp.text := by
  intro same
  have length := timestamp.length_text
  rw [← same] at length
  exact absurd length (by decide)

theorem length_monthName {month : Nat} (first : 1 ≤ month) (last : month ≤ 12) :
    (monthName month).toList.length = 3 := by
  have all : ∀ month ∈ List.range 13, 1 ≤ month → (monthName month).toList.length = 3 := by decide
  exact all month (List.mem_range.mpr (by omega)) first

theorem Timestamp.length_spoken (timestamp : Timestamp) :
    timestamp.spoken.toList.length = 20 := by
  have valid := Fields.isValid_iff.mp timestamp.valid
  have name : (monthName timestamp.month).toList.length = 3 :=
    length_monthName (by omega) (by omega)
  simp only [spoken, String.toList_ofList, List.length_append, List.length_cons,
    Text.length_digits, name]
  split <;> rfl

/-- **No timestamp is written as it is spoken.** -/
theorem Timestamp.spoken_ne_text (timestamp other : Timestamp) :
    timestamp.spoken ≠ other.text := by
  intro same
  have lengths := timestamp.length_spoken
  rw [same, other.length_text] at lengths
  exact absurd lengths (by decide)

end SinglePage
