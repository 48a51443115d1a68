/-
# Only the names that a template mentions matter

A template looks up the keys of its references and the names of their filters, and nothing else.  So
two mappings that agree on these names give the same text or the same error, whatever else they hold.
Where records are rendered, each of them is merged with the filters of a registry first, and these
replace entries of their names, so a record has to agree on still fewer names.

* `Reference.evaluateIn_congr`, `Template.applyIn_congr`: two scopes, one beside the other;
* `Pipeline.stands_of_ok`: what was sent through filters went through filters that stand there;
* `renderRecord_congr`: records that agree on what is not replaced are rendered alike;
* `rendering_local`: filling in depends on the names that a template mentions.
-/
import SinglePage.Proofs.Filter.Pipeline
import SinglePage.Proofs.Filter.PostScope

namespace SinglePage

/-- **The template mentions the name**, as the key of a reference or as one of its filters. -/
def Template.Mentions (template : Template) (name : String) : Prop :=
  ∃ ref, .reference ref ∈ template.segments ∧ (name = ref.key ∨ name ∈ ref.filters)

/-- **Two mappings agree on some names**: each of these is bound to the same value in both, or to none
in both. -/
def Variables.AgreeOn (names : String → Prop) (vars others : Variables) : Prop :=
  ∀ name, names name → vars.get? name = others.get? name

/-! ## 1. Two scopes -/

section Scopes

variable {V : Type} {s t : Scope V}

/-- **A reference has the same value in two scopes** that give its key the same value and whose filters
of its names do the same. -/
theorem Reference.evaluateIn_congr {ref : Reference} (value : s.value ref.key = t.value ref.key)
    (send : ∀ name ∈ ref.filters, ∀ value, s.send value name = t.send value name) :
    ref.evaluateIn s = ref.evaluateIn t := by
  have stages := Scope.stages_congr send
  rw [evaluateIn, evaluateIn, value]
  simp only [stages]

theorem mapM_congr_forall₂ {ε α β γ : Type} {f : α → Except ε γ} {g : β → Except ε γ} {l : List α}
    {r : List β} (same : List.Forall₂ (fun a b => f a = g b) l r) : l.mapM f = r.mapM g := by
  induction same with
  | nil => rfl
  | cons first _ ih => rw [List.mapM_cons, List.mapM_cons, first, ih]

/-- A template is filled in alike in two scopes in which its references have the same values. -/
theorem Template.applyIn_congr {template : Template} (display : s.display = t.display)
    (refs : ∀ ref, .reference ref ∈ template.segments → ref.evaluateIn s = ref.evaluateIn t) :
    template.applyIn s = template.applyIn t := by
  have segments : template.segments.mapM (Segment.renderIn s) =
      template.segments.mapM (Segment.renderIn t) := by
    refine mapM_congr_forall₂ (List.forall₂_same.mpr ?_)
    intro segment mem
    cases segment with
    | literal text => rfl
    | reference ref => rw [Segment.renderIn, Segment.renderIn, display, refs ref mem]
  rw [applyIn, applyIn, segments]

end Scopes

/-! ## 2. Two mappings -/

/-- **Mappings that agree on the names of a template fill it in alike.** -/
theorem Template.applyWith_congr {call : Call} {template : Template} {vars others : Variables}
    (agree : vars.AgreeOn template.Mentions others) :
    template.applyWith call vars = template.applyWith call others := by
  refine applyIn_congr rfl ?_
  intro ref mem
  refine Reference.evaluateIn_congr ?_ ?_
  · have same := agree ref.key ⟨ref, mem, .inl rfl⟩
    simp only [Variables.scope, Variables.value, same]
  · intro name named value
    exact Variables.send_congr (agree name ⟨ref, mem, .inr named⟩) call value

/-- A stage that returned a value went through a filter. -/
theorem Stage.stands_of_ok {call : Call} {vars : Variables} {value following : Value} {name : String}
    {result : Except SiteError Value} (stage : Stage call vars value name result)
    (returned : result = .ok following) :
    ∃ own action, vars.get? name = some (.filter own action) := by
  cases stage with
  | absent free => exact absurd returned (by simp)
  | otherKind stands other => exact absurd returned (by simp)
  | called stands => exact ⟨_, _, stands⟩

/-- **What was sent through filters went through filters that stand there**, each under its name. -/
theorem Pipeline.stands_of_ok {call : Call} {vars : Variables} {value last : Value}
    {names : List String} {result : Except SiteError Value}
    (stages : Pipeline call vars value names result) (returned : result = .ok last) :
    ∀ name ∈ names, ∃ own action, vars.get? name = some (.filter own action) := by
  induction stages with
  | done value => simp
  | stopped stage names => exact absurd returned (by simp)
  | next stage rest ih =>
    intro name mem
    rcases List.mem_cons.mp mem with rfl | mem
    · exact stage.stands_of_ok rfl
    · exact ih returned name mem

/-- A reference that comes to a value has a key and filters that stand there. -/
theorem Reference.Comes.stands_of_ok {call : Call} {vars : Variables} {ref : Reference}
    {last : Value} {result : Except SiteError Value} (comes : ref.Comes call vars result)
    (returned : result = .ok last) :
    (∃ value, vars.get? ref.key = some value) ∧
      ∀ name ∈ ref.filters, ∃ own action, vars.get? name = some (.filter own action) := by
  cases comes with
  | missing free => exact absurd returned (by simp)
  | found stands stages => exact ⟨⟨_, stands⟩, stages.stands_of_ok returned⟩

/-! ## 3. Lists of records -/

/-- What merging with a registry leaves of a mapping: the entries that no filter replaces. -/
theorem Variables.AgreeOn.withFilters {names : String → Prop} {vars others : Variables}
    {registry : Registry}
    (agree : vars.AgreeOn (fun name => names name ∧ name ∉ registry.names) others) :
    (vars.withFilters registry).AgreeOn names (others.withFilters registry) := by
  intro name mentioned
  rw [Variables.withFilters, Variables.withFilters, SortedMap.get?_extend, SortedMap.get?_extend]
  cases replaced : registry.toVariables.get? name with
  | some filter => rfl
  | none =>
    refine agree name ⟨mentioned, ?_⟩
    intro mem
    obtain ⟨action, held⟩ := registry.actions.mem_keys_iff.mp mem
    rw [Registry.get?_toVariables, held] at replaced
    exact absurd replaced (by simp)

/-- Two items are records that agree on the names that a template mentions and that no filter of the
registry replaces. -/
def Value.AlikeFor (template : Template) (registry : Registry) (item other : Value) : Prop :=
  ∃ record record' : Variables, item.asRecord = .ok record ∧ other.asRecord = .ok record' ∧
    record.AgreeOn (fun name => template.Mentions name ∧ name ∉ registry.names) record'

/-- **Records that agree on what is not replaced are rendered alike.** -/
theorem renderRecord_congr {call : Call} {template : Template} {registry : Registry}
    {item other : Value} (alike : item.AlikeFor template registry other) :
    renderRecord call template (filterVariables registry.actions.entries) item =
      renderRecord call template (filterVariables registry.actions.entries) other := by
  obtain ⟨record, record', isRecord, isRecord', agree⟩ := alike
  have same : template.applyWith call (record.withFilters registry) =
      template.applyWith call (record'.withFilters registry) :=
    Template.applyWith_congr agree.withFilters
  simp only [renderRecord, isRecord, isRecord', Registry.filterVariables_entries]
  exact same

/-- **Filling in depends on the names that a template mentions only.**

* Mappings that agree on these names give the same text, or the same error.
* A template that could be filled in found a value under each of its keys and a filter under each name
  of a filter.
* Where a list of records is rendered, it is enough that the records agree, one by one, on those of the
  names that are not replaced by filters of the registry. -/
theorem rendering_local (call : Call) (template : Template) :
    (∀ vars others : Variables, vars.AgreeOn template.Mentions others →
      template.applyWith call vars = template.applyWith call others) ∧
    (∀ (vars : Variables) (output : String), template.applyWith call vars = .ok output →
      ∀ ref, .reference ref ∈ template.segments →
        (∃ value, vars.get? ref.key = some value) ∧
          ∀ name ∈ ref.filters, ∃ own action, vars.get? name = some (.filter own action)) ∧
    ∀ (registry : Registry) (items others : List Value),
      List.Forall₂ (Value.AlikeFor template registry) items others →
        (registry.postifyEach template).perform call (.list items) =
          (registry.postifyEach template).perform call (.list others) := by
  refine ⟨?_, ?_, ?_⟩
  · intro vars others agree
    exact Template.applyWith_congr agree
  · intro vars output filled ref mem
    obtain ⟨value, evaluated⟩ :=
      Reference.evaluates_iff.mpr (Template.applyIn_succeeds_iff.mp ⟨output, filled⟩ ref mem)
    exact (Reference.comes_iff.mp evaluated).stands_of_ok rfl
  · intro registry items others alike
    have rendered : items.mapM
          (renderRecord call template (filterVariables registry.actions.entries)) =
        others.mapM (renderRecord call template (filterVariables registry.actions.entries)) :=
      mapM_congr_forall₂ (alike.imp fun _ _ => renderRecord_congr)
    simp only [Registry.postifyEach, Action.perform, Value.asList]
    simp only [bind, Except.bind, rendered]

/-- Two records that have nothing in common but their text are rendered alike, because the filter that
the template names replaces what stands under its name in the first one. -/
theorem rendering_local_shouting :
    let registry := Registry.empty.register "shout" (.append "!")
    let record : Variables := .ofList [("text", .text "hello"), ("shout", .text "none")]
    let record' : Variables := .ofList [("text", .text "hello"), ("mood", .text "calm")]
    Value.AlikeFor Registry.shouting registry (.ofVariables record) (.ofVariables record') ∧
      (registry.postifyEach Registry.shouting).perform Filter.call (.list [.ofVariables record]) =
        (registry.postifyEach Registry.shouting).perform Filter.call
          (.list [.ofVariables record']) ∧
      Registry.shouting.applyWith Filter.call (record.withFilters registry) =
        Registry.shouting.applyWith Filter.call (record'.withFilters registry) := by
  intro registry record record'
  have agree : record.AgreeOn
      (fun name => Registry.shouting.Mentions name ∧ name ∉ registry.names) record' := by
    rintro name ⟨⟨ref, mem, mentioned⟩, unregistered⟩
    have isText : ref = ⟨"text", ["shout"], ⟨0, 18⟩⟩ := by
      simpa [Registry.shouting] using mem
    subst isText
    rcases mentioned with rfl | named
    · rw [SortedMap.get?_ofList, SortedMap.get?_ofList]
      rfl
    · obtain rfl : name = "shout" := by simpa using named
      exact absurd (by decide) unregistered
  have alike : Value.AlikeFor Registry.shouting registry (.ofVariables record)
      (.ofVariables record') :=
    ⟨record, record', Value.asRecord_ofVariables record, Value.asRecord_ofVariables record', agree⟩
  obtain ⟨mappings, -, lists⟩ := rendering_local Filter.call Registry.shouting
  exact ⟨alike, lists registry _ _ (.cons alike .nil), mappings _ _ agree.withFilters⟩

end SinglePage
