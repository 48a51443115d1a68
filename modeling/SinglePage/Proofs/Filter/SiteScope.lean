/-
# Data beside the filters of a site

What a page is filled in from, and what a single template is filled in from, are data merged with
the three filters of a site.  No filter is among the data, so these three are all that a value can be
sent through, and they replace data of their names.  None of them accepts a filter, and only one
accepts a text.

* `Variables.siteScope_send_iff`, `Variables.siteScope_value_iff`: what becomes of values, and what
  keys stand for;
* `Scope.SpeaksOnly`, `Scope.SpeaksOnly.stages_iff`: where texts can only be spoken, a text passes no
  filters, or it is a timestamp and is spoken once.
-/
import SinglePage.Proofs.Filter.PostScope

namespace SinglePage

open Registry (joinLinesName friendlyDatetimeName postifyEachName postFilters)

/-! ## 1. Names -/

/-- The names that the filters of a site stand under. -/
def filterNames : List String := [joinLinesName, friendlyDatetimeName, postifyEachName]

namespace Variables

/-- No filter is among the variables. -/
def Plain (vars : Variables) : Prop :=
  ∀ name own action, vars.get? name ≠ some (.filter own action)

/-- What a template is filled in from, where variables are merged with the filters of a site. -/
def siteScope (vars : Variables) (template : Template) : Scope Value :=
  Variables.scope Filter.call (vars.withFilters (Registry.builtin template))

variable {vars : Variables} {template : Template}

theorem get?_withFilters_builtin (vars : Variables) (template : Template) (name : String) :
    (vars.withFilters (Registry.builtin template)).get? name =
      if name = postifyEachName then some (.filter name (postFilters.postifyEach template))
      else if name = friendlyDatetimeName then some (.filter name .friendlyDatetime)
      else if name = joinLinesName then some (.filter name .joinLines)
      else vars.get? name := by
  rw [withFilters, SortedMap.get?_extend, Registry.get?_builtin, Registry.get?_postFilters]
  split
  · rfl
  · split
    · rfl
    · split <;> rfl

/-- **The filters of a site replace what stands under their names, and nothing else.** -/
theorem get?_withFilters_cases (vars : Variables) (template : Template) (name : String) :
    (name ∈ filterNames ∧ ∃ action,
        (vars.withFilters (Registry.builtin template)).get? name = some (.filter name action)) ∨
      (name ∉ filterNames ∧
        (vars.withFilters (Registry.builtin template)).get? name = vars.get? name) := by
  rw [get?_withFilters_builtin]
  split
  · rename_i same
    exact .inl ⟨by simp [filterNames, same], _, rfl⟩
  · split
    · rename_i same
      exact .inl ⟨by simp [filterNames, same], _, rfl⟩
    · split
      · rename_i same
        exact .inl ⟨by simp [filterNames, same], _, rfl⟩
      · rename_i postify friendly lines
        exact .inr ⟨by simp [filterNames, postify, friendly, lines], rfl⟩

/-- **Three filters can be used.** -/
theorem siteScope_send_iff (plain : vars.Plain) {value result : Value} {name : String} :
    (vars.siteScope template).send value name = .ok result ↔
      (name = postifyEachName ∧
          (postFilters.postifyEach template).perform Filter.call value = .ok result) ∨
        (name = friendlyDatetimeName ∧ friendlyDatetime value = .ok result) ∨
          (name = joinLinesName ∧ joinLines value = .ok result) := by
  refine Variables.send_eq_ok_iff.trans ?_
  simp only [get?_withFilters_builtin]
  constructor
  · rintro ⟨own, action, found, called⟩
    split at found
    · obtain ⟨rfl, rfl⟩ := Value.filter.inj (Option.some.inj found)
      exact .inl ⟨‹_›, called⟩
    · split at found
      · obtain ⟨rfl, rfl⟩ := Value.filter.inj (Option.some.inj found)
        exact .inr (.inl ⟨‹_›, called⟩)
      · split at found
        · obtain ⟨rfl, rfl⟩ := Value.filter.inj (Option.some.inj found)
          exact .inr (.inr ⟨‹_›, called⟩)
        · exact absurd found (plain name own action)
  · rintro (⟨rfl, sent⟩ | ⟨rfl, sent⟩ | ⟨rfl, sent⟩)
    · exact ⟨_, postFilters.postifyEach template, rfl, sent⟩
    · exact ⟨_, .friendlyDatetime, rfl, sent⟩
    · exact ⟨_, .joinLines, rfl, sent⟩

/-- A key stands for a filter, or for what it stands for among the variables. -/
theorem siteScope_value_iff {key : String} {value : Value} :
    (vars.siteScope template).value key = .ok value ↔
      (key ∈ filterNames ∧ ∃ action, value = .filter key action ∧
          (vars.withFilters (Registry.builtin template)).get? key = some value) ∨
        (key ∉ filterNames ∧ vars.get? key = some value) := by
  refine Variables.value_eq_ok_iff.trans ?_
  rcases get?_withFilters_cases vars template key with ⟨mem, action, held⟩ | ⟨other, same⟩
  · rw [held, Option.some.injEq]
    constructor
    · rintro rfl
      exact .inl ⟨mem, action, rfl, rfl⟩
    · rintro (⟨-, -, -, same⟩ | ⟨other, -⟩)
      · exact same
      · exact absurd mem other
  · rw [same]
    simp [other]

/-- **No filter accepts a filter.** -/
theorem siteScope_filter_passes_iff (plain : vars.Plain) {own : String} {action : Action}
    {filters : List String} :
    (vars.siteScope template).Passes (.filter own action) filters ↔ filters = [] := by
  refine Scope.passes_iff_nil fun name next sent => ?_
  rcases (siteScope_send_iff plain).mp sent with ⟨-, rendered⟩ | ⟨-, spoken⟩ | ⟨-, joined⟩
  · obtain ⟨_, _, ⟨⟩, -⟩ := postifyEach_eq_ok_iff.mp rendered
  · obtain ⟨_, ⟨⟩, -⟩ := friendlyDatetime_eq_ok_iff.mp spoken
  · obtain ⟨_, ⟨⟩, -⟩ := joinLines_eq_ok_iff.mp joined

end Variables

/-! ## 2. Texts -/

/-- A text can be sent through one filter only, which speaks timestamps. -/
def Scope.SpeaksOnly (scope : Scope Value) : Prop :=
  ∀ text name next, scope.send (.text text) name = .ok next ↔
    name = friendlyDatetimeName ∧ friendlyDatetime (.text text) = .ok next

/-- **A text passes no filters, or it is a timestamp and is spoken once**, because what has been
spoken is no timestamp any more. -/
theorem Scope.SpeaksOnly.stages_iff {scope : Scope Value} (speaks : scope.SpeaksOnly)
    (text : String) (filters : List String) (result : Value) :
    filters.foldlM scope.send (.text text) = .ok result ↔
      (filters = [] ∧ result = .text text) ∨
        (filters = [friendlyDatetimeName] ∧ friendlyDatetime (.text text) = .ok result) := by
  constructor
  · intro passed
    cases filters with
    | nil => exact .inl ⟨rfl, (Except.ok.inj passed).symm⟩
    | cons name filters =>
      rw [List.foldlM_cons, bind_eq_ok_iff] at passed
      obtain ⟨next, sent, passed⟩ := passed
      obtain ⟨rfl, spoken⟩ := (speaks _ _ _).mp sent
      cases filters with
      | nil =>
        obtain rfl : next = result := Except.ok.inj passed
        exact .inr ⟨rfl, spoken⟩
      | cons name' filters =>
        rw [List.foldlM_cons, bind_eq_ok_iff] at passed
        obtain ⟨last, sent', -⟩ := passed
        obtain ⟨timestamp, -, rfl⟩ := friendlyDatetime_eq_ok_iff.mp spoken
        obtain ⟨-, again⟩ := (speaks _ _ _).mp sent'
        obtain ⟨other, same, -⟩ := friendlyDatetime_eq_ok_iff.mp again
        exact absurd (Value.text.inj same) (timestamp.spoken_ne_text other)
  · rintro (⟨rfl, rfl⟩ | ⟨rfl, spoken⟩)
    · rfl
    · rw [List.foldlM_cons, bind_eq_ok_iff]
      exact ⟨result, (speaks _ _ _).mpr ⟨rfl, spoken⟩, rfl⟩

theorem Variables.siteScope_speaksOnly {vars : Variables} (plain : vars.Plain)
    (template : Template) : (vars.siteScope template).SpeaksOnly := by
  intro text name next
  rw [siteScope_send_iff plain]
  constructor
  · rintro (⟨-, rendered⟩ | spoken | ⟨-, joined⟩)
    · obtain ⟨_, _, ⟨⟩, -⟩ := postifyEach_eq_ok_iff.mp rendered
    · exact spoken
    · obtain ⟨_, ⟨⟩, -⟩ := joinLines_eq_ok_iff.mp joined
  · exact fun spoken => .inr (.inl spoken)

end SinglePage
