/-
# What post templates see

The filter that renders posts carries its own copy of the two other filters of a site, taken when
the registry was made.  Registering changes what is found under a name from then on, for page
templates too; it cannot reach into the copy.  So a post template is filled in from its record and
from those two filters, whatever has been registered since.

What actions do is left open here: only the filters of a site have to be called as what they are
(`Call.Standard`), so a sequence of registrations stands for one of any functions.

* `Registry.lookup_registerAll`, `Variables.send_registerAll`: the last filter registered under a
  name is the one found there, and the one that page templates use;
* `renderRecord_postFilters`, `postifyEach_outcomes`: what rendering the items of a list makes of
  them, and which error it returns if it cannot;
* `Reference.evaluateIn_missing`: a reference fails at the first filter that is not there;
* `Registry.builtin_snapshot`: what was registered later is nothing to post templates.
-/
import SinglePage.Filter.Registry
import SinglePage.Proofs.Filter.Stages
import SinglePage.Template.Builtin

namespace SinglePage

/-- A way of calling filters that calls those of a site as what they are, and all others in any
way. -/
structure Call.Standard (call : Call) : Prop where
  joinLines : ∀ name value, call ⟨name, .joinLines⟩ value = SinglePage.joinLines value
  friendlyDatetime : ∀ name value,
    call ⟨name, .friendlyDatetime⟩ value = SinglePage.friendlyDatetime value
  postifyEach : ∀ name template filters value,
    call ⟨name, .postifyEach template filters⟩ value =
      (Action.postifyEach template filters).perform call value

theorem Filter.call_standard : Call.Standard Filter.call where
  joinLines _ value := Action.call_eq .joinLines value
  friendlyDatetime _ value := Action.call_eq .friendlyDatetime value
  postifyEach _ template filters value := Action.call_eq (.postifyEach template filters) value

/-! ## 1. Registering one filter after the other -/

/-- **The last filter registered under a name is the one found there.** -/
theorem Registry.lookup_registerAll (registry : Registry) (actions : List (String × Action))
    (name : String) :
    (registry.registerAll actions).lookup name =
      match SortedMap.lookup name actions.reverse with
      | some action => .ok ⟨name, action⟩
      | none => registry.lookup name := by
  simp only [lookup, registerAll, SortedMap.get?_insertAll]
  cases SortedMap.lookup name actions.reverse <;> rfl

/-- **A page template sends values through the filter that was registered last.** -/
theorem Variables.send_registerAll (call : Call) (vars : Variables) (registry : Registry)
    (actions : List (String × Action)) (value : Value) (name : String) :
    Variables.send call (vars.withFilters (registry.registerAll actions)) value name =
      match SortedMap.lookup name actions.reverse with
      | some action => call ⟨name, action⟩ value
      | none => Variables.send call (vars.withFilters registry) value name := by
  simp only [Variables.send, Variables.filter, withFilters, SortedMap.get?_extend,
    Registry.get?_toVariables, Registry.registerAll, SortedMap.get?_insertAll]
  cases SortedMap.lookup name actions.reverse <;> rfl

theorem lookup_reverse_of_notMem {name : String} {actions : List (String × Action)}
    (unregistered : name ∉ actions.map Prod.fst) :
    SortedMap.lookup name actions.reverse = none :=
  SortedMap.lookup_reverse_eq_none_iff.mpr unregistered

theorem lookup_reverse_of_last {name : String} {action : Action}
    {earlier later : List (String × Action)} (last : name ∉ later.map Prod.fst) :
    SortedMap.lookup name (earlier ++ (name, action) :: later).reverse = some action :=
  SortedMap.lookup_reverse_eq_some_iff.mpr ⟨earlier, later, rfl, last⟩

/-! ## 2. The copy of the registry -/

namespace Registry

theorem filterVariables_entries (registry : Registry) :
    filterVariables registry.actions.entries = registry.toVariables :=
  registry.toVariables.ofList_entries

theorem get?_postFilters (name : String) :
    postFilters.toVariables.get? name =
      if name = friendlyDatetimeName then some (.filter name .friendlyDatetime)
      else if name = joinLinesName then some (.filter name .joinLines)
      else none := by
  rw [get?_toVariables]
  simp only [postFilters, register, SortedMap.get?_insert]
  split
  · rfl
  · split <;> rfl

theorem get?_builtin (template : Template) (name : String) :
    (builtin template).toVariables.get? name =
      if name = postifyEachName then some (.filter name (postFilters.postifyEach template))
      else postFilters.toVariables.get? name := by
  rw [get?_toVariables, get?_toVariables]
  simp only [builtin, register, SortedMap.get?_insert]
  split <;> rfl

end Registry

open Registry (joinLinesName friendlyDatetimeName postifyEachName)

/-- **What a post template is filled in from**: the entries of a record and two filters, which
replace entries of their names. -/
def postVariables (record : Variables) : Variables :=
  (record.insert joinLinesName (.filter joinLinesName .joinLines)).insert friendlyDatetimeName
    (.filter friendlyDatetimeName .friendlyDatetime)

/-- The scope of a post template. -/
def postScope (call : Call) (record : Variables) : Scope Value :=
  Variables.scope call (postVariables record)

/-- An item rendered through a post template, if it is a record. -/
def renderPost (call : Call) (template : Template) (item : Value) : Except SiteError String := do
  let record ← item.asRecord
  template.applyIn (postScope call record)

theorem extend_postFilters (record : Variables) :
    record.extend Registry.postFilters.toVariables = postVariables record := by
  refine SortedMap.ext_get? fun name => ?_
  rw [postVariables, SortedMap.get?_extend, Registry.get?_postFilters, SortedMap.get?_insert,
    SortedMap.get?_insert]
  split
  · rename_i same
    rw [same]
    rfl
  · split
    · rename_i same
      rw [same]
      rfl
    · rfl

/-- **A post is rendered through the copy that was made with the filter.** -/
theorem renderRecord_postFilters (call : Call) (template : Template) :
    renderRecord call template (filterVariables Registry.postFilters.actions.entries) =
      renderPost call template := by
  funext item
  simp only [renderRecord, renderPost, Registry.filterVariables_entries, extend_postFilters]
  rfl

/-- **What rendering a list of posts comes to**: a text for each item, or the error of the first
one that has none. -/
theorem postifyEach_outcomes (call : Call) (template : Template) (items : List Value) :
    (∃ texts : List String, items.map (renderPost call template) = texts.map .ok ∧
      (Registry.postFilters.postifyEach template).perform call (.list items) =
        .ok (.list (texts.map .text))) ∨
    ∃ before item after e, items = before ++ item :: after ∧
      (∀ other ∈ before, ∃ text, renderPost call template other = .ok text) ∧
      renderPost call template item = .error e ∧
      (Registry.postFilters.postifyEach template).perform call (.list items) = .error e := by
  have performed : (Registry.postFilters.postifyEach template).perform call (.list items) =
      (fun texts => .list (texts.map .text)) <$> items.mapM (renderPost call template) := by
    rw [← renderRecord_postFilters]
    exact perform_postifyEach_list call template _ items
  rw [performed]
  rcases map_outcomes (renderPost call template) items with
    ⟨texts, all⟩ | ⟨before, item, after, e, rfl, rendered, fails⟩
  · refine .inl ⟨texts, all, ?_⟩
    rw [mapM_eq_ok_iff.mpr all]
    rfl
  · refine .inr ⟨before, item, after, e, rfl, rendered, fails, ?_⟩
    rw [mapM_eq_error fails rendered]
    rfl

/-! ## 3. Filters that are not there -/

/-- The reference sends a value as far as to the filter of this name: it names it, and all filters
that it names before have succeeded. -/
def Reference.Reaches {V : Type} (scope : Scope V) (ref : Reference) (name : String) : Prop :=
  ∃ before after value result, ref.filters = before ++ name :: after ∧
    scope.value ref.key = .ok value ∧ before.foldlM scope.send value = .ok result

/-- **A reference fails at the first filter that is not there.** -/
theorem Reference.evaluateIn_missing {call : Call} {vars : Variables} {ref : Reference}
    {name : String} (reaches : ref.Reaches (Variables.scope call vars) name)
    (absent : vars.get? name = none) :
    ref.evaluateIn (Variables.scope call vars) = .error (.missingFilter name) := by
  obtain ⟨before, after, value, result, filters, found, passed⟩ := reaches
  have stops : (Variables.scope call vars).send result name = .error (.missingFilter name) := by
    simp only [Variables.scope, Variables.send, Variables.filter, absent]
    rfl
  have sent : (before ++ name :: after).foldlM (Variables.scope call vars).send value =
      .error (.missingFilter name) := by
    simp only [List.foldlM_append, List.foldlM_cons, passed, stops, bind, Except.bind]
  rw [evaluateIn, found, filters]
  exact sent

/-- Under any other name a post template sees what its record holds. -/
theorem get?_postVariables (record : Variables) {name : String} (lines : name ≠ joinLinesName)
    (datetime : name ≠ friendlyDatetimeName) :
    (postVariables record).get? name = record.get? name := by
  rw [postVariables, SortedMap.get?_insert, if_neg datetime, SortedMap.get?_insert, if_neg lines]

/-! ## 4. Registering after the copy was made -/

namespace Registry

theorem lookup_builtin (template : Template) :
    (builtin template).lookup postifyEachName =
      .ok ⟨postifyEachName, postFilters.postifyEach template⟩ := by
  rw [builtin, lookup_register, if_pos rfl]

/-- **What post templates see is fixed when the registry is made.**  Whatever is registered
afterwards, and under whatever names, the filter that renders posts renders each item of a list
from the item's own entries and the two filters that the registry was made with, or returns the
error of the first item that cannot be rendered.  A post template that comes to a filter under any
other name which its record does not hold fails, because that filter is missing.  Page templates
use the filter that was registered last under a name, and the one of the site where none was. -/
theorem builtin_snapshot (template : Template) (calls : List (String × Action)) {call : Call}
    (standard : Call.Standard call) :
    ∃ filter, (builtin template).lookup postifyEachName = .ok filter ∧
      (postifyEachName ∉ calls.map Prod.fst →
        ((builtin template).registerAll calls).lookup postifyEachName = .ok filter) ∧
      (∀ items : List Value,
        (∃ texts : List String, items.map (renderPost call template) = texts.map .ok ∧
          call filter (.list items) = .ok (.list (texts.map .text))) ∨
        ∃ before item after e, items = before ++ item :: after ∧
          (∀ other ∈ before, ∃ text, renderPost call template other = .ok text) ∧
          renderPost call template item = .error e ∧ call filter (.list items) = .error e) ∧
      (∀ (record : Variables) (ref : Reference) (name : String),
        ref.Reaches (postScope call record) name → name ≠ joinLinesName →
        name ≠ friendlyDatetimeName → record.get? name = none →
        ref.evaluateIn (postScope call record) = .error (.missingFilter name) ∧
        ∀ before after item, template.segments = before ++ .reference ref :: after →
          (∀ other ∈ before, ∃ text, Segment.renderIn (postScope call record) other = .ok text) →
          item.asRecord = .ok record →
          renderPost call template item = .error (.missingFilter name)) ∧
      ∀ (vars : Variables) (value : Value) (name : String),
        (∀ earlier action later, calls = earlier ++ (name, action) :: later →
          name ∉ later.map Prod.fst →
          Variables.send call (vars.withFilters ((builtin template).registerAll calls)) value name =
            call ⟨name, action⟩ value) ∧
        (name ∉ calls.map Prod.fst →
          Variables.send call (vars.withFilters ((builtin template).registerAll calls)) value name =
            Variables.send call (vars.withFilters (builtin template)) value name) := by
  refine ⟨_, lookup_builtin template, ?_, ?_, ?_, ?_⟩
  · intro unregistered
    rw [lookup_registerAll, lookup_reverse_of_notMem unregistered]
    exact lookup_builtin template
  · intro items
    have called := standard.postifyEach postifyEachName template postFilters.actions.entries
    simp only [postifyEach, called]
    exact postifyEach_outcomes call template items
  · intro record ref name reaches lines datetime absent
    have missing : ref.evaluateIn (postScope call record) = .error (.missingFilter name) :=
      Reference.evaluateIn_missing reaches
        ((get?_postVariables record lines datetime).trans absent)
    refine ⟨missing, fun before after item segments rendered isRecord => ?_⟩
    have fails : Segment.renderIn (postScope call record) (.reference ref) =
        .error (.missingFilter name) := by
      rw [Segment.renderIn, missing]
      rfl
    rw [renderPost, isRecord]
    exact Template.applyIn_eq_error segments rendered fails
  · intro vars value name
    constructor
    · rintro earlier action later rfl last
      rw [Variables.send_registerAll, lookup_reverse_of_last last]
    · intro unregistered
      rw [Variables.send_registerAll, lookup_reverse_of_notMem unregistered]

/-- A post template that sends its text through a filter `shout`. -/
def shouting : Template where
  source := "" ++ "\x7b\x7b" ++ " text | shout " ++ "\x7d\x7d" ++ ""
  segments := [.literal "", .reference ⟨"text", ["shout"], ⟨0, 18⟩⟩, .literal ""]
  parsed := by
    have empty : Template.IsLiteral "" 0 := ⟨_, rfl, by decide, by decide, by decide⟩
    have body : Template.IsBody " text | shout " 14 "text" ["shout"] :=
      ⟨_, rfl, by decide, by decide, by decide, fun _ => rfl⟩
    rw [segmentsOf, Template.segmentsFrom_pieces empty body, Template.segmentsFrom_piece empty]
    rfl

/-- A filter that is registered afterwards is missing to posts and there for pages, and a page
uses the one that replaces a filter of posts. -/
theorem builtin_snapshot_shouting :
    let calls := [("shout", .append "!"), (joinLinesName, .kind)]
    let page := Variables.withFilters .empty ((builtin shouting).registerAll calls)
    ∃ filter, ((builtin shouting).registerAll calls).lookup postifyEachName = .ok filter ∧
      filter.call (.list [.record [("text", .text "hello")]]) = .error (.missingFilter "shout") ∧
      Variables.send Filter.call page (.text "hello") "shout" = .ok (.text "hello!") ∧
      Variables.send Filter.call page (.list []) joinLinesName = .ok (.text "list") := by
  intro calls page
  obtain ⟨filter, -, same, lists, missing, pages⟩ :=
    builtin_snapshot shouting calls Filter.call_standard
  refine ⟨filter, same (by decide), ?_, ?_, ?_⟩
  · have found : (postVariables (.ofList [("text", .text "hello")])).get? "text" =
        some (.text "hello") := by
      rw [get?_postVariables _ (by decide) (by decide), SortedMap.get?_ofList]
      rfl
    have reaches : Reference.Reaches (postScope Filter.call (.ofList [("text", .text "hello")]))
        ⟨"text", ["shout"], ⟨0, 18⟩⟩ "shout" :=
      ⟨[], [], .text "hello", .text "hello", rfl, Variables.value_eq_ok_iff.mpr found, rfl⟩
    have absent : (SortedMap.ofList [("text", Value.text "hello")]).get? "shout" = none := by
      rw [SortedMap.get?_ofList]
      rfl
    obtain ⟨-, fails⟩ := missing _ _ _ reaches (by decide) (by decide) absent
    have error := fails [.literal ""] [.literal ""] (.record [("text", .text "hello")]) rfl
      (by simp [Segment.renderIn]) rfl
    rcases lists [.record [("text", .text "hello")]] with
      ⟨texts, all, -⟩ | ⟨before, item, after, e, items, -, refused, called⟩
    · rw [List.map_singleton, error] at all
      cases texts <;> simp at all
    · cases before with
      | nil =>
        obtain ⟨rfl, -⟩ := List.cons.inj items
        obtain rfl : e = .missingFilter "shout" := Except.error.inj (refused.symm.trans error)
        exact called
      | cons first rest => simp at items
  · exact (((pages .empty _ "shout").1 [] (.append "!") _ rfl (by decide)).trans
      (Action.call_eq _ _))
  · exact (((pages .empty _ joinLinesName).1 [_] .kind [] rfl (by decide)).trans
      (Action.call_eq _ _))

end Registry

end SinglePage
