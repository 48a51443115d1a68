/-
# The pipeline of a reference, and the earliest fault

A reference looks its key up and sends the value through its filters, one stage after the other.  Each
stage can fail in three ways: nothing stands under the name of the filter, something else than a filter
stands there, or the filter refuses the value.  `Pipeline` writes the stages down as they are taken, up
to the first one that fails; what is named behind it is never looked at.

What filters do is left open (`Call`), so all of this holds of any filters.

* `stage_iff`, `pipeline_iff`, `Reference.comes_iff`: the stages come to what evaluating returns;
* `Template.applyIn_eq_error_iff`: the error of a template is that of its first reference that fails;
* `Reference.evaluateIn_split`: a chain of filters is two chains, with a name for what is between them;
* `apply_earliest_fault`: how a template is filled in, stage by stage and reference by reference.
-/
import SinglePage.Proofs.Filter.Stages
import SinglePage.Template.Builtin

namespace SinglePage

/-! ## 1. Stages -/

/-- **What one stage comes to.**  The name of the filter is looked up, what stands under it has to be a
filter, and the filter is called on the value. -/
inductive Stage (call : Call) (vars : Variables) (value : Value) (name : String) :
    Except SiteError Value → Prop
  | absent (free : vars.get? name = none) :
    Stage call vars value name (.error (.missingFilter name))
  | otherKind {held : Value} (stands : vars.get? name = some held) (other : held.kind ≠ .filter) :
    Stage call vars value name (.error (.typeMismatch .filter held.kind))
  | called {own : String} {action : Action} (stands : vars.get? name = some (.filter own action)) :
    Stage call vars value name (call ⟨own, action⟩ value)

/-- **What a value comes to on its way through filters**: the first stage that fails is the last one
that is taken. -/
inductive Pipeline (call : Call) (vars : Variables) :
    Value → List String → Except SiteError Value → Prop
  | done (value : Value) : Pipeline call vars value [] (.ok value)
  | stopped {value : Value} {name : String} {e : SiteError}
      (stage : Stage call vars value name (.error e)) (names : List String) :
    Pipeline call vars value (name :: names) (.error e)
  | next {value following : Value} {name : String} {names : List String}
      {result : Except SiteError Value} (stage : Stage call vars value name (.ok following))
      (rest : Pipeline call vars following names result) :
    Pipeline call vars value (name :: names) result

/-- **What a reference comes to**: its key is looked up, and the value is sent through its filters. -/
inductive Reference.Comes (call : Call) (vars : Variables) (ref : Reference) :
    Except SiteError Value → Prop
  | missing (free : vars.get? ref.key = none) :
    Comes call vars ref (.error (.missingVariable ref.key))
  | found {value : Value} {result : Except SiteError Value}
      (stands : vars.get? ref.key = some value)
      (stages : Pipeline call vars value ref.filters result) : Comes call vars ref result

/-- What a segment is replaced by: a literal by itself, a reference by its value as it is written. -/
inductive Segment.Written (call : Call) (vars : Variables) : Segment → String → Prop
  | literal (text : String) : Written call vars (.literal text) text
  | reference {ref : Reference} {value : Value} (comes : ref.Comes call vars (.ok value)) :
    Written call vars (.reference ref) value.display

section Stages

variable {call : Call} {vars : Variables}

theorem Value.asFilter_of_kind {held : Value} (other : held.kind ≠ .filter) :
    held.asFilter = .error (.typeMismatch .filter held.kind) := by
  cases held with
  | filter own action => exact absurd rfl other
  | _ => rfl

/-- **A stage comes to what sending the value returns.** -/
theorem stage_iff {value : Value} {name : String} {result : Except SiteError Value} :
    Variables.send call vars value name = result ↔ Stage call vars value name result := by
  constructor
  · rintro rfl
    unfold Variables.send Variables.filter
    cases stands : vars.get? name with
    | none => exact .absent stands
    | some held =>
      by_cases isFilter : held.kind = .filter
      · cases held with
        | filter own action => exact .called stands
        | _ => exact absurd isFilter (by simp [Value.kind])
      · simp only [Value.asFilter_of_kind isFilter]
        exact .otherKind stands isFilter
  · intro stage
    unfold Variables.send Variables.filter
    cases stage with
    | absent free =>
      rw [free]
      rfl
    | otherKind stands other =>
      simp only [stands, Value.asFilter_of_kind other]
      rfl
    | called stands =>
      rw [stands]
      rfl

/-- **A pipeline comes to what the filters return**, one behind the other. -/
theorem pipeline_iff {value : Value} {names : List String} {result : Except SiteError Value} :
    names.foldlM (Variables.send call vars) value = result ↔
      Pipeline call vars value names result := by
  constructor
  · rintro rfl
    induction names generalizing value with
    | nil => exact .done value
    | cons name names ih =>
      rw [List.foldlM_cons]
      cases sent : Variables.send call vars value name with
      | error e => exact .stopped (stage_iff.mp sent) names
      | ok following => exact .next (stage_iff.mp sent) ih
  · intro stages
    induction stages with
    | done value => rfl
    | stopped stage names =>
      rw [List.foldlM_cons, stage_iff.mpr stage]
      rfl
    | next stage rest ih =>
      rw [List.foldlM_cons, stage_iff.mpr stage]
      exact ih

/-- **A reference comes to its value, or to its fault.** -/
theorem Reference.comes_iff {ref : Reference} {result : Except SiteError Value} :
    ref.evaluateIn (Variables.scope call vars) = result ↔ ref.Comes call vars result := by
  have opened : ref.evaluateIn (Variables.scope call vars) =
      Variables.value vars ref.key >>= ref.filters.foldlM (Variables.send call vars) := rfl
  rw [opened]
  unfold Variables.value
  constructor
  · rintro rfl
    cases stands : vars.get? ref.key with
    | none => exact .missing stands
    | some value => exact .found stands (pipeline_iff.mp rfl)
  · intro comes
    cases comes with
    | missing free =>
      rw [free]
      rfl
    | found stands stages =>
      rw [stands]
      exact pipeline_iff.mpr stages

/-- **A segment is replaced by what is written for it.** -/
theorem Segment.written_iff {segment : Segment} {text : String} :
    segment.renderIn (Variables.scope call vars) = .ok text ↔ segment.Written call vars text := by
  cases segment with
  | literal literal =>
    constructor
    · intro same
      obtain rfl := Except.ok.inj same
      exact .literal literal
    · rintro ⟨⟩
      rfl
  | reference ref =>
    rw [renderIn, map_eq_ok_iff]
    simp only [Reference.comes_iff]
    constructor
    · rintro ⟨value, comes, rfl⟩
      exact .reference comes
    · intro written
      cases written with
      | reference comes => exact ⟨_, comes, rfl⟩

end Stages

/-! ## 2. The first reference that fails -/

section Templates

variable {V : Type} {scope : Scope V}

/-- A segment has no text exactly when it is a reference without a value. -/
theorem Segment.renderIn_eq_error_iff {segment : Segment} {e : SiteError} :
    segment.renderIn scope = .error e ↔
      ∃ ref, segment = .reference ref ∧ ref.evaluateIn scope = .error e := by
  cases segment with
  | literal text => simp [renderIn]
  | reference ref =>
    have mapped : renderIn scope (.reference ref) = scope.display <$> ref.evaluateIn scope := rfl
    simp [mapped, map_eq_error_iff]

/-- **The error of a template is that of its first reference that fails.** -/
theorem Template.applyIn_eq_error_iff {template : Template} {e : SiteError} :
    template.applyIn scope = .error e ↔ ∃ before ref after,
      template.segments = before ++ .reference ref :: after ∧
        (∀ other, .reference other ∈ before → ∃ value, other.evaluateIn scope = .ok value) ∧
          ref.evaluateIn scope = .error e := by
  constructor
  · intro failed
    rcases map_outcomes (Segment.renderIn scope) template.segments with
      ⟨texts, all⟩ | ⟨before, segment, after, e', segments, rendered, fails⟩
    · rw [applyIn_eq_ok_iff.mpr ⟨texts, all, rfl⟩] at failed
      exact absurd failed (by simp)
    · rw [applyIn_eq_error segments rendered fails] at failed
      obtain rfl := Except.error.inj failed
      obtain ⟨ref, rfl, refused⟩ := Segment.renderIn_eq_error_iff.mp fails
      refine ⟨before, ref, after, segments, ?_, refused⟩
      intro other mem
      exact Segment.renderIn_reference_iff.mp (rendered _ mem)
  · rintro ⟨before, ref, after, segments, evaluated, refused⟩
    refine applyIn_eq_error segments ?_ (Segment.renderIn_eq_error_iff.mpr ⟨ref, rfl, refused⟩)
    intro other mem
    cases other with
    | literal text => exact ⟨text, rfl⟩
    | reference other => exact Segment.renderIn_reference_iff.mpr (evaluated other mem)

/-! ## 3. Chains that are cut in two -/

/-- Filters that do the same in two scopes can be exchanged. -/
theorem Scope.stages_congr {s t : Scope V} {names : List String}
    (same : ∀ name ∈ names, ∀ value, s.send value name = t.send value name) (value : V) :
    names.foldlM s.send value = names.foldlM t.send value := by
  induction names generalizing value with
  | nil => rfl
  | cons name names ih =>
    obtain ⟨first, rest⟩ := List.forall_mem_cons.mp same
    rw [List.foldlM_cons, List.foldlM_cons, first]
    cases t.send value name with
    | error e => rfl
    | ok following => exact ih rest following

end Templates

/-- Sending a value through a filter looks at what stands under the name of the filter only. -/
theorem Variables.send_congr {vars others : Variables} {name : String}
    (same : vars.get? name = others.get? name) (call : Call) (value : Value) :
    Variables.send call vars value name = Variables.send call others value name := by
  rw [Variables.send, Variables.send, Variables.filter, Variables.filter, same]

/-- A name that no filter has can be given to the value that the filters are used on. -/
theorem Reference.evaluateIn_named {call : Call} {vars : Variables} {ref : Reference} {value : Value}
    (unused : ref.key ∉ ref.filters) :
    ref.evaluateIn (Variables.scope call (vars.insert ref.key value)) =
      ref.filters.foldlM (Variables.send call vars) value := by
  have found : Variables.value (vars.insert ref.key value) ref.key = .ok value := by
    rw [Variables.value_eq_ok_iff, SortedMap.get?_insert, if_pos rfl]
  have opened : ref.evaluateIn (Variables.scope call (vars.insert ref.key value)) =
      Variables.value (vars.insert ref.key value) ref.key >>=
        ref.filters.foldlM (Variables.send call (vars.insert ref.key value)) := rfl
  rw [opened, found]
  refine Scope.stages_congr (s := Variables.scope call (vars.insert ref.key value))
    (t := Variables.scope call vars) ?_ value
  intro name mem value
  refine Variables.send_congr ?_ call value
  have other : name ≠ ref.key := by
    rintro rfl
    exact unused mem
  rw [SortedMap.get?_insert, if_neg other]

/-- **A chain of filters is two chains**: the first one gives a value, and the second one is used on it
under a name of its own. -/
theorem Reference.evaluateIn_split {call : Call} {vars : Variables} {ref : Reference}
    {front behind : List String} {fresh : String} (filters : ref.filters = front ++ behind)
    (unused : fresh ∉ behind) :
    ref.evaluateIn (Variables.scope call vars) = (do
      let value ← { ref with filters := front }.evaluateIn (Variables.scope call vars)
      { ref with key := fresh, filters := behind }.evaluateIn
        (Variables.scope call (vars.insert fresh value))) := by
  have named : ∀ value, { ref with key := fresh, filters := behind }.evaluateIn
      (Variables.scope call (vars.insert fresh value)) =
        behind.foldlM (Variables.send call vars) value :=
    fun value => evaluateIn_named unused
  simp only [named]
  simp only [evaluateIn, filters, List.foldlM_append]
  cases (Variables.scope call vars).value ref.key <;> rfl

/-! ## 4. Filling in -/

/-- **A template is filled in from left to right, and the earliest fault is reported.**

* It can be filled in exactly when each of its references comes to a value; the text is that of its
  segments, each literal as it is and each value as it is written.
* Otherwise the error is that of the first reference that comes to none.
* What a reference comes to is found stage by stage: its key, and for each filter its name, its kind
  and the call.
* A chain of filters that fails fails alike with more filters behind it.  Cut anywhere, a chain is used
  on a value as its second part is on what its first part gives, under any name that the second part
  does not use itself. -/
theorem apply_earliest_fault (call : Call) (template : Template) (vars : Variables) :
    ((∃ output, template.applyWith call vars = .ok output) ↔
      ∀ ref, .reference ref ∈ template.segments → ∃ value, ref.Comes call vars (.ok value)) ∧
    (∀ output, template.applyWith call vars = .ok output ↔
      ∃ texts, List.Forall₂ (Segment.Written call vars) template.segments texts ∧
        output = String.join texts) ∧
    (∀ e, template.applyWith call vars = .error e ↔ ∃ before ref after,
      template.segments = before ++ .reference ref :: after ∧
        (∀ other, .reference other ∈ before → ∃ value, other.Comes call vars (.ok value)) ∧
          ref.Comes call vars (.error e)) ∧
    (∀ (ref : Reference) (result : Except SiteError Value),
      ref.evaluateIn (Variables.scope call vars) = result ↔ ref.Comes call vars result) ∧
    ∀ (ref : Reference) (front behind : List String), ref.filters = front ++ behind →
      (∀ e, { ref with filters := front }.evaluateIn (Variables.scope call vars) = .error e →
        ref.evaluateIn (Variables.scope call vars) = .error e) ∧
      ∀ fresh, fresh ∉ behind → ref.evaluateIn (Variables.scope call vars) = (do
        let value ← { ref with filters := front }.evaluateIn (Variables.scope call vars)
        { ref with key := fresh, filters := behind }.evaluateIn
          (Variables.scope call (vars.insert fresh value))) := by
  refine ⟨?_, ?_, ?_, ?_, ?_⟩
  · have values : (∃ output, template.applyWith call vars = .ok output) ↔
        ∀ ref, .reference ref ∈ template.segments →
          (Variables.scope call vars).Values ref.key ref.filters := Template.applyIn_succeeds_iff
    simp only [← Reference.evaluates_iff, Reference.comes_iff] at values
    exact values
  · intro output
    rw [Template.applyWith, Template.applyIn, map_eq_ok_iff]
    simp only [mapM_eq_ok_iff_forall₂, Segment.written_iff, @eq_comm _ output]
  · intro e
    rw [Template.applyWith, Template.applyIn_eq_error_iff]
    simp only [Reference.comes_iff]
  · intro ref result
    exact Reference.comes_iff
  · intro ref front behind filters
    constructor
    · intro e failed
      simp only [Reference.evaluateIn, filters, List.foldlM_append] at failed ⊢
      rw [← bind_assoc, failed]
      rfl
    · intro fresh unused
      exact Reference.evaluateIn_split filters unused

/-- A template with three faults: a variable in the place of a filter, a filter that is not there, and a
variable that is not there. -/
def Template.faulty : Template where
  source := "" ++ "\x7b\x7b" ++ " a | kind | a | gone " ++ "\x7d\x7d" ++
    ("" ++ "\x7b\x7b" ++ " b " ++ "\x7d\x7d" ++ "")
  segments := [.literal "", .reference ⟨"a", ["kind", "a", "gone"], ⟨0, 25⟩⟩, .literal "",
    .reference ⟨"b", [], ⟨25, 32⟩⟩, .literal ""]
  parsed := by
    have empty : IsLiteral "" 0 := ⟨_, rfl, by decide, by decide, by decide⟩
    have first : IsBody " a | kind | a | gone " 21 "a" ["kind", "a", "gone"] :=
      ⟨_, rfl, by decide, by decide, by decide, fun _ => rfl⟩
    have second : IsBody " b " 3 "b" [] := ⟨_, rfl, by decide, by decide, by decide, fun _ => rfl⟩
    rw [segmentsOf, segmentsFrom_pieces empty first, segmentsFrom_pieces empty second,
      segmentsFrom_piece empty]
    rfl

/-- Of the three faults the first one is reported, and the chain that it stands in can be cut in front
of it. -/
theorem apply_earliest_fault_faulty :
    let vars : Variables := .ofList [("a", .text "x"), ("kind", .filter "kind" .kind)]
    let scope := Variables.scope Filter.call vars
    Template.faulty.applyWith Filter.call vars = .error (.typeMismatch .filter .text) ∧
      Reference.evaluateIn scope ⟨"a", ["kind", "a", "gone"], ⟨0, 25⟩⟩ = (do
        let value ← Reference.evaluateIn scope ⟨"a", ["kind"], ⟨0, 25⟩⟩
        Reference.evaluateIn (Variables.scope Filter.call (vars.insert "kind" value))
          ⟨"kind", ["a", "gone"], ⟨0, 25⟩⟩) := by
  intro vars scope
  have text : vars.get? "a" = some (.text "x") := by
    rw [SortedMap.get?_ofList]
    rfl
  have filter : vars.get? "kind" = some (.filter "kind" .kind) := by
    rw [SortedMap.get?_ofList]
    rfl
  have called : Filter.call ⟨"kind", .kind⟩ (.text "x") = .ok (.text "text") :=
    Action.call_eq .kind (.text "x")
  have passed : Stage Filter.call vars (.text "x") "kind" (.ok (.text "text")) :=
    called ▸ .called filter
  have refused : Stage Filter.call vars (.text "text") "a" (.error (.typeMismatch .filter .text)) :=
    .otherKind text (by decide)
  obtain ⟨-, -, faults, -, chains⟩ := apply_earliest_fault Filter.call Template.faulty vars
  refine ⟨(faults _).mpr ⟨[.literal ""], ⟨"a", ["kind", "a", "gone"], ⟨0, 25⟩⟩, _, rfl, by simp, ?_⟩,
    ?_⟩
  · exact .found text (.next passed (.stopped refused ["gone"]))
  · exact (chains ⟨"a", ["kind", "a", "gone"], ⟨0, 25⟩⟩ ["kind"] ["a", "gone"] rfl).2 "kind"
      (by decide)

end SinglePage
