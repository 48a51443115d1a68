/-
# Templates filled in with texts

A single template is filled in with texts that are given on the command line.  A text can be written
as it is or, if it is a timestamp, spoken; the filters of a site can be written, by their names, and
are found before any text of these names.  Nothing else has a value: texts are neither lists to be
joined nor records to be rendered, and what has been spoken is no timestamp any more.

* `Replacement`: what a reference is replaced by;
* `Segment.renderIn_eq_ok_iff`: the text of a segment is its replacement;
* `Reference.fits_iff`: which references have a replacement;
* `renderFile_exact`: when a template file can be filled in, and with what result.
-/
import SinglePage.Proofs.Filter.SiteScope
import SinglePage.Proofs.Site.Reading
import SinglePage.Proofs.Template.Span
import SinglePage.Site.Render

namespace SinglePage

open World
open Registry (joinLinesName friendlyDatetimeName postifyEachName)

/-! ## 1. Replacements -/

/-- The last assignment to the key gives it this value. -/
def Assigned (assignments : List (String × String)) (key value : String) : Prop :=
  ∃ earlier later, assignments = earlier ++ (key, value) :: later ∧ key ∉ later.map Prod.fst

/-- **What a reference is replaced by**: by the name of a filter where its key is one, by the text
that was assigned to its key otherwise, and by this text spoken if it is sent through the filter that
speaks timestamps. -/
inductive Replacement (assignments : List (String × String)) (ref : Reference) : String → Prop
  | filter (named : ref.key ∈ filterNames) (alone : ref.filters = []) :
    Replacement assignments ref ("<filter " ++ ref.key ++ ">")
  | verbatim {value : String} (unnamed : ref.key ∉ filterNames) (alone : ref.filters = [])
      (assigned : Assigned assignments ref.key value) : Replacement assignments ref value
  | spoken {value spoken : String} (unnamed : ref.key ∉ filterNames)
      (sent : ref.filters = [friendlyDatetimeName])
      (assigned : Assigned assignments ref.key value)
      (accepted : friendlyDatetime (.text value) = .ok (.text spoken)) :
    Replacement assignments ref spoken

/-- **A reference that can be replaced**: one to a filter or to a text as it is, or one to a text
that is a timestamp and is spoken. -/
def Reference.Fits (assignments : List (String × String)) (ref : Reference) : Prop :=
  (ref.filters = [] ∧ (ref.key ∈ assignments.map Prod.fst ∨ ref.key ∈ filterNames)) ∨
    (ref.filters = [friendlyDatetimeName] ∧ ref.key ∈ assignments.map Prod.fst ∧
      ref.key ∉ filterNames ∧ ∃ value spoken, Assigned assignments ref.key value ∧
        friendlyDatetime (.text value) = .ok spoken)

/-- What a segment becomes: a literal stays as it is. -/
inductive Segment.Becomes (assignments : List (String × String)) : Segment → String → Prop
  | literal (text : String) : Becomes assignments (.literal text) text
  | reference {ref : Reference} {text : String} (replaced : Replacement assignments ref text) :
    Becomes assignments (.reference ref) text

variable {assignments : List (String × String)}

theorem assigned_iff {key value : String} :
    Assigned assignments key value ↔ SortedMap.lookup key assignments.reverse = some value :=
  SortedMap.lookup_reverse_eq_some_iff.symm

/-- A key is assigned a text exactly when it is among the keys. -/
theorem exists_assigned_iff {key : String} :
    (∃ value, Assigned assignments key value) ↔ key ∈ assignments.map Prod.fst := by
  simp only [assigned_iff]
  rw [← Option.isSome_iff_exists, Option.isSome_iff_ne_none, Ne,
    SortedMap.lookup_reverse_eq_none_iff, not_not]

/-- **The references that fit are those that have a replacement.** -/
theorem Reference.fits_iff {ref : Reference} :
    ref.Fits assignments ↔ ∃ text, Replacement assignments ref text := by
  constructor
  · rintro (⟨alone, held⟩ | ⟨sent, -, unnamed, value, spoken, assigned, accepted⟩)
    · by_cases named : ref.key ∈ filterNames
      · exact ⟨_, .filter named alone⟩
      · obtain ⟨value, assigned⟩ := exists_assigned_iff.mpr (held.resolve_right named)
        exact ⟨value, .verbatim named alone assigned⟩
    · obtain ⟨timestamp, same, rfl⟩ := friendlyDatetime_eq_ok_iff.mp accepted
      exact ⟨_, .spoken unnamed sent assigned accepted⟩
  · rintro ⟨text, replaced⟩
    cases replaced with
    | filter named alone => exact .inl ⟨alone, .inr named⟩
    | verbatim unnamed alone assigned =>
      exact .inl ⟨alone, .inl (exists_assigned_iff.mp ⟨_, assigned⟩)⟩
    | spoken unnamed sent assigned accepted =>
      exact .inr ⟨sent, exists_assigned_iff.mp ⟨_, assigned⟩, unnamed, _, _, assigned, accepted⟩

/-! ## 2. Values -/

namespace Site

/-- The given texts as variables. -/
def givenTexts (assignments : List (String × String)) : Variables :=
  .ofList (assignments.map fun e => (e.1, .text e.2))

/-- What a single template is filled in from. -/
def textScope (assignments : List (String × String)) : Scope Value :=
  Variables.siteScope (givenTexts assignments) Template.post

theorem get?_givenTexts (key : String) :
    (givenTexts assignments).get? key =
      (SortedMap.lookup key assignments.reverse).map .text := by
  rw [givenTexts, SortedMap.get?_ofList, ← List.map_reverse]
  exact SortedMap.lookup_map (fun _ text => Value.text text) key assignments.reverse

theorem plain_givenTexts : Variables.Plain (givenTexts assignments) := by
  intro name own action found
  rw [get?_givenTexts] at found
  obtain ⟨text, -, other⟩ := Option.map_eq_some_iff.mp found
  exact absurd other (by simp)

theorem get?_givenTexts_eq_some_iff {key : String} {value : Value} :
    (givenTexts assignments).get? key = some value ↔
      ∃ text, Assigned assignments key text ∧ value = .text text := by
  simp only [get?_givenTexts, Option.map_eq_some_iff, assigned_iff, @eq_comm _ value]

/-- **The value of a reference** is a filter as it is, a text as it is, or a timestamp spoken. -/
theorem evaluateIn_eq_ok_iff {ref : Reference} {result : Value} :
    ref.evaluateIn (textScope assignments) = .ok result ↔
      (ref.key ∈ filterNames ∧ ref.filters = [] ∧
          (textScope assignments).value ref.key = .ok result) ∨
        (ref.key ∉ filterNames ∧ ∃ text, Assigned assignments ref.key text ∧
          ((ref.filters = [] ∧ result = .text text) ∨
            (ref.filters = [friendlyDatetimeName] ∧ friendlyDatetime (.text text) = .ok result))) := by
  have plain : Variables.Plain (givenTexts assignments) := plain_givenTexts
  have stages := (Variables.siteScope_speaksOnly plain Template.post).stages_iff
  rw [Reference.evaluateIn, bind_eq_ok_iff]
  constructor
  · rintro ⟨value, found, passed⟩
    rcases Variables.siteScope_value_iff.mp found with ⟨named, action, rfl, -⟩ | ⟨unnamed, held⟩
    · have alone := (Variables.siteScope_filter_passes_iff plain).mp ⟨result, passed⟩
      rw [alone] at passed
      obtain rfl : _ = result := Except.ok.inj passed
      exact .inl ⟨named, alone, found⟩
    · obtain ⟨text, assigned, rfl⟩ := get?_givenTexts_eq_some_iff.mp held
      exact .inr ⟨unnamed, text, assigned, (stages _ _ _).mp passed⟩
  · rintro (⟨-, alone, found⟩ | ⟨unnamed, text, assigned, passed⟩)
    · exact ⟨result, found, by rw [alone]; rfl⟩
    · have held := get?_givenTexts_eq_some_iff.mpr ⟨text, assigned, rfl⟩
      exact ⟨.text text, Variables.siteScope_value_iff.mpr (.inr ⟨unnamed, held⟩),
        (stages _ _ _).mpr passed⟩

end Site

/-- **The text of a segment is what it becomes.** -/
theorem Segment.renderIn_eq_ok_iff {segment : Segment} {text : String} :
    segment.renderIn (Site.textScope assignments) = .ok text ↔
      segment.Becomes assignments text := by
  cases segment with
  | literal literal =>
    constructor
    · intro same
      obtain rfl := Except.ok.inj same
      exact .literal literal
    · rintro ⟨⟩
      rfl
  | reference ref =>
    rw [renderIn, map_eq_ok_iff]
    simp only [Site.evaluateIn_eq_ok_iff]
    constructor
    · rintro ⟨value, ⟨named, alone, found⟩ | ⟨unnamed, given, assigned, passed⟩, rfl⟩
      · rcases Variables.siteScope_value_iff.mp found with ⟨-, action, rfl, -⟩ | ⟨unnamed, -⟩
        · exact .reference (.filter named alone)
        · exact absurd named unnamed
      · rcases passed with ⟨alone, rfl⟩ | ⟨sent, accepted⟩
        · exact .reference (.verbatim unnamed alone assigned)
        · obtain ⟨timestamp, -, rfl⟩ := friendlyDatetime_eq_ok_iff.mp accepted
          exact .reference (.spoken unnamed sent assigned accepted)
    · rintro ⟨⟩
      rename_i replaced
      cases replaced with
      | filter named alone =>
        obtain ⟨action, held⟩ : ∃ action, (Site.textScope assignments).value ref.key =
            .ok (.filter ref.key action) := by
          rcases Variables.get?_withFilters_cases (Site.givenTexts assignments) Template.post
            ref.key with ⟨-, action, held⟩ | ⟨unnamed, -⟩
          · exact ⟨action, Variables.value_eq_ok_iff.mpr held⟩
          · exact absurd named unnamed
        exact ⟨_, .inl ⟨named, alone, held⟩, rfl⟩
      | verbatim unnamed alone assigned =>
        exact ⟨_, .inr ⟨unnamed, _, assigned, .inl ⟨alone, rfl⟩⟩, rfl⟩
      | spoken unnamed sent assigned accepted =>
        exact ⟨_, .inr ⟨unnamed, _, assigned, .inr ⟨sent, accepted⟩⟩, rfl⟩

/-! ## 3. Files -/

namespace Site

/-- **Which text a template makes of the given ones**: that of its segments, each as what it
becomes. -/
theorem applyIn_textScope_iff {template : Template} {output : String} :
    template.applyIn (textScope assignments) = .ok output ↔
      ∃ texts, List.Forall₂ (Segment.Becomes assignments) template.segments texts ∧
        output = String.join texts := by
  rw [Template.applyIn, map_eq_ok_iff]
  simp only [mapM_eq_ok_iff_forall₂, Segment.renderIn_eq_ok_iff, @eq_comm _ output]

theorem outcome_renderFile {world : World} {path : Path} {source : String} {template : Template}
    (readable : world.tree.readText path = .ok source)
    (parsed : Template.parse source = .ok template) :
    outcome (renderFile path assignments) world = template.applyIn (textScope assignments) := by
  have fill : ∀ template : Template, Looks (liftM (template.apply (textVariables assignments)) :
      ExceptT SiteError (StateM World) String).run := fun _ => Looks.ofExcept _
  have loaded : outcome (templateFromFile path) world = .ok template := by
    rw [outcome_templateFromFile, readable]
    exact parsed
  have same : template.apply (textVariables assignments) =
      template.applyIn (textScope assignments) := rfl
  unfold renderFile
  rw [outcome_bind (looks_templateFromFile path) fill, loaded, ← same]
  show outcome (liftM (template.apply (textVariables assignments))) world = _
  cases template.apply (textVariables assignments) <;> rfl

/-- **When a template file can be filled in with texts, and with what result.**  It can when each of
its references fits: it is a given text or a filter by itself, or a given text that is a timestamp
and is spoken, where no filter has the name of the text.  The result is the text of the file with
each reference replaced.  A reference that names two filters or more, or one of those that make
something of lists, has no value. -/
theorem renderFile_exact {world : World} {path : Path} {source : String} {template : Template}
    (readable : world.tree.readText path = .ok source)
    (parsed : Template.parse source = .ok template) (assignments : List (String × String)) :
    ((∃ output, outcome (renderFile path assignments) world = .ok output) ↔
      ∀ ref, .reference ref ∈ template.segments → ref.Fits assignments) ∧
    (∀ output, outcome (renderFile path assignments) world = .ok output ↔
      ∃ originals texts,
        template.segments.mapM (Segment.sourceText? source.toList) = some originals ∧
        originals.flatten = source.toList ∧
        List.Forall₂ (Segment.Becomes assignments) template.segments texts ∧
        output = String.join texts) ∧
    ∀ ref : Reference, 2 ≤ ref.filters.length ∨ joinLinesName ∈ ref.filters ∨
        postifyEachName ∈ ref.filters →
      ∀ value, ref.evaluateIn (textScope assignments) ≠ .ok value := by
  rw [outcome_renderFile readable parsed]
  refine ⟨?_, ?_, ?_⟩
  · simp only [Template.applyIn_succeeds_iff, ← Segment.renderIn_succeeds_iff,
      Segment.renderIn_eq_ok_iff, Reference.fits_iff]
    refine forall_congr' fun ref => imp_congr_right fun _ => exists_congr fun text => ?_
    exact ⟨fun | .reference replaced => replaced, .reference⟩
  · intro output
    have covers := template.covers
    rw [Template.source_of_parse parsed] at covers
    obtain ⟨rest, stands, whole⟩ := covers.sourceText
    obtain ⟨originals, read, rfl⟩ := Option.map_eq_some_iff.mp whole
    rw [applyIn_textScope_iff]
    constructor
    · rintro ⟨texts, becomes, rfl⟩
      exact ⟨originals, texts, read, stands.eq_whole, becomes, rfl⟩
    · rintro ⟨-, texts, -, -, becomes, rfl⟩
      exact ⟨texts, becomes, rfl⟩
  · intro ref many value found
    have few : ref.filters = [] ∨ ref.filters = [friendlyDatetimeName] := by
      rcases evaluateIn_eq_ok_iff.mp found with ⟨-, alone, -⟩ | ⟨-, text, -, passed⟩
      · exact .inl alone
      · exact passed.imp And.left And.left
    rcases few with few | few <;> rw [few] at many <;> revert many <;> decide

/-- A template with a title, a timestamp that is spoken, and the name of a filter. -/
def card : Template where
  source := "" ++ "\x7b\x7b" ++ " title " ++ "\x7d\x7d" ++
    (" on " ++ "\x7b\x7b" ++ "when | friendly-datetime" ++ "\x7d\x7d" ++
      (" " ++ "\x7b\x7b" ++ "join-lines" ++ "\x7d\x7d" ++ ""))
  segments := [.literal "", .reference ⟨"title", [], ⟨0, 11⟩⟩, .literal " on ",
    .reference ⟨"when", ["friendly-datetime"], ⟨15, 43⟩⟩, .literal " ",
    .reference ⟨"join-lines", [], ⟨44, 58⟩⟩, .literal ""]
  parsed := by
    have empty : Template.IsLiteral "" 0 := ⟨_, rfl, by decide, by decide, by decide⟩
    have on : Template.IsLiteral " on " 4 := ⟨_, rfl, by decide, by decide, by decide⟩
    have space : Template.IsLiteral " " 1 := ⟨_, rfl, by decide, by decide, by decide⟩
    have title : Template.IsBody " title " 7 "title" [] :=
      ⟨_, rfl, by decide, by decide, by decide, fun _ => rfl⟩
    have when : Template.IsBody "when | friendly-datetime" 24 "when" ["friendly-datetime"] :=
      ⟨_, rfl, by decide, by decide, by decide, fun _ => rfl⟩
    have lines : Template.IsBody "join-lines" 10 "join-lines" [] :=
      ⟨_, rfl, by decide, by decide, by decide, fun _ => rfl⟩
    rw [segmentsOf, Template.segmentsFrom_pieces empty title, Template.segmentsFrom_pieces on when,
      Template.segmentsFrom_pieces space lines, Template.segmentsFrom_piece empty]
    rfl

/-- The second title counts and is not read as a template, and the filter is found before the text
of its name. -/
theorem renderFile_exact_card :
    let world : World := ⟨FileTree.empty.put [⟨"card.txt", by decide⟩] (.file card.source.toUTF8), []⟩
    outcome (renderFile ⟨"card.txt"⟩ [("title", "Old"), ("when", "2021-12-25 13:00:00"),
      ("join-lines", "text"), ("title", "\x7b\x7bNew\x7d\x7d")]) world =
        .ok "\x7b\x7bNew\x7d\x7d on Dec 25, 2021 01:00PM <filter join-lines>" := by
  intro world
  have readable : world.tree.readText ⟨"card.txt"⟩ = .ok card.source :=
    FileTree.readText_eq_ok_iff.mpr rfl
  obtain ⟨-, exact, -⟩ := renderFile_exact readable card.parse_source
    [("title", "Old"), ("when", "2021-12-25 13:00:00"), ("join-lines", "text"),
      ("title", "\x7b\x7bNew\x7d\x7d")]
  refine (exact _).mpr ⟨["".toList, "\x7b\x7b title \x7d\x7d".toList, " on ".toList,
    "\x7b\x7bwhen | friendly-datetime\x7d\x7d".toList, " ".toList,
    "\x7b\x7bjoin-lines\x7d\x7d".toList, "".toList], ["", "\x7b\x7bNew\x7d\x7d", " on ",
      "Dec 25, 2021 01:00PM", " ", "<filter join-lines>", ""], by decide +kernel, by decide +kernel,
      ?_, by decide +kernel⟩
  have spoken : friendlyDatetime (.text "2021-12-25 13:00:00") =
      .ok (.text "Dec 25, 2021 01:00PM") :=
    friendlyDatetime_eq_ok_iff.mpr
      ⟨⟨⟨2021, 12, 25, 13, 0, 0⟩, by decide⟩, congrArg Value.text (by decide +kernel),
        congrArg Value.text (by decide +kernel)⟩
  have titleHeld : Assigned _ "title" "\x7b\x7bNew\x7d\x7d" :=
    ⟨[("title", "Old"), ("when", "2021-12-25 13:00:00"), ("join-lines", "text")], [], rfl,
      by decide⟩
  have whenHeld : Assigned _ "when" "2021-12-25 13:00:00" :=
    ⟨[("title", "Old")], [("join-lines", "text"), ("title", "\x7b\x7bNew\x7d\x7d")], rfl,
      by decide⟩
  exact .cons (.literal _) (.cons (.reference (.verbatim (by decide) rfl titleHeld))
    (.cons (.literal _) (.cons (.reference (.spoken (by decide) rfl whenHeld spoken))
      (.cons (.literal _) (.cons (.reference (.filter (by decide) rfl))
        (.cons (.literal _) .nil))))))

end Site

end SinglePage
