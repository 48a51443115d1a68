/-
# Printing templates, and reading them back

What a template says, without regard to where it says it, is its outline: literals with references
between them.  An outline is printed with any blanks around the names of its references.  Reading
the printed text gives the outline back, as long as no piece holds a delimiter, because none can
arise where two pieces meet: between them stand blanks, a bar or a brace of another kind.

* `NoPair.append`: no pair arises where two texts meet that do not both have the character there;
* `Outline.clean_layout`: so the printed text of a regular outline is laid out cleanly;
* `Outline.regular_of_describes`: whatever is read from a text has a regular outline;
* `Template.apply_eq_of_parts_eq`: what a template is replaced by depends on what it says only;
* `parse_printed`: parsing undoes printing, and what is parsed can be printed.
-/
import Mathlib.Data.List.Infix
import SinglePage.Filter.Call
import SinglePage.Proofs.Template.Span

namespace SinglePage

/-! ## 1. Where pairs arise -/

section Pairs

variable {c : Char} {text left right piece : List Char}

theorem noPair_of_not_mem (absent : c ∉ text) : NoPair c text := by
  rintro before after rfl
  exact absent (by simp)

/-- A piece of a text without a pair has none. -/
theorem NoPair.infix (clear : NoPair c text) (inside : piece <:+: text) : NoPair c piece := by
  rintro before after rfl
  obtain ⟨front, back, rfl⟩ := inside
  exact clear (front ++ before) (after ++ back) (by simp)

/-- **No pair arises where two texts meet**, unless both have the character there. -/
theorem NoPair.append (clear : NoPair c left) (clear' : NoPair c right)
    (meet : left.getLast? ≠ some c ∨ right.head? ≠ some c) : NoPair c (left ++ right) := by
  intro before after whole
  rcases List.append_eq_append_iff.mp whole with ⟨middle, -, eq⟩ | ⟨middle, front, eq⟩
  · exact clear' middle after eq
  · rcases middle with _ | ⟨d, _ | ⟨e, middle⟩⟩
    · exact clear' [] after eq.symm
    · obtain ⟨rfl, behind⟩ := List.cons.inj eq
      have begins : right = c :: after := behind.symm
      rcases meet with ends | differs
      · exact ends (by rw [front, List.getLast?_concat])
      · exact differs (by rw [begins, List.head?_cons])
    · obtain ⟨rfl, behind⟩ := List.cons.inj eq
      obtain ⟨rfl, -⟩ := List.cons.inj behind
      exact clear before middle front

end Pairs

/-! ## 2. Pieces with a separator between them -/

/-- No pair arises where pieces are joined by another character. -/
theorem noPair_intercalate {c separator : Char} (other : c ≠ separator)
    {pieces : List (List Char)} (clear : ∀ piece ∈ pieces, NoPair c piece) :
    NoPair c ([separator].intercalate pieces) := by
  induction pieces with
  | nil => exact noPair_of_not_mem (by simp)
  | cons first rest ih =>
    obtain ⟨clearFirst, clearRest⟩ := List.forall_mem_cons.mp clear
    cases rest with
    | nil => simpa using clearFirst
    | cons second rest =>
      rw [List.intercalate_cons_cons]
      have alone : NoPair c [separator] := noPair_of_not_mem (by simpa using other)
      have front : NoPair c (first ++ [separator]) :=
        clearFirst.append alone (.inr (by simpa using other.symm))
      exact front.append (ih clearRest) (.inl (by simpa using other.symm))

/-! ## 3. Names -/

/-- **A name with blanks around it.** -/
structure PaddedName where
  before : List Char
  name : String
  after : List Char
  before_blank : ∀ c ∈ before, Text.isBlank c = true
  after_blank : ∀ c ∈ after, Text.isBlank c = true

namespace PaddedName

/-- The name and the blanks. -/
def text (padded : PaddedName) : List Char := padded.before ++ (padded.name.toList ++ padded.after)

/-- A name with one space at either side. -/
def spaced (name : String) : PaddedName :=
  ⟨[' '], name, [' '], List.forall_mem_singleton.mpr rfl, List.forall_mem_singleton.mpr rfl⟩

end PaddedName

/-- **A name that can stand in a reference**: it is trimmed, and no delimiter is in it. -/
structure NameFits (name : String) : Prop where
  trimmed : Text.trim name.toList = name.toList
  noBar : '|' ∉ name.toList
  clear : NoPair '}' name.toList

namespace PaddedName

variable {padded : PaddedName}

theorem not_mem_text {c : Char} (visible : Text.isBlank c = false)
    (absent : c ∉ padded.name.toList) : c ∉ padded.text := by
  intro mem
  rcases List.mem_append.mp mem with mem | mem
  · exact absurd (padded.before_blank c mem) (by simp [visible])
  · rcases List.mem_append.mp mem with mem | mem
    · exact absent mem
    · exact absurd (padded.after_blank c mem) (by simp [visible])

/-- Trimming takes the blanks away and nothing else. -/
theorem trimsTo_text (fits : NameFits padded.name) :
    Text.TrimsTo padded.text padded.name.toList := by
  rw [Text.trimsTo_iff, text, Text.trim_blank_append padded.before_blank,
    Text.trim_append_blank _ padded.after_blank, fits.trimmed]

/-- Blanks do not make a closing. -/
theorem noPair_text (fits : NameFits padded.name) : NoPair '}' padded.text := by
  have noBrace : ∀ {blanks : List Char}, (∀ c ∈ blanks, Text.isBlank c = true) → '}' ∉ blanks :=
    fun blank mem => absurd (blank '}' mem) (by decide)
  have front : NoPair '}' padded.before := noPair_of_not_mem (noBrace padded.before_blank)
  have back : NoPair '}' padded.after := noPair_of_not_mem (noBrace padded.after_blank)
  refine front.append (fits.clear.append back (.inr ?_)) (.inl ?_)
  · exact fun begins => noBrace padded.after_blank (List.mem_of_mem_head? begins)
  · exact fun ends => noBrace padded.before_blank (List.mem_of_getLast? ends)

end PaddedName

/-! ## 4. Outlines -/

/-- **What a template says**: a literal and a reference in front of the rest, or a literal that
comes last. -/
inductive Outline (N : Type) where
  | last (literal : String)
  | reference (literal : String) (key : N) (filters : List N) (rest : Outline N)

namespace Outline

/-- The outline with other names in place of these. -/
def map {N M : Type} (f : N → M) : Outline N → Outline M
  | last literal => last literal
  | reference literal key filters rest => reference literal (f key) (filters.map f) (rest.map f)

/-- **An outline that can be printed**: no literal holds an opening, or would make one with the
opening behind it, and all names fit. -/
def Regular : Outline String → Prop
  | last literal => NoPair '{' literal.toList
  | reference literal key filters rest =>
    NoPair '{' literal.toList ∧ literal.toList.getLast? ≠ some '{' ∧
      (∀ name ∈ key :: filters, NameFits name) ∧ rest.Regular

/-- The outline without the blanks around its names. -/
def names (printed : Outline PaddedName) : Outline String := printed.map PaddedName.name

/-- The outline with one space at either side of every name. -/
def spaced (outline : Outline String) : Outline PaddedName := outline.map PaddedName.spaced

/-! ## 5. Printing -/

/-- What is printed between the braces of a reference. -/
def body (key : PaddedName) (filters : List PaddedName) : List Char :=
  ['|'].intercalate ((key :: filters).map PaddedName.text)

/-- No reference would make a closing with the one behind it. -/
def Closed : Outline PaddedName → Prop
  | last _ => True
  | reference _ key filters rest => (body key filters).getLast? ≠ some '}' ∧ rest.Closed

/-- How the printed text is laid out. -/
def layout : Outline PaddedName → Layout
  | last literal => .last literal.toList
  | reference literal key filters rest =>
    .reference literal.toList (body key filters) rest.layout

/-- **The printed text.** -/
def text (printed : Outline PaddedName) : String := String.ofList printed.layout.text

/-- **The segments of an outline** whose text is printed from byte `offset` on.  Each span is where
the reference is printed, braces included. -/
def segments (offset : Nat) : Outline PaddedName → List Segment
  | last literal => [.literal literal]
  | reference literal key filters rest =>
    let start := offset + Text.byteLength literal.toList
    let stop := start + Text.byteLength ('{' :: '{' :: (body key filters ++ ['}', '}']))
    .literal literal :: .reference ⟨key.name, filters.map PaddedName.name, ⟨start, stop⟩⟩ ::
      rest.segments stop

theorem noPair_body {key : PaddedName} {filters : List PaddedName}
    (fit : ∀ padded ∈ key :: filters, NameFits padded.name) : NoPair '}' (body key filters) := by
  refine noPair_intercalate (by decide) fun piece mem => ?_
  obtain ⟨padded, inside, rfl⟩ := List.mem_map.mp mem
  exact PaddedName.noPair_text (fit padded inside)

/-- What is printed between the braces spells the reference. -/
theorem spells_body {key : PaddedName} {filters : List PaddedName} (span : Span)
    (fit : ∀ padded ∈ key :: filters, NameFits padded.name) :
    Reference.Spells ⟨key.name, filters.map PaddedName.name, span⟩ (body key filters) := by
  refine ⟨key.text, filters.map PaddedName.text, rfl, ?_, ?_, ?_⟩
  · intro piece mem
    rw [← List.map_cons] at mem
    obtain ⟨padded, inside, rfl⟩ := List.mem_map.mp mem
    exact PaddedName.not_mem_text (by decide) (fit padded inside).noBar
  · exact PaddedName.trimsTo_text (fit key List.mem_cons_self)
  · rw [List.forall₂_map_left_iff, List.forall₂_map_right_iff, List.forall₂_same]
    exact fun padded mem => PaddedName.trimsTo_text (fit padded (List.mem_cons_of_mem _ mem))

/-- Names that fit, with the blanks around them. -/
theorem fit_padded {key : PaddedName} {filters : List PaddedName}
    (fit : ∀ name ∈ key.name :: filters.map PaddedName.name, NameFits name) :
    ∀ padded ∈ key :: filters, NameFits padded.name := by
  intro padded mem
  exact fit padded.name (List.mem_map_of_mem (f := PaddedName.name) mem)

/-- **No delimiter arises where pieces of a regular outline meet.** -/
theorem clean_layout {printed : Outline PaddedName} (regular : printed.names.Regular)
    (closed : printed.Closed) : printed.layout.Clean := by
  induction printed with
  | last literal => exact regular
  | reference literal key filters rest ih =>
    obtain ⟨clear, ends, fit, regular⟩ := regular
    obtain ⟨ends', closed⟩ := closed
    exact ⟨clear, ends, noPair_body (fit_padded fit), ends', ih regular closed⟩

/-- The segments of an outline are those of the layout that it is printed in. -/
theorem describes_segments {printed : Outline PaddedName} (regular : printed.names.Regular)
    (offset : Nat) : printed.layout.Describes offset (printed.segments offset) := by
  induction printed generalizing offset with
  | last literal =>
    have last := Layout.Describes.last offset literal.toList
    rwa [String.ofList_toList] at last
  | reference literal key filters rest ih =>
    obtain ⟨-, -, fit, regular⟩ := regular
    let start := offset + Text.byteLength literal.toList
    let stop := start + Text.byteLength ('{' :: '{' :: (body key filters ++ ['}', '}']))
    have stops : stop = start + 2 + Text.byteLength (body key filters) + 2 := by
      simp only [stop, byteLength_braces]
      omega
    have describes : Layout.Describes offset (.reference literal.toList (body key filters)
        rest.layout) (.literal (String.ofList literal.toList) ::
          .reference ⟨key.name, filters.map PaddedName.name, ⟨start, stop⟩⟩ ::
            rest.segments stop) :=
      .reference rfl stops (spells_body _ (fit_padded fit)) rfl (ih regular stop)
    rwa [String.ofList_toList] at describes

end Outline

/-! ## 6. What a template says -/

/-- **What a piece of a template says**, without regard to where it stands. -/
inductive Part where
  | literal (text : String)
  | reference (key : String) (filters : List String)
  deriving DecidableEq

/-- What a segment says. -/
def Segment.part : Segment → Part
  | .literal text => .literal text
  | .reference ref => .reference ref.key ref.filters

/-- What a template says. -/
def Template.parts (template : Template) : List Part := template.segments.map Segment.part

/-- The text that a part is replaced by. -/
def Part.renderIn {V : Type} (scope : Scope V) : Part → Except SiteError String
  | .literal text => .ok text
  | .reference key filters =>
    scope.display <$> (scope.value key >>= fun value => filters.foldlM scope.send value)

theorem Segment.renderIn_part {V : Type} (scope : Scope V) (segment : Segment) :
    segment.renderIn scope = segment.part.renderIn scope := by
  cases segment <;> rfl

/-- **Templates that say the same are filled in alike.** -/
theorem Template.apply_eq_of_parts_eq {template other : Template}
    (same : template.parts = other.parts) (vars : Variables) :
    template.apply vars = other.apply vars := by
  have byParts : ∀ t : Template, t.apply vars =
      String.join <$> t.parts.mapM (Part.renderIn (Variables.scope Filter.call vars)) := by
    intro t
    rw [Template.parts, List.mapM_map]
    exact congrArg (fun f => String.join <$> t.segments.mapM f)
      (funext (Segment.renderIn_part _))
  rw [byParts, byParts, same]

namespace Outline

/-- The parts of an outline. -/
def parts : Outline String → List Part
  | last literal => [.literal literal]
  | reference literal key filters rest =>
    .literal literal :: .reference key filters :: rest.parts

/-- The segments that are printed say what the outline says. -/
theorem map_part_segments (printed : Outline PaddedName) (offset : Nat) :
    (printed.segments offset).map Segment.part = printed.names.parts := by
  induction printed generalizing offset with
  | last literal => rfl
  | reference literal key filters rest ih =>
    simp only [segments, List.map_cons, Segment.part, ih, names, map, parts]

theorem names_spaced (outline : Outline String) : outline.spaced.names = outline := by
  induction outline with
  | last literal => rfl
  | reference literal key filters rest ih =>
    simp only [spaced, names] at ih
    simp only [spaced, names, map, List.map_map, ih]
    exact congrArg (reference literal key · rest) (List.map_id _)

/-- The text of a reference ends with a blank, if its last name has one behind it. -/
theorem closed_spaced (outline : Outline String) : outline.spaced.Closed := by
  induction outline with
  | last literal => trivial
  | reference literal key filters rest ih =>
    have ends : (body (.spaced key) (filters.map .spaced)).getLast? = some ' ' := by
      refine getLast?_intercalate _ (by simp) fun piece mem => ?_
      rw [← List.map_cons] at mem
      obtain ⟨padded, inside, rfl⟩ := List.mem_map.mp mem
      obtain ⟨name, -, rfl⟩ := List.mem_map.mp inside
      rw [PaddedName.text, ← List.append_assoc]
      exact List.getLast?_concat
    exact ⟨by rw [ends]; decide, ih⟩

/-- A name that is read from between the braces fits. -/
theorem nameFits_of_trimsTo {body piece : List Char} {name : String}
    (clear : NoPair '}' body) (inside : piece <:+: body) (noBar : '|' ∉ piece)
    (trims : Text.TrimsTo piece name.toList) : NameFits name := by
  obtain ⟨⟨before, after, eq, -, -⟩, first, last⟩ := trims
  have core : name.toList <:+: piece := ⟨before, after, by rw [eq, List.append_assoc]⟩
  exact ⟨Text.trim_eq_self first last, fun mem => noBar (core.subset mem),
    clear.infix (core.trans inside)⟩

/-- Outlines with the same parts are the same. -/
theorem parts_injective : ∀ {outline other : Outline String}, outline.parts = other.parts →
    outline = other
  | last _, last _, same => by
    obtain ⟨⟨rfl⟩, -⟩ := List.cons.inj same
    rfl
  | last _, reference _ _ _ _, same => absurd (List.cons.inj same).2 (by simp)
  | reference _ _ _ _, last _, same => absurd (List.cons.inj same).2 (by simp)
  | reference _ _ _ _, reference _ _ _ _, same => by
    obtain ⟨⟨rfl⟩, behind⟩ := List.cons.inj same
    obtain ⟨⟨rfl, rfl⟩, rests⟩ := List.cons.inj behind
    rw [parts_injective rests]

/-- **Whatever is read from a text has a regular outline.** -/
theorem regular_of_describes {layout : Layout} {offset : Nat} {segments : List Segment}
    (describes : layout.Describes offset segments) (clean : layout.Clean) :
    ∃ outline : Outline String, outline.Regular ∧ segments.map Segment.part = outline.parts := by
  induction describes with
  | last offset literal =>
    refine ⟨last (String.ofList literal), ?_, rfl⟩
    rw [Regular, String.toList_ofList]
    exact clean
  | @reference offset start stop literal body rest ref segments _ _ spells _ _ ih =>
    obtain ⟨clear, ends, inner, -, clean⟩ := clean
    obtain ⟨outline, regular, parts⟩ := ih clean
    obtain ⟨first, others, rfl, noBar, isKey, areFilters⟩ := spells
    refine ⟨reference (String.ofList literal) ref.key ref.filters outline, ?_, ?_⟩
    · rw [Regular, String.toList_ofList]
      refine ⟨clear, ends, ?_, regular⟩
      intro name mem
      rcases List.mem_cons.mp mem with rfl | mem
      · exact nameFits_of_trimsTo inner (infix_intercalate _ List.mem_cons_self)
          (noBar first List.mem_cons_self) isKey
      · rw [forall₂_trimsTo_iff.mp areFilters] at mem
        obtain ⟨piece, inside, rfl⟩ := List.mem_map.mp mem
        have behind : piece ∈ first :: others := List.mem_cons_of_mem _ inside
        refine nameFits_of_trimsTo inner (infix_intercalate _ behind) (noBar piece behind) ?_
        rw [String.toList_ofList]
        exact Text.trimsTo_trim piece
    · rw [List.map_cons, List.map_cons, parts]
      rfl

end Outline

/-! ## 7. Printing and parsing -/

/-- **Parsing undoes printing.**  A regular outline, printed with any blanks around its names,
parses and gives its segments back, if no reference ends in the brace that closes it.  And what
every template says is an outline, which is regular; printed with one space at either side of each
name it parses to a template that says the same, which is filled in alike from all variables. -/
theorem parse_printed :
    (∀ printed : Outline PaddedName, printed.names.Regular → printed.Closed →
      ∃ template, Template.parse printed.text = .ok template ∧
        template.segments = printed.segments 0) ∧
      ∀ source template, Template.parse source = .ok template →
        (∃ outline : Outline String, template.parts = outline.parts) ∧
          ∀ outline : Outline String, template.parts = outline.parts → outline.Regular ∧
            ∃ again, Template.parse outline.spaced.text = .ok again ∧
              again.parts = template.parts ∧ ∀ vars, again.apply vars = template.apply vars := by
  have reads : ∀ printed : Outline PaddedName, printed.names.Regular → printed.Closed →
      ∃ template, Template.parse printed.text = .ok template ∧
        template.segments = printed.segments 0 := by
    intro printed regular closed
    refine Layout.parses_iff_lays.mpr
      ⟨printed.layout, ⟨Outline.clean_layout regular closed, ?_⟩,
        Outline.describes_segments regular 0⟩
    rw [Outline.text, String.toList_ofList]
  refine ⟨reads, ?_⟩
  intro source template parsed
  obtain ⟨layout, ⟨clean, -⟩, describes⟩ := Layout.parses_iff_lays.mp ⟨template, parsed, rfl⟩
  obtain ⟨outline, regular, parts⟩ := Outline.regular_of_describes describes clean
  refine ⟨⟨outline, parts⟩, ?_⟩
  intro other parts'
  obtain rfl : outline = other := Outline.parts_injective (parts.symm.trans parts')
  have regular' : outline.spaced.names.Regular := by rwa [Outline.names_spaced]
  obtain ⟨again, read, segments⟩ := reads outline.spaced regular' (Outline.closed_spaced outline)
  have same : again.parts = template.parts := by
    rw [Template.parts, segments, Outline.map_part_segments, Outline.names_spaced, Template.parts,
      parts]
  exact ⟨regular, again, read, same, Template.apply_eq_of_parts_eq same⟩

/-- A reference with a wide blank before its key and a filter without a name, between braces. -/
def Outline.wide : Outline PaddedName :=
  .reference "é\x7d"
    ⟨['\u3000'], "posts", [], List.forall_mem_singleton.mpr rfl, List.forall_mem_nil _⟩
    [⟨[], "", [], List.forall_mem_nil _, List.forall_mem_nil _⟩] (.last "\x7b")

/-- It is read back, and it can be printed with single spaces. -/
theorem parse_printed_wide : ∃ template again,
    Template.parse "é\x7d\x7b\x7b\u3000posts|\x7d\x7d\x7b" = .ok template ∧
      template.segments = [.literal "é\x7d", .reference ⟨"posts", [""], ⟨3, 16⟩⟩, .literal "\x7b"] ∧
      Template.parse "é\x7d\x7b\x7b posts |  \x7d\x7d\x7b" = .ok again ∧
      ∀ vars, again.apply vars = template.apply vars := by
  have regular : Outline.wide.names.Regular := by
    refine ⟨breakPair_eq_none_iff.mp (by decide), by decide, ?_,
      breakPair_eq_none_iff.mp (by decide)⟩
    intro name mem
    rcases List.mem_pair.mp mem with rfl | rfl
    · exact ⟨by decide, by decide, breakPair_eq_none_iff.mp (by decide)⟩
    · exact ⟨by decide, by decide, breakPair_eq_none_iff.mp (by decide)⟩
  have closed : Outline.wide.Closed := ⟨by decide, trivial⟩
  obtain ⟨template, parsed, segments⟩ := parse_printed.1 Outline.wide regular closed
  have parts : template.parts = Outline.wide.names.parts := by
    rw [Template.parts, segments, Outline.map_part_segments]
  obtain ⟨-, again, read, -, alike⟩ :=
    (parse_printed.2 _ template parsed).2 Outline.wide.names parts
  exact ⟨template, again, parsed, segments, read, alike⟩

end SinglePage
