/-
# The grammar of templates, and that it can be read in one way only

A template text is laid out as literals with references between them.  `Layout` is that
structure, without regard to how it is found: `Layout.text` writes it down, `Layout.Clean` says
where the braces must not stand, and `Layout.Describes` says which segments it has.  What stands
between the braces of a reference is described by `Reference.Spells`: pieces between bars, each
with blanks around it.

* `segmentsFrom_text`: a clean layout is read back from its text;
* `laidOut_or_open`: every other text opens a reference behind a clean layout and never closes it;
* `Clean.eq_of_text_eq`: no text has two clean layouts;
* `parses_iff_lays`, `parse_fails_iff_open`: a text parses when it is laid out, and fails otherwise;
* `parse_iff_layout`: so parsing accepts exactly the texts of clean layouts, with their segments.
-/
import Mathlib.Data.List.Forall2
import Mathlib.Data.Set.Subsingleton
import SinglePage.Proofs.Text.Pieces
import SinglePage.Template.Parser

namespace SinglePage

/-! ## 1. What stands between the braces -/

/-- `core` is `text` without the blanks at its two ends. -/
def Text.TrimsTo (text core : List Char) : Prop :=
  (∃ before after, text = before ++ (core ++ after) ∧ (∀ c ∈ before, isBlank c = true) ∧
    ∀ c ∈ after, isBlank c = true) ∧
    (∀ c ∈ core.head?, isBlank c = false) ∧ ∀ c ∈ core.getLast?, isBlank c = false

/-- A text is what trimming removes, around what it leaves. -/
theorem Text.trimsTo_trim (text : List Char) : TrimsTo text (trim text) := by
  refine ⟨?_, head?_trim text, getLast?_trim text⟩
  have front := List.takeWhile_append_dropWhile (p := isBlank) (l := text)
  have back := List.takeWhile_append_dropWhile (p := isBlank)
    (l := (text.dropWhile isBlank).reverse)
  have whole : text.dropWhile isBlank =
      trim text ++ ((text.dropWhile isBlank).reverse.takeWhile isBlank).reverse := by
    have := congrArg List.reverse back
    rw [List.reverse_append, List.reverse_reverse] at this
    exact this.symm
  refine ⟨text.takeWhile isBlank,
    ((text.dropWhile isBlank).reverse.takeWhile isBlank).reverse, ?_, ?_, ?_⟩
  · rw [← whole, front]
  · exact fun c mem => List.all_eq_true.mp List.all_takeWhile c mem
  · exact fun c mem => List.all_eq_true.mp List.all_takeWhile c (List.mem_reverse.mp mem)

/-- Nothing else is left when the blanks at the ends are taken away. -/
theorem Text.trimsTo_iff {text core : List Char} : TrimsTo text core ↔ core = trim text := by
  constructor
  · rintro ⟨⟨before, after, rfl, blank, blank'⟩, first, last⟩
    rw [trim_blank_append blank, trim_append_blank _ blank', trim_eq_self first last]
  · rintro rfl
    exact trimsTo_trim text

/-- **What stands between the braces of a reference**: pieces with bars between them.  Trimmed,
the first piece is the key and the others are the filters, one for each bar. -/
def Reference.Spells (reference : Reference) (body : List Char) : Prop :=
  ∃ first rest, body = ['|'].intercalate (first :: rest) ∧ (∀ piece ∈ first :: rest, '|' ∉ piece) ∧
    Text.TrimsTo first reference.key.toList ∧
      List.Forall₂ (fun piece filter => Text.TrimsTo piece filter.toList) rest reference.filters

theorem forall₂_trimsTo_iff {pieces : List (List Char)} {filters : List String} :
    List.Forall₂ (fun piece filter => Text.TrimsTo piece filter.toList) pieces filters ↔
      filters = pieces.map fun piece => String.ofList (Text.trim piece) := by
  constructor
  · intro all
    induction all with
    | nil => rfl
    | cons head _ ih =>
      rw [List.map_cons, ← ih, ← Text.trimsTo_iff.mp head, String.ofList_toList]
  · rintro rfl
    induction pieces with
    | nil => exact .nil
    | cons piece pieces ih =>
      refine .cons ?_ ih
      rw [String.toList_ofList]
      exact Text.trimsTo_trim piece

/-- **A body spells one reference only.** -/
theorem Reference.spells_iff {reference : Reference} {body : List Char} :
    reference.Spells body ↔ reference = .ofBody body reference.span := by
  obtain ⟨key, filters, span⟩ := reference
  constructor
  · rintro ⟨first, rest, rfl, clear, isKey, areFilters⟩
    have cut : (['|'].intercalate (first :: rest)).splitOn '|' = first :: rest :=
      List.splitOn_intercalate '|' clear (by simp)
    obtain rfl : filters = _ := forall₂_trimsTo_iff.mp areFilters
    have isKey : key.toList = Text.trim first := Text.trimsTo_iff.mp isKey
    simp only [ofBody, cut, List.map_cons, List.headD_cons, List.tail_cons]
    rw [← isKey, String.ofList_toList]
  · intro eq
    cases pieces : body.splitOn '|' with
    | nil => exact absurd pieces (List.splitOn_ne_nil '|' body)
    | cons first rest =>
      simp only [ofBody, pieces, List.map_cons, List.headD_cons, List.tail_cons] at eq
      obtain ⟨rfl, rfl, -⟩ := Reference.mk.inj eq
      refine ⟨first, rest, ?_, ?_, ?_, forall₂_trimsTo_iff.mpr rfl⟩
      · rw [← pieces, List.intercalate_splitOn]
      · rw [← pieces]
        exact fun piece => not_mem_of_mem_splitOn
      · rw [String.toList_ofList]
        exact Text.trimsTo_trim first

/-! ## 2. Layouts -/

/-- **How a template text is laid out**: a literal and the body of a reference in front of the
rest, or a literal that comes last. -/
inductive Layout where
  | last (literal : List Char)
  | reference (literal body : List Char) (rest : Layout)

namespace Layout

/-- The text that is laid out in this way. -/
def text : Layout → List Char
  | last literal => literal
  | reference literal body rest => literal ++ '{' :: '{' :: (body ++ '}' :: '}' :: rest.text)

/-- **The braces stand where they can be found**: no literal holds an opening, or would make one
with the opening behind it, and likewise for bodies and their closings. -/
def Clean : Layout → Prop
  | last literal => NoPair '{' literal
  | reference literal body rest =>
    NoPair '{' literal ∧ literal.getLast? ≠ some '{' ∧ NoPair '}' body ∧ body.getLast? ≠ some '}' ∧
      rest.Clean

/-- **The segments of a layout** whose text begins at byte `offset` of the template. -/
inductive Describes : Nat → Layout → List Segment → Prop
  | last (offset : Nat) (literal : List Char) :
    Describes offset (last literal) [.literal (String.ofList literal)]
  | reference {offset start stop : Nat} {literal body : List Char} {rest : Layout}
      {ref : Reference} {segments : List Segment}
      (starts : start = offset + Text.byteLength literal)
      (stops : stop = start + 2 + Text.byteLength body + 2) (spells : ref.Spells body)
      (spans : ref.span = ⟨start, stop⟩) (behind : Describes stop rest segments) :
    Describes offset (.reference literal body rest)
      (.literal (String.ofList literal) :: .reference ref :: segments)

/-- The text is that of a clean layout. -/
def Lays (layout : Layout) (source : List Char) : Prop := layout.Clean ∧ layout.text = source

/-! ## 3. Reading a layout -/

/-- **A clean layout is read back from its text.** -/
theorem segmentsFrom_text (offset : Nat) : ∀ {layout : Layout}, layout.Clean →
    ∃ segments, layout.Describes offset segments ∧ segmentsFrom offset layout.text = .ok segments
  | .last literal, clean => ⟨_, .last offset literal, segmentsFrom_literal clean⟩
  | .reference literal body rest, ⟨clear, end_, clear', end', clean⟩ => by
    let start := offset + Text.byteLength literal
    let stop := start + 2 + Text.byteLength body + 2
    obtain ⟨segments, describes, read⟩ := segmentsFrom_text stop clean
    have spells : (Reference.ofBody body ⟨start, stop⟩).Spells body :=
      Reference.spells_iff.mpr rfl
    refine ⟨_, .reference rfl rfl spells rfl describes, ?_⟩
    rw [text, segmentsFrom_reference clear end_ clear' end', read]
    rfl

/-- A layout has one list of segments only. -/
theorem Describes.unique {layout : Layout} {offset : Nat} {segments others : List Segment}
    (describes : layout.Describes offset segments) (describes' : layout.Describes offset others) :
    segments = others := by
  induction describes generalizing others with
  | last =>
    cases describes'
    rfl
  | @reference offset start stop literal body rest ref segments starts stops spells spans _ ih =>
    cases describes' with
    | @reference _ start' stop' _ _ _ ref' _ starts' stops' spells' spans' behind' =>
      obtain rfl := starts.trans starts'.symm
      obtain rfl := stops.trans stops'.symm
      have same : ref = ref' := by
        rw [Reference.spells_iff.mp spells, Reference.spells_iff.mp spells', spans, spans']
      rw [same, ih behind']

/-! ## 4. Every text is laid out, or left open -/

/-- The literal that comes last. -/
def ending : Layout → List Char
  | last literal => literal
  | reference _ _ rest => rest.ending

/-- **The text opens a reference that it never closes**: what stands before the opening is laid
out, and no closing stands behind it. -/
def LeavesOpen (layout : Layout) (source : List Char) : Prop :=
  layout.Clean ∧ layout.ending.getLast? ≠ some '{' ∧
    ∃ behind, NoPair '}' behind ∧ source = layout.text ++ '{' :: '{' :: behind

/-- Text whose first opening is never closed. -/
theorem segmentsFrom_opening {offset : Nat} {literal behind : List Char}
    (clear : NoPair '{' literal) (end_ : literal.getLast? ≠ some '{') (open_ : NoPair '}' behind) :
    segmentsFrom offset (literal ++ '{' :: '{' :: behind) =
      .error (.unterminatedReference (offset + Text.byteLength literal)) := by
  have opening := breakPair_eq_some_iff.mpr
    ⟨(rfl : literal ++ '{' :: '{' :: behind = _), clear, end_⟩
  rw [segmentsFrom.eq_def]
  split
  · rename_i none
    rw [opening] at none
    exact absurd none (by simp)
  · rename_i literal' behind' opening'
    rw [opening] at opening'
    obtain ⟨rfl, rfl⟩ := Prod.mk.inj (Option.some.inj opening')
    split
    · rfl
    · rename_i closing
      rw [breakPair_eq_none_iff.mpr open_] at closing
      exact absurd closing (by simp)

/-- The error of a text that leaves a reference open tells where it opens. -/
theorem segmentsFrom_open (offset : Nat) : ∀ {layout : Layout} {source : List Char},
    layout.LeavesOpen source → segmentsFrom offset source =
      .error (.unterminatedReference (offset + Text.byteLength layout.text))
  | .last literal, _, ⟨clean, end_, behind, open_, eq⟩ => by
    subst eq
    exact segmentsFrom_opening clean end_ open_
  | .reference literal body rest, _,
      ⟨⟨clear, end_, clear', end', clean⟩, atEnd, behind, open_, eq⟩ => by
    subst eq
    have leavesOpen : rest.LeavesOpen (rest.text ++ '{' :: '{' :: behind) :=
      ⟨clean, atEnd, behind, open_, rfl⟩
    have read := segmentsFrom_open
      (offset + Text.byteLength literal + 2 + Text.byteLength body + 2) leavesOpen
    simp only [text, List.append_assoc, List.cons_append]
    rw [segmentsFrom_reference clear end_ clear' end', read]
    simp only [Except.map, Text.byteLength_append, Text.byteLength_cons]
    have braces : '{'.utf8Size = 1 ∧ '}'.utf8Size = 1 := by decide
    rw [braces.1, braces.2]
    congr 2
    omega

/-- **Every text is laid out, or leaves a reference open.** -/
theorem laidOut_or_open (source : List Char) :
    (∃ layout : Layout, layout.Lays source) ∨ ∃ layout : Layout, layout.LeavesOpen source := by
  cases opening : breakPair '{' source with
  | none => exact .inl ⟨last source, breakPair_eq_none_iff.mp opening, rfl⟩
  | some cut =>
    obtain ⟨literal, opened⟩ := cut
    obtain ⟨whole, clear, end_⟩ := breakPair_eq_some_iff.mp opening
    cases closing : breakPair '}' opened with
    | none =>
      exact .inr ⟨last literal, clear, end_, opened, breakPair_eq_none_iff.mp closing, whole⟩
    | some cut' =>
      obtain ⟨body, rest⟩ := cut'
      obtain ⟨whole', clear', end'⟩ := breakPair_eq_some_iff.mp closing
      have shorter : rest.length < source.length := by
        have := length_of_breakPair opening
        have := length_of_breakPair closing
        omega
      rcases laidOut_or_open rest with
        ⟨layout, clean, text⟩ | ⟨layout, clean, atEnd, behind, open_, text⟩
      · refine .inl ⟨reference literal body layout, ⟨clear, end_, clear', end', clean⟩, ?_⟩
        rw [Layout.text, text, whole, whole']
      · refine .inr ⟨reference literal body layout, ⟨clear, end_, clear', end', clean⟩, atEnd,
          behind, open_, ?_⟩
        rw [Layout.text, whole, whole', text]
        simp
termination_by source.length

/-! ## 5. No text is laid out twice -/

/-- **No text has two clean layouts.** -/
theorem Clean.eq_of_text_eq : ∀ {a b : Layout}, a.Clean → b.Clean → a.text = b.text → a = b
  | .last literal, .last other, _, _, same => congrArg last same
  | .last literal, .reference other body rest, clear, _, same => absurd same (clear _ _)
  | .reference literal body rest, .last other, _, clear, same => absurd same.symm (clear _ _)
  | .reference literal body rest, .reference literal' body' rest',
      ⟨clear, end_, inner, innerEnd, clean⟩, ⟨clear', end', inner', innerEnd', clean'⟩,
      same => by
    have opening := breakPair_eq_some_iff.mpr
      ⟨(rfl : (reference literal body rest).text = _), clear, end_⟩
    rw [same, breakPair_eq_some_iff.mpr
      ⟨(rfl : (reference literal' body' rest').text = _), clear', end'⟩] at opening
    obtain ⟨rfl, opened⟩ := Prod.mk.inj (Option.some.inj opening)
    have closing := breakPair_eq_some_iff.mpr
      ⟨(rfl : body ++ '}' :: '}' :: rest.text = _), inner, innerEnd⟩
    rw [← opened, breakPair_eq_some_iff.mpr
      ⟨(rfl : body' ++ '}' :: '}' :: rest'.text = _), inner', innerEnd'⟩] at closing
    obtain ⟨rfl, behind⟩ := Prod.mk.inj (Option.some.inj closing)
    rw [Clean.eq_of_text_eq clean clean' behind.symm]

/-! ## 6. Parsing -/

/-- What parsing a template gives is what its segments give. -/
theorem parse_eq_ok_iff {source : String} {segments : List Segment} :
    (∃ template, Template.parse source = .ok template ∧ template.segments = segments) ↔
      segmentsOf source = .ok segments := by
  constructor
  · rintro ⟨template, parsed, rfl⟩
    rw [← Template.source_of_parse parsed, template.parsed]
  · intro read
    exact ⟨⟨source, segments, read⟩, Template.parse_source ⟨source, segments, read⟩, rfl⟩

/-- Parsing fails as reading the segments fails. -/
theorem parse_eq_error_iff {source : String} {error : SiteError} :
    Template.parse source = .error error ↔ segmentsOf source = .error error := by
  unfold Template.parse
  split
  · rename_i read
    simp [read]
  · rename_i read
    simp [read]

/-- A clean layout is read back from its text, as the segments of this text. -/
theorem Lays.read {layout : Layout} {source : String} (lays : layout.Lays source.toList) :
    ∃ segments, layout.Describes 0 segments ∧ segmentsOf source = .ok segments := by
  obtain ⟨clean, text⟩ := lays
  unfold segmentsOf
  rw [← text]
  exact segmentsFrom_text 0 clean

/-- **A text parses exactly when it has a clean layout**, to the segments of this layout. -/
theorem parses_iff_lays {source : String} {segments : List Segment} :
    (∃ template, Template.parse source = .ok template ∧ template.segments = segments) ↔
      ∃ layout : Layout, layout.Lays source.toList ∧ layout.Describes 0 segments := by
  rw [parse_eq_ok_iff]
  constructor
  · intro read
    rcases laidOut_or_open source.toList with ⟨layout, lays⟩ | ⟨layout, leavesOpen⟩
    · obtain ⟨segments', describes, read'⟩ := lays.read
      obtain rfl : segments' = segments := Except.ok.inj (read'.symm.trans read)
      exact ⟨layout, lays, describes⟩
    · have failed : segmentsOf source = _ := segmentsFrom_open 0 leavesOpen
      rw [failed] at read
      exact absurd read (by simp)
  · rintro ⟨layout, lays, describes⟩
    obtain ⟨segments', describes', read⟩ := lays.read
    rw [read, describes.unique describes']

/-- **A text does not parse exactly when it leaves a reference open**, which the error tells the
place of. -/
theorem parse_fails_iff_open {source : String} {offset : Nat} :
    Template.parse source = .error (.unterminatedReference offset) ↔
      ∃ layout : Layout, layout.LeavesOpen source.toList ∧
        offset = Text.byteLength layout.text := by
  have failed : ∀ layout : Layout, layout.LeavesOpen source.toList → segmentsOf source =
      .error (.unterminatedReference (Text.byteLength layout.text)) := by
    intro layout leavesOpen
    have read := segmentsFrom_open 0 leavesOpen
    rwa [Nat.zero_add] at read
  rw [parse_eq_error_iff]
  constructor
  · intro refused
    rcases laidOut_or_open source.toList with ⟨layout, lays⟩ | ⟨layout, leavesOpen⟩
    · obtain ⟨segments, -, read⟩ := lays.read
      rw [refused] at read
      exact absurd read (by simp)
    · rw [failed layout leavesOpen] at refused
      have place := SiteError.unterminatedReference.inj (Except.error.inj refused)
      exact ⟨layout, leavesOpen, place.symm⟩
  · rintro ⟨layout, leavesOpen, rfl⟩
    exact failed layout leavesOpen

/-- Every text parses, or is refused because a reference is left open. -/
theorem parse_cases (source : String) : (∃ template, Template.parse source = .ok template) ∨
    ∃ offset, Template.parse source = .error (.unterminatedReference offset) := by
  rcases laidOut_or_open source.toList with ⟨layout, lays⟩ | ⟨layout, leavesOpen⟩
  · obtain ⟨segments, describes, -⟩ := lays.read
    obtain ⟨template, parsed, -⟩ := parses_iff_lays.mpr ⟨layout, lays, describes⟩
    exact .inl ⟨template, parsed⟩
  · exact .inr ⟨_, parse_fails_iff_open.mpr ⟨layout, leavesOpen, rfl⟩⟩

/-- A text that does not parse leaves a reference open; there is no other way to fail. -/
theorem unterminated_of_parse {source : String} {e : SiteError}
    (refused : Template.parse source = .error e) : ∃ offset, e = .unterminatedReference offset := by
  rcases parse_cases source with ⟨template, parsed⟩ | ⟨offset, unterminated⟩
  · rw [parsed] at refused
    exact absurd refused (by simp)
  · exact ⟨offset, Except.error.inj (refused.symm.trans unterminated)⟩

/-- **Parsing accepts exactly the texts of clean layouts**, each with the segments of its layout;
no text has two of them, and one that has none is refused because a reference is left open. -/
theorem parse_iff_layout (source : String) (segments : List Segment) :
    ((∃ template, Template.parse source = .ok template ∧ template.segments = segments) ↔
        ∃ layout : Layout, layout.Lays source.toList ∧ layout.Describes 0 segments) ∧
      {layout : Layout | layout.Lays source.toList}.Subsingleton ∧
      ((∃ offset, Template.parse source = .error (.unterminatedReference offset)) ↔
        ¬ ∃ layout : Layout, layout.Lays source.toList) := by
  refine ⟨parses_iff_lays, ?_, ?_⟩
  · rintro a ⟨clean, text⟩ b ⟨clean', text'⟩
    exact clean.eq_of_text_eq clean' (text.trans text'.symm)
  · constructor
    · rintro ⟨offset, failed⟩ ⟨layout, lays⟩
      obtain ⟨segments', -, read⟩ := lays.read
      rw [parse_eq_error_iff, read] at failed
      exact absurd failed (by simp)
    · intro none
      rcases laidOut_or_open source.toList with laid | ⟨layout, leavesOpen⟩
      · exact absurd laid none
      · exact ⟨_, parse_fails_iff_open.mpr ⟨layout, leavesOpen, rfl⟩⟩

end Layout

end SinglePage
