/-
# Templates one behind the other

When one template text is put behind another one, the last literal of the first runs on into the
first literal of the second, and nothing else changes but the places of the later references.  This
takes one condition only: no opening may arise where the texts meet.  A closing that arises there
does not matter, because no reference is open at the end of a template.

* `Layout.clean_append`: two clean layouts make a clean one, unless a brace stands on either side;
* `Layout.describes_append`: the segments of one layout run on into those of the other;
* `RunsOn.render`: so the text of both is the text of the first and then that of the second;
* `parse_append`: parsing and filling in are the same for two texts as for the two together.
-/
import SinglePage.Proofs.Template.Printing

namespace SinglePage

/-! ## 1. Layouts that are put together -/

namespace Layout

/-- **One layout behind another**: the last literal of the first one and the first literal of the
second one are one literal. -/
def append : Layout → Layout → Layout
  | last literal, last literal' => last (literal ++ literal')
  | last literal, reference literal' body rest => reference (literal ++ literal') body rest
  | reference literal body rest, behind => reference literal body (rest.append behind)

theorem text_append : ∀ a b : Layout, (a.append b).text = a.text ++ b.text
  | last literal, last literal' => rfl
  | last literal, reference literal' body rest => List.append_assoc _ _ _
  | reference literal body rest, behind => by
    simp only [append, text, text_append rest behind, List.append_assoc, List.cons_append]

/-- A literal that is run on into does not make an opening with what is behind both. -/
theorem getLast?_run_on {left right behind : List Char}
    (meet : left.getLast? ≠ some '{' ∨ (right ++ '{' :: behind).head? ≠ some '{')
    (ends : right.getLast? ≠ some '{') : (left ++ right).getLast? ≠ some '{' := by
  cases right with
  | nil =>
    rw [List.append_nil]
    exact meet.resolve_right (by simp)
  | cons c right =>
    rw [List.getLast?_append_of_ne_nil _ (by simp)]
    exact ends

/-- Whether two texts make an opening where they meet is seen at the last piece of the first. -/
theorem meet_rest {literal body text : List Char} {rest : Layout}
    (meet : (reference literal body rest).text.getLast? ≠ some '{' ∨ text.head? ≠ some '{') :
    rest.text.getLast? ≠ some '{' ∨ text.head? ≠ some '{' := by
  refine meet.imp_left fun notBrace ends => notBrace ?_
  rw [Layout.text]
  simp [List.getLast?_append, List.getLast?_cons, ends]

/-- **Two clean layouts make a clean one**, unless a brace stands on either side of the place where
they meet. -/
theorem clean_append : ∀ {a b : Layout}, a.Clean → b.Clean →
    (a.text.getLast? ≠ some '{' ∨ b.text.head? ≠ some '{') → (a.append b).Clean
  | last literal, last literal', clear, clear', meet => NoPair.append clear clear' meet
  | last literal, reference literal' body rest, clear, ⟨clear', ends', inner, innerEnds, clean⟩,
      meet => by
    refine ⟨?_, getLast?_run_on meet ends', inner, innerEnds, clean⟩
    refine NoPair.append clear clear' (meet.imp_right fun notBrace begins => notBrace ?_)
    rw [text, List.head?_append, begins]
    rfl
  | reference literal body rest, behind, ⟨clear, ends, inner, innerEnds, clean⟩, clean', meet =>
    ⟨clear, ends, inner, innerEnds, clean_append clean clean' (meet_rest meet)⟩

/-! ## 2. Their segments -/

end Layout

/-- The segment of a template with this number of bytes in front of it. -/
def Segment.shift (bytes : Nat) : Segment → Segment
  | .literal text => .literal text
  | .reference ref =>
    .reference { ref with span := ⟨bytes + ref.span.start, bytes + ref.span.stop⟩ }

/-- **Some segments run on into others**: the last literal of the first ones and the first literal
of the others are one literal of `whole`. -/
def RunsOn (front behind whole : List Segment) : Prop :=
  ∃ before left right after, front = before ++ [.literal left] ∧ behind = .literal right :: after ∧
    whole = before ++ .literal (left ++ right) :: after

namespace Layout

/-- The segments of a layout whose text begins later are shifted. -/
theorem describes_shift {layout : Layout} {offset : Nat} {segments : List Segment} (bytes : Nat)
    (describes : layout.Describes offset segments) :
    layout.Describes (bytes + offset) (segments.map (Segment.shift bytes)) := by
  induction describes with
  | last offset literal => exact .last _ literal
  | @reference offset start stop literal body rest ref segments starts stops spells spans _ ih =>
    have starts' : bytes + start = bytes + offset + Text.byteLength literal := by
      rw [starts, Nat.add_assoc]
    have stops' : bytes + stop = bytes + start + 2 + Text.byteLength body + 2 := by
      rw [stops]
      omega
    exact .reference starts' stops' spells (by rw [spans]) ih

/-- **The segments of one layout run on into those of the other.** -/
theorem describes_append {a b : Layout} {offset : Nat} {front behind : List Segment}
    (describes : a.Describes offset front)
    (describes' : b.Describes (offset + Text.byteLength a.text) behind) :
    ∃ whole, RunsOn front behind whole ∧ (a.append b).Describes offset whole := by
  induction describes with
  | last offset literal =>
    cases describes' with
    | last _ literal' =>
      refine ⟨_, ⟨[], _, _, [], rfl, rfl, rfl⟩, ?_⟩
      rw [← String.ofList_append]
      exact .last offset (literal ++ literal')
    | @reference _ start stop literal' body rest ref segments starts stops spells spans behind =>
      refine ⟨_, ⟨[], _, _, _, rfl, rfl, rfl⟩, ?_⟩
      have starts' : start = offset + Text.byteLength (literal ++ literal') := by
        rw [starts, text, Text.byteLength_append, Nat.add_assoc]
      rw [← String.ofList_append]
      exact .reference starts' stops spells spans behind
  | @reference offset start stop literal body rest ref segments starts stops spells spans _ ih =>
    have size : Text.byteLength (reference literal body rest).text =
        Text.byteLength literal + 2 + Text.byteLength body + 2 + Text.byteLength rest.text := by
      have braces := byteLength_braces body
      have cut : (reference literal body rest).text =
          literal ++ (('{' :: '{' :: (body ++ ['}', '}'])) ++ rest.text) := by
        simp [text]
      rw [cut, Text.byteLength_append, Text.byteLength_append, braces]
      omega
    have place : offset + Text.byteLength (reference literal body rest).text =
        stop + Text.byteLength rest.text := by
      rw [size, stops, starts]
      omega
    rw [place] at describes'
    obtain ⟨whole, ⟨before, left, right, after, rfl, eq, rfl⟩, describes''⟩ := ih describes'
    exact ⟨_, ⟨.literal (String.ofList literal) :: .reference ref :: before, left, right, after,
      rfl, eq, rfl⟩, .reference starts stops spells spans describes''⟩

/-- What is left open stays open behind another layout. -/
theorem leavesOpen_append {a b : Layout} {source : List Char} (clean : a.Clean)
    (leavesOpen : b.LeavesOpen source)
    (meet : a.text.getLast? ≠ some '{' ∨ source.head? ≠ some '{') :
    (a.append b).LeavesOpen (a.text ++ source) := by
  obtain ⟨clean', ends, behind, open_, rfl⟩ := leavesOpen
  have meet' : a.text.getLast? ≠ some '{' ∨ b.text.head? ≠ some '{' := by
    refine meet.imp_right fun notBrace begins => notBrace ?_
    rw [List.head?_append, begins]
    rfl
  refine ⟨clean_append clean clean' meet', ?_, behind, open_, ?_⟩
  · induction a with
    | last literal =>
      cases b with
      | last literal' => exact getLast?_run_on meet ends
      | reference literal' body rest => exact ends
    | reference literal body rest ih =>
      obtain ⟨-, -, -, -, clean⟩ := clean
      exact ih clean (meet_rest meet) (meet_rest meet')
  · rw [text_append, List.append_assoc]

end Layout

/-! ## 3. What they say -/

/-- Where a segment stands does not matter for what it is replaced by. -/
theorem Segment.renderIn_shift {V : Type} (scope : Scope V) (bytes : Nat) (segment : Segment) :
    (segment.shift bytes).renderIn scope = segment.renderIn scope := by
  cases segment <;> rfl

/-- The texts of some segments, one behind the other. -/
def renderAll {V : Type} (scope : Scope V) (segments : List Segment) : Except SiteError String :=
  String.join <$> segments.mapM (Segment.renderIn scope)

section Rendering

variable {V : Type} (scope : Scope V)

theorem renderAll_nil : renderAll scope [] = .ok "" := rfl

/-- The text of the first segment stands before that of the others, and its error counts first. -/
theorem renderAll_cons (segment : Segment) (segments : List Segment) :
    renderAll scope (segment :: segments) = (do
      let text ← segment.renderIn scope
      let text' ← renderAll scope segments
      return text ++ text') := by
  rw [renderAll, renderAll, List.mapM_cons]
  cases segment.renderIn scope with
  | error e => rfl
  | ok text =>
    cases segments.mapM (Segment.renderIn scope) with
    | error e => rfl
    | ok texts => exact congrArg Except.ok (String.join_cons ..)

theorem renderAll_literal (text : String) (segments : List Segment) :
    renderAll scope (.literal text :: segments) = (text ++ ·) <$> renderAll scope segments := by
  have literal : Segment.renderIn scope (.literal text) = .ok text := rfl
  rw [renderAll, renderAll, List.mapM_cons, literal]
  cases segments.mapM (Segment.renderIn scope) with
  | error e => rfl
  | ok texts => exact congrArg Except.ok (String.join_cons ..)

theorem renderAll_append (front behind : List Segment) :
    renderAll scope (front ++ behind) = (do
      let text ← renderAll scope front
      let text' ← renderAll scope behind
      return text ++ text') := by
  rw [renderAll, renderAll, renderAll, List.mapM_append]
  cases front.mapM (Segment.renderIn scope) with
  | error e => rfl
  | ok texts =>
    cases behind.mapM (Segment.renderIn scope) with
    | error e => rfl
    | ok texts' => exact congrArg Except.ok (String.join_append ..)

/-- **Segments that run on into others** are replaced by the text of the first ones and that of the
others behind it; the first error counts. -/
theorem RunsOn.render {front behind whole : List Segment} (runsOn : RunsOn front behind whole) :
    renderAll scope whole = (do
      let text ← renderAll scope front
      let text' ← renderAll scope behind
      return text ++ text') := by
  obtain ⟨before, left, right, after, rfl, rfl, rfl⟩ := runsOn
  simp only [renderAll_append, renderAll_literal, renderAll_nil]
  cases renderAll scope before with
  | error e => rfl
  | ok text =>
    cases renderAll scope after with
    | error e => rfl
    | ok text' =>
      have joined :
          text ++ (left ++ right ++ text') = text ++ (left ++ "") ++ (right ++ text') := by
        simp only [String.append_empty, String.append_assoc]
      exact congrArg Except.ok joined

end Rendering

/-! ## 4. Parsing and filling in -/

/-- The text that a template is replaced by is that of its segments. -/
theorem Template.applyWith_eq_renderAll (call : Call) (template : Template) (vars : Variables) :
    template.applyWith call vars = renderAll (Variables.scope call vars) template.segments :=
  rfl

/-- The text of some segments does not depend on where they stand. -/
theorem renderAll_shift {V : Type} (scope : Scope V) (bytes : Nat) (segments : List Segment) :
    renderAll scope (segments.map (Segment.shift bytes)) = renderAll scope segments := by
  rw [renderAll, List.mapM_map]
  exact congrArg (fun f => String.join <$> segments.mapM f)
    (funext (Segment.renderIn_shift scope bytes))

/-- **A template text behind another one is parsed and filled in as it is alone.**  Let the first
text parse, and let no brace stand on either side of the place where the texts meet.

* If the second text parses, so do both together: the last literal of the first runs on into the
  first literal of the second, and the references behind it stand further on by the bytes of the
  first.  From any variables, and whatever their filters do, the result is the text of the first
  and then that of the second, or the error of the first, or else that of the second.
* If the second text leaves a reference open, both together do so at the same place. -/
theorem parse_append {first second : String} {template : Template}
    (parsed : Template.parse first = .ok template)
    (meet : ¬(first.toList.getLast? = some '{' ∧ second.toList.head? = some '{')) :
    (∀ other, Template.parse second = .ok other →
      ∃ whole, Template.parse (first ++ second) = .ok whole ∧
        RunsOn template.segments (other.segments.map (Segment.shift first.utf8ByteSize))
          whole.segments ∧
        ∀ call vars, whole.applyWith call vars = (do
          let text ← template.applyWith call vars
          let text' ← other.applyWith call vars
          return text ++ text')) ∧
      ∀ offset, Template.parse second = .error (.unterminatedReference offset) →
        Template.parse (first ++ second) =
          .error (.unterminatedReference (first.utf8ByteSize + offset)) := by
  obtain ⟨layout, ⟨clean, text⟩, describes⟩ := Layout.parses_iff_lays.mp ⟨template, parsed, rfl⟩
  have meet' : layout.text.getLast? ≠ some '{' ∨ second.toList.head? ≠ some '{' := by
    rw [text]
    exact not_and_or.mp meet
  have size : first.utf8ByteSize = Text.byteLength layout.text := by
    rw [text, Text.byteLength_toList]
  constructor
  · intro other parsed'
    obtain ⟨behind, ⟨clean', text'⟩, describes'⟩ :=
      Layout.parses_iff_lays.mp ⟨other, parsed', rfl⟩
    have shifted := Layout.describes_shift first.utf8ByteSize describes'
    rw [Nat.add_zero, ← Nat.zero_add first.utf8ByteSize, size] at shifted
    obtain ⟨segments, runsOn, describesBoth⟩ := Layout.describes_append describes shifted
    have lays : (layout.append behind).Lays (first ++ second).toList := by
      refine ⟨Layout.clean_append clean clean' (by rwa [text']), ?_⟩
      rw [Layout.text_append, text, text', String.toList_append]
    obtain ⟨whole, parsedBoth, rfl⟩ := Layout.parses_iff_lays.mpr ⟨_, lays, describesBoth⟩
    refine ⟨whole, parsedBoth, ?_, ?_⟩
    · rwa [size, ← Nat.zero_add (Text.byteLength layout.text)]
    · intro call vars
      rw [Template.applyWith_eq_renderAll, runsOn.render, renderAll_shift]
      rfl
  · intro offset failed
    obtain ⟨behind, leavesOpen, rfl⟩ := Layout.parse_fails_iff_open.mp failed
    have both := Layout.leavesOpen_append clean leavesOpen meet'
    rw [text, ← String.toList_append] at both
    refine Layout.parse_fails_iff_open.mpr ⟨_, both, ?_⟩
    rw [Layout.text_append, Text.byteLength_append, size]

/-- A brace at the end of the first text does not open a reference with a closing brace behind it,
and what the next text leaves open is open behind both. -/
theorem parse_append_braces : ∃ template other whole,
    Template.parse "é\x7b\x7bx|f\x7d\x7d\x7b" = .ok template ∧
      Template.parse "\x7d\x7b\x7b y \x7d\x7d" = .ok other ∧
      Template.parse ("é\x7b\x7bx|f\x7d\x7d\x7b" ++ "\x7d\x7b\x7b y \x7d\x7d") = .ok whole ∧
      RunsOn template.segments (other.segments.map (Segment.shift 10)) whole.segments ∧
      Template.parse ("é\x7b\x7bx|f\x7d\x7d\x7b" ++ "ü\x7b\x7b z") =
        .error (.unterminatedReference 12) := by
  have clean : Layout.Clean (.reference ['é'] ['x', '|', 'f'] (.last ['{'])) :=
    ⟨breakPair_eq_none_iff.mp (by decide), by decide, breakPair_eq_none_iff.mp (by decide),
      by decide, breakPair_eq_none_iff.mp (by decide)⟩
  have clean' : Layout.Clean (.reference ['}'] [' ', 'y', ' '] (.last [])) :=
    ⟨breakPair_eq_none_iff.mp (by decide), by decide, breakPair_eq_none_iff.mp (by decide),
      by decide, breakPair_eq_none_iff.mp (by decide)⟩
  have open_ : Layout.LeavesOpen (.last ['ü']) "ü\x7b\x7b z".toList :=
    ⟨breakPair_eq_none_iff.mp (by decide), by decide, [' ', 'z'],
      breakPair_eq_none_iff.mp (by decide), by decide⟩
  obtain ⟨segments, describes, -⟩ := Layout.segmentsFrom_text 0 clean
  obtain ⟨segments', describes', -⟩ := Layout.segmentsFrom_text 0 clean'
  obtain ⟨template, parsed, rfl⟩ :=
    (@Layout.parses_iff_lays "é\x7b\x7bx|f\x7d\x7d\x7b" segments).mpr
      ⟨_, ⟨clean, by decide⟩, describes⟩
  obtain ⟨other, parsed', rfl⟩ :=
    (@Layout.parses_iff_lays "\x7d\x7b\x7b y \x7d\x7d" segments').mpr
      ⟨_, ⟨clean', by decide⟩, describes'⟩
  have failed : Template.parse "ü\x7b\x7b z" = .error (.unterminatedReference 2) :=
    Layout.parse_fails_iff_open.mpr ⟨_, open_, by decide⟩
  obtain ⟨whole, parsedBoth, runsOn, -⟩ := (parse_append parsed (by decide)).1 other parsed'
  exact ⟨template, other, whole, parsed, parsed', parsedBoth, runsOn,
    (parse_append parsed (by decide)).2 2 failed⟩

end SinglePage
