/-
# Templates that are cut short

A template text that is cut short is a template again, unless the cut falls into a reference: behind
its opening, and before its closing is complete.  One brace of an opening belongs to the literal
before it when the other one is cut off, and one brace of a closing does not close anything.

* `Layout.cut_places`: a cut falls into the first literal, into the first reference, or behind it;
* `Layout.CutsBetween`, `Layout.CutsInto`: what a cut leaves, between the references and inside of one;
* `Layout.cutsBetween_or_cutsInto`: a cut of a clean layout leaves the one or the other;
* `Template.sourceText_concat`: the last literal is what the other segments leave of the text;
* `parse_cut_short`: so a template that is cut short fails exactly inside of its references.
-/
import SinglePage.Proofs.Template.Printing

namespace SinglePage

/-! ## 1. The segments before a cut -/

/-- **A text that ends at this byte ends inside of the reference**: the opening is complete, and the
closing is not. -/
def Span.OpenAt (span : Span) (bytes : Nat) : Prop :=
  span.start + 2 ≤ bytes ∧ bytes < span.stop

/-- **The segments up to the last reference that ends within this many bytes**, each reference with the
literal before it. -/
def segmentsUpTo (bytes : Nat) : List Segment → List Segment
  | .literal text :: .reference ref :: rest =>
    if ref.span.stop ≤ bytes then .literal text :: .reference ref :: segmentsUpTo bytes rest
    else []
  | _ => []

section UpTo

variable {bytes : Nat} {text : String} {ref : Reference} {rest : List Segment}

theorem segmentsUpTo_of_le (ends : ref.span.stop ≤ bytes) :
    segmentsUpTo bytes (.literal text :: .reference ref :: rest) =
      .literal text :: .reference ref :: segmentsUpTo bytes rest := by
  rw [segmentsUpTo, if_pos ends]

theorem segmentsUpTo_of_lt (cut : bytes < ref.span.stop) :
    segmentsUpTo bytes (.literal text :: .reference ref :: rest) = [] := by
  rw [segmentsUpTo, if_neg (Nat.not_le.mpr cut)]

theorem mem_literal_reference_iff {other : Reference} :
    Segment.reference other ∈ Segment.literal text :: .reference ref :: rest ↔
      other = ref ∨ .reference other ∈ rest := by
  simp

end UpTo

namespace Layout

section Describes

variable {layout : Layout} {offset bytes : Nat} {segments : List Segment} {ref : Reference}

/-- A reference takes at least its braces, and stands where the layout begins or later. -/
theorem Describes.place (describes : layout.Describes offset segments)
    (mem : .reference ref ∈ segments) :
    offset ≤ ref.span.start ∧ ref.span.start + 4 ≤ ref.span.stop := by
  induction describes with
  | last => simp at mem
  | @reference offset start stop literal body rest first segments starts stops _ spans _ ih =>
    rcases mem_literal_reference_iff.mp mem with rfl | mem
    · simp only [spans]
      omega
    · have := ih mem
      omega

/-- **The references up to a cut are those that end before it.** -/
theorem Describes.mem_segmentsUpTo_iff (describes : layout.Describes offset segments) :
    .reference ref ∈ segmentsUpTo bytes segments ↔
      .reference ref ∈ segments ∧ ref.span.stop ≤ bytes := by
  induction describes with
  | last => simp [segmentsUpTo]
  | @reference offset start stop literal body rest first segments starts stops _ spans behind ih =>
    by_cases ends : first.span.stop ≤ bytes
    · rw [segmentsUpTo_of_le ends, mem_literal_reference_iff, mem_literal_reference_iff, ih]
      constructor
      · rintro (rfl | ⟨mem, le⟩)
        · exact ⟨.inl rfl, ends⟩
        · exact ⟨.inr mem, le⟩
      · rintro ⟨rfl | mem, le⟩
        · exact .inl rfl
        · exact .inr ⟨mem, le⟩
    · -- the references behind the first one end later still
      rw [segmentsUpTo_of_lt (Nat.not_le.mp ends), mem_literal_reference_iff]
      refine ⟨fun mem => absurd mem (by simp), ?_⟩
      rintro ⟨rfl | mem, le⟩
      · exact absurd le ends
      · have := behind.place mem
        simp only [spans] at ends
        omega

end Describes

/-! ## 2. Where a cut falls -/

/-- **The three places where a cut can fall**: into the first literal, to which a single brace behind it
belongs; into the first reference, whose body a single brace behind it belongs to; or behind this
reference. -/
theorem cut_places {literal body front back : List Char} {rest : Layout}
    (whole : (reference literal body rest).text = front ++ back) :
    front <+: literal ++ ['{'] ∨
      (∃ behind, behind <+: body ++ ['}'] ∧ front = literal ++ '{' :: '{' :: behind) ∨
      ∃ front', front = literal ++ '{' :: '{' :: (body ++ '}' :: '}' :: front') ∧
        rest.text = front' ++ back := by
  have atOpening : front ++ back =
      (literal ++ ['{']) ++ '{' :: (body ++ '}' :: '}' :: rest.text) := by
    rw [← whole, text]
    simp
  rcases List.append_eq_append_iff.mp atOpening with
    ⟨missing, inside, -⟩ | ⟨_ | ⟨c, opened⟩, complete, behind⟩
  · exact .inl ⟨missing, inside.symm⟩
  · exact .inl ⟨[], by rw [complete, List.append_nil, List.append_nil]⟩
  · obtain ⟨rfl, behindOpening⟩ := List.cons.inj behind
    have opens : front = literal ++ '{' :: '{' :: opened := by
      rw [complete, List.append_assoc, List.singleton_append]
    have atClosing : opened ++ back = (body ++ ['}']) ++ '}' :: rest.text := by
      rw [List.append_assoc, List.singleton_append]
      exact behindOpening.symm
    rcases List.append_eq_append_iff.mp atClosing with
      ⟨missing, inside, -⟩ | ⟨_ | ⟨c, front'⟩, complete', behind'⟩
    · exact .inr (.inl ⟨opened, ⟨missing, inside.symm⟩, opens⟩)
    · exact .inr (.inl ⟨opened, ⟨[], by rw [complete', List.append_nil, List.append_nil]⟩, opens⟩)
    · obtain ⟨rfl, behindClosing⟩ := List.cons.inj behind'
      refine .inr (.inr ⟨front', ?_, behindClosing⟩)
      rw [opens, complete', List.append_assoc, List.singleton_append]

/-- No pair arises where a text is cut off, and a single character behind it makes none either. -/
theorem noPair_of_cut {c : Char} {text front : List Char} (clear : NoPair c text)
    (ends : text.getLast? ≠ some c) (inside : front <+: text ++ [c]) : NoPair c front := by
  have alone : NoPair c [c] := breakPair_eq_none_iff.mp rfl
  exact NoPair.infix (clear.append alone (.inl ends)) inside.isInfix

/-- A text that ends at most one brace behind another one has at most one byte more. -/
theorem byteLength_le_of_cut {c : Char} (size : c.utf8Size = 1) {text front : List Char}
    (inside : front <+: text ++ [c]) : Text.byteLength front ≤ Text.byteLength text + 1 := by
  obtain ⟨missing, eq⟩ := inside
  have same := congrArg Text.byteLength eq
  simp only [Text.byteLength_append, Text.byteLength_cons, Text.byteLength_nil, size] at same
  omega

/-! ## 3. What a cut leaves -/

/-- **A cut between the references**: none of them is cut, and what stands before it is laid out, by the
segments up to there and one more literal. -/
structure CutsBetween (offset : Nat) (segments : List Segment) (front : List Char) : Prop where
  closed : ∀ ref, .reference ref ∈ segments → ¬ ref.span.OpenAt (offset + Text.byteLength front)
  laidOut : ∃ (shorter : Layout) (tail : String), shorter.Lays front ∧ shorter.Describes offset
    (segmentsUpTo (offset + Text.byteLength front) segments ++ [.literal tail])

/-- **A cut into a reference**: what stands before it leaves open the one reference that is cut. -/
structure CutsInto (offset : Nat) (segments : List Segment) (front : List Char) : Prop where
  cut : ∃ ref, .reference ref ∈ segments ∧ ref.span.OpenAt (offset + Text.byteLength front)
  opens : ∃ opened : Layout, opened.LeavesOpen front ∧
    ∀ ref, .reference ref ∈ segments → ref.span.OpenAt (offset + Text.byteLength front) →
      ref.span.start = offset + Text.byteLength opened.text

theorem cutsBetween_last {offset : Nat} {literal front : List Char} (clear : NoPair '{' literal)
    (inside : front <+: literal) : CutsBetween offset [.literal (String.ofList literal)] front where
  closed := by simp
  laidOut := by
    have inner := NoPair.infix clear inside.isInfix
    exact ⟨.last front, _, ⟨inner, rfl⟩, .last offset front⟩

/-- **A clean layout begins with this literal and this reference**, the literal at byte `offset`. -/
structure Begins (offset : Nat) (literal body : List Char) (ref : Reference) : Prop where
  starts : ref.span.start = offset + Text.byteLength literal
  stops : ref.span.stop = ref.span.start + 2 + Text.byteLength body + 2
  spells : ref.Spells body
  clear : NoPair '{' literal
  ends : literal.getLast? ≠ some '{'
  inner : NoPair '}' body
  innerEnds : body.getLast? ≠ some '}'

section First

variable {offset : Nat} {literal body front : List Char} {rest : Layout} {first ref : Reference}
  {segments : List Segment}

theorem Begins.clean (begins : Begins offset literal body first) (clean : rest.Clean) :
    (reference literal body rest).Clean :=
  ⟨begins.clear, begins.ends, begins.inner, begins.innerEnds, clean⟩

theorem Begins.describes (begins : Begins offset literal body first)
    (behind : rest.Describes first.span.stop segments) :
    (reference literal body rest).Describes offset
      (.literal (String.ofList literal) :: .reference first :: segments) :=
  .reference begins.starts begins.stops begins.spells rfl behind

/-- The bytes up to some place in the body of the first reference. -/
theorem Begins.bytes_opened (begins : Begins offset literal body first) (opened : List Char) :
    offset + Text.byteLength (literal ++ '{' :: '{' :: opened) =
      first.span.start + 2 + Text.byteLength opened := by
  have size : '{'.utf8Size = 1 := by decide
  rw [begins.starts]
  simp only [Text.byteLength_append, Text.byteLength_cons, size]
  omega

/-- The bytes up to some place behind the first reference. -/
theorem Begins.bytes_behind (begins : Begins offset literal body first) (front : List Char) :
    offset + Text.byteLength (literal ++ '{' :: '{' :: (body ++ '}' :: '}' :: front)) =
      first.span.stop + Text.byteLength front := by
  have size : '}'.utf8Size = 1 := by decide
  rw [begins.bytes_opened, begins.stops]
  simp only [Text.byteLength_append, Text.byteLength_cons, size]
  omega

/-- A cut in front of the end of a reference does not touch the references behind it. -/
theorem Describes.not_openAt {stop bytes : Nat} (behind : rest.Describes stop segments)
    (mem : .reference ref ∈ segments) (before : bytes < stop) : ¬ ref.span.OpenAt bytes := by
  rintro ⟨opens, -⟩
  have := behind.place mem
  omega

/-- A cut into the first literal. -/
theorem Begins.cutsBetween (begins : Begins offset literal body first)
    (behind : rest.Describes first.span.stop segments) (inside : front <+: literal ++ ['{']) :
    CutsBetween offset (.literal (String.ofList literal) :: .reference first :: segments) front := by
  have short := byteLength_le_of_cut (by decide) inside
  have starts := begins.starts
  have stops := begins.stops
  constructor
  · intro ref mem
    rcases mem_literal_reference_iff.mp mem with rfl | mem
    · rintro ⟨opens, -⟩
      omega
    · exact behind.not_openAt mem (by omega)
  · refine ⟨.last front, String.ofList front,
      ⟨noPair_of_cut begins.clear begins.ends inside, rfl⟩, ?_⟩
    rw [segmentsUpTo_of_lt (by omega)]
    exact .last offset front

/-- A cut into the first reference. -/
theorem Begins.cutsInto {opened : List Char} (begins : Begins offset literal body first)
    (behind : rest.Describes first.span.stop segments) (inside : opened <+: body ++ ['}']) :
    CutsInto offset (.literal (String.ofList literal) :: .reference first :: segments)
      (literal ++ '{' :: '{' :: opened) := by
  have short := byteLength_le_of_cut (by decide) inside
  have stops := begins.stops
  have bytes := begins.bytes_opened opened
  constructor
  · exact ⟨first, by simp, by omega, by omega⟩
  · refine ⟨.last literal, ⟨begins.clear, begins.ends, opened,
      noPair_of_cut begins.inner begins.innerEnds inside, rfl⟩, ?_⟩
    intro ref mem cut
    rcases mem_literal_reference_iff.mp mem with rfl | mem
    · exact begins.starts
    · exact absurd cut (behind.not_openAt mem (by omega))

/-- A cut between references, behind the first one. -/
theorem Begins.cutsBetween_behind (begins : Begins offset literal body first)
    (between : CutsBetween first.span.stop segments front) :
    CutsBetween offset (.literal (String.ofList literal) :: .reference first :: segments)
      (literal ++ '{' :: '{' :: (body ++ '}' :: '}' :: front)) := by
  obtain ⟨closed, shorter, tail, ⟨clean, text⟩, describes⟩ := between
  constructor
  · intro ref mem
    rw [begins.bytes_behind]
    rcases mem_literal_reference_iff.mp mem with rfl | mem
    · rintro ⟨-, cut⟩
      omega
    · exact closed ref mem
  · refine ⟨.reference literal body shorter, tail, ⟨begins.clean clean, ?_⟩, ?_⟩
    · rw [Layout.text, text]
    · rw [begins.bytes_behind, segmentsUpTo_of_le (Nat.le_add_right _ _)]
      exact begins.describes describes

/-- A cut into a later reference. -/
theorem Begins.cutsInto_behind (begins : Begins offset literal body first)
    (into : CutsInto first.span.stop segments front) :
    CutsInto offset (.literal (String.ofList literal) :: .reference first :: segments)
      (literal ++ '{' :: '{' :: (body ++ '}' :: '}' :: front)) := by
  obtain ⟨⟨ref, mem, cut⟩, opened, ⟨clean, ends, behind, open_, eq⟩, only⟩ := into
  constructor
  · exact ⟨ref, mem_literal_reference_iff.mpr (.inr mem), by rwa [begins.bytes_behind]⟩
  · refine ⟨.reference literal body opened, ⟨begins.clean clean, ends, behind, open_, ?_⟩, ?_⟩
    · simp [Layout.text, eq]
    · intro ref mem cut
      rw [begins.bytes_behind] at cut
      rw [Layout.text, begins.bytes_behind]
      rcases mem_literal_reference_iff.mp mem with rfl | mem
      · obtain ⟨-, cut⟩ := cut
        omega
      · exact only ref mem cut

end First

/-- **A cut of a clean layout leaves a shorter one, or a reference open.** -/
theorem cutsBetween_or_cutsInto {layout : Layout} {offset : Nat} {segments : List Segment}
    (describes : layout.Describes offset segments) : ∀ {front back : List Char}, layout.Clean →
      layout.text = front ++ back →
        CutsBetween offset segments front ∨ CutsInto offset segments front := by
  induction describes with
  | last offset literal =>
    intro front back clear whole
    exact .inl (cutsBetween_last clear ⟨back, whole.symm⟩)
  | @reference offset start stop literal body rest first segments starts stops spells spans behind
      ih =>
    rintro front back ⟨clear, ends, inner, innerEnds, clean⟩ whole
    have begins : Begins offset literal body first :=
      ⟨by rw [spans, starts], by rw [spans, stops], spells, clear, ends, inner, innerEnds⟩
    obtain rfl : first.span.stop = stop := by rw [spans]
    rcases cut_places whole with inside | ⟨opened, inside, rfl⟩ | ⟨front', rfl, whole'⟩
    · exact .inl (begins.cutsBetween behind inside)
    · exact .inr (begins.cutsInto behind inside)
    · exact (ih clean whole').imp begins.cutsBetween_behind begins.cutsInto_behind

end Layout

/-! ## 4. Parsing what a cut leaves -/

/-- **The last literal of a template is what its other segments leave of the text.** -/
theorem Template.sourceText_concat {source tail : String} {template : Template} {kept : List Segment}
    (parsed : Template.parse source = .ok template)
    (segments : template.segments = kept ++ [.literal tail]) :
    (kept.mapM (Segment.sourceText? source.toList)).map (fun texts =>
      texts.flatten ++ tail.toList) = some source.toList := by
  obtain ⟨rest, stands, texts⟩ := template.covers.sourceText
  rw [Template.source_of_parse parsed] at stands texts
  rw [stands.eq_whole, segments, List.mapM_append] at texts
  cases read : kept.mapM (Segment.sourceText? source.toList) with
  | none => simp [read] at texts
  | some pieces => simpa [read, Segment.sourceText?] using texts

/-- **A template that is cut short fails exactly inside of its references.**  Let a text parse, and let
`before` be any part of it up to a place between two characters.

* `before` is refused if and only if some reference has its opening within `before` but not all of its
  closing, and then the error names the byte at which this reference starts.
* Otherwise `before` parses, to the segments of the whole up to the last reference that ends within it,
  and one literal with the rest of `before`. -/
theorem parse_cut_short {source before behind : String} {template : Template}
    (parsed : Template.parse source = .ok template) (whole : source = before ++ behind) :
    ((∃ e, Template.parse before = .error e) ↔
        ∃ ref, .reference ref ∈ template.segments ∧ ref.span.OpenAt before.utf8ByteSize) ∧
      (∀ ref, .reference ref ∈ template.segments → ref.span.OpenAt before.utf8ByteSize →
        Template.parse before = .error (.unterminatedReference ref.span.start)) ∧
      ((¬ ∃ ref, .reference ref ∈ template.segments ∧ ref.span.OpenAt before.utf8ByteSize) →
        ∃ short kept tail, Template.parse before = .ok short ∧
          kept = segmentsUpTo before.utf8ByteSize template.segments ∧
          short.segments = kept ++ [.literal tail] ∧
          (∀ ref, .reference ref ∈ kept ↔
            .reference ref ∈ template.segments ∧ ref.span.stop ≤ before.utf8ByteSize) ∧
          (kept.mapM (Segment.sourceText? before.toList)).map (fun texts =>
            texts.flatten ++ tail.toList) = some before.toList) := by
  obtain ⟨layout, ⟨clean, text⟩, describes⟩ := Layout.parses_iff_lays.mp ⟨template, parsed, rfl⟩
  have cut : layout.text = before.toList ++ behind.toList := by
    rw [text, whole, String.toList_append]
  have size : 0 + Text.byteLength before.toList = before.utf8ByteSize := by
    rw [Nat.zero_add, Text.byteLength_toList]
  rcases Layout.cutsBetween_or_cutsInto describes clean cut with
    ⟨closed, shorter, tail, lays, describes'⟩ | ⟨cutRef, opened, leavesOpen, only⟩
  · rw [size] at closed describes'
    obtain ⟨short, parsed', segments⟩ := Layout.parses_iff_lays.mpr ⟨shorter, lays, describes'⟩
    refine ⟨?_, ?_, ?_⟩
    · constructor
      · rintro ⟨e, failed⟩
        rw [parsed'] at failed
        exact absurd failed (by simp)
      · rintro ⟨ref, mem, inside⟩
        exact absurd inside (closed ref mem)
    · intro ref mem inside
      exact absurd inside (closed ref mem)
    · intro _
      exact ⟨short, _, tail, parsed', rfl, segments, fun ref => describes.mem_segmentsUpTo_iff,
        Template.sourceText_concat parsed' segments⟩
  · rw [size] at cutRef only
    have failed : ∀ ref, .reference ref ∈ template.segments →
        ref.span.OpenAt before.utf8ByteSize →
          Template.parse before = .error (.unterminatedReference ref.span.start) := by
      intro ref mem inside
      refine Layout.parse_fails_iff_open.mpr ⟨opened, leavesOpen, ?_⟩
      rw [only ref mem inside, Nat.zero_add]
    refine ⟨?_, failed, fun none => absurd cutRef none⟩
    obtain ⟨ref, mem, inside⟩ := cutRef
    exact ⟨fun _ => ⟨ref, mem, inside⟩, fun _ => ⟨_, failed ref mem inside⟩⟩

/-- A cut between the closing braces is still inside of the reference, and a cut between the opening ones
is not. -/
theorem parse_cut_short_braces : ∃ template short,
    Template.parse "é\x7b\x7ba|f\x7d\x7dü\x7b\x7bß\x7d\x7d" = .ok template ∧
      Template.parse "é\x7b\x7ba|f\x7d\x7dü\x7b\x7bß\x7d" = .error (.unterminatedReference 11) ∧
      Template.parse "é\x7b\x7ba|f\x7d\x7dü\x7b" = .ok short ∧
      short.segments = [.literal "é", .reference ⟨"a", ["f"], ⟨2, 9⟩⟩, .literal "ü\x7b"] := by
  let source := "é\x7b\x7ba|f\x7d\x7dü\x7b\x7bß\x7d\x7d"
  let last : Reference := ⟨"ß", [], ⟨11, 17⟩⟩
  let segments : List Segment := [.literal "é", .reference ⟨"a", ["f"], ⟨2, 9⟩⟩, .literal "ü",
    .reference last, .literal ""]
  let layout : Layout := .reference ['é'] ['a', '|', 'f'] (.reference ['ü'] ['ß'] (.last []))
  have lays : layout.Lays source.toList :=
    ⟨⟨breakPair_eq_none_iff.mp (by decide), by decide, breakPair_eq_none_iff.mp (by decide),
      by decide, breakPair_eq_none_iff.mp (by decide), by decide,
      breakPair_eq_none_iff.mp (by decide), by decide, breakPair_eq_none_iff.mp (by decide)⟩,
      by decide⟩
  have describes : layout.Describes 0 segments :=
    .reference (by decide) (by decide) (Reference.spells_iff.mpr (by decide)) rfl
      (.reference (by decide) (by decide) (Reference.spells_iff.mpr (by decide)) rfl (.last 17 []))
  obtain ⟨template, parsed, eq⟩ :=
    (@Layout.parses_iff_lays source segments).mpr ⟨layout, lays, describes⟩
  have inside : source = "é\x7b\x7ba|f\x7d\x7dü\x7b\x7bß\x7d" ++ "\x7d" := by decide
  have refused := (parse_cut_short parsed inside).2.1 last (by rw [eq]; decide)
    ⟨by decide, by decide⟩
  have outside : source = "é\x7b\x7ba|f\x7d\x7dü\x7b" ++ "\x7bß\x7d\x7d" := by decide
  have between : ¬ ∃ ref, .reference ref ∈ template.segments ∧
      ref.span.OpenAt ("é\x7b\x7ba|f\x7d\x7dü\x7b" : String).utf8ByteSize := by
    rintro ⟨ref, mem, opens, cut⟩
    rw [eq] at mem
    simp only [segments, last, mem_literal_reference_iff, List.mem_singleton, reduceCtorEq,
      or_false] at mem
    rcases mem with rfl | rfl
    · exact absurd cut (by decide)
    · exact absurd opens (by decide)
  obtain ⟨short, kept, tail, parsed', rfl, segments', -, texts⟩ :=
    (parse_cut_short parsed outside).2.2 between
  have front : segmentsUpTo ("é\x7b\x7ba|f\x7d\x7dü\x7b" : String).utf8ByteSize template.segments =
      [.literal "é", .reference ⟨"a", ["f"], ⟨2, 9⟩⟩] := by
    rw [eq]
    decide
  rw [front] at segments' texts
  obtain rfl : tail = "ü\x7b" := by
    have same : "é\x7b\x7ba|f\x7d\x7d".toList ++ tail.toList =
        "é\x7b\x7ba|f\x7d\x7d".toList ++ "ü\x7b".toList := Option.some.inj texts
    exact String.toList_injective (List.append_cancel_left same)
  exact ⟨template, short, parsed, refused, parsed', segments'⟩

end SinglePage
