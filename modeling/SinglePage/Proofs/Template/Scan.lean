/-
# Reading a template by byte positions

The segments of a template can be found without taking its text apart: a position moves over the
text, and slices are taken between bytes.  A slice fails when it is out of range or would cut a
character, so this way of reading could get stuck (`Scan.Step.stuck`).  It never does, and what it
finds are the segments of the template.

* `Scan.step_of_holds`: what one step does, wherever the text behind the position begins;
* `Scan.holds_of_reaches`: that text always begins between two characters;
* `Scan.reaches_end`: the steps come to an end, with the segments of the template or its error;
* `spans_sound`: the spans of a template are sound, and finding them never gets stuck.
-/
import Mathlib.Logic.Relation
import SinglePage.Proofs.Template.Span

namespace SinglePage

/-! ## 1. Steps -/

/-- How far a text has been read: the byte behind the last reference, and the segments so far. -/
structure Scan where
  position : Nat
  segments : List Segment

namespace Scan

/-- What can come of looking for one more reference. -/
inductive Step where
  /-- There is one, and reading goes on behind it. -/
  | next (scan : Scan)
  /-- There is none, or it is left open. -/
  | finished (result : Except SiteError (List Segment))
  /-- A slice is out of range, or cuts a character. -/
  | stuck

/-- The first byte of a text at which `c` stands twice in a row. -/
def findPair (c : Char) (text : List Char) : Option Nat :=
  (breakPair c text).map fun cut => Text.byteLength cut.1

/-- **Looks for one more reference.**  Only positions are handed on from one search to the next,
and every piece of text is cut out of the whole anew. -/
def step (text : List Char) (scan : Scan) : Step :=
  match Text.dropBytes? scan.position text with
  | none => .stuck
  | some rest =>
    match findPair '{' rest with
    | none => .finished (.ok (scan.segments ++ [.literal (String.ofList rest)]))
    | some found =>
      let start := scan.position + found
      match Text.slice? text scan.position start, Text.dropBytes? (start + 2) text with
      | some literal, some opened =>
        match findPair '}' opened with
        | none => .finished (.error (.unterminatedReference start))
        | some found' =>
          match Text.slice? text (start + 2) (start + 2 + found') with
          | none => .stuck
          | some body =>
            let stop := start + 2 + found' + 2
            .next ⟨stop, scan.segments ++
              [.literal (String.ofList literal), .reference (.ofBody body ⟨start, stop⟩)]⟩
      | _, _ => .stuck

/-- The text has been read up to the scan, from its beginning. -/
def Reaches (text : List Char) (scan : Scan) : Prop :=
  Relation.ReflTransGen (fun a b => step text a = .next b) ⟨0, []⟩ scan

/-! ## 2. What one step does -/

/-- `rest` is what is still to be read: it begins at the position, and the segments of the text are
those found so far and those in `rest`. -/
structure Holds (text : List Char) (scan : Scan) (rest : List Char) : Prop where
  behind : ∃ before, text = before ++ rest ∧ scan.position = Text.byteLength before
  segments : segmentsFrom 0 text = (segmentsFrom scan.position rest).map (scan.segments ++ ·)

/-- What is behind some bytes of a text, when they are whole characters. -/
theorem dropBytes?_eq {text before rest : List Char} {position : Nat}
    (whole : text = before ++ rest) (bytes : position = Text.byteLength before) :
    Text.dropBytes? position text = some rest := by
  rw [whole, bytes, Text.dropBytes?_append]

/-- The bytes in front of what follows an opening. -/
theorem byteLength_opening (before literal : List Char) :
    Text.byteLength (before ++ (literal ++ ['{', '{'])) =
      Text.byteLength before + Text.byteLength literal + 2 := by
  have size : '{'.utf8Size = 1 := by decide
  simp only [Text.byteLength_append, Text.byteLength_cons, Text.byteLength_nil, size]
  omega

/-- The bytes in front of what follows a closing. -/
theorem byteLength_closing (before body : List Char) :
    Text.byteLength (before ++ (body ++ ['}', '}'])) =
      Text.byteLength before + Text.byteLength body + 2 := by
  have size : '}'.utf8Size = 1 := by decide
  simp only [Text.byteLength_append, Text.byteLength_cons, Text.byteLength_nil, size]
  omega

/-- **What one step does** where the rest of the text begins between two characters: it finds the
end of the text, a reference that is left open, or a closed one, with the rest behind it. -/
theorem step_of_holds {text rest : List Char} {scan : Scan} (holds : Holds text scan rest) :
    (step text scan = .finished (segmentsFrom 0 text)) ∨
      ∃ next rest', step text scan = .next next ∧ Holds text next rest' ∧
        rest'.length < rest.length ∧ scan.position + 4 ≤ next.position := by
  obtain ⟨⟨before, whole, bytes⟩, segments⟩ := holds
  have atRest := dropBytes?_eq whole bytes
  cases opening : breakPair '{' rest with
  | none =>
    left
    have clear := breakPair_eq_none_iff.mp opening
    simp only [step, atRest, findPair, opening, Option.map_none]
    rw [segments, segmentsFrom_literal clear]
    rfl
  | some cut =>
    obtain ⟨literal, opened⟩ := cut
    obtain ⟨eq, clear, end_⟩ := breakPair_eq_some_iff.mp opening
    have literalStands : Text.StandsAt text scan.position
        (scan.position + Text.byteLength literal) literal := by
      refine ⟨before, '{' :: '{' :: opened, by rw [whole, eq], bytes, ?_⟩
      rw [Text.byteLength_append, bytes]
    have wholeOpened : text = (before ++ (literal ++ ['{', '{'])) ++ opened := by
      rw [whole, eq]
      simp
    have bytesOpened : scan.position + Text.byteLength literal + 2 =
        Text.byteLength (before ++ (literal ++ ['{', '{'])) := by
      rw [byteLength_opening, bytes]
    have atOpened := dropBytes?_eq wholeOpened bytesOpened
    cases closing : breakPair '}' opened with
    | none =>
      left
      have open_ := breakPair_eq_none_iff.mp closing
      simp only [step, atRest, findPair, opening, closing, literalStands.slice?, atOpened,
        Option.map_none, Option.map_some]
      rw [segments, eq, Layout.segmentsFrom_opening clear end_ open_]
      rfl
    | some cut' =>
      right
      obtain ⟨body, rest'⟩ := cut'
      obtain ⟨eq', clear', end'⟩ := breakPair_eq_some_iff.mp closing
      have bodyStands : Text.StandsAt text (scan.position + Text.byteLength literal + 2)
          (scan.position + Text.byteLength literal + 2 + Text.byteLength body) body := by
        refine ⟨_, '}' :: '}' :: rest', by rw [wholeOpened, eq'], bytesOpened, ?_⟩
        rw [Text.byteLength_append, ← bytesOpened]
      let start := scan.position + Text.byteLength literal
      let stop := start + 2 + Text.byteLength body + 2
      let next : Scan := ⟨stop, scan.segments ++
        [.literal (String.ofList literal), .reference (.ofBody body ⟨start, stop⟩)]⟩
      have steps : step text scan = .next next := by
        simp only [step, atRest, findPair, opening, closing, literalStands.slice?, atOpened,
          bodyStands.slice?, Option.map_some, next, stop, start]
      have wholeRest : text =
          (before ++ (literal ++ ['{', '{']) ++ (body ++ ['}', '}'])) ++ rest' := by
        rw [wholeOpened, eq']
        simp
      have bytesRest : stop =
          Text.byteLength (before ++ (literal ++ ['{', '{']) ++ (body ++ ['}', '}'])) := by
        rw [byteLength_closing, ← bytesOpened]
      have segments' : segmentsFrom 0 text =
          (segmentsFrom stop rest').map (next.segments ++ ·) := by
        rw [segments, eq, eq', segmentsFrom_reference clear end_ clear' end']
        cases segmentsFrom stop rest' with
        | error e => rfl
        | ok found => simp [Except.map, next, stop, start]
      refine ⟨next, rest', steps, ⟨⟨_, wholeRest, bytesRest⟩, segments'⟩, ?_, ?_⟩
      · have := length_of_breakPair opening
        have := length_of_breakPair closing
        omega
      · show scan.position + 4 ≤ scan.position + _ + 2 + _ + 2
        omega

/-! ## 3. Whole runs -/

theorem holds_start (text : List Char) : Holds text ⟨0, []⟩ text := by
  refine ⟨⟨[], rfl, rfl⟩, ?_⟩
  cases segmentsFrom 0 text <;> rfl

/-- **However far a text has been read, the rest begins between two characters.** -/
theorem holds_of_reaches {text : List Char} {scan : Scan} (reaches : Reaches text scan) :
    ∃ rest, Holds text scan rest := by
  induction reaches with
  | refl => exact ⟨text, holds_start text⟩
  | @tail scan next _ steps ih =>
    obtain ⟨rest, holds⟩ := ih
    rcases step_of_holds holds with finished | ⟨next', rest', steps', holds', -, -⟩
    · rw [steps] at finished
      exact absurd finished (by simp)
    · rw [steps] at steps'
      obtain rfl := Step.next.inj steps'
      exact ⟨rest', holds'⟩

/-- From wherever a text has been read to, reading comes to an end. -/
theorem reaches_end {text : List Char} : ∀ {rest : List Char} {scan : Scan},
    Reaches text scan → Holds text scan rest →
      ∃ stop, Reaches text stop ∧ step text stop = .finished (segmentsFrom 0 text)
  | rest, scan, reaches, holds => by
    rcases step_of_holds holds with finished | ⟨next, rest', steps, holds', shorter, -⟩
    · exact ⟨scan, reaches, finished⟩
    · exact reaches_end (reaches.tail steps) holds'
termination_by rest => rest.length

/-- A scan that has been reached is not stuck, and if it moves on it moves forward, but not out of
the text. -/
theorem step_of_reaches {text : List Char} {scan : Scan} (reaches : Reaches text scan) :
    step text scan ≠ .stuck ∧ ∀ next, step text scan = .next next →
      scan.position < next.position ∧ next.position ≤ Text.byteLength text := by
  obtain ⟨rest, holds⟩ := holds_of_reaches reaches
  rcases step_of_holds holds with finished | ⟨next, rest', steps, holds', -, forward⟩
  · rw [finished]
    exact ⟨by simp, fun next steps => absurd steps (by simp)⟩
  · rw [steps]
    refine ⟨by simp, ?_⟩
    rintro _ ⟨rfl⟩
    obtain ⟨before, whole, bytes⟩ := holds'.behind
    refine ⟨by omega, ?_⟩
    rw [whole, bytes, Text.byteLength_append]
    exact Nat.le_add_right _ _

end Scan

/-! ## 4. Spans -/

/-- **The segments of a template are its text, and finding them never gets stuck.**  For a text
that parses: the texts of the segments make the text again; every span is a range of bytes between
two characters, with the braces at its ends; the spans stand in order; and each literal fills the
place between two of them.  For any text: reading it by positions never takes a slice that is out
of range or cuts a character, moves forward with each step, and ends with what parsing gives. -/
theorem spans_sound (source : String) :
    (∀ template, Template.parse source = .ok template →
      (template.segments.mapM (Segment.sourceText? source.toList)).map List.flatten =
          some source.toList ∧
        (∀ ref, .reference ref ∈ template.segments →
          ref.span.start + 4 ≤ ref.span.stop ∧ ref.span.stop ≤ source.utf8ByteSize ∧
            (⟨ref.span.start⟩ : String.Pos.Raw).IsValid source ∧
            (⟨ref.span.stop⟩ : String.Pos.Raw).IsValid source ∧
            ∃ body, Text.slice? source.toList ref.span.start ref.span.stop =
              some ('{' :: '{' :: (body ++ ['}', '}']))) ∧
        (spansOf template.segments).Pairwise (fun a b => a.start < b.start ∧ a.stop ≤ b.start) ∧
        Covers source.toList 0 template.segments) ∧
      (∀ scan, Scan.Reaches source.toList scan → Scan.step source.toList scan ≠ .stuck ∧
        ∀ next, Scan.step source.toList scan = .next next →
          scan.position < next.position ∧ next.position ≤ source.utf8ByteSize) ∧
      ∃ scan, Scan.Reaches source.toList scan ∧
        Scan.step source.toList scan = .finished (segmentsOf source) := by
  refine ⟨?_, ?_, ?_⟩
  · intro template parsed
    have covers := template.covers
    rw [Template.source_of_parse parsed] at covers
    refine ⟨?_, ?_, covers.spans_in_order.2, covers⟩
    · obtain ⟨rest, stands, texts⟩ := covers.sourceText
      rw [stands.eq_whole] at texts
      exact texts
    · intro ref mem
      obtain ⟨body, stands⟩ := covers.braces_of_mem mem
      have size := stands.stop_eq
      have inside := stands.stop_le
      rw [byteLength_braces] at size
      rw [Text.byteLength_toList] at inside
      exact ⟨by omega, inside, stands.isValid.1, stands.isValid.2, body, stands.slice?⟩
  · intro scan reaches
    rw [← Text.byteLength_toList]
    exact Scan.step_of_reaches reaches
  · exact Scan.reaches_end .refl (Scan.holds_start source.toList)

/-- A text with characters of several bytes around and inside of its reference. -/
theorem spans_sound_accents : ∃ template,
    Template.parse "é\x7b\x7b ü | ß \x7d\x7dö" = .ok template ∧
    Covers "é\x7b\x7b ü | ß \x7d\x7dö".toList 0 template.segments ∧
    Scan.step "é\x7b\x7b ü | ß \x7d\x7dö".toList ⟨0, []⟩ ≠ .stuck := by
  have clean : Layout.Clean (.reference ['é'] [' ', 'ü', ' ', '|', ' ', 'ß', ' '] (.last ['ö'])) :=
    ⟨breakPair_eq_none_iff.mp (by decide), by decide, breakPair_eq_none_iff.mp (by decide),
      by decide, breakPair_eq_none_iff.mp (by decide)⟩
  obtain ⟨segments, -, read⟩ := Layout.segmentsFrom_text 0 clean
  obtain ⟨template, parsed, -⟩ := Layout.parse_eq_ok_iff.mpr
    (show segmentsOf "é\x7b\x7b ü | ß \x7d\x7dö" = .ok segments from read)
  obtain ⟨sound, sound', -⟩ := spans_sound "é\x7b\x7b ü | ß \x7d\x7dö"
  exact ⟨template, parsed, (sound template parsed).2.2.2, (sound' ⟨0, []⟩ .refl).1⟩

end SinglePage
