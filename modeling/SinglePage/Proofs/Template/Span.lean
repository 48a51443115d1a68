/-
# Spans are the bytes of their references

The segments of a template cover its text: a literal stands from the end of one reference to the
start of the next one, and a reference, braces included, at the bytes of its span.  Bytes are
counted in UTF-8, and characters may take several of them anywhere, so a span could miss the
beginning of a character; none does.

* `Covers`: a text is covered from a byte onwards by a list of segments;
* `covers_of_describes`: the segments of a layout cover the text that is laid out so;
* `Covers.sourceText`, `Covers.spans_in_order`: what is covered is nothing but the segments one
  behind the other, and the spans stand in order.
-/
import SinglePage.Proofs.Template.Layout

namespace SinglePage

/-! ## 1. Places in a text -/

/-- `piece` stands in `text` from byte `start` to byte `stop`. -/
def Text.StandsAt (text : List Char) (start stop : Nat) (piece : List Char) : Prop :=
  ∃ before after, text = before ++ (piece ++ after) ∧ start = byteLength before ∧
    stop = byteLength (before ++ piece)

/-- A text is the slice between the bytes at which it stands. -/
theorem Text.StandsAt.slice? {text : List Char} {start stop : Nat} {piece : List Char}
    (stands : StandsAt text start stop piece) : slice? text start stop = some piece := by
  obtain ⟨before, after, rfl, rfl, rfl⟩ := stands
  exact slice?_append before piece after

theorem Text.StandsAt.stop_eq {text : List Char} {start stop : Nat} {piece : List Char}
    (stands : StandsAt text start stop piece) : stop = start + byteLength piece := by
  obtain ⟨before, after, -, rfl, rfl⟩ := stands
  exact byteLength_append before piece

theorem Text.StandsAt.stop_le {text : List Char} {start stop : Nat} {piece : List Char}
    (stands : StandsAt text start stop piece) : stop ≤ byteLength text := by
  obtain ⟨before, after, rfl, -, rfl⟩ := stands
  rw [← List.append_assoc, byteLength_append (before ++ piece)]
  exact Nat.le_add_right _ _

/-- A text is cut at a byte in one way only. -/
theorem Text.append_inj : ∀ {l l' r r' : List Char}, l ++ r = l' ++ r' →
    byteLength l = byteLength l' → l = l' ∧ r = r'
  | [], [], _, _, whole, _ => ⟨rfl, whole⟩
  | [], c :: _, _, _, _, same => by
    have := c.utf8Size_pos
    rw [byteLength_nil, byteLength_cons] at same
    omega
  | c :: _, [], _, _, _, same => by
    have := c.utf8Size_pos
    rw [byteLength_nil, byteLength_cons] at same
    omega
  | c :: l, d :: l', r, r', whole, same => by
    obtain ⟨rfl, behind⟩ := List.cons.inj whole
    rw [byteLength_cons, byteLength_cons, Nat.add_left_cancel_iff] at same
    obtain ⟨rfl, rfl⟩ := append_inj behind same
    exact ⟨rfl, rfl⟩

/-- What stands from one byte to a second, and what stands from there to a third, stand together
from the first to the third. -/
theorem Text.StandsAt.append {text : List Char} {start middle stop : Nat} {left right : List Char}
    (stands : StandsAt text start middle left) (stands' : StandsAt text middle stop right) :
    StandsAt text start stop (left ++ right) := by
  obtain ⟨before, after, whole, rfl, rfl⟩ := stands
  obtain ⟨before', after', whole', same, rfl⟩ := stands'
  obtain ⟨rfl, rfl⟩ := append_inj (l := before ++ left) (r := after)
    (by rw [← whole', whole, List.append_assoc]) same
  exact ⟨before, after', by rw [whole, List.append_assoc], rfl, by rw [List.append_assoc]⟩

/-- What stands in a text from its first byte to its last is the text. -/
theorem Text.StandsAt.eq_whole {text piece : List Char}
    (stands : StandsAt text 0 (byteLength text) piece) : piece = text := by
  obtain ⟨before, after, whole, start, stop⟩ := stands
  obtain ⟨rfl, rest⟩ := append_inj (show [] ++ text = before ++ (piece ++ after) from whole) start
  have ended : text ++ [] = piece ++ after := by rw [List.append_nil, rest]
  exact (append_inj ended stop).1.symm

/-- The end of some characters of a string is a place between two characters. -/
theorem isValid_byteLength {source : String} {before after : List Char}
    (whole : source.toList = before ++ after) :
    (⟨Text.byteLength before⟩ : String.Pos.Raw).IsValid source := by
  refine String.Pos.Raw.isValid_iff_exists_append.mpr
    ⟨String.ofList before, String.ofList after, ?_, ?_⟩
  · apply String.toList_injective
    rw [whole, String.toList_append, String.toList_ofList, String.toList_ofList]
  · rw [← Text.byteLength_eq_size]
    rfl

/-- **What stands in a string begins and ends between two characters.** -/
theorem Text.StandsAt.isValid {source : String} {start stop : Nat} {piece : List Char}
    (stands : StandsAt source.toList start stop piece) :
    (⟨start⟩ : String.Pos.Raw).IsValid source ∧ (⟨stop⟩ : String.Pos.Raw).IsValid source := by
  obtain ⟨before, after, whole, rfl, rfl⟩ := stands
  have whole' : source.toList = (before ++ piece) ++ after := by rw [whole, List.append_assoc]
  exact ⟨isValid_byteLength whole, isValid_byteLength whole'⟩

/-! ## 2. Covering a text -/

/-- **The segments cover the text from byte `position` to its end**: each literal stands where the
segment before it ends, each reference behind its literal, and nothing is left over. -/
inductive Covers (text : List Char) : Nat → List Segment → Prop
  | last {position : Nat} {literal : String}
      (stands : Text.StandsAt text position (Text.byteLength text) literal.toList) :
    Covers text position [.literal literal]
  | reference {position : Nat} {literal : String} {ref : Reference} {body : List Char}
      {segments : List Segment}
      (front : Text.StandsAt text position ref.span.start literal.toList)
      (braces : Text.StandsAt text ref.span.start ref.span.stop
        ('{' :: '{' :: (body ++ ['}', '}'])))
      (behind : Covers text ref.span.stop segments) :
    Covers text position (.literal literal :: .reference ref :: segments)

/-- The bytes that a reference takes: two for each pair of braces, and those of its body. -/
theorem byteLength_braces (body : List Char) :
    Text.byteLength ('{' :: '{' :: (body ++ ['}', '}'])) = 2 + Text.byteLength body + 2 := by
  have sizes : '{'.utf8Size = 1 ∧ '}'.utf8Size = 1 := by decide
  simp only [Text.byteLength_cons, Text.byteLength_append, Text.byteLength_nil, sizes.1, sizes.2]
  omega

/-- **The segments of a layout cover the text that is laid out so**, wherever it begins. -/
theorem covers_of_describes {layout : Layout} {offset : Nat} {segments : List Segment}
    (describes : layout.Describes offset segments) : ∀ (text before : List Char),
    text = before ++ layout.text → offset = Text.byteLength before →
      Covers text offset segments := by
  induction describes with
  | last offset literal =>
    rintro text before rfl rfl
    refine .last ⟨before, [], ?_, rfl, ?_⟩ <;> simp [Layout.text]
  | @reference offset start stop literal body rest ref segments starts stops _ spans _ ih =>
    rintro text before rfl rfl
    have front : Text.byteLength (before ++ literal) = start := by
      rw [Text.byteLength_append, starts]
    have behind : Text.byteLength (before ++ literal ++ '{' :: '{' :: (body ++ ['}', '}'])) =
        stop := by
      rw [Text.byteLength_append, front, byteLength_braces, stops]
      omega
    have literalStands : Text.StandsAt (before ++ (Layout.reference literal body rest).text)
        (Text.byteLength before) ref.span.start (String.ofList literal).toList := by
      refine ⟨before, '{' :: '{' :: (body ++ '}' :: '}' :: rest.text), ?_, rfl, ?_⟩
      · rw [String.toList_ofList, Layout.text]
      · rw [String.toList_ofList, spans, front]
    have bracesStand : Text.StandsAt (before ++ (Layout.reference literal body rest).text)
        ref.span.start ref.span.stop ('{' :: '{' :: (body ++ ['}', '}'])) := by
      refine ⟨before ++ literal, rest.text, ?_, ?_, ?_⟩
      · simp [Layout.text]
      · rw [spans, front]
      · rw [spans, behind]
    refine .reference literalStands bracesStand ?_
    rw [spans]
    refine ih _ (before ++ literal ++ '{' :: '{' :: (body ++ ['}', '}'])) ?_ behind.symm
    simp [Layout.text]

/-- The segments of a template cover its source. -/
theorem Template.covers (template : Template) :
    Covers template.source.toList 0 template.segments := by
  rcases Layout.laidOut_or_open template.source.toList with ⟨layout, clean, text⟩ | ⟨layout, open_⟩
  · obtain ⟨segments, describes, read⟩ := Layout.segmentsFrom_text 0 clean
    have parsed := template.parsed
    rw [segmentsOf, ← text, read] at parsed
    obtain rfl := Except.ok.inj parsed
    exact covers_of_describes describes _ [] text.symm rfl
  · have parsed := template.parsed
    rw [segmentsOf, Layout.segmentsFrom_open 0 open_] at parsed
    exact absurd parsed (by simp)

/-! ## 3. What is covered -/

/-- The text of a segment: that of a literal, and for a reference the bytes of its span. -/
def Segment.sourceText? (source : List Char) : Segment → Option (List Char)
  | .literal text => some text.toList
  | .reference ref => Text.slice? source ref.span.start ref.span.stop

/-- The spans of the references among some segments. -/
def spansOf (segments : List Segment) : List Span :=
  segments.filterMap fun
    | .literal _ => none
    | .reference ref => some ref.span

/-- **Nothing is lost**: the texts of the segments, one behind the other, are what is covered. -/
theorem Covers.sourceText {text : List Char} {position : Nat} {segments : List Segment}
    (covers : Covers text position segments) :
    ∃ rest, Text.StandsAt text position (Text.byteLength text) rest ∧
      (segments.mapM (Segment.sourceText? text)).map List.flatten = some rest := by
  induction covers with
  | @last position literal stands => exact ⟨_, stands, by simp [Segment.sourceText?]⟩
  | @reference position literal ref body segments front braces _ ih =>
    obtain ⟨rest, stands, texts⟩ := ih
    obtain ⟨pieces, read, rfl⟩ := Option.map_eq_some_iff.mp texts
    refine ⟨_, front.append (braces.append stands), ?_⟩
    simp [Segment.sourceText?, braces.slice?, read]

/-- A reference among segments that cover a text stands at its span, with its braces. -/
theorem Covers.braces_of_mem {text : List Char} {position : Nat} {segments : List Segment}
    (covers : Covers text position segments) {ref : Reference}
    (mem : .reference ref ∈ segments) : ∃ body, Text.StandsAt text ref.span.start ref.span.stop
      ('{' :: '{' :: (body ++ ['}', '}'])) := by
  induction covers with
  | last => simp at mem
  | @reference position literal first body segments front braces _ ih =>
    rcases List.mem_cons.mp mem with eq | mem
    · exact absurd eq (by simp)
    · rcases List.mem_cons.mp mem with eq | mem
      · obtain rfl := Segment.reference.inj eq
        exact ⟨body, braces⟩
      · exact ih mem

/-- **The spans stand in order**: each begins behind the end of those before it. -/
theorem Covers.spans_in_order {text : List Char} {position : Nat} {segments : List Segment}
    (covers : Covers text position segments) :
    (∀ span ∈ spansOf segments, position ≤ span.start) ∧
      (spansOf segments).Pairwise fun a b => a.start < b.start ∧ a.stop ≤ b.start := by
  induction covers with
  | last => simp [spansOf]
  | @reference position literal ref body segments front braces _ ih =>
    obtain ⟨above, inOrder⟩ := ih
    have first := front.stop_eq
    have wide := braces.stop_eq
    rw [byteLength_braces] at wide
    have split : spansOf (.literal literal :: .reference ref :: segments) =
        ref.span :: spansOf segments := rfl
    rw [split]
    refine ⟨?_, List.pairwise_cons.mpr ⟨?_, inOrder⟩⟩
    · intro span mem
      rcases List.mem_cons.mp mem with rfl | mem
      · omega
      · have := above span mem
        omega
    · intro span mem
      have := above span mem
      exact ⟨by omega, this⟩

end SinglePage
