/-
# Finding the references of a template

The text is read from left to right.  It is literal up to the first `{{`; a reference follows
and ends at the first `}}` behind that; then the same again with the rest.  Braces cannot be
escaped, and an opening that is never closed is the only error.

* `breakPair_eq_some_iff`: the first doubled character cuts a text in exactly one way;
* `breakPair_eq_none_iff`: no cut means that the character is nowhere doubled;
* `segmentsFrom` ends because what follows a reference is shorter than what held it.

A `Template` keeps its source together with the segments, and the proof that they belong
together, so two templates with the same source are equal (`Template.eq_of_source_eq`).
-/
import SinglePage.Template.Basic
import SinglePage.Text.Bytes
import SinglePage.Error

namespace SinglePage

/-! ## 1. The first doubled character -/

/-- Cuts a text at the first place where `c` stands twice in a row: the text before the pair,
and the text behind it. -/
def breakPair (c : Char) : List Char → Option (List Char × List Char)
  | a :: b :: rest =>
    if a = c ∧ b = c then some ([], rest)
    else (breakPair c (b :: rest)).map fun parts => (a :: parts.1, parts.2)
  | _ => none

/-- `c` stands nowhere twice in a row. -/
def NoPair (c : Char) (text : List Char) : Prop :=
  ∀ before after, text ≠ before ++ c :: c :: after

theorem breakPair_eq {c : Char} : ∀ {text before after : List Char},
    breakPair c text = some (before, after) → text = before ++ c :: c :: after
  | [], _, _, h => by simp [breakPair] at h
  | [_], _, _, h => by simp [breakPair] at h
  | a :: b :: rest, before, after, h => by
    simp only [breakPair] at h
    split at h
    · rename_i pair
      obtain ⟨rfl, rfl⟩ := Prod.mk.inj (Option.some.inj h)
      simp [pair.1, pair.2]
    · obtain ⟨⟨before', after'⟩, hrest, heq⟩ := Option.map_eq_some_iff.mp h
      obtain ⟨rfl, rfl⟩ := Prod.mk.inj heq
      rw [breakPair_eq hrest, List.cons_append]

/-- What stands behind the pair is shorter than the text. -/
theorem length_of_breakPair {c : Char} {text before after : List Char}
    (h : breakPair c text = some (before, after)) : after.length + 2 ≤ text.length := by
  rw [breakPair_eq h]
  simp

/-- A text with a pair in it is cut. -/
theorem breakPair_isSome {c : Char} : ∀ (before after : List Char),
    (breakPair c (before ++ c :: c :: after)).isSome = true
  | [], after => by simp [breakPair]
  | [a], after => by
    simp only [List.cons_append, List.nil_append, breakPair]
    split <;> simp
  | a :: b :: before, after => by
    have ih := breakPair_isSome (c := c) (b :: before) after
    simp only [List.cons_append, breakPair] at ih ⊢
    split
    · rfl
    · simpa using ih

theorem breakPair_eq_none_iff {c : Char} {text : List Char} :
    breakPair c text = none ↔ NoPair c text := by
  constructor
  · rintro h before after rfl
    simpa [h] using breakPair_isSome (c := c) before after
  · intro h
    cases hb : breakPair c text with
    | none => rfl
    | some parts => exact absurd (breakPair_eq hb) (h _ _)

/-- **The cut is the only one** whose first part has no pair and cannot make one with the
pair behind it. -/
theorem breakPair_eq_some_iff {c : Char} : ∀ {text before after : List Char},
    breakPair c text = some (before, after) ↔
      text = before ++ c :: c :: after ∧ NoPair c before ∧ before.getLast? ≠ some c
  | text, [], after => by
    constructor
    · intro h
      exact ⟨breakPair_eq h, by intro b a; simp, by simp⟩
    · rintro ⟨rfl, -, -⟩
      simp [breakPair]
  | text, [a], after => by
    constructor
    · intro h
      refine ⟨breakPair_eq h, ?_, ?_⟩
      · intro b r
        cases b <;> simp
      · rw [breakPair_eq h] at h
        rintro last
        obtain rfl : a = c := by simpa using last
        simp [breakPair] at h
    · rintro ⟨rfl, -, last⟩
      have : a ≠ c := by simpa using last
      simp [breakPair, this]
  | text, a :: b :: before, after => by
    have ih : breakPair c (b :: before ++ c :: c :: after) = some (b :: before, after) ↔ _ :=
      breakPair_eq_some_iff
    have cons_iff : NoPair c (a :: b :: before) ↔ ¬ (a = c ∧ b = c) ∧ NoPair c (b :: before) := by
      constructor
      · intro h
        refine ⟨?_, ?_⟩
        · rintro ⟨rfl, rfl⟩
          exact h [] before rfl
        · intro l r eq
          exact h (a :: l) r (by rw [eq, List.cons_append])
      · rintro ⟨hne, h⟩ l r eq
        cases l with
        | nil => simp at eq; exact hne ⟨eq.1, eq.2.1⟩
        | cons x l => exact h l r (List.cons.inj (by simpa using eq)).2
    have step : text = (a :: b :: before) ++ c :: c :: after →
        (breakPair c text = some (a :: b :: before, after) ↔
          ¬ (a = c ∧ b = c) ∧
            breakPair c (b :: before ++ c :: c :: after) = some (b :: before, after)) := by
      rintro rfl
      simp only [List.cons_append, breakPair]
      split
      · rename_i pair
        simp [pair]
      · rename_i pair
        simp [pair]
    constructor
    · intro h
      have whole := breakPair_eq h
      obtain ⟨hne, hrest⟩ := (step whole).mp h
      obtain ⟨-, hpair, hlast⟩ := ih.mp hrest
      exact ⟨whole, cons_iff.mpr ⟨hne, hpair⟩, by simpa using hlast⟩
    · rintro ⟨whole, hpair, hlast⟩
      obtain ⟨hne, hpair⟩ := cons_iff.mp hpair
      exact (step whole).mpr ⟨hne, ih.mpr ⟨rfl, hpair, by simpa using hlast⟩⟩

/-! ## 2. Segments -/

/-- The segments of a text that begins at byte `offset` of the template. -/
def segmentsFrom (offset : Nat) (text : List Char) : Except SiteError (List Segment) :=
  match _opening : breakPair '{' text with
  | none => .ok [.literal (String.ofList text)]
  | some (literal, opened) =>
    let start := offset + Text.byteLength literal
    match _closing : breakPair '}' opened with
    | none => .error (.unterminatedReference start)
    | some (body, rest) =>
      let stop := start + 2 + Text.byteLength body + 2
      match segmentsFrom stop rest with
      | .error error => .error error
      | .ok segments =>
        .ok (.literal (String.ofList literal) :: .reference (.ofBody body ⟨start, stop⟩) ::
          segments)
termination_by text.length
decreasing_by
  have := length_of_breakPair _opening
  have := length_of_breakPair _closing
  omega

/-- Text without an opening is one literal. -/
theorem segmentsFrom_literal {offset : Nat} {text : List Char} (clear : NoPair '{' text) :
    segmentsFrom offset text = .ok [.literal (String.ofList text)] := by
  unfold segmentsFrom
  split
  · rfl
  · rename_i opening
    rw [breakPair_eq_none_iff.mpr clear] at opening
    exact absurd opening (by simp)

/-- A literal and a closed reference in front of `rest`. -/
theorem segmentsFrom_reference {offset : Nat} {literal body rest : List Char}
    (clear : NoPair '{' literal) (last : literal.getLast? ≠ some '{')
    (clear' : NoPair '}' body) (last' : body.getLast? ≠ some '}') :
    let start := offset + Text.byteLength literal
    let stop := start + 2 + Text.byteLength body + 2
    segmentsFrom offset (literal ++ '{' :: '{' :: (body ++ '}' :: '}' :: rest)) =
      (segmentsFrom stop rest).map fun segments =>
        .literal (String.ofList literal) :: .reference (.ofBody body ⟨start, stop⟩) ::
          segments := by
  intro start stop
  have opening := breakPair_eq_some_iff.mpr
    ⟨(rfl : literal ++ '{' :: '{' :: (body ++ '}' :: '}' :: rest) = _), clear, last⟩
  have closing := breakPair_eq_some_iff.mpr
    ⟨(rfl : body ++ '}' :: '}' :: rest = _), clear', last'⟩
  rw [segmentsFrom.eq_def]
  split
  · rename_i none
    rw [opening] at none
    exact absurd none (by simp)
  · rename_i literal' opened' opening'
    rw [opening] at opening'
    obtain ⟨rfl, rfl⟩ := Prod.mk.inj (Option.some.inj opening')
    split
    · rename_i none
      rw [closing] at none
      exact absurd none (by simp)
    · rename_i body' rest' closing'
      rw [closing] at closing'
      obtain ⟨rfl, rfl⟩ := Prod.mk.inj (Option.some.inj closing')
      show (match segmentsFrom stop rest with | .error _ => _ | .ok _ => _) = _
      cases segmentsFrom stop rest <;> rfl

/-- **The segments of a template text.**  Every reference has a literal before it, which may
be empty, and a literal comes last. -/
def segmentsOf (source : String) : Except SiteError (List Segment) :=
  segmentsFrom 0 source.toList

/-! ## 3. Templates -/

/-- **A template**: a text whose references are all closed, with its segments. -/
structure Template where
  source : String
  segments : List Segment
  parsed : segmentsOf source = .ok segments

namespace Template

/-- The template with the given source. -/
def parse (source : String) : Except SiteError Template :=
  match parsed : segmentsOf source with
  | .ok segments => .ok ⟨source, segments, parsed⟩
  | .error error => .error error

theorem eq_of_source_eq {s t : Template} (h : s.source = t.source) : s = t := by
  obtain ⟨source, segments, parsed⟩ := s
  obtain ⟨source', segments', parsed'⟩ := t
  obtain rfl : source = source' := h
  obtain rfl : segments = segments' := Except.ok.inj (parsed.symm.trans parsed')
  rfl

theorem parse_source (t : Template) : parse t.source = .ok t := by
  unfold parse
  split
  · exact congrArg Except.ok (eq_of_source_eq rfl)
  · rename_i error herror
    rw [t.parsed] at herror
    exact absurd herror (by simp)

theorem source_of_parse {source : String} {t : Template} (h : parse source = .ok t) :
    t.source = source := by
  unfold parse at h
  split at h
  · exact (congrArg Template.source (Except.ok.inj h)).symm
  · exact absurd h (by simp)

end Template

end SinglePage
