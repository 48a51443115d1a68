/-
# Texts are inserted as they are

A text that stands under a key is copied to each place where a template refers to the key, and nothing
in it is read: no braces, no bars, no names of variables or filters.  So what stands around the text
does not depend on it.  `around` finds these pieces before the text is known; what is filled in is the
pieces with the text between them, and if one of the other references fails, it fails whatever the
text is.

The template must do nothing else with the key (`Quotes`): a filter could change the text, and a text
in the place of a filter is an error that names its kind.

* `renderAll_insert_text`: the run on a text is the run without it, and then the text between the
  pieces;
* `length_around`: there is one more piece than there are references to the key;
* `inserted_verbatim`: pieces that fit all texts, or one error for all of them.
-/
import SinglePage.Proofs.Filter.Locality
import SinglePage.Proofs.Template.Joining

namespace SinglePage

/-! ## 1. The references to a key -/

/-- Whether the segment is a reference to the key. -/
def Segment.refersTo (key : String) : Segment → Bool
  | .literal _ => false
  | .reference ref => ref.key = key

/-- **The segments only quote the key**: no filter goes by its name, and no reference to it has
filters. -/
def Quotes (key : String) (segments : List Segment) : Prop :=
  ∀ ref, .reference ref ∈ segments → key ∉ ref.filters ∧ (ref.key = key → ref.filters = [])

/-- **What stands around the references to a key**: the text of the other segments, in pieces that are
cut where the references stand. -/
def around {V : Type} (scope : Scope V) (key : String) :
    List Segment → Except SiteError (List String)
  | [] => .ok [""]
  | segment :: segments =>
    if segment.refersTo key then ("" :: ·) <$> around scope key segments
    else do
      let text ← segment.renderIn scope
      let pieces ← around scope key segments
      return pieces.modifyHead (text ++ ·)

section Pieces

variable {V : Type} {scope : Scope V} {key : String} {segment : Segment} {segments : List Segment}

/-- The pieces are cut at a reference to the key. -/
theorem around_of_refers (refers : segment.refersTo key = true) :
    around scope key (segment :: segments) = ("" :: ·) <$> around scope key segments := by
  rw [around, if_pos refers]

/-- The text of another segment goes to the piece that it stands in. -/
theorem around_of_written {text : String} (other : segment.refersTo key = false)
    (written : segment.renderIn scope = .ok text) :
    around scope key (segment :: segments) =
      List.modifyHead (text ++ ·) <$> around scope key segments := by
  rw [around, if_neg (Bool.eq_false_iff.mp other), written]
  cases around scope key segments <;> rfl

/-- What is behind a segment without a text is not looked at. -/
theorem around_of_refused {e : SiteError} (other : segment.refersTo key = false)
    (refused : segment.renderIn scope = .error e) :
    around scope key (segment :: segments) = .error e := by
  rw [around, if_neg (Bool.eq_false_iff.mp other), refused]
  rfl

/-- **There is one more piece than there are references to the key.** -/
theorem length_around {pieces : List String} (found : around scope key segments = .ok pieces) :
    pieces.length = segments.countP (Segment.refersTo key) + 1 := by
  induction segments generalizing pieces with
  | nil =>
    obtain rfl := Except.ok.inj found
    rfl
  | cons segment segments ih =>
    cases refers : segment.refersTo key with
    | true =>
      rw [around_of_refers refers] at found
      obtain ⟨rest, behind, rfl⟩ := map_eq_ok_iff.mp found
      rw [List.countP_cons_of_pos refers, List.length_cons, ih behind]
    | false =>
      cases written : segment.renderIn scope with
      | error e =>
        rw [around_of_refused refers written] at found
        exact absurd found (by simp)
      | ok text =>
        rw [around_of_written refers written] at found
        obtain ⟨rest, behind, rfl⟩ := map_eq_ok_iff.mp found
        rw [List.countP_cons_of_neg (Bool.eq_false_iff.mp refers), List.length_modifyHead, ih behind]

end Pieces

/-! ## 2. One segment -/

section Inserting

variable {call : Call} {vars : Variables} {key : String}

/-- A reference without filters to the key is replaced by the text. -/
theorem Segment.renderIn_insert_self {segment : Segment} (quotes : Quotes key [segment])
    (refers : segment.refersTo key = true) (text : String) :
    segment.renderIn (Variables.scope call (vars.insert key (.text text))) = .ok text := by
  cases segment with
  | literal literal => exact absurd refers (by simp [refersTo])
  | reference ref =>
    obtain rfl : ref.key = key := by simpa [refersTo] using refers
    have bare : ref.filters = [] := (quotes ref List.mem_cons_self).2 rfl
    have evaluated : ref.evaluateIn (Variables.scope call (vars.insert ref.key (.text text))) =
        .ok (.text text) := by
      rw [Reference.evaluateIn_named (by simp [bare]), bare]
      rfl
    rw [renderIn, evaluated]
    rfl

/-- **What another segment is replaced by does not depend on the key.** -/
theorem Segment.renderIn_insert_other {segment : Segment} (quotes : Quotes key [segment])
    (other : segment.refersTo key = false) (value : Value) :
    segment.renderIn (Variables.scope call (vars.insert key value)) =
      segment.renderIn (Variables.scope call vars) := by
  cases segment with
  | literal literal => rfl
  | reference ref =>
    have otherKey : ref.key ≠ key := by simpa [refersTo] using other
    have evaluated : ref.evaluateIn (Variables.scope call (vars.insert key value)) =
        ref.evaluateIn (Variables.scope call vars) := by
      refine Reference.evaluateIn_congr ?_ ?_
      · simp only [Variables.scope, Variables.value, SortedMap.get?_insert, if_neg otherKey]
      · intro name named passed
        have otherName : name ≠ key := by
          rintro rfl
          exact (quotes ref List.mem_cons_self).1 named
        refine Variables.send_congr ?_ call passed
        rw [SortedMap.get?_insert, if_neg otherName]
    rw [renderIn, renderIn, evaluated]
    rfl

/-! ## 3. All segments -/

/-- **Filling in is the text between pieces that were found without it.** -/
theorem renderAll_insert_text {segments : List Segment} (quotes : Quotes key segments)
    (text : String) :
    renderAll (Variables.scope call (vars.insert key (.text text))) segments =
      text.intercalate <$> around (Variables.scope call vars) key segments := by
  induction segments with
  | nil => exact congrArg Except.ok String.intercalate_singleton.symm
  | cons segment segments ih =>
    have first : Quotes key [segment] := fun ref mem =>
      quotes ref (List.mem_singleton.mp mem ▸ List.mem_cons_self)
    have rest := ih fun ref mem => quotes ref (List.mem_cons_of_mem _ mem)
    rw [renderAll_cons, rest]
    cases refers : segment.refersTo key with
    | true =>
      rw [Segment.renderIn_insert_self first refers, around_of_refers refers]
      cases behind : around (Variables.scope call vars) key segments with
      | error e => rfl
      | ok pieces =>
        have nonempty : pieces ≠ [] := List.ne_nil_of_length_eq_add_one (length_around behind)
        have joined : text.intercalate ("" :: pieces) = text ++ text.intercalate pieces := by
          rw [String.intercalate_cons_of_ne_nil nonempty, String.empty_append]
        exact congrArg Except.ok joined.symm
    | false =>
      rw [Segment.renderIn_insert_other first refers]
      cases written : segment.renderIn (Variables.scope call vars) with
      | error e =>
        rw [around_of_refused refers written]
        rfl
      | ok own =>
        rw [around_of_written refers written]
        cases behind : around (Variables.scope call vars) key segments with
        | error e => rfl
        | ok pieces =>
          cases pieces with
          | nil => exact absurd (length_around behind) (by simp)
          | cons piece pieces => exact congrArg Except.ok String.intercalate_cons_append.symm

end Inserting

/-- **A text is inserted as it is.**  Let a template only quote a key.  Then there are pieces, one
more than the references to the key, such that for every text under the key, whatever it looks like,
the template is filled in with the pieces and the text between them; or the template cannot be filled
in, for the same reason whatever the text is. -/
theorem inserted_verbatim (call : Call) (template : Template) (vars : Variables) (key : String)
    (quotes : Quotes key template.segments) :
    (∃ e, ∀ text : String,
      template.applyWith call (vars.insert key (.text text)) = .error e) ∨
    ∃ pieces : List String,
      pieces.length = template.segments.countP (Segment.refersTo key) + 1 ∧
        ∀ text : String,
          template.applyWith call (vars.insert key (.text text)) = .ok (text.intercalate pieces) := by
  have filled : ∀ text : String, template.applyWith call (vars.insert key (.text text)) =
      text.intercalate <$> around (Variables.scope call vars) key template.segments := by
    intro text
    rw [Template.applyWith_eq_renderAll, renderAll_insert_text quotes]
  cases found : around (Variables.scope call vars) key template.segments with
  | error e =>
    refine .inl ⟨e, fun text => ?_⟩
    rw [filled, found]
    rfl
  | ok pieces =>
    refine .inr ⟨pieces, length_around found, fun text => ?_⟩
    rw [filled, found]
    rfl

/-- A letter that names someone twice, and greets in between. -/
def Template.letter : Template where
  source := "Dear " ++ "\x7b\x7b" ++ " name " ++ "\x7d\x7d" ++
    (", " ++ "\x7b\x7b" ++ " greeting | shout " ++ "\x7d\x7d" ++
      (" Yours, " ++ "\x7b\x7b" ++ "name" ++ "\x7d\x7d" ++ ""))
  segments := [.literal "Dear ", .reference ⟨"name", [], ⟨5, 15⟩⟩, .literal ", ",
    .reference ⟨"greeting", ["shout"], ⟨17, 39⟩⟩, .literal " Yours, ",
    .reference ⟨"name", [], ⟨47, 55⟩⟩, .literal ""]
  parsed := by
    have dear : IsLiteral "Dear " 5 := ⟨_, rfl, by decide, by decide, by decide⟩
    have comma : IsLiteral ", " 2 := ⟨_, rfl, by decide, by decide, by decide⟩
    have yours : IsLiteral " Yours, " 8 := ⟨_, rfl, by decide, by decide, by decide⟩
    have empty : IsLiteral "" 0 := ⟨_, rfl, by decide, by decide, by decide⟩
    have name : IsBody " name " 6 "name" [] := ⟨_, rfl, by decide, by decide, by decide, fun _ => rfl⟩
    have greeting : IsBody " greeting | shout " 18 "greeting" ["shout"] :=
      ⟨_, rfl, by decide, by decide, by decide, fun _ => rfl⟩
    have again : IsBody "name" 4 "name" [] := ⟨_, rfl, by decide, by decide, by decide, fun _ => rfl⟩
    rw [segmentsOf, segmentsFrom_pieces dear name, segmentsFrom_pieces comma greeting,
      segmentsFrom_pieces yours again, segmentsFrom_piece empty]
    rfl

/-- The letter has three pieces for all names, and a name that looks like a reference stays as it is,
although what it seems to refer to is there. -/
theorem inserted_verbatim_letter :
    let vars : Variables :=
      .ofList [("greeting", .text "hello"), ("shout", .filter "shout" (.append "!"))]
    Quotes "name" Template.letter.segments ∧
      (∃ pieces : List String, pieces.length = 3 ∧ ∀ text : String,
        Template.letter.applyWith Filter.call (vars.insert "name" (.text text)) =
          .ok (text.intercalate pieces)) ∧
      Template.letter.applyWith Filter.call
          (vars.insert "name" (.text "\x7b\x7b greeting | shout \x7d\x7d")) =
        .ok ("Dear \x7b\x7b greeting | shout \x7d\x7d, hello! " ++
          "Yours, \x7b\x7b greeting | shout \x7d\x7d") := by
  intro vars
  have quotes : Quotes "name" Template.letter.segments := by
    intro ref mem
    have places : ref = ⟨"name", [], ⟨5, 15⟩⟩ ∨ ref = ⟨"greeting", ["shout"], ⟨17, 39⟩⟩ ∨
        ref = ⟨"name", [], ⟨47, 55⟩⟩ := by simpa [Template.letter] using mem
    rcases places with rfl | rfl | rfl <;> exact ⟨by decide, by decide⟩
  have text : Variables.value vars "greeting" = .ok (.text "hello") := by
    rw [Variables.value_eq_ok_iff, SortedMap.get?_ofList]
    rfl
  have sent : Variables.send Filter.call vars (.text "hello") "shout" = .ok (.text "hello!") := by
    rw [Variables.send_eq_ok_iff, SortedMap.get?_ofList]
    exact ⟨"shout", .append "!", rfl, rfl⟩
  have greeted : Segment.renderIn (Variables.scope Filter.call vars)
      (.reference ⟨"greeting", ["shout"], ⟨17, 39⟩⟩) = .ok "hello!" := by
    have evaluated : Reference.evaluateIn (Variables.scope Filter.call vars)
        ⟨"greeting", ["shout"], ⟨17, 39⟩⟩ = .ok (.text "hello!") :=
      bind_eq_ok_iff.mpr ⟨_, text, bind_eq_ok_iff.mpr ⟨_, sent, rfl⟩⟩
    rw [Segment.renderIn, evaluated]
    rfl
  have found : around (Variables.scope Filter.call vars) "name" Template.letter.segments =
      .ok ["Dear ", ", hello! Yours, ", ""] := by
    rw [Template.letter, around_of_written rfl rfl, around_of_refers rfl, around_of_written rfl rfl,
      around_of_written rfl greeted, around_of_written rfl rfl, around_of_refers rfl]
    rfl
  have filled : ∀ name : String,
      Template.letter.applyWith Filter.call (vars.insert "name" (.text name)) =
        .ok (name.intercalate ["Dear ", ", hello! Yours, ", ""]) := by
    intro name
    rw [Template.applyWith_eq_renderAll, renderAll_insert_text quotes, found]
    rfl
  rcases inserted_verbatim Filter.call Template.letter vars "name" quotes with
    ⟨e, fails⟩ | ⟨pieces, length, inserted⟩
  · exact absurd ((filled "").symm.trans (fails "")) (by simp)
  · exact ⟨quotes, ⟨pieces, length, inserted⟩, (filled _).trans (congrArg Except.ok (by decide))⟩

end SinglePage
