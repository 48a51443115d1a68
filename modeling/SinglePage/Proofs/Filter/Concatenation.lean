/-
# Rendering one list behind another

Rendering a list takes its items one after the other and stops at the first that cannot be rendered.
So two lists, one behind the other, are rendered as each of them is alone, unless the first one fails:
then the second one is not looked at.  What comes out are texts, one for each item, and these can
always be joined.  Between the lines of two lists that are not empty stands one more newline; a list
that is empty adds neither lines nor newlines.

* `mapM_append_of_ok`, `mapM_append_of_error`: steps over two lists;
* `call_renderer`: what rendering a list returns;
* `joinLines_texts`, `splitOn_lines`: texts become lines, and lines become texts again;
* `rendering_append`: rendering and joining, over two lists.
-/
import SinglePage.Proofs.Filter.PostScope

namespace SinglePage

/-! ## 1. Steps over two lists -/

section Steps

variable {ε α β : Type} {f : α → Except ε β} {l r : List α}

theorem mapM_append_of_error {e : ε} (fails : l.mapM f = .error e) :
    (l ++ r).mapM f = .error e := by
  rw [List.mapM_append, fails]
  rfl

theorem mapM_append_of_ok {front : List β} (done : l.mapM f = .ok front) :
    (l ++ r).mapM f = (front ++ ·) <$> r.mapM f := by
  rw [List.mapM_append, done]
  cases r.mapM f <;> rfl

theorem length_of_mapM {results : List β} (done : l.mapM f = .ok results) :
    results.length = l.length :=
  (mapM_eq_ok_iff_forall₂.mp done).length_eq.symm

end Steps

/-! ## 2. Rendering -/

namespace Registry

variable (registry : Registry) (template : Template)

/-- The filter that renders records through a template which sees the filters of a registry. -/
def renderer (name : String) : Filter := ⟨name, registry.postifyEach template⟩

/-- The texts of some items, or the error of the first one that has none. -/
def textsOf (call : Call) (items : List Value) : Except SiteError (List String) :=
  items.mapM (renderRecord call template (filterVariables registry.actions.entries))

end Registry

section Rendering

variable {call : Call} {registry : Registry} {template : Template} {name : String}
  {items others : List Value}

/-- **Rendering a list returns the texts of its items.** -/
theorem call_renderer (standard : call.Standard) :
    call (registry.renderer template name) (.list items) =
      (fun texts => .list (texts.map .text)) <$> registry.textsOf template call items := by
  rw [Registry.renderer, Registry.postifyEach, standard.postifyEach, perform_postifyEach_list]
  rfl

theorem call_renderer_eq_ok_iff (standard : call.Standard) {result : Value} :
    call (registry.renderer template name) (.list items) = .ok result ↔
      ∃ texts : List String, registry.textsOf template call items = .ok texts ∧
        result = .list (texts.map .text) := by
  rw [call_renderer standard, map_eq_ok_iff]
  exact exists_congr fun texts => and_congr_right fun _ => eq_comm

theorem call_renderer_eq_error_iff (standard : call.Standard) {e : SiteError} :
    call (registry.renderer template name) (.list items) = .error e ↔
      registry.textsOf template call items = .error e := by
  rw [call_renderer standard, map_eq_error_iff]

/-- What is rendered behind a list comes behind its texts. -/
theorem textsOf_append {texts : List String}
    (front : registry.textsOf template call items = .ok texts) :
    registry.textsOf template call (items ++ others) =
      (texts ++ ·) <$> registry.textsOf template call others :=
  mapM_append_of_ok front

/-- Two lists that are rendered as one can be rendered each alone. -/
theorem textsOf_append_eq_ok {whole : List String}
    (rendered : registry.textsOf template call (items ++ others) = .ok whole) :
    ∃ texts texts', registry.textsOf template call items = .ok texts ∧
      registry.textsOf template call others = .ok texts' ∧ whole = texts ++ texts' := by
  cases front : registry.textsOf template call items with
  | error e =>
    have fails : registry.textsOf template call (items ++ others) = .error e :=
      mapM_append_of_error front
    exact absurd (rendered.symm.trans fails) (by simp)
  | ok texts =>
    rw [textsOf_append front] at rendered
    obtain ⟨texts', behind, rfl⟩ := map_eq_ok_iff.mp rendered
    exact ⟨texts, texts', rfl, behind, rfl⟩

theorem textsOf_ne_nil {texts : List String} (nonempty : items ≠ [])
    (done : registry.textsOf template call items = .ok texts) : texts ≠ [] := by
  rintro rfl
  exact nonempty (List.length_eq_zero_iff.mp (length_of_mapM done).symm)

end Rendering

/-! ## 3. Lines -/

/-- **Texts can always be joined.** -/
theorem joinLines_texts (lines : List String) :
    joinLines (.list (lines.map .text)) = .ok (.text ("\n".intercalate lines)) :=
  joinLines_eq_ok_iff.mpr ⟨lines, rfl, rfl⟩

/-- **Lines are taken apart again**, if there are any and none of them has a newline in it. -/
theorem splitOn_lines {lines : List String} (nonempty : lines ≠ [])
    (single : ∀ line ∈ lines, '\n' ∉ line.toList) :
    (("\n".intercalate lines).toList.splitOn '\n').map String.ofList = lines := by
  have clear : ∀ line ∈ lines.map String.toList, '\n' ∉ line := by
    intro line mem
    obtain ⟨text, inside, rfl⟩ := List.mem_map.mp mem
    exact single text inside
  have cut : ("\n".intercalate lines).toList.splitOn '\n' = lines.map String.toList := by
    rw [String.toList_intercalate]
    exact List.splitOn_intercalate '\n' clear (by simpa using nonempty)
  have back : String.ofList ∘ String.toList = id := funext fun _ => String.ofList_toList
  rw [cut, List.map_map, back, List.map_id]

/-! ## 4. Rendering and joining -/

/-- **Two lists are rendered as one, and their lines are joined.**  Whatever the template, the
registry and the items are, and however other filters are called:

* two lists behind one another are rendered to what each is rendered to, or to the error of the first,
  or else to that of the second;
* what a list is rendered to is one text for each item, so the texts can be joined;
* if neither list is empty, the lines of both are those of the first, a newline, and those of the
  second; without texts there is no line;
* texts without newlines that are joined can be taken apart again, if there is at least one. -/
theorem rendering_append {call : Call} (standard : call.Standard) (registry : Registry)
    (template : Template) (name : String) :
    let render := fun items : List Value => call (registry.renderer template name) (.list items)
    (∀ items others : List Value,
      (∀ texts texts', render items = .ok (.list texts) → render others = .ok (.list texts') →
        render (items ++ others) = .ok (.list (texts ++ texts'))) ∧
      (∀ e, render items = .error e → render (items ++ others) = .error e) ∧
      ∀ result e, render items = .ok result → render others = .error e →
        render (items ++ others) = .error e) ∧
    (∀ (items : List Value) (result : Value), render items = .ok result →
      ∃ texts : List String, texts.length = items.length ∧ result = .list (texts.map .text) ∧
        ∃ joined, joinLines result = .ok (.text joined)) ∧
    (∀ (items others : List Value) (whole : Value), items ≠ [] → others ≠ [] →
      render (items ++ others) = .ok whole →
      ∃ front behind text text', render items = .ok front ∧ render others = .ok behind ∧
        joinLines front = .ok (.text text) ∧ joinLines behind = .ok (.text text') ∧
        joinLines whole = .ok (.text (text ++ "\n" ++ text'))) ∧
    joinLines (.list []) = .ok (.text "") ∧
    ∀ lines : List String, lines ≠ [] → (∀ line ∈ lines, '\n' ∉ line.toList) →
      ∃ joined, joinLines (.list (lines.map .text)) = .ok (.text joined) ∧
        (joined.toList.splitOn '\n').map String.ofList = lines := by
  intro render
  refine ⟨fun items others => ⟨?_, ?_, ?_⟩, ?_, ?_, joinLines_texts [], ?_⟩
  · intro values values' rendered rendered'
    obtain ⟨texts, front, same⟩ := (call_renderer_eq_ok_iff standard).mp rendered
    obtain ⟨texts', behind, same'⟩ := (call_renderer_eq_ok_iff standard).mp rendered'
    obtain rfl := Value.list.inj same
    obtain rfl := Value.list.inj same'
    refine (call_renderer_eq_ok_iff standard).mpr ⟨texts ++ texts', ?_, by rw [List.map_append]⟩
    rw [textsOf_append front, behind]
    rfl
  · intro e failed
    have fails := (call_renderer_eq_error_iff standard).mp failed
    exact (call_renderer_eq_error_iff standard).mpr (mapM_append_of_error fails)
  · intro result e rendered failed
    obtain ⟨texts, front, -⟩ := (call_renderer_eq_ok_iff standard).mp rendered
    have fails := (call_renderer_eq_error_iff standard).mp failed
    refine (call_renderer_eq_error_iff standard).mpr ?_
    rw [textsOf_append front, fails]
    rfl
  · intro items result rendered
    obtain ⟨texts, done, rfl⟩ := (call_renderer_eq_ok_iff standard).mp rendered
    exact ⟨texts, length_of_mapM done, rfl, _, joinLines_texts texts⟩
  · intro items others whole nonempty nonempty' rendered
    obtain ⟨_, done, rfl⟩ := (call_renderer_eq_ok_iff standard).mp rendered
    obtain ⟨texts, texts', front, behind, rfl⟩ := textsOf_append_eq_ok done
    refine ⟨_, _, _, _, (call_renderer_eq_ok_iff standard).mpr ⟨texts, front, rfl⟩,
      (call_renderer_eq_ok_iff standard).mpr ⟨texts', behind, rfl⟩, joinLines_texts texts,
      joinLines_texts texts', ?_⟩
    rw [joinLines_texts, String.intercalate_append_of_ne_nil (textsOf_ne_nil nonempty front)
      (textsOf_ne_nil nonempty' behind)]
  · intro lines nonempty single
    exact ⟨_, joinLines_texts lines, splitOn_lines nonempty single⟩

/-- Two lists of one word each are rendered and joined as one; a second list whose item is no record
fails, although the first one does not. -/
theorem rendering_append_shouting :
    let registry := Registry.empty.register "shout" (.append "!")
    let render := fun items : List Value =>
      Filter.call (registry.renderer Registry.shouting "loud") (.list items)
    let word := fun text : String => Value.record [("text", .text text)]
    render ([word "hello"] ++ [word "bye"]) = .ok (.list ([.text "hello!"] ++ [.text "bye!"])) ∧
      render ([word "hello"] ++ [.text "bye"]) = .error (.typeMismatch .record .text) ∧
      (∃ text text', joinLines (.list [.text "hello!"]) = .ok (.text text) ∧
        joinLines (.list [.text "bye!"]) = .ok (.text text') ∧
        joinLines (.list ([.text "hello!"] ++ [.text "bye!"])) =
          .ok (.text (text ++ "\n" ++ text'))) ∧
      ∃ joined, joinLines (.list (["hello!", "bye!"].map .text)) = .ok (.text joined) ∧
        (joined.toList.splitOn '\n').map String.ofList = ["hello!", "bye!"] := by
  intro registry render word
  have rendered : ∀ text : String, render [word text] = .ok (.list [.text (text ++ "!")]) := by
    intro text
    let vars : Variables := Variables.withFilters (.ofList [("text", .text text)]) registry
    have holds : ∀ key : String, vars.get? key = (registry.toVariables.get? key).or
        (SortedMap.lookup key [("text", .text text)]) := by
      intro key
      exact (SortedMap.get?_extend _ _ key).trans (congrArg _ (SortedMap.get?_ofList _ key))
    have found : Variables.value vars "text" = .ok (.text text) :=
      Variables.value_eq_ok_iff.mpr ((holds "text").trans rfl)
    have sent : Variables.send Filter.call vars (.text text) "shout" =
        .ok (.text (text ++ "!")) :=
      Variables.send_eq_ok_iff.mpr ⟨"shout", .append "!", (holds "shout").trans rfl, rfl⟩
    have evaluated : Reference.evaluateIn (Variables.scope Filter.call vars)
        ⟨"text", ["shout"], ⟨0, 18⟩⟩ = .ok (.text (text ++ "!")) :=
      bind_eq_ok_iff.mpr ⟨_, found, bind_eq_ok_iff.mpr ⟨_, sent, rfl⟩⟩
    have filled : Registry.shouting.applyWith Filter.call vars = .ok (text ++ "!") := by
      refine Template.applyIn_eq_ok_iff.mpr ⟨["", text ++ "!", ""], ?_, by simp⟩
      simp only [Registry.shouting, List.map_cons, List.map_nil, Segment.renderIn, evaluated]
      rfl
    have texts : registry.textsOf Registry.shouting Filter.call [word text] = .ok [text ++ "!"] := by
      refine mapM_eq_ok_iff.mpr (congrArg (fun first => [first]) ?_)
      rw [Registry.filterVariables_entries]
      exact filled
    exact (call_renderer_eq_ok_iff Filter.call_standard).mpr ⟨_, texts, rfl⟩
  have failed : render [.text "bye"] = .error (.typeMismatch .record .text) :=
    (call_renderer_eq_error_iff Filter.call_standard).mpr rfl
  obtain ⟨lists, -, joined, -, lines⟩ :=
    rendering_append Filter.call_standard registry Registry.shouting "loud"
  have whole := (lists [word "hello"] [word "bye"]).1 _ _ (rendered "hello") (rendered "bye")
  refine ⟨whole, (lists _ _).2.2 _ _ (rendered "hello") failed, ?_, lines _ (by simp) (by decide)⟩
  obtain ⟨front, behind, text, text', front', behind', first, second, both⟩ :=
    joined _ _ _ (by simp) (by simp) whole
  obtain rfl := Except.ok.inj (front'.symm.trans (rendered "hello"))
  obtain rfl := Except.ok.inj (behind'.symm.trans (rendered "bye"))
  exact ⟨text, text', first, second, both⟩

end SinglePage
