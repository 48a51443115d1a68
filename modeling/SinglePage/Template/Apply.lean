/-
# Filling a template in

A template is filled in from a scope: each reference is replaced by the value of its key, sent
through its filters from left to right.  What values are, and what sending one through a filter
means, is up to the scope; `Filter/Action` makes scopes of variables.

* `Template.applyIn_eq_ok_iff`: a template can be filled in exactly when every segment can;
* `Scope.Related`, `Template.applyIn_related`: scopes whose values are related give the same text;
* `Scope.Image`, `Template.applyIn_image`: so does a scope whose values are other forms of the values
  of another scope.
-/
import SinglePage.Template.Parser
import SinglePage.Error

namespace SinglePage

/-! ## 1. Scopes -/

/-- **What a template is filled in from.** -/
structure Scope (V : Type) where
  /-- The value of a key. -/
  value : String → Except SiteError V
  /-- What becomes of a value that is sent through the filter of a name. -/
  send : V → String → Except SiteError V
  /-- How a value is written. -/
  display : V → String

variable {V W : Type}

/-- **The value of a reference**: the value of its key, sent through its filters in order. -/
def Reference.evaluateIn (scope : Scope V) (reference : Reference) : Except SiteError V := do
  let value ← scope.value reference.key
  reference.filters.foldlM scope.send value

/-- The text that a segment is replaced by. -/
def Segment.renderIn (scope : Scope V) : Segment → Except SiteError String
  | .literal text => .ok text
  | .reference ref => scope.display <$> ref.evaluateIn scope

/-- **The text of a template** whose references are replaced by their values; the error of the
first reference that has none, otherwise. -/
def Template.applyIn (scope : Scope V) (template : Template) : Except SiteError String :=
  String.join <$> template.segments.mapM (Segment.renderIn scope)

/-! ## 2. Success -/

theorem mapM_eq_ok_iff {ε α β : Type} {f : α → Except ε β} : ∀ {l : List α} {r : List β},
    l.mapM f = .ok r ↔ l.map f = r.map .ok
  | [], r => by
    rw [List.mapM_nil]
    constructor
    · intro h
      obtain rfl : [] = r := Except.ok.inj h
      rfl
    · intro h
      obtain rfl : r = [] := by simpa using h.symm
      rfl
  | a :: l, r => by
    rw [List.mapM_cons]
    constructor
    · intro h
      cases ha : f a with
      | error e => rw [ha] at h; exact absurd h (by simp [bind, Except.bind])
      | ok b =>
        cases hl : l.mapM f with
        | error e => rw [ha, hl] at h; exact absurd h (by simp [bind, Except.bind])
        | ok s =>
          rw [ha, hl] at h
          obtain rfl : b :: s = r := Except.ok.inj h
          simp [ha, mapM_eq_ok_iff.mp hl]
    · intro h
      cases r with
      | nil => exact absurd h (by simp)
      | cons b s =>
        obtain ⟨ha, hl⟩ := List.cons.inj h
        rw [ha, mapM_eq_ok_iff.mpr hl]
        rfl

/-- **A template can be filled in exactly when each of its segments can**, and the result is
the texts of the segments in order. -/
theorem Template.applyIn_eq_ok_iff {scope : Scope V} {template : Template} {output : String} :
    template.applyIn scope = .ok output ↔
      ∃ texts : List String,
        template.segments.map (Segment.renderIn scope) = texts.map .ok ∧
          output = String.join texts := by
  unfold Template.applyIn
  constructor
  · intro h
    cases hm : template.segments.mapM (Segment.renderIn scope) with
    | error e => rw [hm] at h; exact absurd h (by simp [Functor.map, Except.map])
    | ok texts =>
      rw [hm] at h
      exact ⟨texts, mapM_eq_ok_iff.mp hm, (Except.ok.inj h).symm⟩
  · rintro ⟨texts, h, rfl⟩
    rw [mapM_eq_ok_iff.mpr h]
    rfl

/-! ## 3. Related outcomes -/

section Outcomes

variable {ε α β γ δ : Type} {R : α → β → Prop} {S : γ → δ → Prop}

/-- **Two outcomes are alike**: they are related values, or one and the same error. -/
inductive Alike (R : α → β → Prop) : Except ε α → Except ε β → Prop
  | ok {a : α} {b : β} (related : R a b) : Alike R (.ok a) (.ok b)
  | error (e : ε) : Alike R (.error e) (.error e)

theorem Alike.refl {R : α → α → Prop} (each : ∀ a, R a a) : ∀ outcome : Except ε α,
    Alike R outcome outcome
  | .ok a => .ok (each a)
  | .error e => .error e

variable {step : Except ε α} {other : Except ε β}

theorem Alike.of_map_eq {f : α → β} (eq : f <$> step = other) :
    Alike (fun a b => f a = b) step other := by
  subst eq
  cases step with
  | ok a => exact .ok rfl
  | error e => exact .error e

theorem Alike.mono {R' : α → β → Prop} (alike : Alike R step other)
    (weaker : ∀ a b, step = .ok a → R a b → R' a b) : Alike R' step other := by
  cases alike with
  | ok related => exact .ok (weaker _ _ rfl related)
  | error e => exact .error e

/-- **One step after another**: the outcomes are alike if what follows related values is. -/
theorem Alike.bind (alike : Alike R step other) {next : α → Except ε γ} {next' : β → Except ε δ}
    (follow : ∀ a b, step = .ok a → R a b → Alike S (next a) (next' b)) :
    Alike S (step >>= next) (other >>= next') := by
  cases alike with
  | ok related => exact follow _ _ rfl related
  | error e => exact .error e

/-- The outcomes are equal if what follows related values is. -/
theorem Alike.bind_eq (alike : Alike R step other) {next : α → Except ε γ} {next' : β → Except ε γ}
    (follow : ∀ a b, step = .ok a → R a b → next a = next' b) : step >>= next = other >>= next' := by
  cases alike with
  | ok related => exact follow _ _ rfl related
  | error e => rfl

theorem Alike.map_eq (alike : Alike R step other) {f : α → γ} {g : β → γ}
    (same : ∀ a b, R a b → f a = g b) : f <$> step = g <$> other := by
  cases alike with
  | ok related => exact congrArg Except.ok (same _ _ related)
  | error e => rfl

end Outcomes

/-! ## 4. Related scopes

A template looks up keys, sends values through filters and writes what comes out, and does nothing else
with a value.  So related values can take the place of values all the way. -/

section Scopes

variable {R : V → W → Prop} {s : Scope V} {t : Scope W}

/-- **Two scopes are related**: keys stand for related values, filters keep values related, and related
values are written alike. -/
structure Scope.Related (R : V → W → Prop) (s : Scope V) (t : Scope W) : Prop where
  value : ∀ key, Alike R (s.value key) (t.value key)
  send : ∀ value other, R value other → ∀ name, Alike R (s.send value name) (t.send other name)
  display : ∀ value other, R value other → s.display value = t.display other

/-- Related values stay related on their way through the same filters. -/
theorem Scope.Related.stages (related : Related R s t) : ∀ (filters : List String) {value : V}
    {other : W}, R value other → Alike R (filters.foldlM s.send value) (filters.foldlM t.send other)
  | [], _, _, both => .ok both
  | name :: filters, value, other, both => by
    rw [List.foldlM_cons, List.foldlM_cons]
    exact (related.send value other both name).bind fun _ _ _ both => related.stages filters both

/-- A reference comes to related values. -/
theorem Scope.Related.evaluateIn (related : Related R s t) (ref : Reference) :
    Alike R (ref.evaluateIn s) (ref.evaluateIn t) :=
  (related.value ref.key).bind fun _ _ _ both => related.stages ref.filters both

/-- **A template is filled in alike from related scopes.** -/
theorem Template.applyIn_related (related : Scope.Related R s t) (template : Template) :
    template.applyIn s = template.applyIn t := by
  have segment : Segment.renderIn s = Segment.renderIn t := by
    funext segment
    cases segment with
    | literal text => rfl
    | reference ref => exact (related.evaluateIn ref).map_eq related.display
  rw [Template.applyIn, Template.applyIn, segment]

/-- The values of the first scope are other forms of those of the second one, and `f` turns each
into the form that it has there. -/
structure Scope.Image (f : V → W) (s : Scope V) (t : Scope W) : Prop where
  value : ∀ key, f <$> s.value key = t.value key
  send : ∀ value name, f <$> s.send value name = t.send (f value) name
  display : ∀ value, s.display value = t.display (f value)

theorem Scope.Image.related {f : V → W} (image : Image f s t) :
    Related (fun value other => f value = other) s t where
  value key := .of_map_eq (image.value key)
  send value _ form name := form ▸ .of_map_eq (image.send value name)
  display value _ form := form ▸ image.display value

/-- **A template is filled in alike from both scopes.** -/
theorem Template.applyIn_image {f : V → W} (image : Scope.Image f s t) (template : Template) :
    template.applyIn s = template.applyIn t :=
  template.applyIn_related image.related

end Scopes

end SinglePage
