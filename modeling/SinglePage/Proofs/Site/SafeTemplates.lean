/-
# Templates that never fail

Some templates can be filled in whatever the posts are, as long as their timestamps are accepted.
Which ones these are can be seen from their references: each filter must accept what it is sent
for all posts, the empty text and the empty list of posts among them.

* `Reference.SafeInPost`, `Reference.SafeInPage`: the references that always have a value;
* `Post.values_iff_safe`, `Site.values_iff_safe`: no others always have one;
* `safe_templates`: so these are the templates that never fail.
-/
import SinglePage.Proofs.Filter.SiteScope
import SinglePage.Proofs.Filter.Stages
import SinglePage.Proofs.Site.BuiltinPage

namespace SinglePage

open Registry (joinLinesName friendlyDatetimeName postifyEachName postFilters)

/-! ## 1. Safe references -/

/-- **A reference that has a value for every post**: the text or the timestamp of the post, the
timestamp spoken, or a filter by itself. -/
def Reference.SafeInPost (ref : Reference) : Prop :=
  (ref.key = "datetime" ∧ (ref.filters = [] ∨ ref.filters = [friendlyDatetimeName])) ∨
    (ref.key = "text" ∧ ref.filters = []) ∨
      ((ref.key = joinLinesName ∨ ref.key = friendlyDatetimeName) ∧ ref.filters = [])

/-- **A reference that has a value for all posts**: the posts, as they are, rendered, or rendered
and joined, or a filter by itself. -/
def Reference.SafeInPage (ref : Reference) : Prop :=
  (ref.key = "posts" ∧ (ref.filters = [] ∨ ref.filters = [postifyEachName] ∨
      ref.filters = [postifyEachName, joinLinesName])) ∨
    ((ref.key = joinLinesName ∨ ref.key = friendlyDatetimeName ∨ ref.key = postifyEachName) ∧
      ref.filters = [])

instance (ref : Reference) : Decidable ref.SafeInPost :=
  inferInstanceAs (Decidable (_ ∨ _))

instance (ref : Reference) : Decidable ref.SafeInPage :=
  inferInstanceAs (Decidable (_ ∨ _))

/-- All references of a template are safe for a post. -/
def Template.SafeInPost (template : Template) : Prop :=
  ∀ ref, .reference ref ∈ template.segments → ref.SafeInPost

/-- All references of a template are safe for a page. -/
def Template.SafeInPage (template : Template) : Prop :=
  ∀ ref, .reference ref ∈ template.segments → ref.SafeInPage

/-! ## 2. What a post template sees -/

namespace Post

/-- The timestamp of the post can be spoken. -/
def Accepted (post : Post) : Prop := ∃ value, friendlyDatetime (.text post.datetime) = .ok value

theorem accepted_iff {post : Post} :
    post.Accepted ↔ ∃ timestamp : Timestamp, post.datetime = timestamp.text := by
  simp only [Accepted, friendlyDatetime_eq_ok_iff, Value.text.injEq]
  constructor
  · rintro ⟨_, timestamp, same, -⟩
    exact ⟨timestamp, same⟩
  · rintro ⟨timestamp, same⟩
    exact ⟨_, timestamp, same, rfl⟩

/-- A post without a text. -/
def blank : Post := ⟨Timestamp.text ⟨⟨2021, 3, 5, 9, 7, 0⟩, by decide⟩, ""⟩

theorem accepted_blank : blank.Accepted := accepted_iff.mpr ⟨_, rfl⟩

variable {post : Post}

theorem get?_variables (post : Post) (name : String) :
    (post.toVariables.extend postFilters.toVariables).get? name =
      if name = friendlyDatetimeName then some (.filter name .friendlyDatetime)
      else if name = joinLinesName then some (.filter name .joinLines)
      else if name = "text" then some (.text post.text)
      else if name = "datetime" then some (.text post.datetime)
      else none := by
  rw [SortedMap.get?_extend, Registry.get?_postFilters, toVariables, SortedMap.get?_insert,
    SortedMap.get?_insert]
  split
  · rfl
  · split <;> rfl

/-- **Two filters can be used on a post.** -/
theorem scope_send_iff {value result : Value} {name : String} :
    post.scope.send value name = .ok result ↔
      (name = friendlyDatetimeName ∧ friendlyDatetime value = .ok result) ∨
        (name = joinLinesName ∧ joinLines value = .ok result) := by
  refine Variables.send_eq_ok_iff.trans ?_
  simp only [get?_variables]
  constructor
  · rintro ⟨own, action, found, called⟩
    split at found
    · obtain ⟨rfl, rfl⟩ := Value.filter.inj (Option.some.inj found)
      exact .inl ⟨‹_›, called⟩
    · split at found
      · obtain ⟨rfl, rfl⟩ := Value.filter.inj (Option.some.inj found)
        exact .inr ⟨‹_›, called⟩
      · split at found
        · exact absurd found (by simp)
        · split at found <;> exact absurd found (by simp)
  · rintro (⟨rfl, sent⟩ | ⟨rfl, sent⟩)
    · exact ⟨_, .friendlyDatetime, rfl, sent⟩
    · exact ⟨_, .joinLines, rfl, sent⟩

theorem scope_value_iff {key : String} {value : Value} :
    post.scope.value key = .ok value ↔
      (key = "datetime" ∧ value = .text post.datetime) ∨ (key = "text" ∧ value = .text post.text) ∨
        (key = joinLinesName ∧ value = .filter key .joinLines) ∨
          (key = friendlyDatetimeName ∧ value = .filter key .friendlyDatetime) := by
  refine Variables.value_eq_ok_iff.trans ?_
  rw [get?_variables]
  constructor
  · intro found
    split at found
    · exact .inr (.inr (.inr ⟨‹_›, (Option.some.inj found).symm⟩))
    · split at found
      · exact .inr (.inr (.inl ⟨‹_›, (Option.some.inj found).symm⟩))
      · split at found
        · exact .inr (.inl ⟨‹_›, (Option.some.inj found).symm⟩)
        · split at found
          · exact .inl ⟨‹_›, (Option.some.inj found).symm⟩
          · exact absurd found (by simp)
  · rintro (⟨rfl, rfl⟩ | ⟨rfl, rfl⟩ | ⟨rfl, rfl⟩ | ⟨rfl, rfl⟩) <;> rfl

/-- No filter accepts a filter. -/
theorem filter_passes_iff {own : String} {action : Action} {filters : List String} :
    post.scope.Passes (.filter own action) filters ↔ filters = [] := by
  refine Scope.passes_iff_nil fun name next sent => ?_
  rcases scope_send_iff.mp sent with ⟨-, spoken⟩ | ⟨-, joined⟩
  · obtain ⟨_, ⟨⟩, -⟩ := friendlyDatetime_eq_ok_iff.mp spoken
  · obtain ⟨_, ⟨⟩, -⟩ := joinLines_eq_ok_iff.mp joined

theorem scope_speaksOnly (post : Post) : post.scope.SpeaksOnly := by
  intro text name next
  rw [scope_send_iff]
  constructor
  · rintro (spoken | ⟨-, joined⟩)
    · exact spoken
    · obtain ⟨_, ⟨⟩, -⟩ := joinLines_eq_ok_iff.mp joined
  · exact .inl

/-- **A text passes no filters, or it is a timestamp and is spoken once.** -/
theorem text_passes_iff {text : String} {filters : List String} :
    post.scope.Passes (.text text) filters ↔
      filters = [] ∨ (filters = [friendlyDatetimeName] ∧ ∃ timestamp : Timestamp,
        text = timestamp.text) := by
  simp only [Scope.Passes, post.scope_speaksOnly.stages_iff, friendlyDatetime_eq_ok_iff,
    Value.text.injEq]
  constructor
  · rintro ⟨_, ⟨none, -⟩ | ⟨one, timestamp, same, -⟩⟩
    · exact .inl none
    · exact .inr ⟨one, timestamp, same⟩
  · rintro (none | ⟨one, timestamp, same⟩)
    · exact ⟨_, .inl ⟨none, rfl⟩⟩
    · exact ⟨_, .inr ⟨one, timestamp, same, rfl⟩⟩

/-- **The references that have a value for every post are the safe ones.** -/
theorem values_iff_safe {ref : Reference} :
    (∀ post : Post, post.Accepted → post.scope.Values ref.key ref.filters) ↔ ref.SafeInPost := by
  constructor
  · intro always
    obtain ⟨value, found, passes⟩ := always blank accepted_blank
    rcases scope_value_iff.mp found with ⟨key, rfl⟩ | ⟨key, rfl⟩ | ⟨key, rfl⟩ | ⟨key, rfl⟩
    · exact .inl ⟨key, (text_passes_iff.mp passes).imp_right And.left⟩
    · rcases text_passes_iff.mp passes with none | ⟨-, timestamp, same⟩
      · exact .inr (.inl ⟨key, none⟩)
      · exact absurd same timestamp.empty_ne_text
    · exact .inr (.inr ⟨.inl key, filter_passes_iff.mp passes⟩)
    · exact .inr (.inr ⟨.inr key, filter_passes_iff.mp passes⟩)
  · rintro (⟨key, filters⟩ | ⟨key, filters⟩ | ⟨key, filters⟩) post accepted
    · refine ⟨_, scope_value_iff.mpr (.inl ⟨key, rfl⟩), text_passes_iff.mpr ?_⟩
      exact filters.imp_right fun one => ⟨one, accepted_iff.mp accepted⟩
    · exact ⟨_, scope_value_iff.mpr (.inr (.inl ⟨key, rfl⟩)), text_passes_iff.mpr (.inl filters)⟩
    · rcases key with key | key
      · exact ⟨_, scope_value_iff.mpr (.inr (.inr (.inl ⟨key, rfl⟩))),
          filter_passes_iff.mpr filters⟩
      · exact ⟨_, scope_value_iff.mpr (.inr (.inr (.inr ⟨key, rfl⟩))),
          filter_passes_iff.mpr filters⟩

/-- A template can be filled in for every post when it is safe. -/
theorem applyIn_succeeds_iff_safe {template : Template} :
    (∀ post : Post, post.Accepted → ∃ text, template.applyIn post.scope = .ok text) ↔
      template.SafeInPost := by
  simp only [Template.applyIn_succeeds_iff, Template.SafeInPost, ← values_iff_safe]
  exact ⟨fun all ref mem post accepted => all post accepted ref mem,
    fun all post accepted ref mem => all ref mem post accepted⟩

end Post

/-! ## 3. What a page template sees -/

namespace Site

/-- What a page is filled in from, when posts are rendered through a template. -/
def scopeOf (template : Template) (posts : List Post) : Scope Value :=
  Variables.scope Filter.call (pageVariables template posts)

variable {template : Template} {posts : List Post}

/-- **Posts are rendered one by one**, each from what it holds and the filters for posts. -/
theorem perform_postifyEach_iff {result : Value} :
    (postFilters.postifyEach template).perform Filter.call (.list (posts.map Post.toValue)) =
        .ok result ↔
      ∃ blocks, posts.mapM (fun post => template.applyIn post.scope) = .ok blocks ∧
        result = .list (blocks.map .text) := by
  have each : (renderRecord Filter.call template postFilters.toVariables) ∘ Post.toValue =
      fun post => template.applyIn post.scope := by
    funext post
    simp only [Function.comp_apply, renderRecord, Post.toValue, Value.asRecord_ofVariables]
    rfl
  have items : (posts.map Post.toValue).mapM (renderRecord Filter.call template
      (filterVariables postFilters.actions.entries)) =
        posts.mapM fun post => template.applyIn post.scope := by
    rw [Registry.filterVariables_entries, List.mapM_map, each]
  rw [Registry.postifyEach, postifyEach_eq_ok_iff]
  constructor
  · rintro ⟨_, blocks, ⟨rfl⟩, rendered, rfl⟩
    exact ⟨blocks, items.symm.trans rendered, rfl⟩
  · rintro ⟨blocks, rendered, rfl⟩
    exact ⟨_, blocks, rfl, items.trans rendered, rfl⟩

/-- Texts cannot be rendered. -/
theorem nil_of_postifyEach_texts {texts : List String} {result : Value}
    (rendered : (postFilters.postifyEach template).perform Filter.call (.list (texts.map .text)) =
      .ok result) : texts = [] := by
  obtain ⟨_, blocks, ⟨rfl⟩, each, -⟩ := postifyEach_eq_ok_iff.mp rendered
  cases texts with
  | nil => rfl
  | cons text texts =>
    rw [mapM_eq_ok_iff] at each
    cases blocks with
    | nil => exact absurd each (by simp)
    | cons block blocks =>
      have first := (List.cons.inj each).1
      exact absurd first (by simp [renderRecord, Value.asRecord, bind, Except.bind])

theorem get?_pageVariables (name : String) :
    (pageVariables template posts).get? name =
      if name = postifyEachName then some (.filter name (postFilters.postifyEach template))
      else if name = friendlyDatetimeName then some (.filter name .friendlyDatetime)
      else if name = joinLinesName then some (.filter name .joinLines)
      else if name = "posts" then some (.list (posts.map Post.toValue))
      else none := by
  rw [pageVariables, Variables.get?_withFilters_builtin, SortedMap.get?_insert]
  rfl

/-- The posts are no filter. -/
theorem plain_posts (posts : List Post) :
    Variables.Plain (SortedMap.empty.insert "posts" (.list (posts.map Post.toValue))) := by
  intro name own action found
  rw [SortedMap.get?_insert] at found
  split at found
  · exact absurd found (by simp)
  · cases found

/-- **Three filters can be used on a page.** -/
theorem scope_send_iff {value result : Value} {name : String} :
    (scopeOf template posts).send value name = .ok result ↔
      (name = postifyEachName ∧
          (postFilters.postifyEach template).perform Filter.call value = .ok result) ∨
        (name = friendlyDatetimeName ∧ friendlyDatetime value = .ok result) ∨
          (name = joinLinesName ∧ joinLines value = .ok result) :=
  Variables.siteScope_send_iff (plain_posts posts)

theorem scope_value_iff {key : String} {value : Value} :
    (scopeOf template posts).value key = .ok value ↔
      (key = "posts" ∧ value = .list (posts.map Post.toValue)) ∨
        ((key = joinLinesName ∨ key = friendlyDatetimeName ∨ key = postifyEachName) ∧
          ∃ action, (pageVariables template posts).get? key = some (.filter key action) ∧
            value = .filter key action) := by
  refine Variables.value_eq_ok_iff.trans ?_
  constructor
  · intro found
    have listed := found
    rw [get?_pageVariables] at found
    split at found
    · exact .inr ⟨.inr (.inr ‹_›), _, listed.trans found.symm, (Option.some.inj found).symm⟩
    · split at found
      · exact .inr ⟨.inr (.inl ‹_›), _, listed.trans found.symm, (Option.some.inj found).symm⟩
      · split at found
        · exact .inr ⟨.inl ‹_›, _, listed.trans found.symm, (Option.some.inj found).symm⟩
        · split at found
          · exact .inl ⟨‹_›, (Option.some.inj found).symm⟩
          · exact absurd found (by simp)
  · rintro (⟨rfl, rfl⟩ | ⟨-, action, found, rfl⟩)
    · rw [get?_pageVariables]
      rfl
    · exact found

/-- No filter accepts a filter. -/
theorem filter_passes_iff {own : String} {action : Action} {filters : List String} :
    (scopeOf template posts).Passes (.filter own action) filters ↔ filters = [] :=
  Variables.siteScope_filter_passes_iff (plain_posts posts)

/-- No filter accepts the empty text. -/
theorem empty_passes_iff {filters : List String} :
    (scopeOf template posts).Passes (.text "") filters ↔ filters = [] := by
  refine Scope.passes_iff_nil fun name next sent => ?_
  have speaks := Variables.siteScope_speaksOnly (plain_posts posts) template
  obtain ⟨-, spoken⟩ := (speaks "" name next).mp sent
  obtain ⟨timestamp, same, -⟩ := friendlyDatetime_eq_ok_iff.mp spoken
  exact timestamp.empty_ne_text (Value.text.inj same)

/-- **A post is not joined, nor rendered twice**: it passes no filters, or it is rendered first, and
is joined next if anything follows. -/
theorem posts_passes {post : Post} {filters : List String}
    (passes : (scopeOf template [post]).Passes (.list ([post].map Post.toValue)) filters) :
    filters = [] ∨ filters = [postifyEachName] ∨
      ∃ rest, filters = postifyEachName :: joinLinesName :: rest := by
  cases filters with
  | nil => exact .inl rfl
  | cons name filters =>
    obtain ⟨next, sent, passes'⟩ := Scope.passes_cons.mp passes
    rcases scope_send_iff.mp sent with ⟨rfl, rendered⟩ | ⟨-, spoken⟩ | ⟨-, joined⟩
    · obtain ⟨blocks, each, rfl⟩ := perform_postifyEach_iff.mp rendered
      cases filters with
      | nil => exact .inr (.inl rfl)
      | cons name' filters =>
        obtain ⟨next, sent', -⟩ := Scope.passes_cons.mp passes'
        rcases scope_send_iff.mp sent' with ⟨-, rendered'⟩ | ⟨-, spoken⟩ | ⟨rfl, -⟩
        · rw [nil_of_postifyEach_texts rendered', mapM_eq_ok_iff] at each
          exact absurd each (by simp)
        · obtain ⟨_, ⟨⟩, -⟩ := friendlyDatetime_eq_ok_iff.mp spoken
        · exact .inr (.inr ⟨filters, rfl⟩)
    · obtain ⟨_, ⟨⟩, -⟩ := friendlyDatetime_eq_ok_iff.mp spoken
    · obtain ⟨lines, same, -⟩ := joinLines_eq_ok_iff.mp joined
      cases lines with
      | nil => exact absurd same (by simp)
      | cons line lines =>
        have record := (List.cons.inj (Value.list.inj same)).1
        exact absurd record (by simp [Post.toValue, Value.ofVariables])

/-- **Nothing is done to posts that are rendered and joined**, because without posts the empty text
is left. -/
theorem nil_of_no_posts_pass {filters : List String}
    (passes : (scopeOf template []).Passes (.list ([].map Post.toValue))
      (postifyEachName :: joinLinesName :: filters)) : filters = [] := by
  obtain ⟨next, sent, passes⟩ := Scope.passes_cons.mp passes
  obtain ⟨next', sent', passes⟩ := Scope.passes_cons.mp passes
  have rendered : next = .list [] := by
    rcases scope_send_iff.mp sent with ⟨-, rendered⟩ | ⟨other, -⟩ | ⟨other, -⟩
    · obtain ⟨blocks, each, rfl⟩ := perform_postifyEach_iff.mp rendered
      obtain rfl : [] = blocks := Except.ok.inj each
      rfl
    · exact absurd other (by decide)
    · exact absurd other (by decide)
  have joined : next' = .text "" := by
    subst rendered
    rcases scope_send_iff.mp sent' with ⟨other, -⟩ | ⟨other, -⟩ | ⟨-, joined⟩
    · exact absurd other (by decide)
    · exact absurd other (by decide)
    · exact (Except.ok.inj joined).symm
  subst joined
  exact empty_passes_iff.mp passes

/-- A post by itself can be rendered when the template can be filled in for it. -/
theorem postifyEach_one_iff {post : Post} :
    (∃ filter value, (Registry.builtin template).lookup postifyEachName = .ok filter ∧
        filter.call (.list [post.toValue]) = .ok value) ↔
      ∃ text, template.applyIn post.scope = .ok text := by
  have held : (Registry.builtin template).lookup postifyEachName =
      .ok ⟨postifyEachName, postFilters.postifyEach template⟩ := by
    rw [Registry.builtin, Registry.lookup_register, if_pos rfl]
  constructor
  · rintro ⟨filter, value, looked, called⟩
    obtain rfl := Except.ok.inj (held.symm.trans looked)
    have rendered : (postFilters.postifyEach template).perform Filter.call
        (.list ([post].map Post.toValue)) = .ok value := (Action.call_eq _ _).symm.trans called
    obtain ⟨blocks, each, -⟩ := perform_postifyEach_iff.mp rendered
    exact exists_map_eq_ok_iff.mp ⟨blocks, mapM_eq_ok_iff.mp each⟩ post (by simp)
  · rintro ⟨text, applied⟩
    have each : [post].mapM (fun post => template.applyIn post.scope) = .ok [text] := by
      rw [mapM_eq_ok_iff, List.map_singleton, applied]
      rfl
    exact ⟨_, _, held, (Action.call_eq _ _).trans (perform_postifyEach_iff.mpr ⟨_, each, rfl⟩)⟩

/-- Posts that can all be rendered pass the filter that renders them, and the one that joins what
was rendered. -/
theorem rendered_posts_pass (safe : template.SafeInPost)
    (accepted : ∀ post ∈ posts, post.Accepted) {filters : List String}
    (short : filters = [] ∨ filters = [joinLinesName]) :
    (scopeOf template posts).Passes (.list (posts.map Post.toValue))
      (postifyEachName :: filters) := by
  have each : ∀ post ∈ posts, ∃ text, template.applyIn post.scope = .ok text := fun post mem =>
    Post.applyIn_succeeds_iff_safe.mpr safe post (accepted post mem)
  obtain ⟨blocks, same⟩ := exists_map_eq_ok_iff.mpr each
  have rendered := perform_postifyEach_iff.mpr ⟨blocks, mapM_eq_ok_iff.mpr same, rfl⟩
  refine Scope.passes_cons.mpr ⟨_, scope_send_iff.mpr (.inl ⟨rfl, rendered⟩), ?_⟩
  rcases short with rfl | rfl
  · exact Scope.passes_nil _
  · have joined := joinLines_eq_ok_iff.mpr ⟨blocks, rfl, rfl⟩
    exact Scope.passes_cons.mpr
      ⟨_, scope_send_iff.mpr (.inr (.inr ⟨rfl, joined⟩)), Scope.passes_nil _⟩

/-- **The references that have a value for all posts are the safe ones.** -/
theorem values_iff_safe (safe : template.SafeInPost) {ref : Reference} :
    (∀ posts : List Post, (∀ post ∈ posts, post.Accepted) →
      (scopeOf template posts).Values ref.key ref.filters) ↔ ref.SafeInPage := by
  constructor
  · intro always
    obtain ⟨value, found, passes⟩ := always [.blank] (by simpa using Post.accepted_blank)
    rcases scope_value_iff.mp found with ⟨key, rfl⟩ | ⟨key, action, -, rfl⟩
    · refine .inl ⟨key, ?_⟩
      rcases posts_passes passes with none | one | ⟨rest, more⟩
      · exact .inl none
      · exact .inr (.inl one)
      · obtain ⟨value, found, passes⟩ := always [] (by simp)
        rcases scope_value_iff.mp found with ⟨-, rfl⟩ | ⟨other, -⟩
        · rw [more] at passes ⊢
          exact .inr (.inr (by rw [nil_of_no_posts_pass passes]))
        · rw [key] at other
          exact absurd other (by decide)
    · exact .inr ⟨key, filter_passes_iff.mp passes⟩
  · rintro (⟨key, filters⟩ | ⟨key, filters⟩) posts accepted
    · refine ⟨_, scope_value_iff.mpr (.inl ⟨key, rfl⟩), ?_⟩
      rcases filters with none | one | two
      · rw [none]
        exact Scope.passes_nil _
      · rw [one]
        exact rendered_posts_pass safe accepted (.inl rfl)
      · rw [two]
        exact rendered_posts_pass safe accepted (.inr rfl)
    · have held : ∃ action, (pageVariables template posts).get? ref.key =
          some (.filter ref.key action) := by
        rw [get?_pageVariables]
        rcases key with key | key | key <;> exact ⟨_, by rw [key]; rfl⟩
      obtain ⟨action, held⟩ := held
      exact ⟨_, scope_value_iff.mpr (.inr ⟨key, action, held, rfl⟩), filter_passes_iff.mpr filters⟩

end Site

/-! ## 4. Safe templates -/

/-- **The templates that never fail are the safe ones.**  Rendering a post through a template
succeeds for all posts whose timestamps are accepted, exactly when the template is safe for a post.
And with such a template, a page can be made from any number of such posts exactly when its
template is safe for a page. -/
theorem safe_templates (template : Template) :
    ((∀ post : Post, post.Accepted → ∃ filter value,
        (Registry.builtin template).lookup postifyEachName = .ok filter ∧
          filter.call (.list [post.toValue]) = .ok value) ↔ template.SafeInPost) ∧
      (template.SafeInPost → ∀ page : Template,
        (∀ posts : List Post, (∀ post ∈ posts, post.Accepted) →
          ∃ html, page.apply (Site.pageVariables template posts) = .ok html) ↔
        page.SafeInPage) := by
  constructor
  · simp only [Site.postifyEach_one_iff, Post.applyIn_succeeds_iff_safe]
  · intro safe page
    simp only [Template.SafeInPage, ← Site.values_iff_safe safe]
    have filled : ∀ posts, (∃ html, page.apply (Site.pageVariables template posts) = .ok html) ↔
        ∀ ref, .reference ref ∈ page.segments →
          (Site.scopeOf template posts).Values ref.key ref.filters := fun posts =>
      Template.applyIn_succeeds_iff
    simp only [filled]
    exact ⟨fun all ref mem posts accepted => all posts accepted ref mem,
      fun all posts accepted ref mem => all ref mem posts accepted⟩

/-- The built-in templates never fail. -/
theorem safe_templates_builtin : Template.post.SafeInPost ∧ Template.page.SafeInPage ∧
    ∃ html, Template.page.apply (Site.pageVariables Template.post
      [⟨"2021-03-05 09:07:00", "\x7b\x7b"⟩, ⟨"2021-03-05 09:07:00", ""⟩]) = .ok html := by
  have post : Template.post.SafeInPost := by
    intro ref mem
    have refs : ref = ⟨"text", [], ⟨13, 23⟩⟩ ∨ ref = ⟨"datetime", [], ⟨44, 58⟩⟩ ∨
        ref = ⟨"datetime", ["friendly-datetime"], ⟨60, 94⟩⟩ := by
      simpa [Template.post] using mem
    rcases refs with rfl | rfl | rfl <;> decide
  have page : Template.page.SafeInPage := by
    intro ref mem
    obtain rfl : ref = ⟨"posts", ["postify-each", "join-lines"], ⟨543, 582⟩⟩ := by
      simpa [Template.page] using mem
    decide
  refine ⟨post, page, ((safe_templates Template.post).2 post Template.page).mpr page _ ?_⟩
  have same : "2021-03-05 09:07:00" = Timestamp.text ⟨⟨2021, 3, 5, 9, 7, 0⟩, by decide⟩ := by
    decide +kernel
  have accepted : ∀ text, Post.Accepted ⟨"2021-03-05 09:07:00", text⟩ := fun text =>
    Post.accepted_iff.mpr ⟨_, same⟩
  simpa using ⟨accepted _, accepted _⟩

end SinglePage
