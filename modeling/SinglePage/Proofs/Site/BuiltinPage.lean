/-
# Pages made from the built-in templates

The built-in page lists its posts through two filters, and the first of them fills the built-in post
in once for each.  What comes out is fixed text around the sections of the posts, and fixed text
around the pieces of each section; nothing that a post holds is read as a template again.

* `Post.applyIn_scope`, `Site.apply_pageVariables`: what the two templates make of one post and of
  all posts;
* `Site.render_builtin`: what a site without templates of its own renders, and which error it
  reports if it cannot.
-/
import Mathlib.Tactic.Choose
import SinglePage.Proofs.Filter.PostScope
import SinglePage.Proofs.Site.Reading

namespace SinglePage

/-! ## 1. One post -/

theorem Segment.renderIn_literal (scope : Scope Value) (text : String) :
    Segment.renderIn scope (.literal text) = .ok text :=
  rfl

/-- The section of a page that the built-in template makes of a post, whose timestamp is spoken
in this way. -/
def Post.block (post : Post) (spoken : String) : String :=
  Template.postHead ++ post.text ++ Template.postMiddle ++ post.datetime ++
    Template.postBetween ++ spoken ++ Template.postFoot

/-- A timestamp as it is spoken. -/
def spokenForm (datetime : String) : Except SiteError String :=
  match Timestamp.parse? datetime with
  | some timestamp => .ok timestamp.spoken
  | none => .error (.malformedTimestamp datetime)

theorem friendlyDatetime_text (datetime : String) :
    friendlyDatetime (.text datetime) = (spokenForm datetime).map .text := by
  unfold spokenForm
  simp only [friendlyDatetime, Value.asText, bind, Except.bind]
  cases Timestamp.parse? datetime <;> rfl

theorem spokenForm_of_accepted {datetime : String} {value : Value}
    (accepted : friendlyDatetime (.text datetime) = .ok value) :
    ∃ spoken, spokenForm datetime = .ok spoken ∧ value = .text spoken := by
  rw [friendlyDatetime_text] at accepted
  cases form : spokenForm datetime with
  | error e =>
    rw [form] at accepted
    exact absurd accepted (by simp [Except.map])
  | ok spoken =>
    rw [form] at accepted
    exact ⟨spoken, rfl, (Except.ok.inj accepted).symm⟩

/-- A timestamp that is not accepted is reported as it is. -/
theorem spokenForm_of_refused {datetime : String}
    (refused : ∀ value, friendlyDatetime (.text datetime) ≠ .ok value) :
    spokenForm datetime = .error (.malformedTimestamp datetime) := by
  unfold spokenForm
  cases parsed : Timestamp.parse? datetime with
  | none => rfl
  | some timestamp =>
    refine absurd ?_ (refused (.text timestamp.spoken))
    rw [friendlyDatetime_text, spokenForm, parsed]
    rfl

namespace Post

/-- What the built-in template of a post is filled in from. -/
def scope (post : Post) : Scope Value :=
  Variables.scope Filter.call (post.toVariables.extend Registry.postFilters.toVariables)

theorem scope_value_text (post : Post) : post.scope.value "text" = .ok (.text post.text) := by
  have found : (post.toVariables.extend Registry.postFilters.toVariables).get? "text" =
      some (.text post.text) := by
    rw [SortedMap.get?_extend, Registry.get?_postFilters, toVariables, SortedMap.get?_insert]
    rfl
  simp only [scope, Variables.scope, Variables.value, found]

theorem scope_value_datetime (post : Post) :
    post.scope.value "datetime" = .ok (.text post.datetime) := by
  have found : (post.toVariables.extend Registry.postFilters.toVariables).get? "datetime" =
      some (.text post.datetime) := by
    rw [SortedMap.get?_extend, Registry.get?_postFilters, toVariables, SortedMap.get?_insert]
    rfl
  simp only [scope, Variables.scope, Variables.value, found]

theorem scope_send_friendly (post : Post) (value : Value) :
    post.scope.send value "friendly-datetime" = friendlyDatetime value := by
  have found : (post.toVariables.extend Registry.postFilters.toVariables).get?
      "friendly-datetime" = some (.filter "friendly-datetime" .friendlyDatetime) := by
    rw [SortedMap.get?_extend, Registry.get?_postFilters]
    rfl
  simp only [scope, Variables.scope, Variables.send, Variables.filter, found, Value.asFilter]
  exact Action.call_eq .friendlyDatetime value

theorem renderIn_text (post : Post) (span : Span) :
    Segment.renderIn post.scope (.reference ⟨"text", [], span⟩) = .ok post.text := by
  simp only [Segment.renderIn, Reference.evaluateIn, scope_value_text]
  rfl

theorem renderIn_datetime (post : Post) (span : Span) :
    Segment.renderIn post.scope (.reference ⟨"datetime", [], span⟩) = .ok post.datetime := by
  simp only [Segment.renderIn, Reference.evaluateIn, scope_value_datetime]
  rfl

theorem renderIn_friendly (post : Post) (span : Span) :
    Segment.renderIn post.scope (.reference ⟨"datetime", ["friendly-datetime"], span⟩) =
      spokenForm post.datetime := by
  simp only [Segment.renderIn, Reference.evaluateIn, scope_value_datetime]
  show post.scope.display <$>
    (post.scope.send (.text post.datetime) "friendly-datetime" >>= pure) = _
  rw [scope_send_friendly, friendlyDatetime_text]
  cases spokenForm post.datetime <;> rfl

/-- **What the built-in template makes of a post.** -/
theorem applyIn_scope (post : Post) :
    Template.post.applyIn post.scope = (spokenForm post.datetime).map post.block := by
  have segments : Template.post.segments =
    [.literal Template.postHead, .reference ⟨"text", [], ⟨13, 23⟩⟩, .literal Template.postMiddle,
      .reference ⟨"datetime", [], ⟨44, 58⟩⟩, .literal Template.postBetween] ++
    .reference ⟨"datetime", ["friendly-datetime"], ⟨60, 94⟩⟩ :: [.literal Template.postFoot] := rfl
  cases spoken : spokenForm post.datetime with
  | error e =>
    rw [Template.applyIn, segments, mapM_eq_error ((renderIn_friendly post _).trans spoken)]
    · rfl
    · simp [renderIn_text, renderIn_datetime, Segment.renderIn_literal]
  | ok form =>
    refine Template.applyIn_eq_ok_iff.mpr ⟨[Template.postHead, post.text, Template.postMiddle,
      post.datetime, Template.postBetween, form, Template.postFoot], ?_, ?_⟩
    · rw [segments]
      simp [renderIn_text, renderIn_datetime, renderIn_friendly, Segment.renderIn_literal, spoken]
    · simp [block, String.join]

/-- The section of a post, if its timestamp can be spoken. -/
def rendered (post : Post) : Except SiteError String :=
  (spokenForm post.datetime).map post.block

theorem renderRecord_toValue (post : Post) :
    renderRecord Filter.call Template.post Registry.postFilters.toVariables post.toValue =
      post.rendered := by
  simp only [renderRecord, toValue, Value.asRecord_ofVariables]
  exact post.applyIn_scope

end Post

/-! ## 2. The page -/

namespace Site

open World

/-- The page with the given sections. -/
def pageOf (blocks : List String) : String :=
  Template.pageHead ++ "\n".intercalate blocks ++ Template.pageFoot

/-- What the built-in page is filled in from. -/
def pageScope (posts : List Post) : Scope Value :=
  Variables.scope Filter.call (pageVariables Template.post posts)

theorem pageScope_value_posts (posts : List Post) :
    (pageScope posts).value "posts" = .ok (.list (posts.map Post.toValue)) := by
  have found : (pageVariables Template.post posts).get? "posts" =
      some (.list (posts.map Post.toValue)) := by
    rw [pageVariables, Variables.withFilters, SortedMap.get?_extend, Registry.get?_builtin,
      SortedMap.get?_insert]
    rfl
  simp only [pageScope, Variables.scope, Variables.value, found]

theorem pageScope_send_postifyEach (posts : List Post) :
    (pageScope posts).send (.list (posts.map Post.toValue)) "postify-each" =
      (posts.mapM Post.rendered).map fun blocks => .list (blocks.map .text) := by
  have found : (pageVariables Template.post posts).get? "postify-each" =
      some (.filter "postify-each" (Registry.postFilters.postifyEach Template.post)) := by
    rw [pageVariables, Variables.withFilters, SortedMap.get?_extend, Registry.get?_builtin]
    rfl
  have items : (posts.map Post.toValue).mapM (renderRecord Filter.call Template.post
      (filterVariables Registry.postFilters.actions.entries)) = posts.mapM Post.rendered := by
    rw [Registry.filterVariables_entries, List.mapM_map]
    exact congrArg (posts.mapM ·) (funext Post.renderRecord_toValue)
  simp only [pageScope, Variables.scope, Variables.send, Variables.filter, found, Value.asFilter]
  refine (Action.call_eq _ _).trans ?_
  simp only [Registry.postifyEach, Action.perform, Value.asList]
  show (do let texts ← List.mapM _ _; return _ : Except SiteError Value) = _
  rw [items]
  cases posts.mapM Post.rendered <;> rfl

theorem pageScope_send_joinLines (posts : List Post) (blocks : List String) :
    (pageScope posts).send (.list (blocks.map .text)) "join-lines" =
      .ok (.text ("\n".intercalate blocks)) := by
  have found : (pageVariables Template.post posts).get? "join-lines" =
      some (.filter "join-lines" .joinLines) := by
    rw [pageVariables, Variables.withFilters, SortedMap.get?_extend, Registry.get?_builtin,
      if_neg (by decide), Registry.get?_postFilters]
    rfl
  have lines : (blocks.map Value.text).mapM Value.asText = .ok blocks := by
    rw [mapM_eq_ok_iff, List.map_map]
    rfl
  simp only [pageScope, Variables.scope, Variables.send, Variables.filter, found, Value.asFilter]
  refine (Action.call_eq .joinLines _).trans ?_
  simp only [Action.perform, joinLines, Value.asList]
  show (do let texts ← List.mapM _ _; return _ : Except SiteError Value) = _
  rw [lines]
  rfl

/-- **What the built-in page makes of posts.** -/
theorem apply_pageVariables (posts : List Post) :
    Template.page.apply (pageVariables Template.post posts) =
      (posts.mapM Post.rendered).map pageOf := by
  have segments : Template.page.segments = [.literal Template.pageHead] ++
    .reference ⟨"posts", ["postify-each", "join-lines"], ⟨543, 582⟩⟩ ::
      [.literal Template.pageFoot] := rfl
  have reference : Segment.renderIn (pageScope posts)
      (.reference ⟨"posts", ["postify-each", "join-lines"], ⟨543, 582⟩⟩) =
        (posts.mapM Post.rendered).map ("\n".intercalate ·) := by
    simp only [Segment.renderIn, Reference.evaluateIn, pageScope_value_posts]
    show (pageScope posts).display <$> ((pageScope posts).send (.list (posts.map Post.toValue))
      "postify-each" >>= fun list => (pageScope posts).send list "join-lines" >>= pure) = _
    rw [pageScope_send_postifyEach]
    cases posts.mapM Post.rendered with
    | error e => rfl
    | ok blocks =>
      show (pageScope posts).display <$>
        ((pageScope posts).send (.list (blocks.map .text)) "join-lines" >>= pure) = _
      rw [pageScope_send_joinLines]
      rfl
  show Template.page.applyIn (pageScope posts) = _
  cases all : posts.mapM Post.rendered with
  | error e =>
    have fails := reference.trans (congrArg (Except.map ("\n".intercalate ·)) all)
    rw [Template.applyIn, segments, mapM_eq_error fails]
    · simp only [Functor.map, Except.map]
    · simp [Segment.renderIn_literal]
  | ok blocks =>
    refine Template.applyIn_eq_ok_iff.mpr ⟨[Template.pageHead, "\n".intercalate blocks,
      Template.pageFoot], ?_, ?_⟩
    · rw [segments]
      simp [reference, all, Segment.renderIn_literal, Except.map]
    · simp [pageOf, String.join]

theorem readPost_of_readText {world : World} {entry : PostEntry} {text : String}
    (readable : world.tree.readText entry.path = .ok text) :
    outcome (readPost entry) world = .ok ⟨entry.datetime, text⟩ := by
  rw [outcome_readPost, readable]
  rfl

/-- Without templates of one's own, rendering is listing the posts, reading them, and putting their
sections into the built-in page. -/
theorem outcome_render_builtin {world : World} {options : Options} {entries : List PostEntry}
    (plain : ∀ directory ∈ options.templates,
      world.tree.kind? (directory.join Template.pageName) = none ∧
        world.tree.kind? (directory.join Template.postName) = none)
    (listed : outcome (listPosts options.posts options.recursive) world = .ok entries) :
    outcome (render options) world =
      (entries.mapM fun entry => outcome (readPost entry) world) >>= fun posts =>
        (posts.mapM Post.rendered).map pageOf := by
  have page : outcome (loadTemplate options.templates Template.pageName) world =
      .ok Template.page :=
    outcome_loadTemplate_builtin fun directory mem => (plain directory mem).1
  have post : outcome (loadTemplate options.templates Template.postName) world =
      .ok Template.post :=
    outcome_loadTemplate_builtin fun directory mem => (plain directory mem).2
  rw [outcome_render, page, post, listed]
  exact congrArg _ (funext apply_pageVariables)

/-- **A page made from the built-in templates.**  The posts of a directory can be listed.  If all of
them can be read and their timestamps are accepted, the page is the built-in one with their
sections in it, joined by newlines.  Otherwise nothing is rendered: the first post that cannot be
read is reported, and where there is none, the first whose timestamp is not accepted. -/
theorem render_builtin {world : World} {options : Options}
    (isDirectory : world.tree.kind? options.posts = some .directory)
    (plain : ∀ directory ∈ options.templates,
      world.tree.kind? (directory.join Template.pageName) = none ∧
        world.tree.kind? (directory.join Template.postName) = none) :
    ∃ entries, outcome (listPosts options.posts options.recursive) world = .ok entries ∧
      (∀ text spoken : PostEntry → String,
        (∀ entry ∈ entries, world.tree.readText entry.path = .ok (text entry)) →
        (∀ entry ∈ entries,
          friendlyDatetime (.text entry.datetime) = .ok (.text (spoken entry))) →
        outcome (render options) world = .ok (pageOf (entries.map fun entry =>
          Post.block ⟨entry.datetime, text entry⟩ (spoken entry)))) ∧
      (∀ before entry after cause, entries = before ++ entry :: after →
        (∀ other ∈ before, ∃ text, world.tree.readText other.path = .ok text) →
        world.tree.readText entry.path = .error cause →
        outcome (render options) world = .error (.io cause)) ∧
      ∀ before entry after, entries = before ++ entry :: after →
        (∀ other ∈ entries, ∃ text, world.tree.readText other.path = .ok text) →
        (∀ other ∈ before, ∃ value, friendlyDatetime (.text other.datetime) = .ok value) →
        (∀ value, friendlyDatetime (.text entry.datetime) ≠ .ok value) →
        outcome (render options) world = .error (.malformedTimestamp entry.datetime) := by
  obtain ⟨entries, listed⟩ := listPosts_succeeds isDirectory options.recursive
  have rendered := outcome_render_builtin plain listed
  refine ⟨entries, listed, ?_, ?_, ?_⟩
  · intro text spoken readable accepted
    have read : (entries.mapM fun entry => outcome (readPost entry) world) =
        .ok (entries.map fun entry => ⟨entry.datetime, text entry⟩) :=
      mapM_eq_ok_map fun entry mem => readPost_of_readText (readable entry mem)
    have blocks : (entries.map fun entry => (⟨entry.datetime, text entry⟩ : Post)).mapM
        Post.rendered =
        .ok (entries.map fun entry => Post.block ⟨entry.datetime, text entry⟩ (spoken entry)) := by
      rw [List.mapM_map]
      refine mapM_eq_ok_map ?_
      intro entry mem
      obtain ⟨form, eq, same⟩ := spokenForm_of_accepted (accepted entry mem)
      obtain rfl : spoken entry = form := by simpa using same
      exact congrArg (Except.map (Post.block ⟨entry.datetime, text entry⟩)) eq
    rw [rendered, read]
    exact congrArg (Except.map pageOf) blocks
  · rintro before entry after cause rfl readable unreadable
    have fails : outcome (readPost entry) world = .error (.io cause) := by
      rw [outcome_readPost, unreadable]
      rfl
    have read : ((before ++ entry :: after).mapM fun entry => outcome (readPost entry) world) =
        .error (.io cause) := by
      refine mapM_eq_error (f := fun entry => outcome (readPost entry) world) fails ?_
      intro other mem
      obtain ⟨text, ok⟩ := readable other mem
      exact ⟨_, readPost_of_readText ok⟩
    rw [rendered, read]
    rfl
  · rintro before entry after rfl readable accepted refused
    choose! text readable using readable
    have read : ((before ++ entry :: after).mapM fun entry => outcome (readPost entry) world) =
        .ok ((before ++ entry :: after).map fun entry => ⟨entry.datetime, text entry⟩) :=
      mapM_eq_ok_map fun entry mem => readPost_of_readText (readable entry mem)
    have blocks : ((before ++ entry :: after).map fun entry =>
        (⟨entry.datetime, text entry⟩ : Post)).mapM Post.rendered =
          .error (.malformedTimestamp entry.datetime) := by
      rw [List.mapM_map]
      refine mapM_eq_error ?_ fun other mem => ?_
      · exact congrArg (Except.map _) (spokenForm_of_refused refused)
      · obtain ⟨value, ok⟩ := accepted other mem
        obtain ⟨form, eq, -⟩ := spokenForm_of_accepted ok
        exact ⟨_, congrArg (Except.map _) eq⟩
    rw [rendered, read]
    exact congrArg (Except.map pageOf) blocks

/-- A site with one post, whose text looks like a reference. -/
def onePost : World :=
  ⟨(FileTree.empty.put [⟨"posts", by decide⟩] .directory).put
    [⟨"posts", by decide⟩, ⟨"2021-03-05_09.07.00.txt", by decide⟩]
    (.file "\x7b\x7b text | \n\n".toUTF8), []⟩

/-- The text of a post stays as it is, whatever it looks like. -/
theorem render_builtin_onePost :
    outcome (render default) onePost = .ok (pageOf [Post.block
      ⟨"2021-03-05 09:07:00", "\x7b\x7b text | \n\n"⟩ "Mar 05, 2021 09:07AM"]) := by
  have isDirectory : onePost.tree.kind? ⟨"posts"⟩ = some .directory := by decide +kernel
  have names : onePost.tree.list ⟨"posts"⟩ = .ok [⟨"2021-03-05_09.07.00.txt", by decide⟩] := by
    rfl
  have listed : outcome (listPosts ⟨"posts"⟩ false) onePost =
      .ok [⟨⟨"posts/2021-03-05_09.07.00.txt"⟩, "2021-03-05 09:07:00"⟩] := by
    have found : outcome (findPosts ⟨"posts"⟩ false) onePost =
        .ok [⟨⟨"posts/2021-03-05_09.07.00.txt"⟩, "2021-03-05 09:07:00"⟩] :=
      (outcome_findIn names).trans (congrArg Except.ok (by decide +kernel))
    rw [outcome_listPosts, if_pos isDirectory, found]
    simp [Except.map, sortEntries]
  obtain ⟨entries, listed', built, -, -⟩ := @render_builtin onePost default isDirectory
    fun _ mem => absurd mem (by simp [default])
  obtain rfl : [_] = entries := Except.ok.inj (listed.symm.trans listed')
  refine built (fun _ => "\x7b\x7b text | \n\n") (fun _ => "Mar 05, 2021 09:07AM") ?_ ?_
  · intro entry mem
    obtain rfl := List.mem_singleton.mp mem
    exact FileTree.readText_eq_ok_iff.mpr rfl
  · intro entry mem
    obtain rfl := List.mem_singleton.mp mem
    have spoken : (Timestamp.parse? "2021-03-05 09:07:00").map Timestamp.spoken =
        some "Mar 05, 2021 09:07AM" := by decide +kernel
    rw [friendlyDatetime_text, spokenForm]
    obtain ⟨timestamp, parsed, eq⟩ := Option.map_eq_some_iff.mp spoken
    rw [parsed, ← eq]
    rfl

end Site

end SinglePage
