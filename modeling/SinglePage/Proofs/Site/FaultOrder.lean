/-
# Which fault of a site is reported

A site can be at fault in several places at once: in its templates, in its posts directory, in the
files of its posts, and in what its templates refer to.  The steps of a rendering are taken in this
order, and each of them is finished before the next one begins, so it is always a fault of the first
step which has one that is reported.

* `SiteError.isOfFilling`: the faults that only show when a template is filled in;
* `loadTemplate_not_ofFilling`: none of them comes from loading a template;
* `mapM_readPost_eq_ok_iff`, `mapM_readPost_unreadable`: what reading the listed posts comes to;
* `reportsInOrder`: what is reported once the templates are there;
* `render_fault_order`: so faults of the templates are reported whatever the posts are.
-/
import SinglePage.Proofs.Site.Reading
import SinglePage.Proofs.Filter.Stages
import SinglePage.Proofs.Template.Layout

namespace SinglePage

/-! ## 1. Faults of filling in -/

/-- **A fault that shows when a template is filled in**: a name without a value, a value of the
wrong kind, or a text that is no timestamp. -/
def SiteError.isOfFilling : SiteError → Bool
  | .missingVariable _ => true
  | .missingFilter _ => true
  | .typeMismatch _ _ => true
  | .malformedTimestamp _ => true
  | _ => false

theorem Template.builtin_not_ofFilling {name : String} {e : SiteError}
    (refused : Template.builtin name = .error e) : e.isOfFilling = false := by
  unfold Template.builtin at refused
  split at refused
  · exact absurd refused (by simp)
  · split at refused
    · exact absurd refused (by simp)
    · obtain rfl := Except.error.inj refused
      rfl

namespace Site

open World

/-! ## 2. Templates -/

variable {world : World}

/-- **Loading a template shows no fault of filling one in.** -/
theorem loadTemplate_not_ofFilling {directory : Option Path} {name : String} {e : SiteError}
    (fails : outcome (loadTemplate directory name) world = .error e) : e.isOfFilling = false := by
  by_cases plain : ∀ path ∈ directory, world.tree.kind? (path.join name) = none
  · rw [outcome_loadTemplate_builtin plain] at fails
    exact Template.builtin_not_ofFilling fails
  · obtain ⟨path, rfl, leads⟩ : ∃ path, directory = some path ∧
        world.tree.kind? (path.join name) ≠ none := by
      simpa using plain
    rw [outcome_loadTemplate_file leads, outcome_templateFromFile] at fails
    split at fails
    · obtain rfl := Except.error.inj fails
      rfl
    · obtain ⟨offset, rfl⟩ := Layout.unterminated_of_parse fails
      rfl

/-! ## 3. Posts -/

/-- A list of posts is refused only where there is no directory. -/
theorem listPosts_refused {directory : Path} {recursive : Bool} {e : SiteError}
    (fails : outcome (listPosts directory recursive) world = .error e) :
    e = .postsDirectoryNotFound directory := by
  by_cases isDirectory : world.tree.kind? directory = some .directory
  · obtain ⟨entries, listed⟩ := listPosts_succeeds isDirectory recursive
    rw [listed] at fails
    exact absurd fails (by simp)
  · rw [outcome_listPosts, if_neg isDirectory] at fails
    exact (Except.error.inj fails).symm

/-- The files of some entries can be read, and these are their posts. -/
def ReadAs (tree : FileTree) : List PostEntry → List Post → Prop :=
  List.Forall₂ fun entry post =>
    tree.readText entry.path = .ok post.text ∧ post.datetime = entry.datetime

theorem readPost_eq_ok_iff {entry : PostEntry} {post : Post} :
    outcome (readPost entry) world = .ok post ↔
      world.tree.readText entry.path = .ok post.text ∧ post.datetime = entry.datetime := by
  obtain ⟨datetime, text⟩ := post
  rw [outcome_readPost]
  cases world.tree.readText entry.path with
  | error cause => simp [Except.mapError, Except.map]
  | ok content => simp [Except.mapError, Except.map, and_comm, eq_comm]

/-- **All listed posts are read when the files of all of them can be.** -/
theorem mapM_readPost_eq_ok_iff {entries : List PostEntry} {posts : List Post} :
    (entries.mapM fun entry => outcome (readPost entry) world) = .ok posts ↔
      ReadAs world.tree entries posts := by
  rw [mapM_eq_ok_iff_forall₂]
  simp only [readPost_eq_ok_iff, ReadAs]

/-- **The first post that cannot be read is the one reported.** -/
theorem mapM_readPost_unreadable {before after : List PostEntry} {entry : PostEntry}
    {cause : FileError}
    (readable : ∀ other ∈ before, ∃ text, world.tree.readText other.path = .ok text)
    (unreadable : world.tree.readText entry.path = .error cause) :
    ((before ++ entry :: after).mapM fun entry => outcome (readPost entry) world) =
      .error (.io cause) := by
  have fails : outcome (readPost entry) world = .error (.io cause) := by
    rw [outcome_readPost, unreadable]
    rfl
  refine mapM_eq_error (f := fun entry => outcome (readPost entry) world) fails ?_
  intro other mem
  obtain ⟨text, read⟩ := readable other mem
  exact ⟨⟨other.datetime, text⟩, readPost_eq_ok_iff.mpr ⟨read, rfl⟩⟩

/-- Reading posts shows no fault of filling a template in. -/
theorem mapM_readPost_not_ofFilling {entries : List PostEntry} {e : SiteError}
    (fails : (entries.mapM fun entry => outcome (readPost entry) world) = .error e) :
    e.isOfFilling = false := by
  rcases map_outcomes (fun entry => outcome (readPost entry) world) entries with
    ⟨posts, all⟩ | ⟨before, entry, after, e', rfl, succeed, refused⟩
  · rw [mapM_eq_ok_iff.mpr all] at fails
    exact absurd fails (by simp)
  · rw [mapM_eq_error (f := fun entry => outcome (readPost entry) world) refused succeed] at fails
    obtain rfl := Except.error.inj fails
    rw [outcome_readPost] at refused
    cases read : world.tree.readText entry.path with
    | error cause =>
      rw [read] at refused
      obtain rfl := Except.error.inj refused
      rfl
    | ok text =>
      rw [read] at refused
      exact absurd refused (by simp [Except.mapError, Except.map])

/-! ## 4. The order of the steps -/

/-- **What a rendering with these two templates reports.**  A path that leads to no directory comes
first, then the first listed post that cannot be read, and last whatever fault there is in filling
the page in. -/
structure ReportsInOrder (page post : Template) (options : Options) (world : World) : Prop where
  noDirectory : world.tree.kind? options.posts ≠ some .directory →
    outcome (render options) world = .error (.postsDirectoryNotFound options.posts)
  listed : world.tree.kind? options.posts = some .directory →
    ∃ entries, outcome (listPosts options.posts options.recursive) world = .ok entries
  unreadable : ∀ before entry after cause,
    outcome (listPosts options.posts options.recursive) world = .ok (before ++ entry :: after) →
    (∀ other ∈ before, ∃ text, world.tree.readText other.path = .ok text) →
    world.tree.readText entry.path = .error cause →
    outcome (render options) world = .error (.io cause)
  readable : ∀ entries posts,
    outcome (listPosts options.posts options.recursive) world = .ok entries →
    ReadAs world.tree entries posts →
    outcome (render options) world = page.apply (pageVariables post posts)
  filling : ∀ e, outcome (render options) world = .error e → e.isOfFilling = true →
    ∃ entries posts, outcome (listPosts options.posts options.recursive) world = .ok entries ∧
      ReadAs world.tree entries posts ∧ page.apply (pageVariables post posts) = .error e

section Loaded

variable {options : Options} {page post : Template}

/-- With both templates and a list of posts, rendering is reading the posts and filling the page
in. -/
theorem outcome_render_listed {entries : List PostEntry}
    (pageLoaded : outcome (loadTemplate options.templates Template.pageName) world = .ok page)
    (postLoaded : outcome (loadTemplate options.templates Template.postName) world = .ok post)
    (listed : outcome (listPosts options.posts options.recursive) world = .ok entries) :
    outcome (render options) world =
      (entries.mapM fun entry => outcome (readPost entry) world) >>= fun posts =>
        page.apply (pageVariables post posts) := by
  rw [outcome_render, pageLoaded, postLoaded, listed]
  rfl

/-- With both templates, what is wrong with the list of posts is reported. -/
theorem render_of_unlisted {e : SiteError}
    (pageLoaded : outcome (loadTemplate options.templates Template.pageName) world = .ok page)
    (postLoaded : outcome (loadTemplate options.templates Template.postName) world = .ok post)
    (fails : outcome (listPosts options.posts options.recursive) world = .error e) :
    outcome (render options) world = .error e := by
  rw [outcome_render, pageLoaded, postLoaded, fails]
  rfl

/-- **Behind the templates, faults are reported in the order of the steps.** -/
theorem reportsInOrder
    (pageLoaded : outcome (loadTemplate options.templates Template.pageName) world = .ok page)
    (postLoaded : outcome (loadTemplate options.templates Template.postName) world = .ok post) :
    ReportsInOrder page post options world where
  noDirectory missing := by
    refine render_of_unlisted pageLoaded postLoaded ?_
    rw [outcome_listPosts, if_neg missing]
  listed isDirectory := listPosts_succeeds isDirectory options.recursive
  unreadable before entry after cause listed readable unreadable := by
    rw [outcome_render_listed pageLoaded postLoaded listed,
      mapM_readPost_unreadable readable unreadable]
    rfl
  readable entries posts listed read := by
    rw [outcome_render_listed pageLoaded postLoaded listed, mapM_readPost_eq_ok_iff.mpr read]
    rfl
  filling e fails ofFilling := by
    cases listed : outcome (listPosts options.posts options.recursive) world with
    | error other =>
      obtain rfl : other = e := Except.error.inj
        ((render_of_unlisted pageLoaded postLoaded listed).symm.trans fails)
      rw [listPosts_refused listed] at ofFilling
      exact absurd ofFilling (by simp [SiteError.isOfFilling])
    | ok entries =>
      rw [outcome_render_listed pageLoaded postLoaded listed] at fails
      cases read : entries.mapM fun entry => outcome (readPost entry) world with
      | error other =>
        rw [read] at fails
        obtain rfl : other = e := Except.error.inj fails
        rw [mapM_readPost_not_ofFilling read] at ofFilling
        exact absurd ofFilling (by simp)
      | ok posts =>
        rw [read] at fails
        exact ⟨entries, posts, rfl, mapM_readPost_eq_ok_iff.mp read, fails⟩

end Loaded

/-- **Faults are reported in a fixed order, and those of the templates whatever the posts are.**
Two sites may differ in everything but their templates.  If the template of the page cannot be
loaded, both report this; if it can and that of the posts cannot, both report that.  With both
templates loaded, each site reports what is wrong with its posts, and only if nothing is, what is
wrong with filling in the page. -/
theorem render_fault_order {here there : World} {options others : Options}
    (samePage : outcome (loadTemplate options.templates Template.pageName) here =
      outcome (loadTemplate others.templates Template.pageName) there)
    (samePost : outcome (loadTemplate options.templates Template.postName) here =
      outcome (loadTemplate others.templates Template.postName) there) :
    (∀ e, outcome (loadTemplate options.templates Template.pageName) here = .error e →
      outcome (render options) here = .error e ∧ outcome (render others) there = .error e ∧
        e.isOfFilling = false) ∧
    (∀ page e, outcome (loadTemplate options.templates Template.pageName) here = .ok page →
      outcome (loadTemplate options.templates Template.postName) here = .error e →
      outcome (render options) here = .error e ∧ outcome (render others) there = .error e ∧
        e.isOfFilling = false) ∧
    ∀ page post, outcome (loadTemplate options.templates Template.pageName) here = .ok page →
      outcome (loadTemplate options.templates Template.postName) here = .ok post →
      ReportsInOrder page post options here ∧ ReportsInOrder page post others there := by
  refine ⟨?_, ?_, ?_⟩
  · intro e fails
    rw [outcome_render, outcome_render, ← samePage, fails]
    exact ⟨rfl, rfl, loadTemplate_not_ofFilling fails⟩
  · intro page e loaded fails
    rw [outcome_render, outcome_render, ← samePage, ← samePost, loaded, fails]
    exact ⟨rfl, rfl, loadTemplate_not_ofFilling fails⟩
  · intro page post pageLoaded postLoaded
    exact ⟨reportsInOrder pageLoaded postLoaded,
      reportsInOrder (samePage.symm.trans pageLoaded) (samePost.symm.trans postLoaded)⟩

/-- A page that asks for a title, which no site has. -/
def titled : Template where
  source := "" ++ "\x7b\x7b" ++ " title " ++ "\x7d\x7d" ++ ""
  segments := [.literal "", .reference ⟨"title", [], ⟨0, 11⟩⟩, .literal ""]
  parsed := by
    have empty : Template.IsLiteral "" 0 := ⟨_, rfl, by decide, by decide, by decide⟩
    have body : Template.IsBody " title " 7 "title" [] :=
      ⟨_, rfl, by decide, by decide, by decide, fun _ => rfl⟩
    rw [segmentsOf, Template.segmentsFrom_pieces empty body, Template.segmentsFrom_piece empty]
    rfl

/-- A site with this page and without posts. -/
def bare : World :=
  ⟨(FileTree.empty.put [⟨"templates", by decide⟩] .directory).put
    [⟨"templates", by decide⟩, ⟨"page.html", by decide⟩] (.file titled.source.toUTF8), []⟩

/-- The same site with two posts: the first has no timestamp, and the second cannot be read. -/
def faulty : World :=
  ⟨((bare.tree.put [⟨"drafts", by decide⟩] .directory).put
    [⟨"drafts", by decide⟩, ⟨"2021.txt", by decide⟩] (.file ⟨#[.ofNat 255]⟩)).put
    [⟨"drafts", by decide⟩, ⟨"notes.txt", by decide⟩] (.file "".toUTF8), []⟩

/-- Of three faults the post that cannot be read is reported, and without a posts directory that
there is none. -/
theorem render_fault_order_faulty :
    let options : Options := { posts := ⟨"drafts"⟩, templates := some ⟨"templates"⟩ }
    outcome (render options) faulty = .error (.io .notText) ∧
      outcome (render options) bare = .error (.postsDirectoryNotFound ⟨"drafts"⟩) := by
  intro options
  have loaded : ∀ world : World, world.tree.kind? ⟨"templates/page.html"⟩ ≠ none →
      world.tree.readText ⟨"templates/page.html"⟩ = .ok titled.source →
      outcome (loadTemplate options.templates Template.pageName) world = .ok titled :=
    fun world leads read => loadTemplate_eq_ok_iff.mpr
      (.inr ⟨leads, titled.source, read, titled.parse_source⟩)
  have builtin : ∀ world : World, world.tree.kind? ⟨"templates/post.html"⟩ = none →
      outcome (loadTemplate options.templates Template.postName) world = .ok Template.post :=
    fun world missing => loadTemplate_eq_ok_iff.mpr (.inl ⟨missing, rfl⟩)
  have page := loaded faulty (by decide +kernel) (FileTree.readText_eq_ok_iff.mpr rfl)
  have page' := loaded bare (by decide +kernel) (FileTree.readText_eq_ok_iff.mpr rfl)
  have post := builtin faulty (by decide +kernel)
  have post' := builtin bare (by decide +kernel)
  obtain ⟨-, -, behind⟩ := render_fault_order (page.trans page'.symm) (post.trans post'.symm)
  obtain ⟨reports, reports'⟩ := behind titled Template.post page post
  have names : faulty.tree.list ⟨"drafts"⟩ =
      .ok [⟨"2021.txt", by decide⟩, ⟨"notes.txt", by decide⟩] := by rfl
  have listed : outcome (listPosts ⟨"drafts"⟩ false) faulty =
      .ok [⟨⟨"drafts/notes.txt"⟩, "notes"⟩, ⟨⟨"drafts/2021.txt"⟩, "2021"⟩] := by
    have found : outcome (findPosts ⟨"drafts"⟩ false) faulty =
        .ok [⟨⟨"drafts/2021.txt"⟩, "2021"⟩, ⟨⟨"drafts/notes.txt"⟩, "notes"⟩] :=
      (outcome_findIn names).trans (congrArg Except.ok (by decide +kernel))
    have newer : PostEntry.before ⟨⟨"drafts/notes.txt"⟩, "notes"⟩ ⟨⟨"drafts/2021.txt"⟩, "2021"⟩ =
        true := by decide +kernel
    rw [outcome_listPosts, if_pos (by decide +kernel), found]
    simp [Except.map, sortEntries, List.mergeSort, newer]
  refine ⟨?_, reports'.noDirectory (by decide +kernel)⟩
  refine reports.unreadable [⟨⟨"drafts/notes.txt"⟩, "notes"⟩] _ [] .notText listed ?_ (by rfl)
  simpa using ⟨"", FileTree.readText_eq_ok_iff.mpr rfl⟩

end Site

end SinglePage
