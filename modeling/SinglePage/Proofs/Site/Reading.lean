/-
# What a build reads

Loading the templates, listing the posts, reading them and rendering the page only look at the
tree of files, so nothing changes before the page is written.

* `looks_render`: rendering only looks;
* `readText_eq_ok_iff`: a text is read from exactly the bytes that are its UTF-8 form;
* `outcome_loadTemplate_builtin`: where no file takes its place, the built-in template is used;
* `loadTemplate_eq_ok_iff`: which template is loaded;
* `listPosts_succeeds`: the posts of a directory can always be listed.
-/
import SinglePage.Proofs.Site.Looking
import SinglePage.Site.Build

namespace SinglePage

/-! ## 1. Files -/

/-- The text of the file that a path leads to. -/
def FileTree.readText (tree : FileTree) (path : Path) : Except FileError String :=
  match tree.readFile path with
  | .error cause => .error cause
  | .ok bytes =>
    match String.fromUTF8? bytes with
    | some text => .ok text
    | none => .error .notText

theorem fromUTF8?_eq_some_iff {bytes : ByteArray} {text : String} :
    String.fromUTF8? bytes = some text ↔ bytes = text.toUTF8 := by
  unfold String.fromUTF8?
  constructor
  · intro h
    split at h
    · rw [← Option.some.inj h]
      rfl
    · exact absurd h (by simp)
  · rintro rfl
    rw [String.toUTF8_eq_toByteArray, dif_pos text.isValidUTF8]
    rfl

/-- **A text is read from exactly the bytes that are its UTF-8 form.** -/
theorem FileTree.readText_eq_ok_iff {tree : FileTree} {path : Path} {text : String} :
    tree.readText path = .ok text ↔ tree.readFile path = .ok text.toUTF8 := by
  unfold readText
  cases tree.readFile path with
  | error cause => simp
  | ok bytes =>
    rw [Except.ok.injEq, ← fromUTF8?_eq_some_iff]
    dsimp only
    cases String.fromUTF8? bytes <;> simp

/-- **A path leads to a directory exactly when the directory can be found.** -/
theorem FileTree.kind?_eq_directory_iff {tree : FileTree} {path : Path} :
    tree.kind? path = some .directory ↔ ∃ location, tree.directoryAt path = .ok location := by
  have found : tree.directoryAt path = tree.place .target path >>= tree.asDirectory := rfl
  unfold kind?
  rw [found]
  cases tree.place .target path with
  | error cause => simp [bind, Except.bind]
  | ok place =>
    cases place with
    | vacant directory name => simp [bind, Except.bind, asDirectory]
    | occupied location =>
      simp only [bind, Except.bind, asDirectory]
      cases there : tree.node? location with
      | none => simp [isDirectory, there]
      | some node => cases node <;> simp [isDirectory, there]

namespace Site

open World

theorem looks_kind? (path : Path) : Looks (Host.kind? path) := Looks.look _

theorem looks_readText (path : Path) : Looks (Host.readText path) := by
  refine (Looks.look fun tree => tree.readFile path).bind ?_
  intro result
  cases result with
  | error cause => exact Looks.pure _
  | ok bytes =>
    dsimp only
    split <;> exact Looks.pure _

theorem looks_orFail {α : Type} {operation : StateM World (Except FileError α)}
    (looks : Looks operation) : Looks (orFail operation).run :=
  looks.map _

/-! ## 2. Templates -/

theorem looks_templateFromFile (path : Path) : Looks (templateFromFile path).run := by
  refine (looks_readText path).lift.sequence ?_
  intro result
  cases result with
  | error cause => exact Looks.pure _
  | ok source => exact Looks.ofExcept _

theorem looks_builtinTemplate (name : String) : Looks (builtinTemplate name).run :=
  (Looks.note _).lift.sequence fun _ => Looks.ofExcept _

/-- The template for a name and the file that can take its place, if that is something. -/
def templateAs (path : Path) (name : String) (kind : Option FileKind) :
    ExceptT SiteError (StateM World) Template :=
  if kind.isSome then do
    Host.note (m := StateM World) (.customTemplate path)
    templateFromFile path
  else builtinTemplate name

theorem loadTemplate_some (directory : Path) (name : String) :
    loadTemplate (some directory) name =
      liftM (Host.kind? (m := StateM World) (directory.join name)) >>=
        templateAs (directory.join name) name :=
  rfl

theorem looks_templateAs (path : Path) (name : String) (kind : Option FileKind) :
    Looks (templateAs path name kind).run := by
  unfold templateAs
  split
  · exact (Looks.note _).lift.sequence fun _ => looks_templateFromFile path
  · exact looks_builtinTemplate name

theorem looks_loadTemplate (directory : Option Path) (name : String) :
    Looks (loadTemplate directory name).run := by
  cases directory with
  | none => exact looks_builtinTemplate name
  | some directory =>
    rw [loadTemplate_some]
    exact (looks_kind? _).lift.sequence (looks_templateAs _ name)

/-! ## 3. Posts -/

/-- Whether a path leads to a file. -/
def isFile (path : Path) : ExceptT SiteError (StateM World) Bool := do
  return (← Host.kind? (m := StateM World) path) = some .file

/-- The posts among the names that a directory gives. -/
def postsAmong (directory : Path) (names : List FileName) :
    ExceptT SiteError (StateM World) (List PostEntry) :=
  (names.filterMap fun name => PostEntry.ofPath? (directory.join name.text)).filterM fun entry =>
    isFile entry.path

theorem looks_isFile (path : Path) : Looks (isFile path).run :=
  (looks_kind? _).lift.sequence fun _ => Looks.done _

theorem looks_postsAmong (directory : Path) (names : List FileName) :
    Looks (postsAmong directory names).run :=
  Looks.filterM (fun entry : PostEntry => looks_isFile entry.path) _

theorem looks_findIn (directory : Path) : Looks (findIn directory).run :=
  (looks_orFail (Looks.look fun tree => tree.list directory)).sequence (looks_postsAmong directory)

theorem looks_findBelow (directory : Path) : Looks (findBelow directory).run :=
  (Looks.look fun tree => tree.listBelow (fun name => !name.isHidden) directory).lift.sequence
    fun _ => Looks.done _

/-- The posts of a directory as they are found. -/
def findPosts (directory : Path) (recursive : Bool) :
    ExceptT SiteError (StateM World) (List PostEntry) :=
  if recursive then findBelow directory else findIn directory

/-- Puts the posts that were found in order, and notes each of them. -/
def announce (entries : List PostEntry) : ExceptT SiteError (StateM World) (List PostEntry) := do
  (sortEntries entries).forM fun entry =>
    Host.note (m := StateM World) (.foundPost entry.path entry.datetime)
  return sortEntries entries

/-- What is listed for a path that leads to something of this kind, where a program finds the
posts. -/
def listedBy (directory : Path) (find : ExceptT SiteError (StateM World) (List PostEntry))
    (kind : Option FileKind) : ExceptT SiteError (StateM World) (List PostEntry) :=
  if kind ≠ some .directory then throw (.postsDirectoryNotFound directory) else find >>= announce

theorem listPosts_eq (directory : Path) (recursive : Bool) :
    listPosts directory recursive =
      liftM (Host.kind? (m := StateM World) directory) >>=
        listedBy directory (findPosts directory recursive) := by
  refine congrArg _ (funext fun kind => ?_)
  unfold listedBy
  dsimp only
  split
  · rfl
  · cases recursive <;> rfl

theorem looks_findPosts (directory : Path) (recursive : Bool) :
    Looks (findPosts directory recursive).run := by
  cases recursive with
  | false => exact looks_findIn directory
  | true => exact looks_findBelow directory

theorem looks_announce (entries : List PostEntry) : Looks (announce entries).run :=
  (Looks.forM (fun _ => (Looks.note _).lift) _).sequence fun _ => Looks.done _

theorem looks_listedBy (directory : Path)
    {find : ExceptT SiteError (StateM World) (List PostEntry)} (looks : Looks find.run)
    (kind : Option FileKind) : Looks (listedBy directory find kind).run := by
  unfold listedBy
  split
  · exact Looks.pure _
  · exact looks.sequence looks_announce

theorem looks_listPosts (directory : Path) (recursive : Bool) :
    Looks (listPosts directory recursive).run := by
  rw [listPosts_eq]
  exact (looks_kind? directory).lift.sequence
    (looks_listedBy directory (looks_findPosts directory recursive))

theorem looks_readPost (entry : PostEntry) : Looks (readPost entry).run :=
  (looks_orFail (looks_readText entry.path)).sequence fun _ => Looks.done _

/-! ## 4. The page -/

/-- **Rendering only looks.** -/
theorem looks_render (options : Options) : Looks (render options).run := by
  refine (looks_loadTemplate _ _).sequence ?_
  intro page
  refine (looks_loadTemplate _ _).sequence ?_
  intro post
  refine (looks_listPosts _ _).sequence ?_
  intro entries
  refine (Looks.mapM looks_readPost entries).sequence ?_
  intro posts
  exact Looks.ofExcept _

theorem tree_after_render (options : Options) (world : World) :
    (after (render options) world).tree = world.tree :=
  tree_after (looks_render options) world

/-! ## 5. What is returned -/

theorem outcome_kind? (path : Path) (world : World) :
    outcome (liftM (Host.kind? (m := StateM World) path)) world = .ok (world.tree.kind? path) :=
  rfl

/-- **Where no file takes its place, the built-in template is used.** -/
theorem outcome_loadTemplate_builtin {directory : Option Path} {name : String} {world : World}
    (plain : ∀ path ∈ directory, world.tree.kind? (path.join name) = none) :
    outcome (loadTemplate directory name) world = Template.builtin name := by
  have builtin : outcome (builtinTemplate name) world = Template.builtin name := by
    unfold builtinTemplate
    rw [outcome_bind (Looks.note _).lift fun _ => Looks.ofExcept _]
    cases Template.builtin name <;> rfl
  cases directory with
  | none => exact builtin
  | some directory =>
    have missing := plain directory rfl
    rw [loadTemplate_some, outcome_bind (looks_kind? _).lift (looks_templateAs _ name),
      outcome_kind?, missing]
    exact builtin

theorem outcome_orFail {α : Type} (operation : StateM World (Except FileError α))
    (world : World) :
    outcome (orFail operation) world = (operation world).1.mapError .io :=
  rfl

theorem result_readText (path : Path) (world : World) :
    (Host.readText (m := StateM World) path world).1 = world.tree.readText path := by
  have steps : (Host.readText (m := StateM World) path world).1 =
      ((match world.tree.readFile path with
        | .error cause => pure (.error cause)
        | .ok bytes =>
          match String.fromUTF8? bytes with
          | some text => pure (.ok text)
          | none => pure (.error .notText) : StateM World (Except FileError String)) world).1 := rfl
  rw [steps]
  unfold FileTree.readText
  cases world.tree.readFile path with
  | error cause => rfl
  | ok bytes =>
    dsimp only
    cases String.fromUTF8? bytes <;> rfl

theorem outcome_templateFromFile (path : Path) (world : World) :
    outcome (templateFromFile path) world =
      match world.tree.readText path with
      | .error cause => .error (.unreadableTemplate path cause)
      | .ok source => Template.parse source := by
  unfold templateFromFile
  rw [outcome_bind (looks_readText path).lift, outcome_lift, result_readText]
  · cases world.tree.readText path with
    | error cause => rfl
    | ok source =>
      show outcome (liftM (Template.parse source)) world = _
      dsimp only
      cases Template.parse source <;> rfl
  · intro result
    cases result with
    | error cause => exact Looks.pure _
    | ok source => exact Looks.ofExcept _

/-- Where a path leads to something, the template is the one in the file there. -/
theorem outcome_loadTemplate_file {directory : Path} {name : String} {world : World}
    (leads : world.tree.kind? (directory.join name) ≠ none) :
    outcome (loadTemplate (some directory) name) world =
      outcome (templateFromFile (directory.join name)) world := by
  rw [loadTemplate_some, outcome_bind (looks_kind? _).lift (looks_templateAs _ name),
    outcome_kind?]
  show outcome (templateAs _ name (world.tree.kind? (directory.join name))) world = _
  rw [templateAs, if_pos (Option.isSome_iff_ne_none.mpr leads),
    outcome_bind (Looks.note _).lift fun _ => looks_templateFromFile _]
  rfl

/-- **Which template is loaded**: the one in the file for its name, if the path of this file leads
to something, and the built-in one otherwise. -/
theorem loadTemplate_eq_ok_iff {directory : Path} {name : String} {world : World}
    {template : Template} :
    outcome (loadTemplate (some directory) name) world = .ok template ↔
      (world.tree.kind? (directory.join name) = none ∧ Template.builtin name = .ok template) ∨
        world.tree.kind? (directory.join name) ≠ none ∧
          ∃ source, world.tree.readText (directory.join name) = .ok source ∧
            Template.parse source = .ok template := by
  cases leads : world.tree.kind? (directory.join name) with
  | none =>
    rw [outcome_loadTemplate_builtin (by simpa using leads)]
    simp
  | some kind =>
    rw [outcome_loadTemplate_file (by simp [leads]), outcome_templateFromFile]
    cases world.tree.readText (directory.join name) <;> simp

theorem outcome_readPost (entry : PostEntry) (world : World) :
    outcome (readPost entry) world =
      ((world.tree.readText entry.path).mapError .io).map fun text => ⟨entry.datetime, text⟩ := by
  have text : outcome (orFail (Host.readText entry.path)) world =
      (world.tree.readText entry.path).mapError .io := by
    rw [outcome_orFail, result_readText]
  unfold readPost
  rw [outcome_bind (looks_orFail (looks_readText entry.path)) fun _ => Looks.done _, text]
  cases (world.tree.readText entry.path).mapError SiteError.io <;> rfl

theorem outcome_announce (entries : List PostEntry) (world : World) :
    outcome (announce entries) world = .ok (sortEntries entries) := by
  unfold announce
  rw [outcome_bind (Looks.forM (fun _ => (Looks.note _).lift) _) fun _ => Looks.done _,
    outcome_forM (fun _ => (Looks.note _).lift) fun _ => rfl]
  rfl

theorem outcome_listedBy (directory : Path)
    {find : ExceptT SiteError (StateM World) (List PostEntry)} (looks : Looks find.run)
    (world : World) :
    outcome (liftM (Host.kind? (m := StateM World) directory) >>= listedBy directory find) world =
      if world.tree.kind? directory = some .directory then
        (outcome find world).map sortEntries
      else .error (.postsDirectoryNotFound directory) := by
  rw [outcome_bind (looks_kind? _).lift (looks_listedBy directory looks), outcome_kind?]
  show outcome (listedBy directory find _) world = _
  unfold listedBy
  by_cases isDirectory : world.tree.kind? directory = some .directory
  · rw [if_neg (not_not_intro isDirectory), if_pos isDirectory,
      outcome_bind looks looks_announce]
    cases outcome find world with
    | error e => rfl
    | ok entries => exact outcome_announce entries world
  · rw [if_pos isDirectory, if_neg isDirectory]
    rfl

theorem outcome_listPosts (directory : Path) (recursive : Bool) (world : World) :
    outcome (listPosts directory recursive) world =
      if world.tree.kind? directory = some .directory then
        (outcome (findPosts directory recursive) world).map sortEntries
      else .error (.postsDirectoryNotFound directory) := by
  rw [listPosts_eq]
  exact outcome_listedBy directory (looks_findPosts directory recursive) world

theorem outcome_postsAmong (directory : Path) (names : List FileName) (world : World) :
    outcome (postsAmong directory names) world = .ok
      ((names.filterMap fun name => PostEntry.ofPath? (directory.join name.text)).filter
        fun entry => world.tree.kind? entry.path = some .file) :=
  outcome_filterM (fun entry : PostEntry => looks_isFile entry.path) (fun _ => rfl) _

theorem outcome_findIn {directory : Path} {world : World} {names : List FileName}
    (listed : world.tree.list directory = .ok names) :
    outcome (findIn directory) world = .ok
      ((names.filterMap fun name => PostEntry.ofPath? (directory.join name.text)).filter
        fun entry => world.tree.kind? entry.path = some .file) := by
  have names' : outcome (orFail (World.look fun tree => tree.list directory)) world =
      .ok names := by
    rw [outcome_orFail]
    exact congrArg (Except.mapError SiteError.io) listed
  refine (outcome_bind (looks_orFail (Looks.look fun tree => tree.list directory))
    (looks_postsAmong directory) world).trans ?_
  rw [names']
  exact outcome_postsAmong directory names world

/-- **The posts of a directory can always be listed.** -/
theorem listPosts_succeeds {directory : Path} {world : World}
    (isDirectory : world.tree.kind? directory = some .directory) (recursive : Bool) :
    ∃ entries, outcome (listPosts directory recursive) world = .ok entries := by
  obtain ⟨entries, found⟩ :
      ∃ entries, outcome (findPosts directory recursive) world = .ok entries := by
    cases recursive with
    | true => exact ⟨_, rfl⟩
    | false =>
      obtain ⟨location, there⟩ := FileTree.kind?_eq_directory_iff.mp isDirectory
      have listed : world.tree.list directory = .ok (world.tree.children location) := by
        rw [FileTree.list, there]
        rfl
      exact ⟨_, outcome_findIn listed⟩
  rw [outcome_listPosts, if_pos isDirectory, found]
  exact ⟨_, rfl⟩

/-- **What rendering returns**, from what its steps return. -/
theorem outcome_render (options : Options) (world : World) :
    outcome (render options) world = (do
      let page ← outcome (loadTemplate options.templates Template.pageName) world
      let post ← outcome (loadTemplate options.templates Template.postName) world
      let entries ← outcome (listPosts options.posts options.recursive) world
      let posts ← entries.mapM fun entry => outcome (readPost entry) world
      page.apply (pageVariables post posts)) := by
  have fill : ∀ (page post : Template) (posts : List Post),
      Looks (liftM (page.apply (pageVariables post posts)) :
        ExceptT SiteError (StateM World) String).run :=
    fun page post posts => Looks.ofExcept _
  have read := fun page post entries =>
    (Looks.mapM looks_readPost entries).sequence (fill page post)
  have list := fun page post =>
    (looks_listPosts options.posts options.recursive).sequence (read page post)
  have load := fun page =>
    (looks_loadTemplate options.templates Template.postName).sequence (list page)
  unfold render
  rw [outcome_bind (looks_loadTemplate _ _) load]
  refine congrArg _ (funext fun page => ?_)
  rw [outcome_bind (looks_loadTemplate _ _) (list page)]
  refine congrArg _ (funext fun post => ?_)
  rw [outcome_bind (looks_listPosts _ _) (read page post)]
  refine congrArg _ (funext fun entries => ?_)
  rw [outcome_bind (Looks.mapM looks_readPost entries) (fill page post),
    outcome_mapM looks_readPost]
  refine congrArg _ (funext fun posts => ?_)
  cases page.apply (pageVariables post posts) <;> rfl

end Site

end SinglePage
