/-
# Building again

The page can go anywhere: among the posts, among the templates, or around both.  Then a build
changes what the next one looks at: there are new directories, and there is a page.  Nevertheless
the next build makes the same page.  What is new is either a directory or has the name of the page,
so it is no post and no template; only where the output directory takes the place of a template can
a build tell the difference.  And a page that is there is written and moved without a trace.

Both need paths that do not go up and trees without links, where every path leads to the location
that it spells out.

* `Built`: what stands where after a build;
* `built_of_ok`: a build that succeeds leaves this behind;
* `build_of_built`: where this is left behind, the same page changes nothing;
* `Built.template_again`, `Built.posts_again`, `Built.render_again`: what is found there is what was
  found before;
* `build_again`: building twice is building once.
-/
import SinglePage.Proofs.FileSystem.LinkFree
import SinglePage.Proofs.Filter.Stages
import SinglePage.Proofs.Site.BuiltinPage
import SinglePage.Proofs.Site.Recursion
import SinglePage.Proofs.Site.Succeeding

namespace SinglePage.Site

open World FileTree

/-! ## 1. Paths that only go down -/

/-- No path of the options goes up. -/
structure Options.OnlyDown (options : Options) : Prop where
  posts : .up ∉ options.posts.steps
  out : .up ∉ options.out.steps
  templates : ∀ directory ∈ options.templates, .up ∉ directory.steps

/-- The output directory is neither the file of a template nor below one. -/
def Options.OutAside (options : Options) : Prop :=
  ∀ directory ∈ options.templates, ∀ name ∈ [Template.pageName, Template.postName],
    ¬ (directory.join name).location <+: options.out.location

section Paths

variable {options : Options}

theorem Options.location_page (options : Options) :
    options.page.location = options.out.location ++ [pageFileName] :=
  options.out.location_join pageFileName

theorem Options.location_temporary (options : Options) (pid : Nat) :
    (options.temporary pid).location = options.out.location ++ [temporaryOf pageFileName pid] := by
  obtain ⟨steps, ends, same, -⟩ := options.temporary_endsIn pid
  rw [ends.location, same.namesOn]
  rfl

theorem Options.up_notMem_page (down : .up ∉ options.out.steps) : .up ∉ options.page.steps :=
  Path.up_notMem_join down pageFileName

theorem Options.up_notMem_temporary (down : .up ∉ options.out.steps) (pid : Nat) :
    .up ∉ (options.temporary pid).steps := by
  obtain ⟨steps, ends, same, -⟩ := options.temporary_endsIn pid
  rw [ends, List.mem_append, same.up_mem_iff]
  simp [down]

theorem Options.page_clear (options : Options) : options.page.hasTrailingSeparator = false :=
  options.out.not_trailing_join pageFileName

/-- A directory on the path of the output directory is on its way. -/
theorem Options.location_prefix (down : .up ∉ options.out.steps) {path : Path}
    (mem : path ∈ options.directories) :
    .up ∉ path.steps ∧ path.location <+: options.out.location := by
  have way := options.way_of_mem_directories mem
  constructor
  · intro up
    have onWay : .up ∈ options.way := way.subset (List.mem_filter.mpr ⟨up, by simp⟩)
    exact down (List.mem_filter.mp onWay).1
  · have names := way.filterMap Step.name?
    rw [Path.location, ← namesOn_filter, Path.location, ← namesOn_filter options.out.steps]
    exact names

/-- **When a page can be written without links in the way, and what becomes of the tree.** -/
theorem write_iff (down : .up ∉ options.out.steps) (pid : Nat) {tree after : FileTree}
    (free : tree.LinkFree) {bytes : ByteArray} :
    (∃ written, tree.writeFile (options.temporary pid) bytes = .ok written ∧
        written.moveFile (options.temporary pid) options.page = .ok after) ↔
      Replaceable tree (options.temporary pid) options.page ∧
        Replaced tree (options.temporary pid).location options.page.location bytes after := by
  obtain ⟨steps, ends, same, clear⟩ := options.page_endsIn
  obtain ⟨steps', ends', same', clear'⟩ := options.temporary_endsIn pid
  exact replace_iff free ends' clear' (options.up_notMem_temporary down pid) ends clear
    (options.up_notMem_page down) (ne_temporaryOf pageFileName pid) (same.trans same'.symm)

end Paths

/-! ## 2. What a build leaves behind -/

/-- **What stands where after a build**: the page, no temporary file, and all else as before, except
that directories around the page can be new. -/
structure Built (options : Options) (pid : Nat) (html : String) (before after : FileTree) :
    Prop where
  free : after.LinkFree
  fits : (options.temporary pid).Fits ∧ options.page.Fits
  around : ∀ directory, options.page.parent? = some directory →
    directory.text = "" ∨ directory.fault? = none
  out : after.node? options.out.location = some .directory
  page : after.node? options.page.location = some (.file html.toUTF8)
  temporary : after.node? (options.temporary pid).location = none
  was : before.node? options.page.location ≠ some .directory ∧
    before.node? (options.temporary pid).location ≠ some .directory
  elsewhere : ∀ l, l ≠ options.page.location → l ≠ (options.temporary pid).location →
    after.node? l = before.node? l ∨
      before.node? l = none ∧ after.node? l = some .directory ∧ l <+: options.out.location

section Building

variable {options : Options} {world : World}

theorem linkFree_readyTree (free : world.tree.LinkFree) : (readyTree .sound options world).LinkFree := by
  intro location target there
  rcases (grows_readyTree .sound options world).adds _ _ there with old | ⟨other, -⟩
  · exact free location target old
  · exact absurd other (by simp)

/-- What is new before the page is written lies on the way to the output directory. -/
theorem node?_readyTree (free : world.tree.LinkFree) (down : .up ∉ options.out.steps)
    (l : Location) :
    (readyTree .sound options world).node? l = world.tree.node? l ∨
      world.tree.node? l = none ∧ (readyTree .sound options world).node? l = some .directory ∧
        l <+: options.out.location := by
  have grows := grows_readyTree .sound options world
  rcases grows.node?_eq l with same | ⟨vacant, new⟩
  · exact .inl same
  · rcases grows.adds l _ new with old | ⟨-, path, mem, found⟩
    · rw [vacant] at old
      exact absurd old (by simp)
    · obtain ⟨down', onWay⟩ := Options.location_prefix down mem
      obtain ⟨-, rfl, -⟩ := (directoryAt_iff (linkFree_readyTree free) down').mp found
      exact .inr ⟨vacant, new, onWay⟩

/-- **What a build leaves behind that succeeds.** -/
theorem built_of_ok {pid : Nat} {path : Path} (free : world.tree.LinkFree)
    (down : .up ∉ options.out.steps)
    (built : outcome (build (toString pid) options) world = .ok path) :
    path = options.page ∧ ∃ html, outcome (render options) world = .ok html ∧
      Built options pid html world.tree (after (build (toString pid) options) world).tree := by
  obtain ⟨html, rendered, prepared, rfl, written⟩ := build_ok_iff.mp ⟨built, rfl⟩
  obtain ⟨can, replaced⟩ := (write_iff down pid (linkFree_readyTree free)).mp written
  have keeps := (grows_readyTree .sound options world).keeps
  have apart : options.page.location ≠ (options.temporary pid).location := by
    rw [options.location_page, options.location_temporary]
    simpa using ne_temporaryOf pageFileName pid
  have outside : ∀ name, options.out.location ≠ options.out.location ++ [name] := by simp
  refine ⟨rfl, html, rendered, ?_⟩
  constructor
  case free =>
    intro l target there
    rw [replaced l] at there
    split at there
    · exact absurd there (by simp)
    · split at there
      · exact absurd there (by simp)
      · exact linkFree_readyTree free l target there
  case fits => exact can.fits
  case around =>
    intro directory around
    refine (prepareDirectory_there around prepared).imp_right fun there => ?_
    exact fault?_of_kind? there
  case out =>
    have around := can.around
    rw [options.location_page, List.dropLast_concat] at around
    rw [replaced, options.location_page, options.location_temporary, if_neg (outside _),
      if_neg (outside _), around]
  case page => rw [replaced, if_pos rfl]
  case temporary => rw [replaced, if_neg apart.symm, if_pos rfl]
  case was =>
    exact ⟨fun there => can.path (keeps _ _ there), fun there => can.temporary (keeps _ _ there)⟩
  case elsewhere =>
    intro l notPage notTemporary
    rw [replaced, if_neg notPage, if_neg notTemporary]
    exact node?_readyTree free down l

/-- There is room for the temporary file of a process. -/
def Room (options : Options) (pid : Nat) (tree : FileTree) : Prop :=
  (options.temporary pid).Fits ∧ tree.node? (options.temporary pid).location = none

variable {first : Nat} {html : String} {before : FileTree}

/-- **A build that renders the page that is there changes nothing.** -/
theorem build_of_built (built : Built options first html before world.tree)
    (down : .up ∉ options.out.steps) (rendered : outcome (render options) world = .ok html)
    {second : Nat} (room : Room options second world.tree) :
    outcome (build (toString second) options) world = .ok options.page ∧
      (after (build (toString second) options) world).tree = world.tree := by
  obtain ⟨directory, around, same⟩ := options.page_parent
  have there : directory.text = "" ∨ world.tree.kind? directory ≠ none := by
    refine (built.around directory around).imp_right fun fault => ?_
    have names : directory.location = options.out.location := same.namesOn
    have short : ∀ name ∈ directory.location, name.isTooLong = false := fun name mem =>
      built.fits.2.2 name (by rw [options.location_page, ← names]; simp [mem])
    have found := (directoryAt_iff built.free (mt same.up_mem_iff.mp down)).mpr
      ⟨⟨fault, short⟩, rfl, by rw [names, built.out]⟩
    rw [kind?_eq_directory_iff.mpr ⟨_, found⟩]
    simp
  have prepared : prepareDirectory (m := StateM World) options.page (after (render options) world) =
      (.ok (), after (render options) world) :=
    prepareDirectory_of_there around (by rwa [tree_after_render])
  have ready : readyTree .sound options world = world.tree := by
    rw [readyTree_sound, prepared, tree_after_render]
  refine build_ok_iff.mpr ⟨html, rendered, by rw [prepared], rfl, ?_⟩
  rw [ready]
  refine (write_iff down second built.free).mpr ⟨⟨⟨room.1, built.fits.2⟩, ?_, ?_, ?_⟩, ?_⟩
  · rw [options.location_page, List.dropLast_concat, built.out]
  · simp [room.2]
  · simp [built.page]
  · intro l
    split
    · rename_i here
      rw [here, built.page]
    · split
      · rename_i here
        rw [here, room.2]
      · rfl

end Building

/-! ## 3. What is read again -/

section Reading

variable {options : Options} {pid : Nat} {html : String} {before after : FileTree}

/-- The name is neither that of the page nor that of the temporary file. -/
def IsOther (pid : Nat) (name : FileName) : Prop :=
  name ≠ pageFileName ∧ name ≠ temporaryOf pageFileName pid

namespace Built

variable (built : Built options pid html before after)

include built

theorem keeps_directory {l : Location} (there : before.node? l = some .directory) :
    after.node? l = some .directory := by
  have notPage : l ≠ options.page.location := by
    rintro rfl
    exact built.was.1 there
  have notTemporary : l ≠ (options.temporary pid).location := by
    rintro rfl
    exact built.was.2 there
  rcases built.elsewhere l notPage notTemporary with same | ⟨vacant, -⟩
  · exact same.trans there
  · rw [vacant] at there
    exact absurd there (by simp)

/-- **Under any other name, nothing is new** but directories around the page. -/
theorem node?_cases {location : Location} {name : FileName} (other : IsOther pid name) :
    after.node? (location ++ [name]) = before.node? (location ++ [name]) ∨
      before.node? (location ++ [name]) = none ∧
        after.node? (location ++ [name]) = some .directory ∧
          location ++ [name] <+: options.out.location := by
  refine built.elsewhere _ ?_ ?_
  · rw [options.location_page]
    exact fun same => other.1 (List.singleton_inj.mp (List.append_inj' same rfl).2)
  · rw [options.location_temporary]
    exact fun same => other.2 (List.singleton_inj.mp (List.append_inj' same rfl).2)

/-- **Under any other name stand the same files.** -/
theorem file_iff {location : Location} {name : FileName} (other : IsOther pid name)
    {bytes : ByteArray} :
    after.node? (location ++ [name]) = some (.file bytes) ↔
      before.node? (location ++ [name]) = some (.file bytes) := by
  rcases built.node?_cases other with same | ⟨vacant, new, -⟩
  · rw [same]
  · rw [vacant, new]
    simp

end Built

theorem isOther_template (pid : Nat) {name : FileName}
    (template : name.text ∈ [Template.pageName, Template.postName]) : IsOther pid name := by
  constructor
  · rintro rfl
    exact absurd template (by decide)
  · rintro rfl
    have firsts : ∀ text ∈ [Template.pageName, Template.postName],
        text.toList.head? = some 'p' := by decide
    have first := firsts _ template
    simp [temporaryOf, pageFileName, temporaryName, pageFile] at first

theorem isOther_post (pid : Nat) {name : FileName} {stem : String}
    (post : name.text = stem ++ ".txt") : IsOther pid name := by
  have last : name.text.toList.getLast? = some 't' := by simp [post]
  constructor
  · rintro rfl
    exact absurd last (by decide)
  · rintro rfl
    have tail : ('-' :: Nat.toDigits 10 pid).getLast? = some 't' := by
      simpa [temporaryOf, pageFileName, temporaryName, pageFile] using last
    have digit : 't' ∈ (toString pid).toList := by simpa using List.mem_of_getLast? tail
    exact absurd (isDigit_of_mem_toString digit) (by decide)

/-- The files in a directory, where there are no links. -/
theorem fileIn_iff {tree : FileTree} (free : tree.LinkFree) {directory : Path}
    (down : .up ∉ directory.steps) {names : List FileName} :
    FileIn tree directory directory.location names ↔
      ∃ name, names = [name] ∧ (directory.join name.text).Fits ∧
        ∃ bytes, tree.node? (directory.location ++ [name]) = some (.file bytes) := by
  have leads : ∀ name : FileName, tree.kind? (directory.join name.text) = some .file ↔
      (directory.join name.text).Fits ∧
        ∃ bytes, tree.node? (directory.location ++ [name]) = some (.file bytes) := by
    intro name
    obtain ⟨steps, ends, -⟩ := directory.endsIn_join name
    rw [kind?_iff free ends (Path.up_notMem_join down name), Path.location_join]
    cases tree.node? (directory.location ++ [name]) with
    | none => simp
    | some node => cases node <;> simp [Node.kind?]
  simp only [FileIn, leads]
  constructor
  · rintro ⟨name, rfl, -, fits, file⟩
    exact ⟨name, rfl, fits, file⟩
  · rintro ⟨name, rfl, fits, bytes, there⟩
    exact ⟨name, rfl, by rw [there]; rfl, fits, bytes, there⟩

variable {world done : World} (built : Built options pid html world.tree done.tree)
  (free : world.tree.LinkFree) (down : options.OnlyDown)

namespace Built

include built free

/-- **Under any other name, a file is read as before.** -/
theorem text_again {path : Path} {steps : List Step} {name : FileName}
    (ends : path.EndsIn steps name) (down : .up ∉ path.steps) (other : IsOther pid name)
    {text : String} (read : world.tree.readText path = .ok text) :
    done.tree.readText path = .ok text := by
  rw [readText_eq_ok_iff] at read ⊢
  obtain ⟨fits, there⟩ := (readFile_iff free ends down).mp read
  rw [ends.location] at there
  refine (readFile_iff built.free ends down).mpr ⟨fits, ?_⟩
  rw [ends.location]
  exact (built.file_iff other).mpr there

include down

/-- **The same template is loaded**, unless the output directory takes the place of its file. -/
theorem template_again (aside : options.OutAside) (name : FileName)
    (named : name.text ∈ [Template.pageName, Template.postName]) {template : Template}
    (loaded : outcome (loadTemplate options.templates name.text) world = .ok template) :
    outcome (loadTemplate options.templates name.text) done = .ok template := by
  cases given : options.templates with
  | none =>
    rw [given] at loaded
    rw [outcome_loadTemplate_builtin (by simp)] at loaded ⊢
    exact loaded
  | some directory =>
    have mem : directory ∈ options.templates := by simp [given]
    obtain ⟨steps, ends, -⟩ := directory.endsIn_join name
    have down' := Path.up_notMem_join (down.templates directory mem) name
    have other := isOther_template pid named
    have same : done.tree.node? (directory.join name.text).location =
        world.tree.node? (directory.join name.text).location := by
      have outside := aside directory mem name.text named
      rw [Path.location_join] at outside ⊢
      rcases built.node?_cases other with same | ⟨-, -, onWay⟩
      · exact same
      · exact absurd onWay outside
    have kind : done.tree.kind? (directory.join name.text) =
        world.tree.kind? (directory.join name.text) := by
      refine Option.ext fun kind => ?_
      rw [kind?_iff built.free ends down', kind?_iff free ends down', same]
    rw [given, loadTemplate_eq_ok_iff] at loaded
    rw [loadTemplate_eq_ok_iff, kind]
    refine loaded.imp_right ?_
    rintro ⟨leads, source, read, parsed⟩
    exact ⟨leads, source, built.text_again free ends down' other read, parsed⟩

/-- **The posts of the directory are the same.** -/
theorem isPost_iff {recursive : Bool} {names : List FileName} {stem : String} :
    IsPost done.tree options.posts options.posts.location recursive names stem ↔
      IsPost world.tree options.posts options.posts.location recursive names stem := by
  refine and_congr_left ?_
  rintro ⟨-, name, last, text⟩
  have other := isOther_post pid text
  obtain ⟨front, rfl⟩ := List.getLast?_eq_some_iff.mp last
  cases recursive with
  | true =>
    have same : ∀ bytes,
        done.tree.node? (options.posts.location ++ (front ++ [name])) = some (.file bytes) ↔
          world.tree.node? (options.posts.location ++ (front ++ [name])) = some (.file bytes) := by
      intro bytes
      rw [← List.append_assoc]
      exact built.file_iff other
    simp only [if_true, FileBelow, same]
  | false =>
    simp only [Bool.false_eq_true, if_false, fileIn_iff built.free down.posts,
      fileIn_iff free down.posts]
    refine exists_congr fun name' => and_congr_right fun single => and_congr_right fun _ => ?_
    obtain rfl : name = name' := by
      have := congrArg List.getLast? single
      simpa using this
    exact exists_congr fun bytes => built.file_iff other

/-- **The same posts are listed.** -/
theorem listed_eq (there : world.tree.directoryAt options.posts = .ok options.posts.location)
    (there' : done.tree.directoryAt options.posts = .ok options.posts.location) :
    listed done.tree options.posts options.posts.location options.recursive =
      listed world.tree options.posts options.posts.location options.recursive := by
  have same : ∀ entry,
      entry ∈ listed done.tree options.posts options.posts.location options.recursive ↔
        entry ∈ listed world.tree options.posts options.posts.location options.recursive := by
    intro entry
    rw [mem_listed there, mem_listed there']
    simp only [built.isPost_iff free down]
  have sorted := pairwise_listed there options.recursive
  have sorted' := pairwise_listed there' options.recursive
  exact (sublist_of_precedes sorted' sorted fun entry mem => (same entry).mp mem).antisymm
    (sublist_of_precedes sorted sorted' fun entry mem => (same entry).mpr mem)

/-- **A post is read as before.** -/
theorem post_again {location : Location} {entry : PostEntry} {post : Post}
    (there : world.tree.directoryAt options.posts = .ok location)
    (mem : entry ∈ listed world.tree options.posts location options.recursive)
    (read : outcome (readPost entry) world = .ok post) :
    outcome (readPost entry) done = .ok post := by
  obtain ⟨names, stem, ⟨-, -, name, last, text⟩, rfl⟩ := (mem_listed there).mp mem
  obtain ⟨front, rfl⟩ := List.getLast?_eq_some_iff.mp last
  have path : (entryOf options.posts (front ++ [name], stem)).path =
      (options.posts.descend front).join name.text := by
    rw [entryOf, ← Path.descend_eq_join options.posts (by simp), Path.descend, List.foldl_append]
    rfl
  obtain ⟨steps, ends, -⟩ := (options.posts.descend front).endsIn_join name
  have down' := Path.up_notMem_join (Path.up_notMem_descend down.posts front) name
  rw [outcome_readPost, path] at read ⊢
  cases found : world.tree.readText ((options.posts.descend front).join name.text) with
  | error cause =>
    rw [found] at read
    exact absurd read (by simp [Except.mapError, Except.map])
  | ok source =>
    rw [found] at read
    rw [built.text_again free ends down' (isOther_post pid text) found, read]

/-- **The same posts are listed and read.** -/
theorem posts_again {entries : List PostEntry} {posts : List Post}
    (listed : outcome (listPosts options.posts options.recursive) world = .ok entries)
    (read : entries.mapM (fun entry => outcome (readPost entry) world) = .ok posts) :
    outcome (listPosts options.posts options.recursive) done = .ok entries ∧
      entries.mapM (fun entry => outcome (readPost entry) done) = .ok posts := by
  have isDirectory : world.tree.kind? options.posts = some .directory := by
    rw [outcome_listPosts] at listed
    by_contra other
    rw [if_neg other] at listed
    exact absurd listed (by simp)
  obtain ⟨location, there⟩ := kind?_eq_directory_iff.mp isDirectory
  obtain ⟨fits, rfl, found⟩ := (directoryAt_iff free down.posts).mp there
  have there' : done.tree.directoryAt options.posts = .ok options.posts.location :=
    (directoryAt_iff built.free down.posts).mpr ⟨fits, rfl, built.keeps_directory found⟩
  obtain rfl := Except.ok.inj ((outcome_listPosts_listed there options.recursive).symm.trans listed)
  refine ⟨?_, ?_⟩
  · rw [outcome_listPosts_listed there' options.recursive, built.listed_eq free down there there']
  · rw [mapM_eq_ok_iff] at read ⊢
    rw [← read]
    refine List.map_congr_left fun entry mem => ?_
    obtain ⟨post, -, read⟩ := List.mem_map.mp (read ▸ List.mem_map_of_mem mem)
    rw [← read]
    exact built.post_again free down there mem read.symm

/-- **The same page is rendered.** -/
theorem render_again (aside : options.OutAside) {page : String}
    (rendered : outcome (render options) world = .ok page) :
    outcome (render options) done = .ok page := by
  simp only [outcome_render, bind_eq_ok_iff] at rendered ⊢
  obtain ⟨page, loaded, post, loaded', entries, listed, posts, read, applied⟩ := rendered
  obtain ⟨listed, read⟩ := built.posts_again free down listed read
  have again := built.template_again free down aside ⟨Template.pageName, by decide⟩
    (by decide) loaded
  have again' := built.template_again free down aside ⟨Template.postName, by decide⟩
    (by decide) loaded'
  exact ⟨page, again, post, again', entries, listed, posts, read, applied⟩

end Built

end Reading

/-! ## 4. Once and again -/

/-- **A build never feeds on its own output.**  Where no path goes up, no links are in the way and
the output directory does not take the place of a template, let a build succeed.  What is rendered
then is the text that the page has got, and building once more succeeds and leaves all as it is.
The same process can build again in any case, and another one can if there is room for its
temporary file. -/
theorem build_again {options : Options} {world done : World} {first : Nat} {path : Path}
    (free : world.tree.LinkFree) (down : options.OnlyDown) (aside : options.OutAside)
    (built : Yields (build (toString first) options) world path done) :
    ∃ html, outcome (render options) world = .ok html ∧
      done.tree.readFile path = .ok html.toUTF8 ∧ outcome (render options) done = .ok html ∧
      ∀ second, second = first ∨ Room options second done.tree →
        outcome (build (toString second) options) done = .ok path ∧
          (after (build (toString second) options) done).tree = done.tree := by
  obtain ⟨succeeds, rfl⟩ := built
  obtain ⟨rfl, html, rendered, left⟩ := built_of_ok free down.out succeeds
  have again := left.render_again free down aside rendered
  obtain ⟨steps, ends, -⟩ := options.page_endsIn
  refine ⟨html, rendered, ?_, again, fun second room => ?_⟩
  · exact (readFile_iff left.free ends (Options.up_notMem_page down.out)).mpr
      ⟨left.fits.2, left.page⟩
  · refine build_of_built left down.out again ?_
    rcases room with rfl | room
    · exact ⟨left.fits.1, left.temporary⟩
    · exact room

/-- The page goes into a directory among the posts that is named like a post itself, and templates
are looked for among the posts, too. -/
def inside : Options := ⟨⟨"posts"⟩, ⟨"posts/2022.txt"⟩, some ⟨"posts"⟩, true⟩

/-- The page among the posts is made again. -/
theorem build_again_inside : onePost.tree.LinkFree ∧ inside.OnlyDown ∧ inside.OutAside ∧
    ∃ done html, Yields (build (toString 7) inside) onePost ⟨"posts/2022.txt/index.html"⟩ done ∧
      done.tree.readFile ⟨"posts/2022.txt/index.html"⟩ = .ok html.toUTF8 ∧
      outcome (render inside) done = .ok html ∧
      outcome (build (toString 7) inside) done = .ok ⟨"posts/2022.txt/index.html"⟩ ∧
      (after (build (toString 7) inside) done).tree = done.tree := by
  have free : onePost.tree.LinkFree :=
    (linkFree_empty.put (by decide +kernel) (by simp)).put (by decide +kernel) (by simp)
  have down : inside.OnlyDown := ⟨by decide +kernel, by decide +kernel, by decide +kernel⟩
  have aside : inside.OutAside := by
    rintro directory ⟨⟩
    decide +kernel
  have succeeds : (outcome (build (toString 7) inside) onePost).toOption =
      some ⟨"posts/2022.txt/index.html"⟩ := by decide +kernel
  have built : outcome (build (toString 7) inside) onePost =
      .ok ⟨"posts/2022.txt/index.html"⟩ := by
    cases result : outcome (build (toString 7) inside) onePost with
    | error e =>
      rw [result] at succeeds
      exact absurd succeeds (by simp [Except.toOption])
    | ok path =>
      rw [result] at succeeds
      exact congrArg Except.ok (Option.some.inj succeeds)
  obtain ⟨html, -, written, again, rebuild⟩ := build_again free down aside ⟨built, rfl⟩
  exact ⟨free, down, aside, _, html, ⟨built, rfl⟩, written, again, rebuild 7 (.inl rfl)⟩

end SinglePage.Site
