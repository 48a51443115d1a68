/-
# All or nothing

A build either puts the page in its place or leaves all files and links as they were; at most, the
output directory is new.  This does not depend on the disk, which can refuse any change and can break
off the writing of a file anywhere.  So whatever happens elsewhere between the builds, what stands
where the page belongs is the page of the last build that succeeded.

* `build_of_write_error`, `build_of_success`: what a build whose page is rendered leaves behind;
* `History.stands`: what stands at a location after any number of builds and edits elsewhere;
* `build_all_or_nothing`: both together.
-/
import SinglePage.Proofs.Site.BuiltinPage
import SinglePage.Proofs.Site.Writing

namespace SinglePage.Site

open World FileTree

/-! ## 1. One build -/

variable {disk : Disk} {options : Options} {pid : Nat} {world : World}

/-- **If the page is rendered and cannot be written, only the output directory is new.** -/
theorem build_of_write_error (free : TemporaryFree disk options pid world)
    {html : String} {e : SiteError} (rendered : outcome (render options) world = .ok html)
    (failed : outcome (buildOn disk (toString pid) options) world = .error e) :
    (after (buildOn disk (toString pid) options) world).tree = readyTree disk options world := by
  cases buildOn_puts disk rendered free.ready with
  | failed _ left => exact left
  | placed succeeds =>
    rw [failed] at succeeds
    exact absurd succeeds (by simp)

/-- What is read from the page under a path that names it. -/
theorem readFile_page {tree : FileTree} {options : Options} {location : Location} {html : String}
    (named : tree.named? options.page = some location)
    (stands : tree.node? location = some (.file html.toUTF8)) :
    tree.readFile options.page = .ok html.toUTF8 := by
  obtain ⟨steps, ends, -⟩ := options.page_endsIn
  exact readFile_of_named ends named stands

/-- The page with this text was put at a location, and the tree is otherwise that with the output
directory. -/
structure Placed (disk : Disk) (options : Options) (world : World) (html : String) (location : Location)
    (tree : FileTree) : Prop where
  named : (readyTree disk options world).named? options.page = some location
  notDirectory : (readyTree disk options world).node? location ≠ some .directory
  node?_eq : ∀ l, tree.node? l =
    if l = location then some (.file html.toUTF8) else (readyTree disk options world).node? l
  found : tree.named? options.page = some location ∧
      tree.readFile options.page = .ok html.toUTF8 ∨
    (∃ target, (readyTree disk options world).node? location = some (.link target)) ∧
      ((readyTree disk options world).remove location).named? options.page = none

/-- **If a build succeeds, the page is in its place**, and no temporary file is left. -/
theorem build_of_success (free : TemporaryFree disk options pid world)
    {path : Path} (built : outcome (buildOn disk (toString pid) options) world = .ok path) :
    path = options.page ∧ ∃ html location, outcome (render options) world = .ok html ∧
      Placed disk options world html location (after (buildOn disk (toString pid) options) world).tree ∧
        NoTemporary options pid (after (buildOn disk (toString pid) options) world).tree := by
  cases rendered : outcome (render options) world with
  | error e =>
    obtain ⟨fails, -⟩ := build_of_render_error disk (toString pid) rendered
    rw [built] at fails
    exact absurd fails (by simp)
  | ok html =>
    cases buildOn_puts disk rendered free.ready with
    | failed fails =>
      rw [built] at fails
      exact absurd fails (by simp)
    | @placed location succeeds named can left =>
      obtain ⟨steps, ends, -⟩ := options.page_endsIn
      obtain ⟨steps', ends', -⟩ := options.temporary_endsIn pid
      have other : location.getLast? ≠ some (temporaryOf pageFileName pid) := by
        obtain ⟨-, -, directory, -, rfl⟩ := (named?_eq_some_iff ends).mp named
        simpa using ne_temporaryOf pageFileName pid
      refine ⟨Except.ok.inj (built.symm.trans succeeds), html, location, rfl, ?_, ?_⟩
      · rw [left]
        refine ⟨named, (canPut_iff.mp can).2.2, node?_put _ can, ?_⟩
        refine (named?_replaced ends can named).imp_left fun again => ⟨again, ?_⟩
        exact readFile_page again ((node?_put _ can location).trans (if_pos rfl))
      · intro l there
        rw [left] at there
        exact free.ready l (entryAt_of_put_file ends' can other there)

/-! ## 2. Many builds -/

/-- The text of the page that was put at a location last, once another build has run. -/
def lastPage (place : Location) (disk : Disk) (options : Options) (pid : Nat) (world : World)
    (last : Option String) : Option String :=
  match outcome (render options) world, outcome (buildOn disk (toString pid) options) world with
  | .ok html, .ok _ =>
    if (readyTree disk options world).named? options.page = some place then some html else last
  | _, _ => last

/-- **What can happen between two looks at a location**: anything that leaves what stands there
alone, and any build at all. -/
inductive Turn (place : Location) (world : World) (last : Option String) :
    World → Option String → Prop where
  | edit {other : World} (aside : other.tree.node? place = world.tree.node? place) :
      Turn place world last other last
  | run {disk : Disk} {options : Options} {pid : Nat}
      (free : TemporaryFree disk options pid world) :
      Turn place world last (after (buildOn disk (toString pid) options) world)
        (lastPage place disk options pid world last)

/-- **A history of a location**: the world that it has come to, and the text of the page that was
put there last. -/
inductive History (place : Location) (start : World) : World → Option String → Prop where
  | start : History place start start none
  | turn {world other : World} {last last' : Option String}
      (before : History place start world last) (turn : Turn place world last other last') :
      History place start other last'

/-- **What stands at a location**: the page that was put there last.  If there is none, it is what
stood there at first, or a directory that was made where nothing was. -/
def Stands (place : Location) (start world : World) : Option String → Prop
  | some html => world.tree.node? place = some (.file html.toUTF8)
  | none => world.tree.node? place = start.tree.node? place ∨
      start.tree.node? place = none ∧ world.tree.node? place = some .directory

variable {place : Location} {start : World} {last : Option String}

theorem Stands.of_same {other : World} (stands : Stands place start world last)
    (same : other.tree.node? place = world.tree.node? place) : Stands place start other last := by
  cases last with
  | some html => exact same.trans stands
  | none =>
    rcases stands with old | ⟨vacant, new⟩
    · exact .inl (same.trans old)
    · exact .inr ⟨vacant, same.trans new⟩

/-- Making directories does not change what stands anywhere. -/
theorem Stands.of_grows {paths : List Path} {other : World} (stands : Stands place start world last)
    (grows : Grows paths world.tree other.tree) : Stands place start other last := by
  rcases grows.node?_eq place with same | ⟨vacant, new⟩
  · exact stands.of_same same
  · cases last with
    | some html => exact absurd (stands.symm.trans vacant) (by simp)
    | none =>
      rcases stands with old | ⟨-, there⟩
      · exact .inr ⟨old.symm.trans vacant, new⟩
      · exact absurd (there.symm.trans vacant) (by simp)

/-- **What stands at a location after a build.** -/
theorem Stands.build (stands : Stands place start world last)
    (free : TemporaryFree disk options pid world) :
    Stands place start (after (buildOn disk (toString pid) options) world)
      (lastPage place disk options pid world last) := by
  have ready := grows_readyTree disk options world
  unfold lastPage
  cases rendered : outcome (render options) world with
  | error e =>
    obtain ⟨-, same⟩ := build_of_render_error disk _ rendered
    exact stands.of_same (by rw [same])
  | ok html =>
    cases built : outcome (SinglePage.Site.buildOn disk (toString pid) options) world with
    | error e =>
      have grows := ready
      rw [← build_of_write_error free rendered built] at grows
      exact stands.of_grows grows
    | ok path =>
      obtain ⟨-, html', location, rendered', placed, -⟩ := build_of_success free built
      obtain rfl : html = html' := Except.ok.inj (rendered.symm.trans rendered')
      dsimp only
      rw [placed.named]
      split
      · rename_i here
        obtain rfl := Option.some.inj here
        exact (placed.node?_eq location).trans (if_pos rfl)
      · rename_i elsewhere
        have apart : place ≠ location := fun eq => elsewhere (congrArg some eq.symm)
        have grown : Stands place start { world with tree := readyTree disk options world } last :=
          stands.of_grows ready
        exact grown.of_same ((placed.node?_eq place).trans (if_neg apart))

/-- One turn keeps what is said about a location. -/
theorem Stands.turn {other : World} {last' : Option String} (stands : Stands place start world last)
    (turn : Turn place world last other last') : Stands place start other last' := by
  cases turn with
  | edit aside => exact stands.of_same aside
  | run free => exact stands.build free

/-- **What stands at a location after any number of turns.** -/
theorem History.stands (history : History place start world last) :
    Stands place start world last := by
  induction history with
  | start => exact .inl rfl
  | turn _ turn stands => exact stands.turn turn

/-! ## 3. All or nothing -/

/-- **A build is all or nothing**, on every disk.  If the page cannot be rendered, the build reports why,
and the tree is what it was.  Otherwise, provided that nothing is in the way of the temporary file:

* if the page cannot be written, all that was there is still there, nothing is new but directories
  on the path of the output directory, and no temporary file is left, however much of it the disk has
  written;
* if the build succeeds, it returns the path of the page; the name of the page is a file with the
  text that was rendered, whatever file or link had this name, and again nothing else is new but
  directories on the path of the output directory.  The path of the page leads to this file, unless
  it went through the link that the file has replaced.

So after any number of builds, with anything in between that leaves the name of the page alone, it
stands for the page of the last build that put one there, or for what it stood for at first. -/
theorem build_all_or_nothing :
    (∀ (disk : Disk) (options : Options) (pid : Nat) (world : World),
      (∀ e, outcome (render options) world = .error e →
        outcome (buildOn disk (toString pid) options) world = .error e ∧
          (after (buildOn disk (toString pid) options) world).tree = world.tree) ∧
      (TemporaryFree disk options pid world →
        (∀ html e, outcome (render options) world = .ok html →
          outcome (buildOn disk (toString pid) options) world = .error e →
            Grows options.directories world.tree
                (after (buildOn disk (toString pid) options) world).tree ∧
              NoTemporary options pid (after (buildOn disk (toString pid) options) world).tree) ∧
        ∀ path, outcome (buildOn disk (toString pid) options) world = .ok path →
          path = options.page ∧
            Grows options.directories world.tree (readyTree disk options world) ∧
            ∃ html location, outcome (render options) world = .ok html ∧
              Placed disk options world html location
                (after (buildOn disk (toString pid) options) world).tree ∧
              NoTemporary options pid
                (after (buildOn disk (toString pid) options) world).tree)) ∧
    ∀ (place : Location) (start world : World) (last : Option String),
      History place start world last →
        Stands place start world last ∧
        ∀ (html : String) (options : Options), last = some html →
          world.tree.named? options.page = some place →
            world.tree.readFile options.page = .ok html.toUTF8 := by
  constructor
  · intro disk options pid world
    constructor
    · intro e failed
      exact build_of_render_error disk _ failed
    · intro free
      constructor
      · intro html e rendered failed
        rw [build_of_write_error free rendered failed]
        exact ⟨grows_readyTree disk options world, free.ready⟩
      · intro path built
        obtain ⟨eq, page⟩ := build_of_success free built
        exact ⟨eq, grows_readyTree disk options world, page⟩
  · intro place start world last history
    refine ⟨history.stands, ?_⟩
    rintro html options rfl named
    exact readFile_page named history.stands

/-- A template of one's own for the page, and the built-in one for posts. -/
def ownPage : Options := ⟨⟨"posts"⟩, ⟨"_site"⟩, some ⟨"layout"⟩, false⟩

/-- A site with such a template, whose page is a link to a file that is kept elsewhere. -/
def linked : World :=
  ⟨((((onePost.tree.put [⟨"layout", by decide⟩] .directory).put
    [⟨"layout", by decide⟩, ⟨Template.pageName, by decide⟩] (.file "page".toUTF8)).put
      [⟨"_site", by decide⟩] .directory).put
        [⟨"_site", by decide⟩, pageFileName] (.link ⟨"../kept"⟩)).put
          [⟨"kept", by decide⟩] (.file "old".toUTF8), []⟩

/-- The site after a build on a disk that has room for two bytes. -/
def interrupted : World := after (buildOn (.full 2) (toString 7) ownPage) linked

/-- The disk lets only the beginning of the page be written, and nothing of it is left.  On another
disk, the link is replaced by the page. -/
theorem build_all_or_nothing_linked :
    (((Disk.full 2).host.writeFile (ownPage.temporary 7) "page".toUTF8 linked).2.tree.readText
      (ownPage.temporary 7)).toOption = some "pa" ∧
    outcome (buildOn (.full 2) (toString 7) ownPage) linked =
      .error (.io (.other "No space left on device (os error 28)")) ∧
    Grows ownPage.directories linked.tree interrupted.tree ∧
      NoTemporary ownPage 7 interrupted.tree ∧
    ∃ location world, Placed .sound ownPage interrupted "page" location world.tree ∧
      History location linked world (some "page") ∧
        Stands location linked world (some "page") := by
  obtain ⟨one, many⟩ := build_all_or_nothing
  have free : TemporaryFree (.full 2) ownPage 7 linked := by
    have absent : (linked.tree.entryAt (ownPage.temporary 7)).toOption = none := by
      decide +kernel
    refine ⟨fun location there => ?_, fun goesUp => absurd goesUp (by decide +kernel)⟩
    rw [there] at absent
    exact absurd absent (by simp [Except.toOption])
  have rendered : outcome (render ownPage) linked = .ok "page" := by decide +kernel
  have fails : outcome (buildOn (.full 2) (toString 7) ownPage) linked =
      .error (.io (.other "No space left on device (os error 28)")) := by decide +kernel
  obtain ⟨grows, nothing⟩ := ((one (.full 2) ownPage 7 linked).2 free).1 "page" _ rendered fails
  refine ⟨by decide +kernel, fails, grows, nothing, ?_⟩
  have free' : TemporaryFree .sound ownPage 7 interrupted :=
    ⟨nothing, fun goesUp => absurd goesUp (by decide +kernel)⟩
  have rendered' : outcome (render ownPage) interrupted = .ok "page" := by decide +kernel
  have built : outcome (buildOn .sound (toString 7) ownPage) interrupted = .ok ownPage.page := by
    decide +kernel
  obtain ⟨-, -, html, location, again, placed, -⟩ :=
    ((one .sound ownPage 7 interrupted).2 free').2 ownPage.page built
  obtain rfl : "page" = html := Except.ok.inj (rendered'.symm.trans again)
  have first : lastPage location (.full 2) ownPage 7 linked none = none := by
    rw [lastPage, rendered, fails]
  have last : lastPage location .sound ownPage 7 interrupted none = some "page" := by
    rw [lastPage, rendered', built]
    exact if_pos placed.named
  have between : History location linked interrupted none := by
    rw [← first]
    exact .turn .start (.run free)
  have history : History location linked
      (after (buildOn .sound (toString 7) ownPage) interrupted) (some "page") := by
    rw [← last]
    exact .turn between (.run free')
  exact ⟨location, _, placed, history, (many _ _ _ _ history).1⟩

end SinglePage.Site
