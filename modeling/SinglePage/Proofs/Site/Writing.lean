/-
# Writing the page

A build renders the page, makes the output directory, writes a temporary file into it and moves that
file to its place.  Each of these steps can fail, for what is in the tree or for the disk, and a
temporary file is removed then, as much as there is of it.  So there are not many trees that a build
can leave behind: the tree that it found, that tree with the output directory (`readyTree`), or the
latter with the page in it.

* `grows_readyTree`: the output directory is all that is made before the page is written;
* `noTemporary_readyTree`: where the output path never goes up, a temporary file cannot turn up when
  its directory is made;
* `writeAndMove_cases`: whether the temporary file is refused, is cut short, cannot be moved or is
  moved, it is gone in the end;
* `buildOn_puts`: what a build returns and what it leaves behind, once the page is rendered.
-/
import SinglePage.Proofs.FileSystem.Descending
import SinglePage.Proofs.FileSystem.Replacing
import SinglePage.Proofs.Site.OutputFiles
import SinglePage.Proofs.Site.Reading

namespace SinglePage.Site

open World FileTree

/-! ## 1. Making the output directory -/

/-- The directories around a file, which may have to be made for it. -/
def directoriesFor (path : Path) : List Path :=
  match path.parent? with
  | none => []
  | some directory => directory :: directory.parents

/-- The directories on the path of the output directory. -/
def Options.directories (options : Options) : List Path := directoriesFor options.page

/-- The tree once the output directory is there, or as far as it could be made on the disk. -/
def readyTree (disk : Disk) (options : Options) (world : World) : FileTree :=
  (@prepareDirectory (StateM World) _ disk.host options.page (after (render options) world)).2.tree

theorem readyTree_sound (options : Options) (world : World) : readyTree .sound options world =
    (prepareDirectory (m := StateM World) options.page (after (render options) world)).2.tree :=
  rfl

/-- Preparing the directory of a file changes the tree as making single directories does. -/
theorem changes_prepareDirectory (disk : Disk) {change : FileTree → FileTree → Prop} (path : Path)
    (refl : ∀ tree, change tree tree) (trans : ∀ ⦃a b c⦄, change a b → change b c → change a c)
    (made : ∀ directory ∈ directoriesFor path, ∀ {tree after : FileTree},
      tree.createDirectory directory = .ok after → change tree after) :
    Changes change (@prepareDirectory (StateM World) _ disk.host path) := by
  let _ := disk.host
  have looks : ∀ path, Changes change (disk.host.kind? path) :=
    fun path => Changes.look refl fun tree => tree.kind? path
  unfold directoriesFor at made
  unfold prepareDirectory
  cases parent : path.parent? with
  | none => exact Changes.pure refl _
  | some directory =>
    rw [parent] at made
    refine (looks directory).bind trans ?_
    intro kind
    cases kind with
    | none =>
      exact Host.changes_createEach refl trans looks fun directory mem =>
        Changes.createDirectory disk refl (made directory mem)
    | some kind => exact Changes.pure refl _

/-- **When the directory of a file is prepared, nothing is new but directories around it.** -/
theorem grows_prepareDirectory (disk : Disk) (path : Path) :
    Changes (Grows (directoriesFor path)) (@prepareDirectory (StateM World) _ disk.host path) :=
  changes_prepareDirectory disk path (.refl _) (fun _ _ _ => .trans)
    fun _ mem _ _ made => grows_of_createDirectory mem made

section Ready

variable {options : Options} {disk : Disk}

/-- What preparing the directory of the page does to every tree, it does to this one. -/
theorem change_readyTree {change : FileTree → FileTree → Prop}
    (changes : Changes change (@prepareDirectory (StateM World) _ disk.host options.page))
    (world : World) : change world.tree (readyTree disk options world) := by
  have changed := changes (after (render options) world)
  rw [tree_after_render] at changed
  exact changed

/-- **Before the page is written, nothing is new but directories on its path.** -/
theorem grows_readyTree (disk : Disk) (options : Options) (world : World) :
    Grows options.directories world.tree (readyTree disk options world) :=
  change_readyTree (grows_prepareDirectory disk options.page) world

/-- The way to the output directory, without steps that lead nowhere. -/
def Options.way (options : Options) : List Step := options.out.steps.filter (· ≠ .here)

theorem Options.way_of_mem_directories {path : Path} (mem : path ∈ options.directories) :
    path.steps.filter (· ≠ .here) <+: options.way := by
  obtain ⟨directory, parent, around⟩ := options.page_parent
  rw [Options.directories, directoriesFor, parent] at mem
  rw [Options.way, ← around]
  rcases List.mem_cons.mp mem with rfl | mem
  · exact List.prefix_refl _
  · exact Path.way_of_mem_parents mem

/-- **Where the output path never goes up, all that it newly leads to is new.** -/
theorem unfolds_readyTree (onlyDown : .up ∉ options.out.steps) (world : World) :
    Unfolds options.way world.tree (readyTree disk options world) := by
  have down : ∀ step ∈ options.way, ∃ name, step = .down name := by
    intro step mem
    obtain ⟨inside, leads⟩ := List.mem_filter.mp mem
    cases step with
    | here => exact absurd leads (by simp)
    | up => exact absurd inside onlyDown
    | down name => exact ⟨name, rfl⟩
  exact change_readyTree (changes_prepareDirectory disk options.page (.refl _)
    (fun _ _ _ => .trans) fun _ mem _ _ made =>
      unfolds_of_createDirectory down (options.way_of_mem_directories mem) made) world

/-! ## 2. The place of the temporary file -/

/-- Neither a file nor a link stands at the path of the temporary file. -/
def NoTemporary (options : Options) (pid : Nat) (tree : FileTree) : Prop :=
  ∀ location, tree.entryAt (options.temporary pid) ≠ .ok location

/-- Where the output path never goes up, it is enough to look before the output directory is
made. -/
theorem noTemporary_readyTree {pid : Nat} {world : World} (onlyDown : .up ∉ options.out.steps)
    (nothing : NoTemporary options pid world.tree) :
    NoTemporary options pid (readyTree disk options world) := by
  intro location there
  obtain ⟨steps, ends, same, -⟩ := options.temporary_endsIn pid
  obtain ⟨named, node, stands, notDirectory⟩ := (entryAt_eq_ok_iff ends).mp there
  obtain ⟨fault, short, directory, enters, rfl⟩ := (named?_eq_some_iff ends).mp named
  have old : world.tree.node? (directory ++ [temporaryOf pageFileName pid]) = some node := by
    rcases (grows_readyTree disk options world).node?_eq
      (directory ++ [temporaryOf pageFileName pid]) with eq | ⟨-, new⟩
    · exact eq.symm.trans stands
    · exact absurd (Option.some.inj (stands.symm.trans new)) notDirectory
  have whole : SameWay options.way steps := (SameWay.of_filter _).trans same.symm
  have onWay := enters.sameWay whole
  rcases (unfolds_readyTree onlyDown world).enters _ _ (List.prefix_refl _) onWay with
    before | vacant
  · have enters' := before.sameWay whole.symm
    exact nothing _ ((entryAt_eq_ok_iff ends).mpr
      ⟨(named?_eq_some_iff ends).mpr ⟨fault, short, directory, enters', rfl⟩, node, old,
        notDirectory⟩)
  · rw [node?_below vacant] at old
    exact absurd old (by simp)

/-- **Nothing is in the way of the temporary file**: neither a file nor a link stands at its path.
An output path that goes up may lead nowhere until directories on it are made; then nothing must
stand there afterwards. -/
structure TemporaryFree (disk : Disk) (options : Options) (pid : Nat) (world : World) : Prop where
  before : NoTemporary options pid world.tree
  between : .up ∈ options.out.steps → NoTemporary options pid (readyTree disk options world)

/-- Nothing is in the way when the temporary file is written. -/
theorem TemporaryFree.ready {pid : Nat} {world : World}
    (free : TemporaryFree disk options pid world) :
    NoTemporary options pid (readyTree disk options world) := by
  by_cases goesUp : .up ∈ options.out.steps
  · exact free.between goesUp
  · exact noTemporary_readyTree goesUp free.before

end Ready

/-! ## 3. Writing and moving a file -/

section Running

variable [Host (StateM World)] {temporary path : Path} {content : String} {world w : World}
  {cause : FileError}

/-- Writing and moving, when the file cannot be written. -/
theorem run_writeAndMove_error
    (failed : Host.writeFile (m := StateM World) temporary content.toUTF8 world =
      (.error cause, w)) :
    writeAndMove (m := StateM World) temporary path content world = (.error cause, w) := by
  unfold writeAndMove
  rw [run_bind, failed]
  rfl

/-- Writing and moving, when the file can be written. -/
theorem run_writeAndMove_ok
    (wrote : Host.writeFile (m := StateM World) temporary content.toUTF8 world = (.ok (), w)) :
    writeAndMove (m := StateM World) temporary path content world =
      Host.moveFile (m := StateM World) temporary path w := by
  unfold writeAndMove
  rw [run_bind, wrote]

end Running

section Removing

variable {options : Options} {pid : Nat} {world : World}

/-- Where no temporary file is, removing it changes nothing. -/
theorem remove_nothing (nothing : NoTemporary options pid world.tree) :
    (World.change (fun tree => tree.removeFile (options.temporary pid)) world).2.tree =
      world.tree := by
  cases there : world.tree.entryAt (options.temporary pid) with
  | ok location => exact absurd there (nothing location)
  | error cause =>
    have nowhere : world.tree.removeFile (options.temporary pid) = .error cause := by
      rw [FileTree.removeFile, there]
      rfl
    have run : World.change (fun tree => tree.removeFile (options.temporary pid)) world =
        (.error cause, world) := run_change_error nowhere
    rw [run]

/-- A temporary file that was written is removed without a trace, whatever is in it. -/
theorem remove_written {bytes : ByteArray} {written : FileTree}
    (nothing : NoTemporary options pid world.tree)
    (wrote : world.tree.writeFile (options.temporary pid) bytes = .ok written) :
    (World.change (fun tree => tree.removeFile (options.temporary pid))
      { world with tree := written }).2.tree = world.tree := by
  obtain ⟨steps, ends, -, clear⟩ := options.temporary_endsIn pid
  have run : World.change (fun tree => tree.removeFile (options.temporary pid))
      { world with tree := written } = (.ok (), world) :=
    run_change_ok (remove_after_write ends clear nothing wrote)
  rw [run]

end Removing

/-- **What writing and moving the page comes to**, and what becomes of the tree when the temporary file
is removed after a failure.  The disk may have refused it or cut it short, or it cannot be moved. -/
theorem writeAndMove_cases (disk : Disk) {options : Options} {pid : Nat} (html : String)
    {world : World} (nothing : NoTemporary options pid world.tree) :
    letI := disk.host
    (∃ cause w, writeAndMove (m := StateM World) (options.temporary pid) options.page html world =
        (.error cause, w) ∧
      (Host.removeFile (m := StateM World) (options.temporary pid) w).2.tree = world.tree) ∨
    ∃ w location, writeAndMove (m := StateM World) (options.temporary pid) options.page html world =
        (.ok (), w) ∧
      world.tree.named? options.page = some location ∧ world.tree.canPut location = true ∧
        w.tree = world.tree.put location (.file html.toUTF8) := by
  let _ := disk.host
  obtain ⟨steps, ends, same, -⟩ := options.page_endsIn
  obtain ⟨steps', ends', same', clear⟩ := options.temporary_endsIn pid
  let temporary := options.temporary pid
  have stopped : ∀ {cause : FileError} {w : World},
      Host.writeFile (m := StateM World) temporary html.toUTF8 world = (.error cause, w) →
        writeAndMove (m := StateM World) temporary options.page html world = (.error cause, w) :=
    run_writeAndMove_error
  rcases writeUntil_cases (disk.writing world temporary) temporary html.toUTF8 world with
    ⟨cause, run⟩ | ⟨cause, length, written, -, wrote, run⟩ | ⟨written, wrote, run⟩
  · refine .inl ⟨cause, world, stopped run, ?_⟩
    rw [Disk.removeFile_host]
    exact remove_nothing nothing
  · refine .inl ⟨cause, _, stopped run, ?_⟩
    rw [Disk.removeFile_host]
    exact remove_written nothing wrote
  · let between : World := { world with tree := written }
    have onward : writeAndMove (m := StateM World) temporary options.page html world =
        Host.moveFile (m := StateM World) temporary options.page between :=
      run_writeAndMove_ok run
    rcases changeUnless_cases (disk.moving between temporary options.page)
      (fun tree => tree.moveFile temporary options.page) between with
      ⟨cause, run'⟩ | ⟨after, moved, run'⟩
    · refine .inl ⟨cause, between, onward.trans run', ?_⟩
      rw [Disk.removeFile_host]
      exact remove_written nothing wrote
    · obtain ⟨location, named, can, rfl⟩ := move_after_write ends' clear nothing wrote ends
        (same.trans same'.symm) (ne_temporaryOf pageFileName pid) moved
      exact .inr ⟨_, location, onward.trans run', named, can, rfl⟩

/-! ## 4. Placing a file -/

section Placing

variable {m : Type → Type} [Monad m] [Host m]

/-- What is done about the temporary file in the end. -/
def finish (temporary path : Path) : Except FileError Unit → ExceptT SiteError m Path
  | .ok () => return path
  | .error cause => liftM (Host.removeFile (m := m) temporary) >>= fun _ => throw (.io cause)

/-- What becomes of the page once its directory is there. -/
def place (temporary path : Path) (content : String) :
    Except FileError Unit → ExceptT SiteError m Path
  | .error cause => throw (.io cause)
  | .ok () => liftM (writeAndMove (m := m) temporary path content) >>= finish temporary path

/-- A file is written when its directory is there, beside its place. -/
theorem writeAtomically_eq_place (tag : String) (out : Path) (fileName content : String) :
    writeAtomically (m := m) tag out fileName content =
      liftM (prepareDirectory (m := m) (out.join fileName)) >>=
        place ((out.join fileName).withFileName (temporaryName tag fileName)) (out.join fileName)
          content := by
  unfold writeAtomically
  refine congrArg (liftM (prepareDirectory (m := m) (out.join fileName)) >>= ·) ?_
  funext result
  cases result with
  | error cause => rfl
  | ok done =>
    refine congrArg (liftM (writeAndMove (m := m)
      ((out.join fileName).withFileName (temporaryName tag fileName)) (out.join fileName)
      content) >>= ·) ?_
    funext result
    cases result <;> rfl

theorem writeAtomically_eq (options : Options) (pid : Nat) (html : String) :
    writeAtomically (m := m) (toString pid) options.out pageFile html =
      liftM (prepareDirectory (m := m) options.page) >>=
        place (options.temporary pid) options.page html :=
  writeAtomically_eq_place (toString pid) options.out pageFile html

/-- The last step of a build. -/
def report (html : String) (path : Path) : ExceptT SiteError m Path := do
  Host.note (m := m) (.wrotePage path html.utf8ByteSize)
  return path

theorem build_eq (tag : String) (options : Options) :
    build (m := m) tag options = render options >>= fun html =>
      writeAtomically tag options.out pageFile html >>= report html :=
  rfl

end Placing

section Running

variable [Host (StateM World)] {temporary path : Path} {content : String} {world w : World}
  {cause : FileError}

theorem finish_ok (temporary path : Path) (world : World) :
    outcome (finish temporary path (.ok ())) world = .ok path ∧
      after (finish temporary path (.ok ())) world = world :=
  ⟨rfl, rfl⟩

theorem finish_error (temporary path : Path) (cause : FileError) (world : World) :
    outcome (finish temporary path (.error cause)) world = .error (.io cause) ∧
      after (finish temporary path (.error cause)) world =
        (Host.removeFile (m := StateM World) temporary world).2 := by
  rw [finish]
  exact run_of_ok _ (outcome_lift (Host.removeFile (m := StateM World) temporary) world)

/-- A file that cannot be written or moved is not placed, and the temporary file is removed. -/
theorem place_of_error
    (failed : writeAndMove (m := StateM World) temporary path content world = (.error cause, w)) :
    outcome (place temporary path content (.ok ())) world = .error (.io cause) ∧
      after (place temporary path content (.ok ())) world =
        (Host.removeFile (m := StateM World) temporary w).2 := by
  obtain ⟨out, behind⟩ := run_of_ok (finish temporary path)
    (outcome_lift (writeAndMove (m := StateM World) temporary path content) world)
  rw [after_lift, failed] at out behind
  rw [place, out, behind]
  exact finish_error temporary path cause w

/-- A file that is written and moved is placed. -/
theorem place_of_ok
    (done : writeAndMove (m := StateM World) temporary path content world = (.ok (), w)) :
    outcome (place temporary path content (.ok ())) world = .ok path ∧
      after (place temporary path content (.ok ())) world = w := by
  obtain ⟨out, behind⟩ := run_of_ok (finish temporary path)
    (outcome_lift (writeAndMove (m := StateM World) temporary path content) world)
  rw [after_lift, done] at out behind
  rw [place, out, behind]
  exact finish_ok temporary path w

end Running

/-- **What a program comes to that puts the page into a tree**: it fails and leaves the tree as it is,
or it succeeds and the page is in its place. -/
inductive Puts (options : Options) (html : String) (ready : FileTree)
    (program : ExceptT SiteError (StateM World) Path) (world : World) : Prop where
  | failed {e : SiteError} (fails : outcome program world = .error e)
      (left : (after program world).tree = ready)
  | placed {location : Location} (succeeds : outcome program world = .ok options.page)
      (named : ready.named? options.page = some location) (can : ready.canPut location = true)
      (left : (after program world).tree = ready.put location (.file html.toUTF8))

section Putting

variable {options : Options} {pid : Nat} {world : World} {ready : FileTree}

/-- Once its directory is there, the page is put into the tree. -/
theorem place_puts (disk : Disk) (html : String) (nothing : NoTemporary options pid world.tree) :
    letI := disk.host
    Puts options html world.tree (place (options.temporary pid) options.page html (.ok ()))
      world := by
  let _ := disk.host
  rcases writeAndMove_cases disk html nothing with
    ⟨cause, w, run, removed⟩ | ⟨w, location, run, named, can, placed⟩
  · obtain ⟨fails, left⟩ := place_of_error run
    exact .failed fails (by rw [left, removed])
  · obtain ⟨succeeds, left⟩ := place_of_ok run
    exact .placed succeeds named can (by rw [left, placed])

/-- **Writing the page puts it into the tree with its directory.** -/
theorem writeAtomically_puts (disk : Disk) (html : String)
    (isReady : (@prepareDirectory (StateM World) _ disk.host options.page world).2.tree = ready)
    (nothing : NoTemporary options pid ready) :
    letI := disk.host
    Puts options html ready (writeAtomically (toString pid) options.out pageFile html) world := by
  let _ := disk.host
  obtain ⟨out, behind⟩ := run_of_ok (place (options.temporary pid) options.page html)
    (outcome_lift (prepareDirectory (m := StateM World) options.page) world)
  rw [after_lift] at out behind
  rw [← writeAtomically_eq] at out behind
  cases prepared : (prepareDirectory (m := StateM World) options.page world).1 with
  | error cause =>
    rw [prepared] at out behind
    exact .failed out (by rw [behind]; exact isReady)
  | ok done =>
    rw [prepared] at out behind
    subst isReady
    cases place_puts disk html nothing with
    | failed fails left => exact .failed (out.trans fails) (by rw [behind]; exact left)
    | placed succeeds named can left =>
      exact .placed (out.trans succeeds) named can (by rw [behind]; exact left)

end Putting

/-! ## 5. Building -/

/-- **A build on a disk.** -/
def buildOn (disk : Disk) (tag : String) (options : Options) :
    ExceptT SiteError (StateM World) Path :=
  @build (StateM World) _ disk.host tag options

/-- A build by itself is one on a disk that never fails. -/
theorem buildOn_sound (tag : String) (options : Options) :
    buildOn .sound tag options = build tag options := rfl

/-- What is rendered does not depend on the disk. -/
theorem buildOn_eq (disk : Disk) (tag : String) (options : Options) :
    buildOn disk tag options = render options >>= fun html =>
      @writeAtomically (StateM World) _ disk.host tag options.out pageFile html >>= report html :=
  rfl

theorem report_run (html : String) (path : Path) (world : World) :
    outcome (report html path) world = .ok path ∧
      (after (report html path) world).tree = world.tree :=
  ⟨rfl, rfl⟩

/-- **If nothing can be rendered, nothing changes.** -/
theorem build_of_render_error (disk : Disk) (tag : String) {options : Options} {world : World}
    {e : SiteError} (failed : outcome (render options) world = .error e) :
    outcome (buildOn disk tag options) world = .error e ∧
      (after (buildOn disk tag options) world).tree = world.tree := by
  obtain ⟨out, behind⟩ := run_of_error (fun html =>
    @writeAtomically (StateM World) _ disk.host tag options.out pageFile html >>= report html) failed
  rw [buildOn_eq, out, behind]
  exact ⟨rfl, tree_after_render options world⟩

/-- **A build puts the page that it renders into the tree with the output directory.** -/
theorem buildOn_puts (disk : Disk) {options : Options} {pid : Nat} {html : String} {world : World}
    (rendered : outcome (render options) world = .ok html)
    (nothing : NoTemporary options pid (readyTree disk options world)) :
    Puts options html (readyTree disk options world) (buildOn disk (toString pid) options)
      world := by
  obtain ⟨out, behind⟩ := run_of_ok (fun html =>
    @writeAtomically (StateM World) _ disk.host (toString pid) options.out pageFile html >>=
      report html) rendered
  rw [← buildOn_eq] at out behind
  have isReady : (@prepareDirectory (StateM World) _ disk.host options.page
      (after (render options) world)).2.tree = readyTree disk options world := rfl
  cases writeAtomically_puts disk html isReady nothing with
  | failed fails left =>
    obtain ⟨out', behind'⟩ := run_of_error (report html) fails
    exact .failed (out.trans out') (by rw [behind, behind', left])
  | placed succeeds named can left =>
    obtain ⟨out', behind'⟩ := run_of_ok (report html) succeeds
    exact .placed (out.trans out') named can (by rw [behind, behind']; exact left)

end SinglePage.Site
