/-
# Writing files whose names are relative paths

The temporary file for a file whose name is a relative path belongs into a directory below that of the
file, which is not the one that was made.  So whether the file can be written depends on another
directory; only a file with a single name goes where its temporary file stands, too.

* `OutputFile.named?_temporary_iff`: where the temporary file stands;
* `OutputFile.write_of_named`, `OutputFile.write_of_nowhere`: what becomes of the file if the temporary
  one has a directory, and if it has none;
* `OutputFile.write_exact`: both, and that a single name that is not too long has one.
-/
import SinglePage.Proofs.Site.Succeeding

namespace SinglePage.Site

open World FileTree

namespace OutputFile

/-- **Writes the file.** -/
def write (file : OutputFile) (pid : Nat) (content : String) :
    ExceptT SiteError (StateM World) Path :=
  writeAtomically (toString pid) file.out file.fileName content

variable {file : OutputFile} {pid : Nat}

/-! ## 1. Where the files stand -/

/-- **The temporary file stands in the directory that the way to the file leads to, and once more the
way from the output directory.** -/
theorem named?_temporary_iff {tree : FileTree} {location : Location} :
    tree.named? (file.temporary pid) = some location ↔
      (file.temporary pid).fault? = none ∧ (temporaryOf file.name pid).isTooLong = false ∧
        ∃ directory, Enters tree maxLinks [] (file.way ++ file.inner) directory ∧
          location = directory ++ [temporaryOf file.name pid] := by
  obtain ⟨steps, ends, same, -⟩ := file.temporary_endsIn pid
  rw [named?_eq_some_iff ends]
  refine and_congr_right fun _ => and_congr_right fun _ => exists_congr fun directory =>
    and_congr_left fun _ => ?_
  exact ⟨fun enters => enters.sameWay same.symm, fun enters => enters.sameWay same⟩

/-- The file stands in the directory that its way leads to. -/
theorem enters_of_named {tree : FileTree} {location : Location}
    (named : tree.named? file.path = some location) : ∃ directory,
      Enters tree maxLinks [] file.way directory ∧ location = directory ++ [file.name] := by
  obtain ⟨steps, ends, same, -⟩ := file.path_endsIn
  obtain ⟨-, -, directory, enters, eq⟩ := (named?_eq_some_iff ends).mp named
  exact ⟨directory, enters.sameWay same.symm, eq⟩

/-- **Nothing is in the way of the file**: its directory is there, and in it no directory has the name
of the file; and nothing stands at the path of the temporary file. -/
structure Awaited (file : OutputFile) (pid : Nat) (tree : FileTree) (location : Location) : Prop where
  named : tree.named? file.path = some location
  notDirectory : tree.node? location ≠ some .directory
  vacant : ∀ l, tree.named? (file.temporary pid) = some l → tree.node? l = none

/-- **The file is in its place**, and nothing else is new; its path leads to it, unless the path went
through a link that the file has replaced. -/
structure Stored (file : OutputFile) (content : String) (before : FileTree) (location : Location)
    (after : FileTree) : Prop where
  node?_eq : ∀ l, after.node? l =
    if l = location then some (.file content.toUTF8) else before.node? l
  found : after.readFile file.path = .ok content.toUTF8 ∨
    (∃ target, before.node? location = some (.link target)) ∧
      (before.remove location).named? file.path = none

theorem stored_put {tree : FileTree} {location : Location} (awaited : Awaited file pid tree location)
    (content : String) : Stored file content tree location
      (tree.put location (.file content.toUTF8)) := by
  obtain ⟨steps, ends, -, -⟩ := file.path_endsIn
  obtain ⟨-, -, directory, enters, rfl⟩ := (named?_eq_some_iff ends).mp awaited.named
  have can := canPut_of_enters enters awaited.notDirectory
  refine ⟨node?_put _ can, ?_⟩
  have again : (tree.put (directory ++ [file.name]) (.file content.toUTF8)).named? file.path =
      some (directory ++ [file.name]) ∨ _ := named?_replaced ends can awaited.named
  rcases again with again | link
  · exact .inl (readFile_of_named ends again ((node?_put _ can _).trans (if_pos rfl)))
  · exact .inr link

/-! ## 2. Writing -/

section Writing

variable {world ready : World} {location : Location}

/-- Once its directory is prepared, the file is placed. -/
theorem write_of_prepared (pid : Nat) (content : String)
    (prepared : prepareDirectory (m := StateM World) file.path world = (.ok (), ready)) :
    outcome (file.write pid content) world =
        outcome (place (file.temporary pid) file.path content (.ok ())) ready ∧
      after (file.write pid content) world =
        after (place (file.temporary pid) file.path content (.ok ())) ready := by
  have steps : file.write pid content =
      liftM (prepareDirectory (m := StateM World) file.path) >>=
        place (file.temporary pid) file.path content :=
    writeAtomically_eq_place (toString pid) file.out file.fileName content
  have done : outcome (liftM (prepareDirectory (m := StateM World) file.path)) world =
      .ok (.ok ()) := by
    rw [outcome_lift, prepared]
  have left : after (liftM (prepareDirectory (m := StateM World) file.path)) world = ready := by
    rw [after_lift, prepared]
  rw [steps, ← left]
  exact run_of_ok _ done

/-- **If the temporary file has a directory, the file is written.** -/
theorem write_of_named (content : String)
    (prepared : prepareDirectory (m := StateM World) file.path world = (.ok (), ready))
    (awaited : Awaited file pid ready.tree location) {fresh : Location}
    (free : ready.tree.named? (file.temporary pid) = some fresh) :
    outcome (file.write pid content) world = .ok file.path ∧
      (after (file.write pid content) world).tree =
        ready.tree.put location (.file content.toUTF8) := by
  obtain ⟨steps, ends, -, clear⟩ := file.temporary_endsIn pid
  obtain ⟨steps', ends', -, clear'⟩ := file.path_endsIn
  obtain ⟨wrote, moved⟩ := write_and_move ends clear ends' clear' (ne_temporaryOf file.name pid) free
    (awaited.vacant _ free) awaited.named awaited.notDirectory content.toUTF8
  obtain ⟨done, left⟩ := writeAndMove_ok_iff.mpr ⟨_, wrote, moved⟩
  obtain ⟨out, behind⟩ := write_of_prepared pid content prepared
  have placed : Yields (place (file.temporary pid) file.path content (.ok ())) ready file.path _ :=
    yields_place_iff.mpr ⟨rfl, rfl, done, rfl⟩
  rw [out, behind, placed.1, placed.2]
  exact ⟨rfl, left⟩

/-- **If the temporary file has no directory, nothing is written.** -/
theorem write_of_nowhere (content : String)
    (prepared : prepareDirectory (m := StateM World) file.path world = (.ok (), ready))
    (nowhere : ready.tree.named? (file.temporary pid) = none) :
    ∃ cause, outcome (file.write pid content) world = .error (.io cause) ∧
      (after (file.write pid content) world).tree = ready.tree := by
  obtain ⟨steps, ends, -, clear⟩ := file.temporary_endsIn pid
  obtain ⟨out, behind⟩ := write_of_prepared pid content prepared
  obtain ⟨⟨cause, failed⟩, cause', nothing⟩ :=
    fails_of_nowhere ends clear nowhere content.toUTF8
  have write : Host.writeFile (m := StateM World) (file.temporary pid) content.toUTF8 ready =
      (.error cause, ready) := run_change_error failed
  have stopped : writeAndMove (m := StateM World) (file.temporary pid) file.path content ready =
      (.error cause, ready) := run_writeAndMove_error write
  have gone : Host.removeFile (m := StateM World) (file.temporary pid) ready =
      (.error cause', ready) := run_change_error nothing
  obtain ⟨fails, left⟩ := place_of_error stopped
  refine ⟨cause, out.trans fails, ?_⟩
  rw [behind, left, gone]

end Writing

/-! ## 3. Which files can be written -/

/-- **What comes of writing a file whose name is a relative path.**  Let its directory be prepared and
nothing be in its way.

* When the directory was prepared, nothing was new but directories around the file, which stands in the
  directory that its way leads to.
* The temporary file belongs where the names of the directories lead from there once more.
* If that is a directory and the temporary name is not too long, the path of the file is returned, the
  file is in its place, and no temporary file is left.
* If not, the file is not written, although nothing is in its way; nothing else changes either.
* A file whose name is a single one is always written beside its place, unless the temporary name or
  its path is too long. -/
theorem write_exact (file : OutputFile) (pid : Nat) (content : String) {world ready : World}
    {location : Location}
    (prepared : prepareDirectory (m := StateM World) file.path world = (.ok (), ready))
    (awaited : Awaited file pid ready.tree location) :
    (Grows (directoriesFor file.path) world.tree ready.tree ∧ ∃ directory,
        Enters ready.tree maxLinks [] file.way directory ∧ location = directory ++ [file.name]) ∧
      (∀ fresh, ready.tree.named? (file.temporary pid) = some fresh ↔
        (file.temporary pid).fault? = none ∧ (temporaryOf file.name pid).isTooLong = false ∧
          ∃ directory, Enters ready.tree maxLinks [] (file.way ++ file.inner) directory ∧
            fresh = directory ++ [temporaryOf file.name pid]) ∧
      (∀ fresh, ready.tree.named? (file.temporary pid) = some fresh →
        outcome (file.write pid content) world = .ok file.path ∧
          Stored file content ready.tree location (after (file.write pid content) world).tree ∧
          (after (file.write pid content) world).tree.node? fresh = none) ∧
      (ready.tree.named? (file.temporary pid) = none →
        ∃ cause, outcome (file.write pid content) world = .error (.io cause) ∧
          (after (file.write pid content) world).tree = ready.tree) ∧
      (file.directories = [] → (file.temporary pid).fault? = none →
        (temporaryOf file.name pid).isTooLong = false →
          ready.tree.named? (file.temporary pid) =
            some (location.dropLast ++ [temporaryOf file.name pid])) := by
  have grows : Grows (directoriesFor file.path) world.tree
      (prepareDirectory (m := StateM World) file.path world).2.tree :=
    grows_prepareDirectory .sound file.path world
  rw [prepared] at grows
  obtain ⟨directory, enters, rfl⟩ := enters_of_named awaited.named
  refine ⟨⟨grows, directory, enters, rfl⟩, fun _ => named?_temporary_iff, ?_, ?_, ?_⟩
  · intro fresh free
    obtain ⟨succeeds, left⟩ := write_of_named content prepared awaited free
    have stored := stored_put awaited content
    rw [succeeds, left]
    refine ⟨rfl, stored, ?_⟩
    have apart : fresh ≠ directory ++ [file.name] := by
      obtain ⟨-, -, other, -, rfl⟩ := named?_temporary_iff.mp free
      intro same
      exact ne_temporaryOf file.name pid (List.cons.inj (List.append_inj' same rfl).2).1.symm
    rw [stored.node?_eq, if_neg apart]
    exact awaited.vacant _ free
  · exact write_of_nowhere content prepared
  · intro single fault short
    rw [List.dropLast_concat]
    refine named?_temporary_iff.mpr ⟨fault, short, directory, ?_, rfl⟩
    rwa [inner, single, List.map_nil, List.append_nil]

/-- A page below `sub`, in an output directory that is not there yet. -/
def nestedPage : OutputFile := ⟨⟨"_site"⟩, [⟨"sub", by decide⟩], pageFileName⟩

/-- **Nothing is in the way of a page below a directory, and still it is not written**, although its
directory was made for it: the temporary file would belong into another directory of this name. -/
theorem nestedPage_not_written :
    let world : World := ⟨.empty, []⟩
    nestedPage.fileName = "sub/index.html" ∧ nestedPage.path = ⟨"_site/sub/index.html"⟩ ∧
      nestedPage.temporary 7 = ⟨"_site/sub/sub/index.html.postpage-tmp-7"⟩ ∧
      ∃ ready location,
        prepareDirectory (m := StateM World) nestedPage.path world = (.ok (), ready) ∧
          Awaited nestedPage 7 ready.tree location ∧
          outcome (nestedPage.write 7 "page") world = .error (.io .notFound) := by
  intro world
  let ready := (prepareDirectory (m := StateM World) nestedPage.path world).2
  have nowhere : ready.tree.named? (nestedPage.temporary 7) = none := by decide +kernel
  refine ⟨by decide +kernel, by decide +kernel, by decide +kernel, ready,
    [⟨"_site", by decide⟩, ⟨"sub", by decide⟩, pageFileName], Prod.ext (by decide +kernel) rfl,
    ⟨by decide +kernel, ?_, ?_⟩, by decide +kernel⟩
  · rw [ne_eq, ← isDirectory_iff]
    decide +kernel
  · intro l named
    rw [nowhere] at named
    exact absurd named (by simp)

/-- Where there is such a directory, the page is written, and the other directory is left as it was. -/
theorem write_exact_nestedPage : ∃ (world : World) (location : Location),
    outcome (nestedPage.write 7 "page") world = .ok ⟨"_site/sub/index.html"⟩ ∧
      Stored nestedPage "page" world.tree location (after (nestedPage.write 7 "page") world).tree := by
  let site : FileName := ⟨"_site", by decide⟩
  let sub : FileName := ⟨"sub", by decide⟩
  let world : World := ⟨((FileTree.empty.put [site] .directory).put [site, sub] .directory).put
    [site, sub, sub] .directory, []⟩
  have there : world.tree.kind? ⟨"_site/sub"⟩ ≠ none := by decide +kernel
  have parent : nestedPage.path.parent? = some ⟨"_site/sub"⟩ := by decide +kernel
  have prepared : prepareDirectory (m := StateM World) nestedPage.path world = (.ok (), world) :=
    prepareDirectory_of_there parent (.inr there)
  have free : world.tree.named? (nestedPage.temporary 7) =
      some [site, sub, sub, temporaryOf pageFileName 7] := by decide +kernel
  have awaited : Awaited nestedPage 7 world.tree [site, sub, pageFileName] := by
    refine ⟨by decide +kernel, ?_, fun l named => ?_⟩
    · rw [ne_eq, ← isDirectory_iff]
      decide +kernel
    · rw [free] at named
      obtain rfl := Option.some.inj named
      exact Option.isNone_iff_eq_none.mp (by decide +kernel)
  obtain ⟨-, -, written, -, -⟩ := write_exact nestedPage 7 "page" prepared awaited
  obtain ⟨succeeds, stored, -⟩ := written _ free
  exact ⟨world, _, succeeds, stored⟩

end OutputFile

end SinglePage.Site
