/-
# Builds that succeed

A build succeeds when each of its steps does: the page is rendered, the directory for it is there or
can be made, and the page can be written beside its place and moved there.  What the steps have done
to the tree is then all that the build has done to it, whatever stood in the way of the temporary
file before.

* `provides_createEach`: directories that were made are there;
* `prepareDirectory_there`, `prepareDirectory_of_there`: what preparing a directory has done, and
  when there is nothing to do;
* `yields_bind_iff`: one program behind another succeeds when both do;
* `build_ok_iff`: what a build that succeeds has done.
-/
import SinglePage.Proofs.Site.Writing

namespace SinglePage

open World FileTree

/-! ## 1. Directories that were made are there -/

/-- A directory that was made is there. -/
theorem FileTree.kind?_of_createDirectory {tree after : FileTree} {path : Path}
    (made : tree.createDirectory path = .ok after) : after.kind? path = some .directory := by
  have grows := grows_of_createDirectory (List.mem_singleton_self path) made
  obtain ⟨directory, name, -, vacant, can, rfl⟩ := createDirectory_eq_ok made
  have new : (tree.put (directory ++ [name]) .directory).node? (directory ++ [name]) =
      some .directory := by rw [node?_put _ can, if_pos rfl]
  rcases grows.adds _ _ new with old | ⟨-, other, mem, found⟩
  · rw [vacant] at old
    exact absurd old (by simp)
  · obtain rfl := List.mem_singleton.mp mem
    exact kind?_eq_directory_iff.mpr ⟨_, found⟩

namespace Host

/-- Whenever the program succeeds, the path leads to a directory. -/
def Provides (path : Path) (program : StateM World (Except FileError Unit)) : Prop :=
  ∀ world, (program world).1 = .ok () → (program world).2.tree.kind? path = some .directory

namespace Provides

variable {path : Path}

theorem error (cause : FileError) : Provides path (pure (.error cause)) := by
  intro world succeeds
  have run : (pure (.error cause) : StateM World (Except FileError Unit)) world =
      (.error cause, world) := rfl
  rw [run] at succeeds
  exact absurd succeeds (by simp)

theorem bind {α : Type} {program : StateM World α}
    {next : α → StateM World (Except FileError Unit)} (provides : ∀ a, Provides path (next a)) :
    Provides path (program >>= next) :=
  fun world => provides (program world).1 (program world).2

/-- Settling for a directory that is there. -/
theorem isDirectory (cause : FileError) :
    Provides path (do
      if ← Host.isDirectory path then return .ok () else return .error cause) := by
  intro world
  have run : Host.isDirectory (m := StateM World) path world =
      (decide (world.tree.kind? path = some .directory), world) := rfl
  rw [run_bind, run]
  by_cases there : world.tree.kind? path = some .directory
  · rw [decide_eq_true there]
    exact fun _ => there
  · rw [decide_eq_false there]
    exact error cause world

/-- Making a directory, and going on only if that fails. -/
theorem createDirectory {next : Except FileError Unit → StateM World (Except FileError Unit)}
    (done : next (.ok ()) = pure (.ok ())) (failed : ∀ cause, Provides path (next (.error cause))) :
    Provides path (Host.createDirectory path >>= next) := by
  intro world
  rw [run_bind]
  cases result : world.tree.createDirectory path with
  | error cause =>
    have run : Host.createDirectory (m := StateM World) path world = (.error cause, world) :=
      run_change_error result
    rw [run]
    exact failed cause world
  | ok after =>
    have run : Host.createDirectory (m := StateM World) path world =
        (.ok (), { world with tree := after }) := run_change_ok result
    rw [run, done]
    exact fun _ => kind?_of_createDirectory result

end Provides

/-- **A directory that was asked for is there**, if making it with all that it lies in succeeds. -/
theorem provides_createEach {path : Path} (named : path.text ≠ "") (outer : List Path) :
    Provides path (createEach (path :: outer)) := by
  rw [createEach]
  split
  · rename_i empty
    exact absurd empty named
  · refine Provides.createDirectory rfl fun cause => ?_
    split
    · refine Provides.bind fun result => ?_
      cases result with
      | error cause => exact Provides.error cause
      | ok done => exact Provides.createDirectory rfl fun cause => Provides.isDirectory cause
    · rename_i other
      exact Provides.isDirectory cause

end Host

namespace Site

theorem run_prepareDirectory {path directory : Path} (around : path.parent? = some directory)
    (world : World) :
    prepareDirectory (m := StateM World) path world =
      if (world.tree.kind? directory).isSome then (.ok (), world)
      else Host.createDirectories (m := StateM World) directory world := by
  have run : prepareDirectory (m := StateM World) path =
      (Host.kind? directory >>= fun kind =>
        if kind.isSome then pure (.ok ()) else Host.createDirectories directory) := by
    unfold prepareDirectory
    rw [around]
  have look : Host.kind? (m := StateM World) directory world =
      (world.tree.kind? directory, world) := rfl
  rw [run, run_bind, look]
  dsimp only
  split <;> rfl

/-- **When the directory of a page is prepared, it is there**, unless it goes without saying. -/
theorem prepareDirectory_there {path directory : Path} {world : World}
    (around : path.parent? = some directory)
    (prepared : (prepareDirectory (m := StateM World) path world).1 = .ok ()) :
    directory.text = "" ∨
      (prepareDirectory (m := StateM World) path world).2.tree.kind? directory ≠ none := by
  rw [run_prepareDirectory around] at prepared ⊢
  split at prepared
  · rename_i there
    rw [if_pos there]
    exact .inr (Option.isSome_iff_ne_none.mp there)
  · rename_i missing
    rw [if_neg missing]
    by_cases empty : directory.text = ""
    · exact .inl empty
    · have made := Host.provides_createEach empty directory.parents world prepared
      refine .inr ?_
      rw [Host.createDirectories, made]
      simp

/-- **Where the directory is, there is nothing to prepare.** -/
theorem prepareDirectory_of_there {path directory : Path} {world : World}
    (around : path.parent? = some directory)
    (there : directory.text = "" ∨ world.tree.kind? directory ≠ none) :
    prepareDirectory (m := StateM World) path world = (.ok (), world) := by
  rw [run_prepareDirectory around]
  split
  · rfl
  · rename_i missing
    have empty := there.resolve_right fun found => missing (Option.isSome_iff_ne_none.mpr found)
    rw [Host.createDirectories, Host.createEach, if_pos empty]
    rfl

/-! ## 2. Programs that succeed -/

/-- A program succeeds in a world: it returns this, and leaves that world behind. -/
def Yields {α : Type} (program : ExceptT SiteError (StateM World) α) (world : World) (a : α)
    (w : World) : Prop :=
  outcome program world = .ok a ∧ after program world = w

section Runs

variable {α β : Type} {world w : World}

/-- **One program behind another succeeds when both do.** -/
theorem yields_bind_iff {program : ExceptT SiteError (StateM World) α}
    {next : α → ExceptT SiteError (StateM World) β} {b : β} :
    Yields (program >>= next) world b w ↔
      ∃ a between, Yields program world a between ∧ Yields (next a) between b w := by
  unfold Yields
  cases ran : outcome program world with
  | error e =>
    obtain ⟨fails, -⟩ := run_of_error next ran
    simp [fails]
  | ok a =>
    obtain ⟨out, behind⟩ := run_of_ok next ran
    rw [out, behind]
    constructor
    · rintro ⟨succeeds, left⟩
      exact ⟨a, _, ⟨rfl, rfl⟩, succeeds, left⟩
    · rintro ⟨_, _, ⟨same, rfl⟩, succeeds, left⟩
      obtain rfl := Except.ok.inj same
      exact ⟨succeeds, left⟩

theorem yields_lift_iff {program : StateM World α} {a : α} :
    Yields (liftM program) world a w ↔ (program world).1 = a ∧ (program world).2 = w := by
  rw [Yields, outcome_lift, after_lift, Except.ok.injEq]

theorem yields_finish_iff {temporary path returned : Path} {result : Except FileError Unit} :
    Yields (finish temporary path result) world returned w ↔
      result = .ok () ∧ path = returned ∧ world = w := by
  cases result with
  | ok done =>
    obtain ⟨succeeds, left⟩ := finish_ok temporary path world
    rw [Yields, succeeds, left, Except.ok.injEq]
    simp
  | error cause =>
    obtain ⟨fails, -⟩ := finish_error temporary path cause world
    simp [Yields, fails]

/-- The page is placed when its directory is there, and it is written and moved. -/
theorem yields_place_iff {temporary path returned : Path} {content : String}
    {result : Except FileError Unit} :
    Yields (place temporary path content result) world returned w ↔
      result = .ok () ∧ path = returned ∧
        (writeAndMove (m := StateM World) temporary path content world).1 = .ok () ∧
        (writeAndMove (m := StateM World) temporary path content world).2 = w := by
  cases result with
  | error cause =>
    have fails : outcome (place temporary path content (.error cause)) world =
        .error (.io cause) := rfl
    simp [Yields, fails]
  | ok done =>
    rw [place, yields_bind_iff]
    simp only [yields_lift_iff, yields_finish_iff]
    constructor
    · rintro ⟨_, _, ⟨rfl, rfl⟩, written, rfl, rfl⟩
      exact ⟨trivial, rfl, written, rfl⟩
    · rintro ⟨-, rfl, written, rfl⟩
      exact ⟨_, _, ⟨rfl, rfl⟩, written, rfl, rfl⟩

/-- A file is written beside another and moved over it when the tree allows both. -/
theorem writeAndMove_ok_iff {temporary path : Path} {content : String} {tree : FileTree} :
    ((writeAndMove (m := StateM World) temporary path content world).1 = .ok () ∧
        (writeAndMove (m := StateM World) temporary path content world).2.tree = tree) ↔
      ∃ written, world.tree.writeFile temporary content.toUTF8 = .ok written ∧
        written.moveFile temporary path = .ok tree := by
  cases wrote : world.tree.writeFile temporary content.toUTF8 with
  | error cause =>
    have write : Host.writeFile (m := StateM World) temporary content.toUTF8 world =
        (.error cause, world) := run_change_error wrote
    simp [run_writeAndMove_error write]
  | ok written =>
    have write : Host.writeFile (m := StateM World) temporary content.toUTF8 world =
        (.ok (), { world with tree := written }) := run_change_ok wrote
    rw [run_writeAndMove_ok write]
    cases moved : written.moveFile temporary path with
    | error cause =>
      have move : Host.moveFile (m := StateM World) temporary path { world with tree := written } =
          (.error cause, { world with tree := written }) := run_change_error moved
      simp [move, moved]
    | ok after =>
      have move : Host.moveFile (m := StateM World) temporary path { world with tree := written } =
          (.ok (), { world with tree := after }) := run_change_ok moved
      simp [move, moved]

theorem yields_report_iff {html : String} {path returned : Path} {tree : FileTree} :
    (∃ w, Yields (report html path) world returned w ∧ w.tree = tree) ↔
      path = returned ∧ world.tree = tree := by
  obtain ⟨reported, same⟩ := report_run html path world
  constructor
  · rintro ⟨w, ⟨returns, rfl⟩, rfl⟩
    exact ⟨Except.ok.inj (reported.symm.trans returns), same.symm⟩
  · rintro ⟨rfl, rfl⟩
    exact ⟨_, ⟨reported, rfl⟩, same⟩

/-- **What a build comes to that succeeds**: the page is rendered, its directory is prepared, and it
is written beside its place and moved there. -/
theorem build_ok_iff {options : Options} {pid : Nat} {path : Path} {tree : FileTree} :
    outcome (build (toString pid) options) world = .ok path ∧
        (after (build (toString pid) options) world).tree = tree ↔
      ∃ html, outcome (render options) world = .ok html ∧
        (prepareDirectory (m := StateM World) options.page (after (render options) world)).1 =
          .ok () ∧
        options.page = path ∧
        ∃ written,
          (readyTree .sound options world).writeFile (options.temporary pid) html.toUTF8 = .ok written ∧
            written.moveFile (options.temporary pid) options.page = .ok tree := by
  have run : outcome (build (toString pid) options) world = .ok path ∧
      (after (build (toString pid) options) world).tree = tree ↔
        ∃ w, Yields (build (toString pid) options) world path w ∧ w.tree = tree := by
    constructor
    · rintro ⟨succeeds, left⟩
      exact ⟨_, ⟨succeeds, rfl⟩, left⟩
    · rintro ⟨_, ⟨succeeds, rfl⟩, left⟩
      exact ⟨succeeds, left⟩
  rw [run, build_eq]
  simp only [yields_bind_iff, writeAtomically_eq, yields_lift_iff, yields_place_iff, readyTree_sound,
    ← writeAndMove_ok_iff]
  constructor
  · rintro ⟨w, ⟨html, _, ⟨rendered, rfl⟩, _, _, ⟨_, _, ⟨rfl, rfl⟩, prepared, rfl, wrote, rfl⟩,
      reported⟩, same⟩
    obtain ⟨rfl, same⟩ := yields_report_iff.mp ⟨w, reported, same⟩
    exact ⟨html, rendered, prepared, rfl, wrote, same⟩
  · rintro ⟨html, rendered, prepared, rfl, wrote, same⟩
    obtain ⟨w, reported, same⟩ := yields_report_iff.mpr ⟨rfl, same⟩
    exact ⟨w, ⟨html, _, ⟨rendered, rfl⟩, _, _, ⟨_, _, ⟨rfl, rfl⟩, prepared, rfl, wrote, rfl⟩,
      reported⟩, same⟩

end Runs

end Site

end SinglePage
