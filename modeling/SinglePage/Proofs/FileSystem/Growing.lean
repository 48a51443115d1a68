/-
# Making directories

Making a directory and all that it lies in may stop halfway.  Whatever happens, all that was there
stays, and nothing is new but directories that lie on the way to the one that was asked for.

* `Grows`: one tree is another one with directories added at the ends of some paths;
* `grows_of_createDirectory`: a new directory is what its path leads to;
* `changes_createEach`: making directories, whether it succeeds or not, does no more to a tree than
  making single ones of them does;
* `Changes.createDirectory`: whatever the disk refuses.
-/
import SinglePage.FileSystem.Disk
import SinglePage.Proofs.FileSystem.Entering

namespace SinglePage

namespace FileTree

/-! ## 1. Trees with more directories -/

/-- All that stands in one tree stands in the other. -/
def Keeps (before after : FileTree) : Prop :=
  ∀ location node, before.node? location = some node → after.node? location = some node

/-- **One tree is another one with some directories added**, each of which one of the paths leads
to. -/
structure Grows (paths : List Path) (before after : FileTree) : Prop where
  keeps : Keeps before after
  adds : ∀ location node, after.node? location = some node →
    before.node? location = some node ∨
      node = .directory ∧ ∃ path ∈ paths, after.directoryAt path = .ok location

/-- What is entered in a tree is entered in a larger one as well. -/
theorem Keeps.enters {before after : FileTree} (keeps : Keeps before after) {links : Nat}
    {directory place : Location} {steps : List Step}
    (enters : Enters before links directory steps place) :
    Enters after links directory steps place :=
  enters.mono (fun l there => keeps l _ there) fun l _ there => keeps l _ there

/-- A directory is found in a larger tree as well. -/
theorem Keeps.directoryAt {before after : FileTree} (keeps : Keeps before after) {path : Path}
    {location : Location} (found : before.directoryAt path = .ok location) :
    after.directoryAt path = .ok location := by
  rw [directoryAt_eq_ok_iff] at found ⊢
  obtain ⟨fault, enters⟩ := found
  exact ⟨fault, keeps.enters enters⟩

namespace Grows

theorem refl (paths : List Path) (tree : FileTree) : Grows paths tree tree where
  keeps _ _ there := there
  adds _ _ there := .inl there

theorem trans {paths : List Path} {a b c : FileTree} (first : Grows paths a b)
    (second : Grows paths b c) : Grows paths a c where
  keeps location node there := second.keeps location node (first.keeps location node there)
  adds location node there := by
    rcases second.adds location node there with between | new
    · rcases first.adds location node between with old | ⟨isDirectory, path, mem, found⟩
      · exact .inl old
      · exact .inr ⟨isDirectory, path, mem, second.keeps.directoryAt found⟩
    · exact .inr new

/-- At any one location, there is at most a directory where nothing was. -/
theorem node?_eq {paths : List Path} {before after : FileTree} (grows : Grows paths before after)
    (location : Location) : after.node? location = before.node? location ∨
      before.node? location = none ∧ after.node? location = some .directory := by
  cases old : before.node? location with
  | some node => exact .inl (grows.keeps location node old)
  | none =>
    cases new : after.node? location with
    | none => exact .inl rfl
    | some node =>
      rcases grows.adds location node new with there | ⟨rfl, -⟩
      · rw [old] at there
        exact absurd there (by simp)
      · exact .inr ⟨rfl, rfl⟩

end Grows

/-- Where a new directory is made. -/
theorem freeEntry_eq_ok {tree : FileTree} {path : Path} {forDirectory : Bool}
    {location : Location} (free : tree.freeEntry path forDirectory = .ok location) :
    ∃ directory name, tree.lastEntry path = .ok (directory, some name) ∧
      location = directory ++ [name] ∧ tree.node? location = none := by
  have vacant := node?_of_freeEntry free
  simp only [freeEntry, bind, Except.bind] at free
  split at free
  · exact absurd free (by simp)
  · rename_i last eq
    split at free
    · rename_i directory name
      split at free
      · exact absurd free (by simp [throw, throwThe, MonadExceptOf.throw])
      · split at free
        · exact absurd free (by simp [throw, throwThe, MonadExceptOf.throw])
        · obtain rfl := Except.ok.inj free
          exact ⟨directory, name, eq, rfl, vacant⟩
    · exact absurd free (by simp [throw, throwThe, MonadExceptOf.throw])

/-- What making a directory comes to. -/
theorem createDirectory_eq_ok {tree after : FileTree} {path : Path}
    (made : tree.createDirectory path = .ok after) :
    ∃ directory name, tree.lastEntry path = .ok (directory, some name) ∧
      tree.node? (directory ++ [name]) = none ∧ tree.canPut (directory ++ [name]) = true ∧
        after = tree.put (directory ++ [name]) .directory := by
  unfold createDirectory at made
  cases free : tree.freeEntry path true with
  | error cause =>
    rw [free] at made
    exact absurd made (by simp [bind, Except.bind])
  | ok location =>
    rw [free] at made
    obtain rfl := Except.ok.inj made
    obtain ⟨directory, name, last, rfl, vacant⟩ := freeEntry_eq_ok free
    have inside := isDirectory_iff.mp (lastEntry_directory last)
    refine ⟨directory, name, last, vacant, canPut_iff.mpr ⟨by simp, by simpa using inside, ?_⟩, rfl⟩
    rw [vacant]
    simp

theorem keeps_of_createDirectory {tree after : FileTree} {path : Path}
    (made : tree.createDirectory path = .ok after) : Keeps tree after :=
  fun _ _ there => createDirectory_keeps made there

/-- The last of the steps that are named. -/
theorem namedSteps_of_getLast? {path : Path} {name : FileName}
    (named : path.namedSteps.getLast? = some (.down name)) :
    path.namedSteps = path.namedSteps.dropLast ++ [.down name] := by
  obtain ⟨front, eq⟩ := List.getLast?_eq_some_iff.mp named
  rw [eq, List.dropLast_concat]

/-- **A new directory is what its path leads to**, and nothing else is new. -/
theorem grows_of_createDirectory {tree after : FileTree} {path : Path} {paths : List Path}
    (mem : path ∈ paths) (made : tree.createDirectory path = .ok after) :
    Grows paths tree after := by
  have keeps := keeps_of_createDirectory made
  obtain ⟨directory, name, last, vacant, can, rfl⟩ := createDirectory_eq_ok made
  obtain ⟨fault, enters, named, short⟩ := lastEntry_eq_ok_iff.mp last
  refine ⟨keeps, ?_⟩
  intro l node there
  rw [node?_put .directory can] at there
  split at there
  · rename_i here
    subst here
    have enters' : Enters (tree.put (directory ++ [name]) .directory) maxLinks []
        path.namedSteps (directory ++ [name]) := by
      rw [namedSteps_of_getLast? named]
      refine (keeps.enters enters).snoc short ?_
      rw [node?_put .directory can, if_pos rfl]
    refine .inr ⟨(Option.some.inj there).symm, path, mem, ?_⟩
    exact directoryAt_eq_ok_iff.mpr ⟨fault, enters'.sameWay path.sameWay_namedSteps.symm⟩
  · exact .inl there

end FileTree

/-! ## 2. Programs that add directories -/

namespace World

variable {α β : Type} {change : FileTree → FileTree → Prop}

/-- Whatever a program does, its change of the tree is of this kind. -/
def Changes (change : FileTree → FileTree → Prop) (program : StateM World α) : Prop :=
  ∀ world, change world.tree (program world).2.tree

namespace Changes

theorem look (refl : ∀ tree, change tree tree) (f : FileTree → α) :
    Changes change (World.look f) :=
  fun world => refl world.tree

theorem pure (refl : ∀ tree, change tree tree) (a : α) : Changes change (Pure.pure a) :=
  fun world => refl world.tree

theorem bind (trans : ∀ ⦃a b c⦄, change a b → change b c → change a c)
    {program : StateM World α} {next : α → StateM World β} (first : Changes change program)
    (second : ∀ a, Changes change (next a)) : Changes change (program >>= next) :=
  fun world => trans (first world) (second _ _)

/-- A disk makes a directory as the tree does, or it changes nothing. -/
theorem createDirectory (disk : Disk) (refl : ∀ tree, change tree tree) {path : Path}
    (made : ∀ {tree after : FileTree}, tree.createDirectory path = .ok after → change tree after) :
    Changes change (disk.host.createDirectory path) := by
  intro world
  have run : disk.host.createDirectory path world =
      changeUnless (disk.making world path) (fun tree => tree.createDirectory path) world := rfl
  rw [run]
  rcases changeUnless_cases (disk.making world path) (fun tree => tree.createDirectory path) world
    with ⟨cause, unchanged⟩ | ⟨after, result, changed⟩
  · rw [unchanged]
    exact refl world.tree
  · rw [changed]
    exact made result

end Changes

end World

namespace Host

open World

variable {change : FileTree → FileTree → Prop} (refl : ∀ tree, change tree tree)
  (trans : ∀ ⦃a b c⦄, change a b → change b c → change a c) [Host (StateM World)]
  (looks : ∀ path, Changes change (Host.kind? path))

include refl trans looks

theorem changes_isDirectory (path : Path) :
    Changes change (isDirectory path) :=
  (looks path).bind trans fun _ => Changes.pure refl _

/-- A directory that cannot be made is only looked at. -/
theorem changes_settle (path : Path) (result : Except FileError Unit) : Changes change (do
    match result with
    | .ok () => return .ok ()
    | .error cause =>
      if ← isDirectory path then return .ok () else return .error cause :
        StateM World (Except FileError Unit)) := by
  cases result with
  | ok done => exact Changes.pure refl _
  | error cause =>
    refine (changes_isDirectory refl trans looks path).bind trans ?_
    intro found
    split <;> exact Changes.pure refl _

/-- **Making the first of some directories changes the tree as making single ones of them does.** -/
theorem changes_createEach : ∀ {outer : List Path},
    (∀ path ∈ outer, Changes change (Host.createDirectory path)) → Changes change (createEach outer)
  | [], _ => Changes.pure refl _
  | path :: outer, made => by
    have settle := changes_settle refl trans looks path
    have outer' : Changes change (createEach outer) :=
      changes_createEach fun q mem => made q (List.mem_cons_of_mem _ mem)
    have make := made path List.mem_cons_self
    rw [createEach]
    split
    · exact Changes.pure refl _
    · refine make.bind trans ?_
      intro result
      split
      · refine outer'.bind trans ?_
        intro result'
        cases result' with
        | error cause => exact Changes.pure refl _
        | ok done => exact make.bind trans settle
      · exact settle _

end Host

end SinglePage
