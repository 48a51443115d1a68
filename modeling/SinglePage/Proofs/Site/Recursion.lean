/-
# Listing below a directory, too

Listing the posts below a directory is meant to add to those in it.  It does not quite: in a
directory, an entry counts if it leads to a file; below one, it counts if it is a file.  A link that
leads to a file is listed by itself and lost when directories are descended into.  Nothing else is
lost, and what is left of the shorter list stands in the longer one in the same order.

* `FileTree.file_or_link_of_kind?`: what a name in a directory that leads to a file is the name of;
* `mem_listed`, `pairwise_listed`: what is in a list of posts, and in which order;
* `fileIn_below_iff`: the files in a directory that are found below it as well;
* `listPosts_recursive`: what becomes of a list when directories are descended into.
-/
import Mathlib.Data.List.Sort
import SinglePage.Proofs.FileSystem.Naming
import SinglePage.Proofs.Site.ListedPosts

namespace SinglePage

/-! ## 1. Names in a directory -/

namespace FileTree

variable {tree : FileTree} {directory : Path} {location : Location}

/-- A name that leads to something stands in the directory. -/
theorem named?_join (there : tree.directoryAt directory = .ok location) {name : FileName}
    (leads : tree.kind? (directory.join name.text) ≠ none) :
    tree.named? (directory.join name.text) = some (location ++ [name]) := by
  obtain ⟨-, enters⟩ := directoryAt_eq_ok_iff.mp there
  obtain ⟨steps, ends, same⟩ := directory.endsIn_join name
  obtain ⟨found, named⟩ := named?_of_kind? ends leads
  obtain ⟨-, -, place, enters', rfl⟩ := (named?_eq_some_iff ends).mp named
  rw [named, (enters'.sameWay same.symm).unique enters]

/-- **A file in a directory is a file or a link there.** -/
theorem file_or_link_of_kind? (there : tree.directoryAt directory = .ok location)
    {name : FileName} (leads : tree.kind? (directory.join name.text) = some .file)
    (inside : (tree.node? (location ++ [name])).isSome = true) :
    (∃ bytes, tree.node? (location ++ [name]) = some (.file bytes)) ∨
      ∃ target, tree.node? (location ++ [name]) = some (.link target) := by
  obtain ⟨steps, ends, -⟩ := directory.endsIn_join name
  have something : tree.kind? (directory.join name.text) ≠ none := by simp [leads]
  have named := named?_join there something
  cases found : tree.node? (location ++ [name]) with
  | none => simp [found] at inside
  | some node =>
    cases node with
    | file bytes => exact .inl ⟨bytes, rfl⟩
    | link target => exact .inr ⟨target, rfl⟩
    | directory =>
      have kind := kind?_of_named ends named (by simp [found])
      rw [found, leads] at kind
      exact absurd kind (by simp [Node.kind?])

end FileTree

namespace Site

open World

/-! ## 2. Lists of posts -/

/-- The entries that are listed for a directory, in order. -/
def listed (tree : FileTree) (directory : Path) (location : Location) (recursive : Bool) :
    List PostEntry :=
  sortEntries ((postsOf (filesOf tree directory location recursive)).map (entryOf directory))

section Listed

variable {world : World} {directory : Path} {location : Location}

theorem outcome_listPosts_listed (there : world.tree.directoryAt directory = .ok location)
    (recursive : Bool) :
    outcome (listPosts directory recursive) world =
      .ok (listed world.tree directory location recursive) := by
  rw [listPosts_eq]
  exact outcome_of_finds there (finds_filesOf there recursive)

/-- **An entry is listed for each post**, and no other. -/
theorem mem_listed (there : world.tree.directoryAt directory = .ok location) {recursive : Bool}
    {entry : PostEntry} :
    entry ∈ listed world.tree directory location recursive ↔
      ∃ names stem, IsPost world.tree directory location recursive names stem ∧
        entry = entryOf directory (names, stem) := by
  simp only [listed, mem_sortEntries, List.mem_map, Prod.exists, mem_postsOf, mem_filesOf there,
    IsPost]
  constructor
  · rintro ⟨names, stem, isPost, rfl⟩
    exact ⟨names, stem, isPost, rfl⟩
  · rintro ⟨names, stem, isPost, rfl⟩
    exact ⟨names, stem, isPost, rfl⟩

theorem pairwise_listed (there : world.tree.directoryAt directory = .ok location)
    (recursive : Bool) :
    (listed world.tree directory location recursive).Pairwise PostEntry.Precedes :=
  pairwise_sortEntries
    (apart_entries directory (nodup_filesOf there recursive) (nil_not_mem_filesOf there recursive))

/-- **Posts that are all among others stand in the same order there.** -/
theorem sublist_of_precedes {entries others : List PostEntry}
    (sorted : entries.Pairwise PostEntry.Precedes) (sorted' : others.Pairwise PostEntry.Precedes)
    (among : entries ⊆ others) : entries.Sublist others := by
  have distinct : entries.Nodup := by
    refine List.Pairwise.imp ?_ sorted
    rintro a _ precedes rfl
    exact PostEntry.Precedes.irrefl a precedes
  have _ : Std.Antisymm PostEntry.Precedes := ⟨fun _ _ ab ba => absurd ba ab.asymm⟩
  exact List.sublist_of_subperm_of_pairwise (List.subperm_of_subset distinct among) sorted sorted'

/-! ## 3. With and without descending -/

/-- The path of the entry ends in the name of a link in the directory. -/
def IsLink (tree : FileTree) (directory : Path) (location : Location) (entry : PostEntry) : Prop :=
  ∃ name target, entry.path = directory.join name.text ∧
    tree.node? (location ++ [name]) = some (.link target)

/-- **Files in a directory are found below it as well**, unless they are links. -/
theorem fileIn_below_iff (there : world.tree.directoryAt directory = .ok location)
    {names : List FileName} (inside : FileIn world.tree directory location names) :
    FileBelow world.tree directory location names ↔
      ∀ target, world.tree.node? (location ++ names) ≠ some (.link target) := by
  obtain ⟨name, rfl, stands, leads⟩ := inside
  constructor
  · rintro ⟨-, ⟨bytes, found⟩, -⟩ target link
    exact absurd (Option.some.inj (found.symm.trans link)) (by simp)
  · intro plain
    rcases FileTree.file_or_link_of_kind? there leads stands with file | ⟨target, link⟩
    · obtain ⟨fault, -⟩ := FileTree.directoryAt_eq_ok_iff.mp there
      exact ⟨by simp, file, by simp, fault⟩
    · exact absurd link (plain target)

/-- A path below a directory leads down some names only. -/
theorem names_of_entryOf {names others : List FileName} {stem : String} {path : Path}
    (nonempty : names ≠ []) (made : (entryOf directory (names, stem)).path = path)
    (same : path = directory.descend others) : names = others := by
  have whole : directory.descend names = directory.descend others :=
    (Path.descend_eq_join directory nonempty).trans (made.trans same)
  exact Path.descend_inj (congrArg Path.components whole)

/-- **An entry is kept when directories are descended into**, unless it is that of a link. -/
theorem mem_listed_recursive (there : world.tree.directoryAt directory = .ok location)
    {entry : PostEntry} (mem : entry ∈ listed world.tree directory location false) :
    entry ∈ listed world.tree directory location true ↔
      ¬ IsLink world.tree directory location entry := by
  obtain ⟨_, stem, ⟨⟨name, rfl, inside⟩, named⟩, rfl⟩ := (mem_listed there).mp mem
  have path : (entryOf directory ([name], stem)).path = directory.descend [name] :=
    (Path.descend_eq_join directory (by simp)).symm
  have below := fileIn_below_iff there ⟨name, rfl, inside⟩
  rw [mem_listed there]
  constructor
  · rintro ⟨names, stem', ⟨found, -⟩, same⟩ ⟨other, target, ends, link⟩
    obtain rfl : names = [name] :=
      names_of_entryOf found.1 (congrArg PostEntry.path same).symm path
    obtain rfl : name = other :=
      List.singleton_inj.mp (names_of_entryOf (by simp) ends rfl)
    exact below.mp found target link
  · intro plain
    have found := below.mpr fun target link => plain ⟨name, target, path, link⟩
    exact ⟨[name], stem, ⟨found, named⟩, rfl⟩

/-- **What becomes of a list of posts when directories are descended into.**  Both lists can be
made.  An entry of the shorter one is in the longer one exactly if it is not that of a link, and
those that are stand in the same order there.  So where there is no link in the directory, nothing
is lost. -/
theorem listPosts_recursive (there : world.tree.directoryAt directory = .ok location) :
    ∃ flat deep, outcome (listPosts directory false) world = .ok flat ∧
      outcome (listPosts directory true) world = .ok deep ∧
      (∀ entry ∈ flat, entry ∈ deep ↔ ¬ IsLink world.tree directory location entry) ∧
      (flat.filter (· ∈ deep)).Sublist deep ∧
      ((∀ name target, world.tree.node? (location ++ [name]) ≠ some (.link target)) →
        flat.Sublist deep) := by
  have sorted := pairwise_listed there false
  have sorted' := pairwise_listed there true
  refine ⟨_, _, outcome_listPosts_listed there false, outcome_listPosts_listed there true,
    fun entry mem => mem_listed_recursive there mem, ?_, ?_⟩
  · refine sublist_of_precedes (sorted.sublist List.filter_sublist) sorted' fun entry mem => ?_
    exact of_decide_eq_true (List.mem_filter.mp mem).2
  · intro noLinks
    refine sublist_of_precedes sorted sorted' fun entry mem => ?_
    refine (mem_listed_recursive there mem).mpr ?_
    rintro ⟨name, target, -, link⟩
    exact noLinks name target link

end Listed

theorem directoryAt_shelf :
    shelf.tree.directoryAt ⟨"shelf"⟩ = .ok [⟨"shelf", by decide⟩] := by rfl

/-- The link on the shelf is listed. -/
theorem mem_listed_shelf :
    ⟨⟨"shelf/2022.txt"⟩, "2022"⟩ ∈
      listed shelf.tree ⟨"shelf"⟩ [⟨"shelf", by decide⟩] false := by
  refine (mem_listed directoryAt_shelf).mpr
    ⟨[⟨"2022.txt", by decide⟩], "2022", ⟨?_, by decide, ⟨"2022.txt", by decide⟩, rfl, rfl⟩, ?_⟩
  · exact ⟨⟨"2022.txt", by decide⟩, rfl, by decide +kernel, by decide +kernel⟩
  · decide +kernel

theorem isLink_shelf :
    IsLink shelf.tree ⟨"shelf"⟩ [⟨"shelf", by decide⟩] ⟨⟨"shelf/2022.txt"⟩, "2022"⟩ :=
  ⟨⟨"2022.txt", by decide⟩, ⟨"old/2020_a.txt"⟩, by decide +kernel, by rfl⟩

/-- The link on the shelf is all that is lost. -/
theorem listPosts_recursive_shelf :
    shelf.tree.directoryAt ⟨"shelf"⟩ = .ok [⟨"shelf", by decide⟩] ∧
      ∃ flat deep, outcome (listPosts ⟨"shelf"⟩ false) shelf = .ok flat ∧
        outcome (listPosts ⟨"shelf"⟩ true) shelf = .ok deep ∧
        ⟨⟨"shelf/2022.txt"⟩, "2022"⟩ ∉ deep ∧ (flat.filter (· ∈ deep)).Sublist deep := by
  obtain ⟨flat, deep, listed, listed', kept, among, -⟩ := listPosts_recursive directoryAt_shelf
  obtain rfl := Except.ok.inj ((outcome_listPosts_listed directoryAt_shelf false).symm.trans listed)
  exact ⟨directoryAt_shelf, _, deep, listed, listed',
    fun mem => (kept _ mem_listed_shelf).mp mem isLink_shelf, among⟩

/-- **Descending into directories can lose a post.** -/
theorem listPosts_loses_link : ∃ flat deep, outcome (listPosts ⟨"shelf"⟩ false) shelf = .ok flat ∧
    outcome (listPosts ⟨"shelf"⟩ true) shelf = .ok deep ∧ ¬ flat.Sublist deep := by
  refine ⟨_, _, outcome_listPosts_listed directoryAt_shelf false,
    outcome_listPosts_listed directoryAt_shelf true, fun kept => ?_⟩
  exact (mem_listed_recursive directoryAt_shelf mem_listed_shelf).mp
    (kept.subset mem_listed_shelf) isLink_shelf

end Site

end SinglePage
