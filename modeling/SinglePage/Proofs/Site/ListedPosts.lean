/-
# The posts of a directory are listed

Listing the posts of a directory gives one entry for each post file in it, or below it, and nothing
else.  The files are said by their places in the tree, without regard to how they are found: a place
is reached through directories only, never through a link.  The order of the entries is the only one
that is newest first and by path, so a machine whose directories give their entries in another order
lists the same.

* `Site.IsPost`: what is a post of a directory;
* `DirectoryOrder.host`: a machine whose directories give their entries in some order;
* `Site.listPosts_exact`: what is listed, and in which order.
-/
import Mathlib.Data.List.Perm.Basic
import SinglePage.Proofs.FileSystem.FilesBelow
import SinglePage.Proofs.Path.PostNames
import SinglePage.Proofs.Site.PostOrder
import SinglePage.Proofs.Site.Reading

namespace SinglePage

/-! ## 1. Directories in other orders -/

/-- **The orders in which directories give what is in them**, and a search what it finds. -/
structure DirectoryOrder where
  names : FileTree → Path → List FileName → List FileName
  names_perm : ∀ tree path l, (names tree path l).Perm l
  files : FileTree → Path → List (List FileName) → List (List FileName)
  files_perm : ∀ tree path l, (files tree path l).Perm l

/-- A machine that is like a world but for the orders in which it gives what is in directories. -/
@[reducible] def DirectoryOrder.host (order : DirectoryOrder) : Host (StateM World) where
  __ := (inferInstance : Host (StateM World))
  list path := World.look fun tree => order.names tree path <$> tree.list path
  listBelow enter path := World.look fun tree => order.files tree path (tree.listBelow enter path)

namespace Site

open World

/-! ## 2. Post files -/

/-- **A file in a directory**: an entry of the directory that leads to a file once links are
followed. -/
def FileIn (tree : FileTree) (directory : Path) (location : Location) (names : List FileName) :
    Prop :=
  ∃ name, names = [name] ∧ (tree.node? (location ++ [name])).isSome = true ∧
    tree.kind? (directory.join name.text) = some .file

/-- **A file below a directory**, and not a link: no directory on the way to it is hidden, and the
path of the one that it lies in is not too long to be opened. -/
def FileBelow (tree : FileTree) (directory : Path) (location : Location) (names : List FileName) :
    Prop :=
  names ≠ [] ∧ (∃ bytes, tree.node? (location ++ names) = some (.file bytes)) ∧
    (∀ outer ∈ names.dropLast, outer.isHidden = false) ∧
      (directory.descend names.dropLast).fault? = none

/-- **A post of a directory**: a file in it, or below it, whose name is a stem with the extension of
posts behind it. -/
def IsPost (tree : FileTree) (directory : Path) (location : Location) (recursive : Bool)
    (names : List FileName) (stem : String) : Prop :=
  (if recursive then FileBelow tree directory location names
    else FileIn tree directory location names) ∧
      stem ≠ "" ∧ ∃ name ∈ names.getLast?, name.text = stem ++ ".txt"

/-- The entry of a post: the path that leads down to it, and the time that its stem tells. -/
def entryOf (directory : Path) (post : List FileName × String) : PostEntry :=
  ⟨directory.join (Path.relativeText post.1), datetimeOfStem post.2⟩

/-- The posts among some files, with their stems. -/
def postsOf (files : List (List FileName)) : List (List FileName × String) :=
  files.filterMap fun names => (names.getLast?.bind postStem?).map (names, ·)

theorem mem_postsOf {files : List (List FileName)} {names : List FileName} {stem : String} :
    (names, stem) ∈ postsOf files ↔
      names ∈ files ∧ stem ≠ "" ∧ ∃ name ∈ names.getLast?, name.text = stem ++ ".txt" := by
  simp only [postsOf, List.mem_filterMap, Option.map_eq_some_iff, Option.bind_eq_some_iff,
    postStem?_eq_some_iff, Prod.mk.injEq]
  constructor
  · rintro ⟨_, mem, _, ⟨name, last, some_stem, text⟩, rfl, rfl⟩
    exact ⟨mem, some_stem, name, last, text⟩
  · rintro ⟨mem, some_stem, name, last, text⟩
    exact ⟨names, mem, stem, ⟨name, last, some_stem, text⟩, rfl, rfl⟩

/-- The posts of one directory have different paths. -/
theorem apart_entries (directory : Path) {files : List (List FileName)} (nodup : files.Nodup)
    (nonempty : [] ∉ files) : Apart ((postsOf files).map (entryOf directory)) := by
  have distinct : (postsOf files).Pairwise fun a b => a.1 ≠ b.1 := by
    refine List.Pairwise.filterMap _ ?_ nodup
    intro names names' ne post made post' made'
    obtain ⟨stem, -, rfl⟩ := Option.map_eq_some_iff.mp made
    obtain ⟨stem', -, rfl⟩ := Option.map_eq_some_iff.mp made'
    exact ne
  have inFiles : ∀ post ∈ postsOf files, post.1 ≠ [] := fun post mem none =>
    nonempty (none ▸ (mem_postsOf.mp mem).1)
  refine List.pairwise_map.mpr (distinct.imp_of_mem fun {a b} mem mem' ne same => ne ?_)
  simp only [entryOf, ← Path.descend_eq_join directory (inFiles a mem),
    ← Path.descend_eq_join directory (inFiles b mem')] at same
  exact Path.descend_inj same

/-- The entries that are made for some files are those of the posts among them. -/
theorem filterMap_ofPath? (directory : Path) {files : List (List FileName)}
    (nonempty : [] ∉ files) :
    (files.filterMap fun names => PostEntry.ofPath? (directory.descend names)) =
      (postsOf files).map (entryOf directory) := by
  rw [postsOf, List.map_filterMap]
  refine List.filterMap_congr fun names mem => ?_
  have some_name : names ≠ [] := fun none => nonempty (none ▸ mem)
  rcases List.eq_nil_or_concat names with none | ⟨front, name, rfl⟩
  · exact absurd none some_name
  · rw [List.concat_eq_append, ofPath?_descend, List.getLast?_concat, Option.bind_some,
      Option.map_map]
    cases postStem? name with
    | none => rfl
    | some stem =>
      simp only [Option.map_some, Function.comp_apply, entryOf]
      rw [Path.descend_eq_join directory (by simp)]

/-! ## 3. What is found -/

/-- A program finds the posts among some files. -/
def Finds (find : ExceptT SiteError (StateM World) (List PostEntry)) (world : World)
    (directory : Path) (files : List (List FileName)) : Prop :=
  Looks find.run ∧ outcome find world = .ok ((postsOf files).map (entryOf directory))

/-- The files among the names in a directory. -/
def filesAmong (tree : FileTree) (directory : Path) (names : List FileName) :
    List (List FileName) :=
  (names.filter fun name => tree.kind? (directory.join name.text) = some .file).map ([·])

/-- Making the entry for a path and then looking at its path is looking at the path first. -/
theorem filter_ofPath? (keep : Path → Bool) (path : Path) :
    (PostEntry.ofPath? path).filter (fun entry => keep entry.path) =
      if keep path then PostEntry.ofPath? path else none := by
  unfold PostEntry.ofPath?
  split
  · cases path.datetime? with
    | none => simp
    | some datetime => simp [Option.filter]
  · simp

theorem outcome_postsAmong_eq (directory : Path) (names : List FileName) (world : World) :
    outcome (postsAmong directory names) world =
      .ok ((postsOf (filesAmong world.tree directory names)).map (entryOf directory)) := by
  have nonempty : [] ∉ filesAmong world.tree directory names := by simp [filesAmong]
  rw [outcome_postsAmong, ← filterMap_ofPath? directory nonempty, filesAmong, List.filterMap_map,
    List.filterMap_filter, List.filter_filterMap]
  exact congrArg (fun f => Except.ok (names.filterMap f)) (funext fun name =>
    filter_ofPath? (fun path => world.tree.kind? path = some .file) (directory.join name.text))

/-- The files that are found in a directory, or below it. -/
def filesOf (tree : FileTree) (directory : Path) (location : Location) (recursive : Bool) :
    List (List FileName) :=
  if recursive then tree.listBelow (fun name => !name.isHidden) directory
  else filesAmong tree directory (tree.children location)

section Found

variable {world : World} {directory : Path} {location : Location}

theorem mem_filesAmong {names : List FileName} {file : List FileName} :
    file ∈ filesAmong world.tree directory names ↔
      ∃ name ∈ names, file = [name] ∧ world.tree.kind? (directory.join name.text) = some .file := by
  simp only [filesAmong, List.mem_map, List.mem_filter, decide_eq_true_eq]
  constructor
  · rintro ⟨name, ⟨mem, isFile⟩, rfl⟩
    exact ⟨name, mem, rfl, isFile⟩
  · rintro ⟨name, mem, rfl, isFile⟩
    exact ⟨name, ⟨mem, isFile⟩, rfl⟩

/-- **The files that are found** are those in the directory, or below it. -/
theorem mem_filesOf (there : world.tree.directoryAt directory = .ok location) (recursive : Bool)
    {names : List FileName} :
    names ∈ filesOf world.tree directory location recursive ↔
      if recursive then FileBelow world.tree directory location names
      else FileIn world.tree directory location names := by
  have isDirectory := FileTree.node?_of_directoryAt there
  cases recursive with
  | true =>
    simp only [filesOf, if_true, FileTree.listBelow, there, List.mem_filter,
      FileTree.mem_filesBelow isDirectory, Option.isNone_iff_eq_none, Bool.not_eq_true', FileBelow,
      and_assoc]
  | false =>
    simp only [filesOf, Bool.false_eq_true, if_false, mem_filesAmong,
      FileTree.mem_children isDirectory, FileIn]
    constructor
    · rintro ⟨name, inside, rfl, isFile⟩
      exact ⟨name, rfl, inside, isFile⟩
    · rintro ⟨name, rfl, inside, isFile⟩
      exact ⟨name, inside, rfl, isFile⟩

theorem nodup_filesOf (there : world.tree.directoryAt directory = .ok location)
    (recursive : Bool) : (filesOf world.tree directory location recursive).Nodup := by
  have isDirectory := FileTree.node?_of_directoryAt there
  cases recursive with
  | true =>
    simp only [filesOf, if_true, FileTree.listBelow, there]
    exact (FileTree.nodup_filesBelow isDirectory _).filter _
  | false =>
    refine List.Nodup.map List.singleton_injective ?_
    exact (FileTree.nodup_children isDirectory).filter _

theorem nil_not_mem_filesOf (there : world.tree.directoryAt directory = .ok location)
    (recursive : Bool) : [] ∉ filesOf world.tree directory location recursive := by
  rw [mem_filesOf there]
  cases recursive with
  | true => exact fun below => below.1 rfl
  | false =>
    rintro ⟨name, eq, -⟩
    exact absurd eq (by simp)

/-! ## 4. What is listed -/

/-- The program that finds posts where directories give their entries in some order. -/
def findInOrder (order : DirectoryOrder) (directory : Path) (recursive : Bool) :
    ExceptT SiteError (StateM World) (List PostEntry) :=
  if recursive then @findBelow _ _ order.host directory else @findIn _ _ order.host directory

theorem listPosts_inOrder (order : DirectoryOrder) (directory : Path) (recursive : Bool) :
    @listPosts _ _ order.host directory recursive =
      liftM (Host.kind? (m := StateM World) directory) >>=
        listedBy directory (findInOrder order directory recursive) := by
  refine congrArg _ (funext fun kind => ?_)
  unfold listedBy
  dsimp only
  split
  · rfl
  · cases recursive <;> rfl

/-- The names that are read from a directory, and the posts among them. -/
theorem finds_in {listing : StateM World (Except FileError (List FileName))} (looks : Looks listing)
    {names : List FileName} (gives : (listing world).1 = .ok names) :
    Finds (orFail listing >>= postsAmong directory) world directory
      (filesAmong world.tree directory names) := by
  refine ⟨(looks_orFail looks).sequence (looks_postsAmong directory), ?_⟩
  rw [outcome_bind (looks_orFail looks) (looks_postsAmong directory), outcome_orFail, gives]
  exact outcome_postsAmong_eq directory names world

/-- The files that a search finds, and the posts among them. -/
theorem finds_below {search : StateM World (List (List FileName))} (looks : Looks search)
    (nonempty : [] ∉ (search world).1) :
    Finds (liftM search >>= fun files =>
        return files.filterMap fun names => PostEntry.ofPath? (directory.descend names))
      world directory (search world).1 := by
  refine ⟨looks.lift.sequence fun _ => Looks.done _, ?_⟩
  rw [outcome_bind looks.lift fun _ => Looks.done _, outcome_lift,
    ← filterMap_ofPath? directory nonempty]
  rfl

theorem finds_filesOf (there : world.tree.directoryAt directory = .ok location)
    (recursive : Bool) : Finds (findPosts directory recursive) world directory
      (filesOf world.tree directory location recursive) := by
  cases recursive with
  | true => exact finds_below (Looks.look _) (nil_not_mem_filesOf there true)
  | false =>
    refine finds_in (Looks.look fun tree => tree.list directory) ?_
    exact congrArg (world.tree.children <$> ·) there

/-- **In another order, the same posts are found.** -/
theorem finds_inOrder (there : world.tree.directoryAt directory = .ok location)
    (order : DirectoryOrder) (recursive : Bool) :
    ∃ files, files.Perm (filesOf world.tree directory location recursive) ∧
      Finds (findInOrder order directory recursive) world directory files := by
  cases recursive with
  | true =>
    have perm := order.files_perm world.tree directory
      (filesOf world.tree directory location true)
    have nonempty := fun mem => nil_not_mem_filesOf there true (perm.mem_iff.mp mem)
    exact ⟨_, perm, finds_below (Looks.look _) nonempty⟩
  | false =>
    have perm := order.names_perm world.tree directory (world.tree.children location)
    refine ⟨_, (perm.filter _).map _, finds_in (Looks.look fun tree =>
      order.names tree directory <$> tree.list directory) ?_⟩
    exact congrArg (fun found => order.names world.tree directory <$>
      (world.tree.children <$> found)) there

theorem outcome_of_finds {find : ExceptT SiteError (StateM World) (List PostEntry)}
    {files : List (List FileName)} (there : world.tree.directoryAt directory = .ok location)
    (finds : Finds find world directory files) :
    outcome (liftM (Host.kind? (m := StateM World) directory) >>= listedBy directory find) world =
      .ok (sortEntries ((postsOf files).map (entryOf directory))) := by
  have isDirectory := FileTree.kind?_eq_directory_iff.mpr ⟨location, there⟩
  rw [outcome_listedBy directory finds.1, if_pos isDirectory, finds.2]
  rfl

/-- **The posts of a directory are listed**, each once and nothing else, in the only order that is
newest first and by path, whatever the order in which directories give their entries. -/
theorem listPosts_exact (there : world.tree.directoryAt directory = .ok location)
    (recursive : Bool) :
    ∃ (posts : List (List FileName × String)) (entries : List PostEntry),
      posts.Nodup ∧
        (∀ names stem, (names, stem) ∈ posts ↔
          IsPost world.tree directory location recursive names stem) ∧
        entries = posts.map (entryOf directory) ∧
        entries.Pairwise PostEntry.Precedes ∧
        (∀ others, others.Perm entries → others.IsChain PostEntry.Precedes → others = entries) ∧
        outcome (listPosts directory recursive) world = .ok entries ∧
        ∀ order : DirectoryOrder,
          outcome (@listPosts _ _ order.host directory recursive) world = .ok entries := by
  let files := filesOf world.tree directory location recursive
  let entries := sortEntries ((postsOf files).map (entryOf directory))
  have nodup : files.Nodup := nodup_filesOf there recursive
  have nonempty : [] ∉ files := nil_not_mem_filesOf there recursive
  have apart : Apart ((postsOf files).map (entryOf directory)) :=
    apart_entries directory nodup nonempty
  have sorted : entries.Pairwise PostEntry.Precedes := pairwise_sortEntries apart
  -- The sorted entries are those of the same posts in another order.
  have perm : entries.Perm ((postsOf files).map (entryOf directory)) := List.mergeSort_perm _ _
  obtain ⟨posts, same, perm⟩ : ∃ posts : List _, entries = posts.map (entryOf directory) ∧
      posts.Perm (postsOf files) :=
    (congrFun₂ (List.eq_map_comp_perm (entryOf directory)) entries (postsOf files)).mpr perm
  refine ⟨posts, entries, ?_, ?_, same, sorted, ?_, ?_, ?_⟩
  · exact perm.nodup_iff.mpr (List.Nodup.of_map _ (apart.imp fun ne eq => ne (by rw [eq])))
  · intro names stem
    rw [perm.mem_iff, mem_postsOf, mem_filesOf there, IsPost]
  · intro others perm' chain
    have sorted' : others.Pairwise PostEntry.Precedes := by
      let _ : Trans PostEntry.Precedes PostEntry.Precedes PostEntry.Precedes :=
        ⟨PostEntry.Precedes.trans⟩
      exact List.isChain_iff_pairwise.mp chain
    exact eq_of_precedes perm' sorted' sorted
  · rw [listPosts_eq]
    exact outcome_of_finds there (finds_filesOf there recursive)
  · intro order
    obtain ⟨files', perm', finds⟩ := finds_inOrder there order recursive
    have reordered : ((postsOf files).map (entryOf directory)).Perm
        ((postsOf files').map (entryOf directory)) := (perm'.symm.filterMap _).map _
    rw [listPosts_inOrder, outcome_of_finds there finds]
    exact congrArg Except.ok (sortEntries_eq_of_perm reordered apart).symm

end Found

/-- A directory with a link to a post that lies in a directory of its own. -/
def shelf : World :=
  ⟨(((FileTree.empty.put [⟨"shelf", by decide⟩] .directory).put
    [⟨"shelf", by decide⟩, ⟨"old", by decide⟩] .directory).put
    [⟨"shelf", by decide⟩, ⟨"old", by decide⟩, ⟨"2020_a.txt", by decide⟩] (.file "a".toUTF8)).put
    [⟨"shelf", by decide⟩, ⟨"2022.txt", by decide⟩] (.link ⟨"old/2020_a.txt"⟩), []⟩

/-- The link is a post when the directory alone is looked at, and the file that it leads to is one
when all that is below is. -/
theorem listPosts_exact_shelf :
    shelf.tree.directoryAt ⟨"shelf"⟩ = .ok [⟨"shelf", by decide⟩] ∧
      (∃ entries, outcome (listPosts ⟨"shelf"⟩ false) shelf = .ok entries ∧
        ⟨⟨"shelf/2022.txt"⟩, "2022"⟩ ∈ entries) ∧
      ∃ entries, outcome (listPosts ⟨"shelf"⟩ true) shelf = .ok entries ∧
        ⟨⟨"shelf/old/2020_a.txt"⟩, "2020 a"⟩ ∈ entries ∧
          ⟨⟨"shelf/2022.txt"⟩, "2022"⟩ ∉ entries := by
  have there : shelf.tree.directoryAt ⟨"shelf"⟩ = .ok [⟨"shelf", by decide⟩] := by rfl
  refine ⟨there, ?_, ?_⟩
  · obtain ⟨posts, entries, -, isPost, rfl, -, -, listed, -⟩ := listPosts_exact there false
    refine ⟨_, listed,
      List.mem_map.mpr ⟨([⟨"2022.txt", by decide⟩], "2022"), ?_, by decide +kernel⟩⟩
    exact (isPost _ _).mpr ⟨⟨⟨"2022.txt", by decide⟩, rfl, by decide +kernel, by decide +kernel⟩,
      by decide, ⟨"2022.txt", by decide⟩, rfl, rfl⟩
  · obtain ⟨posts, entries, -, isPost, rfl, -, -, listed, -⟩ := listPosts_exact there true
    refine ⟨_, listed, List.mem_map.mpr
      ⟨([⟨"old", by decide⟩, ⟨"2020_a.txt", by decide⟩], "2020_a"), ?_, by decide +kernel⟩, ?_⟩
    · exact (isPost _ _).mpr ⟨⟨by decide, ⟨_, rfl⟩, by decide, by decide +kernel⟩,
        by decide, ⟨"2020_a.txt", by decide⟩, rfl, rfl⟩
    · intro mem
      obtain ⟨⟨names, stem⟩, mem, made⟩ := List.mem_map.mp mem
      obtain ⟨⟨nonempty, ⟨bytes, found⟩, -⟩, -⟩ := (isPost _ _).mp mem
      have same : Path.descend ⟨"shelf"⟩ names = Path.descend ⟨"shelf"⟩ [⟨"2022.txt", by decide⟩] :=
        (Path.descend_eq_join _ nonempty).trans (congrArg PostEntry.path made)
      rw [Path.descend_inj (congrArg Path.components same)] at found
      have link : shelf.tree.node? ([⟨"shelf", by decide⟩] ++ [⟨"2022.txt", by decide⟩]) =
          some (.link ⟨"old/2020_a.txt"⟩) := by rfl
      exact absurd (Option.some.inj (found.symm.trans link)) (by simp)

end Site

end SinglePage
