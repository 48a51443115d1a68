/-
# The files below a directory

A search for files goes down from a directory, into the directories that it may enter.  It finds
every file that can be reached in this way, each once, and nothing else: what stands behind a link
is not found, because the search goes by the items of the tree.

* `mem_filesOfEntries`, `nodup_filesOfEntries`: what a search through the items of a directory
  finds;
* `mem_filesBelow`, `nodup_filesBelow`: the same for a directory of a tree;
* `mem_children`, `nodup_children`: the names in a directory.
-/
import Mathlib.Data.List.Nodup
import SinglePage.FileSystem.Access

namespace SinglePage

namespace Item

/-! ## 1. Searching the items of a directory -/

/-- A file is reached by some names: it stands there, and all directories on the way are entered. -/
def Reaches (enter : FileName → Bool) (item : Item) (names : List FileName) : Prop :=
  (∃ bytes, item.node? names = some (.file bytes)) ∧ ∀ name ∈ names.dropLast, enter name = true

/-- What can be reached in a directory is an item of it, or in an item that is entered. -/
theorem reaches_cons {enter : FileName → Bool} {entries : List (FileName × Item)}
    {name : FileName} {names : List FileName} :
    Reaches enter (.directory entries) (name :: names) ↔
      ∃ item, SortedMap.lookup name entries = some item ∧ item.Reaches enter names ∧
        (names ≠ [] → enter name = true) := by
  unfold Reaches
  rw [node?_directory_cons]
  cases SortedMap.lookup name entries with
  | none => simp
  | some item =>
    cases names with
    | nil => simp
    | cons next names =>
      simp only [Option.bind_some, List.dropLast_cons_cons, List.forall_mem_cons]
      constructor
      · rintro ⟨there, entered, rest⟩
        exact ⟨item, rfl, ⟨there, rest⟩, fun _ => entered⟩
      · rintro ⟨found, eq, ⟨there, rest⟩, entered⟩
        obtain rfl := Option.some.inj eq
        exact ⟨there, entered (by simp), rest⟩

/-- In an item without entries there is nothing but itself. -/
theorem reaches_of_no_entries {enter : FileName → Bool} {item : Item} (none : item.entries = [])
    {names : List FileName} :
    item.Reaches enter names ↔ names = [] ∧ ∃ bytes, item.node = .file bytes := by
  cases names with
  | nil => simp [Reaches]
  | cons name names => simp [Reaches, node?_of_no_entries none]

/-- What a search takes from one item of a directory. -/
theorem mem_inside (enter : FileName → Bool) (name : FileName) {item : Item}
    (inItem : ∀ names, names ∈ item.files enter ↔ item.Reaches enter names)
    (names : List FileName) :
    names ∈ (if item.node matches .directory && !enter name then [] else item.files enter) ↔
      item.Reaches enter names ∧ (names ≠ [] → enter name = true) := by
  cases item with
  | directory entries =>
    cases entered : enter name with
    | true => simp [node, inItem]
    | false =>
      simp only [node, Bool.not_false, Bool.and_true, if_true, List.not_mem_nil, false_iff]
      rintro ⟨reaches, onlyHere⟩
      obtain rfl : names = [] := by simpa using onlyHere
      exact absurd reaches.1 (by simp [node])
  | _ =>
    simp only [node, Bool.false_and, Bool.false_eq_true, if_false, inItem]
    rw [reaches_of_no_entries rfl]
    constructor
    · rintro ⟨rfl, file⟩
      exact ⟨⟨rfl, file⟩, by simp⟩
    · exact And.left

mutual

theorem mem_files {enter : FileName → Bool} : ∀ {item : Item}, item.Sorted →
    ∀ {names : List FileName}, names ∈ item.files enter ↔ item.Reaches enter names
  | .file bytes, _, names => by
    rw [files, reaches_of_no_entries rfl]
    simp [node]
  | .link target, _, names => by
    rw [files, reaches_of_no_entries rfl]
    simp [node]
  | .directory entries, sorted, names => by
    rw [files, mem_filesOfEntries (by simpa [Item.Sorted] using sorted)]
    constructor
    · exact And.right
    · intro reaches
      refine ⟨?_, reaches⟩
      rintro rfl
      exact absurd reaches.1 (by simp [node])

/-- **A search through the items of a directory** finds the files that can be reached in it. -/
theorem mem_filesOfEntries {enter : FileName → Bool} : ∀ {entries : List (FileName × Item)},
    EntriesSorted entries → ∀ {names : List FileName}, names ∈ filesOfEntries enter entries ↔
      names ≠ [] ∧ Reaches enter (.directory entries) names
  | [], _, names => by
    cases names with
    | nil => simp [filesOfEntries]
    | cons name names => simp [filesOfEntries, reaches_cons, SortedMap.lookup]
  | (name, item) :: entries, sorted, names => by
    rw [EntriesSorted] at sorted
    obtain ⟨above, inItem, behind⟩ := sorted
    have rest : ∀ names, names ∈ filesOfEntries enter entries ↔
        names ≠ [] ∧ Reaches enter (.directory entries) names := fun _ => mem_filesOfEntries behind
    have gone : SortedMap.lookup name entries = none := SortedMap.lookup_eq_none_of_lt above
    cases names with
    | nil => simp [filesOfEntries, rest]
    | cons first names =>
      rw [filesOfEntries, List.mem_append, rest, reaches_cons, reaches_cons]
      simp only [SortedMap.lookup]
      by_cases same : first = name
      · subst same
        have here := mem_inside enter first (fun _ => mem_files inItem) names
        rw [gone, if_pos rfl, List.mem_map]
        constructor
        · rintro (⟨names', mem, eq⟩ | ⟨-, item', eq, -⟩)
          · obtain ⟨-, rfl⟩ := List.cons.inj eq
            exact ⟨by simp, item, rfl, here.mp mem⟩
          · exact absurd eq (by simp)
        · rintro ⟨-, item', eq, reaches⟩
          obtain rfl := Option.some.inj eq
          exact .inl ⟨names, here.mpr reaches, rfl⟩
      · rw [if_neg same, List.mem_map]
        constructor
        · rintro (⟨names', -, eq⟩ | reaches)
          · exact absurd (List.cons.inj eq).1.symm same
          · exact reaches
        · exact .inr

end

/-! ## 2. Each file once -/

mutual

theorem nodup_files (enter : FileName → Bool) : ∀ {item : Item}, item.Sorted →
    (item.files enter).Nodup
  | .file _, _ => by simp [files]
  | .link _, _ => by simp [files]
  | .directory entries, sorted => by
    rw [files]
    exact nodup_filesOfEntries enter (by simpa [Item.Sorted] using sorted)

/-- **A search through the items of a directory finds each file once.** -/
theorem nodup_filesOfEntries (enter : FileName → Bool) :
    ∀ {entries : List (FileName × Item)}, EntriesSorted entries →
      (filesOfEntries enter entries).Nodup
  | [], _ => by simp [filesOfEntries]
  | (name, item) :: entries, sorted => by
    rw [EntriesSorted] at sorted
    obtain ⟨above, inItem, behind⟩ := sorted
    rw [filesOfEntries, List.nodup_append']
    refine ⟨?_, nodup_filesOfEntries enter behind, ?_⟩
    · have taken : ∀ skipped : Bool, (if skipped then [] else item.files enter).Nodup := by
        intro skipped
        cases skipped with
        | true => exact List.nodup_nil
        | false => exact nodup_files enter inItem
      exact List.Nodup.map List.cons_injective (taken _)
    · intro names mem mem'
      obtain ⟨names', -, rfl⟩ := List.mem_map.mp mem
      obtain ⟨-, reaches⟩ := (mem_filesOfEntries behind).mp mem'
      obtain ⟨item', found, -⟩ := reaches_cons.mp reaches
      rw [SortedMap.lookup_eq_none_of_lt above] at found
      exact absurd found (by simp)

end

theorem Sorted.find? : ∀ {location : Location} {item inside : Item}, item.Sorted →
    item.find? location = some inside → inside.Sorted
  | [], _, _, sorted, found => Option.some.inj found ▸ sorted
  | name :: location, item, inside, sorted, found => by
    obtain ⟨next, here, behind⟩ := Option.bind_eq_some_iff.mp found
    cases item with
    | directory entries =>
      rw [Item.Sorted] at sorted
      exact Sorted.find? (sorted.of_lookup here) behind
    | _ => exact absurd here (by simp [Item.entries, SortedMap.lookup])

end Item

/-! ## 3. Directories of a tree -/

namespace FileTree

/-- A directory stands where a path leads to a directory. -/
theorem node?_of_directoryAt {tree : FileTree} {path : Path} {location : Location}
    (there : tree.directoryAt path = .ok location) : tree.node? location = some .directory := by
  have steps : tree.directoryAt path = tree.place .target path >>= tree.asDirectory := rfl
  rw [steps] at there
  cases found : tree.place .target path with
  | error cause =>
    rw [found] at there
    exact absurd there (by simp [bind, Except.bind])
  | ok place =>
    rw [found] at there
    exact isDirectory_iff.mp (isDirectory_of_asDirectory there)

/-- The item of a directory is the directory with its entries. -/
theorem find?_directory {tree : FileTree} {location : Location}
    (there : tree.node? location = some .directory) :
    tree.root.find? location = some (.directory (tree.entriesAt location)) ∧
      EntriesSorted (tree.entriesAt location) := by
  obtain ⟨item, found, isDirectory⟩ := Option.map_eq_some_iff.mp there
  have whole := Item.eq_directory_of_node isDirectory
  have entries : tree.entriesAt location = item.entries := by rw [entriesAt, found]
  have sorted := tree.root_sorted.find? found
  rw [whole, Item.Sorted] at sorted
  rw [entries, ← whole]
  exact ⟨found, sorted⟩

/-- What stands below a directory is what stands in its entries. -/
theorem node?_inside {tree : FileTree} {location : Location}
    (there : tree.node? location = some .directory) (names : List FileName) :
    tree.node? (location ++ names) =
      (Item.directory (tree.entriesAt location)).node? names := by
  rw [FileTree.node?, Item.node?, Item.find?_append, (find?_directory there).1]
  rfl

/-- **The files below a directory** that are found are those that stand there, with no directory
on the way that is not entered. -/
theorem mem_filesBelow {tree : FileTree} {enter : FileName → Bool} {location : Location}
    (there : tree.node? location = some .directory) {names : List FileName} :
    names ∈ tree.filesBelow enter location ↔ names ≠ [] ∧
      (∃ bytes, tree.node? (location ++ names) = some (.file bytes)) ∧
        ∀ name ∈ names.dropLast, enter name = true := by
  rw [filesBelow, Item.mem_filesOfEntries (find?_directory there).2, Item.Reaches,
    node?_inside there]

theorem nodup_filesBelow {tree : FileTree} {location : Location}
    (there : tree.node? location = some .directory) (enter : FileName → Bool) :
    (tree.filesBelow enter location).Nodup :=
  Item.nodup_filesOfEntries enter (find?_directory there).2

theorem mem_children {tree : FileTree} {location : Location}
    (there : tree.node? location = some .directory) {name : FileName} :
    name ∈ tree.children location ↔ (tree.node? (location ++ [name])).isSome = true := by
  have sorted := (find?_directory there).2
  rw [node?_inside there, Item.node?_directory_cons]
  constructor
  · intro mem
    obtain ⟨⟨_, item⟩, inside, rfl⟩ := List.mem_map.mp mem
    rw [(Item.lookup_eq_some_iff sorted).mpr inside]
    rfl
  · intro some_
    cases found : SortedMap.lookup name (tree.entriesAt location) with
    | none =>
      rw [found] at some_
      exact absurd some_ (by simp)
    | some item => exact List.mem_map.mpr ⟨(name, item), SortedMap.mem_of_lookup found, rfl⟩

/-- **A directory has each of its names once.** -/
theorem nodup_children {tree : FileTree} {location : Location}
    (there : tree.node? location = some .directory) : (tree.children location).Nodup := by
  have sorted := (entriesSorted_iff.mp (find?_directory there).2).1
  refine List.pairwise_map.mpr (sorted.imp fun {a b} lt eq => ?_)
  rw [eq] at lt
  exact KeyOrder.irrefl _ lt

end FileTree

end SinglePage
