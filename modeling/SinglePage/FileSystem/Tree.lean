/-
# Trees of files

A file tree is a directory: the root, which is always there.  The entries of each directory stand
in order, so a tree does not remember in which order its files were made.

* `node?_put`, `node?_remove`: what the two ways of changing a tree do to every location;
* `node?_dropLast`: whatever stands in a tree stands in a directory;
* `FileTree.ext_node?`: a tree is what stands at its locations.
-/
import SinglePage.FileSystem.Item

namespace SinglePage

/-- **A tree of files**: the entries of its root. -/
structure FileTree where
  entries : List (FileName × Item)
  sorted : EntriesSorted entries

namespace FileTree

/-! ## 1. Looking -/

/-- The tree in which there is nothing but the root. -/
def empty : FileTree := ⟨[], by simp [EntriesSorted]⟩

instance : Inhabited FileTree := ⟨empty⟩

/-- The root with all that is in it. -/
def root (tree : FileTree) : Item := .directory tree.entries

/-- What stands at a location. -/
def node? (tree : FileTree) (location : Location) : Option Node := tree.root.node? location

/-- Whether a directory stands at a location. -/
def isDirectory (tree : FileTree) (location : Location) : Bool :=
  match tree.node? location with
  | some .directory => true
  | _ => false

theorem isDirectory_iff {tree : FileTree} {location : Location} :
    tree.isDirectory location = true ↔ tree.node? location = some .directory := by
  unfold isDirectory
  split
  · rename_i found
    simp [found]
  · rename_i other
    simpa using other

theorem node?_root (tree : FileTree) : tree.node? [] = some .directory := rfl

/-- **Whatever stands in a tree stands in a directory.** -/
theorem node?_dropLast {tree : FileTree} {location : Location}
    (h : (tree.node? location).isSome = true) :
    tree.node? location.dropLast = some .directory := by
  by_cases below : location = []
  · subst below
    rfl
  · exact Item.node?_dropLast below h

/-- Where nothing stands, nothing stands below. -/
theorem node?_below {tree : FileTree} {location : Location}
    (vacant : tree.node? location = none) (below : Location) :
    tree.node? (location ++ below) = none := by
  unfold FileTree.node? Item.node? at vacant ⊢
  rw [Item.find?_append, Option.map_eq_none_iff.mp vacant]
  rfl

/-- The entries of the directory at a location. -/
def entriesAt (tree : FileTree) (directory : Location) : List (FileName × Item) :=
  match tree.root.find? directory with
  | some item => item.entries
  | none => []

/-- The names in a directory. -/
def children (tree : FileTree) (directory : Location) : List FileName :=
  (tree.entriesAt directory).map Prod.fst

/-- The files below a directory, each by the names on the way down to it.  Directories whose
names fail the test are left out with all that is in them. -/
def filesBelow (tree : FileTree) (enter : FileName → Bool) (directory : Location) :
    List (List FileName) :=
  Item.filesOfEntries enter (tree.entriesAt directory)

/-- **All that stands in a tree**, with its location. -/
def nodes (tree : FileTree) : List (Location × Node) := tree.root.nodes

/-! ## 2. Changing -/

/-- The tree whose root has the entries of an item. -/
def ofItem (item : Item) (sorted : item.Sorted) : FileTree :=
  ⟨item.entries, by
    cases item with
    | directory entries => simpa [Item.Sorted, Item.entries] using sorted
    | _ => simp [Item.entries, EntriesSorted]⟩

theorem root_ofItem {item : Item} {sorted : item.Sorted} (h : item.node = .directory) :
    (ofItem item sorted).root = item :=
  (Item.eq_directory_of_node h).symm

theorem root_sorted (tree : FileTree) : tree.root.Sorted := by
  rw [root, Item.Sorted]
  exact tree.sorted

/-- **Puts a node at a location**, in place of the file or link that stood there.  Where there is
no directory for it, or a directory in its place, the tree stays as it is. -/
def put (tree : FileTree) (location : Location) (node : Node) : FileTree :=
  ofItem (tree.root.put node location) (tree.root_sorted.put node)

/-- **Removes what stands at a location**, and all that is in it. -/
def remove (tree : FileTree) (location : Location) : FileTree :=
  ofItem (tree.root.remove location) tree.root_sorted.remove

/-- Whether a node can be put at a location: it is not the root, it lies in a directory, and
no directory stands there. -/
def canPut (tree : FileTree) (location : Location) : Bool :=
  location ≠ [] && tree.isDirectory location.dropLast && !tree.isDirectory location

theorem canPut_iff {tree : FileTree} {location : Location} :
    tree.canPut location = true ↔ location ≠ [] ∧
      tree.node? location.dropLast = some .directory ∧
        tree.node? location ≠ some .directory := by
  simp only [canPut, Bool.and_eq_true, decide_eq_true_eq, Bool.not_eq_true', ← isDirectory_iff,
    ne_eq, Bool.not_eq_true, and_assoc]

/-! ## 3. What stands where after a change -/

theorem node_put_root (tree : FileTree) (location : Location) (node : Node) :
    (tree.root.put node location).node = .directory := by
  unfold root
  cases location with
  | nil => rfl
  | cons name location =>
    simp only [Item.put]
    split
    · rfl
    · split <;> rfl

theorem root_put (tree : FileTree) (location : Location) (node : Node) :
    (tree.put location node).root = tree.root.put node location :=
  root_ofItem (tree.node_put_root location node)

/-- Putting a node somewhere changes nothing elsewhere. -/
theorem node?_put_of_ne {tree : FileTree} {location l : Location} {node : Node}
    (h : l ≠ location) : (tree.put location node).node? l = tree.node? l := by
  unfold FileTree.node?
  rw [root_put]
  exact Item.node?_put_of_ne h _

/-- **A node stands where it was put**, if it can be put there, and all else is as it was. -/
theorem node?_put {tree : FileTree} {location : Location} (node : Node)
    (h : tree.canPut location = true) (l : Location) :
    (tree.put location node).node? l = if l = location then some node else tree.node? l := by
  split
  · rename_i here
    subst here
    obtain ⟨below, inside, free⟩ := canPut_iff.mp h
    unfold FileTree.node?
    rw [root_put]
    exact Item.node?_put_self below inside free
  · rename_i other
    exact node?_put_of_ne other

/-- **Nothing stands where something was removed**, or below; all else is as it was. -/
theorem node?_remove (tree : FileTree) {location l : Location} (h : l ≠ []) :
    (tree.remove location).node? l =
      if location.isPrefixOf l then none else tree.node? l := by
  unfold FileTree.node? remove
  rw [root_ofItem]
  · exact Item.node?_remove (.inr h) _
  · cases location with
    | nil => rfl
    | cons name location => exact Item.node_remove (by simp) tree.root

/-- **A tree is what stands at its locations.** -/
theorem ext_node? {s t : FileTree} (h : ∀ location, s.node? location = t.node? location) :
    s = t := by
  have roots : s.root = t.root := Item.ext_node? s.root_sorted t.root_sorted h
  cases s
  cases t
  simpa [root] using roots

end FileTree

end SinglePage
