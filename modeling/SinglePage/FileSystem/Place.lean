/-
# Where a path leads

A path is followed from the root, one step for each of its pieces.  A name leads into the entry
of that name; `..` leads out again, but never out of the root; an empty piece and `.` lead
nowhere, but they can only be taken from a directory, so `notes.txt/` leads nowhere at all.
A link in the middle of a path is replaced by the path that it holds; what becomes of a link at
the end depends on the `Aim` of the caller.  No more than forty links are followed.

A path leads to a `Place`: something that exists, or a name that is free in a directory.
Names and paths must not be too long, and have no zero character.

* `Place.Sound`, `place_sound`: a place is what it says;
* `lastEntry`, `lastEntry_directory`: the directory that the last component of a path is looked
  up in.
-/
import SinglePage.FileSystem.Tree
import SinglePage.Error

namespace SinglePage

/-! ## 1. Steps -/

/-- **A step on a path.** -/
inductive Step where
  | here
  | up
  | down (name : FileName)
  deriving DecidableEq

/-- The step for the text between two separators. -/
def Step.ofPiece (piece : List Char) : Step :=
  if piece = ['.', '.'] then .up
  else match FileName.ofText? (String.ofList piece) with
    | some name => .down name
    | none => .here

/-- The steps of a path. -/
def Path.steps (path : Path) : List Step := path.pieces.map Step.ofPiece

/-- The steps of a path without those for empty pieces. -/
def Path.namedSteps (path : Path) : List Step :=
  (path.pieces.filter (· ≠ [])).map Step.ofPiece

/-- The number of bytes that a name can have. -/
def maxNameBytes : Nat := 255

/-- The number of bytes that a path can have. -/
def maxPathBytes : Nat := 4095

/-- Whether no directory can have an entry of this name. -/
def FileName.isTooLong (name : FileName) : Bool := maxNameBytes < name.text.utf8ByteSize

/-- Why a path is not followed at all: it has a zero character, is empty, or is too long. -/
def Path.fault? (path : Path) : Option FileError :=
  if path.text.toList.contains '\x00' then some .zeroInName
  else if path.text = "" then some .notFound
  else if maxPathBytes < path.text.utf8ByteSize then some .nameTooLong
  else none

/-- Why an operation on several paths is not begun: a zero character in any of them is found first,
and then whatever is wrong with the first path that has a fault. -/
def Path.faultIn? (paths : List Path) : Option FileError :=
  let faults := paths.filterMap Path.fault?
  if FileError.zeroInName ∈ faults then some .zeroInName else faults.head?

/-! ## 2. Following a path -/

/-- **Where a path leads**: to something that exists, or to a free name in a directory. -/
inductive Place where
  | occupied (location : Location)
  | vacant (directory : Location) (name : FileName)
  deriving DecidableEq

/-- **A directory on the way**: its entries, and the directories around it, the innermost first,
each with the name that leads on from it. -/
structure Spot where
  entries : List (FileName × Item)
  around : List (FileName × List (FileName × Item))

namespace Spot

/-- The root of a tree. -/
def root (tree : FileTree) : Spot := ⟨tree.entries, []⟩

/-- The location of the directory. -/
def location (spot : Spot) : Location := (spot.around.map Prod.fst).reverse

/-- The directory that the directory lies in; the root lies in itself. -/
def up (spot : Spot) : Spot :=
  match spot.around with
  | [] => spot
  | (_, entries) :: around => ⟨entries, around⟩

/-- The directory with the given name and entries in the directory. -/
def down (spot : Spot) (name : FileName) (entries : List (FileName × Item)) : Spot :=
  ⟨entries, (name, spot.entries) :: spot.around⟩

end Spot

/-- **What a path is followed for.** -/
inductive Aim where
  /-- For the entry that its last name stands for, which can be a link. -/
  | entry
  /-- For what it leads to. -/
  | target
  /-- For a file that is to be written, so there is nothing to look for if a separator stands
  at the end. -/
  | file
  deriving DecidableEq

/-- Takes the steps one by one, starting in a directory.  At a link that has to be followed, the
rest is left to `jump`, which is given the path that the link holds, the directory to start in and
the steps to take behind that path. -/
def walk (aim : Aim) (jump : Path → Spot → List Step → Except FileError Place) :
    Spot → List Step → Except FileError Place
  | spot, [] => .ok (.occupied spot.location)
  | spot, .here :: steps => walk aim jump spot steps
  | spot, .up :: steps => walk aim jump spot.up steps
  | spot, .down name :: steps =>
    if name.isTooLong then .error .nameTooLong
    else
      match SortedMap.lookup name spot.entries with
      | none => if steps = [] then .ok (.vacant spot.location name) else .error .notFound
      | some (.directory entries) => walk aim jump (spot.down name entries) steps
      | some (.file _) =>
        if steps = [] then .ok (.occupied (spot.location ++ [name])) else .error .notDirectory
      | some (.link target) =>
        if steps = [] ∧ aim = .entry then .ok (.occupied (spot.location ++ [name]))
        else jump target spot steps

/-- Takes the steps of a path, starting in a directory, and then some more.  No file can be written
at a path with a separator at its end, but what is wrong on the way to its last name is reported
first. -/
def walkPath (aim : Aim) (jump : Path → Spot → List Step → Except FileError Place) (spot : Spot)
    (path : Path) (steps : List Step) : Except FileError Place :=
  if aim = .file ∧ steps = [] ∧ path.hasTrailingSeparator then
    match walk aim jump spot (path.namedSteps.dropLast ++ [.here]) with
    | .ok _ => .error .isDirectory
    | .error cause => .error cause
  else walk aim jump spot (path.steps ++ steps)

namespace FileTree

/-- Follows a link and all links behind it, but not more than `links` of them. -/
def jump (tree : FileTree) (aim : Aim) (links : Nat) (target : Path) (spot : Spot)
    (steps : List Step) : Except FileError Place :=
  match links with
  | 0 => .error .tooManyLinks
  | links + 1 =>
    walkPath aim (jump tree aim links) (if target.isAbsolute then .root tree else spot) target
      steps

/-- The number of links that are followed on one path. -/
def maxLinks : Nat := 40

/-- **Where a path leads.** -/
def place (tree : FileTree) (aim : Aim) (path : Path) : Except FileError Place :=
  match path.fault? with
  | some cause => .error cause
  | none => walkPath aim (tree.jump aim maxLinks) (.root tree) path []

/-- The location of a place, if it is that of a directory. -/
def asDirectory (tree : FileTree) : Place → Except FileError Location
  | .occupied location =>
    if tree.isDirectory location then .ok location else .error .notDirectory
  | .vacant _ _ => .error .notFound

/-- **Where the last component of a path is looked up**: the directory that the others lead to,
and the component itself, if it is a name.  What goes by this name is not looked at. -/
def lastEntry (tree : FileTree) (path : Path) :
    Except FileError (Location × Option FileName) := do
  if let some cause := path.fault? then throw cause
  let place ← walk .target (tree.jump .target maxLinks) (.root tree) path.namedSteps.dropLast
  let directory ← tree.asDirectory place
  match path.namedSteps.getLast? with
  | some (.down name) =>
    if name.isTooLong then throw .nameTooLong
    return (directory, some name)
  | _ => return (directory, none)

/-! ## 3. Places are what they say -/

end FileTree

/-- Something stands at an occupied place, and a vacant one is a free name in a directory. -/
def Place.Sound (tree : FileTree) : Place → Prop
  | .occupied location => (tree.node? location).isSome
  | .vacant directory name =>
    tree.node? directory = some .directory ∧ tree.node? (directory ++ [name]) = none

namespace Spot

/-- Names lead from the root of a tree to entries: from each of the directories around them to
the next one, and from the innermost one to the entries themselves. -/
def LeadTo (tree : FileTree) :
    List (FileName × Item) → List (FileName × List (FileName × Item)) → Prop
  | entries, [] => entries = tree.entries
  | entries, (name, outer) :: around =>
    SortedMap.lookup name outer = some (.directory entries) ∧ LeadTo tree outer around

/-- The spot is in a tree. -/
def In (tree : FileTree) (spot : Spot) : Prop := LeadTo tree spot.entries spot.around

theorem root_in (tree : FileTree) : (root tree).In tree := rfl

theorem up_in {tree : FileTree} {spot : Spot} (inside : spot.In tree) : spot.up.In tree := by
  obtain ⟨entries, around⟩ := spot
  cases around with
  | nil => exact inside
  | cons outer around => exact inside.2

theorem down_in {tree : FileTree} {spot : Spot} {name : FileName}
    {entries : List (FileName × Item)} (inside : spot.In tree)
    (found : SortedMap.lookup name spot.entries = some (.directory entries)) :
    (spot.down name entries).In tree :=
  ⟨found, inside⟩

theorem find?_location {tree : FileTree} : ∀ {entries : List (FileName × Item)}
    {around : List (FileName × List (FileName × Item))}, LeadTo tree entries around →
      tree.root.find? (location ⟨entries, around⟩) = some (.directory entries)
  | entries, [], inside => by
    obtain rfl : entries = tree.entries := inside
    rfl
  | entries, (name, outer) :: around, inside => by
    obtain ⟨found, outside⟩ := inside
    have before := find?_location outside
    simp only [location, List.map_cons, List.reverse_cons] at before ⊢
    rw [Item.find?_append, before]
    simp [Item.find?, Item.entries, found]

/-- What stands at a name in a spot. -/
theorem node?_location {tree : FileTree} {spot : Spot} (inside : spot.In tree)
    (name : FileName) :
    tree.node? (spot.location ++ [name]) =
      (SortedMap.lookup name spot.entries).map Item.node := by
  unfold FileTree.node? Item.node?
  rw [Item.find?_append, find?_location inside]
  simp only [Option.bind_some, Item.find?, Item.entries]
  cases SortedMap.lookup name spot.entries <;> rfl

theorem node?_self {tree : FileTree} {spot : Spot} (inside : spot.In tree) :
    tree.node? spot.location = some .directory := by
  unfold FileTree.node? Item.node?
  rw [find?_location inside]
  rfl

end Spot

namespace FileTree

theorem walk_sound {tree : FileTree} {aim : Aim}
    {jump : Path → Spot → List Step → Except FileError Place}
    (sound : ∀ {target : Path} {spot : Spot} {steps : List Step} {place : Place},
      spot.In tree → jump target spot steps = .ok place →
        place.Sound tree) :
    ∀ {steps : List Step} {spot : Spot} {place : Place},
      spot.In tree → walk aim jump spot steps = .ok place →
        place.Sound tree
  | [], spot, place, inside, h => by
    obtain rfl := Except.ok.inj h
    simp [Place.Sound, Spot.node?_self inside]
  | .here :: steps, _, _, inside, h => by
    rw [walk] at h
    exact walk_sound sound inside h
  | .up :: steps, spot, _, inside, h => by
    rw [walk] at h
    exact walk_sound sound (Spot.up_in inside) h
  | .down name :: steps, spot, place, inside, h => by
    have there := Spot.node?_location inside name
    simp only [walk] at h
    split at h
    · exact absurd h (by simp)
    · split at h
      · rename_i free
        split at h
        · obtain rfl := Except.ok.inj h
          exact ⟨Spot.node?_self inside, by rw [there, free]; rfl⟩
        · exact absurd h (by simp)
      · rename_i found
        exact walk_sound sound (Spot.down_in inside found) h
      · rename_i found
        split at h
        · obtain rfl := Except.ok.inj h
          simp [Place.Sound, there, found]
        · exact absurd h (by simp)
      · rename_i target found
        split at h
        · obtain rfl := Except.ok.inj h
          simp [Place.Sound, there, found]
        · exact sound inside h

theorem walkPath_sound {tree : FileTree} {aim : Aim}
    {jump : Path → Spot → List Step → Except FileError Place}
    (sound : ∀ {target : Path} {spot : Spot} {steps : List Step} {place : Place},
      spot.In tree → jump target spot steps = .ok place → place.Sound tree)
    {spot : Spot} {path : Path} {steps : List Step} {place : Place} (inside : spot.In tree)
    (h : walkPath aim jump spot path steps = .ok place) : place.Sound tree := by
  unfold walkPath at h
  split at h
  · split at h
    · exact absurd h (by simp)
    · exact absurd h (by simp)
  · exact walk_sound sound inside h

theorem jump_sound {tree : FileTree} {aim : Aim} : ∀ {links : Nat} {target : Path}
    {spot : Spot} {steps : List Step} {place : Place}, spot.In tree →
      tree.jump aim links target spot steps = .ok place → place.Sound tree
  | 0, _, _, _, _, _, h => absurd h (by simp [jump])
  | links + 1, _, _, _, _, inside, h => by
    rw [jump] at h
    refine walkPath_sound (fun inside h => jump_sound inside h) ?_ h
    split
    · exact Spot.root_in tree
    · exact inside

/-- **A place is what it says.** -/
theorem place_sound {tree : FileTree} {aim : Aim} {path : Path} {place : Place}
    (h : tree.place aim path = .ok place) : place.Sound tree := by
  unfold FileTree.place at h
  split at h
  · exact absurd h (by simp)
  · exact walkPath_sound jump_sound (Spot.root_in tree) h

theorem isDirectory_of_asDirectory {tree : FileTree} {place : Place} {location : Location}
    (h : tree.asDirectory place = .ok location) : tree.isDirectory location = true := by
  unfold asDirectory at h
  split at h
  · split at h
    · rename_i dir
      exact Except.ok.inj h ▸ dir
    · exact absurd h (by simp)
  · exact absurd h (by simp)

/-- **The last component of a path is looked up in a directory.** -/
theorem lastEntry_directory {tree : FileTree} {path : Path} {directory : Location}
    {name : Option FileName} (h : tree.lastEntry path = .ok (directory, name)) :
    tree.isDirectory directory = true := by
  simp only [lastEntry, bind, Except.bind, pure, Except.pure] at h
  split at h
  · exact absurd h (by simp)
  · split at h
    · exact absurd h (by simp)
    · split at h
      · exact absurd h (by simp)
      · rename_i there found
        have same : directory = there := by
          split at h
          · split at h
            · exact absurd h (by simp)
            · exact (congrArg Prod.fst (Except.ok.inj h)).symm
          · exact (congrArg Prod.fst (Except.ok.inj h)).symm
        exact same ▸ isDirectory_of_asDirectory found

end FileTree

end SinglePage
