/-
# Reading and changing files by their paths

The operations of a file system on a tree: each follows a path and looks at, or changes, what
stands there.  Operations that change something return the changed tree, and those that fail
say why; they fail for what is in the tree, before anything is changed.

* reading and writing follow a link at the end of the path; making, replacing and removing
  act on the link itself;
* `createDirectory_keeps`: making a directory leaves all that exists as it is.
-/
import SinglePage.FileSystem.Place

namespace SinglePage

/-- What a path can lead to once all links are followed. -/
inductive FileKind where
  | file
  | directory
  deriving DecidableEq

namespace FileTree

/-! ## 1. Looking -/

/-- What a path leads to, if it leads to anything. -/
def kind? (tree : FileTree) (path : Path) : Option FileKind :=
  match tree.place .target path with
  | .ok (.occupied location) =>
    match tree.node? location with
    | some .directory => some .directory
    | some (.file _) => some .file
    | _ => none
  | _ => none

/-- The location of the directory that a path leads to. -/
def directoryAt (tree : FileTree) (path : Path) : Except FileError Location := do
  tree.asDirectory (← tree.place .target path)

/-- The names in the directory that a path leads to. -/
def list (tree : FileTree) (path : Path) : Except FileError (List FileName) :=
  tree.children <$> tree.directoryAt path

/-- The files below the directory that a path leads to; directories whose names fail the test,
and those whose paths would be too long, are not entered.  Below what is no directory there is
nothing. -/
def listBelow (tree : FileTree) (enter : FileName → Bool) (path : Path) :
    List (List FileName) :=
  match tree.directoryAt path with
  | .ok location =>
    (tree.filesBelow enter location).filter fun names =>
      (path.descend names.dropLast).fault?.isNone
  | .error _ => []

/-- The bytes of the file that a path leads to. -/
def readFile (tree : FileTree) (path : Path) : Except FileError ByteArray :=
  match tree.place .target path with
  | .ok (.occupied location) =>
    match tree.node? location with
    | some (.file bytes) => .ok bytes
    | _ => .error .isDirectory
  | .ok (.vacant _ _) => .error .notFound
  | .error cause => .error cause

/-! ## 2. Changing -/

/-- Writes a file.  A path that leads to a free name makes a new one. -/
def writeFile (tree : FileTree) (path : Path) (bytes : ByteArray) :
    Except FileError FileTree := do
  match ← tree.place .file path with
  | .occupied location =>
    match tree.node? location with
    | some (.file _) => return tree.put location (.file bytes)
    | _ => throw .isDirectory
  | .vacant directory name => return tree.put (directory ++ [name]) (.file bytes)

/-- The location of a name that is still free.  Only the name of a directory may have a separator
behind it. -/
def freeEntry (tree : FileTree) (path : Path) (forDirectory : Bool) :
    Except FileError Location := do
  match ← tree.lastEntry path with
  | (directory, some name) =>
    if (tree.node? (directory ++ [name])).isSome then throw .alreadyExists
    if path.hasTrailingSeparator && !forDirectory then throw .notFound
    return directory ++ [name]
  | (_, none) => throw .alreadyExists

/-- Makes a directory. -/
def createDirectory (tree : FileTree) (path : Path) : Except FileError FileTree := do
  return tree.put (← tree.freeEntry path true) .directory

/-- Makes a link. -/
def createLink (tree : FileTree) (path target : Path) : Except FileError FileTree := do
  if let some cause := Path.faultIn? [target, path] then throw cause
  return tree.put (← tree.freeEntry path false) (.link target)

/-- The location of the file or link that a path names. -/
def entryAt (tree : FileTree) (path : Path) : Except FileError Location :=
  match tree.place .entry path with
  | .ok (.occupied location) =>
    if tree.isDirectory location then .error .isDirectory else .ok location
  | .ok (.vacant _ _) => .error .notFound
  | .error cause => .error cause

/-- Removes a file or a link. -/
def removeFile (tree : FileTree) (path : Path) : Except FileError FileTree :=
  tree.remove <$> tree.entryAt path

/-- The tree with nothing left in the directory at a location. -/
def clear (tree : FileTree) (location : Location) : FileTree :=
  if location = [] then .empty else (tree.remove location).put location .directory

/-- Removes a directory, which must be empty and be named by the last component of the path. -/
def removeDirectory (tree : FileTree) (path : Path) : Except FileError FileTree := do
  match ← tree.lastEntry path with
  | (directory, some name) =>
    let location := directory ++ [name]
    match tree.node? location with
    | some .directory =>
      if tree.children location = [] then return tree.remove location else throw .notEmpty
    | some _ => throw .notDirectory
    | none => throw .notFound
  | (_, none) =>
    match path.namedSteps.getLast? with
    | some .up => throw .notEmpty
    | some _ => throw .invalid
    | none => throw .busy

/-- **Removes whatever a path names**, and all that is in it.  A directory that the path leads to
is emptied first, and then removed by the same path.  If that path led through the directory
itself, it leads nowhere by then, and there is nothing left to do. -/
def removeAll (tree : FileTree) (path : Path) : Except FileError Unit × FileTree :=
  match tree.place .entry path with
  | .error cause => (.error cause, tree)
  | .ok (.vacant _ _) => (.error .notFound, tree)
  | .ok (.occupied location) =>
    if tree.isDirectory location then
      let emptied := tree.clear location
      match emptied.removeDirectory path with
      | .ok after => (.ok (), after)
      | .error .notFound => (.ok (), emptied)
      | .error cause => (.error cause, emptied)
    else (.ok (), tree.remove location)

/-- The location that the file at `source` can be moved to.  The last component of the path must be
a name, with nothing behind it, and a directory of that name cannot be replaced, least of all if
the file lies in it. -/
def targetAt (tree : FileTree) (source : Location) (path : Path) : Except FileError Location := do
  match ← tree.lastEntry path with
  | (directory, some name) =>
    let location := directory ++ [name]
    if path.hasTrailingSeparator then throw .notDirectory
    if tree.isDirectory location then
      throw (if location.isPrefixOf source then .notEmpty else .isDirectory)
    return location
  | (_, none) => throw .busy

/-- **Moves a file or a link** to another path, in place of the file or link that stands
there. -/
def moveFile (tree : FileTree) (source target : Path) : Except FileError FileTree := do
  if let some cause := Path.faultIn? [source, target] then throw cause
  let old ← tree.entryAt source
  let new ← tree.targetAt old target
  match tree.node? old with
  | some node => return (tree.remove old).put new node
  | none => .error .notFound

/-! ## 3. What stays -/

theorem node?_of_freeEntry {tree : FileTree} {path : Path} {forDirectory : Bool}
    {location : Location} (h : tree.freeEntry path forDirectory = .ok location) :
    tree.node? location = none := by
  simp only [freeEntry, bind, Except.bind] at h
  split at h
  · exact absurd h (by simp)
  · split at h
    · split at h
      · exact absurd h (by simp [throw, throwThe, MonadExceptOf.throw])
      · rename_i free
        split at h
        · exact absurd h (by simp [throw, throwThe, MonadExceptOf.throw])
        · obtain rfl := Except.ok.inj h
          simpa using free
    · exact absurd h (by simp [throw, throwThe, MonadExceptOf.throw])

theorem put_keeps {tree : FileTree} {free location : Location} {node old : Node}
    (vacant : tree.node? free = none) (there : tree.node? location = some old) :
    (tree.put free node).node? location = some old := by
  rw [node?_put_of_ne, there]
  rintro rfl
  rw [there] at vacant
  exact absurd vacant (by simp)

/-- **Making a directory leaves all that exists as it is.** -/
theorem createDirectory_keeps {tree after : FileTree} {path : Path}
    (h : tree.createDirectory path = .ok after) {location : Location} {old : Node}
    (there : tree.node? location = some old) : after.node? location = some old := by
  unfold createDirectory at h
  cases free : tree.freeEntry path true with
  | error e =>
    rw [free] at h
    exact absurd h (by simp [bind, Except.bind])
  | ok location =>
    rw [free] at h
    obtain rfl := Except.ok.inj h
    exact put_keeps (node?_of_freeEntry free) there

end FileTree

end SinglePage
