/-
# The machine that a site is built on

A build looks at files, writes some, and notes what it does.  `Host` says what it needs of its
surroundings, so that the same build runs on real files and on a `World`, which is nothing but
a tree of files and the events noted so far.  Everything that is proved about builds is proved
about worlds.

A change of a world fails only if something in its tree is in the way, and changes nothing then.
Changes that fail for another reason, perhaps halfway, belong to the disk that a world is kept on;
what a build leaves behind does not depend on it.
-/
import SinglePage.FileSystem.Access
import SinglePage.Log.Event

namespace SinglePage

/-! ## 1. Hosts -/

/-- **What a build needs of the machine that it runs on.** -/
class Host (m : Type → Type) where
  /-- What a path leads to once links are followed, if it leads to anything. -/
  kind? : Path → m (Option FileKind)
  /-- The names in a directory. -/
  list : Path → m (Except FileError (List FileName))
  /-- The files below a directory, by the names on the way; links are left out, and so are the
  directories whose names fail the test, with all that is in them. -/
  listBelow : (FileName → Bool) → Path → m (List (List FileName))
  /-- The bytes of a file. -/
  readFile : Path → m (Except FileError ByteArray)
  /-- Writes a file. -/
  writeFile : Path → ByteArray → m (Except FileError Unit)
  /-- Makes a directory where there is nothing. -/
  createDirectory : Path → m (Except FileError Unit)
  /-- Moves a file in place of another one. -/
  moveFile : Path → Path → m (Except FileError Unit)
  /-- Removes a file. -/
  removeFile : Path → m (Except FileError Unit)
  /-- Notes an event. -/
  note : LogEvent → m Unit

namespace Host

variable {m : Type → Type} [Monad m] [Host m]

/-- The text of a file, which must be valid UTF-8. -/
def readText (path : Path) : m (Except FileError String) := do
  match ← Host.readFile path with
  | .error cause => return .error cause
  | .ok bytes =>
    match String.fromUTF8? bytes with
    | some text => return .ok text
    | none => return .error .notText

/-- Whether a path leads to a directory. -/
def isDirectory (path : Path) : m Bool := do
  return (← Host.kind? path) = some .directory

/-- Makes the first of some directories, each of which lies in the next one, with those that it
lies in.  The empty path stands for what is there anyway, and a directory that exists already is
as good as a new one. -/
def createEach : List Path → m (Except FileError Unit)
  | [] => return .ok ()
  | path :: outer => do
    if path.text = "" then return .ok ()
    let settle (result : Except FileError Unit) : m (Except FileError Unit) := do
      match result with
      | .ok () => return .ok ()
      | .error cause => if ← isDirectory path then return .ok () else return .error cause
    match ← Host.createDirectory path with
    | .error .notFound =>
      match ← createEach outer with
      | .ok () => settle (← Host.createDirectory path)
      | .error cause => return .error cause
    | result => settle result

/-- **Makes a directory and all that it lies in.** -/
def createDirectories (path : Path) : m (Except FileError Unit) :=
  createEach (path :: path.parents)

end Host

/-! ## 2. Worlds -/

/-- **A world**: a tree of files, and the events noted so far. -/
structure World where
  tree : FileTree
  log : List LogEvent

namespace World

instance : Inhabited World := ⟨⟨.empty, []⟩⟩

/-- Looks at the tree. -/
def look {α : Type} (f : FileTree → α) : StateM World α := fun world => (f world.tree, world)

/-- Changes the tree, unless something in it is in the way. -/
def change (f : FileTree → Except FileError FileTree) : StateM World (Except FileError Unit) :=
  fun world =>
    match f world.tree with
    | .ok tree => (.ok (), { world with tree := tree })
    | .error cause => (.error cause, world)

theorem run_bind {α β : Type} (program : StateM World α) (next : α → StateM World β)
    (world : World) : (program >>= next) world = next (program world).1 (program world).2 :=
  rfl

theorem run_change_ok {f : FileTree → Except FileError FileTree} {world : World} {tree : FileTree}
    (done : f world.tree = .ok tree) : change f world = (.ok (), { world with tree := tree }) := by
  rw [change, done]

theorem run_change_error {f : FileTree → Except FileError FileTree} {world : World}
    {cause : FileError} (failed : f world.tree = .error cause) :
    change f world = (.error cause, world) := by
  rw [change, failed]

instance : Host (StateM World) where
  kind? path := look fun tree => tree.kind? path
  list path := look fun tree => tree.list path
  listBelow enter path := look fun tree => tree.listBelow enter path
  readFile path := look fun tree => tree.readFile path
  writeFile path bytes := change fun tree => tree.writeFile path bytes
  createDirectory path := change fun tree => tree.createDirectory path
  moveFile source target := change fun tree => tree.moveFile source target
  removeFile path := change fun tree => tree.removeFile path
  note event := fun world => ((), { world with log := world.log ++ [event] })

end World

end SinglePage
