/-
# Disks that fail

A change can fail although nothing in the tree is in its way: the disk is full or broken, or does
not allow it.  A directory is made as a whole then, or not at all, and so is a file moved.  But a
file is opened first, which makes it or empties it, and is written then; if the disk gives up
meanwhile, the file stays there with all that was written until then.

A `Disk` says which changes fail in which world, and why.  With every disk, worlds are a host.  What
is only looked at is not subject to the disk, and neither is the removal of a file: if that could fail,
nothing that was written could be undone.

* `Disk.host_sound`: on a disk that never fails, worlds are the host that they are by themselves;
* `changeUnless_cases`: a directory is made or a file is moved, or nothing changes;
* `writeUntil_cases`: a file is written, or not touched, or cut short.
-/
import SinglePage.FileSystem.Host

namespace SinglePage

/-! ## 1. Disks -/

/-- **How a disk fails to write a file.** -/
inductive WriteFault where
  /-- The file is not even opened. -/
  | refused (cause : FileError)
  /-- The file is opened, and no more than so many bytes are written. -/
  | cutShort (length : Nat) (cause : FileError)

/-- **A disk**: in which world it fails to make a change, and why. -/
structure Disk where
  /-- Why no directory is made at a path. -/
  making : World → Path → Option FileError
  /-- Why no file is written at a path, or not all of it. -/
  writing : World → Path → Option WriteFault
  /-- Why no file is moved from one path to another. -/
  moving : World → Path → Path → Option FileError

open World

/-- Makes a change, unless there is a reason to refuse it. -/
def changeUnless (refusal : Option FileError) (f : FileTree → Except FileError FileTree) :
    StateM World (Except FileError Unit) :=
  match refusal with
  | some cause => return .error cause
  | none => change f

/-- **Writes a file**, as far as a fault lets it. -/
def writeUntil (fault : Option WriteFault) (path : Path) (bytes : ByteArray) :
    StateM World (Except FileError Unit) :=
  match fault with
  | some (.refused cause) => return .error cause
  | some (.cutShort length cause) =>
    if length < bytes.size then do
      match ← change fun tree => tree.writeFile path (bytes.extract 0 length) with
      | .ok () => return .error cause
      | .error inTheWay => return .error inTheWay
    else change fun tree => tree.writeFile path bytes
  | none => change fun tree => tree.writeFile path bytes

namespace Disk

/-- A disk that never fails. -/
def sound : Disk := ⟨fun _ _ => none, fun _ _ => none, fun _ _ _ => none⟩

/-- A disk that has room for files of this length and for no longer ones. -/
def full (room : Nat) : Disk :=
  { sound with
    writing := fun _ _ => some (.cutShort room (.other "No space left on device (os error 28)")) }

/-- **Worlds on a disk**, as a host. -/
abbrev host (disk : Disk) : Host (StateM World) :=
  { (inferInstance : Host (StateM World)) with
    writeFile := fun path bytes => do writeUntil (disk.writing (← get) path) path bytes
    createDirectory := fun path => do
      changeUnless (disk.making (← get) path) fun tree => tree.createDirectory path
    moveFile := fun source target => do
      changeUnless (disk.moving (← get) source target) fun tree => tree.moveFile source target }

/-- **On a disk that never fails, only what is in the tree can be in the way.** -/
theorem host_sound : sound.host = (inferInstance : Host (StateM World)) := rfl

/-- Files are removed whatever the disk does. -/
theorem removeFile_host (disk : Disk) (path : Path) :
    disk.host.removeFile path = change fun tree => tree.removeFile path := rfl

end Disk

/-! ## 2. What changes come to -/

/-- **A change is made, or nothing is.** -/
theorem changeUnless_cases (refusal : Option FileError) (f : FileTree → Except FileError FileTree)
    (world : World) :
    (∃ cause, changeUnless refusal f world = (.error cause, world)) ∨
      ∃ tree, f world.tree = .ok tree ∧
        changeUnless refusal f world = (.ok (), { world with tree := tree }) := by
  cases refusal with
  | some cause => exact .inl ⟨cause, rfl⟩
  | none =>
    cases changed : f world.tree with
    | error cause => exact .inl ⟨cause, run_change_error changed⟩
    | ok tree => exact .inr ⟨tree, rfl, run_change_ok changed⟩

/-- **A file is written, or not touched, or cut short**: then a beginning of it is left. -/
theorem writeUntil_cases (fault : Option WriteFault) (path : Path) (bytes : ByteArray)
    (world : World) :
    (∃ cause, writeUntil fault path bytes world = (.error cause, world)) ∨
      (∃ cause length tree, length < bytes.size ∧
        world.tree.writeFile path (bytes.extract 0 length) = .ok tree ∧
          writeUntil fault path bytes world = (.error cause, { world with tree := tree })) ∨
      ∃ tree, world.tree.writeFile path bytes = .ok tree ∧
        writeUntil fault path bytes world = (.ok (), { world with tree := tree }) := by
  have whole : (∃ cause, change (fun tree => tree.writeFile path bytes) world =
        (.error cause, world)) ∨
      ∃ tree, world.tree.writeFile path bytes = .ok tree ∧
        change (fun tree => tree.writeFile path bytes) world =
          (.ok (), { world with tree := tree }) :=
    changeUnless_cases none (fun tree => tree.writeFile path bytes) world
  cases fault with
  | none => exact whole.imp_right .inr
  | some fault =>
    cases fault with
    | refused cause => exact .inl ⟨cause, rfl⟩
    | cutShort length cause =>
      rw [writeUntil]
      split
      · rename_i short
        rw [run_bind]
        cases wrote : world.tree.writeFile path (bytes.extract 0 length) with
        | error inTheWay =>
          rw [run_change_error wrote]
          exact .inl ⟨inTheWay, rfl⟩
        | ok tree =>
          rw [run_change_ok wrote]
          exact .inr (.inl ⟨cause, length, tree, short, wrote, rfl⟩)
      · exact whole.imp_right .inr

end SinglePage
