/-
# Writing beside a file and moving over it

A file is written under a free name, and moved from there over another name in the same directory.
If that cannot be done, the new file is removed again.  In the end the tree is either what it was,
or the same tree with the file in its place.

* `enters_put_file`, `enters_of_put_file`: a new file leads nowhere, and is in the way of nothing
  but what went through a link in its place;
* `remove_after_write`: the file that was written can be removed, and nothing of it is left;
* `move_after_write`: the file that was moved stands at its new name, and nothing else is new;
* `write_and_move`: when a file can be written under one name and moved to another;
* `named?_replaced`: the path still leads to this name, unless it went through a link there.
-/
import SinglePage.Proofs.FileSystem.Naming

namespace SinglePage

namespace FileTree

variable {tree : FileTree} {location : Location} {bytes : ByteArray}

/-! ## 1. New files and directories on the way -/

/-- **What is entered past a new file was entered before.** -/
theorem enters_of_put_file (can : tree.canPut location = true) {links : Nat}
    {directory place : Location} {steps : List Step}
    (enters : Enters (tree.put location (.file bytes)) links directory steps place) :
    Enters tree links directory steps place := by
  have back : ∀ l node, (tree.put location (.file bytes)).node? l = some node →
      node ≠ .file bytes → tree.node? l = some node := by
    intro l node there other
    rw [node?_put _ can] at there
    split at there
    · exact absurd (Option.some.inj there).symm other
    · exact there
  exact enters.mono (fun l there => back l _ there (by simp)) fun l _ there =>
    back l _ there (by simp)

/-- **A new file is in the way of nothing**, unless it takes the place of a link. -/
theorem enters_put_file (can : tree.canPut location = true)
    (noLink : ∀ target, tree.node? location ≠ some (.link target)) {links : Nat}
    {directory place : Location} {steps : List Step}
    (enters : Enters tree links directory steps place) :
    Enters (tree.put location (.file bytes)) links directory steps place := by
  refine enters.mono ?_ ?_
  · intro l there
    have other : l ≠ location := by
      rintro rfl
      exact (canPut_iff.mp can).2.2 there
    rw [node?_put_of_ne other, there]
  · intro l target there
    have other : l ≠ location := by
      rintro rfl
      exact noLink target there
    rw [node?_put_of_ne other, there]

/-- What is entered without what stands at a location is entered past a new file there. -/
theorem enters_put_file_of_remove {links : Nat} {directory place : Location} {steps : List Step}
    (enters : Enters (tree.remove location) links directory steps place) :
    Enters (tree.put location (.file bytes)) links directory steps place := by
  have stays : ∀ l node, (tree.remove location).node? l = some node → node ≠ .directory ∨ l ≠ [] →
      (tree.put location (.file bytes)).node? l = some node := by
    intro l node there below
    have below' : l ≠ [] := by
      rintro rfl
      rw [FileTree.node?_root] at there
      simp [(Option.some.inj there).symm] at below
    rw [node?_remove _ below'] at there
    split at there
    · exact absurd there (by simp)
    · rename_i outside
      rw [node?_put_of_ne, there]
      rintro rfl
      exact outside (by simp)
  refine enters.mono ?_ fun l target there => stays l _ there (.inl (by simp))
  intro l there
  by_cases root : l = []
  · rw [root, FileTree.node?_root]
  · exact stays l _ there (.inr root)

/-! ## 2. Undoing a new file -/

/-- **A new file that is removed again leaves the tree as it was.** -/
theorem remove_put (vacant : tree.node? location = none) (node : Node) :
    (tree.put location node).remove location = tree := by
  refine ext_node? ?_
  intro l
  by_cases root : l = []
  · subst root
    rfl
  · rw [node?_remove _ root]
    split
    · rename_i inside
      obtain ⟨below, rfl⟩ := List.isPrefixOf_iff_prefix.mp inside
      exact (node?_below vacant below).symm
    · rename_i outside
      refine node?_put_of_ne ?_
      rintro rfl
      exact outside (by simp)

/-! ## 3. Two names in one directory -/

section Beside

variable {temporary path : Path} {steps steps' : List Step} {name name' : FileName}
  {written : FileTree}

/-- A free name in a directory can be taken. -/
theorem canPut_of_enters {directory : Location}
    (enters : Enters tree maxLinks [] steps directory)
    (other : tree.node? (directory ++ [name]) ≠ some .directory) :
    tree.canPut (directory ++ [name]) = true := by
  refine canPut_iff.mpr ⟨by simp, ?_, other⟩
  rw [List.dropLast_concat]
  exact enters.isDirectory tree.node?_root

/-- The file that was written stands under its name. -/
theorem entryAt_after_write (ends : temporary.EndsIn steps name)
    (clear : temporary.hasTrailingSeparator = false)
    (nothing : ∀ location, tree.entryAt temporary ≠ .ok location)
    (wrote : tree.writeFile temporary bytes = .ok written) :
    ∃ directory, Enters tree maxLinks [] steps directory ∧
      tree.node? (directory ++ [name]) = none ∧
        tree.canPut (directory ++ [name]) = true ∧
          written = tree.put (directory ++ [name]) (.file bytes) ∧
            written.entryAt temporary = .ok (directory ++ [name]) := by
  obtain ⟨directory, enters, short, fault, vacant, rfl⟩ := writeFile_eq_ok ends clear nothing wrote
  have can : tree.canPut (directory ++ [name]) = true :=
    canPut_of_enters enters (by simp [vacant])
  have enters' : Enters (tree.put (directory ++ [name]) (.file bytes)) maxLinks [] steps
      directory :=
    enters_put_file can (by simp [vacant]) enters
  refine ⟨directory, enters, vacant, can, rfl, (entryAt_eq_ok_iff ends).mpr ⟨?_, ?_⟩⟩
  · exact (named?_eq_some_iff ends).mpr ⟨fault, short, directory, enters', rfl⟩
  · refine ⟨.file bytes, ?_, by simp⟩
    rw [node?_put _ can, if_pos rfl]

/-- **A file that was written under a free name can be removed**, and nothing of it is left. -/
theorem remove_after_write (ends : temporary.EndsIn steps name)
    (clear : temporary.hasTrailingSeparator = false)
    (nothing : ∀ location, tree.entryAt temporary ≠ .ok location)
    (wrote : tree.writeFile temporary bytes = .ok written) :
    written.removeFile temporary = .ok tree := by
  obtain ⟨directory, enters, vacant, can, rfl, entry⟩ :=
    entryAt_after_write ends clear nothing wrote
  rw [removeFile, entry]
  exact congrArg Except.ok (remove_put vacant _)

/-- **A file that was written and moved stands at its new name**, and nothing else is new. -/
theorem move_after_write (ends : temporary.EndsIn steps name)
    (clear : temporary.hasTrailingSeparator = false)
    (nothing : ∀ location, tree.entryAt temporary ≠ .ok location)
    (wrote : tree.writeFile temporary bytes = .ok written)
    (ends' : path.EndsIn steps' name') (beside : SameWay steps' steps) (other : name' ≠ name)
    {after : FileTree} (moved : written.moveFile temporary path = .ok after) :
    ∃ location, tree.named? path = some location ∧ tree.canPut location = true ∧
      after = tree.put location (.file bytes) := by
  obtain ⟨directory, enters, vacant, can, rfl, entry⟩ :=
    entryAt_after_write ends clear nothing wrote
  obtain ⟨old, new, node, from_, named, notDirectory, content, rfl⟩ := moveFile_eq_ok moved
  obtain rfl : directory ++ [name] = old := Except.ok.inj (entry.symm.trans from_)
  obtain ⟨fault, short, directory', enters', rfl⟩ := (named?_eq_some_iff ends').mp named
  have enters'' := (enters_of_put_file can enters').sameWay beside.symm
  obtain rfl : directory = directory' := enters.unique enters''
  have apart : directory ++ [name'] ≠ directory ++ [name] := by simpa using other
  rw [node?_put _ can, if_pos rfl] at content
  obtain rfl := Option.some.inj content
  rw [node?_put_of_ne apart] at notDirectory
  rw [remove_put vacant]
  have way : Enters tree maxLinks [] steps' directory := enters.sameWay beside
  refine ⟨_, (named?_eq_some_iff ends').mpr ⟨fault, short, directory, way, rfl⟩, ?_, rfl⟩
  exact canPut_of_enters way notDirectory

/-! ## 4. What paths name past a new file -/

/-- What a path names past a new file was named by it before. -/
theorem named?_of_put_file {location l : Location} (ends : path.EndsIn steps name)
    (can : tree.canPut location = true)
    (named : (tree.put location (.file bytes)).named? path = some l) :
    tree.named? path = some l := by
  obtain ⟨fault, short, directory, enters, rfl⟩ := (named?_eq_some_iff ends).mp named
  exact (named?_eq_some_iff ends).mpr
    ⟨fault, short, directory, enters_of_put_file can enters, rfl⟩

/-- A path that names a new file still does so, unless it led through a link in its place. -/
theorem named?_put_file {location l : Location} (ends : path.EndsIn steps name)
    (can : tree.canPut location = true)
    (noLink : ∀ target, tree.node? location ≠ some (.link target))
    (named : tree.named? path = some l) :
    (tree.put location (.file bytes)).named? path = some l := by
  obtain ⟨fault, short, directory, enters, rfl⟩ := (named?_eq_some_iff ends).mp named
  exact (named?_eq_some_iff ends).mpr
    ⟨fault, short, directory, enters_put_file can noLink enters, rfl⟩

/-- **A file can be written under any free name and moved over another name**, unless this is the name
of a directory; the two names may stand in different directories. -/
theorem write_and_move (ends : temporary.EndsIn steps name)
    (clear : temporary.hasTrailingSeparator = false) (ends' : path.EndsIn steps' name')
    (clear' : path.hasTrailingSeparator = false) (other : name' ≠ name) {fresh location : Location}
    (free : tree.named? temporary = some fresh) (vacant : tree.node? fresh = none)
    (named : tree.named? path = some location) (notDirectory : tree.node? location ≠ some .directory)
    (bytes : ByteArray) :
    tree.writeFile temporary bytes = .ok (tree.put fresh (.file bytes)) ∧
      (tree.put fresh (.file bytes)).moveFile temporary path =
        .ok (tree.put location (.file bytes)) := by
  have noLink : ∀ target, tree.node? fresh ≠ some (.link target) := by simp [vacant]
  obtain ⟨fault, -, directory, enters, rfl⟩ := (named?_eq_some_iff ends).mp free
  obtain ⟨fault', -, directory', -, rfl⟩ := (named?_eq_some_iff ends').mp named
  have can : tree.canPut (directory ++ [name]) = true := canPut_of_enters enters (by simp [vacant])
  have apart : directory' ++ [name'] ≠ directory ++ [name] := by
    intro same
    exact other (List.cons.inj (List.append_inj' same rfl).2).1
  have content : (tree.put (directory ++ [name]) (.file bytes)).node? (directory ++ [name]) =
      some (.file bytes) := by
    rw [node?_put _ can, if_pos rfl]
  constructor
  · rw [writeFile_of_named ends clear free noLink, isDirectory, vacant]
    rfl
  · refine (moveFile_eq_ok_iff clear').mpr ⟨⟨fault, fault'⟩, _, _, .file bytes,
      (entryAt_eq_ok_iff ends).mpr ⟨named?_put_file ends can noLink free, _, content, by simp⟩,
      named?_put_file ends' can noLink named, ?_, content, ?_⟩
    · rwa [node?_put_of_ne apart]
    · rw [remove_put vacant]

/-- **The name of a new file can be found again**, unless the path goes through the link whose
place the file takes. -/
theorem named?_replaced (ends : path.EndsIn steps name) (can : tree.canPut location = true)
    (named : tree.named? path = some location) :
    (tree.put location (.file bytes)).named? path = some location ∨
      (∃ target, tree.node? location = some (.link target)) ∧
        (tree.remove location).named? path = none := by
  by_cases link : ∃ target, tree.node? location = some (.link target)
  · cases without : (tree.remove location).named? path with
    | none => exact .inr ⟨link, rfl⟩
    | some l =>
      obtain ⟨fault, short, directory, enters, eq⟩ := (named?_eq_some_iff ends).mp without
      have again : (tree.put location (.file bytes)).named? path = some l :=
        (named?_eq_some_iff ends).mpr
          ⟨fault, short, directory, enters_put_file_of_remove enters, eq⟩
      obtain rfl := Option.some.inj ((named?_of_put_file ends can again).symm.trans named)
      exact .inl again
  · exact .inl (named?_put_file ends can (fun target there => link ⟨target, there⟩) named)

/-- A new file does not stand at a path that ends in another name. -/
theorem entryAt_of_put_file {location l : Location} (ends : path.EndsIn steps name)
    (can : tree.canPut location = true) (other : location.getLast? ≠ some name)
    (there : (tree.put location (.file bytes)).entryAt path = .ok l) :
    tree.entryAt path = .ok l := by
  obtain ⟨named, node, stands, notDirectory⟩ := (entryAt_eq_ok_iff ends).mp there
  have named' := named?_of_put_file ends can named
  obtain ⟨-, -, directory, -, rfl⟩ := (named?_eq_some_iff ends).mp named
  have apart : directory ++ [name] ≠ location := by
    rintro rfl
    exact other (by simp)
  rw [node?_put_of_ne apart] at stands
  exact (entryAt_eq_ok_iff ends).mpr ⟨named', node, stands, notDirectory⟩

end Beside

end FileTree

end SinglePage
