/-
# What a path names

A path that ends in a name says where that name stands (`FileTree.named?`), without following a link
that stands there.  What an operation on files does with such a path depends on this location and
on what stands there.

* `named?_eq_some_iff`: the directories in front of the name are entered;
* `place_of_named`, `kind?_of_named`: what a path leads to whose name is not that of a link;
* `entryAt_eq_ok_iff`: the file or link that a path names stands at the named location;
* `writeFile_eq_ok`, `moveFile_eq_ok`: what is written to a free name, and what is moved where;
* `writeFile_of_named`, `moveFile_eq_ok_iff`: when a file can be written or moved.
-/
import SinglePage.Proofs.FileSystem.Entering

namespace SinglePage

/-- What stands at a location, as a path that leads there shows it. -/
def Node.kind? : Node → Option FileKind
  | .directory => some .directory
  | .file _ => some .file
  | .link _ => none

/-! ## 1. Locations of names -/

namespace FileTree

/-- **The location that a path names**: its last name in the directory that the rest leads to. -/
def named? (tree : FileTree) (path : Path) : Option Location :=
  match tree.lastEntry path with
  | .ok (directory, some name) => some (directory ++ [name])
  | _ => none

theorem named?_eq_some_of_lastEntry {tree : FileTree} {path : Path} {location : Location} :
    tree.named? path = some location ↔
      ∃ directory name, tree.lastEntry path = .ok (directory, some name) ∧
        location = directory ++ [name] := by
  unfold named?
  split
  · rename_i directory name eq
    rw [eq]
    constructor
    · intro h
      exact ⟨directory, name, rfl, (Option.some.inj h).symm⟩
    · rintro ⟨directory', name', found, rfl⟩
      obtain ⟨rfl, last⟩ := Prod.mk.inj (Except.ok.inj found)
      rw [Option.some.inj last]
  · rename_i other
    constructor
    · intro h
      exact absurd h (by simp)
    · rintro ⟨directory, name, eq, -⟩
      exact absurd eq (other directory name)

/-- **A path names a location if the directories in front of its name can be entered.** -/
theorem named?_eq_some_iff {tree : FileTree} {path : Path} {steps : List Step} {name : FileName}
    (ends : path.EndsIn steps name) {location : Location} :
    tree.named? path = some location ↔
      path.fault? = none ∧ name.isTooLong = false ∧
        ∃ directory, Enters tree maxLinks [] steps directory ∧ location = directory ++ [name] := by
  obtain ⟨last, same⟩ := ends.namedSteps
  rw [named?_eq_some_of_lastEntry]
  constructor
  · rintro ⟨directory, name', found, rfl⟩
    obtain ⟨fault, enters, last', short⟩ := lastEntry_eq_ok_iff.mp found
    obtain rfl : name = name' := Step.down.inj (Option.some.inj (last.symm.trans last'))
    exact ⟨fault, short, directory, enters.sameWay same.symm, rfl⟩
  · rintro ⟨fault, short, directory, enters, rfl⟩
    have found := lastEntry_eq_ok_iff.mpr ⟨fault, enters.sameWay same, last, short⟩
    exact ⟨directory, name, found, rfl⟩

/-! ## 2. Following a path to its name -/

/-- What a path leads to, from the directory that its name is looked up in. -/
theorem place_eq_ok {tree : FileTree} {aim : Aim} {path : Path} {steps : List Step}
    {name : FileName} (ends : path.EndsIn steps name)
    (clear : aim = .file → path.hasTrailingSeparator = false) {place : Place}
    (found : tree.place aim path = .ok place) :
    path.fault? = none ∧ ∃ (left : Nat) (last : Spot), last.In tree ∧
      Enters tree maxLinks [] steps last.location ∧
        walk aim (tree.jump aim left) last [.down name] = .ok place := by
  unfold FileTree.place at found
  split at found
  · exact absurd found (by simp)
  · rename_i fault
    have whole : walkPath aim (tree.jump aim maxLinks) (.root tree) path [] =
        walk aim (tree.jump aim maxLinks) (.root tree) (steps ++ [.down name]) := by
      rw [walkPath, if_neg, List.append_nil, ends]
      rintro ⟨file, -, trailing⟩
      rw [clear file] at trailing
      exact absurd trailing (by simp)
    rw [whole] at found
    exact ⟨fault, enters_of_walk (.inl (by simp)) (Spot.root_in tree) found⟩

/-- The converse. -/
theorem place_of_enters {tree : FileTree} {aim : Aim} {path : Path} {steps : List Step}
    {name : FileName} (ends : path.EndsIn steps name)
    (clear : aim = .file → path.hasTrailingSeparator = false) (fault : path.fault? = none)
    {directory : Location} (enters : Enters tree maxLinks [] steps directory) :
    ∃ (left : Nat) (last : Spot), last.In tree ∧ last.location = directory ∧
      tree.place aim path = walk aim (tree.jump aim left) last [.down name] := by
  have whole : tree.place aim path =
      walk aim (tree.jump aim maxLinks) (.root tree) (steps ++ [.down name]) := by
    unfold FileTree.place
    rw [fault]
    dsimp only
    rw [walkPath, if_neg, List.append_nil, ends]
    rintro ⟨file, -, trailing⟩
    rw [clear file] at trailing
    exact absurd trailing (by simp)
  rw [whole]
  exact walk_of_enters (.inl (by simp)) enters (Spot.root_in tree) rfl

/-- **The last step of a path**: what it leads to depends on what stands at the name. -/
theorem walk_name {tree : FileTree} {aim : Aim}
    {jump : Path → Spot → List Step → Except FileError Place} {spot : Spot} (inside : spot.In tree)
    {name : FileName} (short : name.isTooLong = false) :
    walk aim jump spot [.down name] =
      match tree.node? (spot.location ++ [name]) with
      | none => .ok (.vacant spot.location name)
      | some (.link target) =>
        if aim = .entry then .ok (.occupied (spot.location ++ [name])) else jump target spot []
      | some _ => .ok (.occupied (spot.location ++ [name])) := by
  rw [Spot.node?_location inside, walk, short]
  cases SortedMap.lookup name spot.entries with
  | none => rfl
  | some item =>
    cases item with
    | file bytes => rfl
    | directory entries =>
      rw [← Spot.location_down]
      rfl
    | link target => 
      simp [Item.node]

theorem short_of_walk {aim : Aim} {jump : Path → Spot → List Step → Except FileError Place}
    {spot : Spot} {name : FileName} {steps : List Step} {place : Place}
    (found : walk aim jump spot (.down name :: steps) = .ok place) : name.isTooLong = false := by
  rw [walk] at found
  split at found
  · exact absurd found (by simp)
  · rename_i short
    simpa using short

/-! ## 3. Files and links by their names -/

/-- When the entry itself is looked for, a link is an entry like others. -/
theorem walk_name_entry {tree : FileTree} {jump : Path → Spot → List Step → Except FileError Place}
    {spot : Spot} (inside : spot.In tree) {name : FileName} (short : name.isTooLong = false) :
    walk .entry jump spot [.down name] =
      if (tree.node? (spot.location ++ [name])).isSome then
        .ok (.occupied (spot.location ++ [name]))
      else .ok (.vacant spot.location name) := by
  rw [walk_name inside short]
  cases tree.node? (spot.location ++ [name]) with
  | none => rfl
  | some node => cases node <;> rfl

/-- **The file or link that a path names stands at the location that it names.** -/
theorem entryAt_eq_ok_iff {tree : FileTree} {path : Path} {steps : List Step} {name : FileName}
    (ends : path.EndsIn steps name) {location : Location} :
    tree.entryAt path = .ok location ↔
      tree.named? path = some location ∧
        ∃ node, tree.node? location = some node ∧ node ≠ .directory := by
  rw [named?_eq_some_iff ends]
  constructor
  · intro h
    unfold entryAt at h
    split at h
    · rename_i there found
      split at h
      · exact absurd h (by simp)
      · rename_i other
        obtain rfl := Except.ok.inj h
        obtain ⟨fault, left, last, lastIn, enters, final⟩ := place_eq_ok ends (by simp) found
        have short := short_of_walk final
        rw [walk_name_entry lastIn short] at final
        split at final
        · rename_i occupied
          obtain rfl := Place.occupied.inj (Except.ok.inj final)
          obtain ⟨node, there⟩ := Option.isSome_iff_exists.mp occupied
          refine ⟨⟨fault, short, _, enters, rfl⟩, node, there, ?_⟩
          rintro rfl
          exact other (isDirectory_iff.mpr there)
        · exact absurd (Except.ok.inj final) (by simp)
    · exact absurd h (by simp)
    · exact absurd h (by simp)
  · rintro ⟨⟨fault, short, directory, enters, rfl⟩, node, there, other⟩
    obtain ⟨left, last, lastIn, rfl, found⟩ :=
      @place_of_enters tree .entry path steps name ends (by simp) fault directory enters
    rw [walk_name_entry lastIn short, there, if_pos Option.isSome_some] at found
    have notDirectory : ¬tree.isDirectory (last.location ++ [name]) = true := by
      rw [isDirectory_iff, there]
      simpa using other
    unfold entryAt
    rw [found]
    exact if_neg notDirectory

/-- **What is read from a file by its name.** -/
theorem readFile_of_named {tree : FileTree} {path : Path} {steps : List Step} {name : FileName}
    (ends : path.EndsIn steps name) {location : Location} {bytes : ByteArray}
    (named : tree.named? path = some location)
    (there : tree.node? location = some (.file bytes)) : tree.readFile path = .ok bytes := by
  obtain ⟨fault, short, directory, enters, rfl⟩ := (named?_eq_some_iff ends).mp named
  obtain ⟨left, last, lastIn, rfl, found⟩ :=
    @place_of_enters tree .target path steps name ends (by simp) fault directory enters
  rw [walk_name lastIn short, there] at found
  unfold readFile
  rw [found]
  dsimp only
  rw [there]

/-- A path that leads somewhere names a location. -/
theorem named?_of_place {tree : FileTree} {aim : Aim} {path : Path} {steps : List Step}
    {name : FileName} (ends : path.EndsIn steps name)
    (clear : aim = .file → path.hasTrailingSeparator = false) {place : Place}
    (found : tree.place aim path = .ok place) : ∃ location, tree.named? path = some location := by
  obtain ⟨fault, left, last, lastIn, enters, final⟩ := place_eq_ok ends clear found
  exact ⟨_, (named?_eq_some_iff ends).mpr ⟨fault, short_of_walk final, _, enters, rfl⟩⟩

/-- **Where a path leads whose name is not that of a link**: to what stands under its name. -/
theorem place_of_named {tree : FileTree} {aim : Aim} {path : Path} {steps : List Step}
    {name : FileName} (ends : path.EndsIn steps name)
    (clear : aim = .file → path.hasTrailingSeparator = false) {location : Location}
    (named : tree.named? path = some location)
    (plain : ∀ target, tree.node? location ≠ some (.link target)) :
    tree.place aim path = .ok (if (tree.node? location).isSome then .occupied location
      else .vacant location.dropLast name) := by
  obtain ⟨fault, short, directory, enters, rfl⟩ := (named?_eq_some_iff ends).mp named
  obtain ⟨left, last, lastIn, rfl, found⟩ := place_of_enters ends clear fault enters
  rw [found, walk_name lastIn short, List.dropLast_concat]
  cases there : tree.node? (last.location ++ [name]) with
  | none => rfl
  | some node =>
    cases node with
    | link target => exact absurd there (plain target)
    | _ => rfl

/-- A path that leads to something names a location. -/
theorem named?_of_kind? {tree : FileTree} {path : Path} {steps : List Step} {name : FileName}
    (ends : path.EndsIn steps name) (leads : tree.kind? path ≠ none) :
    ∃ location, tree.named? path = some location := by
  unfold kind? at leads
  cases found : tree.place .target path with
  | error cause =>
    rw [found] at leads
    exact absurd rfl leads
  | ok place => exact named?_of_place ends (by simp) found

theorem fault?_of_kind? {tree : FileTree} {path : Path} (leads : tree.kind? path ≠ none) :
    path.fault? = none := by
  cases fault : path.fault? with
  | none => rfl
  | some cause =>
    have nowhere : tree.kind? path = none := by rw [kind?, place, fault]
    exact absurd nowhere leads

/-- **What a path leads to whose name is not that of a link.** -/
theorem kind?_of_named {tree : FileTree} {path : Path} {steps : List Step} {name : FileName}
    (ends : path.EndsIn steps name) {location : Location}
    (named : tree.named? path = some location)
    (plain : ∀ target, tree.node? location ≠ some (.link target)) :
    tree.kind? path = (tree.node? location).bind Node.kind? := by
  unfold kind?
  rw [@place_of_named tree .target path steps name ends (by simp) location named plain]
  cases there : tree.node? location with
  | none => rfl
  | some node => cases node <;> simp [there, Node.kind?]

/-- **Where a path names neither a file nor a link, a file can only be written to a free name.** -/
theorem writeFile_eq_ok {tree after : FileTree} {path : Path} {steps : List Step}
    {name : FileName} {bytes : ByteArray} (ends : path.EndsIn steps name)
    (clear : path.hasTrailingSeparator = false)
    (nothing : ∀ location, tree.entryAt path ≠ .ok location)
    (written : tree.writeFile path bytes = .ok after) :
    ∃ directory, Enters tree maxLinks [] steps directory ∧ name.isTooLong = false ∧
      path.fault? = none ∧ tree.node? (directory ++ [name]) = none ∧
        after = tree.put (directory ++ [name]) (.file bytes) := by
  unfold writeFile at written
  cases found : tree.place .file path with
  | error cause =>
    rw [found] at written
    exact absurd written (by simp [bind, Except.bind])
  | ok place =>
    rw [found] at written
    obtain ⟨fault, left, last, lastIn, enters, final⟩ := place_eq_ok ends (fun _ => clear) found
    have short := short_of_walk final
    rw [walk_name lastIn short] at final
    have named := (named?_eq_some_iff ends).mpr ⟨fault, short, _, enters, rfl⟩
    refine ⟨last.location, enters, short, fault, ?_⟩
    cases there : tree.node? (last.location ++ [name]) with
    | none =>
      rw [there] at final
      obtain rfl := Except.ok.inj final
      exact ⟨rfl, (Except.ok.inj written).symm⟩
    | some node =>
      cases node with
      | directory =>
        rw [there] at final
        obtain rfl := Except.ok.inj final
        simp only [bind, Except.bind, there] at written
        exact absurd written (by simp [throw, throwThe, MonadExceptOf.throw])
      | file bytes =>
        exact absurd ((entryAt_eq_ok_iff ends).mpr ⟨named, _, there, by simp⟩) (nothing _)
      | link target =>
        exact absurd ((entryAt_eq_ok_iff ends).mpr ⟨named, _, there, by simp⟩) (nothing _)

theorem named?_of_targetAt {tree : FileTree} {source location : Location} {path : Path}
    (found : tree.targetAt source path = .ok location) :
    tree.named? path = some location ∧ tree.node? location ≠ some .directory := by
  simp only [targetAt, bind, Except.bind] at found
  split at found
  · exact absurd found (by simp)
  · rename_i last eq
    split at found
    · rename_i directory name
      split at found
      · exact absurd found (by simp [throw, throwThe, MonadExceptOf.throw])
      · split at found
        · exact absurd found (by simp [throw, throwThe, MonadExceptOf.throw])
        · rename_i other
          obtain rfl := Except.ok.inj found
          refine ⟨named?_eq_some_of_lastEntry.mpr ⟨directory, name, eq, rfl⟩, ?_⟩
          rwa [isDirectory_iff] at other
    · exact absurd found (by simp [throw, throwThe, MonadExceptOf.throw])

/-- **A file that was moved stands where the target names.** -/
theorem moveFile_eq_ok {tree after : FileTree} {source target : Path}
    (moved : tree.moveFile source target = .ok after) :
    ∃ old new node, tree.entryAt source = .ok old ∧ tree.named? target = some new ∧
      tree.node? new ≠ some .directory ∧ tree.node? old = some node ∧
        after = (tree.remove old).put new node := by
  simp only [moveFile, bind, Except.bind] at moved
  split at moved
  · exact absurd moved (by simp [throw, throwThe, MonadExceptOf.throw])
  · split at moved
    · exact absurd moved (by simp)
    · rename_i old from_
      split at moved
      · exact absurd moved (by simp)
      · rename_i new to_
        split at moved
        · rename_i node there
          obtain ⟨named, other⟩ := named?_of_targetAt to_
          exact ⟨old, new, node, from_, named, other, there, (Except.ok.inj moved).symm⟩
        · exact absurd moved (by simp)

/-! ## 4. When writing and moving succeed -/

/-- **A file is written under the name that its path ends in**, unless a directory has this name. -/
theorem writeFile_of_named {tree : FileTree} {path : Path} {steps : List Step} {name : FileName}
    (ends : path.EndsIn steps name) (clear : path.hasTrailingSeparator = false)
    {location : Location} (named : tree.named? path = some location)
    (plain : ∀ target, tree.node? location ≠ some (.link target)) (bytes : ByteArray) :
    tree.writeFile path bytes =
      if tree.isDirectory location then .error .isDirectory
      else .ok (tree.put location (.file bytes)) := by
  have last : location.dropLast ++ [name] = location := by
    obtain ⟨-, -, directory, -, rfl⟩ := (named?_eq_some_iff ends).mp named
    rw [List.dropLast_concat]
  unfold writeFile
  rw [place_of_named ends (fun _ => clear) named plain]
  simp only [bind, Except.bind]
  unfold isDirectory
  cases there : tree.node? location with
  | none => exact congrArg (fun l => Except.ok (tree.put l (.file bytes))) last
  | some node =>
    cases node with
    | link target => exact absurd there (plain target)
    | _ => simp [there, throw, throwThe, MonadExceptOf.throw, pure, Except.pure]

/-- A file can be written only where the path names a location. -/
theorem named?_of_writeFile {tree after : FileTree} {path : Path} {steps : List Step}
    {name : FileName} {bytes : ByteArray} (ends : path.EndsIn steps name)
    (clear : path.hasTrailingSeparator = false)
    (written : tree.writeFile path bytes = .ok after) :
    ∃ location, tree.named? path = some location := by
  unfold writeFile at written
  cases found : tree.place .file path with
  | error cause =>
    rw [found] at written
    exact absurd written (by simp [bind, Except.bind])
  | ok place => exact named?_of_place ends (fun _ => clear) found

/-- Where a path names no location, nothing is written, and there is nothing to remove. -/
theorem fails_of_nowhere {tree : FileTree} {path : Path} {steps : List Step} {name : FileName}
    (ends : path.EndsIn steps name) (clear : path.hasTrailingSeparator = false)
    (nowhere : tree.named? path = none) (bytes : ByteArray) :
    (∃ cause, tree.writeFile path bytes = .error cause) ∧
      ∃ cause, tree.removeFile path = .error cause := by
  constructor
  · cases written : tree.writeFile path bytes with
    | error cause => exact ⟨cause, rfl⟩
    | ok after =>
      obtain ⟨location, named⟩ := named?_of_writeFile ends clear written
      rw [nowhere] at named
      exact absurd named (by simp)
  · unfold removeFile
    cases there : tree.entryAt path with
    | error cause => exact ⟨cause, rfl⟩
    | ok location =>
      have named := ((entryAt_eq_ok_iff ends).mp there).1
      rw [nowhere] at named
      exact absurd named (by simp)

theorem targetAt_eq_ok_iff {tree : FileTree} {source location : Location} {path : Path}
    (clear : path.hasTrailingSeparator = false) :
    tree.targetAt source path = .ok location ↔
      tree.named? path = some location ∧ tree.node? location ≠ some .directory := by
  refine ⟨named?_of_targetAt, ?_⟩
  rintro ⟨named, other⟩
  obtain ⟨directory, name, last, rfl⟩ := named?_eq_some_of_lastEntry.mp named
  rw [ne_eq, ← isDirectory_iff] at other
  simp only [targetAt, bind, Except.bind, last, clear, if_neg other]
  rfl

theorem faultIn?_eq_none_iff {paths : List Path} :
    Path.faultIn? paths = none ↔ ∀ path ∈ paths, path.fault? = none := by
  have faults : paths.filterMap Path.fault? = [] ↔ ∀ path ∈ paths, path.fault? = none :=
    List.filterMap_eq_nil_iff
  rw [← faults]
  unfold Path.faultIn?
  dsimp only
  split
  · rename_i mem
    constructor
    · intro h
      exact absurd h (by simp)
    · intro none
      rw [none] at mem
      exact absurd mem (by simp)
  · exact List.head?_eq_none_iff

/-- **When a file or link is moved, and what becomes of the tree.** -/
theorem moveFile_eq_ok_iff {tree after : FileTree} {source target : Path}
    (clear : target.hasTrailingSeparator = false) :
    tree.moveFile source target = .ok after ↔
      (source.fault? = none ∧ target.fault? = none) ∧
      ∃ old new node, tree.entryAt source = .ok old ∧ tree.named? target = some new ∧
        tree.node? new ≠ some .directory ∧ tree.node? old = some node ∧
          after = (tree.remove old).put new node := by
  have faults : Path.faultIn? [source, target] = none ↔
      source.fault? = none ∧ target.fault? = none := by
    rw [faultIn?_eq_none_iff]
    simp
  constructor
  · intro moved
    refine ⟨faults.mp ?_, moveFile_eq_ok moved⟩
    cases fault : Path.faultIn? [source, target] with
    | none => rfl
    | some cause =>
      simp only [moveFile, fault] at moved
      exact absurd moved (by simp [throw, throwThe, MonadExceptOf.throw, bind, Except.bind])
  · rintro ⟨clean, old, new, node, from_, named, other, there, rfl⟩
    have to_ : tree.targetAt old target = .ok new := (targetAt_eq_ok_iff clear).mpr ⟨named, other⟩
    simp only [moveFile, faults.mpr clean, from_, to_, there, bind, Except.bind, pure, Except.pure]

end FileTree

end SinglePage
