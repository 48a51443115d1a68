/-
# Entering directories

Most of a path only leads from one directory into another.  `Enters` says so by locations alone,
without the spots that `walk` keeps on its way and whatever the path is followed for, so it can be
carried over from one tree to another: whoever keeps the directories and the links keeps the
way.

* `walk_of_enters`, `enters_of_walk`: entering directories is what `walk` does as long as there are
  steps left;
* `Enters.mono`: the way stays in a tree with the same directories and links;
* `Enters.split`, `Enters.unique`: steps are taken one after the other, and lead to one place only;
* `Enters.sameWay`: steps that lead nowhere do not count;
* `directoryAt_eq_ok_iff`, `lastEntry_eq_ok_iff`: finding a directory, and the last name of a path,
  are entering directories.
-/
import SinglePage.FileSystem.Access
import SinglePage.Proofs.FileSystem.PathSteps

namespace SinglePage

/-! ## 1. Spots by their locations -/

namespace Spot

theorem location_down (spot : Spot) (name : FileName) (entries : List (FileName × Item)) :
    (spot.down name entries).location = spot.location ++ [name] := by
  simp [location, down]

theorem location_up (spot : Spot) : spot.up.location = spot.location.dropLast := by
  obtain ⟨entries, around⟩ := spot
  cases around with
  | nil => rfl
  | cons outer around => simp [location, up]

/-- What stands at a name in a spot is an entry of the spot. -/
theorem lookup_of_node? {tree : FileTree} {spot : Spot} (inside : spot.In tree) {name : FileName}
    {node : Node} (there : tree.node? (spot.location ++ [name]) = some node) :
    ∃ item, SortedMap.lookup name spot.entries = some item ∧ item.node = node := by
  rw [node?_location inside] at there
  exact Option.map_eq_some_iff.mp there

theorem node?_of_lookup {tree : FileTree} {spot : Spot} (inside : spot.In tree) {name : FileName}
    {item : Item} (found : SortedMap.lookup name spot.entries = some item) :
    tree.node? (spot.location ++ [name]) = some item.node := by
  rw [node?_location inside, found]
  rfl

end Spot

/-! ## 2. Entering -/

/-- **Steps lead from one directory into another**, through no more than `links` links. -/
inductive Enters (tree : FileTree) : Nat → Location → List Step → Location → Prop where
  | stop {links : Nat} {directory : Location} : Enters tree links directory [] directory
  | here {links : Nat} {directory place : Location} {steps : List Step}
      (rest : Enters tree links directory steps place) :
      Enters tree links directory (.here :: steps) place
  | up {links : Nat} {directory place : Location} {steps : List Step}
      (rest : Enters tree links directory.dropLast steps place) :
      Enters tree links directory (.up :: steps) place
  | down {links : Nat} {directory place : Location} {name : FileName} {steps : List Step}
      (short : name.isTooLong = false)
      (there : tree.node? (directory ++ [name]) = some .directory)
      (rest : Enters tree links (directory ++ [name]) steps place) :
      Enters tree links directory (.down name :: steps) place
  | link {links : Nat} {directory place : Location} {name : FileName} {target : Path}
      {steps : List Step} (short : name.isTooLong = false)
      (there : tree.node? (directory ++ [name]) = some (.link target))
      (rest : Enters tree links (if target.isAbsolute then [] else directory)
        (target.steps ++ steps) place) :
      Enters tree (links + 1) directory (.down name :: steps) place

namespace Enters

/-- **The way stays in a tree that keeps the directories and the links.** -/
theorem mono {a b : FileTree} (directories : ∀ location, a.node? location = some .directory →
      b.node? location = some .directory)
    (links : ∀ location target, a.node? location = some (.link target) →
      b.node? location = some (.link target))
    {n : Nat} {directory place : Location} {steps : List Step}
    (enters : Enters a n directory steps place) : Enters b n directory steps place := by
  induction enters with
  | stop => exact .stop
  | here _ ih => exact .here ih
  | up _ ih => exact .up ih
  | down short there _ ih => exact .down short (directories _ there) ih
  | link short there _ ih => exact .link short (links _ _ there) ih

/-- From a directory, directories are entered. -/
theorem isDirectory {tree : FileTree} {links : Nat} {directory place : Location}
    {steps : List Step} (enters : Enters tree links directory steps place)
    (start : tree.node? directory = some .directory) : tree.node? place = some .directory := by
  induction enters with
  | stop => exact start
  | here _ ih => exact ih start
  | up _ ih => exact ih (FileTree.node?_dropLast (by rw [start]; rfl))
  | down _ there _ ih => exact ih there
  | link _ _ _ ih =>
    refine ih ?_
    split
    · exact tree.node?_root
    · exact start

/-- One more name at the end. -/
theorem snoc {tree : FileTree} {links : Nat} {directory place : Location} {steps : List Step}
    {name : FileName} (enters : Enters tree links directory steps place)
    (short : name.isTooLong = false)
    (there : tree.node? (place ++ [name]) = some .directory) :
    Enters tree links directory (steps ++ [.down name]) (place ++ [name]) := by
  induction enters with
  | stop => exact .down short there .stop
  | here _ ih => exact .here (ih there)
  | up _ ih => exact .up (ih there)
  | down short' there' _ ih => exact .down short' there' (ih there)
  | link short' there' _ ih =>
    have rest := ih there
    rw [List.append_assoc] at rest
    exact .link short' there' rest

/-- Some steps and others behind them are taken one after the other. -/
theorem split {tree : FileTree} {links : Nat} {directory place : Location}
    {steps front rest : List Step} (enters : Enters tree links directory steps place)
    (whole : steps = front ++ rest) :
    ∃ (left : Nat) (between : Location), Enters tree links directory front between ∧
      Enters tree left between rest place := by
  induction enters generalizing front with
  | @stop links directory =>
    obtain ⟨rfl, rfl⟩ := List.append_eq_nil_iff.mp whole.symm
    exact ⟨links, directory, .stop, .stop⟩
  | @here links directory place steps enters ih =>
    rcases List.cons_eq_append_iff.mp whole with ⟨rfl, rfl⟩ | ⟨front', rfl, eq⟩
    · exact ⟨links, directory, .stop, .here enters⟩
    · obtain ⟨left, between, first, second⟩ := ih eq
      exact ⟨left, between, .here first, second⟩
  | @up links directory place steps enters ih =>
    rcases List.cons_eq_append_iff.mp whole with ⟨rfl, rfl⟩ | ⟨front', rfl, eq⟩
    · exact ⟨links, directory, .stop, .up enters⟩
    · obtain ⟨left, between, first, second⟩ := ih eq
      exact ⟨left, between, .up first, second⟩
  | @down links directory place name steps short there enters ih =>
    rcases List.cons_eq_append_iff.mp whole with ⟨rfl, rfl⟩ | ⟨front', rfl, eq⟩
    · exact ⟨links, directory, .stop, .down short there enters⟩
    · obtain ⟨left, between, first, second⟩ := ih eq
      exact ⟨left, between, .down short there first, second⟩
  | @link links directory place name target steps short there enters ih =>
    rcases List.cons_eq_append_iff.mp whole with ⟨rfl, rfl⟩ | ⟨front', rfl, eq⟩
    · exact ⟨links + 1, directory, .stop, .link short there enters⟩
    · have behind : target.steps ++ steps = (target.steps ++ front') ++ rest := by
        rw [eq, List.append_assoc]
      obtain ⟨left, between, first, second⟩ := ih behind
      exact ⟨left, between, .link short there first, second⟩

/-- Steps lead to one directory only. -/
theorem unique {tree : FileTree} {links : Nat} {directory place other : Location}
    {steps : List Step} (enters : Enters tree links directory steps place)
    (enters' : Enters tree links directory steps other) : place = other := by
  induction enters with
  | stop =>
    cases enters' with
    | stop => rfl
  | here _ ih =>
    cases enters' with
    | here rest => exact ih rest
  | up _ ih =>
    cases enters' with
    | up rest => exact ih rest
  | down short there _ ih =>
    cases enters' with
    | down _ _ rest => exact ih rest
    | link _ there' _ =>
      rw [there] at there'
      exact absurd there' (by simp)
  | link short there _ ih =>
    cases enters' with
    | down _ there' _ =>
      rw [there] at there'
      exact absurd there' (by simp)
    | link _ there' rest =>
      rw [there] at there'
      obtain rfl := Node.link.inj (Option.some.inj there')
      exact ih rest

/-! ## 3. Steps that lead nowhere -/

theorem of_heres {tree : FileTree} {links : Nat} {directory place : Location}
    {steps : List Step} : ∀ {idle : List Step}, (∀ step ∈ idle, step = .here) →
      Enters tree links directory steps place → Enters tree links directory (idle ++ steps) place
  | [], _, enters => enters
  | step :: idle, heres, enters => by
    obtain rfl := heres step (by simp)
    exact .here (of_heres (fun step mem => heres step (List.mem_cons_of_mem _ mem)) enters)

/-- Steps whose first one that leads anywhere is known. -/
theorem split_of_sameWay {steps others : List Step} {step : Step} (leads : step ≠ .here)
    (same : SameWay others (step :: steps)) :
    ∃ idle behind, others = idle ++ step :: behind ∧ (∀ step ∈ idle, step = .here) ∧
      SameWay behind steps := by
  rw [SameWay, List.filter_cons_of_pos (by simpa using leads)] at same
  obtain ⟨idle, behind, rfl, heres, -, rest⟩ := List.filter_eq_cons_iff.mp same
  exact ⟨idle, behind, rfl, fun step mem => by simpa using heres step mem, rest⟩

/-- **Steps that lead nowhere do not count.** -/
theorem sameWay {tree : FileTree} {links : Nat} {directory place : Location}
    {steps others : List Step} (enters : Enters tree links directory steps place)
    (same : SameWay others steps) : Enters tree links directory others place := by
  induction enters generalizing others with
  | stop =>
    have heres : ∀ step ∈ others, step = .here := by
      have none : others.filter (· ≠ .here) = [] := same
      simpa using List.filter_eq_nil_iff.mp none
    rw [← List.append_nil others]
    exact of_heres heres .stop
  | here _ ih => exact ih (same.trans (by simp [SameWay]))
  | up _ ih =>
    obtain ⟨idle, behind, rfl, heres, rest⟩ := split_of_sameWay (by simp) same
    exact of_heres heres (.up (ih rest))
  | down short there _ ih =>
    obtain ⟨idle, behind, rfl, heres, rest⟩ := split_of_sameWay (by simp) same
    exact of_heres heres (.down short there (ih rest))
  | link short there _ ih =>
    obtain ⟨idle, behind, rfl, heres, rest⟩ := split_of_sameWay (by simp) same
    refine of_heres heres (.link short there (ih ?_))
    exact SameWay.append rfl rest

end Enters

/-! ## 4. Walking -/

namespace FileTree

/-- With steps left to take, or when anything can be at the end, the path of a link is taken like
any other steps. -/
theorem walkPath_onward {aim : Aim} {jump : Path → Spot → List Step → Except FileError Place}
    {spot : Spot} {path : Path} {steps : List Step} (onward : steps ≠ [] ∨ aim = .target) :
    walkPath aim jump spot path steps = walk aim jump spot (path.steps ++ steps) := by
  refine if_neg ?_
  rintro ⟨rfl, rfl, -⟩
  simp at onward

/-- A link with steps behind it is followed. -/
theorem onward_behind {aim : Aim} {s rest : List Step} (onward : rest ≠ [] ∨ aim = .target) :
    ¬(s ++ rest = [] ∧ aim = .entry) ∧ (s ++ rest ≠ [] ∨ aim = .target) := by
  rcases onward with more | rfl
  · have more' : s ++ rest ≠ [] := by simp [more]
    exact ⟨fun none => more' none.1, .inl more'⟩
  · exact ⟨by simp, .inr rfl⟩

/-- Where a link is followed from. -/
theorem start_in {tree : FileTree} {spot : Spot} (inside : spot.In tree) (target : Path) :
    (if target.isAbsolute then Spot.root tree else spot).In tree := by
  split
  · exact Spot.root_in tree
  · exact inside

theorem location_start (tree : FileTree) (spot : Spot) (target : Path) :
    (if target.isAbsolute then Spot.root tree else spot).location =
      if target.isAbsolute then [] else spot.location := by
  split <;> rfl

/-- **Directories are entered, whatever the path is followed for**, and from the last of them the
steps that are left are taken. -/
theorem walk_of_enters {tree : FileTree} {aim : Aim} {rest : List Step}
    (onward : rest ≠ [] ∨ aim = .target) {links : Nat} {directory place : Location}
    {steps : List Step} (enters : Enters tree links directory steps place) :
    ∀ {spot : Spot}, spot.In tree → spot.location = directory →
      ∃ (left : Nat) (last : Spot), last.In tree ∧ last.location = place ∧
        walk aim (tree.jump aim links) spot (steps ++ rest) =
          walk aim (tree.jump aim left) last rest := by
  induction enters with
  | @stop links directory =>
    intro spot inside at_
    exact ⟨links, spot, inside, at_, rfl⟩
  | here _ ih =>
    intro spot inside at_
    rw [List.cons_append, walk]
    exact ih inside at_
  | up _ ih =>
    intro spot inside at_
    rw [List.cons_append, walk]
    exact ih (Spot.up_in inside) (by rw [Spot.location_up, at_])
  | down short there _ ih =>
    rintro spot inside rfl
    obtain ⟨item, found, isDirectory⟩ := Spot.lookup_of_node? inside there
    rw [Item.eq_directory_of_node isDirectory] at found
    rw [List.cons_append, walk, short, found]
    exact ih (Spot.down_in inside found) (Spot.location_down ..)
  | @link links directory place name target steps short there _ ih =>
    rintro spot inside rfl
    obtain ⟨item, found, isLink⟩ := Spot.lookup_of_node? inside there
    obtain rfl : item = .link target := by
      cases item <;> simp_all [Item.node]
    obtain ⟨follow, onward'⟩ := onward_behind (s := steps) onward
    rw [List.cons_append, walk, short, found]
    dsimp only
    rw [if_neg follow, jump, walkPath_onward onward', ← List.append_assoc]
    exact ih (start_in inside target) (location_start tree spot target)

/-- **If a path leads anywhere, all its steps but the last ones enter directories**, and so do the
last ones, if what they lead to is a directory. -/
theorem enters_of_walk {tree : FileTree} {aim : Aim} {rest : List Step} {found : Place}
    (onward : rest ≠ [] ∨ aim = .target ∧ ∃ location, tree.asDirectory found = .ok location) :
    ∀ {links : Nat} {steps : List Step} {spot : Spot}, spot.In tree →
      walk aim (tree.jump aim links) spot (steps ++ rest) = .ok found →
        ∃ (left : Nat) (last : Spot), last.In tree ∧
          Enters tree links spot.location steps last.location ∧
            walk aim (tree.jump aim left) last rest = .ok found
  | links, [], spot, inside, h => ⟨links, spot, inside, .stop, h⟩
  | links, .here :: steps, spot, inside, h => by
    rw [List.cons_append, walk] at h
    obtain ⟨left, last, lastIn, enters, ends⟩ := enters_of_walk onward inside h
    exact ⟨left, last, lastIn, .here enters, ends⟩
  | links, .up :: steps, spot, inside, h => by
    rw [List.cons_append, walk] at h
    obtain ⟨left, last, lastIn, enters, ends⟩ := enters_of_walk onward (Spot.up_in inside) h
    rw [Spot.location_up] at enters
    exact ⟨left, last, lastIn, .up enters, ends⟩
  | links, .down name :: steps, spot, inside, h => by
    rw [List.cons_append, walk] at h
    split at h
    · exact absurd h (by simp)
    · rename_i short
      have short : name.isTooLong = false := by simpa using short
      split at h
      · rename_i free
        split at h
        · rename_i none
          obtain rfl := Except.ok.inj h
          exact absurd onward (by simp_all [asDirectory])
        · exact absurd h (by simp)
      · rename_i entries isDirectory
        have there := Spot.node?_of_lookup inside isDirectory
        obtain ⟨left, last, lastIn, enters, ends⟩ :=
          enters_of_walk onward (Spot.down_in inside isDirectory) h
        rw [Spot.location_down] at enters
        exact ⟨left, last, lastIn, .down short there enters, ends⟩
      · rename_i bytes isFile
        have there := Spot.node?_of_lookup inside isFile
        split at h
        · rename_i none
          obtain rfl := Except.ok.inj h
          exact absurd onward (by simp_all [asDirectory, isDirectory, Item.node])
        · exact absurd h (by simp)
      · rename_i target isLink
        have there := Spot.node?_of_lookup inside isLink
        obtain ⟨follow, onward'⟩ :=
          onward_behind (s := steps) (onward.imp_right fun target => target.1)
        rw [if_neg follow] at h
        cases links with
        | zero => exact absurd h (by simp [jump])
        | succ links =>
          rw [jump, walkPath_onward onward', ← List.append_assoc] at h
          obtain ⟨left, last, lastIn, enters, ends⟩ :=
            enters_of_walk onward (start_in inside target) h
          rw [location_start] at enters
          exact ⟨left, last, lastIn, .link short there enters, ends⟩
termination_by links steps => (links, steps.length)

/-! ## 5. Paths to directories -/

theorem asDirectory_eq_ok_iff {tree : FileTree} {place : Place} {location : Location} :
    tree.asDirectory place = .ok location ↔
      place = .occupied location ∧ tree.node? location = some .directory := by
  cases place with
  | vacant directory name => simp [asDirectory]
  | occupied there =>
    simp only [asDirectory, Place.occupied.injEq, ← isDirectory_iff]
    split
    · rename_i isDirectory
      constructor
      · intro h
        obtain rfl := Except.ok.inj h
        exact ⟨rfl, isDirectory⟩
      · rintro ⟨rfl, -⟩
        rfl
    · rename_i other
      constructor
      · intro h
        exact absurd h (by simp)
      · rintro ⟨rfl, isDirectory⟩
        exact absurd isDirectory other

/-- **Finding a directory is entering directories.** -/
theorem walk_directory_iff {tree : FileTree} {links : Nat} {steps : List Step}
    {location : Location} :
    (walk .target (tree.jump .target links) (.root tree) steps >>= tree.asDirectory) =
      .ok location ↔ Enters tree links [] steps location := by
  constructor
  · intro h
    cases found : walk .target (tree.jump .target links) (.root tree) steps with
    | error cause =>
      rw [found] at h
      exact absurd h (by simp [bind, Except.bind])
    | ok place =>
      rw [found] at h
      have isDirectory : tree.asDirectory place = .ok location := h
      rw [← List.append_nil steps] at found
      obtain ⟨left, last, lastIn, enters, ends⟩ :=
        enters_of_walk (.inr ⟨rfl, location, isDirectory⟩) (Spot.root_in tree) found
      rw [walk] at ends
      obtain rfl := Except.ok.inj ends
      obtain ⟨same, -⟩ := asDirectory_eq_ok_iff.mp isDirectory
      rw [← Place.occupied.inj same]
      exact enters
  · intro enters
    obtain ⟨left, last, lastIn, rfl, ends⟩ :=
      @walk_of_enters tree .target [] (.inr rfl) _ _ _ _ enters _ (Spot.root_in tree) rfl
    rw [List.append_nil, walk] at ends
    rw [ends]
    exact asDirectory_eq_ok_iff.mpr ⟨rfl, Spot.node?_self lastIn⟩

theorem directoryAt_eq_ok_iff {tree : FileTree} {path : Path} {location : Location} :
    tree.directoryAt path = .ok location ↔
      path.fault? = none ∧ Enters tree maxLinks [] path.steps location := by
  have steps : tree.directoryAt path = tree.place .target path >>= tree.asDirectory := rfl
  rw [steps, place]
  cases path.fault? with
  | some cause => simp [bind, Except.bind]
  | none =>
    rw [← walk_directory_iff, walkPath_onward (.inr rfl), List.append_nil]
    simp

/-- What is done to look up the last name of a path. -/
theorem lastEntry_eq {tree : FileTree} {path : Path} (fault : path.fault? = none) :
    tree.lastEntry path =
      (walk .target (tree.jump .target maxLinks) (.root tree) path.namedSteps.dropLast >>=
        tree.asDirectory) >>= fun directory =>
          match path.namedSteps.getLast? with
          | some (.down name) =>
            if name.isTooLong then .error .nameTooLong else .ok (directory, some name)
          | _ => .ok (directory, none) := by
  simp only [lastEntry, fault, bind_assoc]
  rfl

/-- **Looking up the last name of a path is entering the directories in front of it.** -/
theorem lastEntry_eq_ok_iff {tree : FileTree} {path : Path} {directory : Location}
    {name : FileName} :
    tree.lastEntry path = .ok (directory, some name) ↔
      path.fault? = none ∧ Enters tree maxLinks [] path.namedSteps.dropLast directory ∧
        path.namedSteps.getLast? = some (.down name) ∧ name.isTooLong = false := by
  rw [← walk_directory_iff]
  cases fault : path.fault? with
  | some cause =>
    have fails : tree.lastEntry path = .error cause := by
      simp only [lastEntry, fault]
      rfl
    simp [fails]
  | none =>
    rw [lastEntry_eq fault]
    cases walk .target (tree.jump .target maxLinks) (.root tree) path.namedSteps.dropLast >>=
      tree.asDirectory with
    | error cause => simp [bind, Except.bind]
    | ok there =>
      simp only [bind, Except.bind, true_and, Except.ok.injEq]
      split
      · rename_i last eq
        rw [eq]
        by_cases long : last.isTooLong = true
        · rw [if_pos long]
          simp only [Option.some.injEq, Step.down.injEq, reduceCtorEq, false_iff, not_and]
          rintro - rfl
          simp [long]
        · rw [if_neg long]
          simp only [Option.some.injEq, Step.down.injEq, Except.ok.injEq, Prod.mk.injEq]
          constructor
          · rintro ⟨rfl, rfl⟩
            exact ⟨rfl, rfl, by simpa using long⟩
          · rintro ⟨rfl, rfl, -⟩
            exact ⟨rfl, rfl⟩
      · rename_i other
        constructor
        · intro h
          exact absurd (congrArg Prod.snd (Except.ok.inj h)) (by simp)
        · rintro ⟨-, last, -⟩
          exact absurd last (other name)

end FileTree

end SinglePage
