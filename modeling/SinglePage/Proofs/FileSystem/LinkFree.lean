/-
# Trees without links

In a tree without links, a path that never goes up spells out where it leads: the names in it are
the names on the way (`Path.location`).  Whether it leads there depends on the path alone, which
must not be too long (`Path.Fits`), and on what stands at this location.  So each operation on
files comes to a condition on the path and a look at the location.

* `node?_above`: whatever stands in a tree stands below directories only;
* `enters_iff`: the directory that some steps lead to;
* `directoryAt_iff`, `named?_iff`, `kind?_iff`, `readFile_iff`: what is found at a path;
* `writeFile_iff`, `moveFile_iff`: when a file can be written or moved, and what becomes of the
  tree;
* `replace_iff`: both, one behind the other.
-/
import Mathlib.Data.List.Basic
import Mathlib.Data.List.Induction
import SinglePage.Proofs.FileSystem.Replacing

namespace SinglePage

/-! ## 1. Locations that paths spell out -/

/-- The name that a step leads down to. -/
def Step.name? : Step → Option FileName
  | .down name => some name
  | _ => none

/-- The names on a way. -/
def namesOn (steps : List Step) : Location := steps.filterMap Step.name?

theorem namesOn_append (front rest : List Step) :
    namesOn (front ++ rest) = namesOn front ++ namesOn rest :=
  List.filterMap_append

theorem namesOn_filter (way : List Step) : namesOn (way.filter (· ≠ .here)) = namesOn way := by
  rw [namesOn, List.filterMap_filter]
  refine List.filterMap_congr fun step _ => ?_
  cases step <;> rfl

theorem SameWay.namesOn {steps others : List Step} (same : SameWay steps others) :
    namesOn steps = namesOn others := by
  rw [← namesOn_filter steps, same, namesOn_filter]

theorem SameWay.up_mem_iff {steps others : List Step} (same : SameWay steps others) :
    .up ∈ steps ↔ .up ∈ others := by
  have kept : ∀ way : List Step, .up ∈ way ↔ .up ∈ way.filter (· ≠ .here) := by simp
  rw [kept, same, ← kept]

namespace Path

/-- **The location that a path spells out**: its names, one inside the other. -/
def location (path : Path) : Location := namesOn path.steps

/-- **Nothing is too long**: neither the path nor a name in it. -/
def Fits (path : Path) : Prop :=
  path.fault? = none ∧ ∀ name ∈ path.location, name.isTooLong = false

theorem EndsIn.location {path : Path} {steps : List Step} {name : FileName}
    (ends : path.EndsIn steps name) : path.location = namesOn steps ++ [name] := by
  rw [Path.location, ends, namesOn_append]
  rfl

theorem EndsIn.up_notMem {path : Path} {steps : List Step} {name : FileName}
    (ends : path.EndsIn steps name) (down : .up ∉ path.steps) : .up ∉ steps := fun mem =>
  down (by rw [ends]; exact List.mem_append_left _ mem)

theorem steps_join (path : Path) (name : FileName) :
    SameWay (path.join name.text).steps (path.steps ++ [.down name]) := by
  obtain ⟨steps, ends, same⟩ := path.endsIn_join name
  rw [ends]
  exact same.append rfl

theorem location_join (path : Path) (name : FileName) :
    (path.join name.text).location = path.location ++ [name] := by
  rw [location, (path.steps_join name).namesOn, namesOn_append]
  rfl

theorem up_notMem_join {path : Path} (down : .up ∉ path.steps) (name : FileName) :
    .up ∉ (path.join name.text).steps := by
  rw [(path.steps_join name).up_mem_iff]
  simp [down]

theorem up_notMem_descend {path : Path} (down : .up ∉ path.steps) (names : List FileName) :
    .up ∉ (path.descend names).steps := by
  induction names generalizing path with
  | nil => exact down
  | cons name names ih => exact ih (up_notMem_join down name)

end Path

namespace FileTree

/-- **There are no links in the tree.** -/
def LinkFree (tree : FileTree) : Prop :=
  ∀ location target, tree.node? location ≠ some (.link target)

theorem linkFree_empty : empty.LinkFree := by
  intro location target there
  cases location with
  | nil => exact absurd there (by simp [node?_root])
  | cons name below =>
    have vacant : empty.node? (name :: below) = none := rfl
    exact absurd there (by simp [vacant])

theorem LinkFree.put {tree : FileTree} (free : tree.LinkFree) {location : Location}
    (can : tree.canPut location = true) {node : Node} (plain : ∀ target, node ≠ .link target) :
    (tree.put location node).LinkFree := by
  intro l target there
  rw [node?_put _ can] at there
  split at there
  · exact plain target (Option.some.inj there)
  · exact free l target there

/-- **Whatever stands in a tree stands below directories only.** -/
theorem node?_above {tree : FileTree} {location below : Location} (inside : below ≠ [])
    (there : (tree.node? (location ++ below)).isSome = true) :
    tree.node? location = some .directory := by
  induction below using List.reverseRecOn with
  | nil => exact absurd rfl inside
  | append_singleton front name ih =>
    have around := node?_dropLast there
    rw [← List.append_assoc, List.dropLast_concat] at around
    by_cases direct : front = []
    · rw [← around, direct, List.append_nil]
    · exact ih direct (by rw [around]; rfl)

/-- Where no directory stands, nothing stands below. -/
theorem node?_below_of_ne {tree : FileTree} {location below : Location} (inside : below ≠ [])
    (other : tree.node? location ≠ some .directory) : tree.node? (location ++ below) = none := by
  cases found : tree.node? (location ++ below) with
  | none => rfl
  | some node => exact absurd (node?_above inside (by rw [found]; rfl)) other

/-! ## 2. Directories -/

variable {tree : FileTree}

theorem place_eq_of_enters (free : tree.LinkFree) {links : Nat} {directory place : Location}
    {steps : List Step} (enters : Enters tree links directory steps place)
    (down : .up ∉ steps) :
    place = directory ++ namesOn steps ∧ ∀ name ∈ namesOn steps, name.isTooLong = false := by
  induction enters with
  | stop => simp [namesOn]
  | here _ ih => exact ih fun mem => down (List.mem_cons_of_mem _ mem)
  | up => exact absurd List.mem_cons_self down
  | link _ there => exact absurd there (free _ _)
  | @down links directory place name steps short _ _ ih =>
    obtain ⟨rfl, shorts⟩ := ih fun mem => down (List.mem_cons_of_mem _ mem)
    have names : namesOn (.down name :: steps) = name :: namesOn steps := rfl
    rw [names]
    exact ⟨by simp, List.forall_mem_cons.mpr ⟨short, shorts⟩⟩

theorem enters_of_names {links : Nat} : ∀ {steps : List Step} {directory : Location},
    .up ∉ steps → (∀ name ∈ namesOn steps, name.isTooLong = false) →
      tree.node? (directory ++ namesOn steps) = some .directory →
        Enters tree links directory steps (directory ++ namesOn steps)
  | [], directory, _, _, _ => by
    rw [namesOn, List.filterMap_nil, List.append_nil]
    exact .stop
  | .here :: steps, _, down, short, there =>
    .here (enters_of_names (fun mem => down (List.mem_cons_of_mem _ mem)) short there)
  | .up :: _, _, down, _, _ => absurd List.mem_cons_self down
  | .down name :: steps, directory, down, short, there => by
    have names : namesOn (.down name :: steps) = name :: namesOn steps := rfl
    rw [names] at short there ⊢
    obtain ⟨short, shorts⟩ := List.forall_mem_cons.mp short
    rw [List.append_cons] at there ⊢
    have next : tree.node? (directory ++ [name]) = some .directory := by
      by_cases last : namesOn steps = []
      · rwa [last, List.append_nil] at there
      · exact node?_above last (by rw [there]; rfl)
    exact .down short next
      (enters_of_names (fun mem => down (List.mem_cons_of_mem _ mem)) shorts there)

/-- **Steps lead to the directory whose names they give.** -/
theorem enters_iff (free : tree.LinkFree) {links : Nat} {steps : List Step} (down : .up ∉ steps)
    {place : Location} :
    Enters tree links [] steps place ↔ (∀ name ∈ namesOn steps, name.isTooLong = false) ∧
      place = namesOn steps ∧ tree.node? (namesOn steps) = some .directory := by
  constructor
  · intro enters
    obtain ⟨rfl, short⟩ := place_eq_of_enters free enters down
    exact ⟨short, rfl, enters.isDirectory tree.node?_root⟩
  · rintro ⟨short, rfl, there⟩
    exact enters_of_names down short there

/-- **A path leads to the directory that it spells out.** -/
theorem directoryAt_iff (free : tree.LinkFree) {path : Path} (down : .up ∉ path.steps)
    {location : Location} :
    tree.directoryAt path = .ok location ↔
      path.Fits ∧ location = path.location ∧ tree.node? path.location = some .directory := by
  rw [directoryAt_eq_ok_iff, enters_iff free down, Path.Fits, and_assoc]
  rfl

/-! ## 3. Files -/

section Named

variable {path : Path} {steps : List Step} {name : FileName}

theorem named?_iff (free : tree.LinkFree) (ends : path.EndsIn steps name)
    (down : .up ∉ path.steps) {location : Location} :
    tree.named? path = some location ↔
      path.Fits ∧ location = path.location ∧
        tree.node? path.location.dropLast = some .directory := by
  rw [named?_eq_some_iff ends, Path.Fits, ends.location, List.dropLast_concat]
  simp only [enters_iff free (ends.up_notMem down)]
  constructor
  · rintro ⟨fault, short, directory, ⟨shorts, rfl, there⟩, rfl⟩
    exact ⟨⟨fault, by simpa [or_imp, forall_and] using ⟨shorts, short⟩⟩, rfl, there⟩
  · rintro ⟨⟨fault, short⟩, rfl, there⟩
    exact ⟨fault, short _ (by simp), _, ⟨fun name mem => short name (by simp [mem]), rfl, there⟩,
      rfl⟩

/-- Something stands only where a path of names can lead. -/
theorem named?_of_node? (free : tree.LinkFree) (ends : path.EndsIn steps name)
    (down : .up ∉ path.steps) (fits : path.Fits)
    (there : (tree.node? path.location).isSome = true) :
    tree.named? path = some path.location :=
  (named?_iff free ends down).mpr ⟨fits, rfl, node?_dropLast there⟩

/-- **What a path leads to stands at the location that it spells out.** -/
theorem kind?_iff (free : tree.LinkFree) (ends : path.EndsIn steps name) (down : .up ∉ path.steps)
    {kind : FileKind} :
    tree.kind? path = some kind ↔
      path.Fits ∧ (tree.node? path.location).bind Node.kind? = some kind := by
  constructor
  · intro leads
    obtain ⟨location, named⟩ := named?_of_kind? ends (by rw [leads]; simp)
    obtain ⟨fits, rfl, -⟩ := (named?_iff free ends down).mp named
    rw [kind?_of_named ends named (free _)] at leads
    exact ⟨fits, leads⟩
  · rintro ⟨fits, leads⟩
    have there : (tree.node? path.location).isSome = true := by
      cases found : tree.node? path.location with
      | none => simp [found] at leads
      | some node => rfl
    rw [kind?_of_named ends (named?_of_node? free ends down fits there) (free _), leads]

/-- **What is read at a path stands at the location that it spells out.** -/
theorem readFile_iff (free : tree.LinkFree) (ends : path.EndsIn steps name)
    (down : .up ∉ path.steps) {bytes : ByteArray} :
    tree.readFile path = .ok bytes ↔
      path.Fits ∧ tree.node? path.location = some (.file bytes) := by
  constructor
  · intro read
    have leads : tree.kind? path = some .file := by
      unfold readFile at read
      unfold kind?
      split at read
      · rename_i location found
        split at read
        · rename_i there
          rw [found]
          simp only [there]
        · exact absurd read (by simp)
      · exact absurd read (by simp)
      · exact absurd read (by simp)
    obtain ⟨fits, kind⟩ := (kind?_iff free ends down).mp leads
    obtain ⟨node, there, kind⟩ := Option.bind_eq_some_iff.mp kind
    cases node with
    | file content =>
      have named := named?_of_node? free ends down fits (by rw [there]; rfl)
      obtain rfl := Except.ok.inj ((readFile_of_named ends named there).symm.trans read)
      exact ⟨fits, there⟩
    | _ => simp [Node.kind?] at kind
  · rintro ⟨fits, there⟩
    exact readFile_of_named ends (named?_of_node? free ends down fits (by rw [there]; rfl)) there

/-! ## 4. Writing and moving -/

/-- **A file is written at the location that its path spells out**, unless a directory is there. -/
theorem writeFile_iff (free : tree.LinkFree) (ends : path.EndsIn steps name)
    (clear : path.hasTrailingSeparator = false) (down : .up ∉ path.steps) {bytes : ByteArray}
    {after : FileTree} :
    tree.writeFile path bytes = .ok after ↔
      path.Fits ∧ tree.node? path.location.dropLast = some .directory ∧
        tree.node? path.location ≠ some .directory ∧
          after = tree.put path.location (.file bytes) := by
  constructor
  · intro written
    obtain ⟨location, named⟩ := named?_of_writeFile ends clear written
    obtain ⟨fits, rfl, above⟩ := (named?_iff free ends down).mp named
    rw [writeFile_of_named ends clear named (free _)] at written
    split at written
    · exact absurd written (by simp)
    · rename_i other
      rw [isDirectory_iff] at other
      exact ⟨fits, above, other, (Except.ok.inj written).symm⟩
  · rintro ⟨fits, above, other, rfl⟩
    have named := (named?_iff free ends down).mpr ⟨fits, rfl, above⟩
    rw [writeFile_of_named ends clear named (free _), if_neg]
    rwa [isDirectory_iff]

end Named

section Beside

variable {temporary path : Path} {steps steps' : List Step} {name name' : FileName}

/-- **What stands at the location of one path is moved to that of another**, unless a directory is
at either. -/
theorem moveFile_iff (free : tree.LinkFree) (ends : temporary.EndsIn steps name)
    (down : .up ∉ temporary.steps) (ends' : path.EndsIn steps' name')
    (clear : path.hasTrailingSeparator = false) (down' : .up ∉ path.steps) {after : FileTree} :
    tree.moveFile temporary path = .ok after ↔
      temporary.Fits ∧ path.Fits ∧ tree.node? path.location.dropLast = some .directory ∧
        tree.node? path.location ≠ some .directory ∧
          ∃ node, tree.node? temporary.location = some node ∧ node ≠ .directory ∧
            after = (tree.remove temporary.location).put path.location node := by
  rw [moveFile_eq_ok_iff clear]
  simp only [entryAt_eq_ok_iff ends, named?_iff free ends down, named?_iff free ends' down']
  constructor
  · rintro ⟨-, _, _, node, ⟨⟨fits, rfl, -⟩, other, there, notDirectory⟩, ⟨fits', rfl, above'⟩,
      vacant, content, rfl⟩
    obtain rfl := Option.some.inj (there.symm.trans content)
    exact ⟨fits, fits', above', vacant, other, there, notDirectory, rfl⟩
  · rintro ⟨fits, fits', above', vacant, node, there, notDirectory, rfl⟩
    have something : (tree.node? temporary.location).isSome = true := by rw [there]; rfl
    have above := node?_dropLast something
    exact ⟨⟨fits.1, fits'.1⟩, _, _, node, ⟨⟨fits, rfl, above⟩, node, there, notDirectory⟩,
      ⟨fits', rfl, above'⟩, vacant, there, rfl⟩

/-- A file can be written at one location and moved to another one in the same directory. -/
structure Replaceable (tree : FileTree) (temporary path : Path) : Prop where
  fits : temporary.Fits ∧ path.Fits
  around : tree.node? path.location.dropLast = some .directory
  temporary : tree.node? temporary.location ≠ some .directory
  path : tree.node? path.location ≠ some .directory

/-- **One tree is another one with a file at a location**, and with nothing at another one. -/
def Replaced (before : FileTree) (temporary location : Location) (bytes : ByteArray)
    (after : FileTree) : Prop :=
  ∀ l, after.node? l =
    if l = location then some (.file bytes) else if l = temporary then none else before.node? l

/-- What is left when a file was written and removed: nothing at its location, and all else. -/
theorem node?_remove_put {old : Location} {bytes : ByteArray} (below : old ≠ [])
    (other : tree.node? old ≠ some .directory) (l : Location) :
    ((tree.put old (.file bytes)).remove old).node? l =
      if l = old then none else tree.node? l := by
  by_cases root : l = []
  · rw [root, if_neg below.symm]
    rfl
  · rw [node?_remove _ root]
    split
    · rename_i inside
      obtain ⟨rest, rfl⟩ := List.isPrefixOf_iff_prefix.mp inside
      split
      · rfl
      · rename_i strictly
        exact (node?_below_of_ne (fun none => strictly (by simp [none])) other).symm
    · rename_i outside
      have apart : l ≠ old := by
        rintro rfl
        exact outside (by simp)
      rw [if_neg apart, node?_put_of_ne apart]

/-- **What becomes of a tree when a file is written and moved within a directory.** -/
theorem replaced_put {old new : Location} {bytes : ByteArray} (below : old ≠ []) (below' : new ≠ [])
    (apart : new ≠ old) (beside : old ≠ new.dropLast)
    (around : tree.node? new.dropLast = some .directory)
    (notOld : tree.node? old ≠ some .directory) (notNew : tree.node? new ≠ some .directory) :
    Replaced tree old new bytes
      (((tree.put old (.file bytes)).remove old).put new (.file bytes)) := by
  have left : ∀ l, ((tree.put old (.file bytes)).remove old).node? l =
      if l = old then none else tree.node? l := node?_remove_put below notOld
  have can : ((tree.put old (.file bytes)).remove old).canPut new = true := by
    refine canPut_iff.mpr ⟨below', ?_, ?_⟩
    · rw [left, if_neg beside.symm, around]
    · rwa [left, if_neg apart]
  intro l
  rw [node?_put _ can, left]

/-- **When a file can be written and moved within a directory, and what becomes of the tree.** -/
theorem replace_iff (free : tree.LinkFree) (ends : temporary.EndsIn steps name)
    (clear : temporary.hasTrailingSeparator = false) (down : .up ∉ temporary.steps)
    (ends' : path.EndsIn steps' name') (clear' : path.hasTrailingSeparator = false)
    (down' : .up ∉ path.steps) (other : name' ≠ name) (beside : SameWay steps' steps)
    {bytes : ByteArray} {after : FileTree} :
    (∃ written, tree.writeFile temporary bytes = .ok written ∧
        written.moveFile temporary path = .ok after) ↔
      Replaceable tree temporary path ∧
        Replaced tree temporary.location path.location bytes after := by
  have way : temporary.location.dropLast = path.location.dropLast := by
    rw [ends.location, ends'.location, List.dropLast_concat, List.dropLast_concat, beside.namesOn]
  have below : temporary.location ≠ [] := by simp [ends.location]
  have below' : path.location ≠ [] := by simp [ends'.location]
  have apart : path.location ≠ temporary.location := by
    rw [ends.location, ends'.location, beside.namesOn]
    simpa using other
  have outside : temporary.location ≠ path.location.dropLast := by
    rw [← way]
    intro same
    have sizes := congrArg List.length same
    rw [List.length_dropLast] at sizes
    have := List.length_pos_iff.mpr below
    omega
  -- Where the file was written, it is found, and the rest of the directory is as it was.
  have between : tree.node? path.location.dropLast = some .directory →
      tree.node? temporary.location ≠ some .directory →
      (tree.put temporary.location (.file bytes)).LinkFree ∧
        (tree.put temporary.location (.file bytes)).node? temporary.location =
          some (.file bytes) := by
    intro around notOld
    have can : tree.canPut temporary.location = true :=
      canPut_iff.mpr ⟨below, by rw [way, around], notOld⟩
    exact ⟨free.put can (by simp), by rw [node?_put _ can, if_pos rfl]⟩
  constructor
  · rintro ⟨written, wrote, moved⟩
    obtain ⟨fits, above, notOld, rfl⟩ := (writeFile_iff free ends clear down).mp wrote
    rw [way] at above
    obtain ⟨free', there⟩ := between above notOld
    obtain ⟨-, fits', around, notNew, node, content, -, rfl⟩ :=
      (moveFile_iff free' ends down ends' clear' down').mp moved
    obtain rfl := Option.some.inj (there.symm.trans content)
    rw [node?_put_of_ne apart] at notNew
    exact ⟨⟨⟨fits, fits'⟩, above, notOld, notNew⟩,
      replaced_put below below' apart outside above notOld notNew⟩
  · rintro ⟨⟨⟨fits, fits'⟩, around, notOld, notNew⟩, replaced⟩
    obtain ⟨free', there⟩ := between around notOld
    refine ⟨_, (writeFile_iff free ends clear down).mpr ⟨fits, by rw [way, around], notOld, rfl⟩,
      (moveFile_iff free' ends down ends' clear' down').mpr
        ⟨fits, fits', ?_, ?_, _, there, by simp, ?_⟩⟩
    · rw [node?_put_of_ne outside.symm, around]
    · rwa [node?_put_of_ne apart]
    · exact ext_node? fun l => (replaced l).trans
        (replaced_put below below' apart outside around notOld notNew l).symm

end Beside

end FileTree

end SinglePage
