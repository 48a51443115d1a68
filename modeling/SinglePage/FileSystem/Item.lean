/-
# Files, links and directories

An item of a directory is a file, a link, or a directory with items of its own.  What stands at a
location in it is found on the way down; a node says what that is, without what is in it.

* `node?_put_self`, `node?_put_of_ne`, `node?_remove`: what the two ways of changing an item do to
  every location;
* `Item.ext_node?`: an item whose entries stand in order is what stands at its locations.
-/
import SinglePage.Path.Basic
import SinglePage.SortedMap

namespace SinglePage

/-! ## 1. Items -/

/-- **Where something stands in a tree**: the names on the way down from the root. -/
abbrev Location := List FileName

/-- **What stands at a location.** -/
inductive Node where
  | file (bytes : ByteArray)
  | directory
  | link (target : Path)

/-- **An item of a directory**, with all that is in it. -/
inductive Item where
  | file (bytes : ByteArray)
  | link (target : Path)
  | directory (entries : List (FileName × Item))

namespace Item

/-- The items in an item; only directories have any. -/
def entries : Item → List (FileName × Item)
  | .directory entries => entries
  | _ => []

/-- The item without what is in it. -/
def node : Item → Node
  | .file bytes => .file bytes
  | .link target => .link target
  | .directory _ => .directory

/-- The item that a node stands for, which has nothing in it. -/
def ofNode : Node → Item
  | .file bytes => .file bytes
  | .link target => .link target
  | .directory => .directory []

@[simp] theorem node_ofNode (node : Node) : (ofNode node).node = node := by
  cases node <;> rfl

@[simp] theorem entries_ofNode (node : Node) : (ofNode node).entries = [] := by
  cases node <;> rfl

theorem eq_directory_of_node {item : Item} (h : item.node = .directory) :
    item = .directory item.entries := by
  cases item with
  | directory entries => rfl
  | _ => exact absurd h (by simp [node])

/-! ## 2. Looking -/

/-- The item at a location. -/
def find? : Location → Item → Option Item
  | [], item => some item
  | name :: location, item => (SortedMap.lookup name item.entries).bind (find? location)

/-- What stands at a location. -/
def node? (location : Location) (item : Item) : Option Node :=
  (item.find? location).map node

@[simp] theorem node?_nil (item : Item) : item.node? [] = some item.node := rfl

theorem node?_cons (name : FileName) (location : Location) (item : Item) :
    item.node? (name :: location) =
      (SortedMap.lookup name item.entries).bind (node? location) := by
  simp only [node?, find?]
  cases SortedMap.lookup name item.entries <;> rfl

theorem find?_append (outer inner : Location) (item : Item) :
    item.find? (outer ++ inner) = (item.find? outer).bind (find? inner) := by
  induction outer generalizing item with
  | nil => rfl
  | cons name outer ih =>
    simp only [List.cons_append, find?]
    cases SortedMap.lookup name item.entries with
    | none => rfl
    | some inside => exact ih inside

theorem node?_of_no_entries {item : Item} (h : item.entries = []) {location : Location}
    (below : location ≠ []) : item.node? location = none := by
  cases location with
  | nil => exact absurd rfl below
  | cons name location => rw [node?_cons, h]; rfl

/-- Around what stands somewhere there is a directory. -/
theorem node?_dropLast {item : Item} {location : Location} (below : location ≠ [])
    (h : (item.node? location).isSome = true) :
    item.node? location.dropLast = some .directory := by
  induction location generalizing item with
  | nil => exact absurd rfl below
  | cons name location ih =>
    cases found : SortedMap.lookup name item.entries with
    | none =>
      rw [node?_cons, found] at h
      exact absurd h (by simp)
    | some inside =>
      cases location with
      | nil =>
        cases item with
        | directory entries => rfl
        | _ => exact absurd found (by simp [entries, SortedMap.lookup])
      | cons next location =>
        rw [node?_cons, found] at h
        rw [List.dropLast_cons_cons, node?_cons, found]
        exact ih (by simp) h

/-! ## 3. Changing -/

/-- Puts a node at a location, in place of the file or link that stands there.  Outside of all
directories, and in place of a directory, nothing is put. -/
def put (node : Node) : Location → Item → Item
  | [], .directory entries => .directory entries
  | [], _ => ofNode node
  | name :: location, .directory entries =>
    match SortedMap.lookup name entries with
    | some inside =>
      .directory (SortedMap.insertEntry name (put node location inside) entries)
    | none =>
      if location = [] then .directory (SortedMap.insertEntry name (ofNode node) entries)
      else .directory entries
  | _ :: _, item => item

/-- Removes what stands at a location, and all that is in it. -/
def remove : Location → Item → Item
  | [], _ => .directory []
  | name :: location, .directory entries =>
    if location = [] then .directory (entries.filter fun e => e.1 ≠ name)
    else
      match SortedMap.lookup name entries with
      | some inside =>
        .directory (SortedMap.insertEntry name (remove location inside) entries)
      | none => .directory entries
  | _ :: _, item => item

theorem node?_directory_cons (name : FileName) (location : Location)
    (entries : List (FileName × Item)) :
    (Item.directory entries).node? (name :: location) =
      (SortedMap.lookup name entries).bind (node? location) :=
  node?_cons _ _ _

/-- Putting a node somewhere changes nothing elsewhere. -/
theorem node?_put_of_ne {node : Node} {location l : Location} (other : l ≠ location)
    (item : Item) : (item.put node location).node? l = item.node? l := by
  induction location generalizing item l with
  | nil =>
    cases item with
    | directory entries => rfl
    | _ =>
      rw [put, node?_of_no_entries (entries_ofNode _) other, node?_of_no_entries rfl other]
      simp
  | cons name location ih =>
    cases item with
    | directory entries =>
      simp only [put]
      cases l with
      | nil =>
        split
        · rfl
        · split <;> rfl
      | cons n l =>
        split
        · rename_i inside found
          rw [node?_directory_cons, node?_directory_cons, SortedMap.lookup_insertEntry]
          split
          · rename_i same
            subst same
            rw [found, Option.bind_some, Option.bind_some]
            exact ih (fun eq => other (by rw [eq])) inside
          · rfl
        · rename_i free
          split
          · rename_i alone
            subst alone
            rw [node?_directory_cons, node?_directory_cons, SortedMap.lookup_insertEntry]
            split
            · rename_i same
              subst same
              rw [free, Option.bind_some, Option.bind_none]
              exact node?_of_no_entries (entries_ofNode _) fun eq => other (by rw [eq])
            · rfl
          · rfl
    | _ => rfl

/-- A node that is put in a directory, and not in place of one, stands there. -/
theorem node?_put_self {node : Node} {location : Location} {item : Item} (below : location ≠ [])
    (inside : item.node? location.dropLast = some .directory)
    (free : item.node? location ≠ some .directory) :
    (item.put node location).node? location = some node := by
  induction location generalizing item with
  | nil => exact absurd rfl below
  | cons name location ih =>
    have isDirectory : item.node = .directory := by
      cases location with
      | nil => simpa using inside
      | cons next location =>
        cases item with
        | directory entries => rfl
        | _ =>
          rw [List.dropLast_cons_cons, node?_of_no_entries rfl (by simp)] at inside
          exact absurd inside (by simp)
    obtain ⟨entries, rfl⟩ : ∃ entries, item = .directory entries :=
      ⟨_, eq_directory_of_node isDirectory⟩
    rw [node?_directory_cons] at free
    simp only [put]
    split
    · rename_i inner found
      rw [found, Option.bind_some] at free
      rw [node?_directory_cons, SortedMap.lookup_insertEntry, if_pos rfl, Option.bind_some]
      cases location with
      | nil =>
        cases inner with
        | directory entries => exact absurd rfl free
        | _ => simp [put]
      | cons next location =>
        refine ih (by simp) ?_ free
        rw [List.dropLast_cons_cons, node?_directory_cons, found] at inside
        exact inside
    · rename_i none
      cases location with
      | nil =>
        rw [if_pos rfl, node?_directory_cons, SortedMap.lookup_insertEntry, if_pos rfl]
        simp
      | cons next location =>
        rw [List.dropLast_cons_cons, node?_directory_cons, none] at inside
        exact absurd inside (by simp)

theorem node_remove {location : Location} (below : location ≠ []) (item : Item) :
    (item.remove location).node = item.node := by
  cases location with
  | nil => exact absurd rfl below
  | cons name location =>
    cases item with
    | directory entries =>
      simp only [remove]
      split
      · rfl
      · split <;> rfl
    | _ => rfl

/-- What stands where after something has been removed. -/
theorem node?_remove {location l : Location} (some_below : location ≠ [] ∨ l ≠ [])
    (item : Item) :
    (item.remove location).node? l =
      if location.isPrefixOf l then none else item.node? l := by
  induction location generalizing item l with
  | nil =>
    have below : l ≠ [] := by simpa using some_below
    rw [if_pos (by simp [List.isPrefixOf])]
    exact node?_of_no_entries rfl below
  | cons name location ih =>
    cases item with
    | directory entries =>
      cases l with
      | nil => simp [List.isPrefixOf, node_remove]
      | cons n l =>
        simp only [remove, List.isPrefixOf_cons_cons]
        by_cases last : location = []
        · subst last
          rw [if_pos rfl, node?_directory_cons, SortedMap.lookup_filter fun k => k ≠ name]
          by_cases same : n = name
          · subst same
            simp [List.isPrefixOf]
          · simp [same, Ne.symm same, node?_directory_cons]
        · rw [if_neg last]
          cases found : SortedMap.lookup name entries with
          | none =>
            by_cases same : n = name
            · subst same
              simp [node?_directory_cons, found]
            · simp [Ne.symm same]
          | some inside =>
            rw [node?_directory_cons, SortedMap.lookup_insertEntry]
            by_cases same : n = name
            · subst same
              simp [node?_directory_cons, found, ih (.inl last)]
            · simp [same, Ne.symm same, node?_directory_cons]
    | _ =>
      simp only [remove]
      split
      · rename_i inside
        cases l with
        | nil => exact absurd inside (by simp [List.isPrefixOf])
        | cons n l => exact node?_of_no_entries rfl (by simp)
      · rfl

end Item

/-! ## 4. Order -/

mutual

/-- The entries of an item stand in the order of their names, and so do those of the items in
it. -/
def Item.Sorted : Item → Prop
  | .directory entries => EntriesSorted entries
  | .file _ => True
  | .link _ => True

/-- Entries stand in the order of their names, and so do those of their items. -/
def EntriesSorted : List (FileName × Item) → Prop
  | [] => True
  | (name, item) :: entries =>
    (∀ entry ∈ entries, name < entry.1) ∧ item.Sorted ∧ EntriesSorted entries

end

theorem entriesSorted_iff : ∀ {entries : List (FileName × Item)},
    EntriesSorted entries ↔
      entries.Pairwise (fun a b => a.1 < b.1) ∧ ∀ entry ∈ entries, entry.2.Sorted
  | [] => by simp [EntriesSorted]
  | (name, item) :: entries => by
    rw [EntriesSorted, entriesSorted_iff, List.pairwise_cons, List.forall_mem_cons]
    exact ⟨fun ⟨a, b, c, d⟩ => ⟨⟨a, c⟩, b, d⟩, fun ⟨⟨a, c⟩, b, d⟩ => ⟨a, b, c, d⟩⟩

theorem EntriesSorted.insert {entries : List (FileName × Item)} (sorted : EntriesSorted entries)
    {name : FileName} {item : Item} (inside : item.Sorted) :
    EntriesSorted (SortedMap.insertEntry name item entries) := by
  rw [entriesSorted_iff] at sorted ⊢
  refine ⟨SortedMap.insertEntry_sorted name item sorted.1, fun entry mem => ?_⟩
  rcases SortedMap.mem_insertEntry mem with rfl | mem
  · exact inside
  · exact sorted.2 entry mem

theorem EntriesSorted.of_lookup {entries : List (FileName × Item)}
    (sorted : EntriesSorted entries) {name : FileName} {item : Item}
    (h : SortedMap.lookup name entries = some item) : item.Sorted :=
  (entriesSorted_iff.mp sorted).2 _ (SortedMap.mem_of_lookup h)

namespace Item

theorem sorted_ofNode (node : Node) : (ofNode node).Sorted := by
  cases node <;> simp [ofNode, Item.Sorted, EntriesSorted]

theorem Sorted.put (node : Node) : ∀ {location : Location} {item : Item}, item.Sorted →
    (item.put node location).Sorted
  | [], .directory _, sorted => sorted
  | [], .file _, _ => sorted_ofNode node
  | [], .link _, _ => sorted_ofNode node
  | name :: location, .directory entries, sorted => by
    rw [Item.Sorted] at sorted
    simp only [Item.put]
    split
    · rename_i found
      rw [Item.Sorted]
      exact sorted.insert (Sorted.put node (sorted.of_lookup found))
    · split
      · rw [Item.Sorted]
        exact sorted.insert (sorted_ofNode node)
      · rw [Item.Sorted]
        exact sorted
  | _ :: _, .file _, sorted => sorted
  | _ :: _, .link _, sorted => sorted

theorem Sorted.remove : ∀ {location : Location} {item : Item}, item.Sorted →
    (item.remove location).Sorted
  | [], _, _ => by simp [Item.remove, Item.Sorted, EntriesSorted]
  | name :: location, .directory entries, sorted => by
    rw [Item.Sorted] at sorted
    simp only [Item.remove]
    split
    · rw [Item.Sorted, entriesSorted_iff]
      rw [entriesSorted_iff] at sorted
      exact ⟨sorted.1.filter _, fun entry mem => sorted.2 entry ((List.mem_filter.mp mem).1)⟩
    · split
      · rename_i found
        rw [Item.Sorted]
        exact sorted.insert (Sorted.remove (sorted.of_lookup found))
      · rw [Item.Sorted]
        exact sorted
  | _ :: _, .file _, sorted => sorted
  | _ :: _, .link _, sorted => sorted

/-- A look-up in entries in order finds exactly what they hold. -/
theorem lookup_eq_some_iff {entries : List (FileName × Item)} (sorted : EntriesSorted entries)
    {name : FileName} {item : Item} :
    SortedMap.lookup name entries = some item ↔ (name, item) ∈ entries :=
  SortedMap.get?_eq_some_iff ⟨entries, (entriesSorted_iff.mp sorted).1⟩

/-- **An item is what stands at its locations.** -/
theorem ext_node? : ∀ {a b : Item}, a.Sorted → b.Sorted →
    (∀ location, a.node? location = b.node? location) → a = b
  | .file bytes, b, _, _, h => by
    have root : some (Item.file bytes).node = some b.node := h []
    cases b with
    | file other => simpa [node] using root
    | _ => exact absurd root (by simp [node])
  | .link target, b, _, _, h => by
    have root : some (Item.link target).node = some b.node := h []
    cases b with
    | link other => simpa [node] using root
    | _ => exact absurd root (by simp [node])
  | .directory entries, b, sa, sb, h => by
    have root : some (Item.directory entries).node = some b.node := h []
    cases b with
    | directory others =>
      rw [Item.Sorted] at sa sb
      have below : ∀ (name : FileName) (location : Location),
          (SortedMap.lookup name entries).bind (node? location) =
            (SortedMap.lookup name others).bind (node? location) := fun name location => by
        rw [← node?_directory_cons, ← node?_directory_cons, h]
      have same : ∀ {name : FileName} {item other : Item}, (name, item) ∈ entries →
          (name, other) ∈ others → item = other := by
        intro name item other mem otherMem
        have found := (lookup_eq_some_iff sa).mpr mem
        have foundOther := (lookup_eq_some_iff sb).mpr otherMem
        refine ext_node? (sa.of_lookup found) (sb.of_lookup foundOther) fun location => ?_
        have := below name location
        rw [found, foundOther] at this
        exact this
      refine congrArg Item.directory (SortedMap.entries_ext (entriesSorted_iff.mp sa).1
        (entriesSorted_iff.mp sb).1 ?_)
      rintro ⟨name, item⟩
      have here := below name []
      constructor
      · intro mem
        rw [(lookup_eq_some_iff sa).mpr mem] at here
        cases found : SortedMap.lookup name others with
        | none =>
          rw [found] at here
          exact absurd here (by simp)
        | some other =>
          have otherMem := (lookup_eq_some_iff sb).mp found
          exact same mem otherMem ▸ otherMem
      · intro otherMem
        rw [(lookup_eq_some_iff sb).mpr otherMem] at here
        cases found : SortedMap.lookup name entries with
        | none =>
          rw [found] at here
          exact absurd here (by simp)
        | some own =>
          have mem := (lookup_eq_some_iff sa).mp found
          exact same mem otherMem ▸ mem
    | _ => exact absurd root (by simp [node])
termination_by a => a
decreasing_by
  have := List.sizeOf_lt_of_mem mem
  simp only [Prod.mk.sizeOf_spec, Item.directory.sizeOf_spec] at this ⊢
  omega

/-! ## 5. All that is in an item -/

mutual

/-- The files in an item, by the names on the way to them.  Directories whose names fail the test
are left out with all that is in them. -/
def files (enter : FileName → Bool) : Item → List (List FileName)
  | .file _ => [[]]
  | .link _ => []
  | .directory entries => filesOfEntries enter entries

/-- The files in the items of a directory. -/
def filesOfEntries (enter : FileName → Bool) : List (FileName × Item) → List (List FileName)
  | [] => []
  | (name, item) :: entries =>
    let inside := if item.node matches .directory && !enter name then [] else item.files enter
    inside.map (name :: ·) ++ filesOfEntries enter entries

end

mutual

/-- All that stands in an item, with its location. -/
def nodes : Item → List (Location × Node)
  | .directory entries => nodesOfEntries entries
  | .file _ => []
  | .link _ => []

/-- All that stands in a directory with the given entries. -/
def nodesOfEntries : List (FileName × Item) → List (Location × Node)
  | [] => []
  | (name, item) :: entries =>
    ([name], item.node) :: item.nodes.map (fun e => (name :: e.1, e.2)) ++
      nodesOfEntries entries

end

end Item

end SinglePage
