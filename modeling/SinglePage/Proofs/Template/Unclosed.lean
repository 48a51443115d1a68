/-
# Where a template is left open

A text that is no template opens a reference and never closes it, and the error tells at which byte.
Runs of braces offer several such bytes: in `{{{` a reference could open at the first brace or at the
second one, and a later `{{` may stand inside of what was left open before.  The error names the
least of them.

* `Layout.exists_shorter`: where a template ends in a brace, it is a template without it too;
* `OpensForGood.earlier`: so a reference that opens behind a brace could have opened before it;
* `OpensForGood.refused`: going back from brace to brace leads to the byte that the error names;
* `parse_refused_at_least`: the error names the least byte, and there is no error but this one.
-/
import Mathlib.Order.Bounds.Defs
import SinglePage.Proofs.Template.Printing

namespace SinglePage

/-- **At this byte a reference opens that is never closed**: what stands before it is a template, and
no closing stands behind it. -/
def OpensForGood (source : String) (offset : Nat) : Prop :=
  ∃ before behind : String, source = before ++ "\x7b\x7b" ++ behind ∧
    before.utf8ByteSize = offset ∧ (∃ template, Template.parse before = .ok template) ∧
      NoPair '}' behind.toList

/-! ## 1. Templates that end in a brace -/

namespace Layout

/-- **Where a template ends in an opening brace, it is a template without this brace too**, because
the brace belongs to its last literal. -/
theorem exists_shorter : ∀ {layout : Layout}, layout.Clean → layout.ending.getLast? = some '{' →
    ∃ shorter : Layout, shorter.Clean ∧ layout.text = shorter.text ++ ['{']
  | last literal, clear, ends => by
    obtain ⟨front, rfl⟩ := List.getLast?_eq_some_iff.mp ends
    exact ⟨last front, clear.infix (List.prefix_append front ['{']).isInfix, rfl⟩
  | reference literal body rest, ⟨clear, end_, clear', end', clean⟩, ends => by
    obtain ⟨shorter, clean', eq⟩ := exists_shorter clean ends
    refine ⟨reference literal body shorter, ⟨clear, end_, clear', end', clean'⟩, ?_⟩
    simp only [text, eq, List.append_assoc, List.cons_append]

end Layout

/-- What stands before an opening is laid out, and the bytes are those of the layout. -/
theorem opensForGood_iff {source : String} {offset : Nat} :
    OpensForGood source offset ↔ ∃ (layout : Layout) (behind : List Char), layout.Clean ∧
      source.toList = layout.text ++ '{' :: '{' :: behind ∧
        Text.byteLength layout.text = offset ∧ NoPair '}' behind := by
  constructor
  · rintro ⟨before, behind, rfl, rfl, ⟨template, parsed⟩, clear⟩
    obtain ⟨layout, ⟨clean, text⟩, -⟩ := Layout.parses_iff_lays.mp ⟨template, parsed, rfl⟩
    refine ⟨layout, behind.toList, clean, ?_, ?_, clear⟩
    · simp [text]
    · rw [text, Text.byteLength_toList]
  · rintro ⟨layout, behind, clean, whole, rfl, clear⟩
    have lays : layout.Lays (String.ofList layout.text).toList :=
      ⟨clean, String.toList_ofList.symm⟩
    obtain ⟨segments, describes, -⟩ := lays.read
    obtain ⟨template, parsed, -⟩ := Layout.parses_iff_lays.mpr ⟨layout, lays, describes⟩
    refine ⟨String.ofList layout.text, String.ofList behind, ?_, ?_, ⟨template, parsed⟩, ?_⟩
    · exact String.toList_injective (by simp [whole])
    · exact Text.byteLength_eq_size layout.text
    · rwa [String.toList_ofList]

/-! ## 2. Going back to the first opening -/

/-- **A reference that opens behind a brace could have opened at this brace.** -/
theorem OpensForGood.earlier {source : String} {layout : Layout} {behind : List Char}
    (clean : layout.Clean) (whole : source.toList = layout.text ++ '{' :: '{' :: behind)
    (clear : NoPair '}' behind) (ends : layout.ending.getLast? = some '{') :
    ∃ earlier, earlier < Text.byteLength layout.text ∧ OpensForGood source earlier := by
  obtain ⟨shorter, clean', eq⟩ := Layout.exists_shorter clean ends
  refine ⟨Text.byteLength shorter.text, ?_, opensForGood_iff.mpr
    ⟨shorter, '{' :: behind, clean', ?_, rfl, ?_⟩⟩
  · have size : '{'.utf8Size = 1 := by decide
    rw [eq, Text.byteLength_append, Text.byteLength_cons, size]
    omega
  · rw [whole, eq, List.append_assoc]
    rfl
  · -- the brace that is left over is no closing one
    have brace : NoPair '}' ['{'] := noPair_of_not_mem (by decide)
    exact brace.append clear (.inl (by decide))

/-- **The text is refused at a byte where a reference could open, or at an earlier one.** -/
theorem OpensForGood.refused {source : String} : ∀ {offset : Nat}, OpensForGood source offset →
    ∃ first ≤ offset, Template.parse source = .error (.unterminatedReference first) := by
  intro offset
  induction offset using Nat.strongRecOn with
  | ind offset ih =>
    intro opens
    obtain ⟨layout, behind, clean, whole, rfl, clear⟩ := opensForGood_iff.mp opens
    by_cases ends : layout.ending.getLast? = some '{'
    · obtain ⟨earlier, before, opens'⟩ := OpensForGood.earlier clean whole clear ends
      obtain ⟨first, le, refused⟩ := ih earlier before opens'
      exact ⟨first, by omega, refused⟩
    · have leavesOpen : layout.LeavesOpen source.toList := ⟨clean, ends, behind, clear, whole⟩
      exact ⟨_, Nat.le_refl _, Layout.parse_fails_iff_open.mpr ⟨layout, leavesOpen, rfl⟩⟩

/-- The byte that the error names is one where a reference opens for good. -/
theorem opensForGood_of_refused {source : String} {offset : Nat}
    (refused : Template.parse source = .error (.unterminatedReference offset)) :
    OpensForGood source offset := by
  obtain ⟨layout, ⟨clean, -, behind, clear, whole⟩, rfl⟩ :=
    Layout.parse_fails_iff_open.mp refused
  exact opensForGood_iff.mpr ⟨layout, behind, clean, whole, rfl, clear⟩

/-! ## 3. The error -/

/-- **A text is refused at the least byte where a reference opens that is never closed**; it is a
template if there is no such byte, and nothing else is ever wrong with it. -/
theorem parse_refused_at_least (source : String) :
    (∀ offset, Template.parse source = .error (.unterminatedReference offset) ↔
        IsLeast {place | OpensForGood source place} offset) ∧
      ((∃ template, Template.parse source = .ok template) ↔
        ¬ ∃ offset, OpensForGood source offset) ∧
      ∀ error, Template.parse source = .error error →
        ∃ offset, error = .unterminatedReference offset := by
  refine ⟨?_, ?_, ?_⟩
  · intro offset
    constructor
    · intro refused
      refine ⟨opensForGood_of_refused refused, ?_⟩
      intro place opens
      obtain ⟨first, le, refused'⟩ := opens.refused
      rw [refused] at refused'
      obtain rfl := SiteError.unterminatedReference.inj (Except.error.inj refused')
      exact le
    · rintro ⟨opens, least⟩
      obtain ⟨first, le, refused⟩ := opens.refused
      have first_ge : offset ≤ first := least (opensForGood_of_refused refused)
      obtain rfl : first = offset := by omega
      exact refused
  · constructor
    · rintro ⟨template, parsed⟩ ⟨offset, opens⟩
      obtain ⟨first, -, refused⟩ := opens.refused
      rw [parsed] at refused
      exact absurd refused (by simp)
    · intro none
      rcases Layout.parse_cases source with parsed | ⟨offset, refused⟩
      · exact parsed
      · exact absurd ⟨offset, opensForGood_of_refused refused⟩ none
  · intro error failed
    exact Layout.unterminated_of_parse failed

/-- Behind a closed reference stand three braces, and two more behind those: a reference could open for
good at the first of the three or at the second, and it is the first that the error names. -/
theorem parse_refused_at_least_braces :
    let source := "é\x7b\x7ba\x7d\x7d\x7b\x7b\x7bb\x7b\x7b"
    Template.parse source = .error (.unterminatedReference 7) ∧ OpensForGood source 8 ∧
      IsLeast {place | OpensForGood source place} 7 := by
  intro source
  have clean : Layout.Clean (.reference ['é'] ['a'] (.last [])) :=
    ⟨breakPair_eq_none_iff.mp (by decide), by decide, breakPair_eq_none_iff.mp (by decide),
      by decide, breakPair_eq_none_iff.mp (by decide)⟩
  have clean' : Layout.Clean (.reference ['é'] ['a'] (.last ['{'])) :=
    ⟨breakPair_eq_none_iff.mp (by decide), by decide, breakPair_eq_none_iff.mp (by decide),
      by decide, breakPair_eq_none_iff.mp (by decide)⟩
  have leavesOpen : Layout.LeavesOpen (.reference ['é'] ['a'] (.last [])) source.toList :=
    ⟨clean, by decide, ['{', 'b', '{', '{'], breakPair_eq_none_iff.mp (by decide), by decide⟩
  have refused : Template.parse source = .error (.unterminatedReference 7) :=
    Layout.parse_fails_iff_open.mpr ⟨_, leavesOpen, by decide⟩
  refine ⟨refused, ?_, ((parse_refused_at_least source).1 7).mp refused⟩
  exact opensForGood_iff.mpr
    ⟨_, ['b', '{', '{'], clean', by decide, by decide, breakPair_eq_none_iff.mp (by decide)⟩

end SinglePage
