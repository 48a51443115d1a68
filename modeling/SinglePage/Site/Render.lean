/-
# Rendering one template

A single template file is rendered with variables given as `KEY=VALUE` and with the filters of a
site.

* `parseAssignment_eq_ok_iff`: which texts assign a value, and what they assign.
-/
import SinglePage.Filter.Registry
import SinglePage.Site.Source

namespace SinglePage.Site

/-! ## 1. Assignments -/

/-- **The variable and the value of a text `KEY=VALUE`.**  The first `=` ends the key, which is
trimmed and must not be empty then; the value is taken as it is. -/
def parseAssignment (input : String) : Except SiteError (String × String) :=
  match input.toList.dropWhile (· ≠ '=') with
  | [] => .error (.invalidVariable input)
  | _ :: value =>
    match Text.trim (input.toList.takeWhile (· ≠ '=')) with
    | [] => .error (.invalidVariable input)
    | key => .ok (String.ofList key, String.ofList value)

/-- **What a text assigns**: it has an `=`, the trimmed text before the first one is the key, which
must not be empty, and all that stands behind it is the value. -/
theorem parseAssignment_eq_ok_iff {input key value : String} :
    parseAssignment input = .ok (key, value) ↔
      ∃ name : List Char, '=' ∉ name ∧ input.toList = name ++ '=' :: value.toList ∧
        Text.trim name = key.toList ∧ key ≠ "" := by
  unfold parseAssignment
  constructor
  · intro h
    split at h
    · exact absurd h (by simp)
    · rename_i c rest found
      split at h
      · exact absurd h (by simp)
      · rename_i trimmed notEmpty
        obtain ⟨rfl, rfl⟩ := Prod.mk.inj (Except.ok.inj h)
        have equals := List.head?_dropWhile_not (fun c : Char => decide (c ≠ '=')) input.toList
        rw [found] at equals
        have equals : c = '=' := by simpa using equals
        subst equals
        refine ⟨input.toList.takeWhile (· ≠ '='), ?_, ?_, ?_, ?_⟩
        · intro mem
          simpa using List.all_eq_true.mp List.all_takeWhile _ mem
        · rw [String.toList_ofList, ← found, List.takeWhile_append_dropWhile]
        · rw [String.toList_ofList]
        · intro empty
          refine notEmpty ?_
          rw [← String.toList_inj, String.toList_ofList] at empty
          exact empty
  · rintro ⟨name, clear, whole, trimmed, nonempty⟩
    have stop : ∀ c ∈ name, decide (c ≠ '=') = true := by
      intro c mem
      simpa using fun eq : c = '=' => clear (eq ▸ mem)
    have before : input.toList.takeWhile (· ≠ '=') = name := by
      rw [whole, List.takeWhile_append_of_pos stop]
      simp
    have behind : input.toList.dropWhile (· ≠ '=') = '=' :: value.toList := by
      rw [whole, List.dropWhile_append_of_pos stop]
      simp
    rw [behind, before, trimmed]
    split
    · rename_i impossible
      exact absurd impossible (by simp)
    · rename_i c rest eq
      obtain ⟨-, rfl⟩ := List.cons.inj eq
      split
      · rename_i empty
        exact absurd (String.toList_injective (empty.trans String.toList_empty.symm)) nonempty
      · rw [String.ofList_toList, String.ofList_toList]

/-- Assignments from first to last; the first that is none is reported. -/
def parseAssignments (inputs : List String) : Except SiteError (List (String × String)) :=
  inputs.mapM parseAssignment

/-! ## 2. Rendering -/

/-- What a single template can refer to: the given texts, of which the last one for each key
counts, and the filters of a site. -/
def textVariables (assignments : List (String × String)) : Variables :=
  Variables.withFilters (.ofList (assignments.map fun e => (e.1, .text e.2)))
    (Registry.builtin Template.post)

variable {m : Type → Type} [Monad m] [Host m]

/-- **The text of a template file**, filled in with the given texts. -/
def renderFile (path : Path) (assignments : List (String × String)) :
    ExceptT SiteError m String := do
  let template ← templateFromFile path
  template.apply (textVariables assignments)

end SinglePage.Site
