/-
# The steps of a path that ends in a name

A name that is put behind a path, or in place of its last name, is the last step of the new path.
The steps in front of it are those of the old path, but for some that lead nowhere.

* `EndsIn.namedSteps`: the last step is the last of the named ones too;
* `pieces_join`: the pieces of a path with a name behind it;
* `steps_parent`: the steps of the path around a name;
* `way_of_mem_parents`: the steps of the directories around a path.
-/
import SinglePage.FileSystem.Place
import SinglePage.Proofs.Path.LastComponent

namespace SinglePage

/-! ## 1. Steps that lead somewhere -/

/-- Two lists of steps are the same but for steps that lead nowhere. -/
def SameWay (steps others : List Step) : Prop :=
  steps.filter (· ≠ .here) = others.filter (· ≠ .here)

namespace SameWay

theorem symm {steps others : List Step} (same : SameWay steps others) : SameWay others steps :=
  Eq.symm same

theorem trans {a b c : List Step} (first : SameWay a b) (second : SameWay b c) : SameWay a c :=
  Eq.trans first second

theorem of_filter (steps : List Step) : SameWay (steps.filter (· ≠ .here)) steps := by
  simp [SameWay]

theorem append {a b c d : List Step} (front : SameWay a b) (behind : SameWay c d) :
    SameWay (a ++ c) (b ++ d) := by
  unfold SameWay at *
  rw [List.filter_append, List.filter_append, front, behind]

end SameWay

theorem ofPiece_nil : Step.ofPiece [] = .here := rfl

theorem ofPiece_name (name : FileName) : Step.ofPiece name.text.toList = .down name := by
  rw [Step.ofPiece, if_neg name.not_dots, String.ofList_toList, FileName.ofText?_text]

/-- A text that stands for no component leads nowhere. -/
theorem ofPiece_idle {piece : List Char} (idle : Path.isIdle piece = true) :
    Step.ofPiece piece = .here := by
  rcases Path.isIdle_iff.mp idle with rfl | rfl
  · rfl
  · rfl

namespace Path

/-- Leaving out empty pieces leaves out steps that lead nowhere. -/
theorem sameWay_namedSteps (path : Path) : SameWay path.namedSteps path.steps := by
  unfold SameWay namedSteps steps
  generalize path.pieces = pieces
  induction pieces with
  | nil => rfl
  | cons piece pieces ih =>
    by_cases empty : piece = []
    · subst empty
      rw [List.filter_cons_of_neg (by simp), List.map_cons,
        List.filter_cons_of_neg (by simp [ofPiece_nil]), ih]
    · rw [List.filter_cons_of_pos (by simpa using empty), List.map_cons, List.map_cons,
        List.filter_cons, List.filter_cons, ih]

/-! ## 2. Paths that end in a name -/

/-- The path is given by some steps and a name behind them. -/
def EndsIn (path : Path) (steps : List Step) (name : FileName) : Prop :=
  path.steps = steps ++ [.down name]

/-- **The last step is the last of the named ones too.** -/
theorem EndsIn.namedSteps {path : Path} {steps : List Step} {name : FileName}
    (ends : path.EndsIn steps name) :
    path.namedSteps.getLast? = some (.down name) ∧
      SameWay path.namedSteps.dropLast steps := by
  obtain ⟨front, last, pieces, rfl, single⟩ := List.map_eq_append_iff.mp ends
  obtain ⟨piece, rfl, down⟩ := List.map_eq_singleton_iff.mp single
  have named : piece ≠ [] := by
    rintro rfl
    exact absurd down (by simp [ofPiece_nil])
  have whole : path.namedSteps = (front.filter (· ≠ [])).map Step.ofPiece ++ [.down name] := by
    rw [Path.namedSteps, pieces, List.filter_append, List.map_append,
      List.filter_cons_of_pos (by simpa using named), List.filter_nil, List.map_cons, down]
    rfl
  have same := path.sameWay_namedSteps
  unfold SameWay at same ⊢
  rw [whole, ends, List.filter_append, List.filter_append] at same
  rw [whole]
  refine ⟨by simp, ?_⟩
  rw [List.dropLast_concat]
  exact List.append_cancel_right same

/-- A path whose pieces end in a name. -/
theorem endsIn_of_pieces {path : Path} {front : List (List Char)} {name : FileName}
    (pieces : path.pieces = front ++ [name.text.toList]) :
    path.EndsIn (front.map Step.ofPiece) name := by
  rw [EndsIn, steps, pieces, List.map_append, List.map_cons, ofPiece_name]
  rfl

/-! ## 3. A name behind a path -/

/-- Where a name goes that is put behind a path: it is all there is, it takes the place of the
empty piece at the end, or it is one more piece. -/
theorem pieces_join_cases (path : Path) (name : FileName) :
    (path.text = "" ∧ (path.join name.text).pieces = [name.text.toList]) ∨
      (∃ first front, path.pieces = first :: (front ++ [[]]) ∧
        (path.join name.text).pieces = first :: (front ++ [name.text.toList])) ∨
      path.text ≠ "" ∧ (path.join name.text).pieces = path.pieces ++ [name.text.toList] := by
  have relative : ¬(Path.mk name.text).isAbsolute = true := by
    intro absolute
    have first : name.text.toList.head? = some '/' := by simpa [isAbsolute] using absolute
    exact name.not_mem (List.mem_of_mem_head? first)
  have single := List.splitOn_eq_singleton name.not_mem
  unfold join
  rw [if_neg relative]
  by_cases empty : path.text = ""
  · exact .inl ⟨empty, by simp [empty, pieces, single]⟩
  · by_cases trailing : path.hasTrailingSeparator = true
    · have last : path.text.toList.getLast? = some '/' := by
        simpa [hasTrailingSeparator] using trailing
      obtain ⟨front, whole⟩ := List.getLast?_eq_some_iff.mp last
      have cut := List.splitOn_append_cons_self (a := '/') front
      cases parts : front.splitOn '/' with
      | nil => exact absurd parts (List.splitOn_ne_nil '/' front)
      | cons first rest =>
        refine .inr (.inl ⟨first, rest, ?_, ?_⟩)
        · simp [pieces, whole, cut [], parts]
        · simp [trailing, pieces, whole, cut, parts, single]
    · have cut := List.splitOn_append_cons_self (a := '/') path.text.toList name.text.toList
      exact .inr (.inr ⟨empty, by simp [empty, trailing, pieces, cut, single]⟩)

/-- **The pieces of a path with a name behind it.** -/
theorem pieces_join (path : Path) (name : FileName) :
    ∃ front, (path.join name.text).pieces = front ++ [name.text.toList] ∧
      SameWay (front.map Step.ofPiece) path.steps := by
  rcases pieces_join_cases path name with ⟨empty, whole⟩ | ⟨first, front, own, whole⟩ | ⟨-, whole⟩
  · exact ⟨[], whole, by simp [SameWay, steps, pieces, empty, ofPiece_nil]⟩
  · exact ⟨first :: front, whole, by simp [SameWay, steps, own, ofPiece_nil, List.filter_cons]⟩
  · exact ⟨path.pieces, whole, rfl⟩

/-- A path without pieces is empty. -/
theorem text_eq_of_pieces {path : Path} (none : path.pieces = [[]]) : path.text = "" := by
  have joined : ['/'].intercalate path.pieces = path.text.toList := List.intercalate_splitOn '/'
  rw [none] at joined
  exact String.toList_injective joined.symm

theorem not_trailing_of_pieces {path : Path} {front : List (List Char)} {name : FileName}
    (pieces : path.pieces = front ++ [name.text.toList]) :
    path.hasTrailingSeparator = false := by
  cases trailing : path.hasTrailingSeparator with
  | false => rfl
  | true =>
    have last : path.text.toList.getLast? = some '/' := by
      simpa [hasTrailingSeparator] using trailing
    obtain ⟨before, whole⟩ := List.getLast?_eq_some_iff.mp last
    have cut : path.pieces = before.splitOn '/' ++ [[]] := by
      rw [Path.pieces, whole, List.splitOn_append_cons_self, List.splitOn_nil]
    have lasts := congrArg List.getLast? (cut.symm.trans pieces)
    rw [List.getLast?_concat, List.getLast?_concat] at lasts
    exact absurd (Option.some.inj lasts).symm name.text_ne_nil

/-- **A path with a name behind it ends in this name**, wherever the path goes. -/
theorem endsIn_join (path : Path) (name : FileName) :
    ∃ steps, (path.join name.text).EndsIn steps name ∧ SameWay steps path.steps := by
  obtain ⟨front, pieces, same⟩ := path.pieces_join name
  exact ⟨_, endsIn_of_pieces pieces, same⟩

theorem not_trailing_join (path : Path) (name : FileName) :
    (path.join name.text).hasTrailingSeparator = false := by
  obtain ⟨front, pieces, -⟩ := path.pieces_join name
  exact not_trailing_of_pieces pieces

/-! ## 4. A name in place of the last one -/

/-- The last component of a path whose pieces end in a name. -/
theorem fileName?_of_pieces {path : Path} {front : List (List Char)} {name : FileName}
    (pieces : path.pieces = front ++ [name.text.toList]) : path.fileName? = some name :=
  fileName?_eq_some_iff.mpr <|
    (getLast?_components_pieces (c := .named name) rfl).mpr ⟨front, [], pieces, by simp⟩

/-- The directory around a path whose pieces end in a name. -/
theorem parent?_of_pieces {path : Path} {front : List (List Char)} {name : FileName}
    (pieces : path.pieces = front ++ [name.text.toList]) :
    path.parent? = some (ofPieces front.reverse) := by
  rw [parent?, parents, pieces, List.reverse_append, List.reverse_singleton,
    List.singleton_append]
  cases front.reverse with
  | nil => rw [parentsOf, if_neg name.text_ne_nil, List.head?_cons, ofPieces]
  | cons piece outer => simp [parentsOf, name.not_idle]

theorem steps_ofPieces : ∀ {outer : List (List Char)}, (∀ piece ∈ outer, '/' ∉ piece) →
    SameWay (ofPieces outer).steps (outer.reverse.map Step.ofPiece)
  | [], _ => rfl
  | [first], clear => by
    by_cases empty : first = []
    · subst empty
      rfl
    · have whole := List.splitOn_eq_singleton (clear first (by simp))
      simp [ofPieces, empty, SameWay, steps, pieces, whole]
  | piece :: next :: outer, clear => by
    rw [ofPieces]
    split
    · rename_i idle
      have rest : SameWay (ofPieces (next :: outer)).steps
          ((next :: outer).reverse.map Step.ofPiece) :=
        steps_ofPieces fun piece mem => clear piece (List.mem_cons_of_mem _ mem)
      have last : [piece].map Step.ofPiece = [.here] := by
        rw [List.map_singleton, ofPiece_idle idle]
      refine rest.trans ?_
      rw [List.reverse_cons (a := piece), List.map_append, last, SameWay, List.filter_append]
      exact (List.append_nil _).symm
    · have whole : (['/'].intercalate (piece :: next :: outer).reverse).splitOn '/' =
          (piece :: next :: outer).reverse :=
        List.splitOn_intercalate '/' (fun l mem => clear l (List.mem_reverse.mp mem)) (by simp)
      rw [steps, pieces, String.toList_ofList, whole]
      rfl
    · simp

/-- The steps to the directory around a path whose pieces end in a name. -/
theorem steps_parent {path : Path} {front : List (List Char)} {name : FileName}
    (pieces : path.pieces = front ++ [name.text.toList]) :
    SameWay (ofPieces front.reverse).steps (front.map Step.ofPiece) := by
  have clear : ∀ piece ∈ front.reverse, '/' ∉ piece := by
    intro piece mem
    have inside := List.mem_append_left [name.text.toList] (List.mem_reverse.mp mem)
    rw [← pieces] at inside
    exact not_mem_of_mem_splitOn inside
  have around := steps_ofPieces clear
  rwa [List.reverse_reverse] at around

/-! ## 5. The directories around a path -/

/-- The steps to a directory around a path are the first steps of the path. -/
theorem steps_of_mem_parentsOf {path : Path} : ∀ {outer : List (List Char)},
    (∀ piece ∈ outer, '/' ∉ piece) → path ∈ parentsOf outer →
      ∃ inner, inner <:+ outer ∧ SameWay path.steps (inner.reverse.map Step.ofPiece)
  | [], _, mem => absurd mem (by simp [parentsOf])
  | [first], _, mem => by
    rw [parentsOf] at mem
    split at mem
    · exact absurd mem (by simp)
    · obtain rfl := List.mem_singleton.mp mem
      exact ⟨[], List.nil_suffix, rfl⟩
  | piece :: next :: outer, clear, mem => by
    have clear' : ∀ piece ∈ next :: outer, '/' ∉ piece := fun piece mem =>
      clear piece (List.mem_cons_of_mem _ mem)
    have onward : path ∈ parentsOf (next :: outer) →
        ∃ inner, inner <:+ piece :: next :: outer ∧
          SameWay path.steps (inner.reverse.map Step.ofPiece) := by
      intro mem
      obtain ⟨inner, suffix, same⟩ := steps_of_mem_parentsOf clear' mem
      exact ⟨inner, suffix.trans (List.suffix_cons _ _), same⟩
    rw [parentsOf] at mem
    · split at mem
      · exact onward mem
      · rcases List.mem_cons.mp mem with rfl | mem
        · exact ⟨next :: outer, List.suffix_cons _ _, steps_ofPieces clear'⟩
        · exact onward mem
    · simp

/-- **The way to a directory around a path is the beginning of the way of the path.** -/
theorem way_of_mem_parents {path outer : Path} (mem : outer ∈ path.parents) :
    outer.steps.filter (· ≠ .here) <+: path.steps.filter (· ≠ .here) := by
  have clear : ∀ piece ∈ path.pieces.reverse, '/' ∉ piece := fun piece mem =>
    not_mem_of_mem_splitOn (List.mem_reverse.mp mem)
  obtain ⟨inner, suffix, same⟩ := steps_of_mem_parentsOf clear mem
  have front : inner.reverse <+: path.pieces := by
    rw [← List.reverse_suffix, List.reverse_reverse]
    exact suffix
  rw [same]
  exact (front.map Step.ofPiece).filter _

end Path

end SinglePage
