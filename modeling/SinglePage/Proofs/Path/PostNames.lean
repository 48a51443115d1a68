/-
# Paths that lead down to posts

A path below a directory is the path of the directory with some names behind it.  Its components
are those of the directory and the names, so paths below one directory differ when the names do,
and its last name says whether it leads to a post.

* `extension?_eq_some_iff`: a name has an extension exactly when the text of the extension stands
  behind its last dot, and something stands before that dot;
* `components_descend`, `descend_inj`: the components of a path below a directory are its names;
* `descend_eq_join`: going down name by name is going down a relative path;
* `postStem?_eq_some_iff`, `ofPath?_descend`: which files below a directory are posts.
-/
import Mathlib.Data.List.Basic
import SinglePage.Proofs.FileSystem.PathSteps
import SinglePage.Site.Listing

namespace SinglePage

/-! ## 1. Extensions -/

namespace FileName

/-- A text is split at a dot that has no dot behind it, and something before it. -/
theorem splitLastDot?_append {before after : List Char} (some_before : before ≠ [])
    (last : '.' ∉ after) : splitLastDot? (before ++ '.' :: after) = some (before, after) := by
  have clear : ∀ c ∈ after.reverse, decide (c ≠ '.') = true := by
    intro c mem
    refine decide_eq_true ?_
    rintro rfl
    exact last (List.mem_reverse.mp mem)
  have whole : (before ++ '.' :: after).reverse = after.reverse ++ '.' :: before.reverse := by simp
  have dropped : (before ++ '.' :: after).reverse.dropWhile (· ≠ '.') = '.' :: before.reverse := by
    rw [whole, List.dropWhile_append_of_pos clear, List.dropWhile_cons_of_neg (by simp)]
  have taken : (before ++ '.' :: after).reverse.takeWhile (· ≠ '.') = after.reverse := by
    rw [whole, List.takeWhile_append_of_pos clear, List.takeWhile_cons_of_neg (by simp),
      List.append_nil]
  obtain ⟨c, rest, eq⟩ : ∃ c rest, before.reverse = c :: rest :=
    List.exists_cons_of_ne_nil (by simpa using some_before)
  have back : (c :: rest).reverse = before := by rw [← eq, List.reverse_reverse]
  rw [splitLastDot?, dropped, taken, eq, List.reverse_reverse]
  exact congrArg (fun text => some (text, after)) back

theorem ne_nil_of_splitLastDot? {text before after : List Char}
    (h : splitLastDot? text = some (before, after)) : before ≠ [] := by
  unfold splitLastDot? at h
  split at h
  · rename_i c rest _
    obtain ⟨rfl, -⟩ := Prod.mk.inj (Option.some.inj h)
    simp
  · exact absurd h (by simp)

/-- **A name has an extension exactly when it ends in a dot and the extension**, and something
stands before the dot; that is the stem. -/
theorem extension?_eq_some_iff {name : FileName} {extension stem : String}
    (plain : '.' ∉ extension.toList) :
    name.extension? = some extension ∧ name.stem = stem ↔
      stem ≠ "" ∧ name.text = stem ++ "." ++ extension := by
  constructor
  · rintro ⟨found, rfl⟩
    refine ⟨?_, stem_extension found⟩
    obtain ⟨⟨before, after⟩, split, -⟩ := Option.map_eq_some_iff.mp found
    intro empty
    rw [FileName.stem, split] at empty
    have nil := congrArg String.toList empty
    rw [String.toList_ofList] at nil
    exact ne_nil_of_splitLastDot? split nil
  · rintro ⟨some_stem, text⟩
    have chars : name.text.toList = stem.toList ++ '.' :: extension.toList := by
      simp [text]
    have nonempty : stem.toList ≠ [] := fun nil =>
      some_stem (String.toList_injective nil)
    have split := splitLastDot?_append nonempty plain
    rw [extension?, FileName.stem, chars, split]
    simp

/-- **A name has the extension of posts exactly when it ends in it**, and something stands before the
dot. -/
theorem extension?_eq_txt_iff {name : FileName} {stem : String} :
    name.extension? = some postExtension ∧ name.stem = stem ↔
      stem ≠ "" ∧ name.text = stem ++ ".txt" := by
  have plain : '.' ∉ postExtension.toList := by decide
  have extended : stem ++ "." ++ postExtension = stem ++ ".txt" := by
    rw [String.append_assoc]
    rfl
  rw [← extended]
  exact extension?_eq_some_iff plain

end FileName

/-! ## 2. The components of a path below a directory -/

namespace Path

/-- The component that the first piece of a longer path stands for. -/
def leading (piece : List Char) : List Component :=
  if piece = [] then [.root] else if piece = ['.'] then [.current]
  else [piece].filterMap Component.ofPiece?

/-- The components of a path, from its first piece and the others. -/
theorem components_cons {path : Path} {first : List Char} {rest : List (List Char)}
    (pieces : path.pieces = first :: rest) (nonempty : first ≠ [] ∨ rest ≠ []) :
    path.components = leading first ++ rest.filterMap Component.ofPiece? := by
  unfold components leading
  rw [pieces]
  split
  · rename_i piece others eq
    obtain ⟨rfl, rfl⟩ := List.cons.inj eq
    rw [if_pos rfl]
    rfl
  · rename_i others eq
    obtain ⟨rfl, rfl⟩ := List.cons.inj eq
    rw [if_neg (by simp), if_pos rfl]
    rfl
  · rename_i notRoot notCurrent
    have named : first ≠ [] := by
      rintro rfl
      cases rest with
      | nil => simp at nonempty
      | cons piece others => exact notRoot piece others rfl
    have notDot : first ≠ ['.'] := by
      rintro rfl
      exact notCurrent rest rfl
    rw [if_neg named, if_neg notDot, ← List.filterMap_append]
    rfl

/-- **The components of a name in a directory** are those of the directory and the name. -/
theorem components_join (path : Path) (name : FileName) :
    (path.join name.text).components = path.components ++ [.named name] := by
  have last : [name.text.toList].filterMap Component.ofPiece? = [.named name] := by
    rw [List.filterMap_cons, Component.ofPiece?_name]
    rfl
  rcases pieces_join_cases path name with ⟨empty, pieces⟩ | ⟨first, front, whole, pieces⟩ |
      ⟨nonempty, pieces⟩
  · have own : path.components = [] := by
      rw [components, Path.pieces, empty]
      rfl
    rw [own, components_cons pieces (.inl name.text_ne_nil), leading, if_neg name.text_ne_nil,
      if_neg (fun dot => absurd name.not_idle (by simp [isIdle, dot])), last]
    rfl
  · have idle : [([] : List Char)].filterMap Component.ofPiece? = [] := rfl
    rw [components_cons whole (.inr (by simp)), components_cons pieces (.inr (by simp)),
      List.filterMap_append, List.filterMap_append, last, idle, List.append_nil,
      List.append_assoc]
  · cases parts : path.pieces with
    | nil => exact absurd parts (List.splitOn_ne_nil '/' _)
    | cons first rest =>
      have some_piece : first ≠ [] ∨ rest ≠ [] := by
        by_contra none
        obtain ⟨rfl, rfl⟩ := not_or.mp none |>.imp not_not.mp not_not.mp
        exact nonempty (text_eq_of_pieces parts)
      rw [parts, List.cons_append] at pieces
      rw [components_cons parts some_piece, components_cons pieces (.inr (by simp)),
        List.filterMap_append, last, List.append_assoc]

/-- **The components of a path below a directory** are those of the directory and the names. -/
theorem components_descend (path : Path) (names : List FileName) :
    (path.descend names).components = path.components ++ names.map .named := by
  induction names generalizing path with
  | nil => exact (List.append_nil _).symm
  | cons name names ih =>
    have step : path.descend (name :: names) = (path.join name.text).descend names := rfl
    rw [step, ih, components_join, List.append_assoc]
    rfl

/-- Paths below one directory differ when the names do. -/
theorem descend_inj {path : Path} {names others : List FileName}
    (same : (path.descend names).components = (path.descend others).components) :
    names = others := by
  rw [components_descend, components_descend] at same
  exact List.map_injective_iff.mpr (fun _ _ => Component.named.inj) (List.append_cancel_left same)

/-- The last name on the way down is the last component. -/
theorem fileName?_descend (path : Path) (front : List FileName) (name : FileName) :
    (path.descend (front ++ [name])).fileName? = some name := by
  rw [fileName?, components_descend, List.map_append, ← List.append_assoc, List.map_singleton,
    List.getLast?_concat]

/-! ## 3. Relative paths -/

/-- The text of the relative path that leads down some names. -/
def relativeText (names : List FileName) : String := "/".intercalate (names.map FileName.text)

/-- What is written between a path and a relative path behind it. -/
def between (path : Path) : String :=
  if path.text = "" || path.hasTrailingSeparator then "" else "/"

theorem join_relative (path : Path) {text : String} (relative : text.toList.head? ≠ some '/') :
    path.join text = ⟨path.text ++ path.between ++ text⟩ := by
  unfold join between
  rw [if_neg (by simpa [isAbsolute] using relative)]
  split
  · rw [String.append_empty]
  · rfl

/-- The text of a name does not begin with a separator, whatever follows it. -/
theorem head?_name_append (name : FileName) (rest : List Char) :
    (name.text.toList ++ rest).head? ≠ some '/' := by
  cases chars : name.text.toList with
  | nil => exact absurd chars name.text_ne_nil
  | cons c text =>
    intro first
    obtain rfl : c = '/' := by simpa using first
    exact name.not_mem (by simp [chars])

/-- A separator is written behind a path that ends in a name. -/
theorem between_join (path : Path) (name : FileName) : (path.join name.text).between = "/" := by
  obtain ⟨front, pieces, -⟩ := path.pieces_join name
  have open_ := not_trailing_of_pieces pieces
  have nonempty : (path.join name.text).text ≠ "" := by
    intro empty
    have own : (path.join name.text).pieces = [[]] := by
      rw [Path.pieces, empty]
      rfl
    have last := congrArg List.getLast? (own.symm.trans pieces)
    rw [List.getLast?_concat] at last
    exact name.text_ne_nil (Option.some.inj last).symm
  simp [between, open_, nonempty]

/-- Going down a name and then a relative path is going down both at once. -/
theorem join_join (path : Path) (name : FileName) {text : String}
    (relative : text.toList.head? ≠ some '/') :
    (path.join name.text).join text = path.join (name.text ++ "/" ++ text) := by
  have single := head?_name_append name []
  have both := head?_name_append name ('/' :: text.toList)
  rw [List.append_nil] at single
  have whole : (name.text ++ "/" ++ text).toList = name.text.toList ++ '/' :: text.toList := by
    simp
  rw [join_relative _ relative, between_join, path.join_relative single,
    path.join_relative (whole ▸ both)]
  simp only [String.append_assoc]

/-- **Going down name by name is going down a relative path.** -/
theorem descend_eq_join (path : Path) : ∀ {names : List FileName}, names ≠ [] →
    path.descend names = path.join (relativeText names)
  | [], nonempty => absurd rfl nonempty
  | [name], _ => by
    rw [relativeText, List.map_singleton, String.intercalate_singleton]
    rfl
  | name :: next :: names, _ => by
    have step : path.descend (name :: next :: names) =
        (path.join name.text).descend (next :: names) := rfl
    have text : relativeText (name :: next :: names) =
        name.text ++ "/" ++ relativeText (next :: names) := by
      simp [relativeText]
    have relative : (relativeText (next :: names)).toList.head? ≠ some '/' := by
      obtain ⟨rest, eq⟩ : ∃ rest, (relativeText (next :: names)).toList =
          next.text.toList ++ rest := by
        cases names <;> simp [relativeText]
      rw [eq]
      exact head?_name_append next rest
    rw [step, descend_eq_join _ (by simp), join_join _ _ relative, text]

end Path

/-! ## 4. Posts below a directory -/

namespace Site

/-- The stem of a name that is that of a post. -/
def postStem? (name : FileName) : Option String :=
  if name.extension? = some postExtension then some name.stem else none

/-- **A name is that of a post** exactly when it is a stem with the extension of posts behind it. -/
theorem postStem?_eq_some_iff {name : FileName} {stem : String} :
    postStem? name = some stem ↔ stem ≠ "" ∧ name.text = stem ++ ".txt" := by
  rw [← FileName.extension?_eq_txt_iff, postStem?]
  split
  · rename_i isPost
    simp [isPost]
  · rename_i noPost
    simp [noPost]

/-- The entry for a file below a directory. -/
theorem ofPath?_descend (directory : Path) (front : List FileName) (name : FileName) :
    PostEntry.ofPath? (directory.descend (front ++ [name])) =
      (postStem? name).map fun stem =>
        ⟨directory.descend (front ++ [name]), datetimeOfStem stem⟩ := by
  rw [PostEntry.ofPath?, Path.isPost, Path.datetime?, directory.fileName?_descend, postStem?]
  simp only [Option.bind_some, decide_eq_true_eq]
  split <;> rfl

end Site

end SinglePage
