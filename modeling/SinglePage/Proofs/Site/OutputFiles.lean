/-
# Files in the output directory and the files beside them

A file is written under another name first and moved from there to its place.  The other name is the
name of the file with a suffix behind it, and it is put where the file name stands in the path.  If the
name of the file is a relative path, so is the other one, and the directories in it are gone down once
more: the temporary file belongs into a directory *below* that of the file.  Only where the name is a
single one, as that of the page is, do both files belong into the same directory.

* `OutputFile.path_endsIn`, `OutputFile.temporary_endsIn`: which way the two paths go;
* `OutputFile.path_parent`: which way goes the path of the directory around the file;
* `Options.page_endsIn`, `Options.temporary_endsIn`: the page and its temporary file are two names in
  the output directory.
-/
import SinglePage.Proofs.Path.PostNames
import SinglePage.Site.Options
import SinglePage.Site.Output

namespace SinglePage.Site

/-! ## 1. Names -/

/-- A name with something behind it, in which there is no separator, is a name again. -/
theorem isFileName_suffixed {tag fileName : String} (clear : '/' ∉ fileName.toList)
    (clear' : '/' ∉ tag.toList) : isFileName (temporaryName tag fileName) = true := by
  have long : 2 < (temporaryName tag fileName).toList.length := by
    simp [temporaryName]
    omega
  have other : ∀ text : String, text.toList.length ≤ 2 → temporaryName tag fileName ≠ text := by
    rintro _ short rfl
    omega
  have noSlash : '/' ∉ (temporaryName tag fileName).toList := by
    simp [temporaryName, clear, clear']
  simp [isFileName, other "" (by decide), other "." (by decide), other ".." (by decide), noSlash]

/-- The number of a process is written in digits alone. -/
theorem isDigit_of_mem_toString {pid : Nat} {c : Char} (mem : c ∈ (toString pid).toList) :
    c.isDigit = true := by
  have digit : c ∈ Nat.toDigits 10 pid := by simpa using mem
  exact Nat.isDigit_of_mem_toDigits (by decide) (by decide) digit

theorem separator_not_mem_toString (pid : Nat) : '/' ∉ (toString pid).toList :=
  fun mem => absurd (isDigit_of_mem_toString mem) (by decide)

/-- The name that the process with this number writes a file under first. -/
def temporaryOf (name : FileName) (pid : Nat) : FileName :=
  ⟨temporaryName (toString pid) name.text,
    isFileName_suffixed name.not_mem (separator_not_mem_toString pid)⟩

theorem ne_temporaryOf (name : FileName) (pid : Nat) : name ≠ temporaryOf name pid := by
  intro eq
  have sizes := congrArg (fun name : FileName => name.text.toList.length) eq
  simp [temporaryOf, temporaryName] at sizes

/-! ## 2. Files -/

/-- **A file in the output directory**, by the names on the way down to it. -/
structure OutputFile where
  out : Path
  directories : List FileName
  name : FileName

namespace OutputFile

/-- The name of the file as it is given: a relative path. -/
def fileName (file : OutputFile) : String := Path.relativeText (file.directories ++ [file.name])

/-- The path of the file. -/
def path (file : OutputFile) : Path := file.out.join file.fileName

/-- The path that the process with this number writes the file to before it is moved. -/
def temporary (file : OutputFile) (pid : Nat) : Path :=
  file.path.withFileName (temporaryName (toString pid) file.fileName)

/-- The way from the output directory to that of the file. -/
def inner (file : OutputFile) : List Step := file.directories.map .down

/-- The way to the directory of the file. -/
def way (file : OutputFile) : List Step := file.out.steps ++ file.inner

/-- Going down some names takes the steps of these names. -/
theorem sameWay_descend (path : Path) (names : List FileName) :
    SameWay (path.descend names).steps (path.steps ++ names.map .down) := by
  induction names generalizing path with
  | nil =>
    rw [List.map_nil, List.append_nil]
    rfl
  | cons name names ih =>
    obtain ⟨steps, ends, same⟩ := path.endsIn_join name
    have first : SameWay (path.join name.text).steps (path.steps ++ [.down name]) := by
      rw [ends]
      exact same.append rfl
    have onward := (ih (path.join name.text)).trans (first.append (c := names.map .down) rfl)
    rwa [List.append_assoc] at onward

/-- A relative path behind a path is its last name behind the directories. -/
theorem join_relativeText (path : Path) (directories : List FileName) (name : FileName) :
    path.join (Path.relativeText (directories ++ [name])) =
      (path.descend directories).join name.text := by
  rw [← Path.descend_eq_join path (by simp), Path.descend, List.foldl_append]
  rfl

/-- A suffix behind a relative path is a suffix behind its last name. -/
theorem temporaryName_relativeText (directories : List FileName) (name : FileName) (pid : Nat) :
    temporaryName (toString pid) (Path.relativeText (directories ++ [name])) =
      Path.relativeText (directories ++ [temporaryOf name pid]) := by
  induction directories with
  | nil => simp [Path.relativeText, temporaryOf]
  | cons directory directories ih =>
    have front : ∀ last : FileName, Path.relativeText (directory :: directories ++ [last]) =
        directory.text ++ "/" ++ Path.relativeText (directories ++ [last]) := by
      intro last
      cases directories <;> simp [Path.relativeText]
    rw [front, front, ← ih]
    simp only [temporaryName, String.append_assoc]

/-- The pieces of the path of the file. -/
theorem pieces_path (file : OutputFile) : ∃ front,
    file.path.pieces = front ++ [file.name.text.toList] ∧
      SameWay (front.map Step.ofPiece) file.way := by
  rw [path, fileName, join_relativeText]
  obtain ⟨front, pieces, same⟩ := (file.out.descend file.directories).pieces_join file.name
  exact ⟨front, pieces, same.trans (sameWay_descend file.out file.directories)⟩

/-- **The path of the file leads to its name in its directory.** -/
theorem path_endsIn (file : OutputFile) : ∃ steps, file.path.EndsIn steps file.name ∧
    SameWay steps file.way ∧ file.path.hasTrailingSeparator = false := by
  obtain ⟨front, pieces, same⟩ := file.pieces_path
  exact ⟨_, Path.endsIn_of_pieces pieces, same, Path.not_trailing_of_pieces pieces⟩

/-- **The directory around the file** has a path of its own, which goes the same way. -/
theorem path_parent (file : OutputFile) : ∃ directory,
    file.path.parent? = some directory ∧ SameWay directory.steps file.way := by
  obtain ⟨front, pieces, same⟩ := file.pieces_path
  exact ⟨_, Path.parent?_of_pieces pieces, (Path.steps_parent pieces).trans same⟩

/-- **The path of the temporary file goes down the directories of the file once more.** -/
theorem temporary_endsIn (file : OutputFile) (pid : Nat) : ∃ steps,
    (file.temporary pid).EndsIn steps (temporaryOf file.name pid) ∧
      SameWay steps (file.way ++ file.inner) ∧
        (file.temporary pid).hasTrailingSeparator = false := by
  obtain ⟨front, pieces, same⟩ := file.pieces_path
  have whole : file.temporary pid = ((Path.ofPieces front.reverse).descend file.directories).join
      (temporaryOf file.name pid).text := by
    rw [temporary, fileName, temporaryName_relativeText, Path.withFileName,
      Path.fileName?_of_pieces pieces, Path.parent?_of_pieces pieces]
    exact join_relativeText _ _ _
  obtain ⟨steps, ends, same'⟩ := ((Path.ofPieces front.reverse).descend
    file.directories).endsIn_join (temporaryOf file.name pid)
  rw [← whole] at ends
  have around := ((Path.steps_parent pieces).trans same).append (c := file.inner) rfl
  refine ⟨steps, ends, same'.trans ((sameWay_descend _ _).trans around), ?_⟩
  rw [whole]
  exact Path.not_trailing_join _ _

end OutputFile

/-! ## 3. The page -/

/-- The name of the page. -/
def pageFileName : FileName := ⟨pageFile, by decide⟩

namespace Options

/-- The path of the page. -/
def page (options : Options) : Path := options.out.join pageFile

/-- The path that the process with this number writes the page to before it is moved. -/
def temporary (options : Options) (pid : Nat) : Path :=
  options.page.withFileName (temporaryName (toString pid) pageFile)

/-- The page as a file in the output directory. -/
def pageOutput (options : Options) : OutputFile := ⟨options.out, [], pageFileName⟩

theorem path_pageOutput (options : Options) : options.pageOutput.path = options.page := rfl

theorem temporary_pageOutput (options : Options) (pid : Nat) :
    options.pageOutput.temporary pid = options.temporary pid := rfl

theorem way_pageOutput (options : Options) : options.pageOutput.way = options.out.steps :=
  List.append_nil _

/-- **The page is a name in the output directory.** -/
theorem page_endsIn (options : Options) : ∃ steps, options.page.EndsIn steps pageFileName ∧
    SameWay steps options.out.steps ∧ options.page.hasTrailingSeparator = false := by
  rw [← options.way_pageOutput, ← options.path_pageOutput]
  exact options.pageOutput.path_endsIn

/-- **The temporary file is a name in the output directory**, too. -/
theorem temporary_endsIn (options : Options) (pid : Nat) : ∃ steps,
    (options.temporary pid).EndsIn steps (temporaryOf pageFileName pid) ∧
      SameWay steps options.out.steps ∧ (options.temporary pid).hasTrailingSeparator = false := by
  rw [← options.way_pageOutput, ← List.append_nil options.pageOutput.way,
    ← options.temporary_pageOutput]
  exact options.pageOutput.temporary_endsIn pid

/-- **The directory around the page** is the output directory, by a path of its own. -/
theorem page_parent (options : Options) : ∃ directory,
    options.page.parent? = some directory ∧ SameWay directory.steps options.out.steps := by
  rw [← options.way_pageOutput, ← options.path_pageOutput]
  exact options.pageOutput.path_parent

end Options

end SinglePage.Site
