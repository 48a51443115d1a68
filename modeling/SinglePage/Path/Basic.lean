/-
# Paths

A path is a text; its parts are separated by `/`.  Reading it as components ignores what does
not change where it leads: repeated separators, a separator at the end, and a `.` anywhere
but at the beginning.

* `Path.join` puts a name behind a directory without adding a second separator, and
  `Path.parent?`, `Path.fileName?` and `Path.withFileName` read and change the last component;
* paths are ordered component by component, so `a/x` comes before `a.b/x`.
-/
import SinglePage.Path.Name

namespace SinglePage

/-! ## 1. Components -/

/-- **A part of a path.**  `root` stands for the separator that an absolute path begins with,
`current` for a `.` at the beginning of a relative one. -/
inductive Component where
  | root
  | current
  | parent
  | named (name : FileName)
  deriving DecidableEq

namespace Component

/-- The component that a text between two separators stands for; the empty text and `.` stand
for none. -/
def ofPiece? (piece : List Char) : Option Component :=
  if piece = ['.', '.'] then some .parent
  else (FileName.ofText? (String.ofList piece)).map .named

/-- The text of a component. -/
def text : Component → String
  | .root => "/"
  | .current => "."
  | .parent => ".."
  | .named name => name.text

/-- The order of components: the root first, then `.`, then `..`, then the names by their
texts. -/
def before : Component → Component → Bool
  | .root, .root => false
  | .root, _ => true
  | .current, .root => false
  | .current, .current => false
  | .current, _ => true
  | .parent, .named _ => true
  | .parent, _ => false
  | .named a, .named b => a < b
  | .named _, _ => false

end Component

/-! ## 2. Paths -/

/-- **A path** is a text; two paths that lead to the same place may be different texts. -/
structure Path where
  text : String
  deriving DecidableEq

namespace Path

/-- The texts between the separators of a path. -/
def pieces (path : Path) : List (List Char) := path.text.toList.splitOn '/'

/-- The components of a path, from its beginning to its end. -/
def components (path : Path) : List Component :=
  match path.pieces with
  | [] :: piece :: rest => .root :: (piece :: rest).filterMap Component.ofPiece?
  | ['.'] :: rest => .current :: rest.filterMap Component.ofPiece?
  | pieces => pieces.filterMap Component.ofPiece?

/-- Whether the path starts at the root. -/
def isAbsolute (path : Path) : Bool := path.text.toList.head? = some '/'

/-- Whether the path ends in a separator. -/
def hasTrailingSeparator (path : Path) : Bool := path.text.toList.getLast? = some '/'

/-- **The path of `name` inside `path`.**  An absolute `name` stands for itself, and a
separator is written unless `path` is empty or ends in one. -/
def join (path : Path) (name : String) : Path :=
  if (Path.mk name).isAbsolute then ⟨name⟩
  else if path.text = "" || path.hasTrailingSeparator then ⟨path.text ++ name⟩
  else ⟨path.text ++ "/" ++ name⟩

/-- The path of a file below `path`, given by the names on the way to it. -/
def descend (path : Path) (names : List FileName) : Path :=
  names.foldl (fun path name => path.join name.text) path

/-- Whether a text between two separators stands for no component, unless the path begins with
it. -/
def isIdle (piece : List Char) : Bool := piece = [] || piece = ['.']

/-- The path with the given texts between its separators, the last text first, and without idle
texts at its end.  An empty text alone stands for the root. -/
def ofPieces : List (List Char) → Path
  | [] => ⟨""⟩
  | [first] => if first = [] then ⟨"/"⟩ else ⟨String.ofList first⟩
  | piece :: outer =>
    if isIdle piece then ofPieces outer
    else ⟨String.ofList (['/'].intercalate (piece :: outer).reverse)⟩

/-- The directories that lie around the end of a path, the innermost first.  The path is given by
the texts between its separators, the last text first. -/
def parentsOf : List (List Char) → List Path
  | [] => []
  | [first] => if first = [] then [] else [⟨""⟩]
  | piece :: outer => if isIdle piece then parentsOf outer else ofPieces outer :: parentsOf outer

/-- **The directories that a path lies in**, the innermost first: the path without its last
component, without its last two, and so on.  A relative path lies in the empty one at last. -/
def parents (path : Path) : List Path := parentsOf path.pieces.reverse

/-- **The path without its last component**, if that is not the root. -/
def parent? (path : Path) : Option Path := path.parents.head?

/-- The last component, if it is a name. -/
def fileName? (path : Path) : Option FileName :=
  match path.components.getLast? with
  | some (.named name) => some name
  | _ => none

/-- The path with `name` in place of its last component; where the last component is not a
name, `name` is put behind it. -/
def withFileName (path : Path) (name : String) : Path :=
  match path.fileName?, path.parent? with
  | some _, some parent => parent.join name
  | _, _ => path.join name

example : (Path.mk "a/./b//c/").parents.map Path.text = ["a/./b", "a", ""] := by decide +kernel

example : (Path.mk "//a/.").parents.map Path.text = ["/"] := by decide +kernel

/-! ## 3. The order of paths -/

/-- Whether one list of components comes before another, the first difference deciding. -/
def componentsBefore : List Component → List Component → Bool
  | _, [] => false
  | [], _ :: _ => true
  | a :: l, b :: r => a.before b || (a = b && componentsBefore l r)

/-- **Whether a path comes before another**, component by component. -/
def before (a b : Path) : Bool := componentsBefore a.components b.components

end Path

end SinglePage
