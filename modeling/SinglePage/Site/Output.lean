/-
# Writing the page

A page is written beside its place and then moved there, so whoever reads it sees either the old
page or the new one.  If either step fails, what is left of the other file is removed again: all of it
if it could not be moved, and perhaps only its beginning if it could not be written.
-/
import SinglePage.FileSystem.Host

namespace SinglePage.Site

variable {m : Type → Type} [Monad m] [Host m]

/-- The name of the file that is written first.  `tag` keeps runs apart that write the same
file at the same time. -/
def temporaryName (tag fileName : String) : String := fileName ++ ".postpage-tmp-" ++ tag

/-- Writes a file under another name and moves it to its place. -/
def writeAndMove (temporary path : Path) (content : String) : m (Except FileError Unit) := do
  match ← Host.writeFile temporary content.toUTF8 with
  | .error cause => return .error cause
  | .ok () => Host.moveFile temporary path

/-- Makes the directory that a file lies in, unless it is there. -/
def prepareDirectory (path : Path) : m (Except FileError Unit) := do
  match path.parent? with
  | none => return .ok ()
  | some directory =>
    if (← Host.kind? directory).isSome then return .ok ()
    else Host.createDirectories directory

/-- **Writes a file into the output directory**, and returns its path. -/
def writeAtomically (tag : String) (out : Path) (fileName content : String) :
    ExceptT SiteError m Path := do
  let path := out.join fileName
  match ← prepareDirectory (m := m) path with
  | .error cause => throw (.io cause)
  | .ok () =>
    let temporary := path.withFileName (temporaryName tag fileName)
    match ← writeAndMove (m := m) temporary path content with
    | .ok () => return path
    | .error cause =>
      let _ ← Host.removeFile (m := m) temporary
      throw (.io cause)

end SinglePage.Site
