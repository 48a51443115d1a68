/-
# The posts of a site

The posts are files in the posts directory, or anywhere below it; their names say that they are
posts and when.  They are listed newest first.  Two posts of the same time stand in the order
of their paths, so the listing does not depend on the order in which a directory gives its
entries.

* `mem_sortEntries`: sorting loses no entry and adds none.
-/
import SinglePage.FileSystem.Host
import SinglePage.Post

namespace SinglePage.Site

/-! ## 1. Entries and their order -/

/-- **A post that was found**: its file, and the timestamp in the name of the file. -/
structure PostEntry where
  path : Path
  datetime : String
  deriving DecidableEq

namespace PostEntry

/-- The entry for a file, if its name is that of a post. -/
def ofPath? (path : Path) : Option PostEntry :=
  if path.isPost then path.datetime?.map fun datetime => ⟨path, datetime⟩ else none

/-- Whether one entry is listed before another: the newer first, and of two entries with one
timestamp the one whose path comes first. -/
def before (a b : PostEntry) : Bool :=
  b.datetime < a.datetime || (a.datetime = b.datetime && a.path.before b.path)

end PostEntry

/-- Entries in the order in which they are listed. -/
def sortEntries (entries : List PostEntry) : List PostEntry :=
  entries.mergeSort fun a b => !b.before a

theorem mem_sortEntries {entry : PostEntry} {entries : List PostEntry} :
    entry ∈ sortEntries entries ↔ entry ∈ entries :=
  (List.mergeSort_perm _ _).mem_iff

/-! ## 2. Finding posts -/

variable {m : Type → Type} [Monad m] [Host m]

/-- The outcome of a file operation as that of a build. -/
def orFail {α : Type} (operation : m (Except FileError α)) : ExceptT SiteError m α :=
  ExceptT.mk ((·.mapError .io) <$> operation)

/-- The files in a directory that are posts.  A link to a file counts as a file. -/
def findIn (directory : Path) : ExceptT SiteError m (List PostEntry) := do
  let names ← orFail (Host.list directory)
  let entries := names.filterMap fun name => PostEntry.ofPath? (directory.join name.text)
  entries.filterM fun entry => return (← Host.kind? (m := m) entry.path) = some .file

/-- The files below a directory that are posts.  Links do not count, and directories whose names
begin with a dot are not entered. -/
def findBelow (directory : Path) : ExceptT SiteError m (List PostEntry) := do
  let files ← Host.listBelow (m := m) (fun name => !name.isHidden) directory
  return files.filterMap fun names => PostEntry.ofPath? (directory.descend names)

/-- **The posts of a directory**, newest first. -/
def listPosts (directory : Path) (recursive : Bool) : ExceptT SiteError m (List PostEntry) := do
  if (← Host.kind? (m := m) directory) ≠ some .directory then
    throw (.postsDirectoryNotFound directory)
  let entries := sortEntries (← if recursive then findBelow directory else findIn directory)
  entries.forM fun entry => Host.note (m := m) (.foundPost entry.path entry.datetime)
  return entries

/-- The post of an entry. -/
def readPost (entry : PostEntry) : ExceptT SiteError m Post := do
  let text ← orFail (Host.readText entry.path)
  return ⟨entry.datetime, text⟩

end SinglePage.Site
