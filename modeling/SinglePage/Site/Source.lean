/-
# Where templates come from

A template is read from a file, or taken from those that come with the program.  A templates
directory may hold files that take the place of the built-in templates; where it does not, the
built-in one is used.
-/
import SinglePage.FileSystem.Host
import SinglePage.Template.Builtin

namespace SinglePage.Site

variable {m : Type → Type} [Monad m] [Host m]

/-- **The template in a file.** -/
def templateFromFile (path : Path) : ExceptT SiteError m Template := do
  match ← Host.readText (m := m) path with
  | .error cause => throw (.unreadableTemplate path cause)
  | .ok source => Template.parse source

/-- The built-in template of a name. -/
def builtinTemplate (name : String) : ExceptT SiteError m Template := do
  Host.note (m := m) (.builtinTemplate name)
  Template.builtin name

/-- **The template of a name**: the one in the templates directory, if there is one, and the
built-in one otherwise. -/
def loadTemplate (directory : Option Path) (name : String) : ExceptT SiteError m Template := do
  match directory with
  | none => builtinTemplate name
  | some directory =>
    let path := directory.join name
    if (← Host.kind? (m := m) path).isSome then
      Host.note (m := m) (.customTemplate path)
      templateFromFile path
    else builtinTemplate name

end SinglePage.Site
