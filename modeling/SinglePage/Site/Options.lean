/-
# What to build from what

The options of a build: where the posts are, where the page goes, and whether templates of the
user's own take the place of the built-in ones.
-/
import SinglePage.Path.Basic

namespace SinglePage.Site

/-- **The options of a build.** -/
structure Options where
  /-- The directory that holds the posts. -/
  posts : Path := ⟨"posts"⟩
  /-- The directory that the page is written into. -/
  out : Path := ⟨"_site"⟩
  /-- The directory that may hold templates to use instead of the built-in ones. -/
  templates : Option Path := none
  /-- Whether posts are also looked for in the directories inside the posts directory. -/
  recursive : Bool := false
  deriving DecidableEq

instance : Inhabited Options := ⟨⟨⟨"posts"⟩, ⟨"_site"⟩, none, false⟩⟩

/-- The name of the page in the output directory. -/
def pageFile : String := "index.html"

end SinglePage.Site
