/-
# Building the page

The page of a site is its page template, filled in with the posts and the filters; the filter
that renders posts knows the post template.  Templates are loaded before any post is looked at,
and the page is rendered completely before anything is written.
-/
import SinglePage.Filter.Registry
import SinglePage.Site.Listing
import SinglePage.Site.Options
import SinglePage.Site.Output
import SinglePage.Site.Source

namespace SinglePage.Site

/-! ## 1. Rendering -/

/-- What the page template of a site can refer to: the posts and the filters. -/
def pageVariables (post : Template) (posts : List Post) : Variables :=
  Variables.withFilters (SortedMap.empty.insert "posts" (.list (posts.map Post.toValue)))
    (Registry.builtin post)

variable {m : Type → Type} [Monad m] [Host m]

/-- **The text of the page.** -/
def render (options : Options) : ExceptT SiteError m String := do
  let page ← loadTemplate options.templates Template.pageName
  let post ← loadTemplate options.templates Template.postName
  let entries ← listPosts options.posts options.recursive
  let posts ← entries.mapM readPost
  page.apply (pageVariables post posts)

/-! ## 2. Building -/

/-- **Renders the page and writes it**; the path that it was written to is returned. -/
def build (tag : String) (options : Options) : ExceptT SiteError m Path := do
  let html ← render options
  let path ← writeAtomically tag options.out pageFile html
  Host.note (m := m) (.wrotePage path html.utf8ByteSize)
  return path

end SinglePage.Site
