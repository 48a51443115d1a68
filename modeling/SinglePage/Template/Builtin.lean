/-
# The templates that come with the program

`page.html` is a whole page with one reference, to the list of posts; `post.html` is one
section with three, to a post's text and, twice, to its timestamp.  Both are given as their
segments, and the proofs that their texts parse to these segments are part of them, so a page
can be built from them without any check at run time.

* `segmentsOf_page`, `segmentsOf_post`: what the two texts parse to.
-/
import SinglePage.Template.Parser

namespace SinglePage.Template

/-! ## 1. Pieces of a fixed text

To read a fixed text its literals and the bodies of its references are checked one by one. -/

/-- `text` is a literal of `size` bytes that a reference can follow. -/
def IsLiteral (text : String) (size : Nat) : Prop :=
  ∃ chars, text = String.ofList chars ∧ breakPair '{' chars = none ∧
    chars.getLast? ≠ some '{' ∧ Text.byteLength chars = size

/-- `text` is the body, of `size` bytes, of a reference to `key` through `filters`. -/
def IsBody (text : String) (size : Nat) (key : String) (filters : List String) : Prop :=
  ∃ chars, text = String.ofList chars ∧ breakPair '}' chars = none ∧
    chars.getLast? ≠ some '}' ∧ Text.byteLength chars = size ∧
      ∀ span, Reference.ofBody chars span = ⟨key, filters, span⟩

/-- Reads a literal and the reference behind it. -/
theorem segmentsFrom_pieces {literal body key : String} {filters : List String} {m n : Nat}
    (isLiteral : IsLiteral literal m) (isBody : IsBody body n key filters) (offset : Nat)
    (rest : String) :
    segmentsFrom offset (literal ++ "\x7b\x7b" ++ body ++ "\x7d\x7d" ++ rest).toList =
      (segmentsFrom (offset + m + 2 + n + 2) rest.toList).map fun segments =>
        .literal literal ::
          .reference ⟨key, filters, ⟨offset + m, offset + m + 2 + n + 2⟩⟩ :: segments := by
  obtain ⟨chars, rfl, clear, last, rfl⟩ := isLiteral
  obtain ⟨chars', rfl, clear', last', rfl, reference⟩ := isBody
  have cut : (String.ofList chars ++ "\x7b\x7b" ++ String.ofList chars' ++ "\x7d\x7d" ++
      rest).toList = chars ++ '{' :: '{' :: (chars' ++ '}' :: '}' :: rest.toList) := by
    simp
  rw [cut, segmentsFrom_reference (breakPair_eq_none_iff.mp clear) last
    (breakPair_eq_none_iff.mp clear') last']
  simp only [reference]

/-- Reads the last literal. -/
theorem segmentsFrom_piece {literal : String} {size : Nat} (isLiteral : IsLiteral literal size)
    (offset : Nat) : segmentsFrom offset literal.toList = .ok [.literal literal] := by
  obtain ⟨chars, rfl, clear, -, -⟩ := isLiteral
  rw [String.toList_ofList, segmentsFrom_literal (breakPair_eq_none_iff.mp clear)]

/-! ## 2. The page -/

/-- The page up to its reference. -/
def pageHead : String :=
  "<!doctype html>
<meta charset=\"utf-8\">
<meta name=\"viewport\" content=\"width=device-width, initial-scale=1\">
<style>
* \x7b background: #fafaff; \x7d
main \x7b
    font-family: helvetica, sans-serif;
    font-size: 1.3rem;
    max-width: 60ch;
    margin: 0 auto;
\x7d
section \x7b
    border: 1px solid #000;
    border-radius: 0.25em;
\x7d
h2 \x7b font-size: 2rem; \x7d
ul \x7b
    list-style: none;
    margin: 0;
    padding: 0;
\x7d
a, a:visited \x7b color: #166491; \x7d
a:active, a:focus, a:hover\x7b color: #2197db; \x7d
</style>
<main>
<h1>Recent Updates for @duckinator</h1>

"

/-- The page behind its reference. -/
def pageFoot : String := "\n</main>\n"

/-- The text of the built-in page. -/
def pageSource : String :=
  pageHead ++ "\x7b\x7b" ++ " posts | postify-each | join-lines " ++ "\x7d\x7d" ++ pageFoot

set_option maxRecDepth 10000 in
theorem isLiteral_pageHead : IsLiteral pageHead 543 :=
  ⟨_, rfl, by decide, by decide, by decide⟩

theorem isLiteral_pageFoot : IsLiteral pageFoot 9 := ⟨_, rfl, by decide, by decide, by decide⟩

theorem isBody_posts : IsBody " posts | postify-each | join-lines " 35 "posts"
    ["postify-each", "join-lines"] :=
  ⟨_, rfl, by decide, by decide, by decide, fun _ => rfl⟩

theorem segmentsOf_page : segmentsOf pageSource =
    .ok [.literal pageHead, .reference ⟨"posts", ["postify-each", "join-lines"], ⟨543, 582⟩⟩,
      .literal pageFoot] := by
  rw [segmentsOf, pageSource, segmentsFrom_pieces isLiteral_pageHead isBody_posts,
    segmentsFrom_piece isLiteral_pageFoot]
  rfl

/-- **The built-in page**: the posts, each rendered, joined by newlines. -/
def page : Template := ⟨pageSource, _, segmentsOf_page⟩

/-! ## 3. The post -/

/-- The post up to its text. -/
def postHead : String := "<section>\n<p>"

/-- The post between its text and its timestamp. -/
def postMiddle : String := "</p>\n<time datetime=\""

/-- The post between its two timestamps. -/
def postBetween : String := "\">"

/-- The post behind its second timestamp. -/
def postFoot : String := "</time>\n</section>\n"

/-- The text of the built-in post. -/
def postSource : String :=
  postHead ++ "\x7b\x7b" ++ " text " ++ "\x7d\x7d" ++
    (postMiddle ++ "\x7b\x7b" ++ " datetime " ++ "\x7d\x7d" ++
      (postBetween ++ "\x7b\x7b" ++ " datetime | friendly-datetime " ++ "\x7d\x7d" ++ postFoot))

theorem isLiteral_postHead : IsLiteral postHead 13 := ⟨_, rfl, by decide, by decide, by decide⟩

theorem isLiteral_postMiddle : IsLiteral postMiddle 21 := ⟨_, rfl, by decide, by decide, by decide⟩

theorem isLiteral_postBetween : IsLiteral postBetween 2 := ⟨_, rfl, by decide, by decide, by decide⟩

theorem isLiteral_postFoot : IsLiteral postFoot 19 := ⟨_, rfl, by decide, by decide, by decide⟩

theorem isBody_text : IsBody " text " 6 "text" [] :=
  ⟨_, rfl, by decide, by decide, by decide, fun _ => rfl⟩

theorem isBody_datetime : IsBody " datetime " 10 "datetime" [] :=
  ⟨_, rfl, by decide, by decide, by decide, fun _ => rfl⟩

theorem isBody_friendly :
    IsBody " datetime | friendly-datetime " 30 "datetime" ["friendly-datetime"] :=
  ⟨_, rfl, by decide, by decide, by decide, fun _ => rfl⟩

theorem segmentsOf_post : segmentsOf postSource =
    .ok [.literal postHead, .reference ⟨"text", [], ⟨13, 23⟩⟩, .literal postMiddle,
      .reference ⟨"datetime", [], ⟨44, 58⟩⟩, .literal postBetween,
      .reference ⟨"datetime", ["friendly-datetime"], ⟨60, 94⟩⟩, .literal postFoot] := by
  rw [segmentsOf, postSource, segmentsFrom_pieces isLiteral_postHead isBody_text,
    segmentsFrom_pieces isLiteral_postMiddle isBody_datetime,
    segmentsFrom_pieces isLiteral_postBetween isBody_friendly,
    segmentsFrom_piece isLiteral_postFoot]
  rfl

/-- **The built-in post**: the text in a paragraph, and the timestamp as it is and as it is
spoken. -/
def post : Template := ⟨postSource, _, segmentsOf_post⟩

/-! ## 4. By name -/

/-- The name of the page template. -/
def pageName : String := "page.html"

/-- The name of the post template. -/
def postName : String := "post.html"

/-- **The built-in template of a name**; there are no others than these two. -/
def builtin (name : String) : Except SiteError Template :=
  if name = pageName then .ok page
  else if name = postName then .ok post
  else .error (.unknownTemplate name)

end SinglePage.Template
