/-
# Names of files and directories

A name is what a directory lists its entries under: any text except the empty one, `.`, `..`
and texts with a `/`.  Names are ordered as their texts are, so maps can be keyed by names and
by lists of names.

A name splits into a stem and an extension at its last dot, unless that dot is its first
character:

* `stem_extension`: the two parts and the dot between them make the name again.
-/
import SinglePage.KeyOrder

namespace SinglePage

/-! ## 1. Names -/

/-- Whether a text can name a directory entry. -/
def isFileName (text : String) : Bool :=
  text ≠ "" && text ≠ "." && text ≠ ".." && !text.toList.contains '/'

/-- **The name of a directory entry.** -/
structure FileName where
  text : String
  valid : isFileName text = true
  deriving DecidableEq

namespace FileName

/-- The name with the given text, if there is one. -/
def ofText? (text : String) : Option FileName :=
  if valid : isFileName text = true then some ⟨text, valid⟩ else none

theorem ext_text {a b : FileName} (h : a.text = b.text) : a = b := by
  cases a
  cases b
  simpa using h

theorem text_of_ofText? {text : String} {name : FileName} (h : ofText? text = some name) :
    name.text = text := by
  unfold ofText? at h
  split at h
  · exact congrArg FileName.text (Option.some.inj h) |>.symm
  · exact absurd h (by simp)

@[simp] theorem ofText?_text (name : FileName) : ofText? name.text = some name := by
  simp [ofText?, name.valid]

/-- Whether the name begins with a dot. -/
def isHidden (name : FileName) : Bool := name.text.toList.head? = some '.'

/-! ## 2. The order of names -/

instance : LT FileName := ⟨fun a b => a.text < b.text⟩

instance : DecidableLT FileName := fun a b => inferInstanceAs (Decidable (a.text < b.text))

instance : KeyOrder FileName where
  irrefl a := KeyOrder.irrefl a.text
  trans ab bc := KeyOrder.trans (κ := String) ab bc
  connected nab nba := ext_text (KeyOrder.connected nab nba)

/-! ## 3. Stem and extension -/

/-- Splits a text at its last dot: the text before the dot, and the text after it.  A text
without a dot, or with none but at its beginning, does not split. -/
def splitLastDot? (text : List Char) : Option (List Char × List Char) :=
  match text.reverse.dropWhile (· ≠ '.') with
  | _ :: c :: before =>
    some ((c :: before).reverse, (text.reverse.takeWhile (· ≠ '.')).reverse)
  | _ => none

theorem eq_of_splitLastDot? {text before after : List Char}
    (h : splitLastDot? text = some (before, after)) : text = before ++ '.' :: after := by
  have whole := List.takeWhile_append_dropWhile (p := (· ≠ '.')) (l := text.reverse)
  have dot := List.head?_dropWhile_not (fun c : Char => decide (c ≠ '.')) text.reverse
  unfold splitLastDot? at h
  split at h
  · rename_i d c rest hd
    rw [hd] at whole dot
    obtain ⟨rfl, rfl⟩ := Prod.mk.inj (Option.some.inj h)
    have dot : d = '.' := by simpa using dot
    subst dot
    have := congrArg List.reverse whole
    simp only [List.reverse_append, List.reverse_reverse, List.reverse_cons, List.append_assoc,
      List.cons_append, List.nil_append] at this ⊢
    exact this.symm
  · exact absurd h (by simp)

/-- The name without its extension. -/
def stem (name : FileName) : String :=
  match splitLastDot? name.text.toList with
  | some (before, _) => String.ofList before
  | none => name.text

/-- What follows the last dot of the name, if that dot is not its first character. -/
def extension? (name : FileName) : Option String :=
  (splitLastDot? name.text.toList).map fun parts => String.ofList parts.2

theorem stem_extension {name : FileName} {extension : String}
    (h : name.extension? = some extension) :
    name.text = name.stem ++ "." ++ extension := by
  unfold extension? at h
  obtain ⟨⟨before, after⟩, split, rfl⟩ := Option.map_eq_some_iff.mp h
  have whole := eq_of_splitLastDot? split
  unfold stem
  rw [split]
  apply String.toList_injective
  simp [whole]

end FileName

end SinglePage
