/-
# Blank characters, and trimming them

The blanks are the 25 characters that Unicode gives the property `White_Space`.  Trimming a
text removes the blanks at its two ends and keeps every other character:

* `isBlank_of_isWhitespace`: the four blanks that the standard library knows are among them;
* `trim_of_all_blank`, `trim_append_blank`, `trim_blank_append`: blanks at either end do not
  show in the trimmed text;
* `trim_trim`: a trimmed text has nothing left to trim.
-/

namespace SinglePage.Text

/-! ## 1. The property -/

/-- **A character is blank** when it has the Unicode property `White_Space`.  The zero-width
space, the byte order mark and the ASCII separators U+001C to U+001F are not blank. -/
def isBlank (c : Char) : Bool :=
  let n := c.toNat
  (0x09 ≤ n && n ≤ 0x0D) || n = 0x20 || n = 0x85 || n = 0xA0 || n = 0x1680 ||
    (0x2000 ≤ n && n ≤ 0x200A) || n = 0x2028 || n = 0x2029 || n = 0x202F || n = 0x205F ||
    n = 0x3000

theorem isBlank_of_isWhitespace {c : Char} (h : c.isWhitespace = true) : isBlank c = true := by
  simp only [Char.isWhitespace, Bool.or_eq_true, decide_eq_true_eq] at h
  rcases h with ((h | h) | h) | h <;> subst h <;> decide

example : ((List.range 0x100).filter fun n => isBlank (Char.ofNat n)) =
    [0x09, 0x0A, 0x0B, 0x0C, 0x0D, 0x20, 0x85, 0xA0] := by decide

/-! ## 2. Trimming -/

/-- The text without the blanks at its end. -/
def trimEnd (text : List Char) : List Char := (text.reverse.dropWhile isBlank).reverse

/-- The text without the blanks at its two ends. -/
def trim (text : List Char) : List Char := trimEnd (text.dropWhile isBlank)

theorem dropWhile_blank_append {pad : List Char} (h : ∀ c ∈ pad, isBlank c = true)
    (text : List Char) : (pad ++ text).dropWhile isBlank = text.dropWhile isBlank := by
  induction pad with
  | nil => rfl
  | cons c pad ih =>
    rw [List.cons_append, List.dropWhile_cons_of_pos (h c List.mem_cons_self)]
    exact ih fun d hd => h d (List.mem_cons_of_mem _ hd)

theorem trimEnd_append_blank (text : List Char) {pad : List Char}
    (h : ∀ c ∈ pad, isBlank c = true) : trimEnd (text ++ pad) = trimEnd text := by
  unfold trimEnd
  rw [List.reverse_append, dropWhile_blank_append fun c hc => h c (List.mem_reverse.mp hc)]

@[simp] theorem trim_nil : trim [] = [] := rfl

theorem trim_blank_append {pad : List Char} (h : ∀ c ∈ pad, isBlank c = true)
    (text : List Char) : trim (pad ++ text) = trim text := by
  unfold trim
  rw [dropWhile_blank_append h]

theorem trim_of_all_blank {text : List Char} (h : ∀ c ∈ text, isBlank c = true) :
    trim text = [] := by
  have := trim_blank_append h []
  simpa using this

theorem trim_append_blank (text : List Char) {pad : List Char}
    (h : ∀ c ∈ pad, isBlank c = true) : trim (text ++ pad) = trim text := by
  by_cases hall : ∀ c ∈ text, isBlank c = true
  · rw [trim_of_all_blank hall, trim_of_all_blank]
    intro c hc
    rcases List.mem_append.mp hc with hc | hc
    · exact hall c hc
    · exact h c hc
  · have keep : (text ++ pad).dropWhile isBlank = text.dropWhile isBlank ++ pad := by
      induction text with
      | nil => exact absurd (by simp) hall
      | cons c text ih =>
        cases hc : isBlank c with
        | true =>
          rw [List.cons_append, List.dropWhile_cons_of_pos hc, List.dropWhile_cons_of_pos hc]
          exact ih fun hrest => hall fun d hd => by
            rcases List.mem_cons.mp hd with rfl | hd
            · exact hc
            · exact hrest d hd
        | false => simp [hc]
    unfold trim
    rw [keep, trimEnd_append_blank _ h]

/-- A text that neither begins nor ends with a blank is its own trimmed form. -/
theorem trim_eq_self {text : List Char} (first : ∀ c ∈ text.head?, isBlank c = false)
    (last : ∀ c ∈ text.getLast?, isBlank c = false) : trim text = text := by
  have drop_eq : ∀ {l : List Char}, (∀ c ∈ l.head?, isBlank c = false) →
      l.dropWhile isBlank = l := by
    intro l h
    cases l with
    | nil => rfl
    | cons c l => simp [h c (by simp)]
  unfold trim trimEnd
  rw [drop_eq first, drop_eq (by simpa using last), List.reverse_reverse]

theorem head?_dropWhile_blank (text : List Char) :
    ∀ c ∈ (text.dropWhile isBlank).head?, isBlank c = false := by
  intro c hc
  have := List.head?_dropWhile_not isBlank text
  rw [Option.mem_def.mp hc] at this
  simpa using this

theorem getLast?_trimEnd (text : List Char) :
    ∀ c ∈ (trimEnd text).getLast?, isBlank c = false := by
  unfold trimEnd
  rw [List.getLast?_reverse]
  exact head?_dropWhile_blank _

/-- Removing blanks at the end keeps the first character, unless all of the text goes. -/
theorem head?_trimEnd (text : List Char) : ∀ c ∈ (trimEnd text).head?, c ∈ text.head? := by
  intro c hc
  have tail : text.reverse.dropWhile isBlank <:+ text.reverse := List.dropWhile_suffix _
  obtain ⟨rest, hrest⟩ : trimEnd text <+: text := by
    simpa [trimEnd] using List.reverse_prefix.mpr tail
  cases hl : trimEnd text with
  | nil => simp [hl] at hc
  | cons d l =>
    rw [hl] at hc hrest
    rw [← hrest]
    simpa using hc

theorem head?_trim (text : List Char) : ∀ c ∈ (trim text).head?, isBlank c = false :=
  fun c hc => head?_dropWhile_blank text c (head?_trimEnd _ c hc)

theorem getLast?_trim (text : List Char) : ∀ c ∈ (trim text).getLast?, isBlank c = false :=
  getLast?_trimEnd _

theorem trim_trim (text : List Char) : trim (trim text) = trim text :=
  trim_eq_self (head?_trim text) (getLast?_trim text)

end SinglePage.Text
