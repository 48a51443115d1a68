/-
# Escapes in patterns

A backslash in a pattern begins an escape.  It takes the meaning of a sign away, or stands for a
character that is hard to write, a class of characters, or the edge of a word or a text.

A pattern is about characters, unless it says that it is about bytes.  It must never match half
of a character, so what could do that is refused where a pattern is about bytes; whatever depends
on Unicode is refused there too.  The edges of words, on the other hand, are known for ASCII only.

* `Escape.isPart`, `Escape.isMember`: which escapes can stand outside and inside brackets;
* `escape?`: reading what stands behind a backslash.
-/
import SinglePage.Text.Blank

namespace SinglePage.Pattern

/-! ## 1. Modes and blanks -/

/-- **How a pattern is read** from some point on. -/
structure Mode where
  /-- Whether blanks and comments may stand between its parts. -/
  spaced : Bool
  /-- Whether it is about characters, and not about bytes. -/
  unicode : Bool

/-- How a pattern is read at its beginning. -/
def Mode.initial : Mode := ⟨false, true⟩

/-- What is left of a text when part of it has been read. -/
abbrev Rest (text : List Char) := { rest : List Char // rest.length ≤ text.length }

/-- A text of which nothing has been read. -/
def Rest.all (text : List Char) : Rest text := ⟨text, Nat.le_refl _⟩

/-- What is left when reading goes on. -/
def Rest.then {text : List Char} (rest : Rest text) (further : Rest rest.1) : Rest text :=
  ⟨further.1, Nat.le_trans further.2 rest.2⟩

/-- What is left of a text with one more character in front. -/
def Rest.behind {text : List Char} (c : Char) (rest : Rest text) : Rest (c :: text) :=
  ⟨rest.1, Nat.le_succ_of_le rest.2⟩

/-- Skips blanks, and comments, which go from a `#` to the end of the line. -/
def skipBlanks (inComment : Bool) : (text : List Char) → Rest text
  | [] => .all []
  | c :: text =>
    if inComment then (skipBlanks (c ≠ '\n') text).behind c
    else if c = '#' then (skipBlanks true text).behind c
    else if Text.isBlank c then (skipBlanks false text).behind c
    else .all (c :: text)

/-- Skips what may stand between two parts of a pattern. -/
def skip (mode : Mode) (text : List Char) : Rest text :=
  if mode.spaced then skipBlanks false text else .all text

/-! ## 2. Escapes -/

/-- **What an escape stands for.** -/
inductive Escape where
  /-- A character, which may be written as the number of a byte. -/
  | character (c : Char) (asByte : Bool)
  /-- Digits, blanks or the characters of words, or all others. -/
  | kind (others : Bool)
  /-- The characters of a general category. -/
  | category
  /-- An edge of a word, or anywhere else. -/
  | wordEdge
  /-- An edge of the text. -/
  | textEdge

namespace Escape

/-- Whether an escape can stand outside brackets. -/
def isPart (unicode : Bool) : Escape → Bool
  | .character c asByte => unicode || !asByte || c.toNat < 0x80
  | .kind others => unicode || !others
  | .category => unicode
  | .wordEdge => !unicode
  | .textEdge => true

/-- Whether an escape can stand in brackets. -/
def isMember (unicode : Bool) : Escape → Bool
  | .character c _ => unicode || c.toNat < 0x80
  | .kind others => unicode || !others
  | .category => unicode
  | .wordEdge => false
  | .textEdge => false

/-- The character that an escape stands for, if it is a single one. -/
def char? : Escape → Option Char
  | .character c _ => some c
  | _ => none

end Escape

/-! ## 3. Reading -/

/-- The value of a hexadecimal digit. -/
def hexDigit? (c : Char) : Option Nat :=
  if c.isDigit then some (c.toNat - '0'.toNat)
  else if 'a' ≤ c ∧ c ≤ 'f' then some (c.toNat - 'a'.toNat + 10)
  else if 'A' ≤ c ∧ c ≤ 'F' then some (c.toNat - 'A'.toNat + 10)
  else none

/-- Reads hexadecimal digits behind a number `read` that was read already. -/
def hexNumber? (mode : Mode) : Nat → Nat → (text : List Char) → Option (Nat × Rest text)
  | 0, read, text => some (read, .all text)
  | count + 1, read, text =>
    match skip mode text with
    | ⟨[], _⟩ => none
    | ⟨c :: behind, inside⟩ =>
      match hexDigit? c with
      | none => none
      | some digit =>
        match hexNumber? mode count (read * 16 + digit) behind with
        | none => none
        | some (number, rest) => some (number, Rest.then ⟨_, inside⟩ (rest.behind c))

/-- Reads the number of a character in hexadecimal digits. -/
def numbered? (mode : Mode) (count : Nat) (text : List Char) : Option (Escape × Rest text) :=
  match hexNumber? mode count 0 text with
  | none => none
  | some (number, rest) =>
    if number.isValidChar then some (.character (Char.ofNat number) (count = 2), rest) else none

/-- Reads the letter of a general category: other characters, letters, marks, numbers,
punctuation, symbols or separators. -/
def category? (mode : Mode) (text : List Char) : Option (Escape × Rest text) :=
  match skip mode text with
  | ⟨[], _⟩ => none
  | ⟨c :: behind, inside⟩ =>
    if c.toLower ∈ ['c', 'l', 'm', 'n', 'p', 's', 'z'] then
      some (.category, Rest.then ⟨_, inside⟩ ((Rest.all behind).behind c))
    else none

/-- The escape of a single character: a letter with a meaning of its own, or a sign of ASCII,
which stands for itself. -/
def plain? (c : Char) : Option Escape :=
  match c with
  | 'd' | 's' | 'w' => some (.kind false)
  | 'D' | 'S' | 'W' => some (.kind true)
  | 'b' | 'B' | '<' | '>' => some .wordEdge
  | 'A' | 'z' => some .textEdge
  | 'a' => some (.character '\x07' false)
  | 't' => some (.character '\t' false)
  | 'n' => some (.character '\n' false)
  | 'v' => some (.character '\x0b' false)
  | 'f' => some (.character '\x0c' false)
  | 'r' => some (.character '\x0d' false)
  | c => if c.toNat < 0x80 && !c.isAlphanum then some (.character c false) else none

/-- **Reads an escape**, of which the backslash has been read. -/
def escape? (mode : Mode) : (text : List Char) → Option (Escape × Rest text)
  | [] => none
  | 'x' :: text => (numbered? mode 2 text).map fun (escape, rest) => (escape, rest.behind 'x')
  | 'u' :: text => (numbered? mode 4 text).map fun (escape, rest) => (escape, rest.behind 'u')
  | 'U' :: text => (numbered? mode 8 text).map fun (escape, rest) => (escape, rest.behind 'U')
  | 'p' :: text => (category? mode text).map fun (escape, rest) => (escape, rest.behind 'p')
  | 'P' :: text => (category? mode text).map fun (escape, rest) => (escape, rest.behind 'P')
  | c :: text => (plain? c).map fun escape => (escape, (Rest.all text).behind c)

end SinglePage.Pattern
