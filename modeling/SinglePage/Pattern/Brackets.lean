/-
# Brackets in patterns

Brackets hold the members of a class of characters: characters, ranges of characters, escapes,
named classes such as `[:alpha:]`, and other brackets.  Members stand one behind the other, and
`&&`, `--` and `~~` combine what stands on their two sides.

What is read is not kept.  All that counts is how deep brackets and operators are nested, their
height, because there is a limit for that.

* `heightOf`: the height of things that stand side by side;
* `brackets?`: reading brackets.
-/
import SinglePage.Pattern.Escape

namespace SinglePage.Pattern

/-! ## 1. Heights -/

/-- The height of things side by side: more than one thing is one level more. -/
def heightOf : List Nat → Nat
  | [] => 0
  | [height] => height
  | heights => heights.foldl max 0 + 1

/-- **Brackets that are open.** -/
structure Bracket where
  /-- The height of all that stands before the last operator. -/
  before : Option Nat
  /-- The heights of the members behind that operator. -/
  members : List Nat

namespace Bracket

/-- Brackets that have just been opened. -/
def fresh : Bracket := ⟨none, []⟩

/-- The brackets with one more member. -/
def add (bracket : Bracket) (height : Nat) : Bracket :=
  { bracket with members := height :: bracket.members }

/-- The height of what stands in the brackets. -/
def height (bracket : Bracket) : Nat :=
  match bracket.before with
  | none => heightOf bracket.members
  | some before => max before (heightOf bracket.members) + 1

/-- The brackets with an operator behind all that stands in them. -/
def operator (bracket : Bracket) : Bracket := ⟨some bracket.height, []⟩

end Bracket

/-! ## 2. Members -/

/-- The names of the classes that can stand between `[:` and `:]`. -/
def classNames : List String :=
  ["alnum", "alpha", "ascii", "blank", "cntrl", "digit", "graph", "lower", "print", "punct",
    "space", "upper", "word", "xdigit"]

/-- Reads the name of a class and the signs that end it. -/
def className? (text : List Char) : Option (Rest text) :=
  let name := text.takeWhile (· ≠ ':')
  match rest : text.drop name.length with
  | ':' :: ']' :: behind =>
    if String.ofList name ∈ classNames then
      some ⟨behind, by
        have := congrArg List.length rest
        simp only [List.length_drop, List.length_cons] at this
        omega⟩
    else none
  | _ => none

/-- Reads a named class whose opening bracket has been read, and says whether it stands for all
other characters. -/
def namedClass? : (text : List Char) → Option (Bool × Rest text)
  | ':' :: '^' :: text => (className? text).map fun rest => (true, (rest.behind '^').behind ':')
  | ':' :: text => (className? text).map fun rest => (false, rest.behind ':')
  | _ => none

/-- Reads a character or an escape that begins with `c`; the character that it stands for is
returned, if it is a single one. -/
def member? (mode : Mode) (c : Char) (text : List Char) : Option (Option Char × Rest text) :=
  if c = '\\' then
    match escape? mode text with
    | some (escape, rest) =>
      if escape.isMember mode.unicode then some (escape.char?, rest) else none
    | none => none
  else if mode.unicode || c.toNat < 0x80 then some (some c, .all text)
  else none

/-- The character that tells whether a dash is the sign of a range.  The sign of a comment is
passed over, but what the comment says is not. -/
def peek? (mode : Mode) (text : List Char) : Option Char :=
  if mode.spaced then
    match text.dropWhile Text.isBlank with
    | '#' :: behind => (behind.dropWhile Text.isBlank).head?
    | behind => behind.head?
  else text.head?

/-- **Reads a member that begins with `c`**, which can be a range.  A dash is no sign of a range
before the closing bracket or another dash. -/
def range? (mode : Mode) (c : Char) (text : List Char) : Option (Rest text) := do
  let (first, rest) ← member? mode c text
  let next := rest.then (skip mode rest.1)
  match next with
  | ⟨'-' :: behind, inside⟩ =>
    if peek? mode behind = some ']' ∨ peek? mode behind = some '-' then some next
    else
      let start := Rest.then ⟨_, inside⟩ ((skip mode behind).behind '-')
      match start with
      | ⟨d :: last, within⟩ =>
        let (second, rest) ← member? mode d last
        let low ← first
        let high ← second
        if low ≤ high then some (Rest.then ⟨_, within⟩ (rest.behind d)) else none
      | ⟨[], _⟩ => none
  | _ => some next

/-! ## 3. Reading -/

/-- Reads the dashes that brackets can begin with, and a closing bracket that is their first
member. -/
def firstMembers (mode : Mode) (bracket : Bracket) (text : List Char) : Bracket × Rest text :=
  match skip mode text with
  | ⟨[], inside⟩ => (bracket, ⟨[], inside⟩)
  | ⟨c :: behind, inside⟩ =>
    if c = '-' then
      let (bracket, rest) := firstMembers mode (bracket.add 0) behind
      (bracket, Rest.then ⟨_, inside⟩ (rest.behind c))
    else if c = ']' ∧ bracket.members = [] then
      (bracket.add 0, Rest.then ⟨_, inside⟩ ((Rest.all behind).behind c))
    else (bracket, ⟨c :: behind, inside⟩)
termination_by text.length

/-- Reads what brackets begin with, behind the opening one.  All others than the members can only be
meant where the pattern is about characters. -/
def open? (mode : Mode) (text : List Char) : Option (Bracket × Rest text) :=
  match skip mode text with
  | ⟨'^' :: behind, inside⟩ =>
    if mode.unicode then
      let (bracket, rest) := firstMembers mode .fresh behind
      some (bracket, Rest.then ⟨_, inside⟩ (rest.behind '^'))
    else none
  | ⟨behind, inside⟩ =>
    let (bracket, rest) := firstMembers mode .fresh behind
    some (bracket, Rest.then ⟨_, inside⟩ rest)

/-- **What can stand in brackets.** -/
inductive Sign where
  | member
  | operator
  | opening (bracket : Bracket)
  | closing

/-- Reads what begins with `c` in brackets. -/
def sign? (mode : Mode) (c : Char) (text : List Char) : Option (Sign × Rest text) :=
  if c = '[' then
    match namedClass? text with
    | some (others, rest) => if others && !mode.unicode then none else some (.member, rest)
    | none => (open? mode text).map fun (bracket, rest) => (.opening bracket, rest)
  else if c = ']' then some (.closing, .all text)
  else
    match c, text with
    | '&', '&' :: behind => some (.operator, (Rest.all behind).behind '&')
    | '-', '-' :: behind => some (.operator, (Rest.all behind).behind '-')
    | '~', '~' :: behind => some (.operator, (Rest.all behind).behind '~')
    | c, text => (range? mode c text).map fun rest => (.member, rest)

/-- **Reads brackets** up to the closing one, and returns their height.  `outer` are the brackets
that these brackets stand in. -/
def brackets? {whole : List Char} (mode : Mode) (outer : List Bracket) (bracket : Bracket)
    (text : Rest whole) : Option (Nat × Rest whole) :=
  match skip mode text.1 with
  | ⟨[], _⟩ => none
  | ⟨c :: behind, inside⟩ =>
    match sign? mode c behind with
    | none => none
    | some (sign, ⟨rest, within⟩) =>
      let rest := text.then (Rest.then ⟨_, inside⟩ (Rest.behind c ⟨rest, within⟩))
      match sign, outer with
      | .member, outer => brackets? mode outer (bracket.add 0) rest
      | .operator, outer => brackets? mode outer bracket.operator rest
      | .opening inner, outer => brackets? mode (bracket :: outer) inner rest
      | .closing, around :: outer => brackets? mode outer (around.add (bracket.height + 1)) rest
      | .closing, [] => some (bracket.height + 1, rest)
termination_by text.1.length
decreasing_by all_goals exact Nat.lt_of_le_of_lt within inside

end SinglePage.Pattern
