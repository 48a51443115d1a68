/-
# Patterns

A pattern says which texts are meant: its parts are characters, escapes, brackets and groups; a
part can be repeated, and `|` stands between alternatives.  A group can have a name, and settings
that hold in it; settings can also be changed from a point on to the end of a group.

Nothing is ever matched here, so a pattern is not kept: `isPattern` only tells what is one.
A pattern never holds a `\x7b`, because it is written between braces; counted repetitions, and
escapes with braces, are therefore none.

* `isPattern`: whether a text is a pattern;
* `isPattern_of_plain`: a text without signs is one.
-/
import SinglePage.Pattern.Brackets
import SinglePage.Text.Alphanumeric

namespace SinglePage.Pattern

/-! ## 1. Groups -/

/-- **A piece of a group**: a change of settings, or a part that can be repeated. -/
inductive Piece where
  | setting
  | part (height : Nat)

/-- The height of a piece. -/
def Piece.height : Piece → Nat
  | .setting => 0
  | .part height => height

/-- **A group that is open**: how it is read, the heights of its alternatives so far, and the
pieces of the last alternative, the last one first. -/
structure Group where
  mode : Mode
  alternatives : List Nat
  pieces : List Piece

namespace Group

/-- A group that has just been opened. -/
def fresh (mode : Mode) : Group := ⟨mode, [], []⟩

/-- The group with one more part. -/
def add (group : Group) (height : Nat) : Group :=
  { group with pieces := .part height :: group.pieces }

/-- The group with its last part repeated, if it ends with one. -/
def repeatLast? (group : Group) : Option Group :=
  match group.pieces with
  | .part height :: pieces => some { group with pieces := .part (height + 1) :: pieces }
  | _ => none

/-- The height of the last alternative. -/
def lastHeight (group : Group) : Nat := heightOf (group.pieces.map Piece.height)

/-- The group with one more alternative begun. -/
def alternative (group : Group) : Group :=
  { group with alternatives := group.lastHeight :: group.alternatives, pieces := [] }

/-- The height of what stands in the group. -/
def height (group : Group) : Nat := heightOf (group.lastHeight :: group.alternatives)

/-- The group with its mode changed from here on. -/
def set (group : Group) (mode : Mode) : Group :=
  { group with mode := mode, pieces := .setting :: group.pieces }

end Group

/-! ## 2. The beginning of a group -/

/-- The letters of the settings, and the dash that stands before those to be turned off. -/
def settingSigns : List Char := ['i', 'm', 's', 'U', 'u', 'R', 'x', '-']

/-- Whether a text is a list of settings: none is given twice, and a dash has some behind it. -/
def isSettings (text : List Char) : Bool :=
  text.all (settingSigns.contains ·) && text.Nodup && text.getLast? ≠ some '-'

/-- The value of a setting behind a list of settings. -/
def settingOf (settings : List Char) (letter : Char) (before : Bool) : Bool :=
  if settings.contains letter then (settings.takeWhile (· ≠ '-')).contains letter else before

/-- A mode with some settings changed. -/
def Mode.change (mode : Mode) (settings : List Char) : Mode :=
  ⟨settingOf settings 'x' mode.spaced, settingOf settings 'u' mode.unicode⟩

/-- Whether a text can be the name of a group. -/
def isGroupName : List Char → Bool
  | [] => false
  | first :: others =>
    (first = '_' || Text.isLetter first) &&
      others.all fun c => ['_', '.', '[', ']'].contains c || Text.isAlphanumeric c

/-- **What an opening parenthesis begins.** -/
inductive Opening where
  | group (mode : Mode)
  | namedGroup (name : List Char)
  | setting (mode : Mode)

/-- Reads the name of a group, up to the sign that ends it. -/
def groupName? (text : List Char) : Option (Opening × Rest text) :=
  let name := text.takeWhile (· ≠ '>')
  if isGroupName name && text.drop name.length ≠ [] then
    some (.namedGroup name, ⟨text.drop (name.length + 1), by simp⟩)
  else none

/-- Reads settings, up to the sign that ends them: a colon if they hold for a group of their own,
and a closing parenthesis if they hold from here on. -/
def settings? (mode : Mode) (text : List Char) : Option (Opening × Rest text) :=
  let settings := text.takeWhile fun c => c ≠ ':' && c ≠ ')'
  let rest : Rest text := ⟨text.drop (settings.length + 1), by simp⟩
  if isSettings settings then
    match text.drop settings.length with
    | ':' :: _ => some (.group (mode.change settings), rest)
    | ')' :: _ => if settings = [] then none else some (.setting (mode.change settings), rest)
    | _ => none
  else none

/-- Reads what stands behind an opening parenthesis. -/
def opening? (mode : Mode) (text : List Char) : Option (Opening × Rest text) :=
  match skip mode text with
  | ⟨'?' :: 'P' :: '<' :: name, inside⟩ =>
    (groupName? name).map fun (opening, rest) =>
      (opening, Rest.then ⟨_, inside⟩ (((rest.behind '<').behind 'P').behind '?'))
  | ⟨'?' :: '<' :: name, inside⟩ =>
    (groupName? name).map fun (opening, rest) =>
      (opening, Rest.then ⟨_, inside⟩ ((rest.behind '<').behind '?'))
  | ⟨'?' :: settings, inside⟩ =>
    (settings? mode settings).map fun (opening, rest) =>
      (opening, Rest.then ⟨_, inside⟩ (rest.behind '?'))
  | rest => some (.group mode, rest)

/-! ## 3. Patterns -/

/-- **A pattern that is being read**: the names given so far, the groups that are open, the
innermost first, and the group that they stand in, which is the pattern itself. -/
structure Reading where
  names : List (List Char)
  outer : List Group
  group : Group

namespace Reading

/-- Nothing has been read. -/
def start : Reading := ⟨[], [], .fresh .initial⟩

/-- A part of the group that is open has been read. -/
def add (reading : Reading) (height : Nat) : Reading :=
  { reading with group := reading.group.add height }

/-- A group has been opened. -/
def enter (reading : Reading) (mode : Mode) : Reading :=
  { reading with outer := reading.group :: reading.outer, group := .fresh mode }

/-- What an opening parenthesis begins; no two groups have one name. -/
def begin? (reading : Reading) : Opening → Option Reading
  | .group mode => some (reading.enter mode)
  | .namedGroup name =>
    if reading.names.contains name then none
    else some { reading.enter reading.group.mode with names := name :: reading.names }
  | .setting mode => some { reading with group := reading.group.set mode }

/-- The group that is open has been closed. -/
def leave? (reading : Reading) : Option Reading :=
  match reading.outer with
  | [] => none
  | around :: outer =>
    some { reading with outer := outer, group := around.add (reading.group.height + 1) }

/-- What begins with the character `c` is read. -/
def step? (reading : Reading) (c : Char) (text : List Char) : Option (Reading × Rest text) :=
  let mode := reading.group.mode
  match c with
  | '(' => do
    let (opening, rest) ← opening? mode text
    let reading ← reading.begin? opening
    return (reading, rest)
  | ')' => reading.leave?.map (·, .all text)
  | '|' => some ({ reading with group := reading.group.alternative }, .all text)
  | '[' => do
    let (bracket, rest) ← open? mode text
    let (height, rest) ← brackets? mode [] bracket rest
    return (reading.add height, rest)
  | '*' | '+' | '?' => do
    let group ← reading.group.repeatLast?
    let rest : Rest text := if text.head? = some '?' then ⟨text.tail, by simp⟩ else .all text
    return ({ reading with group := group }, rest)
  | '\x7b' => none
  | '.' => if mode.unicode then some (reading.add 0, .all text) else none
  | '\\' => do
    let (escape, rest) ← escape? mode text
    if escape.isPart mode.unicode then some (reading.add 0, rest) else none
  | _ => some (reading.add 0, .all text)

/-- Reads a text to its end. -/
def run? (reading : Reading) (text : List Char) : Option Reading :=
  match skip reading.group.mode text with
  | ⟨[], _⟩ => some reading
  | ⟨c :: behind, inside⟩ =>
    match reading.step? c behind with
    | none => none
    | some (reading, ⟨rest, within⟩) =>
      have : rest.length < text.length := Nat.lt_of_le_of_lt within inside
      reading.run? rest
termination_by text.length

end Reading

/-- How high a pattern can be. -/
def maxHeight : Nat := 250

/-- **Whether a text is a pattern.** -/
def isPattern (text : List Char) : Bool :=
  match Reading.start.run? text with
  | some reading => reading.outer.isEmpty && reading.group.height ≤ maxHeight
  | none => false

/-! ## 4. Texts without signs -/

/-- Whether a character stands for itself wherever it stands in a pattern. -/
def isPlain (c : Char) : Bool :=
  !(['(', ')', '|', '[', '*', '+', '?', '\x7b', '.', '\\'].contains c)

theorem step?_of_plain {c : Char} (plain : isPlain c = true) (reading : Reading)
    (text : List Char) : reading.step? c text = some (reading.add 0, .all text) := by
  unfold Reading.step?
  split <;> first | rfl | exact absurd plain (by decide)

theorem foldl_max_zero : ∀ {heights : List Nat}, (∀ height ∈ heights, height = 0) →
    heights.foldl max 0 = 0
  | [], _ => rfl
  | height :: heights, zero => by
    rw [List.foldl_cons, zero height List.mem_cons_self]
    exact foldl_max_zero fun h mem => zero h (List.mem_cons_of_mem _ mem)

theorem heightOf_le_one {heights : List Nat} (zero : ∀ height ∈ heights, height = 0) :
    heightOf heights ≤ 1 := by
  unfold heightOf
  split
  · exact Nat.zero_le _
  · rw [zero _ List.mem_cons_self]
    exact Nat.zero_le _
  · have flat := foldl_max_zero zero
    omega

/-- Reading a text without signs adds parts without height to the pattern, and nothing else. -/
theorem run?_of_plain : ∀ {text : List Char}, (∀ c ∈ text, isPlain c = true) →
    ∀ pieces : List Piece, (∀ piece ∈ pieces, piece.height = 0) →
      ∃ more : List Piece, (∀ piece ∈ more, piece.height = 0) ∧
        Reading.run? ⟨[], [], ⟨.initial, [], pieces⟩⟩ text =
          some ⟨[], [], ⟨.initial, [], more⟩⟩
  | [], _, pieces, zero => ⟨pieces, zero, by rw [Reading.run?]; rfl⟩
  | c :: text, plain, pieces, zero => by
    have next : ∀ piece ∈ Piece.part 0 :: pieces, piece.height = 0 := by
      intro piece mem
      rcases List.mem_cons.mp mem with rfl | mem
      · rfl
      · exact zero piece mem
    obtain ⟨more, flat, done⟩ :=
      run?_of_plain (fun d mem => plain d (List.mem_cons_of_mem _ mem)) _ next
    refine ⟨more, flat, ?_⟩
    rw [Reading.run?]
    change (match Reading.step? _ c text with
      | none => none
      | some (reading, ⟨rest, _⟩) => reading.run? rest) = _
    rw [step?_of_plain (plain c List.mem_cons_self)]
    exact done

/-- **A text without signs is a pattern.** -/
theorem isPattern_of_plain {text : List Char} (plain : ∀ c ∈ text, isPlain c = true) :
    isPattern text = true := by
  obtain ⟨pieces, zero, done⟩ := run?_of_plain plain [] (by simp)
  have flat : ∀ height ∈ pieces.map Piece.height, height = 0 := by
    intro height mem
    obtain ⟨piece, inside, rfl⟩ := List.mem_map.mp mem
    exact zero piece inside
  have low := heightOf_le_one flat
  have start : Reading.start = ⟨[], [], ⟨.initial, [], []⟩⟩ := rfl
  rw [isPattern, start, done]
  exact decide_eq_true (Nat.le_trans low (by decide))

end SinglePage.Pattern
