/-
# Which events are shown

What is shown is decided by directives such as `warn` or `postpage::application=info`.  A
directive has a threshold and says which events it is about: all of them, those of one part of
the program and the parts inside it, or those that carry a certain field.  Of the directives
that are about an event the most specific one decides, and the last of those that are equally
specific; an event that no directive is about is not shown.

* `LogDirective.parse?` reads a directive and `LogSelection.parse?` a list of them;
* `mem_of_decisive?`: the directive that decides is one of the list and is about the event;
* `isShown_single`: a threshold alone decides by the level.
-/
import SinglePage.Log.Event
import SinglePage.Pattern.Group
import SinglePage.Text.Bytes
import SinglePage.Text.Decimal

namespace SinglePage

/-! ## 1. Directives -/

/-- **A directive**: what it is about, and the threshold for that. -/
structure LogDirective where
  /-- How the names of the parts of the program begin that it is about. -/
  origin : Option String
  /-- Whether it is about what happens inside a certain stretch of work.  A run has no such
  stretches, so it is about no event then. -/
  inSpan : Bool
  /-- The field that an event must carry. -/
  field : Option String
  /-- The least urgent level that it lets through. -/
  threshold : Threshold
  deriving DecidableEq

namespace LogDirective

/-- The directive that is about every event. -/
def general (threshold : Threshold) : LogDirective := ⟨none, false, none, threshold⟩

/-- Whether a directive is about an event. -/
def isAbout (directive : LogDirective) (event : LogEvent) : Bool :=
  !directive.inSpan &&
    directive.origin.all (fun origin => origin.toList.isPrefixOf event.origin.toList) &&
    directive.field.all (fun field => event.fields.contains field)

/-- How much of the name of an origin a directive gives. -/
def depth (directive : LogDirective) : Nat := (directive.origin.map String.length).getD 0

/-- Whether a directive is less specific than another one: it gives less of an origin, or as much
of it and no field, or a field that comes earlier in the alphabet. -/
def isLessSpecific (a b : LogDirective) : Bool :=
  a.depth < b.depth || (a.depth = b.depth && a.field.getD "" < b.field.getD "")

/-! ## 2. Reading directives -/

/-- The threshold behind an `=`; without a text, everything is let through. -/
def thresholdOf? (text : List Char) : Option Threshold :=
  if text = [] then some (some .trace) else Threshold.ofText? text

/-- Whether a directive can begin with a character, brackets aside. -/
def isFirst (c : Char) : Bool := c = '-' || c = ':' || c = '_' || Text.isAlphanumeric c

/-- Whether a character ends the origin of a directive. -/
def endsOrigin (c : Char) : Bool := c = '=' || c = '['

/-- Whether a character ends the name of a stretch of work. -/
def endsScope (c : Char) : Bool := c = ']' || c = '\x7b'

/-- The part of a text from byte `start` to byte `stop`. -/
def cut? (text : List Char) (start stop : Nat) : Option String :=
  (Text.slice? text start stop).map String.ofList

/-- Reads the name of a field, and whether a value is asked for, which only stretches of work
have.  A value is a number or a pattern; a second `=` ends it, and the rest does not count. -/
def parseField? (text : String) : Option (String × Bool) :=
  match text.toList.splitOn '=' with
  | _ :: value :: _ =>
    if Text.isNumber value || Pattern.isPattern value then some (text, true) else none
  | _ => some (text, false)

/-- Reads what stands behind the brackets of a directive, which is nothing or a threshold. -/
def parseEnd? (text : List Char) (start : Nat) (rest : List Char) (directive : LogDirective) :
    Option LogDirective :=
  match rest with
  | [] => some directive
  | '=' :: _ => do
    let threshold ← thresholdOf? (← Text.dropBytes? (start + 1) text)
    return { directive with threshold := threshold }
  | _ => none

/-- Reads what stands behind the opening bracket of a directive: the name of a stretch of work, a
field in braces, or both. -/
def parseBrackets? (text : List Char) (start : Nat) (inside : List Char)
    (origin : Option String) : Option LogDirective := do
  let scope := inside.takeWhile fun c => !endsScope c
  let stop := start + Text.byteLength scope
  let _ ← cut? text start stop
  match inside.drop scope.length with
  | ']' :: rest => parseEnd? text (stop + 1) rest ⟨origin, true, none, some .trace⟩
  | '\x7b' :: behind =>
    let name := behind.takeWhile (· ≠ '\x7d')
    let last := stop + 1 + Text.byteLength name
    match name, behind.drop name.length with
    | _ :: _, '\x7d' :: ']' :: rest =>
      let (field, hasValue) ← parseField? (← cut? text (stop + 1) last)
      parseEnd? text (last + 2) rest ⟨origin, scope ≠ [] || hasValue, some field, some .trace⟩
    | _, _ => none
  | _ => none

/-- Reads what stands behind the origin of a directive, which is nothing, a threshold or something
in brackets.  With nothing behind it the origin may also be a threshold for everything. -/
def parseBehind? (text : List Char) (place : Nat) (rest : List Char) : Option LogDirective :=
  match rest with
  | [] =>
    match Threshold.ofText? text with
    | some threshold => some (general threshold)
    | none => some ⟨some (String.ofList text), false, none, some .trace⟩
  | '[' :: inside => do parseBrackets? text (place + 1) inside (← cut? text 0 place)
  | _ => do parseEnd? text place rest ⟨← cut? text 0 place, false, none, some .trace⟩

/-- **Reads a directive.**  Its signs are looked for in the trimmed text, but its parts are cut
out of the whole text at the bytes that were found, so a blank in front puts all parts out of
step, and a blank at the end belongs to the last one. -/
def parse? (text : List Char) : Option LogDirective :=
  let body := Text.trim text
  let head := body.takeWhile fun c => !endsOrigin c
  match head, body.drop head.length with
  | [], '[' :: inside => parseBrackets? text 1 inside none
  | first :: _, rest =>
    if isFirst first then parseBehind? text (Text.byteLength head) rest else none
  | _, _ => none

end LogDirective

/-! ## 3. Selections -/

/-- **What is shown of a run**: the directives that decide it. -/
abbrev LogSelection := List LogDirective

namespace LogSelection

/-- **The directives of a text**, with commas between them.  Nothing between two commas is no
directive, and a text without directives asks for nothing. -/
def parse? (text : String) : Option LogSelection :=
  ((text.toList.splitOn ',').filter (· ≠ [])).mapM LogDirective.parse?

/-- **The selection of a run**: the one that the environment asks for, if what it asks for can be
read; otherwise debugging output is shown on request, and warnings always. -/
def of (wish : Option String) (verbose : Bool) : LogSelection :=
  match wish.bind parse? with
  | some selection => selection
  | none => [.general (some (if verbose then .debug else .warn))]

/-- The more specific one of two directives; the second of two that are equally specific. -/
def moreSpecific (best : Option LogDirective) (next : LogDirective) : Option LogDirective :=
  match best with
  | some best => if next.isLessSpecific best then some best else some next
  | none => some next

/-- **The directive that decides about an event.** -/
def decisive? (selection : LogSelection) (event : LogEvent) : Option LogDirective :=
  (selection.filter (·.isAbout event)).foldl moreSpecific none

end LogSelection

/-- Whether an event is shown. -/
def LogEvent.isShown (selection : LogSelection) (event : LogEvent) : Bool :=
  match LogSelection.decisive? selection event with
  | some directive => directive.threshold.admits event.level
  | none => false

/-- The lines that are shown of the events of a run. -/
def shownLines (selection : LogSelection) (events : List LogEvent) : List String :=
  (events.filter (LogEvent.isShown selection)).map LogEvent.line

namespace LogSelection

theorem mem_of_foldl_moreSpecific : ∀ {directives : List LogDirective}
    {best : Option LogDirective} {directive : LogDirective},
    directives.foldl moreSpecific best = some directive →
      best = some directive ∨ directive ∈ directives
  | [], _, _, h => .inl h
  | next :: directives, best, directive, h => by
    rw [List.foldl_cons] at h
    rcases mem_of_foldl_moreSpecific h with h | h
    · unfold moreSpecific at h
      split at h
      · split at h
        · exact .inl h
        · exact .inr (Option.some.inj h ▸ List.mem_cons_self)
      · exact .inr (Option.some.inj h ▸ List.mem_cons_self)
    · exact .inr (List.mem_cons_of_mem _ h)

/-- **The directive that decides is one of the selection and is about the event.** -/
theorem mem_of_decisive? {selection : LogSelection} {event : LogEvent}
    {directive : LogDirective} (h : selection.decisive? event = some directive) :
    directive ∈ selection ∧ directive.isAbout event = true := by
  rcases mem_of_foldl_moreSpecific h with h | h
  · exact absurd h (by simp)
  · exact List.mem_filter.mp h

end LogSelection

/-- **A threshold alone decides by the level.** -/
theorem LogEvent.isShown_single (threshold : Threshold) (event : LogEvent) :
    event.isShown [.general threshold] = threshold.admits event.level := rfl

end SinglePage
