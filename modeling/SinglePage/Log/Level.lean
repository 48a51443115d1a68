/-
# How urgent an event is

Events have levels, from errors to traces.  A threshold is the least urgent level that is let
through, or none at all.

* `Threshold.ofText?`: a threshold is written as the name of a level, as `off`, or as a number
  from 0, which is `off`, to 5, which is `trace`;
* `Threshold.ofText?_name`: every level is read back from its name.
-/
import SinglePage.Text.Digits

namespace SinglePage

/-- The levels that events can have; a level is more urgent than those named after it. -/
inductive LogLevel where
  | error
  | warn
  | info
  | debug
  | trace
  deriving DecidableEq

namespace LogLevel

/-- The levels, the most urgent one first. -/
def all : List LogLevel := [.error, .warn, .info, .debug, .trace]

/-- The name of a level. -/
def name : LogLevel → String
  | .error => "error"
  | .warn => "warn"
  | .info => "info"
  | .debug => "debug"
  | .trace => "trace"

/-- The name of a level, as a line of the log begins with it. -/
def label : LogLevel → String
  | .error => "ERROR"
  | .warn => "WARN"
  | .info => "INFO"
  | .debug => "DEBUG"
  | .trace => "TRACE"

/-- How far a level is from the most urgent one. -/
def rank : LogLevel → Nat
  | .error => 0
  | .warn => 1
  | .info => 2
  | .debug => 3
  | .trace => 4

end LogLevel

/-- The least urgent level that is let through; where there is none, nothing is. -/
abbrev Threshold := Option LogLevel

namespace Threshold

/-- Whether a level is let through. -/
def admits (threshold : Threshold) (level : LogLevel) : Bool :=
  match threshold with
  | some least => level.rank ≤ least.rank
  | none => false

/-- The thresholds in the order of their numbers. -/
def numbered : List Threshold := none :: LogLevel.all.map some

/-- The threshold of a number. -/
def ofNumber? (text : List Char) : Option Threshold :=
  match text with
  | '+' :: digits => (Text.natural? digits).bind (numbered[·]?)
  | digits => (Text.natural? digits).bind (numbered[·]?)

/-- The threshold of a name, in whichever case it is written. -/
def ofName? (text : List Char) : Option Threshold :=
  let name := text.map Char.toLower
  if name = ['o', 'f', 'f'] then some none
  else (LogLevel.all.find? fun level => level.name.toList = name).map some

/-- **The threshold that a text stands for**, be it a number or a name. -/
def ofText? (text : List Char) : Option Threshold := (ofNumber? text).or (ofName? text)

theorem ofText?_name (level : LogLevel) : ofText? level.name.toList = some (some level) := by
  cases level <;> rfl

theorem ofText?_label (level : LogLevel) : ofText? level.label.toList = some (some level) := by
  cases level <;> rfl

end Threshold

end SinglePage
