/-
# What a command line can say

The program builds a site, renders one template, or lists the filters.  Each of these commands
takes some of the switches below; without a command the program builds a site, with the
switches of a build.

A line that says nothing sensible is refused for one of the reasons in `UsageError`.  Asking for
help or for the version is among them, because it ends the reading of the line at once.
-/
import SinglePage.SortedMap
import SinglePage.Site.Options

namespace SinglePage.CommandLine

/-! ## 1. Commands -/

/-- **What the program is asked to do.** -/
inductive Command where
  /-- To build a site, without saying so. -/
  | implicit (options : Site.Options)
  /-- To build a site. -/
  | build (options : Site.Options)
  /-- To render one template with the given assignments. -/
  | render (template : Path) (assignments : List String)
  /-- To list the filters. -/
  | filters
  deriving DecidableEq

/-- **A command line that makes sense**: a command, and whether to say more about its run. -/
structure Invocation where
  command : Command
  verbose : Bool
  deriving DecidableEq

/-- **Why a command line is refused.** -/
inductive UsageError where
  /-- A value is missing, or is empty where it must not be. -/
  | badValue
  /-- A value is given to a switch that takes none. -/
  | unexpectedValue
  /-- There is no such switch here, or no place for such a word. -/
  | unknownArgument
  /-- A word is not the name of a command. -/
  | unknownCommand
  /-- Two arguments exclude each other. -/
  | conflict
  /-- An argument that must be given is not. -/
  | missingArgument
  /-- Help is asked for. -/
  | helpRequested
  /-- The version is asked for. -/
  | versionRequested
  deriving DecidableEq

/-! ## 2. Switches -/

/-- A switch without a value. -/
inductive Flag where
  | verbose
  | recursive
  | help
  | version
  deriving DecidableEq

/-- A path that can be set on the command line or in the environment. -/
inductive Setting where
  | posts
  | out
  | templates
  deriving DecidableEq

/-- What a value on the command line is for. -/
inductive Slot where
  | setting (setting : Setting)
  | assignment
  | template
  deriving DecidableEq

/-- **A switch**: one that says something by itself, or one that takes a value. -/
inductive Switch where
  | flag (flag : Flag)
  | valued (slot : Slot)
  deriving DecidableEq

/-- The environment variable of a setting. -/
def Setting.variable : Setting → String
  | .posts => "POSTPAGE_POSTS"
  | .out => "POSTPAGE_OUT"
  | .templates => "POSTPAGE_TEMPLATES"

/-- The long name of a switch; a switch without one cannot be written. -/
def Switch.longName? : Switch → Option String
  | .flag .verbose => some "verbose"
  | .flag .recursive => some "recursive"
  | .flag .help => some "help"
  | .flag .version => some "version"
  | .valued (.setting .posts) => some "posts"
  | .valued (.setting .out) => some "out"
  | .valued (.setting .templates) => some "templates"
  | .valued .assignment => some "var"
  | .valued .template => none

/-- The one-letter name of a switch, if it has one. -/
def Switch.shortName? : Switch → Option Char
  | .flag .verbose => some 'v'
  | .flag .recursive => some 'r'
  | .flag .help => some 'h'
  | .flag .version => some 'V'
  | .valued _ => none

/-- The place on the line: before any command, or behind the name of one. -/
inductive Level where
  | top
  | build
  | render
  | filters
  deriving DecidableEq

/-- The switches of a build. -/
def buildSwitches : List Switch := [.flag .recursive, .valued (.setting .posts),
  .valued (.setting .out), .valued (.setting .templates)]

/-- **The switches that are known at a place on the line.** -/
def Level.switches : Level → List Switch
  | .top => [.flag .verbose, .flag .help, .flag .version] ++ buildSwitches
  | .build => [.flag .verbose, .flag .help] ++ buildSwitches
  | .render => [.flag .verbose, .flag .help, .valued .assignment]
  | .filters => [.flag .verbose, .flag .help]

/-- The switch with a long name. -/
def Level.long? (level : Level) (name : String) : Option Switch :=
  level.switches.find? fun switch => switch.longName? = some name

/-- The switch with a one-letter name. -/
def Level.short? (level : Level) (name : Char) : Option Switch :=
  level.switches.find? fun switch => switch.shortName? = some name

/-- The words that name a command, or ask for help on one. -/
inductive CommandWord where
  | build
  | render
  | filters
  | help
  deriving DecidableEq

/-- The command that a word names. -/
def CommandWord.ofText? (text : String) : Option CommandWord :=
  if text = "build" then some .build
  else if text = "render" then some .render
  else if text = "filters" then some .filters
  else if text = "help" then some .help
  else none

/-! ## 3. The environment -/

/-- The environment of a run: the values of its variables. -/
abbrev Environment := SortedMap String String

/-- The path that the environment gives for a setting.  It must not be empty. -/
def Environment.path? (environment : Environment) (setting : Setting) :
    Except UsageError (Option Path) :=
  match SortedMap.get? environment setting.variable with
  | none => .ok none
  | some "" => .error .badValue
  | some text => .ok (some ⟨text⟩)

end SinglePage.CommandLine
