/-
# Reading a command line

The arguments are read from left to right, and the first fault is the outcome.  A switch that
takes a value may have it behind `=` or as the next argument; in the second case its value is
pending until the next argument is seen, and it is settled, that is checked and stored, when
something else turns up or the line ends.  A fault that needs no look at the pending value is
reported before the value is checked.

* `Reading.step`: what one argument does;
* `parse`: the outcome of a whole line in an environment.
-/
import SinglePage.CommandLine.Basic

namespace SinglePage.CommandLine

/-! ## 1. What has been read -/

/-- A value that has not been checked yet; the value itself may still be to come. -/
structure Pending where
  slot : Slot
  value : Option String
  deriving DecidableEq

/-- **What has been read of a line.** -/
structure Reading where
  /-- The flags that were given. -/
  flags : List Flag := []
  /-- The paths that were set. -/
  settings : List (Setting × Path) := []
  /-- The assignments, in order. -/
  assignments : List String := []
  /-- The template to render. -/
  template : Option Path := none
  /-- The value to be settled next. -/
  pending : Option Pending := none
  /-- Whether the next argument may be the pending value. -/
  awaiting : Bool := false
  /-- Whether switches have been ended by `--`. -/
  trailing : Bool := false
  /-- Whether an argument was understood. -/
  started : Bool := false
  /-- Whether the word for the template was seen. -/
  named : Bool := false
  deriving DecidableEq

namespace Reading

/-- Nothing yet. -/
def empty : Reading := {}

/-- The path of a text, which must not be empty. -/
def pathOf (text : String) : Except UsageError Path :=
  if text = "" then .error .badValue else .ok ⟨text⟩

/-- Stores a value.  Only assignments may be given twice. -/
def store (reading : Reading) (slot : Slot) (value : String) : Except UsageError Reading :=
  match slot with
  | .setting setting =>
    if (reading.settings.any fun e => e.1 = setting) then .error .conflict
    else do
      let path ← pathOf value
      return { reading with settings := reading.settings ++ [(setting, path)] }
  | .assignment => .ok { reading with assignments := reading.assignments ++ [value] }
  | .template => do
    let path ← pathOf value
    return { reading with template := some path }

/-- **Checks and stores the pending value**, which must be there. -/
def settle (reading : Reading) : Except UsageError Reading :=
  match reading.pending with
  | none => .ok reading
  | some ⟨_, none⟩ => .error .badValue
  | some ⟨slot, some value⟩ =>
    store { reading with pending := none, awaiting := false } slot value

/-! ## 2. One argument -/

/-- Takes a flag.  Help and version end the reading; no other flag may be given twice. -/
def takeFlag (reading : Reading) (flag : Flag) : Except UsageError Reading := do
  let reading ← settle reading
  match flag with
  | .help => .error .helpRequested
  | .version => .error .versionRequested
  | flag =>
    if flag ∈ reading.flags then .error .conflict
    else return { reading with flags := flag :: reading.flags, awaiting := false, started := true }

/-- Takes a switch by its long name; `value` is what stands behind the `=`, if there is one. -/
def takeLong (level : Level) (reading : Reading) (name : String) (value : Option String) :
    Except UsageError Reading :=
  match level.long? name, value with
  | none, _ => .error .unknownArgument
  | some (.flag flag), none => takeFlag reading flag
  | some (.flag _), some _ => .error .unexpectedValue
  | some (.valued slot), none => do
    let reading ← settle reading
    return { reading with pending := some ⟨slot, none⟩, awaiting := true, started := true }
  | some (.valued slot), some value => do
    let reading ← settle reading
    store { reading with awaiting := false, started := true } slot value

/-- Takes a switch by its one-letter name. -/
def takeShort (level : Level) (reading : Reading) (name : Char) : Except UsageError Reading :=
  match level.short? name with
  | some (.flag flag) => takeFlag reading flag
  | _ => .error .unknownArgument

/-- Takes a word that is neither a switch nor the value of one.  Only `render` has a place for
such a word, and only for one.  Before any command a word is taken for a command, and none may
follow a switch there. -/
def takeWord (level : Level) (reading : Reading) (word : String) : Except UsageError Reading :=
  if level = .render ∧ reading.named = false then do
    let reading ← settle reading
    return { reading with
      pending := some ⟨.template, some word⟩, awaiting := false, started := true, named := true }
  else if level = .top then
    if reading.started then .error .conflict
    else if (CommandWord.ofText? word).isSome then .error .unknownArgument
    else .error .unknownCommand
  else .error .unknownArgument

/-- The name and the value of a long switch, given the text behind its two dashes. -/
def splitValue (text : List Char) : String × Option String :=
  (String.ofList (text.takeWhile (· ≠ '=')),
    match text.dropWhile (· ≠ '=') with
    | _ :: value => some (String.ofList value)
    | [] => none)

/-- **What one argument does.**  Behind `--` every argument is a word.  Before it, two dashes
begin a long switch and one dash a row of one-letter switches, but a single dash is a word. -/
def step (level : Level) (reading : Reading) (argument : String) : Except UsageError Reading :=
  if reading.trailing then takeWord level reading argument
  else match argument.toList with
    | ['-', '-'] => .ok { reading with trailing := true }
    | '-' :: '-' :: text =>
      let (name, value) := splitValue text
      takeLong level reading name value
    | '-' :: c :: letters => (c :: letters).foldlM (takeShort level) reading
    | _ =>
      match reading.awaiting, reading.pending with
      | true, some ⟨slot, _⟩ =>
        .ok { reading with pending := some ⟨slot, some argument⟩, awaiting := false }
      | _, _ => takeWord level reading argument

end Reading

/-! ## 3. A whole line -/

/-- The path for a setting: the one on the line, else the one in the environment. -/
def settingOf (environment : Environment) (reading : Reading) (setting : Setting) :
    Except UsageError (Option Path) :=
  match reading.settings.find? fun e => e.1 = setting with
  | some (_, path) => .ok (some path)
  | none => environment.path? setting

/-- The options of a build, from the line, the environment, and what is usual. -/
def optionsOf (environment : Environment) (reading : Reading) :
    Except UsageError Site.Options := do
  let posts ← settingOf environment reading .posts
  let out ← settingOf environment reading .out
  let templates ← settingOf environment reading .templates
  let usual : Site.Options := {}
  return ⟨posts.getD usual.posts, out.getD usual.out, templates,
    decide (Flag.recursive ∈ reading.flags)⟩

/-- What the line behind the name of a command, or a line without one, asks for. -/
def commandOf (level : Level) (environment : Environment) (reading : Reading) :
    Except UsageError Command :=
  match level with
  | .top => .implicit <$> optionsOf environment reading
  | .build => .build <$> optionsOf environment reading
  | .render =>
    match reading.template with
    | some path => .ok (.render path reading.assignments)
    | none => .error .missingArgument
  | .filters => .ok .filters

/-- The invocation that a line asks for once all of it has been read. -/
def finish (level : Level) (environment : Environment) (reading : Reading) :
    Except UsageError Invocation := do
  let reading ← reading.settle
  let command ← commandOf level environment reading
  return ⟨command, decide (Flag.verbose ∈ reading.flags)⟩

/-- Reads what stands behind the name of a command.  The settings of the environment are also
those of the line as a whole, so they are checked in any case, but last. -/
def parseCommand (level : Level) (environment : Environment) (arguments : List String) :
    Except UsageError Invocation := do
  let reading ← arguments.foldlM (Reading.step level) .empty
  let invocation ← finish level environment reading
  let _ ← optionsOf environment .empty
  return invocation

/-- Reads what stands behind `help`: nothing, or the name of one command. -/
def parseHelp : List String → Except UsageError Invocation
  | [] => .error .helpRequested
  | [word] =>
    if (CommandWord.ofText? word).isSome then .error .helpRequested else .error .unknownCommand
  | _ => .error .unknownCommand

/-- Reads a line from a place before any command, where `reading` has been read already. -/
def parseFrom (environment : Environment) : Reading → List String →
    Except UsageError Invocation
  | reading, [] => finish .top environment reading
  | reading, argument :: arguments => do
    let goOn := do
      let reading ← reading.step .top argument
      parseFrom environment reading arguments
    if reading.trailing || reading.awaiting || reading.started then goOn
    else match CommandWord.ofText? argument with
      | some .build => parseCommand .build environment arguments
      | some .render => parseCommand .render environment arguments
      | some .filters => parseCommand .filters environment arguments
      | some .help => parseHelp arguments
      | none => goOn

/-- **What a command line asks for**, or why it is refused. -/
def parse (environment : Environment) (arguments : List String) :
    Except UsageError Invocation :=
  parseFrom environment .empty arguments

end SinglePage.CommandLine
