/-
# The program

The program runs on the files of the machine.  It reads its arguments and its environment, hands
them to the library, and prints what comes back.  Nothing is decided here: this module says how
a `Host` is made of real files, and words the usage text.
-/
import SinglePage.CommandLine.Run
import SinglePage.Log.Directive

namespace SinglePage.Program

/-! ## 1. Real files -/

/-- A run on real files, which shows the events that are selected. -/
abbrev Run := ReaderT LogSelection IO

/-- The system's failure as one of ours. -/
def failureOf : IO.Error → FileError
  | .noFileOrDirectory _ _ _ => .notFound
  | .resourceBusy _ _ => .busy
  | .alreadyExists _ _ _ => .alreadyExists
  | .inappropriateType _ 20 _ => .notDirectory
  | .inappropriateType _ _ _ => .isDirectory
  | .unsatisfiedConstraints _ _ => .notEmpty
  | .invalidArgument _ 22 _ => .invalid
  | .invalidArgument _ 36 _ => .nameTooLong
  | .invalidArgument _ 40 _ => .tooManyLinks
  | error => .other (toString error)

/-- The outcome of a file operation. -/
def attempt {α : Type} (operation : IO α) : Run (Except FileError α) := fun _ => do
  try
    return .ok (← operation)
  catch error => return .error (failureOf error)

/-- A path, seen as an entry of the working directory. -/
def entryOf (path : Path) : IO.FS.DirEntry := ⟨".", path.text⟩

/-- What a path leads to, if it leads to anything. -/
def kindOf (path : Path) : IO (Option FileKind) := do
  if path.text.isEmpty then return none
  try
    match (← (entryOf path).path.metadata).type with
    | .dir => return some .directory
    | _ => return some .file
  catch _ => return none

/-- The names in a directory. -/
def namesIn (path : Path) : IO (List FileName) := do
  let entries ← (entryOf path).path.readDir
  return entries.toList.filterMap fun entry => FileName.ofText? entry.fileName

/-- The files below a directory that are no links, by the names on the way to them. -/
partial def filesBelow (enter : FileName → Bool) (path : Path) : IO (List (List FileName)) := do
  let names ← try namesIn path catch _ => pure []
  let found ← names.mapM fun name => do
    let inside := path.join name.text
    let kind ← try some <$> IO.FS.Metadata.type <$> (entryOf inside).path.symlinkMetadata
      catch _ => pure none
    match kind with
    | some .file => return [[name]]
    | some .dir =>
      if enter name then return (← filesBelow enter inside).map (name :: ·) else return []
    | _ => return []
  return found.flatten

instance : Host Run where
  kind? path := fun _ => kindOf path
  list path := attempt (namesIn path)
  listBelow enter path := fun _ => filesBelow enter path
  readFile path := attempt (IO.FS.readBinFile path.text)
  writeFile path bytes := attempt (IO.FS.writeBinFile path.text bytes)
  createDirectory path := attempt (IO.FS.createDir path.text)
  moveFile source target := attempt (IO.FS.rename source.text target.text)
  removeFile path := attempt (IO.FS.removeFile path.text)
  note event := fun shown => if event.isShown shown then IO.eprintln event.line else pure ()

/-! ## 2. The command line -/

/-- How the program is used. -/
def usage : String :=
  "Render a directory of text posts into a single HTML page

Usage: postpage [OPTIONS]
       postpage <COMMAND>

Commands:
  build    Build the site (the default when no command is given)
  render   Render one template file to stdout
  filters  List available filters
  help     Print this message

Options:
  -v, --verbose          Show debug output
      --posts <DIR>      Directory containing post files (*.txt)
      --out <DIR>        Output directory for index.html
      --templates <DIR>  Directory with page.html / post.html overrides
  -r, --recursive        Include posts in subdirectories
  -h, --help             Print help
  -V, --version          Print version
"

/-- What is wrong with a command line, in a few words. -/
def complaint : CommandLine.UsageError → String
  | .badValue => "a value is missing or empty"
  | .unexpectedValue => "a value is given to a switch that takes none"
  | .unknownArgument => "unexpected argument"
  | .unknownCommand => "unrecognized command"
  | .conflict => "an argument cannot be used with another one, or not twice"
  | .missingArgument => "a required argument is missing"
  | .helpRequested => ""
  | .versionRequested => ""

/-- The variables of the environment that the program looks at. -/
def variableNames : List String :=
  "RUST_LOG" :: [.posts, .out, .templates].map CommandLine.Setting.variable

/-- The values of those variables that are set. -/
def environment : IO CommandLine.Environment := do
  let found ← variableNames.mapM fun name => do return (name, ← IO.getEnv name)
  return .ofList (found.filterMap fun (name, value) => value.map (name, ·))

/-- Answers a command line that asks for no run. -/
def answer (error : CommandLine.UsageError) : IO UInt32 := do
  match error with
  | .helpRequested => IO.print usage
  | .versionRequested => IO.print CommandLine.versionText
  | error => IO.eprint ("error: " ++ complaint error ++ "\n\n" ++ usage)
  return error.exitCode.toUInt32

/-- Runs the program. -/
def start (arguments : List String) : IO UInt32 := do
  let environment ← environment
  match CommandLine.parse environment arguments with
  | .error error => answer error
  | .ok invocation =>
    let tag := toString (← IO.monoNanosNow)
    let shown := LogSelection.of (SortedMap.get? environment "RUST_LOG") invocation.verbose
    let outcome ← (CommandLine.run tag invocation.command : Run _).run shown
    IO.print outcome.output
    IO.eprint outcome.errors
    return outcome.exitCode.toUInt32

end SinglePage.Program

/-- The entry point. -/
def main (arguments : List String) : IO UInt32 := SinglePage.Program.start arguments
