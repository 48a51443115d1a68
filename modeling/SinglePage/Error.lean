/-
# What can go wrong, and how it is reported

Every failure of a build or of a rendering is a `SiteError`.  It has a one-line message, an
exit code for the command line, and a report: the message together with advice on how to mend
the fault, where there is any.

Failures of the file system are a type of their own, `FileError`, because a template that
cannot be read and a post that cannot be read are different faults of a site.
-/
import SinglePage.Path.Basic

namespace SinglePage

/-! ## 1. Kinds of values -/

/-- The four kinds of value that a template can handle. -/
inductive Kind where
  | text
  | list
  | record
  | filter
  deriving DecidableEq

/-- The name of a kind. -/
def Kind.name : Kind → String
  | .text => "text"
  | .list => "list"
  | .record => "record"
  | .filter => "filter"

/-! ## 2. Failures of the file system -/

/-- **Why a file operation failed.** -/
inductive FileError where
  | notFound
  | busy
  | alreadyExists
  | notDirectory
  | isDirectory
  | invalid
  | nameTooLong
  | notEmpty
  | tooManyLinks
  | zeroInName
  | notText
  | other (text : String)
  deriving DecidableEq

/-- The message of a file error: the system's own words with its error number, or, for the
last three, a text that no error number belongs to. -/
def FileError.message : FileError → String
  | .notFound => "No such file or directory (os error 2)"
  | .busy => "Device or resource busy (os error 16)"
  | .alreadyExists => "File exists (os error 17)"
  | .notDirectory => "Not a directory (os error 20)"
  | .isDirectory => "Is a directory (os error 21)"
  | .invalid => "Invalid argument (os error 22)"
  | .nameTooLong => "File name too long (os error 36)"
  | .notEmpty => "Directory not empty (os error 39)"
  | .tooManyLinks => "Too many levels of symbolic links (os error 40)"
  | .zeroInName => "file name contained an unexpected NUL byte"
  | .notText => "stream did not contain valid UTF-8"
  | .other text => text

/-! ## 3. Failures of a site -/

/-- **Why a site cannot be built or a template cannot be rendered.** -/
inductive SiteError where
  /-- No filter is registered under this name. -/
  | unknownFilter (name : String)
  /-- The reference that opens at this byte of the template is never closed. -/
  | unterminatedReference (offset : Nat)
  /-- A template refers to a variable that has no value. -/
  | missingVariable (key : String)
  /-- A template sends a value through a filter that does not exist. -/
  | missingFilter (name : String)
  /-- This text is not a timestamp. -/
  | malformedTimestamp (input : String)
  /-- A value of one kind stands where another kind is needed. -/
  | typeMismatch (expected found : Kind)
  /-- The directory that should hold the posts is not one. -/
  | postsDirectoryNotFound (path : Path)
  /-- This text does not assign a value to a variable. -/
  | invalidVariable (input : String)
  /-- No template of this name comes with the program. -/
  | unknownTemplate (name : String)
  /-- The file that holds a template cannot be read. -/
  | unreadableTemplate (path : Path) (cause : FileError)
  /-- A fault of a template that none of the other cases describes. -/
  | templateFault (text : String)
  /-- A file operation failed. -/
  | io (cause : FileError)
  deriving DecidableEq

namespace SiteError

/-- **The one-line message of an error.** -/
def message : SiteError → String
  | .unknownFilter name => "Unknown filter: " ++ name
  | .unterminatedReference offset =>
    "Unterminated reference: '\x7b\x7b' at byte " ++ toString offset ++
      " has no closing '\x7d\x7d'"
  | .missingVariable key => "Missing variable: " ++ key
  | .missingFilter name => "Missing filter: " ++ name
  | .malformedTimestamp input =>
    "Malformed timestamp: '" ++ input ++ "' (expected YYYY-MM-DD HH:MM:SS)"
  | .typeMismatch expected found =>
    "Type mismatch: expected " ++ expected.name ++ ", found " ++ found.name
  | .postsDirectoryNotFound path => "Posts directory not found: " ++ path.text
  | .invalidVariable input => "Invalid variable: " ++ input
  | .unknownTemplate name => "Template error: Unknown template: " ++ name
  | .unreadableTemplate path cause =>
    "Template error: Failed to read template file " ++ path.text ++ ": " ++ cause.message
  | .templateFault text => "Template error: " ++ text
  | .io cause => "IO error: " ++ cause.message

/-- The exit code of a run that ends in this error: 2 for a template that cannot be parsed,
3 for one whose names or kinds do not fit, 4 for a bad timestamp, and 1 for all else. -/
def exitCode : SiteError → Nat
  | .unterminatedReference _ => 2
  | .missingVariable _ => 3
  | .missingFilter _ => 3
  | .unknownFilter _ => 3
  | .typeMismatch _ _ => 3
  | .malformedTimestamp _ => 4
  | _ => 1

/-- A message with advice under a heading, one piece of it to a line. -/
def advise (message heading : String) (advice : List String) : String :=
  message ++ "\n\n" ++ heading ++ String.join (advice.map fun line => "\n• " ++ line)

/-- Advice for a filter name that could not be found. -/
def filterAdvice (name : String) : List String := [
  "Run 'postpage filters' to see available filters",
  "Filters are applied left to right: \x7b\x7b posts | postify-each | join-lines \x7d\x7d",
  "'" ++ name ++ "' must be spelled exactly as registered"]

/-- **The report of an error**: what happened, and what can be done about it. -/
def report (error : SiteError) : String :=
  match error with
  | .unterminatedReference _ => advise error.message "Suggestions:" [
      "Close every reference with '\x7d\x7d', e.g. \x7b\x7b text \x7d\x7d",
      "Braces cannot be escaped or nested"]
  | .missingVariable key => advise ("Missing variable: '" ++ key ++ "'") "Suggestions:" [
      "Page templates can use: posts",
      "Post templates can use: datetime, text",
      "Variable names are case-sensitive"]
  | .missingFilter name => advise error.message "Suggestions:" (filterAdvice name)
  | .unknownFilter name => advise error.message "Suggestions:" (filterAdvice name)
  | .malformedTimestamp _ =>
    advise error.message "Post files are named after their timestamp:" [
      "YYYY-MM-DD_HH.MM.SS.txt (e.g., 2021-03-05_09.07.00.txt)"]
  | .postsDirectoryNotFound path =>
    advise ("Posts directory not found: " ++ path.text) "Suggestions:" [
      "Create a 'posts' directory with .txt files",
      "Point to another directory: postpage build --posts <DIR>",
      "Set POSTPAGE_POSTS environment variable"]
  | .invalidVariable _ =>
    error.message ++ "\n\nExpected format: KEY=VALUE" ++
      "\nExample: postpage render page.html --var title=Hello"
  | _ => error.message

end SiteError

end SinglePage
