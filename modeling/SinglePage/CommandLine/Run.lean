/-
# Running a command

A command prints its result, or fails with an error that is reported on the error output and
decides the exit code.  A command line that is refused is answered with a usage text; how that
text is worded is left to the program.
-/
import SinglePage.CommandLine.Parser
import SinglePage.Site.Build
import SinglePage.Site.Render

namespace SinglePage.CommandLine

/-- **What is left of a run**: its exit code and what it printed. -/
structure Outcome where
  exitCode : Nat
  output : String
  errors : String
  deriving DecidableEq

/-- What `--version` prints. -/
def versionText : String := "postpage 0.1.0\n"

/-- The exit code of a run whose command line was refused; asking for help or for the version is
no mistake. -/
def UsageError.exitCode : UsageError → Nat
  | .helpRequested => 0
  | .versionRequested => 0
  | _ => 2

variable {m : Type → Type} [Monad m] [Host m]

/-- Builds a site and says where the page is. -/
def runBuild (tag : String) (options : Site.Options) : ExceptT SiteError m String := do
  let path ← Site.build tag options
  return "Wrote " ++ path.text ++ "\n"

/-- **What a command prints.**  All assignments are read before the template is. -/
def runCommand (tag : String) : Command → ExceptT SiteError m String
  | .implicit options => runBuild tag options
  | .build options => runBuild tag options
  | .render template inputs => do
    let assignments ← Site.parseAssignments inputs
    Site.renderFile template assignments
  | .filters => return Registry.formatNames (Registry.builtin Template.post).names

/-- **Runs a command.** -/
def run (tag : String) (command : Command) : m Outcome := do
  match ← (runCommand tag command).run with
  | .ok output => return ⟨0, output, ""⟩
  | .error error =>
    Host.note .failed
    return ⟨error.exitCode, "", "Error: " ++ error.report ++ "\n"⟩

end SinglePage.CommandLine
