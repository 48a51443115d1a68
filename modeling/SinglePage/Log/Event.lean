/-
# What a run reports as it goes

A run notes what it does as events.  Every event has a level, comes from some part of the
program, carries named fields, and is written as one line.
-/
import SinglePage.Log.Level
import SinglePage.Path.Basic

namespace SinglePage

/-- **Something worth noting in a run.** -/
inductive LogEvent where
  /-- A template was taken from the templates directory. -/
  | customTemplate (path : Path)
  /-- A template that comes with the program was taken. -/
  | builtinTemplate (name : String)
  /-- A post was found. -/
  | foundPost (path : Path) (datetime : String)
  /-- The page was written. -/
  | wrotePage (path : Path) (bytes : Nat)
  /-- The command failed. -/
  | failed
  deriving DecidableEq

namespace LogEvent

/-- The level of an event. -/
def level : LogEvent → LogLevel
  | .wrotePage _ _ => .info
  | _ => .debug

/-- What an event says. -/
def text : LogEvent → String
  | .customTemplate path => "using custom template path=" ++ path.text
  | .builtinTemplate name => "using built-in template template=\"" ++ name ++ "\""
  | .foundPost path datetime => "found post path=" ++ path.text ++ " datetime=" ++ datetime
  | .wrotePage path bytes => "wrote page path=" ++ path.text ++ " bytes=" ++ toString bytes
  | .failed => "build failed"

/-- The part of the program that notes an event, by the name that it has in the environment:
outer parts stand before the parts inside them. -/
def origin : LogEvent → String
  | .customTemplate _ => "postpage::domain::template"
  | .builtinTemplate _ => "postpage::domain::template"
  | .foundPost _ _ => "postpage::infrastructure::repository"
  | .wrotePage _ _ => "postpage::application::build_site"
  | .failed => "postpage"

/-- The names of the fields that an event carries. -/
def fields : LogEvent → List String
  | .customTemplate _ => ["message", "path"]
  | .builtinTemplate _ => ["message", "template"]
  | .foundPost _ _ => ["message", "path", "datetime"]
  | .wrotePage _ _ => ["message", "path", "bytes"]
  | .failed => ["message", "error"]

/-- **The line of an event.** -/
def line (event : LogEvent) : String := event.level.label ++ " " ++ event.text

end LogEvent

end SinglePage
