/-
# The registry of filters

A registry holds actions by name.  The filter found under a name goes by that name, whatever
its action was called elsewhere.  A registry turns into variables, so that templates can name
its filters; where a variable and a filter have one name, the filter wins.

* `Registry.builtin`: the registry of a site.  Its `postify-each` has its own copy of the two
  other filters, so what is registered later is nothing to the post template;
* `get?_toVariables`, `lookup_register`: what registering and merging do to every name.
-/
import SinglePage.Filter.Call

namespace SinglePage

/-- **Actions by name.** -/
structure Registry where
  actions : SortedMap String Action

namespace Registry

/-! ## 1. Registering and looking up -/

/-- The registry without filters. -/
def empty : Registry := ⟨.empty⟩

instance : Inhabited Registry := ⟨empty⟩

/-- Registers an action under a name, in place of the one that was there. -/
def register (registry : Registry) (name : String) (action : Action) : Registry :=
  ⟨registry.actions.insert name action⟩

/-- Registers actions from first to last. -/
def registerAll (registry : Registry) (actions : List (String × Action)) : Registry :=
  ⟨registry.actions.insertAll actions⟩

/-- The registered names, in increasing order. -/
def names (registry : Registry) : List String := registry.actions.keys

/-- The filter that is registered under a name. -/
def lookup (registry : Registry) (name : String) : Except SiteError Filter :=
  match registry.actions.get? name with
  | some action => .ok ⟨name, action⟩
  | none => .error (.unknownFilter name)

/-- **The filters of a registry as variables**, each under its own name. -/
def toVariables (registry : Registry) : Variables :=
  registry.actions.mapValues fun name action => .filter name action

/-- The action that renders records through a template which sees the filters that are
registered now. -/
def postifyEach (registry : Registry) (template : Template) : Action :=
  .postifyEach template registry.actions.entries

end Registry

/-- Variables merged with the filters of a registry, which replace variables of their names. -/
def Variables.withFilters (vars : Variables) (registry : Registry) : Variables :=
  SortedMap.extend vars registry.toVariables

namespace Registry

/-! ## 2. The filters of a site -/

/-- The name of the filter that puts texts on lines of their own. -/
def joinLinesName : String := "join-lines"

/-- The name of the filter that spells timestamps out. -/
def friendlyDatetimeName : String := "friendly-datetime"

/-- The name of the filter that renders posts. -/
def postifyEachName : String := "postify-each"

/-- The filters that a post template sees. -/
def postFilters : Registry :=
  (empty.register joinLinesName .joinLines).register friendlyDatetimeName .friendlyDatetime

/-- **The filters that a page template sees**: those of the posts, and the one that renders
posts through the given template. -/
def builtin (template : Template) : Registry :=
  postFilters.register postifyEachName (postFilters.postifyEach template)

/-- The names of filters, one to a line, as the command line shows them. -/
def formatNames (names : List String) : String :=
  if names.isEmpty then "No filters registered" else String.join (names.map (· ++ "\n"))

/-! ## 3. What registering does to a name -/

theorem lookup_register (registry : Registry) (name : String) (action : Action) (n : String) :
    (registry.register name action).lookup n =
      if n = name then .ok ⟨n, action⟩ else registry.lookup n := by
  unfold lookup register
  rw [SortedMap.get?_insert]
  split
  · rename_i found
    split at found
    · rename_i eq
      rw [if_pos eq, Option.some.inj found]
    · rename_i ne
      rw [if_neg ne, found]
  · rename_i none
    split at none
    · exact absurd none (by simp)
    · rename_i ne
      rw [if_neg ne, none]

theorem get?_toVariables (registry : Registry) (name : String) :
    registry.toVariables.get? name = (registry.actions.get? name).map (.filter name) :=
  SortedMap.get?_mapValues _ _ _

end Registry

end SinglePage
