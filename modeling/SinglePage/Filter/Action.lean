/-
# What filters do

A template is filled in from variables, which hold both the values and the filters to send them
through.  What it means to call a filter is left open here (`Call`), because filters can fill
templates in themselves; `Filter/Call` closes the circle.

* `Variables.send`: a filter is looked up only when its turn comes, so the first stage that
  fails is the one reported;
* `Action.perform`: what an action does, given a way to call filters.
-/
import SinglePage.Template.Apply
import SinglePage.Timestamp
import SinglePage.Value

namespace SinglePage

/-- A way of calling filters. -/
abbrev Call := Filter → Value → Except SiteError Value

/-! ## 1. Variables as scopes -/

/-- The value of a variable. -/
def Variables.value (vars : Variables) (key : String) : Except SiteError Value :=
  match vars.get? key with
  | some value => .ok value
  | none => .error (.missingVariable key)

/-- The filter that stands under a name. -/
def Variables.filter (vars : Variables) (name : String) : Except SiteError Filter :=
  match vars.get? name with
  | some value => value.asFilter
  | none => .error (.missingFilter name)

/-- Sends a value through the filter that stands under `name`. -/
def Variables.send (call : Call) (vars : Variables) (value : Value) (name : String) :
    Except SiteError Value := do
  let filter ← Variables.filter vars name
  call filter value

/-- **The scope of variables**, given a way to call filters. -/
def Variables.scope (call : Call) (vars : Variables) : Scope Value :=
  ⟨vars.value, Variables.send call vars, Value.display⟩

/-- A template filled in from variables, given a way to call filters. -/
def Template.applyWith (call : Call) (template : Template) (vars : Variables) :
    Except SiteError String :=
  template.applyIn (Variables.scope call vars)

/-! ## 2. Single actions -/

/-- The texts of a list, one to a line. -/
def joinLines (value : Value) : Except SiteError Value := do
  let items ← value.asList
  let lines ← items.mapM Value.asText
  return .text ("\n".intercalate lines)

/-- A timestamp, spelled out. -/
def friendlyDatetime (value : Value) : Except SiteError Value := do
  let input ← value.asText
  match Timestamp.parse? input with
  | some timestamp => return .text timestamp.spoken
  | none => .error (.malformedTimestamp input)

/-- One entry of a record. -/
def fieldOf (key : String) (value : Value) : Except SiteError Value := do
  let vars ← value.asRecord
  Variables.value vars key

/-- The filters of a list as variables, each under its own name. -/
def filterVariables (filters : List (String × Action)) : Variables :=
  .ofList (filters.map fun e => (e.1, .filter e.1 e.2))

/-- One record rendered through a template that also sees the given filters, which replace entries
of the same name. -/
def renderRecord (call : Call) (template : Template) (filters : Variables) (item : Value) :
    Except SiteError String := do
  let record ← item.asRecord
  template.applyWith call (record.extend filters)

/-- **What an action does**, given a way to call filters. -/
def Action.perform (call : Call) (action : Action) (value : Value) : Except SiteError Value :=
  match action with
  | .joinLines => SinglePage.joinLines value
  | .friendlyDatetime => SinglePage.friendlyDatetime value
  | .postifyEach template filters => do
    let items ← value.asList
    let texts ← items.mapM (renderRecord call template (filterVariables filters))
    return .list (texts.map .text)
  | .identity => .ok value
  | .append text => do
    let content ← value.asText
    return .text (content ++ text)
  | .wrap => .ok (.list [value])
  | .kind => .ok (.text value.kind.name)
  | .display => .ok (.text value.display)
  | .constant fixed => .ok fixed
  | .field key => fieldOf key value
  | .fail reason => .error (.templateFault reason)

end SinglePage
