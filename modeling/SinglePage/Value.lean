/-
# Values

What a template works on: texts, lists, records and filters.  Data and filters are values of
one type, so that both can stand under a name in the variables of a template; what a filter
does is data too, an `Action`, so that a filter can be stored, copied and sent through another
filter like everything else.

* `Value.display`: how a value is written into a page;
* `Value.asText` and its three companions: how a value of a wrong kind is refused.
-/
import SinglePage.Template.Parser
import SinglePage.SortedMap

namespace SinglePage

/-! ## 1. Values and actions -/

mutual

/-- **A value.**  The entries of a record count as written one after the other: where a key
occurs twice, the later entry is the one that holds. -/
inductive Value where
  | text (text : String)
  | list (items : List Value)
  | record (entries : List (String × Value))
  | filter (name : String) (action : Action)

/-- **What a filter does** to the value that it is given. -/
inductive Action where
  /-- Puts the texts of a list on lines of their own. -/
  | joinLines
  /-- Spells a timestamp out. -/
  | friendlyDatetime
  /-- Renders each record of a list through a template that sees these filters, the later of
  two filters with the same name. -/
  | postifyEach (template : Template) (filters : List (String × Action))
  /-- Returns the value itself. -/
  | identity
  /-- Puts a text behind a text. -/
  | append (text : String)
  /-- Makes a list with the value as its only item. -/
  | wrap
  /-- Names the kind of the value. -/
  | kind
  /-- Writes the value out as text. -/
  | display
  /-- Returns a fixed value. -/
  | constant (value : Value)
  /-- Takes one entry of a record. -/
  | field (key : String)
  /-- Fails. -/
  | fail (reason : String)

end

/-- **A filter**: an action, and the name that it goes by. -/
structure Filter where
  name : String
  action : Action

/-- **The variables of a template**: values by name. -/
abbrev Variables := SortedMap String Value

namespace Value

instance : Inhabited Value := ⟨.text ""⟩

/-- The record that holds the given variables. -/
def ofVariables (vars : Variables) : Value := .record vars.entries

/-! ## 2. Kinds -/

/-- The kind of a value. -/
def kind : Value → Kind
  | .text _ => .text
  | .list _ => .list
  | .record _ => .record
  | .filter _ _ => .filter

/-- The refusal of a value where one of the kind `expected` is needed. -/
def mismatch (value : Value) (expected : Kind) : SiteError := .typeMismatch expected value.kind

/-- The text of a text. -/
def asText : Value → Except SiteError String
  | .text content => .ok content
  | value => .error (value.mismatch .text)

/-- The items of a list. -/
def asList : Value → Except SiteError (List Value)
  | .list items => .ok items
  | value => .error (value.mismatch .list)

/-- The entries of a record. -/
def asRecord : Value → Except SiteError Variables
  | .record entries => .ok (.ofList entries)
  | value => .error (value.mismatch .record)

/-- The filter itself. -/
def asFilter : Value → Except SiteError Filter
  | .filter name action => .ok ⟨name, action⟩
  | value => .error (value.mismatch .filter)

@[simp] theorem asRecord_ofVariables (vars : Variables) :
    (ofVariables vars).asRecord = .ok vars :=
  congrArg Except.ok vars.ofList_entries

end Value

/-! ## 3. Values as text -/

/-- The written form of a record with the given keys and written values. -/
def displayRecord (entries : List (String × String)) : String :=
  let written := (SortedMap.ofList entries).entries.map fun e => e.1 ++ ": " ++ e.2
  "\x7b" ++ ", ".intercalate written ++ "\x7d"

mutual

/-- **How a value is written**: a text as it is, a list in brackets, a record in braces with
its entries in key order, and a filter by its name. -/
def Value.display : Value → String
  | .text content => content
  | .list items => "[" ++ ", ".intercalate (displayItems items) ++ "]"
  | .record entries => displayRecord (displayEntries entries)
  | .filter name _ => "<filter " ++ name ++ ">"

/-- The written items of a list. -/
def displayItems : List Value → List String
  | [] => []
  | item :: items => item.display :: displayItems items

/-- The keys of a record with the written values. -/
def displayEntries : List (String × Value) → List (String × String)
  | [] => []
  | (key, value) :: entries => (key, value.display) :: displayEntries entries

end

theorem displayItems_eq_map (items : List Value) :
    displayItems items = items.map Value.display := by
  induction items with
  | nil => simp [displayItems]
  | cons item items ih => simp [displayItems, ih]

theorem displayEntries_eq_map (entries : List (String × Value)) :
    displayEntries entries = entries.map fun e => (e.1, e.2.display) := by
  induction entries with
  | nil => simp [displayEntries]
  | cons e entries ih =>
    obtain ⟨key, value⟩ := e
    simp [displayEntries, ih]

end SinglePage
