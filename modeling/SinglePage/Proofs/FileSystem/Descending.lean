/-
# Ways that only go down

When directories are made along a way that never goes up, whatever the way newly leads to is new
itself.  A way that goes up again is different: `a/..` leads to a directory that was there before,
but does so only once `a` is made.

* `Unfolds`: one tree is another one with more of a way in it, all of which is new;
* `unfolds_of_createDirectory`: making a directory on the way unfolds it.
-/
import SinglePage.Proofs.FileSystem.Growing

namespace SinglePage.FileTree

/-! ## 1. Ways in a growing tree -/

/-- **Whatever the way leads to in one tree, it led to in the other**, or nothing was there. -/
structure Unfolds (way : List Step) (before after : FileTree) : Prop where
  keeps : Keeps before after
  enters : ∀ steps place, steps <+: way → Enters after maxLinks [] steps place →
    Enters before maxLinks [] steps place ∨ before.node? place = none

namespace Unfolds

variable {way : List Step}

theorem refl (way : List Step) (tree : FileTree) : Unfolds way tree tree where
  keeps _ _ there := there
  enters _ _ _ enters := .inl enters

theorem trans {a b c : FileTree} (first : Unfolds way a b) (second : Unfolds way b c) :
    Unfolds way a c where
  keeps location node there := second.keeps location node (first.keeps location node there)
  enters steps place front enters := by
    rcases second.enters steps place front enters with between | vacant
    · exact first.enters steps place front between
    · refine .inr ?_
      cases there : a.node? place with
      | none => rfl
      | some node =>
        rw [first.keeps place node there] at vacant
        exact absurd vacant (by simp)

end Unfolds

/-! ## 2. Making a directory -/

/-- Nothing is entered below a directory in which nothing is. -/
theorem eq_of_enters_empty {tree : FileTree} {links : Nat} {directory place : Location}
    {steps : List Step} (empty : ∀ name, tree.node? (directory ++ [name]) = none)
    (down : ∀ step ∈ steps, ∃ name, step = .down name)
    (enters : Enters tree links directory steps place) : place = directory := by
  cases enters with
  | stop => rfl
  | here =>
    obtain ⟨name, eq⟩ := down _ List.mem_cons_self
    exact absurd eq (by simp)
  | up =>
    obtain ⟨name, eq⟩ := down _ List.mem_cons_self
    exact absurd eq (by simp)
  | down short there =>
    rw [empty] at there
    exact absurd there (by simp)
  | link short there =>
    rw [empty] at there
    exact absurd there (by simp)

/-- **Making a directory on a way that only goes down unfolds this way.** -/
theorem unfolds_of_createDirectory {tree after : FileTree} {path : Path} {way : List Step}
    (down : ∀ step ∈ way, ∃ name, step = .down name)
    (onWay : path.steps.filter (· ≠ .here) <+: way) (made : tree.createDirectory path = .ok after) :
    Unfolds way tree after := by
  have keeps := keeps_of_createDirectory made
  obtain ⟨directory, name, last, vacant, can, rfl⟩ := createDirectory_eq_ok made
  obtain ⟨fault, enters, named, short⟩ := lastEntry_eq_ok_iff.mp last
  let front := path.namedSteps.dropLast.filter (· ≠ .here)
  have whole : path.steps.filter (· ≠ .here) = front ++ [.down name] := by
    rw [← path.sameWay_namedSteps, namedSteps_of_getLast? named, List.filter_append]
    rfl
  have toDirectory : Enters tree maxLinks [] front directory :=
    enters.sameWay (.of_filter _)
  refine ⟨keeps, ?_⟩
  intro steps place onWay' enters'
  rw [whole] at onWay
  have meet : front ++ [.down name] <+: steps ∨ steps <+: front := by
    rcases List.prefix_or_prefix_of_prefix onWay onWay' with longer | shorter
    · exact .inl longer
    · rcases List.prefix_concat_iff.mp shorter with rfl | before
      · exact .inl (List.prefix_refl _)
      · exact .inr before
  rcases meet with ⟨rest, rfl⟩ | ⟨rest, eq⟩
  · -- The new directory is on the way, and the way ends there.
    rw [List.append_assoc] at enters'
    obtain ⟨left, between, first, second⟩ := enters'.split rfl
    obtain rfl : between = directory := first.unique (keeps.enters toDirectory)
    cases second with
    | down _ _ behind =>
      have empty : ∀ other, (tree.put (between ++ [name]) .directory).node?
          (between ++ [name] ++ [other]) = none := by
        intro other
        rw [node?_put_of_ne (by simp), node?_below vacant]
      have down' : ∀ step ∈ rest, ∃ name, step = .down name := fun step mem =>
        down step (onWay'.subset (List.mem_append_right _ mem))
      obtain rfl := eq_of_enters_empty empty down' behind
      exact .inr vacant
    | link _ there _ =>
      rw [node?_put _ can, if_pos rfl] at there
      exact absurd there (by simp)
  · -- The way ends before the new directory.
    obtain ⟨left, between, first, -⟩ := toDirectory.split eq.symm
    obtain rfl : between = place := (keeps.enters first).unique enters'
    exact .inl first

end SinglePage.FileTree
