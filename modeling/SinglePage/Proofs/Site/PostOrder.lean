/-
# The order of posts

Posts are listed newest first, and posts of one time in the order of their paths.  Of two entries
whose timestamps or paths differ exactly one comes before the other, and paths differ as soon as
their components do.  So there is one way only to list some posts, whatever the order in which they
were found.

* `Component.before_trans`, `componentsBefore_connected`: the order of components, and of paths;
* `PostEntry.before_iff`: the order of entries in bytes and components;
* `pairwise_sortEntries`: entries are sorted into this order;
* `eq_of_precedes`, `sortEntries_eq_of_perm`: which is the only one.
-/
import Mathlib.Data.List.Chain
import SinglePage.Proofs.Text.ByteOrder
import SinglePage.Site.Listing

namespace SinglePage

/-! ## 1. Components and paths -/

namespace Component

theorem before_irrefl (a : Component) : a.before a = false := by
  cases a with
  | named name => exact decide_eq_false (KeyOrder.irrefl name)
  | _ => rfl

theorem before_trans {a b c : Component} (ab : a.before b = true) (bc : b.before c = true) :
    a.before c = true := by
  cases a <;> cases b <;> cases c <;> simp only [before, Bool.false_eq_true] at ab bc ⊢
  rw [decide_eq_true_eq] at ab bc ⊢
  exact KeyOrder.trans ab bc

theorem before_connected {a b : Component} (nab : a.before b = false) (nba : b.before a = false) :
    a = b := by
  cases a <;> cases b <;> simp only [before, Bool.true_eq_false] at nab nba ⊢
  rw [decide_eq_false_iff_not] at nab nba
  exact congrArg Component.named (KeyOrder.connected nab nba)

end Component

namespace Path

theorem componentsBefore_irrefl : ∀ l : List Component, componentsBefore l l = false
  | [] => rfl
  | a :: l => by simp [componentsBefore, a.before_irrefl, componentsBefore_irrefl l]

theorem componentsBefore_trans : ∀ {l r s : List Component}, componentsBefore l r = true →
    componentsBefore r s = true → componentsBefore l s = true
  | _, _, [], _, h => by simp [componentsBefore] at h
  | _, [], _ :: _, h, _ => by simp [componentsBefore] at h
  | [], _ :: _, _ :: _, _, _ => rfl
  | a :: l, b :: r, c :: s, ab, bc => by
    simp only [componentsBefore, Bool.or_eq_true, Bool.and_eq_true, decide_eq_true_eq] at ab bc ⊢
    rcases ab with ab | ⟨rfl, lr⟩
    · rcases bc with bc | ⟨rfl, -⟩
      · exact .inl (Component.before_trans ab bc)
      · exact .inl ab
    · rcases bc with bc | ⟨rfl, rs⟩
      · exact .inl bc
      · exact .inr ⟨rfl, componentsBefore_trans lr rs⟩

/-- **Of two lists of components that differ, one comes before the other.** -/
theorem componentsBefore_connected : ∀ {l r : List Component}, componentsBefore l r = false →
    componentsBefore r l = false → l = r
  | [], [], _, _ => rfl
  | [], _ :: _, h, _ => by simp [componentsBefore] at h
  | _ :: _, [], _, h => by simp [componentsBefore] at h
  | a :: l, b :: r, nab, nba => by
    simp only [componentsBefore, Bool.or_eq_false_iff, Bool.and_eq_false_iff] at nab nba
    obtain rfl := Component.before_connected nab.1 nba.1
    have lr := nab.2.resolve_left (by simp)
    have rl := nba.2.resolve_left (by simp)
    rw [componentsBefore_connected lr rl]

end Path

namespace Site

/-! ## 2. Entries -/

namespace PostEntry

/-- **An entry precedes another**: the bytes of its timestamp are greater, or the timestamps are
equal and the components of its path come first. -/
def Precedes (a b : PostEntry) : Prop :=
  b.datetime.toUTF8.data.toList < a.datetime.toUTF8.data.toList ∨
    a.datetime = b.datetime ∧ a.path.before b.path = true

theorem before_iff {a b : PostEntry} : a.before b = true ↔ a.Precedes b := by
  simp only [before, Precedes, Bool.or_eq_true, Bool.and_eq_true, decide_eq_true_eq,
    Text.lt_iff_utf8_lt]

theorem Precedes.trans {a b c : PostEntry} (ab : a.Precedes b) (bc : b.Precedes c) :
    a.Precedes c := by
  rcases ab with newer | ⟨same, first⟩
  · rcases bc with newer' | ⟨same', -⟩
    · exact .inl (List.lt_trans newer' newer)
    · exact .inl (same' ▸ newer)
  · rcases bc with newer' | ⟨same', first'⟩
    · exact .inl (same ▸ newer')
    · exact .inr ⟨same.trans same', Path.componentsBefore_trans first first'⟩

theorem Precedes.irrefl (a : PostEntry) : ¬ a.Precedes a := by
  rintro (newer | ⟨-, first⟩)
  · exact List.lt_irrefl _ newer
  · rw [Path.before, Path.componentsBefore_irrefl] at first
    exact absurd first (by simp)

theorem Precedes.asymm {a b : PostEntry} (ab : a.Precedes b) : ¬ b.Precedes a := fun ba =>
  Precedes.irrefl a (ab.trans ba)

/-- Entries of which neither precedes the other agree in time and in the components of their
paths. -/
theorem connected {a b : PostEntry} (nab : ¬ a.Precedes b) (nba : ¬ b.Precedes a) :
    a.datetime = b.datetime ∧ a.path.components = b.path.components := by
  obtain ⟨notNewer, notFirst⟩ := not_or.mp nab
  obtain ⟨notNewer', notFirst'⟩ := not_or.mp nba
  rw [← Text.lt_iff_utf8_lt] at notNewer notNewer'
  have same : a.datetime = b.datetime := KeyOrder.connected notNewer' notNewer
  refine ⟨same, Path.componentsBefore_connected ?_ ?_⟩
  · exact Bool.eq_false_iff.mpr fun first => notFirst ⟨same, first⟩
  · exact Bool.eq_false_iff.mpr fun first => notFirst' ⟨same.symm, first⟩

/-- What does not come before an entry, and comes after what does not come before another one,
does not come before that one either. -/
theorem Precedes.not_trans {a b c : PostEntry} (nba : ¬ b.Precedes a) (ncb : ¬ c.Precedes b) :
    ¬ c.Precedes a := by
  intro ca
  by_cases ab : a.Precedes b
  · exact ncb (ca.trans ab)
  · obtain ⟨same, components⟩ := connected ab nba
    rw [Precedes, same, Path.before, components] at ca
    exact ncb ca

end PostEntry

/-! ## 3. Lists of entries -/

/-- The paths of different entries have different components. -/
def Apart (entries : List PostEntry) : Prop :=
  entries.Pairwise fun a b => a.path.components ≠ b.path.components

/-- **Entries are sorted newest first, and by path where they are of one time.** -/
theorem pairwise_sortEntries {found : List PostEntry} (apart : Apart found) :
    (sortEntries found).Pairwise PostEntry.Precedes := by
  have notAfter : (sortEntries found).Pairwise fun a b => (!b.before a) = true := by
    refine List.pairwise_mergeSort ?_ ?_ found
    · intro a b c ab bc
      rw [Bool.not_eq_true', Bool.eq_false_iff, Ne, PostEntry.before_iff] at ab bc ⊢
      exact PostEntry.Precedes.not_trans ab bc
    · intro a b
      rw [Bool.or_eq_true, Bool.not_eq_true', Bool.not_eq_true', Bool.eq_false_iff,
        Bool.eq_false_iff, Ne, Ne, PostEntry.before_iff, PostEntry.before_iff]
      by_cases ba : b.Precedes a
      · exact .inr ba.asymm
      · exact .inl ba
  have apart' : Apart (sortEntries found) :=
    (List.mergeSort_perm found _).symm.pairwise apart fun ne => ne.symm
  refine (notAfter.and apart').imp ?_
  rintro a b ⟨notBefore, ne⟩
  by_contra notPrecedes
  have notBefore : ¬ b.Precedes a := by
    rw [← PostEntry.before_iff]
    simpa using notBefore
  exact ne (PostEntry.connected notPrecedes notBefore).2

/-- **There is one way only to list some posts.** -/
theorem eq_of_precedes {entries others : List PostEntry} (perm : entries.Perm others)
    (sorted : entries.Pairwise PostEntry.Precedes) (sorted' : others.Pairwise PostEntry.Precedes) :
    entries = others :=
  perm.eq_of_pairwise (fun _ _ _ _ ab ba => absurd ba ab.asymm) sorted sorted'

/-- The order in which posts are found does not show in the list. -/
theorem sortEntries_eq_of_perm {found others : List PostEntry} (perm : found.Perm others)
    (apart : Apart found) : sortEntries found = sortEntries others := by
  have apart' : Apart others := perm.pairwise apart fun ne => ne.symm
  refine eq_of_precedes ?_ (pairwise_sortEntries apart) (pairwise_sortEntries apart')
  exact (List.mergeSort_perm found _).trans (perm.trans (List.mergeSort_perm others _).symm)

end Site

end SinglePage
