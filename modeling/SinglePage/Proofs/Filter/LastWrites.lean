/-
# Variables hold what was written last

Variables are written one at a time, or by merging other variables or the filters of a registry.  Which
of these was done, in which order, and how often under one name, is forgotten: what is left under a name
is the last value that was written there.  So variables are known from the last writes alone, entries and
all, and whatever is made of them is known too.

Under one name the last values may even differ in form, as records do that were written in different
orders.  Then the variables are not equal, but nothing that is written or filled in shows it.

* `Write.apply_eq_insertAll`: every write is one of entries, one by one;
* `Write.run_eq_ofList`: so the variables are the map made from all entries that were written;
* `Write.EndAlike.related`: sequences whose last values are the same give the same variables;
* `last_write_wins`: what follows for variables, for merging and for filled-in templates.
-/
import SinglePage.Proofs.Filter.PostScope
import SinglePage.Proofs.Filter.Sameness

namespace SinglePage

open SortedMap (Related)

/-- **Something that is written into variables.** -/
inductive Write where
  /-- A single value, whether variables are changed or new ones are made from them. -/
  | insert (key : String) (value : Value)
  /-- All entries of other variables. -/
  | extend (other : Variables)
  /-- The filters of a registry, each under its name. -/
  | withFilters (registry : Registry)

namespace Write

/-! ## 1. Sequences of writes -/

/-- What is written, entry by entry. -/
def entries : Write → List (String × Value)
  | .insert key value => [(key, value)]
  | .extend other => other.entries
  | .withFilters registry => registry.actions.entries.map fun e => (e.1, .filter e.1 e.2)

/-- The variables after a write. -/
def apply (vars : Variables) : Write → Variables
  | .insert key value => SortedMap.insert vars key value
  | .extend other => SortedMap.extend vars other
  | .withFilters registry => vars.withFilters registry

/-- **The variables after writes**, which begin without any. -/
def run (writes : List Write) : Variables := writes.foldl apply .empty

/-- All entries that are written, from first to last. -/
def written (writes : List Write) : List (String × Value) := writes.flatMap entries

/-- The names that something is written under. -/
def keys (writes : List Write) : List String := (written writes).map Prod.fst

/-- **The value is the last one written under the name.** -/
def Last (writes : List Write) (key : String) (value : Value) : Prop :=
  ∃ earlier later, written writes = earlier ++ (key, value) :: later ∧ key ∉ later.map Prod.fst

/-- **Two sequences of writes end alike**: they write under the same names, and the last values under
each of these are the same. -/
structure EndAlike (writes others : List Write) : Prop where
  keys : ∀ key, key ∈ keys writes ↔ key ∈ keys others
  values : ∀ key value other, Last writes key value → Last others key other → value.Same other

/-! ## 2. What they leave -/

/-- **Every write is one of entries, one by one.** -/
theorem apply_eq_insertAll (vars : Variables) (write : Write) :
    write.apply vars = vars.insertAll write.entries := by
  cases write with
  | insert key value => rfl
  | extend other => exact vars.extend_eq_insertAll other
  | withFilters registry => exact vars.extend_eq_insertAll registry.toVariables

/-- Writing goes on where other writes have ended. -/
theorem foldl_apply_ofList (writes : List Write) (earlier : List (String × Value)) :
    writes.foldl apply (.ofList earlier) = .ofList (earlier ++ written writes) := by
  induction writes generalizing earlier with
  | nil => rw [List.foldl_nil, written, List.flatMap_nil, List.append_nil]
  | cons write writes ih =>
    rw [List.foldl_cons, apply_eq_insertAll, SortedMap.insertAll_ofList, ih, List.append_assoc]
    rfl

/-- **The variables are the map made from all entries that were written.** -/
theorem run_eq_ofList (writes : List Write) : run writes = .ofList (written writes) :=
  foldl_apply_ofList writes []

theorem get?_run_eq_some_iff {writes : List Write} {key : String} {value : Value} :
    (run writes).get? key = some value ↔ Last writes key value := by
  rw [run_eq_ofList, SortedMap.get?_ofList_eq_some_iff, Last]

theorem get?_run_eq_none_iff {writes : List Write} {key : String} :
    (run writes).get? key = none ↔ key ∉ keys writes := by
  rw [run_eq_ofList, SortedMap.get?_ofList_eq_none_iff, keys]

theorem size_run (writes : List Write) : (run writes).size = (keys writes).toFinset.card := by
  rw [run_eq_ofList, SortedMap.size_ofList, keys]

theorem isEmpty_run_iff {writes : List Write} : (run writes).isEmpty = true ↔ written writes = [] := by
  rw [run_eq_ofList, SortedMap.isEmpty_ofList_iff]

theorem last_iff_lookup {writes : List Write} {key : String} {value : Value} :
    Last writes key value ↔ SortedMap.lookup key (written writes).reverse = some value :=
  SortedMap.lookup_reverse_eq_some_iff.symm

theorem Last.mem_keys {writes : List Write} {key : String} {value : Value}
    (last : Last writes key value) : key ∈ keys writes := by
  obtain ⟨earlier, later, split, -⟩ := last
  simp [keys, split]

/-- Sequences with equal last values leave equal variables. -/
theorem run_eq_of_last {writes others : List Write}
    (same : ∀ key value, Last writes key value ↔ Last others key value) : run writes = run others := by
  refine SortedMap.ext_get? fun key => Option.ext fun value => ?_
  rw [get?_run_eq_some_iff, get?_run_eq_some_iff, same]

/-- **Sequences that end alike leave the same variables.** -/
theorem EndAlike.related {writes others : List Write} (alike : EndAlike writes others) :
    Related Value.Same (run writes) (run others) where
  keys key := by
    rw [run_eq_ofList, run_eq_ofList, SortedMap.mem_keys_ofList_iff, SortedMap.mem_keys_ofList_iff]
    exact alike.keys key
  values key value other here there :=
    alike.values key value other (get?_run_eq_some_iff.mp here) (get?_run_eq_some_iff.mp there)

end Write

/-! ## 3. The last write wins -/

/-- **Variables hold what was written last.**

* After any sequence of writes, what stands under a name is the last value written there, and nothing
  stands where nothing was written.  The entries are these values, each name once and in the order of its
  bytes; there are as many as different names, and none only if nothing was written.
* Merging is associative and right-biased, and merging with no variables, or with the same again, changes
  nothing.
* Sequences with equal last values leave equal variables.  If the last values are the same in different
  forms, the entries are so too, one by one, and the variables are written alike as a record and fill in
  every template alike. -/
theorem last_write_wins :
    (∀ writes : List Write,
      let vars := Write.run writes
      (∀ key value, vars.get? key = some value ↔ Write.Last writes key value) ∧
        (∀ key, vars.get? key = none ↔ key ∉ Write.keys writes) ∧
        (∀ key value, (key, value) ∈ vars.entries ↔ vars.get? key = some value) ∧
        (vars.keys.Pairwise fun a b => a.toUTF8.data.toList < b.toUTF8.data.toList) ∧
        vars.size = (Write.keys writes).toFinset.card ∧
        (vars.isEmpty = true ↔ Write.written writes = [])) ∧
    (∀ a b c : Variables,
      (a.extend b).extend c = a.extend (b.extend c) ∧
        SortedMap.empty.extend a = a ∧ a.extend .empty = a ∧
        (∀ key, (a.extend b).get? key = (b.get? key).or (a.get? key)) ∧
        a.extend a = a ∧ (a.extend b).extend b = a.extend b) ∧
    ∀ writes others : List Write,
      ((∀ key value, Write.Last writes key value ↔ Write.Last others key value) →
        Write.run writes = Write.run others) ∧
      (Write.EndAlike writes others →
        List.Forall₂ (fun e f => e.1 = f.1 ∧ e.2.Same f.2) (Write.run writes).entries
            (Write.run others).entries ∧
          (Value.ofVariables (Write.run writes)).display =
            (Value.ofVariables (Write.run others)).display ∧
          ∀ template : Template,
            template.apply (Write.run writes) = template.apply (Write.run others)) := by
  refine ⟨?_, ?_, ?_⟩
  · intro writes vars
    exact ⟨fun key value => Write.get?_run_eq_some_iff, fun key => Write.get?_run_eq_none_iff,
      fun key value => vars.get?_eq_some_iff.symm, vars.keys_utf8_sorted, Write.size_run writes,
      Write.isEmpty_run_iff⟩
  · intro a b c
    exact ⟨a.extend_assoc b c, a.empty_extend, a.extend_empty, a.get?_extend b, a.extend_self,
      a.extend_extend_self b⟩
  · intro writes others
    refine ⟨Write.run_eq_of_last, fun alike => ?_⟩
    have related := alike.related
    exact ⟨related.forall₂_entries, (Value.Same.ofVariables related).display,
      Template.apply_related related⟩

namespace Write

/-- A post, a greeting that is written twice, and the filters of a registry. -/
def drafted : List Write :=
  [.insert "post" (.record [("text", .text "hi"), ("datetime", .text "now")]),
    .insert "text" (.text "draft"), .insert "text" (.text "hello"),
    .withFilters (Registry.empty.register "shout" (.append "!"))]

/-- The same greeting and filter at once, and then the post with its entries in another order. -/
def copied : List Write :=
  [.insert "shout" (.text "none"),
    .extend (.ofList [("text", .text "hello"), ("shout", .filter "shout" (.append "!"))]),
    .insert "post" (.record [("datetime", .text "now"), ("text", .text "ho"), ("text", .text "hi")])]

theorem keys_drafted : keys drafted = ["post", "text", "text", "shout"] := rfl

theorem endAlike_copied : EndAlike drafted copied where
  keys key := by
    have there : keys copied = ["shout", "shout", "text", "post"] := rfl
    rw [keys_drafted, there]
    simp only [List.mem_cons, List.not_mem_nil]
    grind
  values key value other here there := by
    have post : (Value.record [("text", .text "hi"), ("datetime", .text "now")]).Same
        (.record [("datetime", .text "now"), ("text", .text "ho"), ("text", .text "hi")]) := by
      refine .record (fun key => Iff.rfl) fun key value other here there => ?_
      have inside := (SortedMap.mem_keys_iff _).mpr ⟨value, here⟩
      rw [SortedMap.mem_keys_ofList_iff] at inside
      have names : key = "text" ∨ key = "datetime" := by simpa using inside
      rcases names with rfl | rfl
      · exact Option.some.inj here ▸ Option.some.inj there ▸ .refl _
      · exact Option.some.inj here ▸ Option.some.inj there ▸ .refl _
    have names : key = "post" ∨ key = "text" ∨ key = "shout" := by
      simpa [keys_drafted] using here.mem_keys
    rw [last_iff_lookup] at here there
    rcases names with rfl | rfl | rfl
    · exact Option.some.inj here ▸ Option.some.inj there ▸ post
    · exact Option.some.inj here ▸ Option.some.inj there ▸ .refl _
    · exact Option.some.inj here ▸ Option.some.inj there ▸ .refl _

end Write

open Write (drafted copied) in
/-- The post is the same in another form, and so the variables are; they become equal when it is written
once more. -/
theorem last_write_wins_copied :
    let last : Write := .insert "post" (.text "gone")
    Write.EndAlike drafted copied ∧ (Write.run drafted).size = 3 ∧
      (Value.ofVariables (Write.run copied)).display =
        "\x7bpost: \x7bdatetime: now, text: hi\x7d, shout: <filter shout>, text: hello\x7d" ∧
      Registry.shouting.apply (Write.run copied) = .ok "hello!" ∧
      (∀ key value, Write.Last (drafted ++ [last]) key value ↔
        Write.Last (copied ++ [last]) key value) ∧
      Write.run (drafted ++ [last]) = Write.run (copied ++ [last]) := by
  intro last
  obtain ⟨writes, -, pairs⟩ := last_write_wins
  obtain ⟨found, -, -, -, size, -⟩ := writes drafted
  obtain ⟨-, display, filled⟩ := (pairs drafted copied).2 Write.endAlike_copied
  have ends : ∀ key value, Write.Last (drafted ++ [last]) key value ↔
      Write.Last (copied ++ [last]) key value := by
    intro key value
    rw [Write.last_iff_lookup, Write.last_iff_lookup]
    by_cases named : key = "post" ∨ key = "text" ∨ key = "shout"
    · rcases named with rfl | rfl | rfl <;> rfl
    · simp only [not_or] at named
      have here : key ∉ ["post", "text", "text", "shout", "post"] := by simp [named]
      have there : key ∉ ["shout", "shout", "text", "post", "post"] := by simp [named]
      rw [SortedMap.lookup_reverse_eq_none_iff.mpr here,
        SortedMap.lookup_reverse_eq_none_iff.mpr there]
  have shouted : Registry.shouting.apply (Write.run drafted) = .ok "hello!" := by
    have text : Variables.value (Write.run drafted) "text" = .ok (.text "hello") :=
      Variables.value_eq_ok_iff.mpr ((found _ _).mpr (Write.last_iff_lookup.mpr rfl))
    have sent : Variables.send Filter.call (Write.run drafted) (.text "hello") "shout" =
        .ok (.text "hello!") :=
      Variables.send_eq_ok_iff.mpr
        ⟨"shout", .append "!", (found _ _).mpr (Write.last_iff_lookup.mpr rfl), rfl⟩
    have evaluated : Reference.evaluateIn (Variables.scope Filter.call (Write.run drafted))
        ⟨"text", ["shout"], ⟨0, 18⟩⟩ = .ok (.text "hello!") :=
      bind_eq_ok_iff.mpr ⟨_, text, bind_eq_ok_iff.mpr ⟨_, sent, rfl⟩⟩
    refine Template.applyIn_eq_ok_iff.mpr ⟨["", "hello!", ""], ?_, rfl⟩
    simp only [Registry.shouting, List.map_cons, List.map_nil, Segment.renderIn, evaluated]
    rfl
  refine ⟨Write.endAlike_copied, ?_, ?_, ?_, ends, (pairs _ _).1 ends⟩
  · rw [size, Write.keys_drafted]
    rfl
  · rw [← display]
    rfl
  · rw [← filled, shouted]

end SinglePage
