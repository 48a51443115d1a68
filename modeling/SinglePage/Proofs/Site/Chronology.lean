/-
# Lists of posts are in the order of time

Posts are listed by the texts of their timestamps, and nothing looks at the time that a text tells.
Where all of these texts tell a time, this is as good as looking at it: the texts stand in the order
of the moments.  Two posts of one moment have the same timestamp, so that their paths decide.

* `Timestamp.momentOf?_of_accepted`: the texts that can be spoken are those that tell a moment;
* `Timestamp.order_of_moments`: these texts stand in the order of their moments;
* `PostEntry.notEarlier_of_precedes`: what the order of entries says about moments;
* `listing_chronological`: no post is listed before a later one.
-/
import SinglePage.Proofs.Filter.Stages
import SinglePage.Proofs.Site.Recursion
import SinglePage.Proofs.Timestamp.Moments

namespace SinglePage

/-! ## 1. Texts that tell a moment -/

namespace Timestamp

/-- The text can be spoken. -/
def Accepted (text : String) : Prop := ∃ spoken, friendlyDatetime (.text text) = .ok spoken

/-- The moment that a text tells, if it tells one. -/
def momentOf? (text : String) : Option Nat := (parse? text).map moment

/-- **What can be spoken is the text of a timestamp**, and tells its moment. -/
theorem momentOf?_of_accepted {text : String} (accepted : Accepted text) :
    ∃ t : Timestamp, text = t.text ∧ momentOf? text = some t.moment := by
  obtain ⟨_, spoken⟩ := accepted
  obtain ⟨t, same, -⟩ := friendlyDatetime_eq_ok_iff.mp spoken
  obtain rfl := Value.text.inj same
  exact ⟨t, rfl, by rw [momentOf?, parse?_text, Option.map_some]⟩

/-- **Texts stand in the order of their moments**, and only equal ones tell the same moment. -/
theorem order_of_moments {a b : String} (accepted : Accepted a) (accepted' : Accepted b) :
    ∃ m n, momentOf? a = some m ∧ momentOf? b = some n ∧
      (a.toUTF8.data.toList < b.toUTF8.data.toList ↔ m < n) ∧ (a = b ↔ m = n) ∧
      (b.toUTF8.data.toList < a.toUTF8.data.toList ↔ n < m) := by
  obtain ⟨t, rfl, tells⟩ := momentOf?_of_accepted accepted
  obtain ⟨u, rfl, tells'⟩ := momentOf?_of_accepted accepted'
  refine ⟨t.moment, u.moment, tells, tells', ?_, ?_, ?_⟩
  · rw [← Text.lt_iff_utf8_lt, text_lt_iff]
  · constructor
    · intro same
      exact Option.some.inj (tells.symm.trans (same ▸ tells'))
    · intro same
      rw [moment_injective same]
  · rw [← Text.lt_iff_utf8_lt, text_lt_iff]

end Timestamp

/-! ## 2. Lists of posts -/

namespace Site

open World Timestamp

/-- **The entry is not earlier than the other one.**  If it is of the same moment, the timestamps are
the same, and its path comes first. -/
def PostEntry.NotEarlier (a b : PostEntry) : Prop :=
  ∃ m n, momentOf? a.datetime = some m ∧ momentOf? b.datetime = some n ∧ n ≤ m ∧
    (m = n → a.datetime = b.datetime ∧ a.path.before b.path = true)

/-- **An entry that precedes another one is not earlier.** -/
theorem PostEntry.notEarlier_of_precedes {a b : PostEntry} (accepted : Accepted a.datetime)
    (accepted' : Accepted b.datetime) (precedes : a.Precedes b) : a.NotEarlier b := by
  obtain ⟨m, n, tells, tells', -, same, later⟩ := order_of_moments accepted accepted'
  refine ⟨m, n, tells, tells', ?_⟩
  rcases precedes with newer | ⟨one, first⟩
  · have later := later.mp newer
    exact ⟨Nat.le_of_lt later, fun eq => absurd eq (Nat.ne_of_gt later)⟩
  · exact ⟨Nat.le_of_eq (same.mp one).symm, fun _ => ⟨one, first⟩⟩

/-- **Posts are listed in the order of time.**  Texts that can be spoken tell moments, and stand in
the order of these.  So the list of a directory, with or without what is below it, begins with the
latest post and ends with the earliest one if all timestamps in it can be spoken.  Posts of one moment
have one timestamp and stand in the order of their paths. -/
theorem listing_chronological :
    (∀ a b, Accepted a → Accepted b → ∃ m n, momentOf? a = some m ∧ momentOf? b = some n ∧
      (a.toUTF8.data.toList < b.toUTF8.data.toList ↔ m < n) ∧ (a = b ↔ m = n) ∧
      (b.toUTF8.data.toList < a.toUTF8.data.toList ↔ n < m)) ∧
    ∀ {world : World} {directory : Path} {location : Location},
      world.tree.directoryAt directory = .ok location → ∀ recursive,
      ∃ entries, outcome (listPosts directory recursive) world = .ok entries ∧
        ((∀ entry ∈ entries, Accepted entry.datetime) →
          entries.Pairwise PostEntry.NotEarlier) := by
  refine ⟨fun _ _ => order_of_moments, fun {world directory location} there recursive => ?_⟩
  refine ⟨_, outcome_listPosts_listed there recursive, fun accepted => ?_⟩
  refine (pairwise_listed there recursive).imp_of_mem fun {a b} mem mem' precedes => ?_
  exact PostEntry.notEarlier_of_precedes (accepted a mem) (accepted b mem') precedes

/-- Three posts: two of one moment, one of them in a directory below, and the 29th of February of
a full century. -/
def diary : World :=
  ⟨((((FileTree.empty.put [⟨"diary", by decide⟩] .directory).put
    [⟨"diary", by decide⟩, ⟨"early", by decide⟩] .directory).put
    [⟨"diary", by decide⟩, ⟨"early", by decide⟩, ⟨"2021-03-01_00.00.00.txt", by decide⟩]
      (.file "a".toUTF8)).put
    [⟨"diary", by decide⟩, ⟨"2021-03-01_00.00.00.txt", by decide⟩] (.file "b".toUTF8)).put
    [⟨"diary", by decide⟩, ⟨"2000-02-29_23.59.59.txt", by decide⟩] (.file "c".toUTF8), []⟩

/-- The posts in this diary, as they are found. -/
def diaryPosts : List PostEntry :=
  [⟨⟨"diary/2000-02-29_23.59.59.txt"⟩, "2000-02-29 23:59:59"⟩,
    ⟨⟨"diary/2021-03-01_00.00.00.txt"⟩, "2021-03-01 00:00:00"⟩,
    ⟨⟨"diary/early/2021-03-01_00.00.00.txt"⟩, "2021-03-01 00:00:00"⟩]

/-- The post of the leap day is the earlier one, and all three are listed in the order of time. -/
theorem listing_chronological_leap :
    diary.tree.directoryAt ⟨"diary"⟩ = .ok [⟨"diary", by decide⟩] ∧
      (∀ post ∈ diaryPosts, Accepted post.datetime) ∧
      (∃ m n, momentOf? "2000-02-29 23:59:59" = some m ∧ momentOf? "2021-03-01 00:00:00" = some n ∧
        m < n) ∧
      ∃ entries, outcome (listPosts ⟨"diary"⟩ true) diary = .ok entries ∧
        entries.Perm diaryPosts ∧ entries.Pairwise PostEntry.NotEarlier := by
  have there : diary.tree.directoryAt ⟨"diary"⟩ = .ok [⟨"diary", by decide⟩] := by rfl
  have perm : (listed diary.tree ⟨"diary"⟩ [⟨"diary", by decide⟩] true).Perm diaryPosts := by
    have found : (postsOf (filesOf diary.tree ⟨"diary"⟩ [⟨"diary", by decide⟩] true)).map
        (entryOf ⟨"diary"⟩) = diaryPosts := by decide +kernel
    rw [listed, found]
    exact List.mergeSort_perm _ _
  have spoken : ∀ post ∈ diaryPosts, Accepted post.datetime := by
    have parsed : diaryPosts.all fun post => (Timestamp.parse? post.datetime).isSome := by
      decide +kernel
    intro post mem
    obtain ⟨t, same⟩ := Option.isSome_iff_exists.mp (List.all_eq_true.mp parsed post mem)
    exact ⟨_, friendlyDatetime_eq_ok_iff.mpr ⟨t, by rw [text_of_parse? same], rfl⟩⟩
  obtain ⟨order, lists⟩ := listing_chronological
  obtain ⟨m, n, tells, tells', earlier, -⟩ :=
    order _ _ (spoken _ (.head _)) (spoken _ (.tail _ (.head _)))
  obtain ⟨entries, done, sorted⟩ := lists there true
  obtain rfl := Except.ok.inj ((outcome_listPosts_listed there true).symm.trans done)
  exact ⟨there, spoken, ⟨m, n, tells, tells', earlier.mp (by decide +kernel)⟩, _, done, perm,
    sorted fun entry mem => spoken entry (perm.mem_iff.mp mem)⟩

end Site

end SinglePage
