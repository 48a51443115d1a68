/-
# Timestamps

A post is dated by a timestamp such as `2021-03-05 09:07:00`: nineteen characters, a date of the
Gregorian calendar, which is taken to hold for every year from 0000 to 9999, and a time of day.

* `Timestamp.parse?_text`: every timestamp is read back from its text;
* `Timestamp.text_of_parse?`: nothing else is read;
* `Timestamp.spoken` writes the same moment as `Mar 05, 2021 09:07AM`, without the seconds.
-/
import SinglePage.Text.Digits

namespace SinglePage

/-! ## 1. The calendar -/

/-- Whether a year has a 29th of February: every fourth one, but of the full centuries only
every fourth. -/
def isLeapYear (year : Nat) : Bool := year % 4 = 0 && (year % 100 ≠ 0 || year % 400 = 0)

/-- The number of days of a month. -/
def daysInMonth (year month : Nat) : Nat :=
  if month = 2 then (if isLeapYear year then 29 else 28)
  else if month = 4 || month = 6 || month = 9 || month = 11 then 30
  else 31

/-- The English abbreviation of a month. -/
def monthName (month : Nat) : String :=
  ["Jan", "Feb", "Mar", "Apr", "May", "Jun", "Jul", "Aug", "Sep", "Oct", "Nov",
    "Dec"].getD (month - 1) ""

/-! ## 2. Timestamps -/

/-- The fields of a timestamp, which may name no moment at all. -/
structure Timestamp.Fields where
  year : Nat
  month : Nat
  day : Nat
  hour : Nat
  minute : Nat
  second : Nat
  deriving DecidableEq

/-- Whether the fields name a day and a time of day.  There is no second 60. -/
def Timestamp.Fields.isValid (f : Timestamp.Fields) : Bool :=
  f.year < 10000 && 1 ≤ f.month && f.month ≤ 12 && 1 ≤ f.day &&
    f.day ≤ daysInMonth f.year f.month && f.hour < 24 && f.minute < 60 && f.second < 60

/-- **A timestamp**: a day of the calendar and a time of day. -/
structure Timestamp extends Timestamp.Fields where
  valid : toFields.isValid = true
  deriving DecidableEq

namespace Timestamp

namespace Fields

/-- The fields written with their separators. -/
def text (f : Fields) : List Char :=
  Text.digits 4 f.year ++ '-' :: (Text.digits 2 f.month ++ '-' :: (Text.digits 2 f.day ++
    ' ' :: (Text.digits 2 f.hour ++ ':' :: (Text.digits 2 f.minute ++
      ':' :: Text.digits 2 f.second))))

/-- Reads fields with their separators; nothing may follow. -/
def parse? (text : List Char) : Option Fields := do
  let (year, rest) ← Text.number? 4 text
  let rest ← Text.expect? '-' rest
  let (month, rest) ← Text.number? 2 rest
  let rest ← Text.expect? '-' rest
  let (day, rest) ← Text.number? 2 rest
  let rest ← Text.expect? ' ' rest
  let (hour, rest) ← Text.number? 2 rest
  let rest ← Text.expect? ':' rest
  let (minute, rest) ← Text.number? 2 rest
  let rest ← Text.expect? ':' rest
  let (second, rest) ← Text.number? 2 rest
  if rest = [] then some ⟨year, month, day, hour, minute, second⟩ else none

end Fields

/-- The text of a timestamp, as posts are dated with it. -/
def text (t : Timestamp) : String := String.ofList t.toFields.text

/-- **The timestamp that a text stands for**, if it stands for one. -/
def parse? (text : String) : Option Timestamp :=
  match Fields.parse? text.toList with
  | some fields => if valid : fields.isValid = true then some ⟨fields, valid⟩ else none
  | none => none

/-- The hour on a clock of twelve hours, which has no hour 0. -/
def clockHour (t : Timestamp) : Nat := if t.hour % 12 = 0 then 12 else t.hour % 12

/-- **The timestamp spelled out**, to the minute. -/
def spoken (t : Timestamp) : String :=
  String.ofList ((monthName t.month).toList ++ ' ' :: (Text.digits 2 t.day ++
    ',' :: ' ' :: (Text.digits 4 t.year ++ ' ' :: (Text.digits 2 t.clockHour ++
      ':' :: (Text.digits 2 t.minute ++ if t.hour < 12 then ['A', 'M'] else ['P', 'M'])))))

/-! ## 3. Reading what is written -/

theorem Fields.isValid_iff {f : Fields} :
    f.isValid = true ↔ f.year < 10000 ∧ 1 ≤ f.month ∧ f.month ≤ 12 ∧ 1 ≤ f.day ∧
      f.day ≤ daysInMonth f.year f.month ∧ f.hour < 24 ∧ f.minute < 60 ∧ f.second < 60 := by
  simp only [isValid, Bool.and_eq_true, decide_eq_true_eq, and_assoc]

theorem Fields.bounds_of_isValid {f : Fields} (h : f.isValid = true) :
    f.year < Text.tenTo 4 ∧ f.month < Text.tenTo 2 ∧ f.day < Text.tenTo 2 ∧ f.hour < Text.tenTo 2 ∧
      f.minute < Text.tenTo 2 ∧ f.second < Text.tenTo 2 := by
  have days : daysInMonth f.year f.month ≤ 31 := by
    unfold daysInMonth
    repeat' split
    all_goals omega
  rw [isValid_iff] at h
  simp only [Text.tenTo]
  omega

theorem Fields.parse?_text {f : Fields} (h : f.isValid = true) :
    Fields.parse? f.text = some f := by
  obtain ⟨year, month, day, hour, minute, second⟩ := bounds_of_isValid h
  have last := Text.number?_digits second []
  rw [List.append_nil] at last
  unfold Fields.parse? Fields.text
  rw [Text.number?_digits year]
  simp only [Option.bind_eq_bind, Option.bind_some, Text.expect?_self]
  rw [Text.number?_digits month]
  simp only [Option.bind_some, Text.expect?_self]
  rw [Text.number?_digits day]
  simp only [Option.bind_some, Text.expect?_self]
  rw [Text.number?_digits hour]
  simp only [Option.bind_some, Text.expect?_self]
  rw [Text.number?_digits minute]
  simp only [Option.bind_some, Text.expect?_self]
  rw [last]
  rfl

theorem Fields.text_of_parse? {text : List Char} {f : Fields}
    (h : Fields.parse? text = some f) : text = f.text := by
  simp only [Fields.parse?, Option.bind_eq_bind, Option.bind_eq_some_iff] at h
  obtain ⟨⟨year, r1⟩, hy, s1, h1, ⟨month, r2⟩, hm, s2, h2, ⟨day, r3⟩, hd, s3, h3, ⟨hour, r4⟩,
    hh, s4, h4, ⟨minute, r5⟩, hn, s5, h5, ⟨second, r6⟩, hs, h⟩ := h
  dsimp only at h1 h2 h3 h4 h5 h
  split at h
  · rename_i done
    obtain rfl := Option.some.inj h
    have e1 := (Text.eq_digits_of_number? hy).2
    have e2 := (Text.eq_digits_of_number? hm).2
    have e3 := (Text.eq_digits_of_number? hd).2
    have e4 := (Text.eq_digits_of_number? hh).2
    have e5 := (Text.eq_digits_of_number? hn).2
    have e6 := (Text.eq_digits_of_number? hs).2
    rw [e1, Text.expect?_eq_some h1, e2, Text.expect?_eq_some h2, e3, Text.expect?_eq_some h3, e4,
      Text.expect?_eq_some h4, e5, Text.expect?_eq_some h5, e6, done, List.append_nil]
    rfl
  · exact absurd h (by simp)

/-- **Every timestamp is read back from its text.** -/
theorem parse?_text (t : Timestamp) : parse? t.text = some t := by
  have fields := Fields.parse?_text t.valid
  unfold parse? text
  rw [String.toList_ofList, fields]
  simp [t.valid]

/-- **Nothing but the text of a timestamp is read.** -/
theorem text_of_parse? {s : String} {t : Timestamp} (h : parse? s = some t) : s = t.text := by
  unfold parse? at h
  split at h
  · rename_i fields hfields
    split at h
    · obtain rfl := Option.some.inj h
      exact String.toList_injective (by
        rw [Fields.text_of_parse? hfields, text, String.toList_ofList])
    · exact absurd h (by simp)
  · exact absurd h (by simp)

end Timestamp

end SinglePage
