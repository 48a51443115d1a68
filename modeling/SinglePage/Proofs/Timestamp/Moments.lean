/-
# Timestamps in the order of time

The moment of a timestamp is the number of seconds that have passed since the beginning of year 0,
in a calendar that has been the same ever since.  Timestamps are written from the largest unit to
the smallest one, each in as many digits as it has at most.  So of two timestamps, the one whose
text comes first is the earlier one, although months and years are not all of one length: no unit
ever counts up to more than one of the next larger unit.

Both orders are compared with a third one, in which the first field decides that differs (`Before`).

* `daysOfMonths_year`, `daysBeforeYear_eq`: how long years are, and how many days have gone by;
* `Fields.text_lt_of_before`: texts stand in the order of fields;
* `moment_lt_of_before`: and so do moments;
* `text_lt_iff`, `moment_injective`: so texts stand in the order of moments.
-/
import Mathlib.Data.List.Lex
import Mathlib.Data.String.Basic
import Mathlib.Order.Monotone.Basic
import SinglePage.Timestamp

namespace SinglePage

/-! ## 1. Days -/

/-- The number of days of the first months of a year. -/
def daysOfMonths (year : Nat) : Nat → Nat
  | 0 => 0
  | months + 1 => daysOfMonths year months + daysInMonth year (months + 1)

/-- The number of days before a year, from the beginning of year 0. -/
def daysBeforeYear : Nat → Nat
  | 0 => 0
  | year + 1 => daysBeforeYear year + daysOfMonths year 12

/-- **A year has 365 days, or 366** if it has a 29th of February. -/
theorem daysOfMonths_year (year : Nat) :
    daysOfMonths year 12 = if isLeapYear year then 366 else 365 := by
  cases leap : isLeapYear year <;> simp [daysOfMonths, daysInMonth, leap]

/-- **The days before a year**: 365 for each, and those of the leap years that have gone by. -/
theorem daysBeforeYear_eq (year : Nat) :
    daysBeforeYear year + (year + 99) / 100 =
      365 * year + (year + 3) / 4 + (year + 399) / 400 := by
  induction year with
  | zero => rfl
  | succ year ih =>
    rw [daysBeforeYear, daysOfMonths_year]
    cases leap : isLeapYear year <;> simp [isLeapYear] at leap ⊢ <;> omega

example : daysBeforeYear 400 = 146097 := by decide +kernel

theorem daysOfMonths_mono (year : Nat) : Monotone (daysOfMonths year) :=
  monotone_nat_of_le_succ fun _ => Nat.le_add_right _ _

theorem daysBeforeYear_mono : Monotone daysBeforeYear :=
  monotone_nat_of_le_succ fun _ => Nat.le_add_right _ _

namespace Timestamp

namespace Fields

/-- The number of days before a day. -/
def dayNumber (f : Fields) : Nat :=
  daysBeforeYear f.year + daysOfMonths f.year (f.month - 1) + (f.day - 1)

/-- The number of seconds of the day that have passed. -/
def secondOfDay (f : Fields) : Nat := (f.hour * 60 + f.minute) * 60 + f.second

end Fields

/-- **The moment of a timestamp**: the seconds since the beginning of year 0. -/
def moment (t : Timestamp) : Nat := t.dayNumber * 86400 + t.secondOfDay

/-! ## 2. The order of fields -/

/-- **Fields come before others**: the first field decides that differs. -/
def Fields.Before (f g : Fields) : Prop :=
  f.year < g.year ∨ f.year = g.year ∧ (f.month < g.month ∨ f.month = g.month ∧
    (f.day < g.day ∨ f.day = g.day ∧ (f.hour < g.hour ∨ f.hour = g.hour ∧
      (f.minute < g.minute ∨ f.minute = g.minute ∧ f.second < g.second))))

/-- Of different fields, one comes before the others. -/
theorem Fields.before_connected (f g : Fields) : f.Before g ∨ f = g ∨ g.Before f := by
  unfold Before
  cases f
  cases g
  simp only [mk.injEq]
  omega

/-! ## 3. The order of texts -/

theorem lex_digit {n m : Nat} (lt : n < m) (small : m < 10) (l r : List Char) :
    List.Lex (· < ·) (Nat.digitChar n :: l) (Nat.digitChar m :: r) := by
  have all : ∀ m ∈ List.range 10, ∀ n ∈ List.range m, Nat.digitChar n < Nat.digitChar m := by
    decide
  exact .rel (all m (List.mem_range.mpr small) n (List.mem_range.mpr lt))

/-- **Of numbers written in equally many digits, the smaller one comes first**, whatever stands
behind them. -/
theorem lex_digits {width n m : Nat} (lt : n < m) (small : m < Text.tenTo width) (l r : List Char) :
    List.Lex (· < ·) (Text.digits width n ++ l) (Text.digits width m ++ r) := by
  induction width generalizing n m l r with
  | zero =>
    rw [Text.tenTo] at small
    omega
  | succ width ih =>
    simp only [Text.digits, List.append_assoc, List.singleton_append]
    rw [Text.tenTo] at small
    by_cases tens : n / 10 = m / 10
    · rw [tens]
      exact (lex_digit (by omega) (by omega) l r).append_left _ _
    · exact ih (by omega) (by omega) _ _

/-- A number decides, or is the same and leaves it to what stands behind it and a sign. -/
theorem lex_field {width n m : Nat} {sign : Char} {l r : List Char} (small : m < Text.tenTo width)
    (order : n < m ∨ n = m ∧ List.Lex (· < ·) l r) :
    List.Lex (· < ·) (Text.digits width n ++ sign :: l) (Text.digits width m ++ sign :: r) := by
  rcases order with lt | ⟨rfl, behind⟩
  · exact lex_digits lt small _ _
  · exact (List.Lex.cons behind).append_left _ _

/-- **Texts stand in the order of their fields.** -/
theorem Fields.text_lt_of_before {f g : Fields} (valid : g.isValid = true) (before : f.Before g) :
    List.Lex (· < ·) f.text g.text := by
  obtain ⟨year, month, day, hour, minute, second⟩ := bounds_of_isValid valid
  refine lex_field year (before.imp_right fun ⟨same, before⟩ => ⟨same, ?_⟩)
  refine lex_field month (before.imp_right fun ⟨same, before⟩ => ⟨same, ?_⟩)
  refine lex_field day (before.imp_right fun ⟨same, before⟩ => ⟨same, ?_⟩)
  refine lex_field hour (before.imp_right fun ⟨same, before⟩ => ⟨same, ?_⟩)
  refine lex_field minute (before.imp_right fun ⟨same, before⟩ => ⟨same, ?_⟩)
  have last := lex_digits before second [] []
  rwa [List.append_nil, List.append_nil] at last

/-! ## 4. The order of moments -/

namespace Fields

variable {f g : Fields}

/-- The days of a month up to a day lie within the month. -/
theorem dayNumber_lt_month (valid : f.isValid = true) :
    f.dayNumber < daysBeforeYear f.year + daysOfMonths f.year f.month := by
  obtain ⟨-, first, -, day, last, -⟩ := isValid_iff.mp valid
  have month : daysOfMonths f.year f.month =
      daysOfMonths f.year (f.month - 1) + daysInMonth f.year f.month := by
    obtain ⟨months, same⟩ : ∃ months, f.month = months + 1 := ⟨f.month - 1, by omega⟩
    rw [same]
    rfl
  rw [dayNumber, month]
  omega

/-- **An earlier day has a smaller number.** -/
theorem dayNumber_lt (valid : f.isValid = true)
    (earlier : f.year < g.year ∨ f.year = g.year ∧ (f.month < g.month ∨
      f.month = g.month ∧ f.day < g.day)) : f.dayNumber < g.dayNumber := by
  have inMonth := dayNumber_lt_month valid
  obtain ⟨-, -, twelve, first, -⟩ := isValid_iff.mp valid
  have start : daysBeforeYear g.year + daysOfMonths g.year (g.month - 1) ≤ g.dayNumber :=
    Nat.le_add_right _ _
  rcases earlier with year | ⟨year, month | ⟨month, day⟩⟩
  · have inYear : daysOfMonths f.year f.month ≤ daysOfMonths f.year 12 :=
      daysOfMonths_mono f.year twelve
    have whole : daysBeforeYear (f.year + 1) ≤ daysBeforeYear g.year := daysBeforeYear_mono year
    rw [daysBeforeYear] at whole
    omega
  · have months : daysOfMonths f.year f.month ≤ daysOfMonths f.year (g.month - 1) :=
      daysOfMonths_mono f.year (by omega)
    rw [← year] at start
    omega
  · rw [dayNumber, dayNumber, year, month]
    omega

theorem secondOfDay_lt_day (valid : f.isValid = true) : f.secondOfDay < 86400 := by
  obtain ⟨-, -, -, -, -, hour, minute, second⟩ := isValid_iff.mp valid
  rw [secondOfDay]
  omega

end Fields

/-- **Moments stand in the order of their fields.** -/
theorem moment_lt_of_before {t u : Timestamp} (before : t.toFields.Before u.toFields) :
    t.moment < u.moment := by
  have inDay := Fields.secondOfDay_lt_day t.valid
  obtain ⟨-, -, -, -, -, -, minute, second⟩ := Fields.isValid_iff.mp t.valid
  obtain ⟨-, -, -, -, -, -, minute', second'⟩ := Fields.isValid_iff.mp u.valid
  unfold moment
  rcases before with year | ⟨year, month | ⟨month, day | ⟨day, time⟩⟩⟩
  · have days := Fields.dayNumber_lt t.valid (.inl year)
    omega
  · have days := Fields.dayNumber_lt t.valid (.inr ⟨year, .inl month⟩)
    omega
  · have days := Fields.dayNumber_lt t.valid (.inr ⟨year, .inr ⟨month, day⟩⟩)
    omega
  · have days : t.dayNumber = u.dayNumber := by
      rw [Fields.dayNumber, Fields.dayNumber, year, month, day]
    have seconds : t.secondOfDay < u.secondOfDay := by
      rw [Fields.secondOfDay, Fields.secondOfDay]
      omega
    omega

/-- Timestamps are the same when their fields are. -/
theorem eq_of_fields {t u : Timestamp} (same : t.toFields = u.toFields) : t = u := by
  cases t
  cases u
  exact (Timestamp.mk.injEq ..).mpr same

/-! ## 5. Texts and moments -/

/-- **Of two timestamps, the one whose text comes first is the earlier one.** -/
theorem text_lt_iff {t u : Timestamp} : t.text < u.text ↔ t.moment < u.moment := by
  have texts : ∀ {t u : Timestamp}, t.toFields.Before u.toFields → t.text < u.text := by
    intro t u before
    have lex : t.toFields.text < u.toFields.text := Fields.text_lt_of_before u.valid before
    rwa [String.lt_iff_toList_lt, text, text, String.toList_ofList, String.toList_ofList]
  rcases Fields.before_connected t.toFields u.toFields with before | same | after
  · exact iff_of_true (texts before) (moment_lt_of_before before)
  · rw [eq_of_fields same]
    exact iff_of_false (String.lt_irrefl _) (Nat.lt_irrefl _)
  · exact iff_of_false (String.lt_asymm (texts after)) (Nat.lt_asymm (moment_lt_of_before after))

/-- Different timestamps have different moments. -/
theorem moment_injective {t u : Timestamp} (same : t.moment = u.moment) : t = u := by
  rcases Fields.before_connected t.toFields u.toFields with before | fields | after
  · exact absurd same (Nat.ne_of_lt (moment_lt_of_before before))
  · exact eq_of_fields fields
  · exact absurd same (Nat.ne_of_gt (moment_lt_of_before after))

end Timestamp

end SinglePage
