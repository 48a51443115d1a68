/-
# Timestamps, piece by piece

A timestamp is written as six numbers with signs between them, `DDDD-DD-DD DD:DD:DD`, and spoken as
`Mon DD, YYYY hh:mmXM`.  Here its text is taken apart into the digits of its numbers, and what is read
and what is spoken are described by these pieces.

* `Text.digits_decimal`, `Text.decimal_digits`: digits and the numbers that they stand for;
* `Timestamp.monthLength_iff`: the lengths of the months, by the rule of 4, 100 and 400 years;
* `Timestamp.parse?_eq_some_iff`: what is read are the texts whose pieces name a moment;
* `Timestamp.speaks_iff`: how a moment is spoken, from its pieces;
* `Timestamp.spoken_eq_iff`: two moments are spoken alike when they differ in their seconds only.
-/
import SinglePage.Proofs.Filter.Stages

namespace SinglePage

/-! ## 1. Digits -/

namespace Text

/-- The number that some digits stand for. -/
def decimal (piece : List Char) : Nat :=
  piece.foldl (fun read c => read * 10 + (c.toNat - '0'.toNat)) 0

/-- **A run of characters**: so many of them, and all of one class. -/
def IsRun (digit : Char → Bool) (width : Nat) (piece : List Char) : Prop :=
  piece.length = width ∧ ∀ c ∈ piece, digit c = true

theorem numberFrom?_piece {piece : List Char} (all : ∀ c ∈ piece, c.isDigit = true) (read : Nat)
    (rest : List Char) : numberFrom? piece.length read (piece ++ rest) =
      some (piece.foldl (fun read c => read * 10 + (c.toNat - '0'.toNat)) read, rest) := by
  induction piece generalizing read with
  | nil => rfl
  | cons c piece ih =>
    obtain ⟨first, all⟩ := List.forall_mem_cons.mp all
    have value : digit? c = some (c.toNat - '0'.toNat) := by rw [digit?, if_pos first]
    rw [List.length_cons, List.cons_append, numberFrom?, value]
    exact ih all _

/-- Digits are read as the number that they stand for. -/
theorem number?_piece {width : Nat} {piece : List Char} (run : IsRun Char.isDigit width piece)
    (rest : List Char) : number? width (piece ++ rest) = some (decimal piece, rest) := by
  obtain ⟨rfl, all⟩ := run
  exact numberFrom?_piece all 0 rest

/-- **Digits are what their number is written with.** -/
theorem digits_decimal {width : Nat} {piece : List Char} (run : IsRun Char.isDigit width piece) :
    decimal piece < tenTo width ∧ digits width (decimal piece) = piece := by
  have read := number?_piece run []
  obtain ⟨small, whole⟩ := eq_digits_of_number? read
  rw [List.append_nil, List.append_nil] at whole
  exact ⟨small, whole.symm⟩

/-- Digits for the same number, as many as the others, are the same digits. -/
theorem decimal_inj {width : Nat} {piece other : List Char} (run : IsRun Char.isDigit width piece)
    (run' : IsRun Char.isDigit width other) : decimal piece = decimal other ↔ piece = other := by
  constructor
  · intro same
    rw [← (digits_decimal run).2, same, (digits_decimal run').2]
  · intro same
    rw [same]

theorem isRun_digits (width n : Nat) : IsRun Char.isDigit width (digits width n) := by
  refine ⟨length_digits width n, ?_⟩
  induction width generalizing n with
  | zero => simp [digits]
  | succ width ih =>
    intro c mem
    rcases List.mem_append.mp mem with mem | mem
    · exact ih (n / 10) c mem
    · have all : ∀ d ∈ List.range 10, (Nat.digitChar d).isDigit = true := by decide
      rw [List.mem_singleton.mp mem]
      exact all _ (List.mem_range.mpr (Nat.mod_lt n (by decide)))

theorem decimal_digits {width n : Nat} (small : n < tenTo width) :
    decimal (digits width n) = n := by
  have read := number?_piece (isRun_digits width n) []
  rw [number?_digits small] at read
  exact (Prod.mk.inj (Option.some.inj read)).1.symm

end Text

namespace Timestamp

/-! ## 2. The calendar -/

/-- **Leap years**: every fourth year, but of the full centuries only every fourth; so year 0 is
one. -/
def IsLeap (year : Nat) : Prop := 4 ∣ year ∧ (100 ∣ year → 400 ∣ year)

/-- **How many days a month has**, in the Gregorian calendar. -/
inductive MonthLength (year : Nat) : Nat → Nat → Prop
  | long {month : Nat} (named : month ∈ [1, 3, 5, 7, 8, 10, 12]) : MonthLength year month 31
  | short {month : Nat} (named : month ∈ [4, 6, 9, 11]) : MonthLength year month 30
  | february (common : ¬ IsLeap year) : MonthLength year 2 28
  | leapFebruary (leap : IsLeap year) : MonthLength year 2 29

theorem isLeapYear_iff {year : Nat} : isLeapYear year = true ↔ IsLeap year := by
  simp only [isLeapYear, IsLeap, Bool.and_eq_true, Bool.or_eq_true, decide_eq_true_eq]
  omega

/-- Each of the twelve months has its length. -/
theorem monthLength_iff {year month length : Nat} :
    MonthLength year month length ↔
      1 ≤ month ∧ month ≤ 12 ∧ length = daysInMonth year month := by
  constructor
  · intro has
    cases has with
    | long named =>
      have all : ∀ m ∈ [1, 3, 5, 7, 8, 10, 12], 1 ≤ m ∧ m ≤ 12 ∧ ∀ y, 31 = daysInMonth y m := by
        simp [daysInMonth]
      obtain ⟨first, last, days⟩ := all month named
      exact ⟨first, last, days year⟩
    | short named =>
      have all : ∀ m ∈ [4, 6, 9, 11], 1 ≤ m ∧ m ≤ 12 ∧ ∀ y, 30 = daysInMonth y m := by
        simp [daysInMonth]
      obtain ⟨first, last, days⟩ := all month named
      exact ⟨first, last, days year⟩
    | february common =>
      rw [← isLeapYear_iff] at common
      simp [daysInMonth, common]
    | leapFebruary leap =>
      rw [← isLeapYear_iff] at leap
      simp [daysInMonth, leap]
  · rintro ⟨first, last, rfl⟩
    unfold daysInMonth
    split
    · rename_i february
      subst february
      split
      · rename_i leap
        exact .leapFebruary (isLeapYear_iff.mp leap)
      · rename_i common
        exact .february (isLeapYear_iff.not.mp common)
    · rename_i notFebruary
      split
      · rename_i named
        refine .short ?_
        simpa [or_assoc] using named
      · rename_i notShort
        refine .long ?_
        simp only [Bool.or_eq_true, decide_eq_true_eq] at notShort
        simp only [List.mem_cons, List.not_mem_nil, or_false]
        omega

/-! ## 3. Pieces -/

/-- **The pieces of the text of a timestamp**, without the signs between them. -/
structure Parts where
  year : List Char
  month : List Char
  day : List Char
  hour : List Char
  minute : List Char
  second : List Char

namespace Parts

/-- The pieces with their signs: `DDDD-DD-DD DD:DD:DD`. -/
def text (p : Parts) : List Char :=
  p.year ++ '-' :: (p.month ++ '-' :: (p.day ++ ' ' :: (p.hour ++ ':' :: (p.minute ++
    ':' :: p.second))))

/-- Each piece has its width, and all characters are of one class. -/
structure Shaped (digit : Char → Bool) (p : Parts) : Prop where
  year : Text.IsRun digit 4 p.year
  month : Text.IsRun digit 2 p.month
  day : Text.IsRun digit 2 p.day
  hour : Text.IsRun digit 2 p.hour
  minute : Text.IsRun digit 2 p.minute
  second : Text.IsRun digit 2 p.second

/-- **The pieces name a moment**: a day of the calendar, and a time of this day. -/
structure IsMoment (p : Parts) : Prop where
  shaped : p.Shaped Char.isDigit
  day : ∃ length, MonthLength (Text.decimal p.year) (Text.decimal p.month) length ∧
    1 ≤ Text.decimal p.day ∧ Text.decimal p.day ≤ length
  hour : Text.decimal p.hour ≤ 23
  minute : Text.decimal p.minute ≤ 59
  second : Text.decimal p.second ≤ 59

/-- **How the moment is spoken**: its month by name, its day and its year as they are written, and
its time on a clock of twelve hours, without the seconds. -/
def Speaks (p : Parts) (spoken : List Char) : Prop :=
  ∃ clock, 1 ≤ clock ∧ clock ≤ 12 ∧ clock % 12 = Text.decimal p.hour % 12 ∧
    spoken = (monthName (Text.decimal p.month)).toList ++ ' ' :: (p.day ++ ',' :: ' ' :: (p.year ++
      ' ' :: (Text.digits 2 clock ++ ':' :: (p.minute ++
        if Text.decimal p.hour < 12 then ['A', 'M'] else ['P', 'M']))))

/-- The numbers of the pieces. -/
def fields (p : Parts) : Fields :=
  ⟨Text.decimal p.year, Text.decimal p.month, Text.decimal p.day, Text.decimal p.hour,
    Text.decimal p.minute, Text.decimal p.second⟩

/-- The pieces that some fields are written with. -/
def ofFields (f : Fields) : Parts :=
  ⟨Text.digits 4 f.year, Text.digits 2 f.month, Text.digits 2 f.day, Text.digits 2 f.hour,
    Text.digits 2 f.minute, Text.digits 2 f.second⟩

theorem text_ofFields (f : Fields) : (ofFields f).text = f.text := rfl

theorem shaped_ofFields (f : Fields) : (ofFields f).Shaped Char.isDigit where
  year := Text.isRun_digits 4 f.year
  month := Text.isRun_digits 2 f.month
  day := Text.isRun_digits 2 f.day
  hour := Text.isRun_digits 2 f.hour
  minute := Text.isRun_digits 2 f.minute
  second := Text.isRun_digits 2 f.second

theorem fields_ofFields {f : Fields} (valid : f.isValid = true) : (ofFields f).fields = f := by
  obtain ⟨year, month, day, hour, minute, second⟩ := Fields.bounds_of_isValid valid
  simp only [fields, ofFields, Text.decimal_digits year, Text.decimal_digits month,
    Text.decimal_digits day, Text.decimal_digits hour, Text.decimal_digits minute,
    Text.decimal_digits second]

/-- **Pieces of digits are those that their numbers are written with.** -/
theorem ofFields_fields {p : Parts} (shaped : p.Shaped Char.isDigit) : ofFields p.fields = p := by
  simp only [fields, ofFields, (Text.digits_decimal shaped.year).2,
    (Text.digits_decimal shaped.month).2, (Text.digits_decimal shaped.day).2,
    (Text.digits_decimal shaped.hour).2, (Text.digits_decimal shaped.minute).2,
    (Text.digits_decimal shaped.second).2]

/-- The pieces name a moment when their numbers do. -/
theorem isMoment_iff {p : Parts} :
    p.IsMoment ↔ p.Shaped Char.isDigit ∧ p.fields.isValid = true := by
  rw [Fields.isValid_iff]
  constructor
  · intro moment
    have hour := moment.hour
    have minute := moment.minute
    have second := moment.second
    obtain ⟨length, has, firstDay, lastDay⟩ := moment.day
    obtain ⟨first, last, rfl⟩ := monthLength_iff.mp has
    exact ⟨moment.shaped, (Text.digits_decimal moment.shaped.year).1, first, last, firstDay, lastDay,
      Nat.lt_succ_of_le hour, Nat.lt_succ_of_le minute, Nat.lt_succ_of_le second⟩
  · rintro ⟨shaped, -, first, last, firstDay, lastDay, hour, minute, second⟩
    have has : MonthLength p.fields.year p.fields.month (daysInMonth p.fields.year p.fields.month) :=
      monthLength_iff.mpr ⟨first, last, rfl⟩
    exact ⟨shaped, ⟨_, has, firstDay, lastDay⟩, Nat.le_of_lt_succ hour, Nat.le_of_lt_succ minute,
      Nat.le_of_lt_succ second⟩

end Parts

/-! ## 4. Reading -/

/-- **What is read are the texts whose pieces name a moment.** -/
theorem parse?_eq_some_iff {s : String} {t : Timestamp} :
    parse? s = some t ↔ ∃ p : Parts, p.IsMoment ∧ s.toList = p.text ∧ p.fields = t.toFields := by
  constructor
  · intro read
    refine ⟨Parts.ofFields t.toFields, ?_, ?_, Parts.fields_ofFields t.valid⟩
    · refine Parts.isMoment_iff.mpr ⟨Parts.shaped_ofFields _, ?_⟩
      rw [Parts.fields_ofFields t.valid]
      exact t.valid
    · rw [text_of_parse? read, text, String.toList_ofList, Parts.text_ofFields]
  · rintro ⟨p, moment, written, same⟩
    have whole : s = t.text := String.toList_injective (by
      rw [written, text, String.toList_ofList, ← same, ← Parts.text_ofFields,
        Parts.ofFields_fields moment.shaped])
    rw [whole, parse?_text]

/-! ## 5. Speaking -/

theorem clockHour_bounds (t : Timestamp) :
    1 ≤ t.clockHour ∧ t.clockHour ≤ 12 ∧ t.clockHour % 12 = t.hour % 12 := by
  unfold clockHour
  split <;> omega

/-- **How a moment is spoken**, from the pieces that it is written with. -/
theorem speaks_iff {p : Parts} {t : Timestamp} (shaped : p.Shaped Char.isDigit)
    (same : p.fields = t.toFields) {spoken : List Char} :
    p.Speaks spoken ↔ spoken = t.spoken.toList := by
  have pieces : p = Parts.ofFields t.toFields := by rw [← same, Parts.ofFields_fields shaped]
  have month : Text.decimal p.month = t.month := congrArg Fields.month same
  have hour : Text.decimal p.hour = t.hour := congrArg Fields.hour same
  have day : p.day = Text.digits 2 t.day := congrArg Parts.day pieces
  have year : p.year = Text.digits 4 t.year := congrArg Parts.year pieces
  have minute : p.minute = Text.digits 2 t.minute := congrArg Parts.minute pieces
  obtain ⟨first, last, clock⟩ := t.clockHour_bounds
  simp only [Parts.Speaks, Timestamp.spoken, String.toList_ofList, month, hour, day, year, minute]
  constructor
  · rintro ⟨other, first', last', clock', rfl⟩
    -- of the hours from 1 to 12 no two are the same on a clock of twelve hours
    obtain rfl : other = t.clockHour := by omega
    rfl
  · intro eq
    exact ⟨t.clockHour, first, last, clock, eq⟩

theorem monthName_injective {month other : Nat} (first : 1 ≤ month) (last : month ≤ 12)
    (first' : 1 ≤ other) (last' : other ≤ 12) (same : monthName month = monthName other) :
    month = other := by
  have all : ∀ m ∈ List.range 13, ∀ n ∈ List.range 13, 1 ≤ m → 1 ≤ n →
      monthName m = monthName n → m = n := by decide
  exact all month (List.mem_range.mpr (by omega)) other (List.mem_range.mpr (by omega)) first first'
    same

theorem digits_injective (width : Nat) {n m : Nat} (small : n < Text.tenTo width)
    (small' : m < Text.tenTo width) (same : Text.digits width n = Text.digits width m) : n = m := by
  rw [← Text.decimal_digits small, same, Text.decimal_digits small']

/-- **Two moments are spoken alike when they differ in their seconds only.** -/
theorem spoken_eq_iff {t u : Timestamp} :
    t.spoken = u.spoken ↔ t.year = u.year ∧ t.month = u.month ∧ t.day = u.day ∧ t.hour = u.hour ∧
      t.minute = u.minute := by
  constructor
  · intro same
    obtain ⟨year, -, day, -, minute, -⟩ := Fields.bounds_of_isValid t.valid
    obtain ⟨year', -, day', -, minute', -⟩ := Fields.bounds_of_isValid u.valid
    have valid := Fields.isValid_iff.mp t.valid
    have valid' := Fields.isValid_iff.mp u.valid
    have names : (monthName t.month).toList.length = (monthName u.month).toList.length := by
      rw [length_monthName (by omega) (by omega), length_monthName (by omega) (by omega)]
    have clocks := t.clockHour_bounds
    have clocks' := u.clockHour_bounds
    have chars := congrArg String.toList same
    simp only [Timestamp.spoken, String.toList_ofList] at chars
    -- piece by piece: each has the same length on both sides
    obtain ⟨month, chars⟩ := List.append_inj chars names
    obtain ⟨-, chars⟩ := List.cons.inj chars
    obtain ⟨dayDigits, chars⟩ := List.append_inj chars (by simp)
    obtain ⟨-, chars⟩ := List.cons.inj chars
    obtain ⟨-, chars⟩ := List.cons.inj chars
    obtain ⟨yearDigits, chars⟩ := List.append_inj chars (by simp)
    obtain ⟨-, chars⟩ := List.cons.inj chars
    obtain ⟨clockDigits, chars⟩ := List.append_inj chars (by simp)
    obtain ⟨-, chars⟩ := List.cons.inj chars
    obtain ⟨minuteDigits, halves⟩ := List.append_inj chars (by simp)
    have month : t.month = u.month := monthName_injective (by omega) (by omega) (by omega)
      (by omega) (String.toList_injective month)
    have clock : t.clockHour = u.clockHour := by
      refine digits_injective 2 ?_ ?_ clockDigits
      · simp only [Text.tenTo]
        omega
      · simp only [Text.tenTo]
        omega
    have half : t.hour < 12 ↔ u.hour < 12 := by
      by_cases early : t.hour < 12 <;> by_cases early' : u.hour < 12 <;>
        simp [early, early'] at halves ⊢
    refine ⟨digits_injective 4 year year' yearDigits, month, digits_injective 2 day day' dayDigits,
      ?_, digits_injective 2 minute minute' minuteDigits⟩
    omega
  · rintro ⟨year, month, day, hour, minute⟩
    simp only [Timestamp.spoken, clockHour, year, month, day, hour, minute]

end Timestamp

end SinglePage
