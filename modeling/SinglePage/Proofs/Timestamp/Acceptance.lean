/-
# Which texts are timestamps, and what is said for them

Whether a text is a timestamp can be found out by three tests, none of which is enough by itself.  The
text has to have the pattern `DDDD-DD-DD DD:DD:DD`, but a pattern knows no calendar, and may take
digits of other scripts for digits.  A reader of dates has to accept it; such a reader knows the
calendar, but it also accepts blanks before numbers, numbers of fewer digits and leap seconds.  And
what was read must not be a leap second.

The class of digits and the reader are left open.  `DigitClass` and `LenientReader` say what is needed
of them; `Lenient.read?` is a reader of this kind.

* `hasPattern_iff`: a text with the pattern falls into pieces;
* `Parts.Shaped.of_read`: what such a reader accepts is written in ASCII digits;
* `inThreeTests_eq`: the three tests accept the timestamps together, and nothing else;
* `friendlyDatetime_exact`: which values are timestamps, how they are spoken, and how all others are
  refused.
-/
import SinglePage.Proofs.Timestamp.Spelling
import SinglePage.Text.Blank
import Mathlib.Data.List.TakeWhile

namespace SinglePage

namespace Timestamp

/-! ## 1. The pattern -/

/-- The pattern of a timestamp: a `d` stands for a digit, and all else for itself. -/
def pattern : List Char := "dddd-dd-dd dd:dd:dd".toList

/-- Whether a whole text has a pattern. -/
def hasPattern (digit : Char → Bool) : List Char → List Char → Bool
  | [], [] => true
  | sign :: signs, c :: text =>
    (if sign = 'd' then digit c else c = sign) && hasPattern digit signs text
  | _, _ => false

section Pattern

variable {digit : Char → Bool} {signs : List Char}

theorem hasPattern_run (width : Nat) {text : List Char} :
    hasPattern digit (List.replicate width 'd' ++ signs) text = true ↔
      ∃ piece rest, text = piece ++ rest ∧ Text.IsRun digit width piece ∧
        hasPattern digit signs rest = true := by
  induction width generalizing text with
  | zero =>
    constructor
    · intro fits
      exact ⟨[], text, rfl, ⟨rfl, by simp⟩, fits⟩
    · rintro ⟨piece, rest, rfl, ⟨empty, -⟩, fits⟩
      obtain rfl := List.length_eq_zero_iff.mp empty
      exact fits
  | succ width ih =>
    cases text with
    | nil =>
      constructor
      · intro fits
        exact absurd fits (by simp [List.replicate_succ, hasPattern])
      · rintro ⟨piece, rest, whole, ⟨size, -⟩, -⟩
        obtain ⟨rfl, -⟩ := List.append_eq_nil_iff.mp whole.symm
        exact absurd size (by simp)
    | cons c text =>
      simp only [List.replicate_succ, List.cons_append, hasPattern, if_pos, Bool.and_eq_true, ih]
      constructor
      · rintro ⟨first, piece, rest, rfl, ⟨rfl, all⟩, fits⟩
        exact ⟨c :: piece, rest, rfl, ⟨rfl, List.forall_mem_cons.mpr ⟨first, all⟩⟩, fits⟩
      · rintro ⟨piece, rest, whole, ⟨size, all⟩, fits⟩
        cases piece with
        | nil => exact absurd size (by simp)
        | cons d piece =>
          obtain ⟨rfl, rfl⟩ := List.cons.inj whole
          obtain ⟨first, all⟩ := List.forall_mem_cons.mp all
          exact ⟨first, piece, rest, rfl, ⟨Nat.succ.inj size, all⟩, fits⟩

theorem hasPattern_sign {sign : Char} (other : sign ≠ 'd') {text : List Char} :
    hasPattern digit (sign :: signs) text = true ↔
      ∃ rest, text = sign :: rest ∧ hasPattern digit signs rest = true := by
  cases text with
  | nil => simp [hasPattern]
  | cons c text =>
    simp only [hasPattern, if_neg other, Bool.and_eq_true, decide_eq_true_eq]
    constructor
    · rintro ⟨rfl, fits⟩
      exact ⟨text, rfl, fits⟩
    · rintro ⟨rest, whole, fits⟩
      obtain ⟨rfl, rfl⟩ := List.cons.inj whole
      exact ⟨rfl, fits⟩

/-- **A text with the pattern falls into pieces** of the right widths. -/
theorem hasPattern_iff {text : List Char} :
    hasPattern digit pattern text = true ↔ ∃ p : Parts, p.Shaped digit ∧ text = p.text := by
  have runs : pattern = List.replicate 4 'd' ++ '-' :: (List.replicate 2 'd' ++ '-' ::
      (List.replicate 2 'd' ++ ' ' :: (List.replicate 2 'd' ++ ':' :: (List.replicate 2 'd' ++
        ':' :: (List.replicate 2 'd' ++ []))))) := by decide
  have dash : '-' ≠ 'd' := by decide
  have space : ' ' ≠ 'd' := by decide
  have colon : ':' ≠ 'd' := by decide
  rw [runs]
  simp only [hasPattern_run, hasPattern_sign dash, hasPattern_sign space, hasPattern_sign colon]
  constructor
  · rintro ⟨year, _, rfl, isYear, _, rfl, month, _, rfl, isMonth, _, rfl, day, _, rfl, isDay, _, rfl,
      hour, _, rfl, isHour, _, rfl, minute, _, rfl, isMinute, _, rfl, second, rest, rfl, isSecond,
      fits⟩
    obtain rfl : rest = [] := by
      cases rest with
      | nil => rfl
      | cons c rest => exact absurd fits (by simp [hasPattern])
    refine ⟨⟨year, month, day, hour, minute, second⟩,
      ⟨isYear, isMonth, isDay, isHour, isMinute, isSecond⟩, ?_⟩
    rw [List.append_nil]
    rfl
  · rintro ⟨p, shaped, rfl⟩
    refine ⟨p.year, _, rfl, shaped.year, _, rfl, p.month, _, rfl, shaped.month, _, rfl, p.day, _, rfl,
      shaped.day, _, rfl, p.hour, _, rfl, shaped.hour, _, rfl, p.minute, _, rfl, shaped.minute, _,
      rfl, p.second, [], ?_, shaped.second, rfl⟩
    rw [List.append_nil]

end Pattern

/-! ## 2. The reader -/

/-- **What a reader of dates returns**: a day, of any year, and a time of this day.  A leap second is
told as second 59 with more than 999999999 nanoseconds. -/
structure Clock where
  year : Int
  month : Nat
  day : Nat
  hour : Nat
  minute : Nat
  second : Nat
  nanosecond : Nat

/-- The nanoseconds of one second. -/
def nanosecondsPerSecond : Nat := 1000000000

/-- The day and the time that the fields name, if they name any; the last second of a minute may be a
leap second. -/
def Fields.clock? (f : Fields) : Option Clock :=
  if 1 ≤ f.month ∧ f.month ≤ 12 ∧ 1 ≤ f.day ∧ f.day ≤ daysInMonth f.year f.month ∧ f.hour < 24 ∧
      f.minute < 60 ∧ f.second ≤ 60 then
    some ⟨f.year, f.month, f.day, f.hour, f.minute, min f.second 59,
      if f.second = 60 then nanosecondsPerSecond else 0⟩
  else none

/-- The digits of a year: four of them, or a sign and at least four where these are not enough. -/
def Clock.yearText (year : Int) : List Char :=
  if 0 ≤ year ∧ year < 10000 then Text.digits 4 year.toNat
  else
    let digits := Nat.toDigits 10 year.natAbs
    (if year < 0 then '-' else '+') :: (List.replicate (4 - digits.length) '0' ++ digits)

/-- A day and a time, spoken. -/
def Clock.spoken (clock : Clock) : String :=
  String.ofList ((monthName clock.month).toList ++ ' ' :: (Text.digits 2 clock.day ++
    ',' :: ' ' :: (yearText clock.year ++ ' ' ::
      (Text.digits 2 (if clock.hour % 12 = 0 then 12 else clock.hour % 12) ++ ':' ::
        (Text.digits 2 clock.minute ++ if clock.hour < 12 then ['A', 'M'] else ['P', 'M'])))))

/-- **The decimal digits of all scripts**: the ten of ASCII, and others beyond ASCII, none of which is
blank. -/
structure DigitClass (digit : Char → Bool) : Prop where
  ascii : ∀ c, c.isDigit = true → digit c = true
  beyond : ∀ c, digit c = true →
    c.isDigit = true ∨ (128 ≤ c.toNat ∧ Text.isBlank c = false)

/-- The characters that a reader of dates accepts somewhere: digits of ASCII, signs, separators and
blanks. -/
def Readable (c : Char) : Prop :=
  c.isDigit = true ∨ c ∈ ['+', '-', ':'] ∨ Text.isBlank c = true

/-- **What is needed of a reader of dates.**  Numbers that are written plainly, each in as many ASCII
digits as it has at most, are read as what they are; and all numbers are written in ASCII digits. -/
structure LenientReader (read : List Char → Option Clock) : Prop where
  plain : ∀ p : Parts, p.Shaped Char.isDigit → read p.text = p.fields.clock?
  readable : ∀ text clock, read text = some clock → ∀ c ∈ text, Readable c

section Tests

variable {digit : Char → Bool} {read : List Char → Option Clock}

theorem Parts.Shaped.mono {other : Char → Bool} {p : Parts} (shaped : p.Shaped digit)
    (each : ∀ c ∈ p.text, digit c = true → other c = true) : p.Shaped other where
  year := ⟨shaped.year.1, fun c mem => each c (by simp [text, mem]) (shaped.year.2 c mem)⟩
  month := ⟨shaped.month.1, fun c mem => each c (by simp [text, mem]) (shaped.month.2 c mem)⟩
  day := ⟨shaped.day.1, fun c mem => each c (by simp [text, mem]) (shaped.day.2 c mem)⟩
  hour := ⟨shaped.hour.1, fun c mem => each c (by simp [text, mem]) (shaped.hour.2 c mem)⟩
  minute := ⟨shaped.minute.1, fun c mem => each c (by simp [text, mem]) (shaped.minute.2 c mem)⟩
  second := ⟨shaped.second.1, fun c mem => each c (by simp [text, mem]) (shaped.second.2 c mem)⟩

/-- **What such a reader accepts is written in ASCII digits**: the digits of other scripts are neither
signs nor blanks. -/
theorem Parts.Shaped.of_read {p : Parts} {clock : Clock} (shaped : p.Shaped digit)
    (digits : DigitClass digit) (lenient : LenientReader read)
    (accepted : read p.text = some clock) : p.Shaped Char.isDigit := by
  refine shaped.mono ?_
  intro c mem isDigit
  rcases digits.beyond c isDigit with ascii | ⟨far, visible⟩
  · exact ascii
  · rcases lenient.readable _ _ accepted c mem with ascii | sign | blank
    · exact ascii
    · have near : ∀ sign ∈ ['+', '-', ':'], sign.toNat < 128 := by simp
      have := near c sign
      omega
    · rw [visible] at blank
      exact absurd blank (by simp)

/-! ## 3. The three tests -/

/-- **Speaks a timestamp after three tests**: the pattern, the reader, and that it is no leap second
that was read. -/
def inThreeTests (digit : Char → Bool) (read : List Char → Option Clock) (value : Value) :
    Except SiteError Value := do
  let input ← value.asText
  if hasPattern digit pattern input.toList then
    match read input.toList with
    | some clock =>
      if clock.nanosecond < nanosecondsPerSecond then return .text clock.spoken
      else .error (.malformedTimestamp input)
    | none => .error (.malformedTimestamp input)
  else .error (.malformedTimestamp input)

/-- A timestamp as a day and a time. -/
theorem clock?_of_valid (t : Timestamp) : t.toFields.clock? =
    some ⟨t.year, t.month, t.day, t.hour, t.minute, t.second, 0⟩ := by
  obtain ⟨-, first, last, firstDay, lastDay, hour, minute, second⟩ := Fields.isValid_iff.mp t.valid
  have capped : min t.second 59 = t.second := by omega
  rw [Fields.clock?, if_pos ⟨first, last, firstDay, lastDay, hour, minute, by omega⟩, capped,
    if_neg (by omega)]

/-- Fields that name a day and a time, but no leap second, are those of a timestamp. -/
theorem isValid_of_clock? {f : Fields} {clock : Clock} (year : f.year < 10000)
    (named : f.clock? = some clock) (noLeap : clock.nanosecond < nanosecondsPerSecond) :
    f.isValid = true := by
  unfold Fields.clock? at named
  split at named
  · rename_i fits
    obtain ⟨first, last, firstDay, lastDay, hour, minute, second⟩ := fits
    obtain rfl := Option.some.inj named
    have notSixty : f.second ≠ 60 := by
      intro sixty
      simp [sixty] at noLeap
    exact Fields.isValid_iff.mpr ⟨year, first, last, firstDay, lastDay, hour, minute, by omega⟩
  · exact absurd named (by simp)

theorem Clock.spoken_of_timestamp (t : Timestamp) :
    Clock.spoken ⟨t.year, t.month, t.day, t.hour, t.minute, t.second, 0⟩ = t.spoken := by
  have year : Clock.yearText t.year = Text.digits 4 t.year := by
    have small := (Fields.isValid_iff.mp t.valid).1
    rw [yearText, if_pos ⟨by omega, by omega⟩, Int.toNat_natCast]
  simp only [spoken, year]
  rfl

/-- **A text passes the three tests when it is a timestamp.** -/
theorem passes_iff (digits : DigitClass digit) (lenient : LenientReader read) {s : String}
    {clock : Clock} :
    (hasPattern digit pattern s.toList = true ∧ read s.toList = some clock ∧
        clock.nanosecond < nanosecondsPerSecond) ↔
      ∃ t, parse? s = some t ∧ clock = ⟨t.year, t.month, t.day, t.hour, t.minute, t.second, 0⟩ := by
  constructor
  · rintro ⟨fits, accepted, noLeap⟩
    obtain ⟨p, shaped, written⟩ := hasPattern_iff.mp fits
    rw [written] at accepted
    have ascii : p.Shaped Char.isDigit := shaped.of_read digits lenient accepted
    rw [lenient.plain p ascii] at accepted
    have year : p.fields.year < 10000 := (Text.digits_decimal ascii.year).1
    have valid : p.fields.isValid = true := isValid_of_clock? year accepted noLeap
    refine ⟨⟨p.fields, valid⟩, parse?_eq_some_iff.mpr
      ⟨p, Parts.isMoment_iff.mpr ⟨ascii, valid⟩, written, rfl⟩, ?_⟩
    rw [clock?_of_valid ⟨p.fields, valid⟩] at accepted
    exact (Option.some.inj accepted).symm
  · rintro ⟨t, parsed, rfl⟩
    obtain ⟨p, moment, written, same⟩ := parse?_eq_some_iff.mp parsed
    refine ⟨hasPattern_iff.mpr ⟨p, ?_, written⟩, ?_, ?_⟩
    · exact moment.shaped.mono fun c _ isDigit => digits.ascii c isDigit
    · rw [written, lenient.plain p moment.shaped, same, clock?_of_valid t]
    · simp [nanosecondsPerSecond]

/-- **The three tests accept the timestamps together, and nothing else.** -/
theorem inThreeTests_eq (digits : DigitClass digit) (lenient : LenientReader read) (value : Value) :
    inThreeTests digit read value = friendlyDatetime value := by
  cases value with
  | text s =>
    simp only [inThreeTests, friendlyDatetime, Value.asText, bind, Except.bind]
    cases parsed : parse? s with
    | some t =>
      obtain ⟨fits, accepted, noLeap⟩ := (passes_iff digits lenient).mpr ⟨t, parsed, rfl⟩
      rw [if_pos fits, accepted]
      simp only [if_pos noLeap, Clock.spoken_of_timestamp]
    | none =>
      split
      · rename_i fits
        split
        · rename_i clock accepted
          split
          · rename_i noLeap
            obtain ⟨t, parsed', -⟩ := (passes_iff digits lenient).mp ⟨fits, accepted, noLeap⟩
            rw [parsed] at parsed'
            exact absurd parsed' (by simp)
          · rfl
        · rfl
      · rfl
  | _ => rfl

end Tests

/-! ## 4. A lenient reader -/

namespace Lenient

/-- The digits at the beginning of a text, but no more than `width` of them, and what follows. -/
def takeDigits : Nat → List Char → List Char × List Char
  | width + 1, c :: text =>
    if c.isDigit then ((takeDigits width text).map (c :: ·) id) else ([], c :: text)
  | _, text => ([], text)

/-- Reads a number of one digit or more, but no more than `width`, behind any blanks. -/
def number? (width : Nat) (text : List Char) : Option (Nat × List Char) :=
  match takeDigits width (text.dropWhile Text.isBlank) with
  | ([], _) => none
  | (piece, rest) => some (Text.decimal piece, rest)

/-- **Reads a day and a time leniently**: there may be blanks before each number, none need be between
the day and the hour, and numbers may have fewer digits. -/
def read? (text : List Char) : Option Clock := do
  let (year, rest) ← number? 4 text
  let rest ← Text.expect? '-' rest
  let (month, rest) ← number? 2 rest
  let rest ← Text.expect? '-' rest
  let (day, rest) ← number? 2 rest
  let (hour, rest) ← number? 2 rest
  let rest ← Text.expect? ':' rest
  let (minute, rest) ← number? 2 rest
  let rest ← Text.expect? ':' rest
  let (second, rest) ← number? 2 rest
  if rest = [] then Fields.clock? ⟨year, month, day, hour, minute, second⟩ else none

theorem takeDigits_run {piece : List Char} (all : ∀ c ∈ piece, c.isDigit = true)
    (rest : List Char) : takeDigits piece.length (piece ++ rest) = (piece, rest) := by
  induction piece with
  | nil => cases rest <;> rfl
  | cons c piece ih =>
    obtain ⟨first, all⟩ := List.forall_mem_cons.mp all
    rw [List.length_cons, List.cons_append, takeDigits, if_pos first, ih all]
    rfl

theorem takeDigits_append (width : Nat) (text : List Char) :
    (takeDigits width text).1 ++ (takeDigits width text).2 = text ∧
      ∀ c ∈ (takeDigits width text).1, c.isDigit = true := by
  induction width generalizing text with
  | zero => exact ⟨rfl, by simp [takeDigits]⟩
  | succ width ih =>
    cases text with
    | nil => exact ⟨rfl, by simp [takeDigits]⟩
    | cons c text =>
      obtain ⟨whole, all⟩ := ih text
      rw [takeDigits]
      split
      · rename_i first
        exact ⟨congrArg (c :: ·) whole, List.forall_mem_cons.mpr ⟨first, all⟩⟩
      · exact ⟨rfl, by simp⟩

theorem isBlank_of_isDigit {c : Char} (isDigit : c.isDigit = true) : Text.isBlank c = false := by
  have read : Text.digit? c = some (c.toNat - '0'.toNat) := by rw [Text.digit?, if_pos isDigit]
  obtain ⟨ten, written⟩ := Text.digit?_eq_some read
  have all : ∀ d ∈ List.range 10, Text.isBlank (Nat.digitChar d) = false := by decide
  rw [written]
  exact all _ (List.mem_range.mpr ten)

/-- **A number in as many digits as it may have** is read as what it is. -/
theorem number?_run {width : Nat} {piece : List Char} (positive : 0 < width)
    (run : Text.IsRun Char.isDigit width piece) (rest : List Char) :
    number? width (piece ++ rest) = some (Text.decimal piece, rest) := by
  obtain ⟨rfl, all⟩ := run
  cases piece with
  | nil => exact absurd positive (by simp)
  | cons c piece =>
    have noBlank : (c :: piece ++ rest).dropWhile Text.isBlank = c :: piece ++ rest := by
      rw [List.cons_append, List.dropWhile_cons_of_neg]
      simp [isBlank_of_isDigit (all c List.mem_cons_self)]
    rw [number?, noBlank, takeDigits_run all]

/-- What is read as a number are blanks and digits. -/
theorem readable_of_number? {width n : Nat} {text rest : List Char}
    (found : number? width text = some (n, rest)) (behind : ∀ c ∈ rest, Readable c) :
    ∀ c ∈ text, Readable c := by
  obtain ⟨whole, all⟩ := takeDigits_append width (text.dropWhile Text.isBlank)
  have left : (takeDigits width (text.dropWhile Text.isBlank)).2 = rest := by
    unfold number? at found
    split at found
    · exact absurd found (by simp)
    · rename_i taken
      rw [taken]
      exact (Prod.mk.inj (Option.some.inj found)).2
  intro c mem
  rw [← List.takeWhile_append_dropWhile (p := Text.isBlank) (l := text), ← whole, left] at mem
  rcases List.mem_append.mp mem with blank | mem
  · exact .inr (.inr (List.mem_takeWhile_imp blank))
  · rcases List.mem_append.mp mem with digit | mem
    · exact .inl (all c digit)
    · exact behind c mem

theorem readable_of_expect? {sign : Char} {text rest : List Char} (isSign : sign ∈ ['+', '-', ':'])
    (found : Text.expect? sign text = some rest) (behind : ∀ c ∈ rest, Readable c) :
    ∀ c ∈ text, Readable c := by
  rw [Text.expect?_eq_some found]
  exact List.forall_mem_cons.mpr ⟨.inr (.inl isSign), behind⟩

theorem readable_of_read? {text : List Char} {clock : Clock} (found : read? text = some clock) :
    ∀ c ∈ text, Readable c := by
  simp only [read?, Option.bind_eq_bind, Option.bind_eq_some_iff] at found
  obtain ⟨⟨_, _⟩, year, _, dash, ⟨_, _⟩, month, _, dash', ⟨_, _⟩, day, ⟨_, _⟩, hour, _, colon,
    ⟨_, _⟩, minute, _, colon', ⟨_, left⟩, second, done⟩ := found
  have nothing : left = [] := by
    by_contra more
    rw [if_neg more] at done
    exact absurd done (by simp)
  have isDash : '-' ∈ ['+', '-', ':'] := by decide
  have isColon : ':' ∈ ['+', '-', ':'] := by decide
  -- from the end of the text to its beginning
  refine readable_of_number? year (readable_of_expect? isDash dash ?_)
  refine readable_of_number? month (readable_of_expect? isDash dash' ?_)
  refine readable_of_number? day (readable_of_number? hour (readable_of_expect? isColon colon ?_))
  refine readable_of_number? minute (readable_of_expect? isColon colon' ?_)
  refine readable_of_number? second ?_
  rw [nothing]
  simp

theorem read?_text {p : Parts} (shaped : p.Shaped Char.isDigit) :
    read? p.text = p.fields.clock? := by
  have skipBlank : ∀ rest, number? 2 (' ' :: rest) = number? 2 rest := fun rest => rfl
  have last := number?_run (by decide) shaped.second []
  rw [List.append_nil] at last
  simp only [read?, Parts.text, number?_run (by decide) shaped.year,
    number?_run (by decide) shaped.month, number?_run (by decide) shaped.day,
    number?_run (by decide) shaped.hour, number?_run (by decide) shaped.minute, last,
    Text.expect?_self, skipBlank, Option.bind_eq_bind, Option.bind_some]
  rfl

/-- **This reader is a lenient one.** -/
theorem lenientReader : LenientReader read? where
  plain _ shaped := read?_text shaped
  readable _ _ found := readable_of_read? found

end Lenient

/-! ## 5. What is spoken -/

theorem friendlyDatetime_of_parse? {s : String} {t : Timestamp} (parsed : parse? s = some t) :
    friendlyDatetime (.text s) = .ok (.text t.spoken) := by
  simp only [friendlyDatetime, Value.asText, bind, Except.bind, parsed]
  rfl

theorem friendlyDatetime_of_not_parse? {s : String} (unparsed : parse? s = none) :
    friendlyDatetime (.text s) = .error (.malformedTimestamp s) := by
  simp only [friendlyDatetime, Value.asText, bind, Except.bind, unparsed]

/-- The moment that its pieces name. -/
def Parts.IsMoment.timestamp {p : Parts} (moment : p.IsMoment) : Timestamp :=
  ⟨p.fields, (Parts.isMoment_iff.mp moment).2⟩

theorem Parts.IsMoment.parse?_text {p : Parts} (moment : p.IsMoment) :
    parse? (String.ofList p.text) = some moment.timestamp :=
  parse?_eq_some_iff.mpr ⟨p, moment, String.toList_ofList, rfl⟩

/-- Which texts are spoken. -/
theorem spoken_text_iff {s : String} :
    (∃ result, friendlyDatetime (.text s) = .ok result) ↔
      ∃ p : Parts, p.IsMoment ∧ s.toList = p.text := by
  constructor
  · rintro ⟨result, done⟩
    cases parsed : parse? s with
    | some t =>
      obtain ⟨p, moment, written, -⟩ := parse?_eq_some_iff.mp parsed
      exact ⟨p, moment, written⟩
    | none =>
      rw [friendlyDatetime_of_not_parse? parsed] at done
      exact absurd done (by simp)
  · rintro ⟨p, moment, written⟩
    have whole : s = String.ofList p.text := by rw [← written, String.ofList_toList]
    rw [whole]
    exact ⟨_, friendlyDatetime_of_parse? moment.parse?_text⟩

/-- How a moment is spoken. -/
theorem Parts.IsMoment.spoken_iff {p : Parts} (moment : p.IsMoment) {result : Value} :
    friendlyDatetime (.text (String.ofList p.text)) = .ok result ↔
      ∃ spoken, p.Speaks spoken ∧ result = .text (String.ofList spoken) := by
  rw [friendlyDatetime_of_parse? moment.parse?_text]
  have speaks : ∀ {spoken}, p.Speaks spoken ↔ spoken = moment.timestamp.spoken.toList :=
    speaks_iff moment.shaped rfl
  simp only [speaks, exists_eq_left, String.ofList_toList]
  constructor
  · intro same
    exact (Except.ok.inj same).symm
  · intro same
    rw [same]

/-- Which moments are spoken alike. -/
theorem Parts.IsMoment.alike_iff {p q : Parts} (moment : p.IsMoment) (other : q.IsMoment) :
    friendlyDatetime (.text (String.ofList p.text)) =
        friendlyDatetime (.text (String.ofList q.text)) ↔
      p.year = q.year ∧ p.month = q.month ∧ p.day = q.day ∧ p.hour = q.hour ∧
        p.minute = q.minute := by
  rw [friendlyDatetime_of_parse? moment.parse?_text, friendlyDatetime_of_parse? other.parse?_text]
  rw [← Text.decimal_inj moment.shaped.year other.shaped.year,
    ← Text.decimal_inj moment.shaped.month other.shaped.month,
    ← Text.decimal_inj moment.shaped.day other.shaped.day,
    ← Text.decimal_inj moment.shaped.hour other.shaped.hour,
    ← Text.decimal_inj moment.shaped.minute other.shaped.minute]
  constructor
  · intro same
    exact spoken_eq_iff.mp (Value.text.inj (Except.ok.inj same))
  · intro same
    exact congrArg (Except.ok ∘ Value.text) (spoken_eq_iff.mpr same)

/-- **Which values are timestamps, how they are spoken, and how all others are refused.**

1. The three tests, of the pattern, of the reader and of the leap second, come to the same for any
   class of digits and any lenient reader.
2. A text is spoken when it is written `DDDD-DD-DD DD:DD:DD` in ASCII digits and names a moment: a day
   of the Gregorian calendar and a time of this day.
3. It is spoken as `Mon DD, YYYY hh:mmXM`.
4. Two moments are spoken alike when they are the same up to their seconds.
5. All other texts are refused as malformed timestamps, and come back as they are.
6. Values that are no texts are refused for their kind. -/
theorem friendlyDatetime_exact {digit : Char → Bool} {read : List Char → Option Clock}
    (digits : DigitClass digit) (lenient : LenientReader read) :
    (∀ value, inThreeTests digit read value = friendlyDatetime value) ∧
      (∀ s, (∃ result, friendlyDatetime (.text s) = .ok result) ↔
        ∃ p : Parts, p.IsMoment ∧ s.toList = p.text) ∧
      (∀ p : Parts, p.IsMoment → ∀ result,
        friendlyDatetime (.text (String.ofList p.text)) = .ok result ↔
          ∃ spoken, p.Speaks spoken ∧ result = .text (String.ofList spoken)) ∧
      (∀ p q : Parts, p.IsMoment → q.IsMoment →
        (friendlyDatetime (.text (String.ofList p.text)) =
            friendlyDatetime (.text (String.ofList q.text)) ↔
          p.year = q.year ∧ p.month = q.month ∧ p.day = q.day ∧ p.hour = q.hour ∧
            p.minute = q.minute)) ∧
      (∀ s, (¬ ∃ p : Parts, p.IsMoment ∧ s.toList = p.text) →
        friendlyDatetime (.text s) = .error (.malformedTimestamp s)) ∧
      (∀ value : Value, value.kind ≠ .text →
        friendlyDatetime value = .error (.typeMismatch .text value.kind)) := by
  refine ⟨inThreeTests_eq digits lenient, fun s => spoken_text_iff, ?_, ?_, ?_, ?_⟩
  · intro p moment result
    exact moment.spoken_iff
  · intro p q moment other
    exact moment.alike_iff other
  · intro s none
    cases parsed : parse? s with
    | some t => exact absurd (spoken_text_iff.mp ⟨_, friendlyDatetime_of_parse? parsed⟩) none
    | none => exact friendlyDatetime_of_not_parse? parsed
  · intro value other
    cases value with
    | text s => exact absurd rfl other
    | _ => rfl

/-- The digits of ASCII and the ten Arabic ones. -/
def isArabicDigit (c : Char) : Bool := c.isDigit || (0x660 ≤ c.toNat && c.toNat ≤ 0x669)

theorem isArabicDigit_class : DigitClass isArabicDigit where
  ascii c ascii := by simp [isArabicDigit, ascii]
  beyond c digit := by
    simp only [isArabicDigit, Bool.or_eq_true, Bool.and_eq_true, decide_eq_true_eq] at digit
    rcases digit with ascii | far
    · exact .inl ascii
    · refine .inr ⟨by omega, ?_⟩
      simp only [Text.isBlank, Bool.or_eq_false_iff, Bool.and_eq_false_iff, decide_eq_false_iff_not]
      omega

/-- The first minute of a leap day, up to its last second. -/
def leapDay : Parts :=
  ⟨"2020".toList, "02".toList, "29".toList, "00".toList, "00".toList, "59".toList⟩

/-- The first minute of a leap day is spoken by an hour 12.  A digit of another script has the
pattern, and a leap second is read, but neither is a timestamp. -/
theorem friendlyDatetime_exact_leap :
    DigitClass isArabicDigit ∧ LenientReader Lenient.read? ∧ leapDay.IsMoment ∧
      inThreeTests isArabicDigit Lenient.read? (.text (String.ofList leapDay.text)) =
        .ok (.text "Feb 29, 2020 12:00AM") ∧
      friendlyDatetime (.text (String.ofList leapDay.text)) =
        friendlyDatetime (.text (String.ofList { leapDay with second := "00".toList }.text)) ∧
      hasPattern isArabicDigit pattern "2020-02-2٩ 00:00:59".toList = true ∧
      friendlyDatetime (.text "2020-02-2٩ 00:00:59") =
        .error (.malformedTimestamp "2020-02-2٩ 00:00:59") ∧
      (Lenient.read? "2020-02-29 00:00:60".toList).isSome = true ∧
      friendlyDatetime (.text "2020-02-29 00:00:60") =
        .error (.malformedTimestamp "2020-02-29 00:00:60") ∧
      friendlyDatetime (.list []) = .error (.typeMismatch .text .list) := by
  obtain ⟨tests, spoken, how, alike, refused, kinds⟩ :=
    friendlyDatetime_exact isArabicDigit_class Lenient.lenientReader
  have moment : leapDay.IsMoment :=
    Parts.isMoment_iff.mpr ⟨Parts.shaped_ofFields ⟨2020, 2, 29, 0, 0, 59⟩, by decide⟩
  have earlier : { leapDay with second := "00".toList }.IsMoment :=
    Parts.isMoment_iff.mpr ⟨Parts.shaped_ofFields ⟨2020, 2, 29, 0, 0, 0⟩, by decide⟩
  have unspoken : ∀ s, parse? s = none →
      friendlyDatetime (.text s) = .error (.malformedTimestamp s) := by
    intro s unparsed
    refine refused s ?_
    rintro ⟨p, moment, written⟩
    have parsed : parse? s = some moment.timestamp :=
      parse?_eq_some_iff.mpr ⟨p, moment, written, rfl⟩
    rw [unparsed] at parsed
    exact absurd parsed (by simp)
  refine ⟨isArabicDigit_class, Lenient.lenientReader, moment, ?_, ?_, by decide, ?_, by decide, ?_,
    ?_⟩
  · rw [tests]
    refine (how leapDay moment _).mpr ⟨"Feb 29, 2020 12:00AM".toList, ?_, rfl⟩
    exact ⟨12, by decide, by decide, by decide, by decide⟩
  · exact (alike _ _ moment earlier).mpr ⟨rfl, rfl, rfl, rfl, rfl⟩
  · exact unspoken _ (by decide +kernel)
  · exact unspoken _ (by decide +kernel)
  · exact kinds (.list []) (by decide)

end Timestamp

end SinglePage
