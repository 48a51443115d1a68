/-
# The parts of a command line

The arguments of a line are read one by one, but some belong together: a switch and the value behind
it are one part of the line.  Reading a line takes its parts, one by one and each as a whole.  That
values are settled later than they are seen only matters for which fault is reported.

* `Spells`, `Spelled`: the arguments that are a part of a line, or some parts of it;
* `Spelled.cut`: a line can be cut between its parts;
* `step_eq_ok_iff`: what a step does that succeeds;
* `Spells.read_iff`: reading the arguments of a part takes the part;
* `Spelled.reads`, `exists_spelled`: a line can be read when it falls into parts that can be taken.
-/
import SinglePage.CommandLine.Parser
import SinglePage.Proofs.Filter.Stages

namespace SinglePage.CommandLine

open Reading

/-! ## 1. What one argument says -/

/-- The flag with a one-letter name. -/
def Level.shortFlag? (level : Level) (letter : Char) : Option Flag :=
  match level.short? letter with
  | some (.flag flag) => some flag
  | _ => none

/-- **What one argument says**, where switches have not been ended. -/
inductive Saying where
  /-- Switches end here. -/
  | ends
  /-- Some flags, one at least. -/
  | flags (first : Flag) (more : List Flag)
  /-- A switch whose value is to come. -/
  | opens (slot : Slot)
  /-- A switch with its value. -/
  | gives (slot : Slot) (value : String)
  /-- No switch at all. -/
  | word
  deriving DecidableEq

/-- What the value of a switch is for. -/
def Saying.slot? : Saying → Option Slot
  | .opens slot => some slot
  | .gives slot _ => some slot
  | _ => none

/-- What a long switch says; `value` is what stands behind the `=`, if there is one. -/
def Level.longSaying? (level : Level) (name : String) (value : Option String) : Option Saying :=
  match level.long? name, value with
  | some (.flag flag), none => some (.flags flag [])
  | some (.valued slot), none => some (.opens slot)
  | some (.valued slot), some value => some (.gives slot value)
  | _, _ => none

/-- What an argument says, if it says anything at a place on the line. -/
def Level.saying? (level : Level) (argument : String) : Option Saying :=
  match argument.toList with
  | ['-', '-'] => some .ends
  | '-' :: '-' :: text =>
    let (name, value) := splitValue text
    level.longSaying? name value
  | '-' :: letter :: letters => do
    return .flags (← level.shortFlag? letter) (← letters.mapM level.shortFlag?)
  | _ => some .word

namespace Reading

/-- What an argument does that says something. -/
def hear (level : Level) (reading : Reading) (argument : String) :
    Saying → Except UsageError Reading
  | .ends => .ok { reading with trailing := true }
  | .flags first more => (first :: more).foldlM takeFlag reading
  | .opens slot => do
    let reading ← settle reading
    return { reading with pending := some ⟨slot, none⟩, awaiting := true, started := true }
  | .gives slot value => do
    let reading ← settle reading
    store { reading with awaiting := false, started := true } slot value
  | .word =>
    match reading.awaiting, reading.pending with
    | true, some ⟨slot, _⟩ =>
      .ok { reading with pending := some ⟨slot, some argument⟩, awaiting := false }
    | _, _ => takeWord level reading argument

end Reading

section Sayings

variable {level : Level} {reading next : Reading}

theorem takeShort_eq_ok_iff {letter : Char} : takeShort level reading letter = .ok next ↔
    ∃ flag, level.shortFlag? letter = some flag ∧ takeFlag reading flag = .ok next := by
  unfold takeShort Level.shortFlag?
  rcases level.short? letter with - | ⟨flag | slot⟩ <;> simp

/-- A row of letters is a row of flags. -/
theorem foldlM_takeShort_eq_ok_iff {letters : List Char} :
    letters.foldlM (takeShort level) reading = .ok next ↔
      ∃ flags, letters.mapM level.shortFlag? = some flags ∧
        flags.foldlM takeFlag reading = .ok next := by
  induction letters generalizing reading with
  | nil => simp
  | cons letter letters ih =>
    simp only [List.foldlM_cons, List.mapM_cons, bind_eq_ok_iff, takeShort_eq_ok_iff, ih,
      Option.bind_eq_bind, Option.bind_eq_some_iff, Option.pure_def, Option.some.injEq]
    constructor
    · rintro ⟨between, ⟨flag, named, taken⟩, flags, row, rest⟩
      exact ⟨flag :: flags, ⟨flag, named, flags, row, rfl⟩,
        bind_eq_ok_iff.mpr ⟨between, taken, rest⟩⟩
    · rintro ⟨_, ⟨flag, named, flags, row, rfl⟩, taken⟩
      obtain ⟨between, taken, rest⟩ := bind_eq_ok_iff.mp taken
      exact ⟨between, ⟨flag, named, taken⟩, flags, row, rest⟩

theorem takeLong_eq_ok_iff {name argument : String} {value : Option String} :
    takeLong level reading name value = .ok next ↔
      ∃ saying, level.longSaying? name value = some saying ∧
        hear level reading argument saying = .ok next := by
  unfold takeLong Level.longSaying?
  rcases level.long? name with - | ⟨flag | slot⟩ <;> cases value <;> simp [hear]

/-- **What a step does that succeeds.** -/
theorem step_eq_ok_iff {argument : String} (going : reading.trailing = false) :
    step level reading argument = .ok next ↔
      ∃ saying, level.saying? argument = some saying ∧
        hear level reading argument saying = .ok next := by
  unfold step Level.saying?
  rw [if_neg (by simp [going])]
  generalize argument.toList = text
  split
  case h_1 => simp [hear]
  case h_2 text notEnds =>
    obtain ⟨c, name, rfl⟩ := List.exists_cons_of_ne_nil notEnds
    exact takeLong_eq_ok_iff
  case h_3 letter letters _ _ =>
    simp only [foldlM_takeShort_eq_ok_iff, List.mapM_cons, Option.bind_eq_bind,
      Option.bind_eq_some_iff, Option.pure_def, Option.some.injEq]
    constructor
    · rintro ⟨_, ⟨first, named, more, row, rfl⟩, taken⟩
      exact ⟨.flags first more, ⟨first, named, more, row, rfl⟩, taken⟩
    · rintro ⟨_, ⟨first, named, more, row, rfl⟩, heard⟩
      exact ⟨first :: more, ⟨first, named, more, row, rfl⟩, heard⟩
  case h_4 =>
    simp only [Option.some.injEq, exists_eq_left']
    exact Iff.rfl

end Sayings

/-! ## 2. The parts of a line -/

/-- **A complete part of a line**: some flags in one argument, or a value with the switch that it
belongs to. -/
inductive Part where
  | row (first : Flag) (more : List Flag)
  | value (slot : Slot) (text : String)
  deriving DecidableEq

/-- **The arguments that are a part of a line.**  Only behind `render` a word is one by itself. -/
inductive Spells (level : Level) : List String → Part → Prop where
  | row {argument : String} {first : Flag} {more : List Flag}
      (said : level.saying? argument = some (.flags first more)) :
      Spells level [argument] (.row first more)
  | joined {argument : String} {slot : Slot} {value : String}
      (said : level.saying? argument = some (.gives slot value)) :
      Spells level [argument] (.value slot value)
  | apart {argument : String} {slot : Slot} {value : String}
      (said : level.saying? argument = some (.opens slot))
      (behind : level.saying? value = some .word) :
      Spells level [argument, value] (.value slot value)
  | template {word : String} (place : level = .render)
      (said : level.saying? word = some .word) :
      Spells level [word] (.value .template word)

/-- **The arguments that are some parts of a line**, one behind the other. -/
inductive Spelled (level : Level) : List String → List Part → Prop where
  | nil : Spelled level [] []
  | cons {words arguments : List String} {part : Part} {parts : List Part}
      (first : Spells level words part) (rest : Spelled level arguments parts) :
      Spelled level (words ++ arguments) (part :: parts)

theorem Spelled.append {level : Level} {front back : List String} {early late : List Part}
    (before : Spelled level front early) (behind : Spelled level back late) :
    Spelled level (front ++ back) (early ++ late) := by
  induction before with
  | nil => exact behind
  | cons first _ ih =>
    rw [List.append_assoc, List.cons_append]
    exact .cons first ih

/-- **A line can be cut between its parts**: anywhere but between a switch and its value. -/
theorem Spelled.cut {level : Level} {arguments : List String} {parts : List Part}
    (spelled : Spelled level arguments parts) {front back : List String}
    (cut : arguments = front ++ back)
    (between : ∀ last ∈ front.getLast?, ∀ slot, level.saying? last ≠ some (.opens slot)) :
    ∃ early late, parts = early ++ late ∧ Spelled level front early ∧
      Spelled level back late := by
  induction spelled generalizing front with
  | nil =>
    obtain ⟨rfl, rfl⟩ := List.append_eq_nil_iff.mp cut.symm
    exact ⟨[], [], rfl, .nil, .nil⟩
  | @cons words arguments part parts first rest ih =>
    rcases List.append_eq_append_iff.mp cut with ⟨more, rfl, behind⟩ | ⟨others, split, rfl⟩
    · have between : ∀ last ∈ more.getLast?, ∀ slot,
          level.saying? last ≠ some (.opens slot) := fun last ends =>
        between last (by rw [List.getLast?_append, Option.mem_def.mp ends]; rfl)
      obtain ⟨early, late, rfl, before, after⟩ := ih behind between
      exact ⟨part :: early, late, rfl, .cons first before, after⟩
    · rcases front with - | ⟨argument, front⟩
      · obtain rfl : words = others := split
        exact ⟨[], part :: parts, rfl, .nil, .cons first rest⟩
      rcases others with - | ⟨other, others⟩
      · rw [List.append_nil] at split
        have whole : Spelled level (words ++ []) [part] := .cons first .nil
        rw [List.append_nil, split] at whole
        exact ⟨[part], parts, rfl, whole, rest⟩
      -- a cut inside a part is one between a switch and its value
      · exfalso
        cases first with
        | row | joined | template => simp at split
        | @apart _ slot _ said _ =>
          rcases front with - | ⟨_, front⟩
          · obtain rfl := (List.cons.inj split).1
            exact between _ rfl slot said
          · simp at split

/-! ## 3. Reading the arguments of a part -/

namespace Reading

/-- No value is to come, and switches have not been ended. -/
structure Ready (reading : Reading) : Prop where
  calm : reading.awaiting = false
  going : reading.trailing = false

/-- Nothing is pending either. -/
structure Settled (reading : Reading) : Prop extends Ready reading where
  done : reading.pending = none

/-- What has been read once the pending value is settled. -/
structure ComesTo (reading settled : Reading) : Prop extends Ready reading where
  settles : settle reading = .ok settled

/-- A switch was read, and its value is to come. -/
def expecting (reading : Reading) (slot : Slot) : Reading :=
  { reading with pending := some ⟨slot, none⟩, awaiting := true, started := true }

/-- A value was read, and is to be settled. -/
def holding (reading : Reading) (slot : Slot) (value : String) : Reading :=
  { reading with pending := some ⟨slot, some value⟩, awaiting := false, started := true }

/-- Takes a part where nothing is pending. -/
def take (reading : Reading) : Part → Except UsageError Reading
  | .row first more => (first :: more).foldlM takeFlag reading
  | .value .template text =>
    if reading.named then .error .unknownArgument
    else store { reading with started := true, named := true } .template text
  | .value slot text => store { reading with started := true } slot text

section Reads

variable {level : Level} {reading settled next : Reading}

/-- Storing a value leaves all but the values alone. -/
theorem store_frame {slot : Slot} {value : String} (stored : store reading slot value = .ok next) :
    next.flags = reading.flags ∧ next.pending = reading.pending ∧
      next.awaiting = reading.awaiting ∧ next.trailing = reading.trailing ∧
      next.started = reading.started ∧ next.named = reading.named := by
  cases slot with
  | setting setting =>
    simp only [store] at stored
    split at stored
    · simp at stored
    · obtain ⟨path, -, rfl⟩ := map_eq_ok_iff.mp stored
      exact ⟨rfl, rfl, rfl, rfl, rfl, rfl⟩
  | assignment =>
    obtain rfl := Except.ok.inj stored
    exact ⟨rfl, rfl, rfl, rfl, rfl, rfl⟩
  | template =>
    obtain ⟨path, -, rfl⟩ := map_eq_ok_iff.mp stored
    exact ⟨rfl, rfl, rfl, rfl, rfl, rfl⟩

theorem Settled.settle (still : reading.Settled) : reading.settle = .ok reading := by
  unfold Reading.settle
  rw [still.done]

theorem Settled.comesTo (still : reading.Settled) : reading.ComesTo reading :=
  ⟨still.toReady, still.settle⟩

theorem Settled.eq_of_comesTo (still : reading.Settled) (comes : reading.ComesTo settled) :
    reading = settled := by
  have settles := comes.settles
  rw [still.settle] at settles
  exact Except.ok.inj settles

/-- Once the pending value is settled, nothing is pending. -/
theorem ComesTo.isSettled (comes : reading.ComesTo settled) : settled.Settled := by
  obtain ⟨⟨calm, going⟩, settles⟩ := comes
  unfold Reading.settle at settles
  split at settles
  case h_1 done =>
    obtain rfl := Except.ok.inj settles
    exact ⟨⟨calm, going⟩, done⟩
  case h_2 => simp at settles
  case h_3 =>
    obtain ⟨-, pending, awaiting, trailing, -, -⟩ := store_frame settles
    exact ⟨⟨awaiting, trailing.trans going⟩, pending⟩

theorem ComesTo.named_eq (comes : reading.ComesTo settled) : settled.named = reading.named := by
  have settles := comes.settles
  unfold Reading.settle at settles
  split at settles
  case h_1 => rw [← Except.ok.inj settles]
  case h_2 => simp at settles
  case h_3 =>
    obtain ⟨-, -, -, -, -, named⟩ := store_frame settles
    exact named

/-- A value that is held is stored when it is settled. -/
theorem Settled.holding_comesTo_iff {slot : Slot} {value : String} (still : reading.Settled) :
    (reading.holding slot value).ComesTo next ↔
      store { reading with started := true } slot value = .ok next := by
  have same : ({ reading.holding slot value with pending := none, awaiting := false } : Reading) =
      { reading with started := true } := by
    rw [holding, ← still.done, ← still.calm]
  rw [← same]
  exact ⟨ComesTo.settles, fun settles => ⟨⟨rfl, still.going⟩, settles⟩⟩

/-- Flags are taken when what is pending can be settled. -/
theorem takeFlag_eq_ok_iff {flag : Flag} : takeFlag reading flag = .ok next ↔
    ∃ settled, settle reading = .ok settled ∧ flag ≠ .help ∧ flag ≠ .version ∧
      flag ∉ settled.flags ∧
      { settled with flags := flag :: settled.flags, awaiting := false, started := true } =
        next := by
  unfold takeFlag
  rw [bind_eq_ok_iff]
  refine exists_congr fun settled => and_congr_right fun _ => ?_
  cases flag <;> simp [ite_eq_iff, pure, Except.pure]

theorem takeFlag_comesTo_iff {flag : Flag} (ready : reading.Ready) :
    takeFlag reading flag = .ok next ↔
      ∃ settled, reading.ComesTo settled ∧ takeFlag settled flag = .ok next := by
  rw [takeFlag_eq_ok_iff]
  constructor
  · rintro ⟨settled, settles, fits⟩
    have comes : reading.ComesTo settled := ⟨ready, settles⟩
    exact ⟨settled, comes,
      takeFlag_eq_ok_iff.mpr ⟨settled, comes.isSettled.settle, fits⟩⟩
  · rintro ⟨settled, comes, taken⟩
    rw [takeFlag_eq_ok_iff, comes.isSettled.settle] at taken
    obtain ⟨same, settles, fits⟩ := taken
    obtain rfl := Except.ok.inj settles
    exact ⟨settled, comes.settles, fits⟩

theorem Settled.takeFlag {flag : Flag} (still : reading.Settled)
    (taken : reading.takeFlag flag = .ok next) : next.Settled := by
  rw [takeFlag_eq_ok_iff, still.settle] at taken
  obtain ⟨settled, settles, -, -, -, rfl⟩ := taken
  obtain rfl := Except.ok.inj settles
  exact ⟨⟨rfl, still.going⟩, still.done⟩

theorem Settled.takeFlags {flags : List Flag} (still : reading.Settled)
    (taken : flags.foldlM Reading.takeFlag reading = .ok next) : next.Settled := by
  induction flags generalizing reading with
  | nil => exact Except.ok.inj taken ▸ still
  | cons flag flags ih =>
    rw [List.foldlM_cons, bind_eq_ok_iff] at taken
    obtain ⟨between, first, rest⟩ := taken
    exact ih (still.takeFlag first) rest

/-- The first flag of a row settles what is pending. -/
theorem row_eq_ok_iff {first : Flag} {more : List Flag} (ready : reading.Ready) :
    (first :: more).foldlM takeFlag reading = .ok next ↔
      ∃ settled, reading.ComesTo settled ∧ settled.take (.row first more) = .ok next := by
  simp only [take, List.foldlM_cons, bind_eq_ok_iff, takeFlag_comesTo_iff ready]
  constructor
  · rintro ⟨between, ⟨settled, comes, taken⟩, rest⟩
    exact ⟨settled, comes, between, taken, rest⟩
  · rintro ⟨settled, comes, between, taken, rest⟩
    exact ⟨between, ⟨settled, comes, taken⟩, rest⟩

theorem take_template_eq_ok_iff {text : String} :
    reading.take (.value .template text) = .ok next ↔ reading.named = false ∧
      store { reading with started := true, named := true } .template text = .ok next := by
  cases named : reading.named <;> simp [take, named]

theorem take_value {slot : Slot} {text : String} (other : slot ≠ .template) :
    reading.take (.value slot text) = store { reading with started := true } slot text := by
  cases slot with
  | template => exact absurd rfl other
  | setting _ | assignment => rfl

theorem Settled.store {slot : Slot} {text : String} (still : reading.Settled)
    (stored : reading.store slot text = .ok next) : next.Settled := by
  obtain ⟨-, pending, awaiting, trailing, -, -⟩ := store_frame stored
  exact ⟨⟨awaiting.trans still.calm, trailing.trans still.going⟩, pending.trans still.done⟩

theorem Settled.take {part : Part} (still : reading.Settled)
    (taken : reading.take part = .ok next) : next.Settled := by
  rcases part with ⟨first, more⟩ | ⟨slot, text⟩
  · exact still.takeFlags taken
  · by_cases template : slot = .template
    · rw [template, take_template_eq_ok_iff] at taken
      refine Settled.store ?_ taken.2
      exact ⟨⟨still.calm, still.going⟩, still.done⟩
    · rw [take_value template] at taken
      refine Settled.store ?_ taken
      exact ⟨⟨still.calm, still.going⟩, still.done⟩

/-- A switch with its value settles what is pending, and its value is stored. -/
theorem hear_gives_iff {level : Level} {argument : String} {slot : Slot} {value : String}
    (other : slot ≠ .template) (ready : reading.Ready) :
    hear level reading argument (.gives slot value) = .ok next ↔
      ∃ settled, reading.ComesTo settled ∧ settled.take (.value slot value) = .ok next := by
  simp only [hear, bind_eq_ok_iff, take_value other]
  refine exists_congr fun settled => ⟨?_, ?_⟩
  · rintro ⟨settles, stored⟩
    have comes : reading.ComesTo settled := ⟨ready, settles⟩
    exact ⟨comes, by rw [← stored, comes.isSettled.calm]⟩
  · rintro ⟨comes, stored⟩
    exact ⟨comes.settles, by rw [← stored, comes.isSettled.calm]⟩

/-- A switch without its value settles what is pending. -/
theorem hear_opens_iff {level : Level} {argument : String} {slot : Slot} (ready : reading.Ready) :
    hear level reading argument (.opens slot) = .ok next ↔
      ∃ settled, reading.ComesTo settled ∧ settled.expecting slot = next := by
  simp only [hear, bind_eq_ok_iff, pure, Except.pure, Except.ok.injEq]
  exact exists_congr fun settled =>
    and_congr_left fun _ => ⟨fun settles => ⟨ready, settles⟩, ComesTo.settles⟩

/-- Where no value is to come, a word is not one. -/
theorem hear_word {level : Level} {word : String} (calm : reading.awaiting = false) :
    hear level reading word .word = takeWord level reading word := by
  rw [hear, calm]

/-- A word that is no value is the template behind `render`, and has no place elsewhere. -/
theorem takeWord_eq_ok_iff {level : Level} {word : String} :
    takeWord level reading word = .ok next ↔ level = .render ∧ reading.named = false ∧
      ∃ settled, settle reading = .ok settled ∧
        holding { settled with named := true } .template word = next := by
  unfold takeWord
  split
  case isTrue place =>
    simp only [place, true_and, bind_eq_ok_iff, pure, Except.pure, Except.ok.injEq]
    rfl
  case isFalse elsewhere =>
    rw [← and_assoc]
    refine iff_of_false ?_ fun found => elsewhere found.1
    split_ifs <;> simp

end Reads

end Reading

section Parts

variable {level : Level} {reading next result : Reading}

/-- Only long switches have values. -/
theorem Level.saying?_valued {argument : String} {saying : Saying} {slot : Slot}
    (said : level.saying? argument = some saying) (valued : saying.slot? = some slot) :
    ∃ text, argument.toList = '-' :: '-' :: text ∧
      level.longSaying? (splitValue text).1 (splitValue text).2 = some saying := by
  unfold Level.saying? at said
  split at said
  case h_1 => obtain rfl := Option.some.inj said; simp [Saying.slot?] at valued
  case h_2 text _ written => exact ⟨text, written, said⟩
  case h_3 =>
    simp only [Option.bind_eq_bind, Option.bind_eq_some_iff, Option.pure_def,
      Option.some.injEq] at said
    obtain ⟨first, -, more, -, rfl⟩ := said
    simp [Saying.slot?] at valued
  case h_4 => obtain rfl := Option.some.inj said; simp [Saying.slot?] at valued

/-- Only two dashes end switches. -/
theorem Level.eq_of_saying?_ends {argument : String}
    (said : level.saying? argument = some .ends) : argument = "--" := by
  unfold Level.saying? at said
  split at said
  case h_1 written => exact String.toList_injective written
  case h_2 text _ written =>
    simp only [Level.longSaying?] at said
    split at said <;> simp at said
  case h_3 => simp [Option.bind_eq_some_iff] at said
  case h_4 => simp at said

theorem Level.longSaying?_valued {name : String} {value : Option String} {saying : Saying}
    {slot : Slot} (said : level.longSaying? name value = some saying)
    (valued : saying.slot? = some slot) : level.long? name = some (.valued slot) ∧
      (saying = .opens slot → value = none) := by
  unfold Level.longSaying? at said
  split at said
  case h_1 => obtain rfl := Option.some.inj said; simp [Saying.slot?] at valued
  case h_2 found =>
    obtain rfl := Option.some.inj said
    obtain rfl := Option.some.inj valued
    exact ⟨found, fun _ => rfl⟩
  case h_3 found =>
    obtain rfl := Option.some.inj said
    obtain rfl := Option.some.inj valued
    exact ⟨found, by simp⟩
  case h_4 => simp at said

/-- A switch with a value is not one for the template, which has no name. -/
theorem Level.ne_template_of_saying? {argument : String} {saying : Saying} {slot : Slot}
    (said : level.saying? argument = some saying) (valued : saying.slot? = some slot) :
    slot ≠ .template := by
  rintro rfl
  obtain ⟨text, -, said⟩ := Level.saying?_valued said valued
  have named := List.find?_some (Level.longSaying?_valued said valued).1
  simp [Switch.longName?] at named

theorem foldlM_step_singleton {argument : String} {saying : Saying}
    (going : reading.trailing = false) (said : level.saying? argument = some saying) :
    [argument].foldlM (step level) reading = .ok next ↔
      hear level reading argument saying = .ok next := by
  simp only [List.foldlM_cons, List.foldlM_nil, bind_pure, step_eq_ok_iff going, said,
    Option.some.injEq, exists_eq_left']

/-- A part that is taken as it is read leaves nothing to be settled. -/
theorem reads_iff_of_taken {words : List String} {part : Part}
    (taken : ∀ next, words.foldlM (step level) reading = .ok next ↔
      ∃ settled, reading.ComesTo settled ∧ settled.take part = .ok next) :
    (∃ next, words.foldlM (step level) reading = .ok next ∧ next.ComesTo result) ↔
      ∃ settled, reading.ComesTo settled ∧ settled.take part = .ok result := by
  simp only [taken]
  constructor
  · rintro ⟨next, ⟨settled, comes, taken⟩, ends⟩
    rw [← (comes.isSettled.take taken).eq_of_comesTo ends]
    exact ⟨settled, comes, taken⟩
  · rintro ⟨settled, comes, taken⟩
    exact ⟨result, ⟨settled, comes, taken⟩, (comes.isSettled.take taken).comesTo⟩

/-- A word behind a switch without its value is that value. -/
theorem step_expecting {slot : Slot} {word : String} (going : reading.trailing = false)
    (said : level.saying? word = some .word) :
    step level (reading.expecting slot) word = .ok (reading.holding slot word) :=
  have still : (reading.expecting slot).trailing = false := going
  (step_eq_ok_iff still).mpr ⟨.word, said, rfl⟩

/-- **Reading the arguments of a part takes the part**, though perhaps not at once. -/
theorem Spells.read_iff {words : List String} {part : Part} (spells : Spells level words part)
    (ready : reading.Ready) :
    (∃ next, words.foldlM (step level) reading = .ok next ∧ next.ComesTo result) ↔
      ∃ settled, reading.ComesTo settled ∧ settled.take part = .ok result := by
  cases spells with
  | row said =>
    refine reads_iff_of_taken fun next => ?_
    rw [foldlM_step_singleton ready.going said]
    exact row_eq_ok_iff ready
  | @joined argument slot value said =>
    refine reads_iff_of_taken fun next => ?_
    rw [foldlM_step_singleton ready.going said]
    exact hear_gives_iff (Level.ne_template_of_saying? said rfl) ready
  | @apart argument slot value said behind =>
    have other := Level.ne_template_of_saying? said rfl
    simp only [List.foldlM_cons, List.foldlM_nil, bind_pure, bind_eq_ok_iff,
      step_eq_ok_iff ready.going, said, Option.some.injEq, exists_eq_left',
      hear_opens_iff ready,
      take_value other]
    constructor
    · rintro ⟨next, ⟨_, ⟨settled, comes, rfl⟩, rest⟩, ends⟩
      rw [step_expecting comes.isSettled.going behind] at rest
      obtain rfl := Except.ok.inj rest
      exact ⟨settled, comes, comes.isSettled.holding_comesTo_iff.mp ends⟩
    · rintro ⟨settled, comes, stored⟩
      exact ⟨_, ⟨_, ⟨settled, comes, rfl⟩, step_expecting comes.isSettled.going behind⟩,
        comes.isSettled.holding_comesTo_iff.mpr stored⟩
  | @template word place said =>
    simp only [foldlM_step_singleton ready.going said, hear_word ready.calm, takeWord_eq_ok_iff,
      take_template_eq_ok_iff]
    have marked {settled : Reading} (still : settled.Settled) :
        ({ settled with named := true } : Reading).Settled :=
      ⟨⟨still.calm, still.going⟩, still.done⟩
    constructor
    · rintro ⟨_, ⟨-, fresh, settled, settles, rfl⟩, ends⟩
      have comes : reading.ComesTo settled := ⟨ready, settles⟩
      exact ⟨settled, comes, comes.named_eq.trans fresh,
        (marked comes.isSettled).holding_comesTo_iff.mp ends⟩
    · rintro ⟨settled, comes, fresh, stored⟩
      exact ⟨_, ⟨place, comes.named_eq.symm.trans fresh, settled, comes.settles, rfl⟩,
        (marked comes.isSettled).holding_comesTo_iff.mpr stored⟩

/-! ## 4. Reading a whole line -/

/-- **What one argument that is understood leaves**: a part has been read, or a value is to come. -/
theorem step_cases {argument : String} (ready : reading.Ready) (goesOn : argument ≠ "--")
    (stepped : step level reading argument = .ok next) :
    (next.Ready ∧ ∃ part, Spells level [argument] part) ∨
      ∃ (slot : Slot) (settled : Reading), level.saying? argument = some (.opens slot) ∧
        settled.trailing = false ∧ settled.expecting slot = next := by
  obtain ⟨saying, said, heard⟩ := (step_eq_ok_iff ready.going).mp stepped
  cases saying with
  | ends => exact absurd (Level.eq_of_saying?_ends said) goesOn
  | flags first more =>
    obtain ⟨settled, comes, taken⟩ := (row_eq_ok_iff ready).mp heard
    have still := comes.isSettled.take taken
    exact .inl ⟨still.toReady, _, .row said⟩
  | opens slot =>
    obtain ⟨settled, comes, rfl⟩ := (hear_opens_iff ready).mp heard
    exact .inr ⟨slot, settled, said, comes.isSettled.going, rfl⟩
  | gives slot value =>
    have other := Level.ne_template_of_saying? said rfl
    obtain ⟨settled, comes, taken⟩ := (hear_gives_iff other ready).mp heard
    have still := comes.isSettled.take taken
    exact .inl ⟨still.toReady, _, .joined said⟩
  | word =>
    rw [hear_word ready.calm, takeWord_eq_ok_iff] at heard
    obtain ⟨place, -, settled, settles, rfl⟩ := heard
    have comes : reading.ComesTo settled := ⟨ready, settles⟩
    exact .inl ⟨⟨rfl, comes.isSettled.going⟩, _, .template place said⟩

/-- Where a value is to come, only a word is understood. -/
theorem step_expecting_cases {slot : Slot} {argument : String} (going : reading.trailing = false)
    (goesOn : argument ≠ "--")
    (stepped : step level (reading.expecting slot) argument = .ok next) :
    level.saying? argument = some .word ∧ reading.holding slot argument = next := by
  have still : (reading.expecting slot).trailing = false := going
  have missing : settle (reading.expecting slot) = .error .badValue := rfl
  obtain ⟨saying, said, heard⟩ := (step_eq_ok_iff still).mp stepped
  cases saying with
  | ends => exact absurd (Level.eq_of_saying?_ends said) goesOn
  | flags first more =>
    obtain ⟨between, taken, -⟩ := bind_eq_ok_iff.mp heard
    simp [takeFlag_eq_ok_iff, missing] at taken
  | opens slot => simp [hear, missing, bind, Except.bind] at heard
  | gives slot value => simp [hear, missing, bind, Except.bind] at heard
  | word => exact ⟨said, Except.ok.inj heard⟩

/-- Where the parts of a line can be taken, the line can be read. -/
theorem Spelled.reads {arguments : List String} {parts : List Part} {settled : Reading}
    (spelled : Spelled level arguments parts) (comes : reading.ComesTo settled)
    (taken : parts.foldlM take settled = .ok result) :
    ∃ next, arguments.foldlM (step level) reading = .ok next ∧ next.ComesTo result := by
  induction spelled generalizing reading settled with
  | nil => exact ⟨reading, rfl, Except.ok.inj taken ▸ comes⟩
  | cons first _ ih =>
    rw [List.foldlM_cons, bind_eq_ok_iff] at taken
    obtain ⟨middle, taken, rest⟩ := taken
    obtain ⟨between, read, comes⟩ :=
      (first.read_iff comes.toReady).mpr ⟨settled, comes, taken⟩
    obtain ⟨next, behind, ends⟩ := ih comes rest
    exact ⟨next, by rw [List.foldlM_append, read]; exact behind, ends⟩

/-- The first arguments of a line that can be read are a part of it. -/
theorem exists_first_part {argument : String} {arguments : List String}
    (ready : reading.Ready) (goesOn : "--" ∉ argument :: arguments)
    (read : (argument :: arguments).foldlM (step level) reading = .ok next)
    (settles : settle next = .ok result) :
    ∃ word words back part between, argument :: arguments = word :: words ++ back ∧
      Spells level (word :: words) part ∧
      (word :: words).foldlM (step level) reading = .ok between ∧
      between.Ready ∧ back.foldlM (step level) between = .ok next := by
  obtain ⟨notEnds, goesOn⟩ := List.ne_and_not_mem_of_not_mem_cons goesOn
  rw [List.foldlM_cons, bind_eq_ok_iff] at read
  obtain ⟨between, stepped, read⟩ := read
  rcases step_cases ready (Ne.symm notEnds) stepped with
    ⟨stillReady, part, first⟩ | ⟨slot, settled, said, stillGoing, rfl⟩
  · exact ⟨argument, [], arguments, part, between, rfl, first,
      by rw [List.foldlM_cons, stepped]; rfl, stillReady, read⟩
  · cases arguments with
    | nil =>
      obtain rfl := Except.ok.inj read
      simp [Reading.settle, expecting] at settles
    | cons value back =>
      have notEnds := List.ne_of_not_mem_cons goesOn
      rw [List.foldlM_cons, bind_eq_ok_iff] at read
      obtain ⟨_, steppedAgain, read⟩ := read
      obtain ⟨behind, rfl⟩ := step_expecting_cases stillGoing (Ne.symm notEnds) steppedAgain
      refine ⟨argument, [value], back, _, settled.holding slot value, rfl,
        .apart said behind, ?_, ⟨rfl, stillGoing⟩, read⟩
      rw [List.foldlM_cons, stepped]
      change [value].foldlM (step level) (settled.expecting slot) = _
      rw [List.foldlM_cons, steppedAgain]
      rfl

/-- **A line that can be read falls into parts** that can be taken. -/
theorem exists_spelled {arguments : List String} (ready : reading.Ready) (goesOn : "--" ∉ arguments)
    (read : arguments.foldlM (step level) reading = .ok next)
    (settles : settle next = .ok result) :
    ∃ settled parts, reading.ComesTo settled ∧ Spelled level arguments parts ∧
      parts.foldlM take settled = .ok result := by
  induction size : arguments.length using Nat.strongRecOn generalizing arguments reading with
  | ind n ih =>
    cases arguments with
    | nil =>
      obtain rfl := Except.ok.inj read
      exact ⟨result, [], ⟨ready, settles⟩, .nil, rfl⟩
    | cons argument arguments =>
      obtain ⟨word, words, back, part, between, split, first, readFirst, stillReady, readBack⟩ :=
        exists_first_part ready goesOn read settles
      rw [split] at size goesOn ⊢
      have shorter : back.length < n := by
        rw [← size, List.length_append, List.length_cons]
        omega
      have goesOn : "--" ∉ back := fun mem => goesOn (List.mem_append_right _ mem)
      obtain ⟨middle, parts, comes, rest, taken⟩ :=
        ih back.length shorter stillReady goesOn readBack rfl
      obtain ⟨settled, comes, takes⟩ :=
        (first.read_iff ready).mp ⟨between, readFirst, comes⟩
      exact ⟨settled, part :: parts, comes, .cons first rest,
        by rw [List.foldlM_cons, takes]; exact taken⟩

end Parts

end SinglePage.CommandLine
