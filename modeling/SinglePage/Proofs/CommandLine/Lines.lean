/-
# What the parts of a line ask for

The parts of a line go together when none of them asks for help or for the version, no path is
empty, and only assignments are given twice.  Then all of them are taken, and what has been read is
the flags, the paths, the assignments and the template that they give.  The order of the parts only
matters among the assignments.

* `Coherent`: which parts go together;
* `readingOf`: what has been read once they are taken;
* `foldlM_take_empty_iff`: exactly the parts that go together can be taken;
* `settingOf_of_mem`, `settingOf_of_notMem`: the path for a setting is the one that a part gives,
  else the one in the environment;
* `readLine_of_spelled`, `readLine_eq_ok_iff`: a line asks for what its parts ask for;
* `parse_eq_readLine`, `parse_command`: where a line is read, with or without a command's name.
-/
import Mathlib.Data.List.Induction
import Mathlib.Data.List.Nodup
import Mathlib.Data.List.Pairwise
import SinglePage.Proofs.CommandLine.Parts

namespace SinglePage.CommandLine

open Reading

/-! ## 1. Parts that go together -/

namespace Part

/-- The flags of a part. -/
def flags : Part → List Flag
  | .row first more => first :: more
  | .value _ _ => []

/-- The path that a part sets. -/
def setting? : Part → Option (Setting × Path)
  | .value (.setting setting) text => some (setting, ⟨text⟩)
  | _ => none

/-- The assignment that a part gives. -/
def assignment? : Part → Option String
  | .value .assignment text => some text
  | _ => none

/-- The template that a part names. -/
def template? : Part → Option Path
  | .value .template text => some ⟨text⟩
  | _ => none

/-- The switches of a part that may not be given again. -/
def once : Part → List Switch
  | .row first more => (first :: more).map .flag
  | .value .assignment _ => []
  | .value slot _ => [.valued slot]

/-- A part that makes sense by itself: it asks for a run, and a path that it gives is not empty. -/
def Sensible : Part → Prop
  | .row first more => ∀ flag ∈ first :: more, flag ≠ .help ∧ flag ≠ .version
  | .value .assignment _ => True
  | .value _ text => text ≠ ""

end Part

/-- **Parts that go together.** -/
structure Coherent (parts : List Part) : Prop where
  sensible : ∀ part ∈ parts, part.Sensible
  once : (parts.flatMap Part.once).Nodup

/-- **What has been read once some parts are taken.** -/
def readingOf (parts : List Part) : Reading where
  flags := (parts.flatMap Part.flags).reverse
  settings := parts.filterMap Part.setting?
  assignments := parts.filterMap Part.assignment?
  template := parts.findSome? Part.template?
  started := !parts.isEmpty
  named := (parts.findSome? Part.template?).isSome

section Coherence

variable {parts before : List Part} {part : Part}

theorem coherent_concat_iff : Coherent (before ++ [part]) ↔
    Coherent before ∧ part.Sensible ∧ part.once.Nodup ∧
      ∀ switch ∈ part.once, switch ∉ before.flatMap Part.once := by
  have disjoint : (before.flatMap Part.once).Disjoint part.once ↔
      ∀ switch ∈ part.once, switch ∉ before.flatMap Part.once :=
    ⟨fun apart switch inPart given => apart given inPart,
      fun fresh switch given inPart => fresh switch inPart given⟩
  constructor
  · rintro ⟨sensible, once⟩
    rw [List.flatMap_append, List.flatMap_singleton, List.nodup_append'] at once
    obtain ⟨onceBefore, oncePart, apart⟩ := once
    exact ⟨⟨fun other mem => sensible other (List.mem_append_left _ mem), onceBefore⟩,
      sensible part (by simp), oncePart, disjoint.mp apart⟩
  · rintro ⟨⟨sensible, onceBefore⟩, sensiblePart, oncePart, fresh⟩
    refine ⟨fun other mem => ?_, ?_⟩
    · rcases List.mem_append.mp mem with mem | mem
      · exact sensible other mem
      · exact List.mem_singleton.mp mem ▸ sensiblePart
    · rw [List.flatMap_append, List.flatMap_singleton, List.nodup_append']
      exact ⟨onceBefore, oncePart, disjoint.mpr fresh⟩

theorem Coherent.perm {rearranged : List Part} (coherent : Coherent parts)
    (same : rearranged.Perm parts) : Coherent rearranged :=
  ⟨fun part mem => coherent.sensible part (same.subset mem),
    (same.flatMap_right Part.once).nodup_iff.mpr coherent.once⟩

/-- Two parts that go together do not give the same switch. -/
theorem Coherent.eq_of_once {a b : Part} {switch : Switch} (coherent : Coherent parts)
    (memA : a ∈ parts) (memB : b ∈ parts) (inA : switch ∈ a.once) (inB : switch ∈ b.once) :
    a = b := by
  by_contra different
  have apart := (List.nodup_flatMap.mp coherent.once).2
  have : Std.Symm (Function.onFun List.Disjoint Part.once) := ⟨fun _ _ => List.disjoint_symm⟩
  exact apart.forall memA memB different inA inB

theorem mem_flags_readingOf {flag : Flag} :
    flag ∈ (readingOf parts).flags ↔ .flag flag ∈ parts.flatMap Part.once := by
  simp only [readingOf, List.mem_reverse, List.mem_flatMap]
  refine exists_congr fun part => and_congr_right fun _ => ?_
  rcases part with ⟨first, more⟩ | ⟨setting | - | -, text⟩ <;>
    simp [Part.flags, Part.once, eq_comm]

theorem named_readingOf :
    (readingOf parts).named = true ↔ .valued .template ∈ parts.flatMap Part.once := by
  simp only [readingOf, List.findSome?_isSome_iff, List.mem_flatMap]
  refine exists_congr fun part => and_congr_right fun _ => ?_
  rcases part with ⟨first, more⟩ | ⟨setting | - | -, text⟩ <;>
    simp [Part.template?, Part.once]

theorem mem_settings_readingOf {setting : Setting} {path : Path} :
    (setting, path) ∈ (readingOf parts).settings ↔
      .value (.setting setting) path.text ∈ parts := by
  simp only [readingOf, List.mem_filterMap]
  constructor
  · rintro ⟨part, mem, set⟩
    rcases part with ⟨first, more⟩ | ⟨setting | - | -, text⟩ <;> simp [Part.setting?] at set
    obtain ⟨rfl, rfl⟩ := set
    exact mem
  · intro mem
    exact ⟨_, mem, rfl⟩

theorem any_settings_readingOf {setting : Setting} :
    ((readingOf parts).settings.any fun e => e.1 = setting) = true ↔
      .valued (.setting setting) ∈ parts.flatMap Part.once := by
  simp only [List.any_eq_true, Prod.exists, mem_settings_readingOf, List.mem_flatMap]
  constructor
  · rintro ⟨_, path, mem, same⟩
    obtain rfl := of_decide_eq_true same
    exact ⟨_, mem, List.mem_singleton_self _⟩
  · rintro ⟨part, mem, given⟩
    rcases part with ⟨first, more⟩ | ⟨other | - | -, text⟩ <;> simp [Part.once] at given
    exact ⟨setting, ⟨text⟩, given ▸ mem, decide_eq_true rfl⟩

end Coherence

/-! ## 2. Taking the parts -/

section Taking

variable {reading next result : Reading} {parts before : List Part} {part : Part}

theorem readingOf_settled (parts : List Part) : (readingOf parts).Settled := ⟨⟨rfl, rfl⟩, rfl⟩

/-- What has been read once some flags are taken as well. -/
def Reading.flagged (reading : Reading) (flags : List Flag) : Reading :=
  { reading with
    flags := flags.reverse ++ reading.flags, started := reading.started || !flags.isEmpty }

theorem flagged_cons (reading : Reading) (flag : Flag) (flags : List Flag) :
    (reading.flagged [flag]).flagged flags = reading.flagged (flag :: flags) := by
  simp [Reading.flagged]

theorem Reading.Settled.flagged (still : reading.Settled) (flags : List Flag) :
    (reading.flagged flags).Settled := ⟨⟨still.calm, still.going⟩, still.done⟩

theorem Reading.Settled.takeFlag_eq_ok_iff {flag : Flag} (still : reading.Settled) :
    reading.takeFlag flag = .ok next ↔ flag ≠ .help ∧ flag ≠ .version ∧
      flag ∉ reading.flags ∧ reading.flagged [flag] = next := by
  have same : reading.flagged [flag] =
      { reading with flags := flag :: reading.flags, awaiting := false, started := true } := by
    simp [Reading.flagged, still.calm]
  rw [Reading.takeFlag_eq_ok_iff, still.settle, same]
  simp

/-- **Flags can be taken once**, unless they ask for help or for the version. -/
theorem foldlM_takeFlag_eq_ok_iff {flags : List Flag} (still : reading.Settled) :
    flags.foldlM takeFlag reading = .ok next ↔
      (∀ flag ∈ flags, flag ≠ .help ∧ flag ≠ .version) ∧ flags.Nodup ∧
        (∀ flag ∈ flags, flag ∉ reading.flags) ∧ reading.flagged flags = next := by
  induction flags generalizing reading with
  | nil => simp [Reading.flagged, pure, Except.pure]
  | cons flag flags ih =>
    simp only [List.foldlM_cons, bind_eq_ok_iff, still.takeFlag_eq_ok_iff]
    constructor
    · rintro ⟨_, ⟨notHelp, notVersion, fresh, rfl⟩, rest⟩
      rw [ih (still.flagged [flag])] at rest
      obtain ⟨goOn, once, others, rfl⟩ := rest
      have apart : ∀ other ∈ flags, other ≠ flag ∧ other ∉ reading.flags := fun other mem => by
        simpa [Reading.flagged] using others other mem
      refine ⟨List.forall_mem_cons.mpr ⟨⟨notHelp, notVersion⟩, goOn⟩,
        List.nodup_cons.mpr ⟨fun mem => (apart flag mem).1 rfl, once⟩,
        List.forall_mem_cons.mpr ⟨fresh, fun other mem => (apart other mem).2⟩,
        (flagged_cons reading flag flags).symm⟩
    · rintro ⟨goOn, once, fresh, rfl⟩
      obtain ⟨⟨notHelp, notVersion⟩, goOn⟩ := List.forall_mem_cons.mp goOn
      obtain ⟨new, once⟩ := List.nodup_cons.mp once
      obtain ⟨freshFlag, fresh⟩ := List.forall_mem_cons.mp fresh
      refine ⟨_, ⟨notHelp, notVersion, freshFlag, rfl⟩, ?_⟩
      rw [ih (still.flagged [flag])]
      refine ⟨goOn, once, fun other mem => ?_, flagged_cons reading flag flags⟩
      have different : other ≠ flag := fun eq => new (eq ▸ mem)
      simpa [Reading.flagged, different] using fresh other mem

theorem pathOf_eq_ok_iff {text : String} {path : Path} :
    pathOf text = .ok path ↔ text ≠ "" ∧ ⟨text⟩ = path := by
  unfold pathOf
  split <;> simp_all

theorem store_setting_eq_ok_iff {setting : Setting} {text : String} :
    store reading (.setting setting) text = .ok next ↔
      (reading.settings.any fun e => e.1 = setting) = false ∧ text ≠ "" ∧
        { reading with settings := reading.settings ++ [(setting, ⟨text⟩)] } = next := by
  simp only [store]
  split
  case isTrue given => simp [given]
  case isFalse fresh =>
    simp only [bind_eq_ok_iff, pathOf_eq_ok_iff, pure, Except.pure, Except.ok.injEq]
    constructor
    · rintro ⟨path, ⟨given, rfl⟩, eq⟩
      exact ⟨Bool.eq_false_iff.mpr fresh, given, eq⟩
    · rintro ⟨-, given, eq⟩
      exact ⟨_, ⟨given, rfl⟩, eq⟩

theorem store_template_eq_ok_iff {text : String} :
    store reading .template text = .ok next ↔
      text ≠ "" ∧ { reading with template := some ⟨text⟩ } = next := by
  simp only [store, bind_eq_ok_iff, pathOf_eq_ok_iff, pure, Except.pure, Except.ok.injEq]
  constructor
  · rintro ⟨path, ⟨given, rfl⟩, eq⟩
    exact ⟨given, eq⟩
  · rintro ⟨given, eq⟩
    exact ⟨_, ⟨given, rfl⟩, eq⟩

theorem readingOf_concat_row {first : Flag} {more : List Flag} :
    readingOf (before ++ [.row first more]) = (readingOf before).flagged (first :: more) := by
  simp [Reading.flagged, readingOf, Part.flags, Part.setting?, Part.assignment?, Part.template?]

theorem readingOf_concat_setting {setting : Setting} {text : String} :
    readingOf (before ++ [.value (.setting setting) text]) =
      { readingOf before with
        started := true
        settings := (readingOf before).settings ++ [(setting, ⟨text⟩)] } := by
  simp [readingOf, Part.flags, Part.setting?, Part.assignment?, Part.template?]

theorem readingOf_concat_assignment {text : String} :
    readingOf (before ++ [.value .assignment text]) =
      { readingOf before with
        started := true
        assignments := (readingOf before).assignments ++ [text] } := by
  simp [readingOf, Part.flags, Part.setting?, Part.assignment?, Part.template?]

theorem readingOf_concat_template {text : String} (unnamed : (readingOf before).named = false) :
    readingOf (before ++ [.value .template text]) =
      { readingOf before with started := true, named := true, template := some ⟨text⟩ } := by
  have none : before.findSome? Part.template? = none := by simpa [readingOf] using unnamed
  simp [readingOf, none, Part.flags, Part.setting?, Part.assignment?, Part.template?]

/-- **One more part is taken when it goes with those before it.** -/
theorem take_readingOf_iff (coherent : Coherent before) :
    (readingOf before).take part = .ok next ↔
      Coherent (before ++ [part]) ∧ readingOf (before ++ [part]) = next := by
  rw [coherent_concat_iff, and_iff_right coherent]
  rcases part with ⟨first, more⟩ | ⟨setting | - | -, text⟩
  · have injective : Function.Injective Switch.flag := fun _ _ => Switch.flag.inj
    rw [take, foldlM_takeFlag_eq_ok_iff (readingOf_settled before), readingOf_concat_row]
    simp only [mem_flags_readingOf, Part.Sensible, Part.once, List.forall_mem_map,
      List.nodup_map_iff injective, and_assoc]
  · have fresh : ((readingOf before).settings.any fun e => e.1 = setting) = false ↔
        .valued (.setting setting) ∉ before.flatMap Part.once := by
      rw [← any_settings_readingOf, Bool.not_eq_true]
    rw [take_value (by simp), store_setting_eq_ok_iff, fresh, readingOf_concat_setting]
    simp only [Part.Sensible, Part.once, List.nodup_singleton, List.forall_mem_singleton]
    tauto
  · rw [take_value (by simp), store, readingOf_concat_assignment]
    simp [Part.Sensible, Part.once]
  · have fresh : (readingOf before).named = false ↔
        .valued .template ∉ before.flatMap Part.once := by
      rw [← named_readingOf, Bool.not_eq_true]
    rw [take_template_eq_ok_iff, store_template_eq_ok_iff]
    simp only [Part.Sensible, Part.once, List.nodup_singleton, List.forall_mem_singleton]
    constructor
    · rintro ⟨unnamed, given, rfl⟩
      exact ⟨⟨given, trivial, fresh.mp unnamed⟩, readingOf_concat_template unnamed⟩
    · rintro ⟨⟨given, -, new⟩, rfl⟩
      exact ⟨fresh.mpr new, given, (readingOf_concat_template (fresh.mpr new)).symm⟩

/-- **Exactly the parts that go together can be taken.** -/
theorem foldlM_take_empty_iff :
    parts.foldlM take .empty = .ok result ↔ Coherent parts ∧ readingOf parts = result := by
  induction parts using List.reverseRecOn generalizing result with
  | nil =>
    have coherent : Coherent [] := ⟨by simp, by simp⟩
    exact ⟨fun taken => ⟨coherent, Except.ok.inj taken⟩, fun same => congrArg Except.ok same.2⟩
  | append_singleton before part ih =>
    rw [List.foldlM_append, bind_eq_ok_iff]
    simp only [ih, List.foldlM_cons, List.foldlM_nil, bind_pure]
    constructor
    · rintro ⟨_, ⟨coherent, rfl⟩, taken⟩
      exact (take_readingOf_iff coherent).mp taken
    · intro whole
      have coherent := (coherent_concat_iff.mp whole.1).1
      exact ⟨_, ⟨coherent, rfl⟩, (take_readingOf_iff coherent).mpr whole⟩

end Taking

/-! ## 3. What a line asks for -/

/-- Reads what stands at a place on the line, to its end. -/
def readLine (level : Level) (environment : Environment) (arguments : List String) :
    Except UsageError Invocation := do
  let reading ← arguments.foldlM (step level) .empty
  finish level environment reading

/-- The place on the line behind the name of a command; `help` is no such name. -/
def CommandWord.level? : CommandWord → Option Level
  | .build => some .build
  | .render => some .render
  | .filters => some .filters
  | .help => none

section Lines

variable {level : Level} {environment : Environment} {arguments : List String}
  {parts : List Part} {invocation : Invocation}

theorem Reading.ComesTo.finish_eq {reading settled : Reading} (comes : reading.ComesTo settled) :
    finish level environment reading = finish level environment settled := by
  unfold finish
  rw [comes.settles, comes.isSettled.settle]

/-- **A line of parts that go together asks for what they ask for.** -/
theorem readLine_of_spelled (spelled : Spelled level arguments parts)
    (coherent : Coherent parts) :
    readLine level environment arguments = finish level environment (readingOf parts) := by
  have still : Reading.empty.Settled := readingOf_settled []
  obtain ⟨next, read, comes⟩ :=
    spelled.reads still.comesTo (foldlM_take_empty_iff.mpr ⟨coherent, rfl⟩)
  rw [← comes.finish_eq, readLine, read]
  rfl

/-- **Only a line of parts that go together makes sense**, as long as it does not end switches. -/
theorem readLine_eq_ok_iff (goesOn : "--" ∉ arguments) :
    readLine level environment arguments = .ok invocation ↔
      ∃ parts, Spelled level arguments parts ∧ Coherent parts ∧
        finish level environment (readingOf parts) = .ok invocation := by
  constructor
  · intro makesSense
    obtain ⟨next, read, finished⟩ := bind_eq_ok_iff.mp makesSense
    obtain ⟨result, settles, -⟩ := bind_eq_ok_iff.mp finished
    have still : Reading.empty.Settled := readingOf_settled []
    obtain ⟨settled, parts, comes, spelled, taken⟩ :=
      exists_spelled still.toReady goesOn read settles
    obtain rfl := still.eq_of_comesTo comes
    have coherent := (foldlM_take_empty_iff.mp taken).1
    exact ⟨parts, spelled, coherent, readLine_of_spelled spelled coherent ▸ makesSense⟩
  · rintro ⟨parts, spelled, coherent, asks⟩
    exact (readLine_of_spelled spelled coherent).trans asks

/-- What parts ask for is a command and whether to say more. -/
theorem finish_readingOf_eq_ok_iff :
    finish level environment (readingOf parts) = .ok invocation ↔
      commandOf level environment (readingOf parts) = .ok invocation.command ∧
        (invocation.verbose = true ↔ .flag .verbose ∈ parts.flatMap Part.once) := by
  obtain ⟨command, verbose⟩ := invocation
  simp only [finish, bind_eq_ok_iff, (readingOf_settled parts).settle, Except.ok.injEq,
    exists_eq_left', pure, Except.pure, Invocation.mk.injEq, ← mem_flags_readingOf]
  constructor
  · rintro ⟨_, asks, rfl, rfl⟩
    exact ⟨asks, decide_eq_true_iff⟩
  · rintro ⟨asks, said⟩
    exact ⟨command, asks, rfl, Bool.eq_iff_iff.mpr (decide_eq_true_iff.trans said.symm)⟩

/-- A path that a part gives is the one for its setting. -/
theorem settingOf_of_mem {setting : Setting} {text : String} (coherent : Coherent parts)
    (mem : .value (.setting setting) text ∈ parts) :
    settingOf environment (readingOf parts) setting = .ok (some ⟨text⟩) := by
  unfold settingOf
  cases found : (readingOf parts).settings.find? fun e => e.1 = setting with
  | none =>
    rw [List.find?_eq_none] at found
    have given := found (setting, ⟨text⟩) (mem_settings_readingOf.mpr mem)
    simp at given
  | some entry =>
    obtain ⟨other, path⟩ := entry
    obtain rfl : other = setting := by simpa using List.find?_some found
    have set := mem_settings_readingOf.mp (List.mem_of_find?_eq_some found)
    have same := coherent.eq_of_once set mem (List.mem_singleton_self _)
      (List.mem_singleton_self _)
    obtain rfl : path.text = text := (Part.value.inj same).2
    rfl

/-- A path that no part gives is looked for in the environment. -/
theorem settingOf_of_notMem {setting : Setting}
    (absent : ∀ text, .value (.setting setting) text ∉ parts) :
    settingOf environment (readingOf parts) setting = environment.path? setting := by
  unfold settingOf
  cases found : (readingOf parts).settings.find? fun e => e.1 = setting with
  | none => rfl
  | some entry =>
    obtain ⟨other, path⟩ := entry
    obtain rfl : other = setting := by simpa using List.find?_some found
    exact absurd (mem_settings_readingOf.mp (List.mem_of_find?_eq_some found)) (absent _)

/-! ## 4. The name of a command -/

theorem started_of_takeFlags {flags : List Flag} {reading next : Reading}
    (taken : flags.foldlM takeFlag reading = .ok next)
    (started : flags = [] → reading.started = true) : next.started = true := by
  induction flags generalizing reading with
  | nil => exact Except.ok.inj taken ▸ started rfl
  | cons flag flags ih =>
    rw [List.foldlM_cons, bind_eq_ok_iff] at taken
    obtain ⟨_, first, rest⟩ := taken
    obtain ⟨settled, -, -, -, -, rfl⟩ := takeFlag_eq_ok_iff.mp first
    exact ih rest fun _ => rfl

/-- A step that succeeds has understood an argument or has ended switches. -/
theorem started_of_step {reading next : Reading} {argument : String}
    (await : reading.awaiting = true → reading.trailing = true ∨ reading.started = true)
    (stepped : step level reading argument = .ok next) :
    next.trailing = true ∨ next.started = true := by
  have ofWord (taken : takeWord level reading argument = .ok next) : next.started = true := by
    obtain ⟨-, -, settled, -, rfl⟩ := takeWord_eq_ok_iff.mp taken
    rfl
  by_cases trailing : reading.trailing = true
  · rw [step, if_pos trailing] at stepped
    exact .inr (ofWord stepped)
  · obtain ⟨saying, -, heard⟩ := (step_eq_ok_iff (by simpa using trailing)).mp stepped
    cases saying with
    | ends => exact .inl (Except.ok.inj heard ▸ rfl)
    | flags first more => exact .inr (started_of_takeFlags heard (by simp))
    | opens slot =>
      obtain ⟨settled, -, made⟩ := bind_eq_ok_iff.mp heard
      exact .inr (Except.ok.inj made ▸ rfl)
    | gives slot value =>
      obtain ⟨settled, -, stored⟩ := bind_eq_ok_iff.mp heard
      obtain ⟨-, -, -, -, started, -⟩ := store_frame stored
      exact .inr started
    | word =>
      simp only [hear] at heard
      split at heard
      case h_1 awaiting _ =>
        obtain rfl := Except.ok.inj heard
        exact await awaiting
      case h_2 => exact .inr (ofWord heard)

/-- Once an argument has been understood, no word is the name of a command. -/
theorem parseFrom_eq {reading : Reading}
    (entered : reading.trailing = true ∨ reading.started = true) :
    parseFrom environment reading arguments =
      arguments.foldlM (step .top) reading >>= finish .top environment := by
  induction arguments generalizing reading with
  | nil => rfl
  | cons argument arguments ih =>
    have inside : (reading.trailing || reading.awaiting || reading.started) = true := by
      rcases entered with trailing | started
      · simp [trailing]
      · simp [started]
    rw [parseFrom, if_pos inside, List.foldlM_cons]
    cases stepped : step .top reading argument with
    | error e => rfl
    | ok next => exact ih (started_of_step (fun _ => entered) stepped)

/-- The first argument is the name of a command, or it is read at the top. -/
theorem parse_cons {name : String} :
    parse environment (name :: arguments) =
      match CommandWord.ofText? name with
      | some .build => parseCommand .build environment arguments
      | some .render => parseCommand .render environment arguments
      | some .filters => parseCommand .filters environment arguments
      | some .help => parseHelp arguments
      | none => step .top .empty name >>= (parseFrom environment · arguments) := by
  have outside : ¬ (Reading.empty.trailing || Reading.empty.awaiting ||
      Reading.empty.started) = true := by decide
  rw [parse, parseFrom]
  exact if_neg outside

/-- **Without the name of a command in front, all of the line is read at the top.** -/
theorem parse_eq_readLine (unnamed : ∀ name ∈ arguments.head?, CommandWord.ofText? name = none) :
    parse environment arguments = readLine .top environment arguments := by
  cases arguments with
  | nil => rfl
  | cons argument arguments =>
    rw [parse_cons, unnamed argument rfl, readLine, List.foldlM_cons]
    cases stepped : step .top .empty argument with
    | error e => rfl
    | ok next => exact parseFrom_eq (started_of_step (by decide) stepped)

/-- The name of a command says nothing about switches. -/
theorem ofText?_of_saying {name : String} {saying : Saying}
    (said : level.saying? name = some saying) (switch : saying ≠ .word) :
    CommandWord.ofText? name = none := by
  by_contra named
  unfold CommandWord.ofText? at named
  split_ifs at named with build render filters help
  · exact switch (Option.some.inj ((build ▸ said).symm.trans rfl))
  · exact switch (Option.some.inj ((render ▸ said).symm.trans rfl))
  · exact switch (Option.some.inj ((filters ▸ said).symm.trans rfl))
  · exact switch (Option.some.inj ((help ▸ said).symm.trans rfl))
  · exact named rfl

theorem Spelled.unnamed (spelled : Spelled .top arguments parts) :
    ∀ name ∈ arguments.head?, CommandWord.ofText? name = none := by
  intro name first
  cases spelled with
  | nil => simp at first
  | cons spells _ =>
    cases spells with
    | row said => exact Option.some.inj first ▸ ofText?_of_saying said (by simp)
    | joined said => exact Option.some.inj first ▸ ofText?_of_saying said (by simp)
    | apart said _ => exact Option.some.inj first ▸ ofText?_of_saying said (by simp)
    | template place => cases place

/-- **A line of parts of the top asks for what they ask for.** -/
theorem parse_of_spelled (spelled : Spelled .top arguments parts) (coherent : Coherent parts) :
    parse environment arguments = finish .top environment (readingOf parts) :=
  (parse_eq_readLine spelled.unnamed).trans (readLine_of_spelled spelled coherent)

/-- **The name of a command in front decides where the rest of the line is read.** -/
theorem parse_command {name : String} {word : CommandWord}
    (named : CommandWord.ofText? name = some word) (place : word.level? = some level) :
    parse environment (name :: arguments) = parseCommand level environment arguments := by
  rw [parse_cons, named]
  cases word with
  | help => simp [CommandWord.level?] at place
  | build | render | filters => obtain rfl := Option.some.inj place; rfl

/-- Asking for help is not asking for a run. -/
theorem parseHelp_ne_ok (arguments : List String) : parseHelp arguments ≠ .ok invocation := by
  unfold parseHelp
  split
  · simp
  · split <;> simp
  · simp

/-- A line that makes sense is read at the top, or has the name of a command in front. -/
theorem parse_cases (parsed : parse environment arguments = .ok invocation) :
    ((∀ name ∈ arguments.head?, CommandWord.ofText? name = none) ∧
        readLine .top environment arguments = .ok invocation) ∨
      ∃ name word level rest, arguments = name :: rest ∧
        CommandWord.ofText? name = some word ∧ word.level? = some level ∧
        parseCommand level environment rest = .ok invocation := by
  by_cases unnamed : ∀ name ∈ arguments.head?, CommandWord.ofText? name = none
  · exact .inl ⟨unnamed, parse_eq_readLine unnamed ▸ parsed⟩
  · right
    push Not at unnamed
    obtain ⟨name, first, named⟩ := unnamed
    obtain ⟨rest, rfl⟩ : ∃ rest, arguments = name :: rest := List.head?_eq_some_iff.mp first
    obtain ⟨word, named⟩ := Option.ne_none_iff_exists'.mp named
    cases place : word.level? with
    | some level =>
      exact ⟨name, word, level, rest, rfl, named, place, parse_command named place ▸ parsed⟩
    | none =>
      have help : word = .help := by cases word <;> simp [CommandWord.level?] at place ⊢
      rw [parse_cons, named, help] at parsed
      exact absurd parsed (parseHelp_ne_ok rest)

/-- Behind the name of a command the environment must make sense for a build in any case. -/
theorem parseCommand_eq_ok_iff :
    parseCommand level environment arguments = .ok invocation ↔
      readLine level environment arguments = .ok invocation ∧
        ∃ options, optionsOf environment .empty = .ok options := by
  have whole : parseCommand level environment arguments = (do
      let invocation ← readLine level environment arguments
      let _ ← optionsOf environment .empty
      return invocation) := by
    rw [parseCommand, readLine, bind_assoc]
  rw [whole]
  simp only [bind_eq_ok_iff, pure, Except.pure, Except.ok.injEq]
  constructor
  · rintro ⟨_, makesSense, options, usual, rfl⟩
    exact ⟨makesSense, options, usual⟩
  · rintro ⟨makesSense, options, usual⟩
    exact ⟨invocation, makesSense, options, usual, rfl⟩

end Lines

end SinglePage.CommandLine
