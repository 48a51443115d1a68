/-
# Two ways to ask for a build

A build is asked for by its name, or by saying nothing else: its switches are known behind the word
`build` and at the top of the line.  With the same arguments both ways ask for the same build, and
the order of the arguments does not matter.  Each path is the one on the line, else the one in the
environment, else the usual one, whatever the values look like.

* `BuildArgument`: the arguments of a build, in all the ways in which they can be written;
* `BuildArgument.spells`: an argument is the same part of the line in both places;
* `optionsOf_parts`: the options that arguments ask for;
* `build_forms_agree`: both ways ask for the same build, and its runs are the same.
-/
import SinglePage.CommandLine.Run
import SinglePage.Log.Directive
import SinglePage.Proofs.CommandLine.Lines

namespace SinglePage.CommandLine

open Reading

/-! ## 1. The arguments of a build -/

/-- The switch of a setting, as it is written. -/
def Setting.written : Setting → String
  | .posts => "--posts"
  | .out => "--out"
  | .templates => "--templates"

/-- **An argument of a build.**  A value stands behind its switch or is joined to it by `=`, and
the other switches have a long name and a short one. -/
inductive BuildArgument where
  | apart (setting : Setting) (value : String)
  | joined (setting : Setting) (value : String)
  | recursive (long : Bool)
  | verbose (long : Bool)
  deriving DecidableEq

namespace BuildArgument

/-- How an argument is written. -/
def words : BuildArgument → List String
  | .apart setting value => [setting.written, value]
  | .joined setting value => [setting.written ++ "=" ++ value]
  | .recursive long => [if long then "--recursive" else "-r"]
  | .verbose long => [if long then "--verbose" else "-v"]

/-- The switch of an argument. -/
def switch : BuildArgument → Switch
  | .apart setting _ => .valued (.setting setting)
  | .joined setting _ => .valued (.setting setting)
  | .recursive _ => .flag .recursive
  | .verbose _ => .flag .verbose

/-- The value of an argument for a setting. -/
def value? (setting : Setting) : BuildArgument → Option String
  | .apart other value => if other = setting then some value else none
  | .joined other value => if other = setting then some value else none
  | _ => none

/-- No value is empty, and a value that stands by itself does not look like a switch. -/
def WellWritten : BuildArgument → Prop
  | .apart _ value => value ≠ "" ∧ value.toList.head? ≠ some '-'
  | .joined _ value => value ≠ ""
  | _ => True

/-- The part of a line that an argument is. -/
def part : BuildArgument → Part
  | .apart setting value => .value (.setting setting) value
  | .joined setting value => .value (.setting setting) value
  | .recursive _ => .row .recursive []
  | .verbose _ => .row .verbose []

end BuildArgument

/-- The arguments of a line. -/
def lineOf (arguments : List BuildArgument) : List String :=
  arguments.flatMap BuildArgument.words

/-- The path for a setting: the one on the line, else the one in the environment. -/
def chosenPath (environment : Environment) (arguments : List BuildArgument) (setting : Setting) :
    Option Path :=
  ((arguments.findSome? (BuildArgument.value? setting)).or
    (SortedMap.get? environment setting.variable)).map Path.mk

/-- **The build that arguments ask for** in an environment. -/
def buildOf (environment : Environment) (arguments : List BuildArgument) : Site.Options where
  posts := (chosenPath environment arguments .posts).getD ⟨"posts"⟩
  out := (chosenPath environment arguments .out).getD ⟨"_site"⟩
  templates := chosenPath environment arguments .templates
  recursive := decide (.flag .recursive ∈ arguments.map BuildArgument.switch)

/-- Whether arguments ask to say more. -/
def asksVerbose (arguments : List BuildArgument) : Bool :=
  decide (.flag .verbose ∈ arguments.map BuildArgument.switch)

/-- **A whole run of the program** on a tree of files: how it ends, the lines of its log that are
shown, and the files that it leaves. -/
def runLine (tag : String) (environment : Environment) (arguments : List String)
    (tree : FileTree) : Except UsageError (Outcome × List String × FileTree) := do
  let invocation ← parse environment arguments
  let shown := LogSelection.of (SortedMap.get? environment "RUST_LOG") invocation.verbose
  let (outcome, world) := (run tag invocation.command : StateM World Outcome).run ⟨tree, []⟩
  return (outcome, shownLines shown world.log, world.tree)

/-! ## 2. The parts that they are -/

section Parts

variable {level : Level} {arguments : List BuildArgument}

theorem splitValue_joined {name value : List Char} (bare : '=' ∉ name) :
    splitValue (name ++ '=' :: value) = (String.ofList name, some (String.ofList value)) := by
  have all : ∀ c ∈ name, decide (c ≠ '=') = true := fun c mem => by
    simpa using fun eq : c = '=' => bare (eq ▸ mem)
  unfold splitValue
  rw [List.takeWhile_append_of_pos all, List.dropWhile_append_of_pos all]
  simp

/-- The switch of a setting is its long name behind two dashes. -/
theorem exists_longName (place : level = .top ∨ level = .build) (setting : Setting) :
    ∃ c name, setting.written.toList = '-' :: '-' :: c :: name ∧ '=' ∉ c :: name ∧
      level.long? (String.ofList (c :: name)) = some (.valued (.setting setting)) := by
  rcases place with rfl | rfl <;> cases setting <;>
    exact ⟨_, _, rfl, by decide, by decide⟩

theorem saying?_written (place : level = .top ∨ level = .build) (setting : Setting) :
    level.saying? setting.written = some (.opens (.setting setting)) := by
  rcases place with rfl | rfl <;> cases setting <;> rfl

theorem saying?_joined (place : level = .top ∨ level = .build) (setting : Setting)
    (value : String) :
    level.saying? (setting.written ++ "=" ++ value) = some (.gives (.setting setting) value) := by
  obtain ⟨c, name, written, bare, known⟩ := exists_longName place setting
  have whole : (setting.written ++ "=" ++ value).toList =
      '-' :: '-' :: (c :: name ++ '=' :: value.toList) := by
    rw [String.toList_append, String.toList_append, written]
    simp
  have split : splitValue (c :: name ++ '=' :: value.toList) = _ := splitValue_joined bare
  unfold Level.saying?
  rw [whole]
  simp only [List.cons_append] at split ⊢
  rw [split]
  simp only [Level.longSaying?, known, String.ofList_toList]

/-- What does not begin with a dash is a word. -/
theorem saying?_word {word : String} (undashed : word.toList.head? ≠ some '-') :
    level.saying? word = some .word := by
  unfold Level.saying?
  split <;> simp_all

/-- **An argument of a build is a part of the line**, and the same one in both places. -/
theorem BuildArgument.spells {argument : BuildArgument}
    (place : level = .top ∨ level = .build) (written : argument.WellWritten) :
    Spells level argument.words argument.part := by
  cases argument with
  | apart setting value =>
    exact .apart (saying?_written place setting) (saying?_word written.2)
  | joined setting value => exact .joined (saying?_joined place setting value)
  | recursive long => exact .row (by rcases place with rfl | rfl <;> cases long <;> rfl)
  | verbose long => exact .row (by rcases place with rfl | rfl <;> cases long <;> rfl)

theorem spelled_lineOf (place : level = .top ∨ level = .build)
    (written : ∀ argument ∈ arguments, argument.WellWritten) :
    Spelled level (lineOf arguments) (arguments.map BuildArgument.part) := by
  induction arguments with
  | nil => exact .nil
  | cons argument arguments ih =>
    obtain ⟨first, rest⟩ := List.forall_mem_cons.mp written
    exact .cons (argument.spells place first) (ih rest)

theorem flatMap_once_part (arguments : List BuildArgument) :
    (arguments.map BuildArgument.part).flatMap Part.once =
      arguments.map BuildArgument.switch := by
  rw [List.flatMap_map, List.map_eq_flatMap]
  congr 1
  funext argument
  cases argument <;> rfl

/-- **Arguments that are given once go together.** -/
theorem coherent_parts (written : ∀ argument ∈ arguments, argument.WellWritten)
    (once : (arguments.map BuildArgument.switch).Nodup) :
    Coherent (arguments.map BuildArgument.part) := by
  refine ⟨List.forall_mem_map.mpr fun argument mem => ?_, flatMap_once_part arguments ▸ once⟩
  have written := written argument mem
  cases argument with
  | apart setting value => exact written.1
  | joined setting value => exact written
  | recursive long => simp [BuildArgument.part, Part.Sensible]
  | verbose long => simp [BuildArgument.part, Part.Sensible]

end Parts

/-! ## 3. The build that they ask for -/

section Options

variable {environment : Environment} {arguments rearranged : List BuildArgument}
  {setting : Setting}

theorem value?_eq_some_iff {argument : BuildArgument} {value : String} :
    argument.value? setting = some value ↔
      argument.part = .value (.setting setting) value := by
  cases argument <;> simp [BuildArgument.value?, BuildArgument.part]

theorem switch_of_value? {argument : BuildArgument} {value : String}
    (gives : argument.value? setting = some value) :
    argument.switch = .valued (.setting setting) := by
  cases argument <;> simp_all [BuildArgument.value?, BuildArgument.switch]

/-- The value for a setting is the one that some argument gives. -/
theorem findSome?_value_of_mem {argument : BuildArgument} {value : String}
    (once : (arguments.map BuildArgument.switch).Nodup) (mem : argument ∈ arguments)
    (gives : argument.value? setting = some value) :
    arguments.findSome? (BuildArgument.value? setting) = some value := by
  have same {a b : BuildArgument} {v w : String} (givesA : a.value? setting = some v)
      (givesB : b.value? setting = some w) : a.switch = b.switch :=
    (switch_of_value? givesA).trans (switch_of_value? givesB).symm
  cases found : arguments.findSome? (BuildArgument.value? setting) with
  | none => exact absurd (List.findSome?_eq_none_iff.mp found argument mem) (by simp [gives])
  | some other =>
    obtain ⟨another, memOther, givesOther⟩ := List.exists_of_findSome?_eq_some found
    obtain rfl := List.inj_on_of_nodup_map once mem memOther (same gives givesOther)
    exact givesOther.symm.trans gives

theorem path?_of_ne_empty (notEmpty : SortedMap.get? environment setting.variable ≠ some "") :
    environment.path? setting =
      .ok ((SortedMap.get? environment setting.variable).map Path.mk) := by
  unfold Environment.path?
  split
  case h_1 none => rw [none]; rfl
  case h_2 empty => exact absurd empty notEmpty
  case h_3 text _ found => rw [found]; rfl

/-- **The path for a setting** is the one on the line, else the one in the environment. -/
theorem settingOf_parts (notEmpty : SortedMap.get? environment setting.variable ≠ some "")
    (coherent : Coherent (arguments.map BuildArgument.part)) :
    settingOf environment (readingOf (arguments.map BuildArgument.part)) setting =
      .ok (chosenPath environment arguments setting) := by
  unfold chosenPath
  cases given : arguments.findSome? (BuildArgument.value? setting) with
  | none =>
    rw [settingOf_of_notMem, path?_of_ne_empty notEmpty, Option.none_or]
    intro text mem
    obtain ⟨argument, mem, part⟩ := List.mem_map.mp mem
    have absent := List.findSome?_eq_none_iff.mp given argument mem
    rw [value?_eq_some_iff.mpr part] at absent
    simp at absent
  | some value =>
    obtain ⟨argument, mem, gives⟩ := List.exists_of_findSome?_eq_some given
    exact settingOf_of_mem coherent
      (List.mem_map.mpr ⟨argument, mem, value?_eq_some_iff.mp gives⟩)

theorem mem_flags_parts (flag : Flag) :
    flag ∈ (readingOf (arguments.map BuildArgument.part)).flags ↔
      .flag flag ∈ arguments.map BuildArgument.switch := by
  rw [← flatMap_once_part]
  exact mem_flags_readingOf

/-- **The options that arguments ask for.** -/
theorem optionsOf_parts
    (noneEmpty : ∀ setting, SortedMap.get? environment (Setting.variable setting) ≠ some "")
    (coherent : Coherent (arguments.map BuildArgument.part)) :
    optionsOf environment (readingOf (arguments.map BuildArgument.part)) =
      .ok (buildOf environment arguments) := by
  simp only [optionsOf, settingOf_parts (noneEmpty _) coherent, mem_flags_parts]
  rfl

theorem mem_map_switch_of_perm (same : rearranged.Perm arguments) (switch : Switch) :
    switch ∈ rearranged.map BuildArgument.switch ↔
      switch ∈ arguments.map BuildArgument.switch :=
  (same.map BuildArgument.switch).mem_iff

theorem findSome?_value_of_perm (once : (arguments.map BuildArgument.switch).Nodup)
    (same : rearranged.Perm arguments) :
    rearranged.findSome? (BuildArgument.value? setting) =
      arguments.findSome? (BuildArgument.value? setting) := by
  cases given : rearranged.findSome? (BuildArgument.value? setting) with
  | none =>
    symm
    rw [List.findSome?_eq_none_iff] at given ⊢
    exact fun argument mem => given argument (same.symm.subset mem)
  | some value =>
    obtain ⟨argument, mem, gives⟩ := List.exists_of_findSome?_eq_some given
    exact (findSome?_value_of_mem once (same.subset mem) gives).symm

/-- **The order of the arguments does not matter.** -/
theorem buildOf_perm (environment : Environment)
    (once : (arguments.map BuildArgument.switch).Nodup)
    (same : rearranged.Perm arguments) :
    buildOf environment rearranged = buildOf environment arguments ∧
      asksVerbose rearranged = asksVerbose arguments := by
  simp only [buildOf, chosenPath, asksVerbose, findSome?_value_of_perm once same,
    mem_map_switch_of_perm same, and_self]

/-- **At the top of a line the arguments ask for the build.** -/
theorem parse_lineOf
    (noneEmpty : ∀ setting, SortedMap.get? environment (Setting.variable setting) ≠ some "")
    (written : ∀ argument ∈ arguments, argument.WellWritten)
    (once : (arguments.map BuildArgument.switch).Nodup) :
    parse environment (lineOf arguments) =
      .ok ⟨.implicit (buildOf environment arguments), asksVerbose arguments⟩ := by
  have coherent := coherent_parts written once
  rw [parse_of_spelled (spelled_lineOf (.inl rfl) written) coherent,
    finish_readingOf_eq_ok_iff, flatMap_once_part]
  refine ⟨?_, decide_eq_true_iff⟩
  rw [commandOf, optionsOf_parts noneEmpty coherent]
  rfl

/-- **Behind its name they ask for the same build.** -/
theorem parse_build_lineOf
    (noneEmpty : ∀ setting, SortedMap.get? environment (Setting.variable setting) ≠ some "")
    (written : ∀ argument ∈ arguments, argument.WellWritten)
    (once : (arguments.map BuildArgument.switch).Nodup) :
    parse environment ("build" :: lineOf arguments) =
      .ok ⟨.build (buildOf environment arguments), asksVerbose arguments⟩ := by
  have coherent := coherent_parts written once
  have usual : optionsOf environment (readingOf ([].map BuildArgument.part)) =
      .ok (buildOf environment []) := optionsOf_parts noneEmpty ⟨by simp, List.nodup_nil⟩
  have named : CommandWord.ofText? "build" = some .build := rfl
  rw [parse_command named rfl, parseCommand_eq_ok_iff,
    readLine_of_spelled (spelled_lineOf (.inr rfl) written) coherent,
    finish_readingOf_eq_ok_iff, flatMap_once_part]
  refine ⟨⟨?_, decide_eq_true_iff⟩, _, usual⟩
  rw [commandOf, optionsOf_parts noneEmpty coherent]
  rfl

end Options

/-! ## 4. The same build and the same run -/

/-- A run does not depend on how the build was asked for. -/
theorem runLine_eq_of_parse {environment : Environment} {implicit build : List String}
    {options : Site.Options} {verbose : Bool}
    (first : parse environment implicit = .ok ⟨.implicit options, verbose⟩)
    (second : parse environment build = .ok ⟨.build options, verbose⟩)
    (tag : String) (tree : FileTree) :
    ∃ left, runLine tag environment implicit tree = .ok left ∧
      runLine tag environment build tree = .ok left := by
  unfold runLine
  rw [first, second]
  exact ⟨_, rfl, rfl⟩

/-- **Both ways ask for the same build.**  Each switch is given at most once, in one of the ways in
which it can be written, and no variable of the environment is empty.  Then both lines make sense
and ask for the build with the paths of the line, of the environment, or the usual ones, in that
order of preference; the order of the arguments does not matter; and on the same files both runs
print the same, end with the same exit code and leave the same files. -/
theorem build_forms_agree {environment : Environment} {arguments : List BuildArgument}
    (noneEmpty : ∀ setting, SortedMap.get? environment (Setting.variable setting) ≠ some "")
    (written : ∀ argument ∈ arguments, argument.WellWritten)
    (once : (arguments.map BuildArgument.switch).Nodup) :
    parse environment (lineOf arguments) =
        .ok ⟨.implicit (buildOf environment arguments), asksVerbose arguments⟩ ∧
      parse environment ("build" :: lineOf arguments) =
        .ok ⟨.build (buildOf environment arguments), asksVerbose arguments⟩ ∧
      (∀ rearranged : List BuildArgument, rearranged.Perm arguments →
        parse environment (lineOf rearranged) = parse environment (lineOf arguments) ∧
        parse environment ("build" :: lineOf rearranged) =
          parse environment ("build" :: lineOf arguments)) ∧
      ∀ (tag : String) (tree : FileTree),
        ∃ left, runLine tag environment (lineOf arguments) tree = .ok left ∧
          runLine tag environment ("build" :: lineOf arguments) tree = .ok left := by
  have implicit := parse_lineOf noneEmpty written once
  have build := parse_build_lineOf noneEmpty written once
  refine ⟨implicit, build, fun rearranged same => ?_, runLine_eq_of_parse implicit build⟩
  have writtenToo : ∀ argument ∈ rearranged, argument.WellWritten :=
    fun argument mem => written argument (same.subset mem)
  have onceToo : (rearranged.map BuildArgument.switch).Nodup :=
    (same.map BuildArgument.switch).nodup_iff.mpr once
  obtain ⟨sameBuild, sameVerbose⟩ := buildOf_perm environment once same
  constructor
  · rw [implicit, parse_lineOf noneEmpty writtenToo onceToo, sameBuild, sameVerbose]
  · rw [build, parse_build_lineOf noneEmpty writtenToo onceToo, sameBuild, sameVerbose]

/-- Values that look like names of commands or like switches, and paths from the environment. -/
theorem build_forms_agree_named :
    parse (.ofList [("POSTPAGE_POSTS", "in"), ("POSTPAGE_TEMPLATES", "render")])
          ["--posts", "build", "-v", "--out=-o"] =
        .ok ⟨.implicit ⟨⟨"build"⟩, ⟨"-o"⟩, some ⟨"render"⟩, false⟩, true⟩ ∧
      parse (.ofList [("POSTPAGE_POSTS", "in"), ("POSTPAGE_TEMPLATES", "render")])
          ["build", "--posts", "build", "-v", "--out=-o"] =
        .ok ⟨.build ⟨⟨"build"⟩, ⟨"-o"⟩, some ⟨"render"⟩, false⟩, true⟩ := by
  have noneEmpty : ∀ setting, SortedMap.get?
      (.ofList [("POSTPAGE_POSTS", "in"), ("POSTPAGE_TEMPLATES", "render")])
      (Setting.variable setting) ≠ some "" := by
    intro setting
    cases setting <;> decide
  have written : ∀ argument ∈
      [.apart .posts "build", .verbose false, .joined .out "-o"],
      BuildArgument.WellWritten argument := by simp [BuildArgument.WellWritten]
  have agree := build_forms_agree noneEmpty written (by decide)
  exact ⟨agree.1, agree.2.1⟩

end SinglePage.CommandLine
