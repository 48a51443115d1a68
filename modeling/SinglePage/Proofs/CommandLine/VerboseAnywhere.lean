/-
# Where the verbose flag can stand

The flag that asks to say more is known at every place on a line, and between two parts of a line it
can be added anywhere: the line asks for the same command with the same options, and for more words.
There is one exception.  In front of the name of a command the flag is taken for one of the switches
of a build, which exclude that name, though it is none of them.

* `mem_openSwitches`: which switches have their value as the next argument;
* `Coherent.insert_verbose`, `commandOf_insert_verbose`: what the flag adds to parts without it;
* `exists_spelled_verbose`: the flag added somewhere in what is read at one place;
* `parse_verbose_first`: the flag in front of the name of a command is refused;
* `parse_insert_verbose`: the flag added somewhere in a whole line.
-/
import SinglePage.Proofs.CommandLine.Lines

namespace SinglePage.CommandLine

open Reading

/-! ## 1. Switches and their values -/

/-- The switches whose value may be the next argument, as they are written. -/
def openSwitches : List String := ["--posts", "--out", "--templates", "--var"]

section Opens

variable {level : Level}

theorem splitValue_eq_of_none {text : List Char} (alone : (splitValue text).2 = none) :
    (splitValue text).1 = String.ofList text := by
  unfold splitValue at alone ⊢
  dsimp only at alone ⊢
  split at alone
  case h_1 => simp at alone
  case h_2 nothing =>
    have whole : text.takeWhile (· ≠ '=') ++ text.dropWhile (· ≠ '=') = text :=
      List.takeWhile_append_dropWhile
    rw [nothing, List.append_nil] at whole
    exact congrArg String.ofList whole

theorem mem_openSwitches {argument : String} {slot : Slot}
    (opens : level.saying? argument = some (.opens slot)) : argument ∈ openSwitches := by
  obtain ⟨text, written, said⟩ := Level.saying?_valued opens rfl
  obtain ⟨found, alone⟩ := Level.longSaying?_valued said rfl
  have named := List.find?_some found
  rw [splitValue_eq_of_none (alone rfl), decide_eq_true_iff] at named
  have spelled {name : String} (same : some name = some (String.ofList text)) :
      argument = "--" ++ name := by
    obtain rfl := Option.some.inj same
    apply String.toList_injective
    simp [written]
  rcases slot with setting | - | -
  · cases setting <;> rw [spelled named] <;> decide
  · rw [spelled named]
    decide
  · cases named

end Opens

/-! ## 2. The flag among the parts -/

section Insert

variable {level : Level} {environment : Environment} {early late : List Part}

/-- **The flag goes with parts that do not have it.** -/
theorem Coherent.insert_verbose (coherent : Coherent (early ++ late))
    (quiet : .flag .verbose ∉ (early ++ late).flatMap Part.once) :
    Coherent (early ++ .row .verbose [] :: late) := by
  have last : Coherent (early ++ late ++ [.row .verbose []]) := by
    rw [coherent_concat_iff]
    refine ⟨coherent, by simp [Part.Sensible], by simp [Part.once], ?_⟩
    simpa [Part.once] using quiet
  exact last.perm (List.perm_middle.trans (List.perm_append_singleton _ _).symm)

/-- **The flag does not change what is asked for.** -/
theorem commandOf_insert_verbose :
    commandOf level environment (readingOf (early ++ .row .verbose [] :: late)) =
      commandOf level environment (readingOf (early ++ late)) := by
  have settings : (readingOf (early ++ .row .verbose [] :: late)).settings =
      (readingOf (early ++ late)).settings := by
    simp [readingOf, List.filterMap_cons, Part.setting?]
  have assignments : (readingOf (early ++ .row .verbose [] :: late)).assignments =
      (readingOf (early ++ late)).assignments := by
    simp [readingOf, List.filterMap_cons, Part.assignment?]
  have template : (readingOf (early ++ .row .verbose [] :: late)).template =
      (readingOf (early ++ late)).template := by
    simp [readingOf, List.findSome?_cons, Part.template?]
  have recursive : Flag.recursive ∈ (readingOf (early ++ .row .verbose [] :: late)).flags ↔
      Flag.recursive ∈ (readingOf (early ++ late)).flags := by
    simp [readingOf, Part.flags]
  cases level <;>
    simp only [commandOf, optionsOf, settingOf, settings, assignments, template, recursive]

end Insert

/-! ## 3. The flag on the line -/

section Lines

variable {level : Level} {environment : Environment} {front back : List String}
  {command : Command} {flag : String}

theorem spells_verbose (verbose : flag = "-v" ∨ flag = "--verbose") :
    Spells level [flag] (.row .verbose []) := by
  rcases verbose with rfl | rfl <;> exact .row (by cases level <;> rfl)

/-- **The flag can be added between two parts** of what is read at one place. -/
theorem exists_spelled_verbose (goesOn : "--" ∉ front ++ back)
    (quiet : readLine level environment (front ++ back) = .ok ⟨command, false⟩)
    (between : ∀ last ∈ front.getLast?, last ∉ openSwitches)
    (verbose : flag = "-v" ∨ flag = "--verbose") :
    ∃ parts, Spelled level (front ++ flag :: back) parts ∧ Coherent parts ∧
      finish level environment (readingOf parts) = .ok ⟨command, true⟩ := by
  obtain ⟨parts, spelled, coherent, asks⟩ := (readLine_eq_ok_iff goesOn).mp quiet
  obtain ⟨asks, said⟩ := finish_readingOf_eq_ok_iff.mp asks
  obtain ⟨early, late, rfl, before, behind⟩ := spelled.cut rfl fun last ends slot opens =>
    between last ends (mem_openSwitches opens)
  have whole : Spelled level ([flag] ++ back) ([.row .verbose []] ++ late) :=
    .cons (spells_verbose verbose) behind
  refine ⟨early ++ .row .verbose [] :: late, before.append whole,
    coherent.insert_verbose fun given => Bool.false_ne_true (said.mpr given), ?_⟩
  rw [finish_readingOf_eq_ok_iff, commandOf_insert_verbose]
  exact ⟨asks, by simp [Part.once]⟩

/-- **In front of the name of a command the flag is refused**, whatever stands behind it. -/
theorem parse_verbose_first {name : String} {word : CommandWord} {rest : List String}
    (named : CommandWord.ofText? name = some word)
    (verbose : flag = "-v" ∨ flag = "--verbose") :
    parse environment (flag :: name :: rest) = .error .conflict := by
  have unnamed : CommandWord.ofText? flag = none := by rcases verbose with rfl | rfl <;> rfl
  have flagged : step .top .empty flag =
      .ok { Reading.empty with flags := [.verbose], started := true } := by
    rcases verbose with rfl | rfl <;> rfl
  have refused : step .top { Reading.empty with flags := [.verbose], started := true } name =
      .error .conflict := by
    unfold CommandWord.ofText? at named
    split_ifs at named with build render filters help
    · rw [build]; rfl
    · rw [render]; rfl
    · rw [filters]; rfl
    · rw [help]; rfl
  have goesOn : parse environment (flag :: name :: rest) =
      parseFrom environment { Reading.empty with flags := [.verbose], started := true }
        (name :: rest) := by
    rw [parse_cons, unnamed, flagged]
    rfl
  rw [goesOn, parseFrom_eq (.inr rfl), List.foldlM_cons, refused]
  rfl

theorem commandOf_implicit_iff {reading : Reading}
    (asks : commandOf level environment reading = .ok command) :
    (∃ options, command = .implicit options) ↔ level = .top := by
  cases level with
  | top =>
    obtain ⟨options, -, rfl⟩ := map_eq_ok_iff.mp asks
    simp
  | build =>
    obtain ⟨options, -, rfl⟩ := map_eq_ok_iff.mp asks
    simp
  | render =>
    simp only [commandOf] at asks
    split at asks
    · obtain rfl := Except.ok.inj asks
      simp
    · simp at asks
  | filters =>
    obtain rfl := Except.ok.inj asks
    simp

/-- Only at the top a build is asked for without saying so. -/
theorem readLine_implicit_iff {arguments : List String} {invocation : Invocation}
    (makesSense : readLine level environment arguments = .ok invocation) :
    (∃ options, invocation.command = .implicit options) ↔ level = .top := by
  obtain ⟨reading, -, finished⟩ := bind_eq_ok_iff.mp makesSense
  obtain ⟨settled, -, asked⟩ := bind_eq_ok_iff.mp finished
  obtain ⟨command, asks, made⟩ := bind_eq_ok_iff.mp asked
  obtain rfl := Except.ok.inj made
  exact commandOf_implicit_iff asks

theorem CommandWord.level?_ne_top (word : CommandWord) : word.level? ≠ some .top := by
  cases word <;> decide

end Lines

/-- **The verbose flag can stand anywhere but in front of the name of a command.**  It is added to a
line without it, between two arguments that do not belong together, and the line does not end
switches.  Behind the name of a command, and anywhere on a line without one, the same is asked for
and more is said.  In front of the name of a command it is refused. -/
theorem parse_insert_verbose {environment : Environment} {front back : List String}
    {command : Command} {flag : String} (goesOn : "--" ∉ front ++ back)
    (quiet : parse environment (front ++ back) = .ok ⟨command, false⟩)
    (between : ∀ last ∈ front.getLast?, last ∉ openSwitches)
    (verbose : flag = "-v" ∨ flag = "--verbose") :
    (front ≠ [] ∨ (∃ options, command = .implicit options) →
        parse environment (front ++ flag :: back) = .ok ⟨command, true⟩) ∧
      (front = [] → (∀ options, command ≠ .implicit options) →
        parse environment (front ++ flag :: back) = .error .conflict) := by
  rcases parse_cases quiet with
    ⟨-, makesSense⟩ | ⟨name, word, level, rest, split, named, place, makesSense⟩
  · obtain ⟨parts, spelled, coherent, asks⟩ :=
      exists_spelled_verbose goesOn makesSense between verbose
    obtain ⟨options, implicit⟩ := (readLine_implicit_iff makesSense).mpr rfl
    exact ⟨fun _ => (parse_of_spelled spelled coherent).trans asks,
      fun _ explicit => absurd implicit (explicit options)⟩
  · obtain ⟨makesSense, usual⟩ := parseCommand_eq_ok_iff.mp makesSense
    cases front with
    | nil =>
      obtain rfl : back = name :: rest := split
      refine ⟨?_, fun _ _ => parse_verbose_first named verbose⟩
      rintro (elsewhere | implicit)
      · exact absurd rfl elsewhere
      · obtain rfl := (readLine_implicit_iff makesSense).mp implicit
        exact absurd place word.level?_ne_top
    | cons first front =>
      obtain ⟨rfl, rfl⟩ := List.cons.inj split
      have between : ∀ last ∈ front.getLast?, last ∉ openSwitches := fun last ends =>
        between last (by rw [List.getLast?_cons, Option.mem_def.mp ends]; rfl)
      obtain ⟨parts, spelled, coherent, asks⟩ := exists_spelled_verbose
        (fun mem => goesOn (List.mem_cons_of_mem _ mem)) makesSense between verbose
      refine ⟨fun _ => ?_, fun empty => absurd empty (List.cons_ne_nil _ _)⟩
      rw [List.cons_append, parse_command named place, parseCommand_eq_ok_iff,
        readLine_of_spelled spelled coherent]
      exact ⟨asks, usual⟩

/-- The flag between two options of a build, and in front of its name. -/
theorem parse_insert_verbose_build :
    parse .empty ["build", "--posts", "in", "-v", "-r"] =
        .ok ⟨.build ⟨⟨"in"⟩, ⟨"_site"⟩, none, true⟩, true⟩ ∧
      parse .empty ["--verbose", "build", "--posts", "in", "-r"] = .error .conflict := by
  have behind : parse .empty (["build", "--posts", "in"] ++ ["-r"]) =
      .ok ⟨.build ⟨⟨"in"⟩, ⟨"_site"⟩, none, true⟩, false⟩ := by rfl
  have infront : parse .empty ([] ++ ["build", "--posts", "in", "-r"]) =
      .ok ⟨.build ⟨⟨"in"⟩, ⟨"_site"⟩, none, true⟩, false⟩ := behind
  exact ⟨(parse_insert_verbose (by decide) behind (by decide) (.inl rfl)).1 (.inl (by simp)),
    (parse_insert_verbose (by decide) infront (by decide) (.inr rfl)).2 rfl (by simp)⟩

/-- A line that makes sense and is refused with the flag in front of it, although the flag stands
between no switch and its value. -/
theorem verbose_refused_first :
    ¬ ∀ (front back : List String) (command : Command),
      "--" ∉ front ++ back → parse .empty (front ++ back) = .ok ⟨command, false⟩ →
        (∀ last ∈ front.getLast?, last ∉ openSwitches) →
          parse .empty (front ++ "-v" :: back) = .ok ⟨command, true⟩ := by
  intro anywhere
  have accepted := anywhere [] ["build"] (.build {}) (by decide) rfl (by decide)
  have refused : parse .empty ["-v", "build"] = .error .conflict := rfl
  rw [List.nil_append, refused] at accepted
  exact nomatch accepted

end SinglePage.CommandLine
