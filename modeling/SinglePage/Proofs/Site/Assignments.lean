/-
# Texts that are assigned on the command line

A text `KEY=VALUE` is taken apart at its first `=`, and a reference at its bars; both trim what is left
of it, in the same way.  So a key that a reference can spell is spelled by writing it between braces,
whatever else is in it, and the text that is assigned to it last is printed as it is.  If one of the
texts assigns nothing, the template is not even looked at.

* `parseAssignment_eq_ok_iff_assigns`, `parseAssignment_eq_error_iff`: which texts assign a value, and
  what becomes of the others;
* `assigned_of_parse`: the last assignment to a key is that of the last text which assigns it a value;
* `parse_mention`: a key that fits is read back from between braces;
* `runIn_eq`: what is left of a command that prints its result, or reports its error;
* `assignments_verbatim`: so assigned texts are printed as they are.
-/
import SinglePage.CommandLine.Run
import SinglePage.Proofs.Site.FilledTexts
import SinglePage.Proofs.Template.Printing

namespace SinglePage.Site

open World CommandLine

/-! ## 1. Single texts -/

/-- **The text assigns the value to the key**: the name in front of its first `=`, without the blanks
at the ends, is the key and is not empty; the value is all that stands behind this `=`. -/
def Assigns (input key value : String) : Prop :=
  ∃ name : String, '=' ∉ name.toList ∧ input = name ++ "=" ++ value ∧
    Text.TrimsTo name.toList key.toList ∧ key ≠ ""

variable {input key value : String}

theorem parseAssignment_eq_ok_iff_assigns :
    parseAssignment input = .ok (key, value) ↔ Assigns input key value := by
  rw [parseAssignment_eq_ok_iff]
  constructor
  · rintro ⟨name, clear, whole, trimmed, nonempty⟩
    refine ⟨String.ofList name, by rwa [String.toList_ofList], ?_, ?_, nonempty⟩
    · apply String.toList_injective
      simp [whole]
    · rw [String.toList_ofList, Text.trimsTo_iff, trimmed]
  · rintro ⟨name, clear, rfl, trims, nonempty⟩
    exact ⟨name.toList, clear, by simp, (Text.trimsTo_iff.mp trims).symm, nonempty⟩

/-- **A text that assigns nothing is refused, and the error holds this text.** -/
theorem parseAssignment_eq_error_iff {e : SiteError} : parseAssignment input = .error e ↔
    e = .invalidVariable input ∧ ¬ ∃ key value, Assigns input key value := by
  simp only [← parseAssignment_eq_ok_iff_assigns]
  have only : ∀ e', parseAssignment input = .error e' → e' = .invalidVariable input := by
    intro e' refused
    unfold parseAssignment at refused
    split at refused
    · exact (Except.error.inj refused).symm
    · split at refused
      · exact (Except.error.inj refused).symm
      · exact absurd refused (by simp)
  cases result : parseAssignment input with
  | ok pair =>
    refine ⟨fun h => absurd h (by simp), ?_⟩
    rintro ⟨-, none⟩
    exact absurd ⟨pair.1, pair.2, rfl⟩ none
  | error e' =>
    obtain rfl := only e' result
    simp [eq_comm]

/-- A text assigns one value to one key. -/
theorem Assigns.unique {key' value' : String} (assigns : Assigns input key value)
    (assigns' : Assigns input key' value') : key = key' ∧ value = value' := by
  rw [← parseAssignment_eq_ok_iff_assigns] at assigns assigns'
  exact Prod.mk.inj (Except.ok.inj (assigns.symm.trans assigns'))

/-- A key to which a text assigns a value is trimmed. -/
theorem Assigns.trimmed (assigns : Assigns input key value) :
    Text.trim key.toList = key.toList := by
  obtain ⟨name, -, -, ⟨-, first, last⟩, -⟩ := assigns
  exact Text.trim_eq_self first last

/-! ## 2. Several texts -/

variable {inputs : List String} {assignments : List (String × String)}

/-- Texts that all assign a value are accepted together. -/
theorem parseAssignments_succeeds
    (accepted : ∀ input ∈ inputs, ∃ key value, Assigns input key value) :
    ∃ assignments, parseAssignments inputs = .ok assignments := by
  simp only [parseAssignments, mapM_eq_ok_iff]
  refine exists_map_eq_ok_iff.mpr fun input mem => ?_
  obtain ⟨key, value, assigns⟩ := accepted input mem
  exact ⟨(key, value), parseAssignment_eq_ok_iff_assigns.mpr assigns⟩

/-- What a text assigns is among the assignments. -/
theorem mem_of_assigns (parsed : parseAssignments inputs = .ok assignments) (mem : input ∈ inputs)
    (assigns : Assigns input key value) : (key, value) ∈ assignments := by
  have among : Except.ok (key, value) ∈ inputs.map parseAssignment :=
    List.mem_map.mpr ⟨input, mem, parseAssignment_eq_ok_iff_assigns.mpr assigns⟩
  rw [mapM_eq_ok_iff.mp parsed] at among
  obtain ⟨pair, inside, same⟩ := List.mem_map.mp among
  rwa [Except.ok.inj same] at inside

/-- **The last assignment to a key is that of the last text which assigns it a value.** -/
theorem assigned_of_parse (parsed : parseAssignments inputs = .ok assignments)
    (assigned : Assigned assignments key value) : ∃ earlier input later,
      inputs = earlier ++ input :: later ∧ Assigns input key value ∧
        ∀ other ∈ later, ∀ value', ¬ Assigns other key value' := by
  obtain ⟨before, behind, rfl, last⟩ := assigned
  have each := mapM_eq_ok_iff.mp parsed
  rw [List.map_append, List.map_cons] at each
  obtain ⟨earlier, rest, rfl, -, eq⟩ := List.map_eq_append_iff.mp each
  obtain ⟨input, later, rfl, here, there⟩ := List.map_eq_cons_iff.mp eq
  refine ⟨earlier, input, later, rfl, parseAssignment_eq_ok_iff_assigns.mp here, ?_⟩
  intro other mem value' assigns
  have inside := mem_of_assigns (mapM_eq_ok_iff.mpr there) mem assigns
  exact last (List.mem_map_of_mem (f := Prod.fst) inside)

/-! ## 3. A template that mentions a key -/

/-- **A key that fits is read back from between braces.** -/
theorem parse_mention (fits : NameFits key) : ∃ template span,
    Template.parse ("\x7b\x7b " ++ key ++ " \x7d\x7d") = .ok template ∧
      template.segments = [.literal "", .reference ⟨key, [], span⟩, .literal ""] := by
  let outline : Outline String := .reference "" key [] (.last "")
  have empty : NoPair '{' "".toList := noPair_of_not_mem (by decide)
  have regular : outline.spaced.names.Regular := by
    rw [Outline.names_spaced]
    exact ⟨empty, by decide, List.forall_mem_singleton.mpr fits, empty⟩
  have clean := Outline.clean_layout regular (Outline.closed_spaced outline)
  have text : outline.spaced.layout.text = ("\x7b\x7b " ++ key ++ " \x7d\x7d").toList := by
    simp [outline, Outline.spaced, Outline.map, Outline.layout, Layout.text, Outline.body,
      PaddedName.text, PaddedName.spaced]
  obtain ⟨template, parsed, segments⟩ := Layout.parses_iff_lays.mpr
    ⟨_, ⟨clean, text⟩, Outline.describes_segments regular 0⟩
  exact ⟨template, _, parsed, segments⟩

/-- **The text that was assigned last is what a template becomes which mentions its key and nothing
else.** -/
theorem outcome_renderFile_mention {world : World} {path : Path} (fits : NameFits key)
    (unnamed : key ∉ filterNames) (assigned : Assigned assignments key value)
    (readable : world.tree.readText path = .ok ("\x7b\x7b " ++ key ++ " \x7d\x7d")) :
    outcome (renderFile path assignments) world = .ok value := by
  obtain ⟨template, span, parsed, segments⟩ := parse_mention fits
  rw [outcome_renderFile readable parsed, applyIn_textScope_iff, segments]
  refine ⟨["", value, ""], ?_, ?_⟩
  · exact .cons (.literal "") (.cons (.reference (.verbatim unnamed rfl assigned))
      (.cons (.literal "") .nil))
  · rw [String.join_cons, String.join_cons, String.join_cons]
    simp

/-! ## 4. Runs -/

/-- A command that is run in a world: what is left of the run, and the world after it. -/
def runIn (world : World) (tag : String) (command : Command) : Outcome × World :=
  (CommandLine.run tag command : StateM World Outcome).run world

section Runs

variable {world : World} {tag : String} {command : Command}

/-- What is left of a command, by its result. -/
def reported : Except SiteError String → Outcome
  | .ok output => ⟨0, output, ""⟩
  | .error e => ⟨e.exitCode, "", "Error: " ++ e.report ++ "\n"⟩

/-- **A command prints its result, or reports its error**, and never both. -/
theorem runIn_eq : (runIn world tag command).1 = reported (outcome (runCommand tag command) world) ∧
    (runIn world tag command).2.tree = (after (runCommand tag command) world).tree := by
  unfold runIn CommandLine.run outcome after
  simp only [bind, StateT.bind, StateT.run]
  generalize (ExceptT.run (runCommand tag command) : StateM World _) world = ran
  obtain ⟨result, world'⟩ := ran
  cases result with
  | ok output => exact ⟨rfl, rfl⟩
  | error e => exact ⟨rfl, rfl⟩

/-- A template is rendered once its texts are read. -/
theorem runCommand_render (tag : String) (path : Path) (inputs : List String) :
    runCommand (m := StateM World) tag (.render path inputs) =
      liftM (parseAssignments inputs) >>= renderFile path :=
  rfl

/-- Once its texts are accepted, a template is rendered with what they assign. -/
theorem outcome_runCommand_render {path : Path} (parsed : parseAssignments inputs = .ok assignments) :
    outcome (runCommand tag (.render path inputs)) world =
      outcome (renderFile path assignments) world := by
  rw [runCommand_render, parsed]
  exact (run_of_ok (renderFile path) rfl).1

/-- **The first text that is refused is reported**, before the template is looked at. -/
theorem run_runCommand_render_of_error {e : SiteError} (refused : parseAssignments inputs = .error e)
    (world : World) (tag : String) (path : Path) :
    outcome (runCommand tag (.render path inputs)) world = .error e ∧
      after (runCommand tag (.render path inputs)) world = world := by
  rw [runCommand_render, refused]
  exact run_of_error (renderFile path) rfl

end Runs

/-! ## 5. From the command line to the template -/

/-- **Texts that are assigned on the command line are printed as they are.**

* A text is accepted just if it assigns a value to a key; otherwise it is refused with an error that
  holds it.
* Let all texts be accepted, and let one of them assign a value to a key that a reference can spell and
  that is not the name of a filter.  Then a template file that mentions this key, and has no other text,
  becomes the value from the last text that assigns one to this key, and this is what is printed.
* If a text is refused, so is the command, with the error of the first such text.  No file matters for
  this, no file changes, and nothing is printed on the output. -/
theorem assignments_verbatim :
    (∀ input : String,
      (∀ key value, parseAssignment input = .ok (key, value) ↔ Assigns input key value) ∧
        ∀ e, parseAssignment input = .error e ↔
          e = .invalidVariable input ∧ ¬ ∃ key value, Assigns input key value) ∧
      (∀ inputs : List String, (∀ input ∈ inputs, ∃ key value, Assigns input key value) →
        ∃ assignments, parseAssignments inputs = .ok assignments ∧
          ∀ key : String, (∃ input ∈ inputs, ∃ value, Assigns input key value) →
            '|' ∉ key.toList → NoPair '}' key.toList → key ∉ filterNames →
              ∃ earlier input later value, inputs = earlier ++ input :: later ∧
                Assigns input key value ∧ (∀ other ∈ later, ∀ value', ¬ Assigns other key value') ∧
                ∀ (world : World) (path : Path),
                  world.tree.readText path = .ok ("\x7b\x7b " ++ key ++ " \x7d\x7d") →
                    outcome (renderFile path assignments) world = .ok value ∧
                      ∀ tag, (runIn world tag (.render path inputs)).1 = ⟨0, value, ""⟩) ∧
      ∀ (before : List String) (input : String) (behind : List String),
        (∀ other ∈ before, ∃ key value, Assigns other key value) →
          (¬ ∃ key value, Assigns input key value) →
            ∀ (world : World) (tag : String) (path : Path),
              let command := Command.render path (before ++ input :: behind)
              outcome (runCommand tag command) world = .error (.invalidVariable input) ∧
                (runIn world tag command).1 =
                  ⟨1, "", "Error: " ++ (SiteError.invalidVariable input).report ++ "\n"⟩ ∧
                (runIn world tag command).2.tree = world.tree := by
  refine ⟨fun input => ⟨?_, ?_⟩, ?_, ?_⟩
  · exact fun key value => parseAssignment_eq_ok_iff_assigns
  · exact fun e => parseAssignment_eq_error_iff
  · intro inputs accepted
    obtain ⟨assignments, parsed⟩ := parseAssignments_succeeds accepted
    refine ⟨assignments, parsed, ?_⟩
    rintro key ⟨input, mem, given, assigns⟩ noBar clear unnamed
    have among : key ∈ assignments.map Prod.fst :=
      List.mem_map_of_mem (mem_of_assigns parsed mem assigns)
    obtain ⟨value, assigned⟩ := exists_assigned_iff.mpr among
    obtain ⟨earlier, chosen, later, split, here, last⟩ := assigned_of_parse parsed assigned
    refine ⟨earlier, chosen, later, value, split, here, last, ?_⟩
    intro world path readable
    have rendered := outcome_renderFile_mention ⟨here.trimmed, noBar, clear⟩ unnamed assigned readable
    refine ⟨rendered, fun tag => ?_⟩
    rw [runIn_eq.1, outcome_runCommand_render parsed, rendered]
    rfl
  · intro before input behind accepted none world tag path command
    have refused : parseAssignments (before ++ input :: behind) = .error (.invalidVariable input) := by
      refine mapM_eq_error (parseAssignment_eq_error_iff.mpr ⟨rfl, none⟩) fun other mem => ?_
      obtain ⟨key, value, assigns⟩ := accepted other mem
      exact ⟨(key, value), parseAssignment_eq_ok_iff_assigns.mpr assigns⟩
    obtain ⟨fails, unchanged⟩ := run_runCommand_render_of_error refused world tag path
    refine ⟨fails, ?_, ?_⟩
    · rw [runIn_eq.1, fails]
      rfl
    · rw [runIn_eq.2, unchanged]

/-- A key with braces in it, which is given twice and once with a wide blank before it, becomes the second
value, with all that is in it; and without a key there is nothing but the error. -/
theorem assignments_verbatim_braces :
    let world : World := ⟨FileTree.empty.put [⟨"card.txt", by decide⟩]
      (.file ("\x7b\x7b k\x7d\x7b \x7d\x7d" : String).toUTF8), []⟩
    (runIn world "7" (.render ⟨"card.txt"⟩
        ["k\x7d\x7b=old", "\u3000k\x7d\x7b = a=b\n\x7b\x7bk\x7d\x7d "])).1 =
          ⟨0, " a=b\n\x7b\x7bk\x7d\x7d ", ""⟩ ∧
      (runIn world "7" (.render ⟨"missing.txt"⟩ ["k=v", " =v", "v"])).1 = ⟨1, "",
        "Error: " ++ (SiteError.invalidVariable " =v").report ++ "\n"⟩ := by
  intro world
  have assigns : Assigns "k\x7d\x7b=old" "k\x7d\x7b" "old" :=
    ⟨"k\x7d\x7b", by decide, by decide, Text.trimsTo_iff.mpr (by decide), by decide⟩
  have assigns' : Assigns "\u3000k\x7d\x7b = a=b\n\x7b\x7bk\x7d\x7d " "k\x7d\x7b"
      " a=b\n\x7b\x7bk\x7d\x7d " :=
    ⟨"\u3000k\x7d\x7b ", by decide, by decide, Text.trimsTo_iff.mpr (by decide), by decide⟩
  have readable : world.tree.readText ⟨"card.txt"⟩ =
      .ok ("\x7b\x7b " ++ "k\x7d\x7b" ++ " \x7d\x7d") :=
    FileTree.readText_eq_ok_iff.mpr rfl
  obtain ⟨exact, verbatim, refused⟩ := assignments_verbatim
  constructor
  · obtain ⟨assignments, -, prints⟩ := verbatim
      ["k\x7d\x7b=old", "\u3000k\x7d\x7b = a=b\n\x7b\x7bk\x7d\x7d "]
      (List.forall_mem_cons.mpr ⟨⟨_, _, assigns⟩, List.forall_mem_singleton.mpr ⟨_, _, assigns'⟩⟩)
    obtain ⟨earlier, input, later, value, split, here, last, printed⟩ :=
      prints "k\x7d\x7b" ⟨_, List.mem_cons_self, _, assigns⟩ (by decide)
        (breakPair_eq_none_iff.mp (by decide)) (by decide)
    obtain ⟨-, run⟩ := printed world ⟨"card.txt"⟩ readable
    have value_eq : value = " a=b\n\x7b\x7bk\x7d\x7d " := by
      rcases earlier with _ | ⟨first, _ | ⟨second, earlier⟩⟩
      · obtain ⟨-, rfl⟩ := List.cons.inj split
        exact absurd assigns' (last _ List.mem_cons_self _)
      · obtain ⟨-, eq⟩ := List.cons.inj split
        obtain ⟨rfl, -⟩ := List.cons.inj eq
        exact (here.unique assigns').2
      · simp at split
    rw [run "7", value_eq]
  · have none : ¬ ∃ key value, Assigns " =v" key value :=
      ((exact " =v").2 (.invalidVariable " =v")).mp (by decide +kernel) |>.2
    exact (refused ["k=v"] " =v" ["v"] (List.forall_mem_singleton.mpr
      ⟨"k", "v", "k", by decide, by decide, Text.trimsTo_iff.mpr (by decide), by decide⟩)
      none world "7" ⟨"missing.txt"⟩).2.1

end SinglePage.Site
