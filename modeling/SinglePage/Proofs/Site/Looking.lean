/-
# Programs that only look

Everything up to the writing of a page only looks at files.  Such a program leaves the tree as it
is, and what it returns depends on nothing but the tree; the notes in the log do not count.  So
the outcome of a program that is made of such programs is made of their outcomes, as if nothing
had happened in between.

* `World.Looks`: a program only looks;
* `Looks.bind`, `Looks.sequence`, `Looks.mapM`, `Looks.forM`, `Looks.filterM`: so does a program
  that is made of such programs;
* `outcome_bind`, `outcome_mapM`, `outcome_forM`, `outcome_filterM`: what it returns then.
-/
import SinglePage.FileSystem.Host

namespace SinglePage.World

variable {α β : Type}

/-! ## 1. Runs -/

/-- What a program returns when it is run in a world. -/
def outcome (program : ExceptT SiteError (StateM World) α) (world : World) : Except SiteError α :=
  (program.run world).1

/-- The world that a program leaves behind when it is run in a world. -/
def after (program : ExceptT SiteError (StateM World) α) (world : World) : World :=
  (program.run world).2

theorem outcome_lift (program : StateM World α) (world : World) :
    outcome (liftM program) world = .ok (program world).1 :=
  rfl

theorem after_lift (program : StateM World α) (world : World) :
    after (liftM program) world = (program world).2 :=
  rfl

/-- A program that fails is not gone on with. -/
theorem run_of_error {program : ExceptT SiteError (StateM World) α}
    (next : α → ExceptT SiteError (StateM World) β) {world : World} {e : SiteError}
    (fails : outcome program world = .error e) :
    outcome (program >>= next) world = .error e ∧
      after (program >>= next) world = after program world := by
  have steps : (program >>= next).run world =
      ExceptT.bindCont next (program.run world).1 (program.run world).2 := rfl
  unfold outcome after at *
  rw [steps, fails]
  exact ⟨rfl, rfl⟩

/-- A program that succeeds is gone on with in the world that it leaves behind. -/
theorem run_of_ok {program : ExceptT SiteError (StateM World) α}
    (next : α → ExceptT SiteError (StateM World) β) {world : World} {a : α}
    (succeeds : outcome program world = .ok a) :
    outcome (program >>= next) world = outcome (next a) (after program world) ∧
      after (program >>= next) world = after (next a) (after program world) := by
  have steps : (program >>= next).run world =
      ExceptT.bindCont next (program.run world).1 (program.run world).2 := rfl
  unfold outcome after at *
  rw [steps, succeeds]
  exact ⟨rfl, rfl⟩

/-- **A program only looks**: it leaves the tree as it is, and returns the same in all worlds with
this tree. -/
structure Looks (program : StateM World α) : Prop where
  keeps : ∀ world, (program world).2.tree = world.tree
  same : ∀ {a b : World}, a.tree = b.tree → (program a).1 = (program b).1

namespace Looks

/-! ## 2. Steps that cannot fail -/

theorem look (f : FileTree → α) : Looks (World.look f) where
  keeps _ := rfl
  same eq := congrArg f eq

theorem note (event : LogEvent) : Looks (Host.note event) where
  keeps _ := rfl
  same _ := rfl

theorem pure (a : α) : Looks (Pure.pure a) where
  keeps _ := rfl
  same _ := rfl

theorem bind {program : StateM World α} {next : α → StateM World β} (first : Looks program)
    (second : ∀ a, Looks (next a)) : Looks (program >>= next) where
  keeps world := by
    have steps : (program >>= next) world = next (program world).1 (program world).2 := rfl
    rw [steps, (second _).keeps, first.keeps]
  same {a b} eq := by
    have steps : ∀ world, (program >>= next) world = next (program world).1 (program world).2 :=
      fun _ => rfl
    have between : (program a).2.tree = (program b).2.tree := by
      rw [first.keeps, first.keeps, eq]
    rw [steps, steps, first.same eq]
    exact (second _).same between

theorem map {program : StateM World α} (f : α → β) (looks : Looks program) :
    Looks (f <$> program) :=
  looks.bind fun a => pure (f a)

/-! ## 3. Steps that can fail -/

theorem done (a : α) : Looks (Pure.pure a : ExceptT SiteError (StateM World) α).run := pure _

theorem ofExcept (result : Except SiteError α) :
    Looks (ExceptT.run (liftM result : ExceptT SiteError (StateM World) α)) := by
  cases result with
  | error e => exact pure _
  | ok a => exact pure _

theorem lift {program : StateM World α} (looks : Looks program) :
    Looks (ExceptT.run (liftM program : ExceptT SiteError (StateM World) α)) :=
  looks.map Except.ok

theorem sequence {program : ExceptT SiteError (StateM World) α}
    {next : α → ExceptT SiteError (StateM World) β} (first : Looks program.run)
    (second : ∀ a, Looks (next a).run) : Looks (program >>= next).run := by
  have next' : ∀ result, Looks (ExceptT.bindCont next result) := by
    intro result
    cases result with
    | error e => exact pure _
    | ok a => exact second a
  exact first.bind next'

/-! ## 4. Lists -/

theorem mapM {each : α → ExceptT SiteError (StateM World) β} (looks : ∀ a, Looks (each a).run) :
    ∀ l : List α, Looks (l.mapM each).run
  | [] => by
    rw [List.mapM_nil]
    exact done _
  | a :: l => by
    rw [List.mapM_cons]
    exact (looks a).sequence fun b => (mapM looks l).sequence fun bs => done _

theorem forM {each : α → ExceptT SiteError (StateM World) PUnit}
    (looks : ∀ a, Looks (each a).run) : ∀ l : List α, Looks (l.forM each).run
  | [] => done _
  | a :: l => (looks a).sequence fun _ => forM looks l

theorem filterAuxM {each : α → ExceptT SiteError (StateM World) Bool}
    (looks : ∀ a, Looks (each a).run) : ∀ l kept : List α, Looks (l.filterAuxM each kept).run
  | [], _ => done _
  | a :: l, kept => (looks a).sequence fun b => filterAuxM looks l (cond b (a :: kept) kept)

theorem filterM {each : α → ExceptT SiteError (StateM World) Bool}
    (looks : ∀ a, Looks (each a).run) (l : List α) : Looks (l.filterM each).run :=
  (filterAuxM looks l []).sequence fun _ => done _

end Looks

/-! ## 5. Outcomes -/

/-- A program that only looks leaves the tree as it is. -/
theorem tree_after {program : ExceptT SiteError (StateM World) α} (looks : Looks program.run)
    (world : World) : (after program world).tree = world.tree :=
  looks.keeps world

/-- **Of two programs that only look, the second one sees what the first one saw.** -/
theorem outcome_bind {program : ExceptT SiteError (StateM World) α}
    {next : α → ExceptT SiteError (StateM World) β} (first : Looks program.run)
    (second : ∀ a, Looks (next a).run) (world : World) :
    outcome (program >>= next) world =
      outcome program world >>= fun a => outcome (next a) world := by
  have steps : outcome (program >>= next) world =
      (ExceptT.bindCont next (program.run world).1 (program.run world).2).1 := rfl
  rw [steps]
  unfold outcome
  cases (program.run world).1 with
  | error e => rfl
  | ok a => exact (second a).same (first.keeps world)

theorem outcome_mapM {each : α → ExceptT SiteError (StateM World) β}
    (looks : ∀ a, Looks (each a).run) (world : World) : ∀ l : List α,
      outcome (l.mapM each) world = l.mapM fun a => outcome (each a) world
  | [] => by
    rw [List.mapM_nil, List.mapM_nil]
    rfl
  | a :: l => by
    rw [List.mapM_cons, List.mapM_cons,
      outcome_bind (looks a) fun b => (Looks.mapM looks l).sequence fun bs => Looks.done _]
    refine congrArg _ (funext fun b => ?_)
    rw [outcome_bind (Looks.mapM looks l) fun bs => Looks.done _, outcome_mapM looks world l]
    rfl

theorem outcome_forM {each : α → ExceptT SiteError (StateM World) PUnit}
    (looks : ∀ a, Looks (each a).run) {world : World}
    (success : ∀ a, outcome (each a) world = .ok ()) : ∀ l : List α,
      outcome (l.forM each) world = .ok ()
  | [] => rfl
  | a :: l => by
    have steps : (a :: l).forM each = each a >>= fun _ => l.forM each := rfl
    rw [steps, outcome_bind (looks a) fun _ => Looks.forM looks l, success a]
    exact outcome_forM looks success l

theorem outcome_filterAuxM {each : α → ExceptT SiteError (StateM World) Bool}
    (looks : ∀ a, Looks (each a).run) {keep : α → Bool} {world : World}
    (success : ∀ a, outcome (each a) world = .ok (keep a)) : ∀ l kept : List α,
      outcome (l.filterAuxM each kept) world = .ok ((l.filter keep).reverse ++ kept)
  | [], _ => rfl
  | a :: l, kept => by
    have steps : (a :: l).filterAuxM each kept =
      each a >>= fun b => l.filterAuxM each (cond b (a :: kept) kept) := rfl
    rw [steps, outcome_bind (looks a) fun b => Looks.filterAuxM looks l _, success a]
    refine (outcome_filterAuxM looks success l _).trans ?_
    rw [List.filter_cons]
    cases keep a <;> simp

theorem outcome_filterM {each : α → ExceptT SiteError (StateM World) Bool}
    (looks : ∀ a, Looks (each a).run) {keep : α → Bool} {world : World}
    (success : ∀ a, outcome (each a) world = .ok (keep a)) (l : List α) :
    outcome (l.filterM each) world = .ok (l.filter keep) := by
  have steps : l.filterM each = l.filterAuxM each [] >>= fun kept => pure kept.reverse := rfl
  rw [steps, outcome_bind (Looks.filterAuxM looks l []) fun kept => Looks.done _,
    outcome_filterAuxM looks success]
  show Except.ok _ = _
  rw [List.append_nil, List.reverse_reverse]

end SinglePage.World
