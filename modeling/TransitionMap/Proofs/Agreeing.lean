import TransitionMap.Proofs.Commands

/-!
# Checking, listing and a dry run agree

The commands that write nothing all plan the table of their source first (`Program.planned`), by way
of the settings and the loading of the source, and none of them can fail after that: a dry run
compiles into an empty map in memory, which takes every entry (`Program.compile_dryRun_eq`). What
each does with the table is a matter of printing (`Program.perform_eq`). So they fail alike or
report one number of entries (`Program.check_dump_dryRun_agree`).
-/

namespace TransitionMap

open CommandLine

namespace Program

section

variable {m : Type → Type} [Monad m] [LawfulMonad m]

/-! ## A dry run -/

/-- A dry run is planning a table, whose entries all arrive. -/
theorem compile_dryRun_eq (host : Host m) (s : Settings) (r : SourceRequest) :
    compile host s r .dryRun = (do
      let t ← table host s.compile r
      return ⟨t.size, []⟩ : Run m WriteSummary) := by
  refine compileInto_bind host s.compile r rfl fun a t planned summary store compiled => ?_
  have hunlimited : MemoryStore.new.Unlimited := ⟨rfl, rfl, rfl, rfl⟩
  obtain ⟨store', hcomplete, -, -⟩ :=
    Table.compile_of_accepting MemoryStore.accepting_unlimited hunlimited rfl planned
  rw [compiled] at hcomplete
  obtain ⟨rfl, -⟩ : summary = ⟨t.size, []⟩ ∧ store = store' := by simpa using hcomplete
  rfl

/-! ## From the table to the report -/

/-- The table of a source, by the settings of a file. -/
def planned (host : Host m) (config : Option String) (r : SourceRequest) : Run m Table := do
  table host (← settings host config).compile r

/-- A command that needs nothing but a table fails as planning it does, and otherwise reports on
it. -/
theorem perform_eq (host : Host m) {i : Invocation} {r : SourceRequest} {report : Table → m Report}
    (h : ∀ s, command host s i.command =
      table host s.compile r >>= fun t => ExceptT.lift (report t)) :
    perform host i = do
      match ← (planned host i.config r).run with
      | .ok t => report t
      | .error failure => return { failure := some failure } := by
  have hrun : (do command host (← settings host i.config) i.command : Run m Report) =
      planned host i.config r >>= fun t => ExceptT.lift (report t) := by
    simp only [h, planned, bind_assoc]
  rw [perform, hrun, ExceptT.run_bind, bind_assoc]
  refine bind_congr fun result => ?_
  cases result with
  | error failure => simp
  | ok t => simp

theorem command_check_eq (host : Host m) (s : Settings) (r : SourceRequest) :
    command host s (.check r) = table host s.compile r >>= fun t => ExceptT.lift (pure { output :=
      "states=" ++ t.stateCount.repr ++ " entries=" ++ t.size.repr ++ " accepting=" ++
        t.acceptingTargets.repr ++ "\n" }) := by
  refine bind_congr fun t => ?_
  exact (ExceptT.lift_pure _).symm

/-- Whether a listing is colored may be asked of the host, but only after planning and never in
vain. -/
theorem command_dump_eq (host : Host m) (r : SourceRequest) (color : ColorChoice) :
    ∃ flag : m Bool, ∀ s, command host s (.dump r none color) =
      table host s.compile r >>= fun t => ExceptT.lift do
        return { output := dump (.ofFlag (← flag)) t.entries } := by
  have hcolored : ∃ flag : m Bool, colored host color = ExceptT.lift flag := by
    cases color with
    | always => exact ⟨pure true, (ExceptT.lift_pure true).symm⟩
    | never => exact ⟨pure false, (ExceptT.lift_pure false).symm⟩
    | auto => exact ⟨host.onTerminal, rfl⟩
  obtain ⟨flag, hflag⟩ := hcolored
  refine ⟨flag, fun s => ?_⟩
  simp only [command, hflag, pure_bind, ExceptT.lift_bind, ExceptT.lift_pure]

theorem command_dryRun_eq (host : Host m) (s : Settings) (r : SourceRequest) (strict : Bool) :
    command host s (.compile r .dryRun strict) = table host s.compile r >>= fun t =>
      ExceptT.lift (pure { output := "attempted=" ++ t.size.repr ++ " failed=0\n" }) := by
  rw [command, compile_dryRun_eq, bind_assoc]
  refine bind_congr fun t => ?_
  rw [pure_bind, Report.of_complete]
  exact (ExceptT.lift_pure _).symm

end

/-! ## Started in one state -/

/-- Started in one state of any surroundings, with the same settings file and the same source, the
three commands that write nothing agree. Either they all fail, with one and the same failure. Or
none fails: checking tells the number of entries, the listing has so many lines, and the dry run has
attempted so many writes, of which none failed. How much is logged, whether the listing is colored
and whether refused writes would be a failure makes no difference to that. -/
theorem check_dump_dryRun_agree {σ : Type} (host : Host (StateM σ)) (state : σ)
    (config : Option String) (r : SourceRequest) :
    let report (verbosity : Nat) (quiet : Bool) (c : Command) : Report :=
      ((perform host ⟨config, verbosity, quiet, c⟩).run state).1
    (∃ failure, ∀ verbosity quiet,
      report verbosity quiet (.check r) = { failure := some failure } ∧
      (∀ color, report verbosity quiet (.dump r none color) = { failure := some failure }) ∧
      ∀ strict, report verbosity quiet (.compile r .dryRun strict) =
        { failure := some failure }) ∨
    ∃ states entries accepting : Nat, ∀ verbosity quiet,
      report verbosity quiet (.check r) = { output :=
        "states=" ++ states.repr ++ " entries=" ++ entries.repr ++ " accepting=" ++
          accepting.repr ++ "\n" } ∧
      (∀ color, ∃ listing,
        report verbosity quiet (.dump r none color) = { output := listing } ∧
          HasLines listing entries) ∧
      ∀ strict, report verbosity quiet (.compile r .dryRun strict) =
        { output := "attempted=" ++ entries.repr ++ " failed=0\n" } := by
  intro report
  have hcheck := fun v q => perform_eq host (i := ⟨config, v, q, .check r⟩)
    fun s => command_check_eq host s r
  choose flag hflag using command_dump_eq host r
  have hdump := fun v q color => perform_eq host (i := ⟨config, v, q, .dump r none color⟩)
    (hflag color)
  have hdryRun := fun v q strict => perform_eq host (i := ⟨config, v, q, .compile r .dryRun strict⟩)
    fun s => command_dryRun_eq host s r strict
  cases hrun : (planned host config r).run.run state with
  | mk result state' =>
    cases result with
    | error failure =>
      refine .inl ⟨failure, fun v q => ⟨?_, fun color => ?_, fun strict => ?_⟩⟩
      · simp only [report, hcheck, StateT.run_bind, hrun]
        rfl
      · simp only [report, hdump, StateT.run_bind, hrun]
        rfl
      · simp only [report, hdryRun, StateT.run_bind, hrun]
        rfl
    | ok t =>
      refine .inr ⟨t.stateCount, t.size, t.acceptingTargets, fun v q =>
        ⟨?_, fun color => ?_, fun strict => ?_⟩⟩
      · simp only [report, hcheck, StateT.run_bind, hrun]
        rfl
      · simp only [report, hdump, StateT.run_bind, hrun]
        refine ⟨_, rfl, hasLines_dump (Dump.inline_ofFlag _) t.entries⟩
      · simp only [report, hdryRun, StateT.run_bind, hrun]
        rfl

end Program

end TransitionMap
