import LoadScript.Run
import LoadScript.Proofs.Files

/-!
# What runs do to the files

A conversion ends in one of four ways: its script is not there, or it is and
goes to the standard output, or it cannot be written, or it is written. The files
are others than before in the last case only, and all that is other is what
stands at the place that the output path names. Each way is said as an equation
of the whole run (`execute_failed`, `execute_printed`, `execute_unwritable`,
`execute_saved`), and what one run of a session does follows by going through
them.

In a session each run finds what the runs before it left. What stands at a place
in the end is then the script of the last run that wrote there, and where none
did, it is what stood there at first (`settled`).
-/

namespace LoadScript

/-! ## The ways in which a conversion ends -/

namespace ConvertCommand

variable {command : ConvertCommand} {color : Bool} {files : Files}

/-- The report of a conversion that fails: nothing goes to the standard output. -/
def failed (made : Traced String) (error : Error) : Report :=
  { stdout := "", stderr := "", events := made.events, failure := some error }

theorem execute_failed {error : Error} (h : (command.script files.read).outcome = .error error) :
    command.execute color files = (failed (command.script files.read) error, files) := by
  simp only [execute, write?, report, h, failed]

theorem execute_printed {script : String} (h : (command.script files.read).outcome = .ok script)
    (hnone : command.output = none) :
    command.execute color files
      = ({ stdout := script, stderr := "", events := (command.script files.read).events,
           failure := none }, files) := by
  simp only [execute, write?, report, h, hnone]

theorem execute_unwritable {script output : String} {fault : FileFault}
    (h : (command.script files.read).outcome = .ok script) (hsome : command.output = some output)
    (hfault : files.target output = .error fault) :
    command.execute color files
      = (failed (command.script files.read) (.unwritable fault), files) := by
  simp only [execute, write?, h, hsome, Files.write_eq, hfault, Except.map, report, failed]

theorem execute_saved {script output : String} {place : Place}
    (h : (command.script files.read).outcome = .ok script) (hsome : command.output = some output)
    (hplace : files.target output = .ok place) :
    command.execute color files
      = ({ stdout := "", stderr := writtenNotice color output,
           events := (command.script files.read).events, failure := none },
         files.put place (.file script.toUTF8)) := by
  simp only [execute, write?, h, hsome, Files.write_eq, hplace, Except.map, report]

end ConvertCommand

/-! ## One run -/

theorem run_of_parse {arguments : List String} {command : Command}
    (h : CommandLine.parse arguments = .ok command) (environment : Environment) (files : Files) :
    run arguments environment files = .ok (command.run environment files) := by
  rw [run, h]
  rfl

theorem run_of_refused {arguments : List String} {usage : Usage}
    (h : CommandLine.parse arguments = .error usage) (environment : Environment) (files : Files) :
    run arguments environment files = .error usage := by
  rw [run, h]
  rfl

structure Invocation where
  arguments : List String
  environment : Environment

structure Step where
  invocation : Invocation
  before : Files

namespace Step

variable (step : Step)

def result : Except Usage Outcome :=
  run step.invocation.arguments step.invocation.environment step.before

/-- The files as the run leaves them. Without a command nothing is done. -/
def after : Files :=
  match step.result with
  | .ok outcome => outcome.files
  | .error _ => step.before

/-- The arguments of the run are accepted, and ask for a conversion. -/
def Asks (command : ConvertCommand) : Prop :=
  CommandLine.parse step.invocation.arguments = .ok (.convert command)

/-- What the conversion makes of the files before the run. -/
def made (command : ConvertCommand) : Except Error String :=
  (convert step.before.read command.collection command.options).outcome

/-- The script is not there, or the file under the output path cannot be written. -/
def Obstructed (command : ConvertCommand) : Prop :=
  (∃ error, step.made command = .error error)
    ∨ ∃ output fault, command.output = some output ∧ step.before.target output = .error fault

/-- The run ends with its script at a place, the one that the output path names, and with
everything else as it was. Under whatever path the file is read, the script is what is read, and a
path that leads to another file reads what it read. -/
structure Saves (command : ConvertCommand) (place : Place) (script : String) : Prop where
  asks : step.Asks command
  made : step.made command = .ok script
  ends : ∃ outcome, step.result = .ok outcome ∧ outcome.exitCode = 0 ∧ outcome.stdout = ""
  named : ∃ output, command.output = some output ∧ step.before.target output = .ok place
    ∧ step.after.read output = .ok script
  written : step.after.entry? place = some (.file script.toUTF8)
  kept : ∀ other, other ≠ place → step.after.entry? other = step.before.entry? other
  spelled : ∀ path, step.before.source path = .ok place ∨ step.after.source path = .ok place →
    step.after.read path = .ok script
  elsewhere : ∀ path text, step.before.source path ≠ .ok place →
    step.before.read path = .ok text → step.after.read path = .ok text

/-- The run ends with an error, and with everything as it was. -/
structure Fails (outcome : Outcome) : Prop where
  exitCode : outcome.exitCode = 1
  stdout : outcome.stdout = ""
  kept : outcome.files = step.before

variable {step} {command : ConvertCommand}

theorem result_of_asks (h : step.Asks command) :
    step.result = .ok (Command.run (.convert command) step.invocation.environment step.before) :=
  run_of_parse h _ _

/-- A conversion says and leaves what its command executed on the files says and leaves. -/
theorem outcome_of_execute (h : step.Asks command) {report : Report} {files : Files}
    (hexecute : command.execute false step.before = (report, files)) :
    ∃ outcome, step.result = .ok outcome ∧ outcome.exitCode = report.exitCode
      ∧ outcome.stdout = report.stdout ∧ outcome.files = files := by
  refine ⟨_, result_of_asks h, ?_⟩
  simp only [Command.run, Command.execute, hexecute, and_self]

theorem after_of_result {outcome : Outcome} (h : step.result = .ok outcome) :
    step.after = outcome.files := by
  rw [after, h]

theorem fails (h : step.Asks command) (hobstructed : step.Obstructed command) :
    ∃ outcome, step.result = .ok outcome ∧ step.Fails outcome := by
  have hfailed : ∃ error, command.execute false step.before
      = (ConvertCommand.failed (command.script step.before.read) error, step.before) := by
    cases hmade : step.made command with
    | error error => exact ⟨error, ConvertCommand.execute_failed hmade⟩
    | ok script =>
        rcases hobstructed with ⟨error, herror⟩ | ⟨output, fault, houtput, hfault⟩
        · rw [hmade] at herror
          cases herror
        · exact ⟨_, ConvertCommand.execute_unwritable hmade houtput hfault⟩
  obtain ⟨error, hexecute⟩ := hfailed
  obtain ⟨outcome, hresult, hcode, hstdout, hfiles⟩ := outcome_of_execute h hexecute
  exact ⟨outcome, hresult, hcode, hstdout, hfiles⟩

theorem prints (h : step.Asks command) {script : String} (hmade : step.made command = .ok script)
    (hnone : command.output = none) :
    ∃ outcome, step.result = .ok outcome ∧ outcome.exitCode = 0 ∧ outcome.stdout = script
      ∧ outcome.files = step.before :=
  outcome_of_execute h (ConvertCommand.execute_printed hmade hnone)

theorem saves (h : step.Asks command) {script output : String} {place : Place}
    (hmade : step.made command = .ok script) (houtput : command.output = some output)
    (hplace : step.before.target output = .ok place) : step.Saves command place script := by
  obtain ⟨outcome, hresult, hcode, hstdout, hfiles⟩ :=
    outcome_of_execute h (ConvertCommand.execute_saved hmade houtput hplace)
  have hafter : step.after = step.before.put place (.file script.toUTF8) :=
    (after_of_result hresult).trans hfiles
  have hwritable := Files.writable_target hplace
  refine ⟨h, hmade, ⟨outcome, hresult, hcode, hstdout⟩, ⟨output, houtput, hplace, ?_⟩, ?_, ?_, ?_, ?_⟩
  · rw [hafter]
    exact Files.read_target hplace script
  · rw [hafter, Files.entry?_put hwritable, if_pos rfl]
  · intro other hother
    rw [hafter, Files.entry?_put hwritable, if_neg hother]
  · intro path hpath
    rw [hafter] at hpath ⊢
    refine Files.read_put_self hwritable script ?_
    rcases hpath with hbefore | hthen
    · exact Files.source_put hwritable _ hbefore
    · exact hthen
  · intro path text hother hread
    rw [hafter]
    exact Files.read_put hwritable _ hother hread

/-- Every conversion fails, prints its script or saves it. -/
theorem convert_cases (h : step.Asks command) :
    step.Obstructed command
      ∨ (∃ script, step.made command = .ok script ∧ command.output = none)
      ∨ (∃ place script, step.Saves command place script) := by
  cases hmade : step.made command with
  | error error => exact .inl (.inl ⟨error, hmade⟩)
  | ok script =>
      cases houtput : command.output with
      | none => exact .inr (.inl ⟨script, rfl, rfl⟩)
      | some output =>
          cases hplace : step.before.target output with
          | error fault => exact .inl (.inr ⟨output, fault, houtput, hplace⟩)
          | ok place => exact .inr (.inr ⟨place, script, saves h hmade houtput hplace⟩)

theorem not_obstructed {script : String} (hmade : step.made command = .ok script)
    (hplace : ∀ output, command.output = some output →
      ∃ place, step.before.target output = .ok place) : ¬ step.Obstructed command := by
  rintro (⟨error, herror⟩ | ⟨output, fault, houtput, hfault⟩)
  · rw [hmade] at herror
    cases herror
  · obtain ⟨place, hplace⟩ := hplace output houtput
    rw [hfault] at hplace
    cases hplace

theorem Saves.not_obstructed {place : Place} {script : String}
    (h : step.Saves command place script) : ¬ step.Obstructed command := by
  obtain ⟨output, houtput, hplace, -⟩ := h.named
  refine Step.not_obstructed h.made ?_
  intro other hother
  rw [houtput] at hother
  rw [← Option.some.inj hother]
  exact ⟨place, hplace⟩

/-- A run that does not save a script changes nothing. -/
theorem kept_or_saves (step : Step) :
    step.after = step.before ∨ ∃ command place script, step.Saves command place script := by
  cases hparse : CommandLine.parse step.invocation.arguments with
  | error usage =>
      left
      rw [after, result, run, hparse]
      rfl
  | ok asked =>
      cases asked with
      | list path =>
          left
          rw [after, result, run, hparse]
          rfl
      | convert command =>
          rcases convert_cases hparse with
            hobstructed | ⟨script, hmade, hnone⟩ | ⟨place, script, hsaves⟩
          · obtain ⟨outcome, hresult, hfailed⟩ := fails hparse hobstructed
            exact .inl ((after_of_result hresult).trans hfailed.kept)
          · obtain ⟨outcome, hresult, -, -, hfiles⟩ := prints hparse hmade hnone
            exact .inl ((after_of_result hresult).trans hfiles)
          · exact .inr ⟨command, place, script, hsaves⟩

end Step

/-! ## One run after another -/

/-- The runs of a session. Each one finds the files as the one before left them. -/
def session : Files → List Invocation → List Step
  | _, [] => []
  | files, invocation :: rest =>
    ⟨invocation, files⟩ :: session (Step.after ⟨invocation, files⟩) rest

/-- The files as a session leaves them. -/
def settled : Files → List Invocation → Files
  | files, [] => files
  | files, invocation :: rest => settled (Step.after ⟨invocation, files⟩) rest

/-- What stands at a place once runs are over: the script of the last one that wrote there. -/
def Latest (steps : List Step) (place : Place) (first last : Option FileEntry) : Prop :=
  ((∀ step ∈ steps, ∀ command script, ¬ step.Saves command place script) ∧ last = first)
    ∨ ∃ front step back command script, steps = front ++ step :: back
      ∧ step.Saves command place script
      ∧ (∀ later ∈ back, ∀ command script, ¬ later.Saves command place script)
      ∧ last = some (.file script.toUTF8)

/-- Where a run saves nothing, there stands what stood there. -/
theorem Step.entry?_after {step : Step} {place : Place}
    (h : ∀ command script, ¬ step.Saves command place script) :
    step.after.entry? place = step.before.entry? place := by
  rcases step.kept_or_saves with hkept | ⟨command, other, script, hsaves⟩
  · rw [hkept]
  · refine hsaves.kept place ?_
    rintro rfl
    exact h command script hsaves

theorem latest_settled (files : Files) (invocations : List Invocation) (place : Place) :
    Latest (session files invocations) place (files.entry? place)
      (Files.entry? (settled files invocations) place) := by
  induction invocations generalizing files with
  | nil => exact .inl ⟨fun _ h => (List.not_mem_nil h).elim, rfl⟩
  | cons invocation rest ih =>
      rw [session, settled]
      -- a later run that writes to the place counts, and else the first one does if it writes there
      rcases ih (Step.after ⟨invocation, files⟩) with
        ⟨hnone, hlast⟩ | ⟨front, step, back, command, script, hsteps, hsaves, hback, hlast⟩
      · by_cases hwrites : ∃ command script, Step.Saves ⟨invocation, files⟩ command place script
        · obtain ⟨command, script, hsaves⟩ := hwrites
          exact .inr ⟨[], _, _, command, script, rfl, hsaves, hnone, hlast.trans hsaves.written⟩
        · have hkept : ∀ command script,
              ¬ Step.Saves ⟨invocation, files⟩ command place script := by
            intro command script hsaves
            exact hwrites ⟨command, script, hsaves⟩
          refine .inl ⟨?_, hlast.trans (Step.entry?_after hkept)⟩
          intro step hstep
          rcases List.mem_cons.1 hstep with rfl | hrest
          · exact hkept
          · exact hnone step hrest
      · exact .inr ⟨⟨invocation, files⟩ :: front, step, back, command, script,
          congrArg (List.cons _) hsteps, hsaves, hback, hlast⟩

/-- An accepted conversion has an outcome, and its exit code tells whether its script is there and
can be written. -/
theorem Step.outcome_of_asks {step : Step} {command : ConvertCommand} (h : step.Asks command) :
    ∃ outcome, step.result = .ok outcome
      ∧ (outcome.exitCode = 0 → command.output.isSome →
          ∃ place script, step.Saves command place script)
      ∧ (outcome.exitCode ≠ 0 → step.Fails outcome)
      ∧ (outcome.exitCode ≠ 0 ↔ step.Obstructed command) := by
  rcases convert_cases h with
    hobstructed | ⟨script, hmade, hnone⟩ | ⟨place, script, hsaves⟩
  · obtain ⟨outcome, hresult, hfailed⟩ := fails h hobstructed
    have hcode : outcome.exitCode ≠ 0 := by
      rw [hfailed.exitCode]
      exact Nat.one_ne_zero
    exact ⟨outcome, hresult, fun hzero => absurd hzero hcode, fun _ => hfailed,
      fun _ => hobstructed, fun _ => hcode⟩
  · obtain ⟨outcome, hresult, hcode, -, -⟩ := prints h hmade hnone
    refine ⟨outcome, hresult, fun _ hsome => ?_, fun hfailed => absurd hcode hfailed,
      fun hfailed => absurd hcode hfailed, fun hobstructed => ?_⟩
    · rw [hnone] at hsome
      cases hsome
    · exact absurd hobstructed (not_obstructed hmade (by simp [hnone]))
  · obtain ⟨outcome, hresult, hcode, -⟩ := hsaves.ends
    exact ⟨outcome, hresult, fun _ _ => ⟨place, script, hsaves⟩,
      fun hfailed => absurd hcode hfailed, fun hfailed => absurd hcode hfailed,
      fun hobstructed => absurd hobstructed hsaves.not_obstructed⟩

/-- In any session, a run that does not save a script leaves all files as it found them, and a run
that does changes one file only, to the script that the files before it come to. A conversion saves
its script if it has an output path and succeeds; if it fails, then with nothing on the standard
output and nothing changed. What stands anywhere in the end is what was last saved there, or what
stood there at first. -/
theorem session_saves (files : Files) (invocations : List Invocation) :
    (∀ step ∈ session files invocations,
      (step.after = step.before ∨ ∃ command place script, step.Saves command place script)
      ∧ ∀ command, step.Asks command → ∃ outcome, step.result = .ok outcome
        ∧ (outcome.exitCode = 0 → command.output.isSome →
            ∃ place script, step.Saves command place script)
        ∧ (outcome.exitCode ≠ 0 → step.Fails outcome)
        ∧ (outcome.exitCode ≠ 0 ↔ step.Obstructed command))
    ∧ ∀ place, Latest (session files invocations) place (files.entry? place)
        (Files.entry? (settled files invocations) place) := by
  refine ⟨?_, latest_settled files invocations⟩
  intro step _
  refine ⟨step.kept_or_saves, ?_⟩
  intro command hasks
  exact Step.outcome_of_asks hasks

end LoadScript
