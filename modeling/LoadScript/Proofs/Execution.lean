import LoadScript.Proofs.OutputOption
import LoadScript.Proofs.Session
import LoadScript.Proofs.Stages

/-!
# How commands are executed

A conversion is executed in one of four ways (`ConvertCommand.executes`): its
script is not there, or it is and goes to the standard output, or it cannot be
written, or it is written. Each way leaves a report and files of its own, and
what a run says, leaves and fails with is read off them.

No arguments give a conversion with two data files. Without two data files
nothing on the way from the files to the script fails with that conflict, so no
run does (`Command.failure_ne_conflict`).
-/

namespace LoadScript

/-! ## The ways to execute a conversion -/

/-- The ways to execute a conversion, each with its report and the files as it leaves them. -/
inductive ConvertCommand.Executes (command : ConvertCommand) (color : Bool) (files : Files) :
    Report × Files → Prop where
  | failed (error : Error) : (command.script files.read).outcome = .error error →
      Executes command color files (failed (command.script files.read) error, files)
  | printed (script : String) : (command.script files.read).outcome = .ok script →
      command.output = none →
      Executes command color files
        ({ stdout := script, stderr := "", events := (command.script files.read).events,
           failure := none }, files)
  | unwritable (script output : String) (fault : FileFault) :
      (command.script files.read).outcome = .ok script → command.output = some output →
      files.target output = .error fault →
      Executes command color files
        (failed (command.script files.read) (.unwritable fault), files)
  | saved (script output : String) (place : Place) :
      (command.script files.read).outcome = .ok script → command.output = some output →
      files.target output = .ok place →
      Executes command color files
        ({ stdout := "", stderr := writtenNotice color output,
           events := (command.script files.read).events, failure := none },
         files.put place (.file script.toUTF8))

theorem ConvertCommand.executes {command : ConvertCommand} {color : Bool} {files : Files}
    {executed : Report × Files} (h : command.execute color files = executed) :
    command.Executes color files executed := by
  rw [← h]
  cases hmade : (command.script files.read).outcome with
  | error error =>
      rw [execute_failed hmade]
      exact .failed error hmade
  | ok script =>
      cases houtput : command.output with
      | none =>
          rw [execute_printed hmade houtput]
          exact .printed script hmade houtput
      | some output =>
          cases hplace : files.target output with
          | error fault =>
              rw [execute_unwritable hmade houtput hplace]
              exact .unwritable script output fault hmade houtput hplace
          | ok place =>
              rw [execute_saved hmade houtput hplace]
              exact .saved script output place hmade houtput hplace

/-! ## No conflict of data files -/

theorem CommandLine.oneDataFile_of_parse {arguments : List String} {command : ConvertCommand}
    (h : parse arguments = .ok (.convert command)) :
    ¬ (command.options.json.isSome ∧ command.options.csv.isSome) := by
  obtain ⟨rest, rfl, hconvert⟩ := convert_of_parse h
  obtain ⟨given, -, hasked⟩ := bind_eq_ok_iff.1 hconvert
  rw [Given.toConvert] at hasked
  split at hasked
  · cases hasked
  · cases hasked
  · next hboth =>
      obtain ⟨rfl⟩ := Command.convert.inj (Except.ok.inj hasked)
      rintro ⟨hjson, hcsv⟩
      obtain ⟨json, hjson⟩ := Option.isSome_iff_exists.1 hjson
      obtain ⟨csv, hcsv⟩ := Option.isSome_iff_exists.1 hcsv
      exact hboth _ _ hjson hcsv

namespace Reader

variable (read : Reader)

theorem mem_of_firstFailure? {stages : List (Option Error)} {error : Error}
    (h : firstFailure? stages = some error) : some error ∈ stages := by
  obtain ⟨stage, hstage, rfl⟩ := List.exists_of_findSome?_eq_some h
  exact hstage

theorem unreadable?_ne (path : String) : read.unreadable? path ≠ some .twoDataFiles := by
  rw [unreadable?]
  split <;> simp

theorem refused?_ne (path : String) (fits : String → Bool) {error : Error}
    (h : error ≠ .twoDataFiles) : read.refused? path fits error ≠ some .twoDataFiles := by
  rw [refused?, onText?]
  split
  · split
    · simp
    · simpa using h
  · simp

theorem faultyRequest?_ne (path : String) : read.faultyRequest? path ≠ some .twoDataFiles := by
  rw [faultyRequest?, onText?]
  split
  · intro hfaulty
    obtain ⟨document, -, hfirst⟩ := Option.bind_eq_some_iff.1 hfaulty
    obtain ⟨named, -, hfault⟩ := List.exists_of_findSome?_eq_some hfirst
    -- no fault of a request is about data files
    cases Document.Request.transaction_eq_error_iff.1 (failure?_eq_some_iff.1 hfault) with
    | body _ hbody => cases hbody
  · simp

theorem not_mem_file (path : String) (fits : String → Bool) {error : Error}
    (h : error ≠ .twoDataFiles) :
    some .twoDataFiles ∉ [read.unreadable? path, read.refused? path fits error] := by
  simp [(read.unreadable?_ne path).symm, (read.refused?_ne path fits h).symm]

theorem not_mem_collectionStages (path : String) :
    some .twoDataFiles ∉ read.collectionStages path := by
  have hother : Error.malformedCollection ≠ .twoDataFiles := by simp
  have hrefused := read.refused?_ne path (fun text => (Document.parse? text).isSome) hother
  simp [collectionStages, (read.unreadable?_ne path).symm, hrefused.symm,
    (read.faultyRequest?_ne path).symm]

/-- No stage of a conversion fails with the conflict of two data files, save that of the options. -/
theorem not_mem_stages (path : String) (options : Options) :
    some .twoDataFiles ∉ read.collectionStages path ++ read.variableStages options.globals
      ++ read.variableStages options.environment ++ read.rowsStages options.json
      ++ read.tableStages options.csv := by
  have hvariables : ∀ file, some .twoDataFiles ∉ read.variableStages file := by
    intro file
    cases file with
    | none => exact List.not_mem_nil
    | some file => exact read.not_mem_file file _ (by simp)
  have hrows : ∀ file, some .twoDataFiles ∉ read.rowsStages file := by
    intro file
    cases file with
    | none => exact List.not_mem_nil
    | some file => exact read.not_mem_file file _ (by simp)
  have htable : ∀ file, some .twoDataFiles ∉ read.tableStages file := by
    intro file
    cases file with
    | none => exact List.not_mem_nil
    | some file => exact read.not_mem_file file _ (by simp)
  simp only [List.mem_append, not_or]
  exact ⟨⟨⟨⟨read.not_mem_collectionStages path, hvariables _⟩, hvariables _⟩, hrows _⟩, htable _⟩

theorem collection_ne_conflict (path : String) :
    (read.collection path).outcome ≠ .error .twoDataFiles := by
  intro h
  rw [← failure?_eq_some_iff, failure?_collection] at h
  exact read.not_mem_collectionStages path (mem_of_firstFailure? h)

theorem convert_ne_conflict (path : String) {options : Options}
    (h : ¬ (options.json.isSome ∧ options.csv.isSome)) :
    (convert read path options).outcome ≠ .error .twoDataFiles := by
  intro hconflict
  rw [← failure?_eq_some_iff, failure?_convert, stages, firstFailure?_cons,
    (conflict?_eq_none_iff options).2 h, Option.none_or] at hconflict
  exact read.not_mem_stages path options (mem_of_firstFailure? hconflict)

end Reader

theorem Command.failure_ne_conflict {arguments : List String} {command : Command}
    (h : CommandLine.parse arguments = .ok command) (color : Bool) (files : Files) :
    (command.execute color files).1.failure ≠ some .twoDataFiles := by
  cases command with
  | list path =>
      have hcollection := Reader.collection_ne_conflict files.read path
      rw [Command.execute, listReport]
      cases hloaded : (Reader.collection files.read path).outcome with
      | ok collection => simp
      | error error =>
          rw [hloaded] at hcollection
          simpa using hcollection
  | convert command =>
      have hone := CommandLine.oneDataFile_of_parse h
      have hscript : (command.script files.read).outcome ≠ .error .twoDataFiles :=
        Reader.convert_ne_conflict files.read command.collection hone
      rw [Command.execute]
      generalize hexecute : command.execute color files = executed
      cases ConvertCommand.executes hexecute with
      | failed error hmade =>
          rw [hmade] at hscript
          simpa [ConvertCommand.failed] using hscript
      | printed => simp
      | unwritable => simp [ConvertCommand.failed]
      | saved => simp

/-! ## What a conversion leaves -/

/-- What a run leaves, with these remarks behind its log. -/
structure Outcome.Leaves (outcome : Outcome) (exitCode : Nat) (stdout remarks : String)
    (files : Files) : Prop where
  exitCode : outcome.exitCode = exitCode
  stdout : outcome.stdout = stdout
  stderr : ∃ log, outcome.stderr = log ++ remarks
  files : outcome.files = files

/-- How a conversion ends, by what is made of its files and by the output path that it has or has
not: with a failure, or with the script on the standard output, or in a file that can be written or
not. -/
inductive Ends (collection : String) (files : Files) (outcome : Outcome) :
    Except Error String → Option String → Prop where
  | failed (error : Error) (output : Option String) :
      outcome.Leaves 1 "" (error.report ("Failed to convert " ++ collection)) files →
      Ends collection files outcome (.error error) output
  | printed (script : String) : outcome.Leaves 0 script "" files →
      Ends collection files outcome (.ok script) none
  | unwritable (script path : String) (fault : FileFault) :
      files.write path script = .error fault →
      outcome.Leaves 1 "" ((Error.unwritable fault).report ("Failed to convert " ++ collection))
        files →
      Ends collection files outcome (.ok script) (some path)
  | saved (script path : String) (after : Files) : files.write path script = .ok after →
      outcome.Leaves 0 "" (writtenNotice false path) after →
      Ends collection files outcome (.ok script) (some path)

theorem leaves_of_execute {command : ConvertCommand} {files after : Files} {report : Report}
    (h : command.execute false files = (report, after)) (environment : Environment) :
    (Command.run (.convert command) environment files).Leaves report.exitCode report.stdout
      (report.remarks ("Failed to convert " ++ command.collection)) after := by
  rw [Command.run, Command.execute, h]
  exact ⟨rfl, rfl, ⟨report.log environment, rfl⟩, rfl⟩

theorem remarks_failed (made : Traced String) (error : Error) (context : String) :
    (ConvertCommand.failed made error).remarks context = error.report context := by
  simp [Report.remarks, ConvertCommand.failed]

theorem ends_run (command : ConvertCommand) (environment : Environment) (files : Files) :
    Ends command.collection files (Command.run (.convert command) environment files)
      (convert files.read command.collection command.options).outcome command.output := by
  show Ends _ _ _ (command.script files.read).outcome _
  generalize hexecute : command.execute false files = executed
  cases ConvertCommand.executes hexecute with
  | failed error hmade =>
      rw [hmade]
      have hleaves := leaves_of_execute hexecute environment
      rw [remarks_failed] at hleaves
      exact .failed error _ hleaves
  | printed script hmade hnone =>
      rw [hmade, hnone]
      exact .printed script (leaves_of_execute hexecute environment)
  | unwritable script output fault hmade hsome hplace =>
      have hwrite : files.write output script = .error fault := by
        rw [Files.write_eq, hplace]
        rfl
      rw [hmade, hsome]
      have hleaves := leaves_of_execute hexecute environment
      rw [remarks_failed] at hleaves
      exact .unwritable script output fault hwrite hleaves
  | saved script output place hmade hsome hplace =>
      have hwrite : files.write output script = .ok (files.put place (.file script.toUTF8)) := by
        rw [Files.write_eq, hplace]
        rfl
      rw [hmade, hsome]
      have hleaves := leaves_of_execute hexecute environment
      simp only [Report.remarks, Option.map_none, Option.getD_none,
        String.append_empty] at hleaves
      exact .saved script output _ hwrite hleaves

end LoadScript
