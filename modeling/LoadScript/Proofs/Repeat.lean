import LoadScript.Proofs.OutputOption
import LoadScript.Proofs.Session
import LoadScript.Proofs.Stages

/-!
# Saving a script once more

A conversion depends on the files that it reads and on nothing else
(`convert_congr`). Which ones it reads depends on what stands in them: a file is
read once those in front of it have turned out to be what they should be
(`Reads`). A conversion that comes to a script has read them all, and has found a
text in each (`Reads.exists_text`).

So let the output path lead to none of them. The write of the first run then
leaves each of them as it was, under whatever path it is named, and a path that
led nowhere before was not read. The second run finds the same texts, comes to
the same script, and writes it over itself (`execute_execute`).
-/

namespace LoadScript

theorem Traced.bind_congr {α β : Type} {step : Traced α} {first second : α → Traced β}
    (h : ∀ a, step.outcome = .ok a → first a = second a) : step >>= first = step >>= second := by
  show step.andThen first = step.andThen second
  rw [Traced.andThen, Traced.andThen]
  cases hstep : step.outcome with
  | error error => rfl
  | ok a =>
      show Traced.mk _ _ = Traced.mk _ _
      rw [h a hstep]

namespace Reader

variable {read other : Reader} {path : String} {options : Options}

/-! ## The files that are read -/

/-- A conversion reads a file once those in front of it have turned out to be what they should
be. -/
inductive Reads (read : Reader) (path : String) (options : Options) : String → Prop where
  | collection : Reads read path options path
  | globals {input : String} {collection : Collection} :
      (read.collection path).outcome = .ok collection →
      options.globals = some input → Reads read path options input
  | environment {input : String} {collection : Collection} {globals : Option Variables} :
      (read.collection path).outcome = .ok collection →
      (read.variableFile? options.globals).outcome = .ok globals →
      options.environment = some input → Reads read path options input
  | data {input : String} {collection : Collection} {globals environment : Option Variables} :
      (read.collection path).outcome = .ok collection →
      (read.variableFile? options.globals).outcome = .ok globals →
      (read.variableFile? options.environment).outcome = .ok environment →
      options.json.or options.csv = some input → Reads read path options input

theorem text_congr {input : String} (h : other input = read input) :
    other.text input = read.text input := by
  rw [text, text, h]

theorem collection_congr (h : other path = read path) :
    other.collection path = read.collection path := by
  rw [collection, collection, text_congr h]

theorem variableFile?_congr {file : Option String}
    (h : ∀ input, file = some input → other input = read input) :
    other.variableFile? file = read.variableFile? file := by
  cases file with
  | none => rfl
  | some input =>
      rw [variableFile?, variableFile?, variableFile, variableFile, text_congr (h input rfl)]

theorem rowSource_congr
    (h : ∀ input, options.json.or options.csv = some input → other input = read input) :
    other.rowSource options = read.rowSource options := by
  rw [rowSource, rowSource]
  cases hjson : options.json with
  | some input =>
      rw [hjson] at h
      simp only [rows, text_congr (h input rfl)]
  | none =>
      rw [hjson] at h
      cases hcsv : options.csv with
      | some input =>
          rw [hcsv] at h
          simp only [table, text_congr (h input rfl)]
      | none => rfl

/-- A conversion depends on nothing but the files that it reads. -/
theorem convert_congr (h : ∀ input, Reads read path options input → other input = read input) :
    convert other path options = convert read path options := by
  rw [convert, convert]
  refine Traced.bind_congr fun _ _ => ?_
  rw [collection_congr (h path .collection)]
  refine Traced.bind_congr fun collection hcollection => ?_
  have hsources : other.sources collection options = read.sources collection options := by
    rw [sources, sources,
      variableFile?_congr fun input hinput => h input (.globals hcollection hinput)]
    refine Traced.bind_congr fun globals hglobals => ?_
    rw [variableFile?_congr fun input hinput => h input (.environment hcollection hglobals hinput)]
    refine Traced.bind_congr fun environment henvironment => ?_
    rw [rowSource_congr fun input hinput =>
      h input (.data hcollection hglobals henvironment hinput)]
  rw [hsources]

/-! ## A script has read its files -/

theorem exists_text_of_bind {α : Type} {input : String} {next : String → Traced α} {a : α}
    (h : (read.text input >>= next).outcome = .ok a) : ∃ text, read input = .ok text := by
  obtain ⟨text, hread, -⟩ := text_bind_eq_ok h
  exact ⟨text, hread⟩

theorem exists_text_of_variableFile? {file : Option String} {input : String}
    {vars : Option Variables} (hfile : file = some input)
    (h : (read.variableFile? file).outcome = .ok vars) : ∃ text, read input = .ok text := by
  rw [hfile, variableFile?, Traced.outcome_map] at h
  obtain ⟨loaded, hloaded, -⟩ := map_eq_ok_iff.1 h
  exact exists_text_of_bind hloaded

theorem exists_text_of_rowSource {input : String} {rows : RowSource}
    (hfile : options.json.or options.csv = some input)
    (h : (read.rowSource options).outcome = .ok rows) : ∃ text, read input = .ok text := by
  rw [rowSource, Traced.outcome_bind] at h
  obtain ⟨_, -, hrows⟩ := bind_eq_ok_iff.1 h
  cases hjson : options.json with
  | some path =>
      rw [hjson] at hfile hrows
      rw [← Option.some.inj hfile]
      exact exists_text_of_bind hrows
  | none =>
      rw [hjson, Option.none_or] at hfile
      rw [hjson, hfile] at hrows
      exact exists_text_of_bind hrows

/-- A conversion that comes to a script has found a text in each file that it reads. -/
theorem Reads.exists_text {script input : String} (h : Reads read path options input)
    (hmade : (convert read path options).outcome = .ok script) :
    ∃ text, read input = .ok text := by
  obtain ⟨collection, sources, hcollection, hsources, -⟩ := exists_sources_of_convert hmade
  obtain ⟨hglobals, henvironment, hrows, -⟩ := sources_eq_ok hsources
  cases h with
  | collection => exact exists_text_of_bind hcollection
  | globals _ hfile => exact exists_text_of_variableFile? hfile hglobals
  | environment _ _ hfile => exact exists_text_of_variableFile? hfile henvironment
  | data _ _ _ hfile => exact exists_text_of_rowSource hfile hrows

end Reader

/-! ## The script once more -/

namespace ConvertCommand

variable {command : ConvertCommand} {files : Files}

/-- The file that a conversion writes is none of those that it reads. -/
def Apart (command : ConvertCommand) (files : Files) : Prop :=
  ∀ output input place, command.output = some output → files.target output = .ok place →
    Reader.Reads files.read command.collection command.options input →
    files.source input ≠ .ok place

/-- The script is what it was before it was written. -/
theorem script_put {script output : String} {place : Place}
    (hapart : command.Apart files) (hmade : (command.script files.read).outcome = .ok script)
    (houtput : command.output = some output) (hplace : files.target output = .ok place)
    (content : ByteArray) :
    command.script (files.put place (.file content)).read = command.script files.read := by
  refine Reader.convert_congr fun input hreads => ?_
  obtain ⟨text, htext⟩ := hreads.exists_text hmade
  rw [htext]
  exact Files.read_put (Files.writable_target hplace) content
    (hapart output input place houtput hplace hreads) htext

/-- A conversion that is executed again says the same and leaves the same. -/
theorem execute_execute (color : Bool) (hapart : command.Apart files) :
    command.execute color (command.execute color files).2 = command.execute color files := by
  cases hmade : (command.script files.read).outcome with
  | error error => rw [execute_failed hmade, execute_failed hmade]
  | ok script =>
      cases houtput : command.output with
      | none => rw [execute_printed hmade houtput, execute_printed hmade houtput]
      | some output =>
          cases hplace : files.target output with
          | error fault =>
              rw [execute_unwritable hmade houtput hplace, execute_unwritable hmade houtput hplace]
          | ok place =>
              -- the second run writes what is there already
              have hsame := script_put hapart hmade houtput hplace script.toUTF8
              rw [execute_saved hmade houtput hplace,
                execute_saved (hsame ▸ hmade) houtput (Files.target_put hplace _), hsame,
                Files.put_put]

/-- What is written to a file is what would be printed. -/
theorem execute_output (color : Bool) {output : String} {place : Place}
    (houtput : command.output = some output) (hplace : files.target output = .ok place) :
    (command.execute color files).1.exitCode
        = (execute { command with output := none } color files).1.exitCode
      ∧ ((execute { command with output := none } color files).1.exitCode = 0 →
          (command.execute color files).2 = files.put place
            (.file (execute { command with output := none } color files).1.stdout.toUTF8)) := by
  cases hmade : (command.script files.read).outcome with
  | error error =>
      have hplain : execute { command with output := none } color files
          = (failed (command.script files.read) error, files) := execute_failed hmade
      rw [execute_failed hmade, hplain]
      exact ⟨rfl, fun hzero => absurd hzero Nat.one_ne_zero⟩
  | ok script =>
      have hsame : (ConvertCommand.script { command with output := none } files.read).outcome
          = .ok script := hmade
      rw [execute_saved hmade houtput hplace, execute_printed hsame rfl]
      exact ⟨rfl, fun _ => rfl⟩

end ConvertCommand

/-- A conversion writes to its output path what it prints without one, whenever it can write there.
If none of the files that it reads is the one that it writes, then a second run, in whatever
environment, ends like the first one: with the same exit code, the same texts but for the log, and
the same files. The log tells of the same events. -/
theorem run_repeated {arguments : List String} {command : ConvertCommand} {output : String}
    {files : Files} (first again : Environment)
    (haccepted : CommandLine.parse arguments = .ok (.convert command))
    (houtput : command.output = some output) (hapart : command.Apart files) :
    ∃ saved printed repeated report,
      run arguments first files = .ok saved
      ∧ run (CommandLine.withoutOutput arguments) first files = .ok printed
      ∧ run arguments again saved.files = .ok repeated
      ∧ (∀ place, files.target output = .ok place →
          saved.exitCode = printed.exitCode
          ∧ (printed.exitCode = 0 →
              saved.files.entry? place = some (.file printed.stdout.toUTF8)
              ∧ saved.files.read output = .ok printed.stdout))
      ∧ repeated.exitCode = saved.exitCode
      ∧ repeated.stdout = saved.stdout
      ∧ repeated.files = saved.files
      ∧ (again = first → repeated = saved)
      ∧ saved.stderr = Report.log report first ++ report.remarks (Command.convert command).context
      ∧ repeated.stderr
          = Report.log report again ++ report.remarks (Command.convert command).context := by
  have hagain := ConvertCommand.execute_execute false hapart
  refine ⟨_, _, _, (command.execute false files).1, run_of_parse haccepted first files,
    run_of_parse (CommandLine.parse_withoutOutput haccepted) first files,
    run_of_parse haccepted again _, ?_, ?_⟩
  · intro place hplace
    obtain ⟨hcode, hfiles⟩ := ConvertCommand.execute_output false houtput hplace
    refine ⟨hcode, fun hzero => ?_⟩
    show Files.entry? (command.execute false files).2 place = _
      ∧ (command.execute false files).2.read output = _
    rw [hfiles hzero]
    refine ⟨?_, Files.read_target hplace _⟩
    rw [Files.entry?_put (Files.writable_target hplace), if_pos rfl]
    rfl
  · simp only [Command.run, Command.execute, hagain, true_and, and_true]
    rintro rfl
    rfl

/-- A directory with a collection of one request in it. -/
def desk : Files :=
  Files.empty.putFile ["c.json"] "\x7b\"item\": [\x7b\"request\": \"http://host/\"\x7d]\x7d".toUTF8

def deskCommand : ConvertCommand := ⟨"c.json", ⟨none, none, none, none⟩, some "out.js"⟩

theorem apart_desk : deskCommand.Apart desk := by
  intro output input place houtput hplace hreads
  have htarget : desk.target "out.js" = .ok ["work", "out.js"] := by decide +kernel
  rw [← Option.some.inj houtput, htarget] at hplace
  rw [← Except.ok.inj hplace]
  cases hreads with
  | collection => decide +kernel
  | globals _ hfile => cases hfile
  | environment _ _ hfile => cases hfile
  | data _ _ _ hfile => cases hfile

/-- An output path that spells the collection in another way is not apart from it. -/
example : ¬ ConvertCommand.Apart ⟨"c.json", ⟨none, none, none, none⟩, some "../work/c.json"⟩ desk :=
  fun h => absurd (show desk.source "c.json" = .ok ["work", "c.json"] by decide +kernel)
    (h _ _ _ rfl (by decide +kernel) .collection)

theorem run_repeated_desk :
    CommandLine.parse ["convert", "-Oout.js", "c.json"] = .ok (.convert deskCommand)
      ∧ deskCommand.Apart desk
      ∧ ∃ saved printed repeated,
        run ["convert", "-Oout.js", "c.json"] ⟨none, none⟩ desk = .ok saved
        ∧ run ["convert", "c.json"] ⟨none, none⟩ desk = .ok printed
        ∧ run ["convert", "-Oout.js", "c.json"] ⟨some "debug", none⟩ saved.files = .ok repeated
        ∧ saved.exitCode = 0 ∧ repeated.exitCode = 0
        ∧ saved.files.read "out.js" = .ok printed.stdout
        ∧ repeated.files.read "out.js" = .ok printed.stdout := by
  have hparse : CommandLine.parse ["convert", "-Oout.js", "c.json"]
      = .ok (.convert deskCommand) := by decide +kernel
  have harguments : CommandLine.withoutOutput ["convert", "-Oout.js", "c.json"]
      = ["convert", "c.json"] := by decide +kernel
  have hcode : (run ["convert", "c.json"] ⟨none, none⟩ desk).map Outcome.exitCode = .ok 0 := by
    decide +kernel
  obtain ⟨saved, printed, repeated, -, hsaved, hprinted, hrepeated, hwritten, hsame, -, hfiles,
    -⟩ := run_repeated ⟨none, none⟩ ⟨some "debug", none⟩ hparse rfl apart_desk
  rw [harguments] at hprinted
  rw [hprinted] at hcode
  obtain ⟨hboth, hread⟩ := hwritten ["work", "out.js"] (by decide +kernel)
  have hzero := hboth.trans (Except.ok.inj hcode)
  have hsaid := (hread (Except.ok.inj hcode)).2
  exact ⟨hparse, apart_desk, saved, printed, repeated, hsaved, hprinted, hrepeated, hzero,
    hsame.trans hzero, hsaid, hfiles ▸ hsaid⟩

end LoadScript
