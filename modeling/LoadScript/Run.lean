import LoadScript.CommandLine
import LoadScript.Conversion
import LoadScript.Listing
import LoadScript.Log.Line

/-!
# Runs of the program

A run takes the arguments, the environment and the files, and leaves an exit code, the texts on the
two output streams, and the files as they are then. Nothing is written before the whole script is
there, and only a conversion with an output path writes at all.
-/

namespace LoadScript

structure Report where
  stdout : String
  stderr : String
  events : List Log.Event
  failure : Option Error

def writtenNotice (color : Bool) (path : String) : String :=
  Text.Style.green.paint color "✓" ++ " Generated k6 script: " ++ path ++ "\n"

namespace ConvertCommand

/-- The paths that a conversion may read. -/
def inputs (command : ConvertCommand) : List String :=
  command.collection :: [command.options.globals, command.options.environment,
    command.options.json, command.options.csv].filterMap id

def script (command : ConvertCommand) (read : Reader) : Traced String :=
  convert read command.collection command.options

/-- What a conversion writes, once the script is made: a path and a text, if it has an output
path. -/
def write? (command : ConvertCommand) (made : Traced String) : Option (String × String) :=
  match made.outcome, command.output with
  | .ok script, some path => some (path, script)
  | _, _ => none

/-- What a conversion says, once the script is made and writing it, if that is asked for, has
succeeded or not. Without an output path the script goes to the standard output. -/
def report (command : ConvertCommand) (color : Bool) (made : Traced String)
    (written : Except FileFault Unit) : Report :=
  let failed (error : Error) : Report :=
    { stdout := "", stderr := "", events := made.events, failure := some error }
  match made.outcome, command.output, written with
  | .error error, _, _ => failed error
  | .ok _, some _, .error fault => failed (.unwritable fault)
  | .ok _, some path, .ok () =>
    { stdout := "", stderr := writtenNotice color path, events := made.events, failure := none }
  | .ok script, none, _ =>
    { stdout := script, stderr := "", events := made.events, failure := none }

def execute (command : ConvertCommand) (color : Bool) (files : Files) : Report × Files :=
  let made := command.script files.read
  match command.write? made with
  | none => (command.report color made (.ok ()), files)
  | some (path, script) =>
    match files.write path script with
    | .error fault => (command.report color made (.error fault), files)
    | .ok files => (command.report color made (.ok ()), files)

end ConvertCommand

def listReport (color : Bool) (path : String) (loaded : Traced Collection) : Report :=
  match loaded.outcome with
  | .error error =>
    { stdout := Listing.preamble color path, stderr := "", events := loaded.events,
      failure := some error }
  | .ok collection =>
    { stdout := Listing.preamble color path ++ Listing.body color collection, stderr := "",
      events := loaded.events, failure := none }

namespace Command

def execute (command : Command) (color : Bool) (files : Files) : Report × Files :=
  match command with
  | .convert command => command.execute color files
  | .list path => (listReport color path (Reader.collection files.read path), files)

def context : Command → String
  | .convert command => "Failed to convert " ++ command.collection
  | .list path => "Failed to list " ++ path

def output? : Command → Option String
  | .convert command => command.output
  | .list _ => none

end Command

structure Environment where
  logFilter : Option String
  logFormat : Option String
  deriving DecidableEq, Repr

namespace Report

def exitCode (report : Report) : Nat := if report.failure.isSome then 1 else 0

def log (report : Report) (environment : Environment) : String :=
  let settings := Log.Settings.ofEnvironment environment.logFilter environment.logFormat
  Log.render settings (.started settings.filter :: report.events)

/-- What a command says on the standard error stream besides the log: its own words, or the report
of its failure. -/
def remarks (report : Report) (context : String) : String :=
  report.stderr ++ (report.failure.map (Error.report context)).getD ""

end Report

structure Outcome where
  exitCode : Nat
  stdout : String
  stderr : String
  files : Files

/-- A run of a command, the output streams not being terminals. The log comes first. -/
def Command.run (command : Command) (environment : Environment) (files : Files) : Outcome :=
  let (report, after) := command.execute false files
  { exitCode := report.exitCode
    stdout := report.stdout
    stderr := report.log environment ++ report.remarks command.context
    files := after }

def run (arguments : List String) (environment : Environment) (files : Files) :
    Except Usage Outcome :=
  (CommandLine.parse arguments).map fun command => command.run environment files

end LoadScript
