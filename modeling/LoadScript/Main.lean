import LoadScript.Run

/-!
# The program

The outer layer: it reads the files that a command names, prints what the command says, and writes
the script. What is read, said and written is decided elsewhere.
-/

open LoadScript

/-- The fault behind a failure of the system. -/
def faultOf : IO.Error → FileFault
  | .noFileOrDirectory .. => .notFound
  | .permissionDenied _ code details | .inappropriateType _ code details
  | .invalidArgument _ code details | .resourceExhausted _ code details
  | .noSuchThing _ code details | .alreadyExists _ code details
  | .resourceBusy code details | .otherError code details => .system details code.toNat
  | other => .system (toString other) 0

def readText (path : String) : IO (Except FileFault String) := do
  match Path.ofText path with
  | .error fault => return .error fault
  | .ok _ =>
    try
      match String.fromUTF8? (← IO.FS.readBinFile path) with
      | some text => return .ok text
      | none => return .error .notText
    catch failure => return .error (faultOf failure)

def writeText (path text : String) : IO (Except FileFault Unit) := do
  match Path.ofText path with
  | .error fault => return .error fault
  | .ok _ =>
    try
      IO.FS.writeBinFile path text.toUTF8
      return .ok ()
    catch failure => return .error (faultOf failure)

/-- A reader of the files under the given paths, as they are now. -/
def readerOf (paths : List String) : IO Reader := do
  let contents ← paths.mapM fun path => return (path, ← readText path)
  return fun path => (contents.lookup path).getD (.error .notFound)

def perform (color : Bool) : Command → IO Report
  | .list path => do
    let read ← readerOf [path]
    return listReport color path (read.collection path)
  | .convert command => do
    let made := command.script (← readerOf command.inputs)
    let written ← match command.write? made with
      | none => pure (.ok ())
      | some (path, script) => writeText path script
    return command.report color made written

def main (arguments : List String) : IO UInt32 := do
  match CommandLine.parse arguments with
  | .error usage =>
    let text := "usage: convert [OPTIONS] COLLECTION | list COLLECTION\n"
    if usage = .invalid then IO.eprint text else IO.print text
    return usage.exitCode.toUInt32
  | .ok command =>
    let environment : Environment :=
      { logFilter := ← IO.getEnv "RUST_LOG", logFormat := ← IO.getEnv "LOG_FORMAT" }
    let report ← perform (← (← IO.getStdout).isTty) command
    IO.print report.stdout
    IO.eprint (report.log environment ++ report.remarks command.context)
    return report.exitCode.toUInt32
