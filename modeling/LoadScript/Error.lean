import LoadScript.Files

/-!
# What can go wrong

The causes for which a collection cannot be listed or converted, and their wording. About a text
that is not the JSON it should be, only the fact is told; where the text fails is not.
-/

namespace LoadScript

inductive Error where
  | malformedCollection
  | malformedVariables (path : String)
  | malformedRows (path : String)
  /-- The first line of a table is blank. -/
  | missingHeader (path : String)
  | unreadable (path : String) (fault : FileFault)
  | fileField (key : String) (transaction : String)
  | bodyMode (mode : String) (transaction : String)
  | missingMethod (transaction : String)
  | missingUrl (transaction : String)
  | twoDataFiles
  | unwritable (fault : FileFault)
  deriving DecidableEq, Repr

namespace Error

def message : Error → String
  | malformedCollection => "Failed to parse input: Failed to parse collection JSON"
  | malformedVariables path => "Failed to parse input: Failed to parse variable file " ++ path
  | malformedRows path =>
    "Failed to parse input: Data file " ++ path ++ " must be an array of row objects"
  | missingHeader path => "Failed to parse input: Data file " ++ path ++ " has no header row"
  | unreadable path fault =>
    "File not found or unreadable: Failed to read file " ++ path ++ ": " ++ fault.message
  | fileField key transaction =>
    "Unsupported body type: File field '" ++ key ++ "' in form body of '" ++ transaction ++ "'"
  | bodyMode mode transaction =>
    "Unsupported body type: Body mode '" ++ mode ++ "' in '" ++ transaction ++ "'"
  | missingMethod transaction =>
    "Validation error: Transaction '" ++ transaction ++ "' has no method"
  | missingUrl transaction => "Validation error: Transaction '" ++ transaction ++ "' has no URL"
  | twoDataFiles =>
    "Validation error: Only one data file may be supplied: json and csv are mutually exclusive"
  | unwritable fault => "IO error: " ++ fault.message

def source? : Error → Option String
  | unwritable fault => some fault.message
  | _ => none

/-- Whether the message stops where an account of the malformed text would begin. -/
def isOpenEnded : Error → Bool
  | malformedCollection | malformedVariables _ | malformedRows _ => true
  | _ => false

def hang (indent : String) (text : String) : String :=
  String.ofList (text.toList.flatMap fun c => if c = '\n' then c :: indent.toList else [c])

/-- The report of a run that failed: what it was about, and the chain of causes. An error with a
source is numbered, and an open-ended message leaves its line open. -/
def report (context : String) (error : Error) : String :=
  "Error: " ++ context ++ "\n\nCaused by:\n" ++
    match error.source? with
    | none => "    " ++ hang "    " error.message ++ if error.isOpenEnded then "" else "\n"
    | some source =>
      "    0: " ++ hang "       " error.message ++ "\n" ++
      "    1: " ++ hang "       " source ++ "\n"

end Error

end LoadScript
