import LoadScript.Input

/-!
# The command line

There are two commands, each with a collection, and the conversion has options with a path each.
Arguments are taken from left to right: a fault in them is final as soon as it is met, and so is a
request for help. What only all arguments together can show, a missing collection or two data files,
is checked at the end.
-/

namespace LoadScript

/-- The paths that a conversion is given on the command line, each under the name of its option. -/
structure ConvertArguments where
  collection : String
  globals : Option String
  environment : Option String
  json : Option String
  csv : Option String
  output : Option String
  deriving DecidableEq, Repr

/-- A conversion. Without an output path its script is written to the standard output. -/
structure ConvertCommand where
  collection : String
  options : Options
  output : Option String
  deriving DecidableEq, Repr

def ConvertArguments.options (arguments : ConvertArguments) : Options :=
  { globals := arguments.globals
    environment := arguments.environment
    json := arguments.json
    csv := arguments.csv }

def ConvertArguments.command (arguments : ConvertArguments) : ConvertCommand :=
  { collection := arguments.collection
    options := arguments.options
    output := arguments.output }

inductive Command where
  | convert (command : ConvertCommand)
  | list (collection : String)
  deriving DecidableEq, Repr

inductive Usage where
  | help
  | version
  | invalid
  deriving DecidableEq, Repr

def Usage.exitCode : Usage → Nat
  | help | version => 0
  | invalid => 2

namespace CommandLine

inductive PathOption where
  | globals
  | environment
  | json
  | csv
  | output
  deriving DecidableEq, Repr

namespace PathOption

def all : List PathOption := [globals, environment, json, csv, output]

def letter : PathOption → Char
  | globals => 'g'
  | environment => 'e'
  | json => 'j'
  | csv => 'c'
  | output => 'O'

def name : PathOption → String
  | globals => "globals"
  | environment => "environment"
  | json => "json"
  | csv => "csv"
  | output => "output"

end PathOption

inductive Argument where
  /-- The two dashes after which everything is a value. -/
  | separator
  /-- A name after two dashes, with the value that is attached to it by an equals sign. -/
  | long (name : List Char) (attached : Option (List Char))
  | short (letter : Char) (attached : List Char)
  /-- A value; a dash alone is one. -/
  | value (text : String)
  deriving DecidableEq, Repr

def Argument.ofText (text : String) : Argument :=
  match text.toList with
  | ['-', '-'] => separator
  | '-' :: '-' :: rest =>
    match rest.span (· ≠ '=') with
    | (name, '=' :: attached) => long name (some attached)
    | (name, _) => long name none
  | '-' :: letter :: attached => short letter attached
  | _ => value text

/-- The value that is attached to a letter; an equals sign between the two is not part of it. -/
def attachedValue? : List Char → Option String
  | [] => none
  | '=' :: rest => some (String.ofList rest)
  | attached => some (String.ofList attached)

inductive Part where
  | separator
  | collection (path : String)
  | path (option : PathOption) (path : String)
  | pending (option : PathOption)
  deriving DecidableEq, Repr

/-- What an option gives, with or without an attached path; an option that the command does not have
is a fault. -/
def Part.ofOption : Option PathOption → Option String → Except Usage Part
  | none, _ => .error .invalid
  | some option, some text => .ok (path option text)
  | some option, none => .ok (pending option)

def Part.ofText (options : List PathOption) (text : String) : Except Usage Part :=
  match Argument.ofText text with
  | .separator => .ok separator
  | .value value => .ok (collection value)
  | .long name attached =>
    if name = "help".toList then .error (if attached.isSome then .invalid else .help)
    else
      ofOption (options.find? fun option => option.name.toList = name) (attached.map String.ofList)
  | .short letter attached =>
    if letter = 'h' then .error .help
    else ofOption (options.find? fun option => option.letter = letter) (attachedValue? attached)

structure Given where
  collection : Option String
  paths : List (PathOption × String)
  deriving DecidableEq, Repr

namespace Given

def nothing : Given := ⟨none, []⟩

def path? (given : Given) (option : PathOption) : Option String :=
  (given.paths.find? fun entry => entry.1 = option).map Prod.snd

/-- Takes the collection. There is only one, and its path is not empty. -/
def takeCollection (given : Given) (path : String) : Except Usage Given :=
  if path = "" ∨ given.collection.isSome then .error .invalid
  else .ok { given with collection := some path }

/-- Takes the path of an option, which is given once only and not empty. -/
def takePath (given : Given) (option : PathOption) (path : String) : Except Usage Given :=
  if path = "" ∨ (given.path? option).isSome then .error .invalid
  else .ok { given with paths := given.paths ++ [(option, path)] }

def takeValues (given : Given) : List String → Except Usage Given
  | [] => .ok given
  | path :: rest => do (← given.takeCollection path).takeValues rest

/-- Takes all arguments of a command that has the given options. The path of an option, when it is an
argument of its own, has to be a value by its form. -/
def takeAll (options : List PathOption) (given : Given) : List String → Except Usage Given
  | [] => .ok given
  | argument :: rest => do
    match ← Part.ofText options argument with
    | .separator => given.takeValues rest
    | .collection path => (← given.takeCollection path).takeAll options rest
    | .path option path => (← given.takePath option path).takeAll options rest
    | .pending option =>
      match rest with
      | [] => .error .invalid
      | next :: rest =>
        match Argument.ofText next with
        | .value path => (← given.takePath option path).takeAll options rest
        | _ => .error .invalid

def toConvert (given : Given) : Except Usage Command :=
  match given.collection, given.path? .json, given.path? .csv with
  | none, _, _ | _, some _, some _ => .error .invalid
  | some collection, json, csv =>
    let arguments : ConvertArguments :=
      { collection
        globals := given.path? .globals
        environment := given.path? .environment
        json
        csv
        output := given.path? .output }
    .ok (.convert arguments.command)

def toList (given : Given) : Except Usage Command :=
  match given.collection with
  | none => .error .invalid
  | some collection => .ok (.list collection)

end Given

def parseConvert (arguments : List String) : Except Usage Command := do
  (← Given.nothing.takeAll PathOption.all arguments).toConvert

/-- Reads the arguments of a listing, which has no options. -/
def parseList (arguments : List String) : Except Usage Command := do
  (← Given.nothing.takeAll [] arguments).toList

def parseHelp : List String → Usage
  | [] => .help
  | [topic] => if topic ∈ ["convert", "list", "help"] then .help else .invalid
  | _ => .invalid

def parse : List String → Except Usage Command
  | [] => .error .invalid
  | first :: rest =>
    match first with
    | "convert" => parseConvert rest
    | "list" => parseList rest
    | "help" => .error (parseHelp rest)
    | _ => match Argument.ofText first with
      | .long name none =>
        if name = "help".toList then .error .help
        else if name = "version".toList then .error .version
        else .error .invalid
      | .short letter _ =>
        if letter = 'h' then .error .help
        else if letter = 'V' then .error .version
        else .error .invalid
      | _ => .error .invalid

end CommandLine

end LoadScript
