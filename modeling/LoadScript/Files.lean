import LoadScript.OrderedMap
import LoadScript.Text.Cut

/-!
# Files and directories

A `Files` value holds files, directories and symbolic links by their places, which are counted from
the root. A path is resolved step by step as a file system does, an absolute one from the root and
any other from the working directory: a step starts from a directory, so `file/..` is refused, and
so is `missing/..`. A step to a link goes on with the path that the link holds, from the directory
of the link, so no place that a path leads to is that of a link. There are no hard links. So a file
has one place, to which all the spellings of its path lead, be they absolute, by way of the
directory above, through links, or plain.
-/

namespace LoadScript

inductive FileFault where
  /-- The system refuses, with its words and its number for the reason. -/
  | system (reason : String) (code : Nat)
  | notText
  /-- No file name can hold the character NUL. -/
  | nulInName
  deriving DecidableEq, Repr

namespace FileFault

def notFound : FileFault := .system "No such file or directory" 2

def notDirectory : FileFault := .system "Not a directory" 20

def isDirectory : FileFault := .system "Is a directory" 21

def tooManyLinks : FileFault := .system "Too many levels of symbolic links" 40

/-- A path or a name on it has more bytes than the system takes. -/
def nameTooLong : FileFault := .system "File name too long" 36

def message : FileFault → String
  | .system reason code => reason ++ " (os error " ++ toString code ++ ")"
  | .notText => "stream did not contain valid UTF-8"
  | .nulInName => "file name contained an unexpected NUL byte"

end FileFault

/-- A path as it is written: the names on it, and whether a slash stands at its end. -/
structure Path where
  absolute : Bool
  names : List String
  slash : Bool
  deriving DecidableEq, Repr

namespace Path

def maxBytes : Nat := 4095

def maxNameBytes : Nat := 255

/-- The path that a text spells. Of slashes beside each other one counts. -/
def ofText (text : String) : Except FileFault Path :=
  if text.toList.contains '\x00' then .error .nulInName
  else if text = "" then .error .notFound
  else if maxBytes < text.utf8ByteSize then .error .nameTooLong
  else
    let parts := Text.cutAt '/' text.toList
    .ok { absolute := parts.head? = some []
          names := (parts.filter (· ≠ [])).map String.ofList
          slash := parts.getLast? = some [] }

end Path

/-- The names that lead from the root to a file, directory or link, without detours. -/
abbrev Place := List String

inductive FileEntry where
  | file (content : ByteArray)
  | directory
  /-- A symbolic link, by the path that it holds. -/
  | link (target : Path)

/-- What stands at places, and the place of the working directory. -/
structure Files where
  directory : Place
  entries : OrderedMap Place FileEntry

namespace Path

/-- The place that a path starts at which is not absolute, or the root. -/
def start (path : Path) (directory : Place) : Place := if path.absolute then [] else directory

/-- The names on a path. A slash at its end is one more step, with an empty name. -/
def steps (path : Path) : List String := path.names ++ if path.slash then [""] else []

end Path

namespace Files

def empty : Files := ⟨["work"], OrderedMap.empty⟩

/-- What stands at a place. The working directory is a directory whatever there is, and so are those
above it. -/
def entry? (files : Files) (place : Place) : Option FileEntry :=
  if place.isPrefixOf files.directory then some .directory else files.entries.get? place

def put (files : Files) (place : Place) (entry : FileEntry) : Files :=
  { files with entries := files.entries.insert place entry }

def putDirectory (files : Files) (names : List String) : Files :=
  (List.range names.length).foldl
    (fun files depth => files.put (files.directory ++ names.take (depth + 1)) .directory) files

def putFile (files : Files) (names : List String) (content : ByteArray) : Files :=
  (files.putDirectory names.dropLast).put (files.directory ++ names) (.file content)

/-- The directory above a place. The root is above itself. -/
def above (place : Place) : Place := place.dropLast

/-- How many links a path may lead through. -/
def maxLinks : Nat := 40

/-- The place that steps lead to from another place, where `through` goes on at a link. With
`create`, the last name may be missing, and no slash may stand behind it. -/
def followWith (through : Place → List String → Except FileFault Place) (files : Files)
    (create : Bool) (place : Place) : List String → Except FileFault Place
  | [] => .ok place
  | name :: rest =>
    match files.entry? place with
    | none => .error .notFound
    | some .directory =>
      if name = "" ∨ name = "." then followWith through files create place rest
      else if name = ".." then followWith through files create (above place) rest
      else if create ∧ rest = [""] then .error .isDirectory
      else if Path.maxNameBytes < name.utf8ByteSize then .error .nameTooLong
      else match files.entry? (place ++ [name]) with
        | none => if create ∧ rest = [] then .ok (place ++ [name]) else .error .notFound
        | some (.link target) => through (target.start place) (target.steps ++ rest)
        | some _ => followWith through files create (place ++ [name]) rest
    | some _ => .error .notDirectory

/-- The place that steps lead to from another place, through so many links at most. -/
def follow (files : Files) (create : Bool) : Nat → Place → List String → Except FileFault Place
  | 0 => followWith (fun _ _ => .error .tooManyLinks) files create
  | links + 1 => followWith (follow files create links) files create

def locate (files : Files) (create : Bool) (path : Path) : Except FileFault Place :=
  files.follow create maxLinks (path.start files.directory) path.steps

def read (files : Files) (path : String) : Except FileFault String := do
  let path ← Path.ofText path
  let place ← files.locate false path
  match files.entry? place with
  | none => .error .notFound
  | some (.file content) =>
    match String.fromUTF8? content with
    | none => .error .notText
    | some text => .ok text
  | some _ => .error .isDirectory

/-- The place at which a file is written under a path. Its directory has to be there, and it must
not be a directory itself. -/
def writePlace (files : Files) (path : Path) : Except FileFault Place := do
  let place ← files.locate true path
  match files.entry? place with
  | none | some (.file _) => .ok place
  | some _ => .error .isDirectory

def write (files : Files) (path : String) (text : String) : Except FileFault Files := do
  let path ← Path.ofText path
  let place ← files.writePlace path
  .ok (files.put place (.file text.toUTF8))

end Files

end LoadScript
