import LoadScript.Json.Value
import LoadScript.Log.Settings
import LoadScript.Text.Combining
import LoadScript.Text.Invisible
import LoadScript.Text.Unassigned

/-!
# Log lines

An event is logged on a line of its own: as words with `field=value` pairs behind them, or as a JSON
object. A line is given here in a normal form. It has no time stamp, its level is neither padded nor
coloured, and the members of a JSON object are sorted by name; none of this depends on the event.
-/

namespace LoadScript.Log

def codeEscape (c : Char) : List Char :=
  '\\' :: 'u' :: '\x7b' :: (Nat.toDigits 16 c.toNat ++ ['\x7d'])

/-- Whether a character shows on its own, so that a reader of the line sees which one it is. -/
def isReadable (c : Char) : Bool :=
  !(Text.isInvisible c || Text.isCombining c || Text.isUnassigned c)

def fieldChar (c : Char) : List Char :=
  match c with
  | '"' => ['\\', '"']
  | '\\' => ['\\', '\\']
  | '\n' => ['\\', 'n']
  | '\r' => ['\\', 'r']
  | '\t' => ['\\', 't']
  | '\x00' => ['\\', '0']
  | c => if isReadable c then [c] else codeEscape c

def FieldValue.text : FieldValue → String
  | number value => toString value
  | shown value => value
  | quoted value => "\"" ++ String.ofList (value.toList.flatMap fieldChar) ++ "\""

def FieldValue.jsonText : FieldValue → String
  | number value => toString value
  | shown value | quoted value => Json.Value.quoted value

/-- A JSON object of members whose values are JSON texts, sorted by name. -/
def objectText (members : List (String × String)) : String :=
  "\x7b" ++ ",".intercalate ((Json.sortMembers members).map fun member =>
    Json.Value.quoted member.1 ++ ":" ++ member.2) ++ "\x7d"

namespace Event

/-- An event as a line of text, without a time stamp and with the bare name of its level. -/
def textLine (event : Event) : String :=
  event.level.label ++ " " ++ event.target ++ ": " ++ event.message
    ++ String.join (event.fields.map fun field => " " ++ field.1 ++ "=" ++ field.2.text)

/-- An event as a JSON object, without a time stamp and with sorted members. -/
def jsonLine (event : Event) : String :=
  objectText
    [("level", Json.Value.quoted event.level.label),
     ("target", Json.Value.quoted event.target),
     ("fields", objectText <|
       ("message", Json.Value.quoted event.message)
         :: event.fields.map fun field => (field.1, field.2.jsonText))]

def line (format : Format) (event : Event) : String :=
  (match format with
    | .text => event.textLine
    | .json => event.jsonLine) ++ "\n"

end Event

/-- The log of a run: a line for every event that passes the filter. -/
def render (settings : Settings) (events : List Event) : String :=
  String.join ((events.filter settings.directives.passes).map (Event.line settings.format))

end LoadScript.Log
