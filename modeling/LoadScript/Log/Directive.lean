import LoadScript.Json.Number
import LoadScript.Log.Event
import LoadScript.Log.Pattern

/-!
# Directives

A directive names modules and a level up to which their events pass: `target=level`. In brackets
behind the target it can demand more of an event, `target[{field}]=level` that it has a field.

Blanks in front of a directive are skipped when its parts are marked off, but not when they are cut
out, so that with `n` such blanks every part is read `n` characters too early.
-/

namespace LoadScript.Log

def levelOfRank? : Nat → Option (Option Level)
  | 0 => some none
  | 1 => some (some .error)
  | 2 => some (some .warn)
  | 3 => some (some .info)
  | 4 => some (some .debug)
  | 5 => some (some .trace)
  | _ => none

def numberedLevel? (word : List Char) : Option (Option Level) :=
  let digits := if word.head? = some '+' then word.tail else word
  if digits ≠ [] ∧ digits.all Char.isDigit then levelOfRank? (Json.digitsValue digits) else none

def namedLevel? (word : String) : Option (Option Level) :=
  match Text.lowerAscii word with
  | "off" => some none
  | "error" => some (some .error)
  | "warn" => some (some .warn)
  | "info" => some (some .info)
  | "debug" => some (some .debug)
  | "trace" => some (some .trace)
  | _ => none

/-- The level that a word says by its rank or by its name. A blank belongs to the word, so a word
with one says none. -/
def level? (word : List Char) : Option (Option Level) :=
  (numberedLevel? word).or (namedLevel? (String.ofList word))

inductive Demand where
  | nothing
  | field (name : String)
  /-- The event happens in a span of time that has a name, or a field with a value. Nothing opens
  spans here, so no event does. -/
  | span
  deriving DecidableEq, Repr

namespace Demand

def ofField? (text : List Char) : Option Demand :=
  match text.span (· ≠ '=') with
  | (_, '=' :: value) => if Pattern.isValue (value.takeWhile (· ≠ '=')) then some span else none
  | (name, _) => some (field (String.ofList name))

/-- Reads a demand behind its opening bracket. The parts are marked off in `text` and cut out of
`source` at the same places. Gives what is left of both behind the closing bracket. -/
def parse? (text source : List Char) : Option (Demand × List Char × List Char) :=
  match text.span fun c => c ≠ ']' && c ≠ '\x7b' with
  | (name, ']' :: rest) => some (.span, rest, source.drop (name.length + 1))
  | (name, '\x7b' :: inner) =>
    let source := source.drop (name.length + 1)
    match inner.span (· ≠ '\x7d') with
    | ([], _) => none
    | (asked, '\x7d' :: ']' :: rest) =>
      (ofField? (source.take asked.length)).map fun demand =>
        (if name = [] then demand else .span, rest, source.drop (asked.length + 2))
    | _ => none
  | _ => none

/-- Whether an event is as demanded. The words of an event count as a field. -/
def holds (event : Event) : Demand → Bool
  | nothing => true
  | field name => name = "message" || event.fields.any (·.1 = name)
  | span => false

/-- Whether the first of two demands asks for more. Of two fields the one whose name is later in the
alphabet counts as more. -/
def exceeds : Demand → Demand → Bool
  | field _, nothing => true
  | field first, field second => second < first
  | _, _ => false

end Demand

/-- A directive: of the events that are as demanded, from modules whose name begins with `target`,
those up to `level` pass; with no level, none do. -/
structure Directive where
  target : String
  demand : Demand
  level : Option Level
  deriving DecidableEq, Repr

namespace Directive

def mayStart (c : Char) : Bool := Text.isAlphanumeric c || "-:_[".contains c

def levelBehind? (word : List Char) : Option (Option Level) :=
  if word = [] then some (some .trace) else level? word

/-- Reads a directive: a level, which then holds for all modules, or a target with or without a
demand and a level. A blank at the end belongs to the level or to a target that stands alone. -/
def parse? (text : List Char) : Option Directive :=
  let body := text.dropWhile Text.isBlank
  if !body.head?.any mayStart then none
  else match body.span fun c => c ≠ '=' && c ≠ '[' with
    | (target, '=' :: _) =>
      (levelBehind? (text.drop (target.length + 1))).map fun level =>
        ⟨String.ofList (text.take target.length), .nothing, level⟩
    | (target, '[' :: inner) =>
      let name := String.ofList (text.take target.length)
      match Demand.parse? inner (text.drop (target.length + 1)) with
      | none => none
      | some (demand, '=' :: _, source) =>
        (levelBehind? (source.drop 1)).map fun level => ⟨name, demand, level⟩
      | some (demand, rest, _) =>
        if rest.all Text.isBlank then some ⟨name, demand, some .trace⟩ else none
    | _ =>
      match level? text with
      | some level => some ⟨"", .nothing, level⟩
      | none => some ⟨String.ofList text, .nothing, some .trace⟩

def covers (directive : Directive) (event : Event) : Bool :=
  directive.target.toList.isPrefixOf event.target.toList && directive.demand.holds event

/-- Whether the first of two directives that cover an event says more about it: it has the longer
target, or with the same target it demands more. -/
def exceeds (first second : Directive) : Bool :=
  second.target.length < first.target.length ||
    (first.target = second.target && first.demand.exceeds second.demand)

/-- The directive that governs an event of two that cover it: the one that says more, and else the
later. -/
def better (earlier later : Directive) : Directive :=
  if earlier.exceeds later then earlier else later

end Directive

end LoadScript.Log
