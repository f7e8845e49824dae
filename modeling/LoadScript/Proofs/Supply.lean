import LoadScript.Proofs.Scope
import LoadScript.Proofs.Stages
import LoadScript.Proofs.Statements
import LoadScript.Proofs.VariableFile

/-!
# From the files to the declaration

The variables of an origin are read from one text, that of the collection or of
a file that is given for the origin (`Supplies`). If a conversion comes to a
script, that text holds variables (`HasVars`), and the script declares them by
one property each, in their order (`declaredMembers?_of_supplies`). How the text
has to look to hold them is for each of its formats to say.
-/

namespace LoadScript

namespace Script

open Ecma

/-- The properties that a script declares for an origin, read from its text. An
origin that is left out has none. -/
def declaredMembers? (origin : Origin) (text : String) : Option (List (Key × Expr)) :=
  match (tokens? text).map declarations with
  | some [declaration] =>
    match Scope.declared? origin declaration with
    | some (.object members) => some members
    | some _ => none
    | none => some []
  | _ => none

def membersOf (entries : List (String × Json.Value)) : List (Key × Expr) :=
  entries.map fun entry => (keyOf entry.1, entry.2.expr)

theorem declaredMembers?_scriptOf {ts : List Transaction} (hts : ts ≠ []) (sources : Sources)
    {origin : Origin} (horigin : origin ≠ .data) :
    declaredMembers? origin (scriptOf ts sources).render
      = some (membersOf (entriesOf (varsOf sources origin))) := by
  have hscope : (scriptOf ts sources).scope = Scope.ofSources sources := rfl
  rw [declaredMembers?, tokens?_scriptOf hts, Option.map_some, declarations_tokens, hscope]
  simp only [declared?_ofSources sources horigin]
  split
  · next heq =>
      split at heq
      · cases heq
      · rw [← Expr.object.inj (Option.some.inj heq), membersOf]
  · next hother heq =>
      split at heq
      · cases heq
      · exact absurd (Option.some.inj heq).symm (hother _)
  · next heq =>
      split at heq
      · next hempty => rw [hempty, membersOf, List.map_nil]
      · cases heq

end Script

/-- The text that the variables of an origin are read from. -/
inductive Supplies (read : Reader) (path : String) (options : Options) :
    Script.Origin → String → Prop where
  | global {file text : String} : options.globals = some file → read file = .ok text →
      Supplies read path options .global text
  | environment {file text : String} : options.environment = some file → read file = .ok text →
      Supplies read path options .environment text
  | collection {text : String} : read path = .ok text →
      Supplies read path options .collection text

/-- The variables that a text holds as the text of an origin. -/
def HasVars (text : String) (vars : Variables) : Script.Origin → Prop
  | .global | .environment => Variables.parse? text = some vars
  | .collection => ∃ collection, (Collection.parse text).outcome = .ok collection
      ∧ collection.vars = vars
  | .data => False

theorem parse?_of_variableFile? {read : Reader} {given : Option String} {file text : String}
    {loaded : Option Variables} (hgiven : given = some file) (hread : read file = .ok text)
    (h : (read.variableFile? given).outcome = .ok loaded) :
    ∃ vars, Variables.parse? text = some vars ∧ loaded = some vars := by
  rw [hgiven, Reader.variableFile?, Traced.outcome_map, outcome_variableFile hread] at h
  obtain ⟨vars, hvars, rfl⟩ := map_eq_ok_iff.1 h
  cases hparse : Variables.parse? text with
  | none =>
      rw [hparse] at hvars
      cases hvars
  | some read =>
      rw [hparse] at hvars
      exact ⟨read, rfl, congrArg some (Except.ok.inj hvars).symm⟩

section Conversion

variable {read : Reader} {path : String} {options : Options} {origin : Script.Origin}
  {text : String}

theorem hasVars_of_supplies {collection : Collection} {sources : Sources}
    (hcollection : (read.collection path).outcome = .ok collection)
    (hsources : (read.sources collection options).outcome = .ok sources)
    (h : Supplies read path options origin text) :
    ∃ vars, HasVars text vars origin ∧ Script.varsOf sources origin = some vars := by
  obtain ⟨hglobals, henvironment, -, hvars⟩ := Reader.sources_eq_ok hsources
  cases h with
  | global hgiven hread => exact parse?_of_variableFile? hgiven hread hglobals
  | environment hgiven hread => exact parse?_of_variableFile? hgiven hread henvironment
  | collection hread =>
      obtain ⟨other, hother, hparse⟩ := parse_of_collection hcollection
      obtain rfl := Except.ok.inj (hread.symm.trans hother)
      exact ⟨collection.vars, ⟨collection, hparse, rfl⟩, hvars⟩

/-- A script declares the variables that it is given for an origin. -/
theorem declaredMembers?_of_supplies {script : String}
    (hscript : (convert read path options).outcome = .ok script)
    (hfull : script ≠ Script.emptyText) (h : Supplies read path options origin text) :
    ∃ vars, HasVars text vars origin
      ∧ Script.declaredMembers? origin script = some (Script.membersOf vars.entries) := by
  obtain ⟨collection, sources, hcollection, hsources, rfl⟩ := exists_sources_of_convert hscript
  obtain ⟨vars, hvars, hsame⟩ := hasVars_of_supplies hcollection hsources h
  have hts : collection.transactions ≠ [] := by
    intro hnone
    refine hfull ((Script.render_eq_emptyText_iff _).2 ?_)
    rw [Script.scriptOf, hnone, List.map_nil]
  have horigin : origin ≠ .data := by
    rintro rfl
    exact hvars
  refine ⟨vars, hvars, ?_⟩
  rw [Script.declaredMembers?_scriptOf hts sources horigin, hsame]
  rfl

end Conversion

end LoadScript
