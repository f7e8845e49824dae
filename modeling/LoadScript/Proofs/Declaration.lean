import LoadScript.Proofs.Ecma.Statement
import LoadScript.Proofs.Scope

/-!
# What the scope statement declares

The text of the scope statement is read as a call with its arguments
(`Scope.arguments?`), and an argument as an object whose properties are
variables with their values, or the name of a constant (`properties?`). What is
read are the sources and nothing else (`Declares`): the origins that have
variables, in their order, each with all the entries of its map in the order of
the map, and the rows if there is a data file.

The declaration of an origin is made from the entries of its map, so the text
cannot tell an empty map from one that is not there (`ofSources_congr`).
-/

namespace LoadScript.Script

open Ecma

inductive Property where
  /-- Variables, with the JSON values that their literals denote. -/
  | vars (entries : List (String × Json.Value))
  | name (text : String)

def Property.ofExpr? : Expr → Option Property
  | .object members => (Json.Value.memberValues? members).map .vars
  | .name text => some (.name text)
  | _ => none

/-- The properties of an object, with the names under which they stand. -/
def properties? : Expr → Option (List (String × Property))
  | .object members =>
    members.mapM fun m => (Property.ofExpr? m.2).map fun property => (m.1.text, property)
  | _ => none

/-- The arguments of a scope statement, read from its text. -/
def Scope.arguments? (text : String) : Option (List Expr) :=
  match (tokens? text).bind Expr.read? with
  | some (.call (.index (.name "postman") (.name "Scope")) arguments, [.punctuator ";"]) =>
    some arguments
  | _ => none

/-! ## The statement read back -/

def Declared.property : Declared → Property
  | .values vars => .vars vars.entries
  | .rows => .name rowsName

theorem memberValues?_objectOf (entries : List (String × Json.Value)) :
    Json.Value.memberValues? (entries.map fun entry => (keyOf entry.1, entry.2.expr))
      = some entries := by
  induction entries with
  | nil => rfl
  | cons entry rest ih =>
      rw [List.map_cons, Json.Value.memberValues?, Json.Value.ofExpr?_expr, ih, keyOf_text]
      rfl

theorem Declared.ofExpr?_expr (declared : Declared) :
    Property.ofExpr? declared.expr = some declared.property := by
  cases declared with
  | values vars =>
      rw [Declared.expr, objectOf, Property.ofExpr?, memberValues?_objectOf]
      rfl
  | rows => rfl

namespace Scope

def properties (scope : Scope) : List (String × Property) :=
  scope.entries.map fun entry => (entry.1.key, entry.2.property)

theorem properties?_object (scope : Scope) :
    properties? scope.object = some scope.properties := by
  rw [object, objectOf, properties?, properties]
  induction scope.entries with
  | nil => rfl
  | cons entry rest ih =>
      rw [List.map_cons, List.mapM_cons, ih, Declared.ofExpr?_expr, keyOf_text]
      rfl

/-- The text of a scope is a call with the scope for its only argument, or without
an argument if nothing is declared. -/
theorem arguments?_render (scope : Scope) :
    arguments? scope.render = some (if scope.isEmpty then [] else [scope.object]) := by
  have hread : Expr.read? (scope.expr.tokens ++ [semicolon]) = some (scope.expr, [semicolon]) :=
    Expr.read?_tokens (fun token h => by rw [← Option.some.inj h]; rfl) scope.expr
  rw [arguments?, scope.spells_render.lexes.tokens?_eq, Option.bind_some]
  rw [semicolon] at hread
  rw [hread, expr]
  rfl

end Scope

/-! ## What the origins declare -/

theorem mem_declaredValues {origin other : Origin} {vars : Option Variables}
    {declared : Declared} :
    (other, declared) ∈ declaredValues origin vars ↔
      other = origin ∧ ∃ m, vars = some m ∧ m.entries ≠ [] ∧ declared = .values m := by
  rcases declaredValues_eq origin vars with ⟨hempty, hnone⟩ | ⟨m, rfl, hfull, hsome⟩
  · rw [hnone]
    refine ⟨fun h => absurd h List.not_mem_nil, ?_⟩
    rintro ⟨-, m, rfl, hfull, -⟩
    exact absurd hempty hfull
  · rw [hsome, List.mem_singleton, Prod.mk.injEq]
    constructor
    · rintro ⟨rfl, rfl⟩
      exact ⟨rfl, m, rfl, hfull, rfl⟩
    · rintro ⟨rfl, n, hn, -, rfl⟩
      exact ⟨rfl, by rw [Option.some.inj hn]⟩

theorem mem_declaredRows {origin : Origin} {data : RowSource} {declared : Declared} :
    (origin, declared) ∈ declaredRows data ↔
      origin = .data ∧ data ≠ .absent ∧ declared = .rows := by
  cases data with
  | absent => simp [declaredRows]
  | _ => simp [declaredRows]

theorem mem_ofSources {sources : Sources} {origin : Origin} {declared : Declared} :
    (origin, declared) ∈ (Scope.ofSources sources).entries ↔
      (∃ m, varsOf sources origin = some m ∧ m.entries ≠ [] ∧ declared = .values m)
        ∨ (origin = .data ∧ sources.data ≠ .absent ∧ declared = .rows) := by
  simp only [Scope.ofSources, List.mem_append, mem_declaredValues, mem_declaredRows]
  cases origin with
  | data => simp [varsOf]
  | _ => simp [varsOf]

theorem map_key_declaredValues (origin : Origin) (vars : Option Variables) :
    ((declaredValues origin vars).map fun entry => entry.1.key).Sublist [origin.key] := by
  rcases declaredValues_eq origin vars with ⟨-, hnone⟩ | ⟨m, -, -, hsome⟩
  · rw [hnone]
    exact List.nil_sublist _
  · rw [hsome]
    exact List.Sublist.refl _

theorem map_key_declaredRows (data : RowSource) :
    ((declaredRows data).map fun entry => entry.1.key).Sublist [Origin.data.key] := by
  cases data with
  | absent => exact List.nil_sublist _
  | _ => exact List.Sublist.refl _

theorem declaredValues_congr (origin : Origin) {vars others : Option Variables}
    (h : entriesOf vars = entriesOf others) :
    declaredValues origin vars = declaredValues origin others := by
  rcases declaredValues_eq origin vars with ⟨hempty, hnone⟩ | ⟨m, rfl, hfull, hsome⟩
  · rcases declaredValues_eq origin others with ⟨-, hnone'⟩ | ⟨n, rfl, hfull', -⟩
    · rw [hnone, hnone']
    · exact absurd (h.symm.trans hempty) hfull'
  · rcases declaredValues_eq origin others with ⟨hempty', -⟩ | ⟨n, rfl, -, -⟩
    · exact absurd (h.trans hempty') hfull
    · rw [OrderedMap.ext h]

theorem declaredRows_congr {data other : RowSource} (h : data = .absent ↔ other = .absent) :
    declaredRows data = declaredRows other := by
  cases data with
  | absent => rw [h.1 rfl]
  | _ =>
      cases other with
      | absent => exact absurd (h.2 rfl) (by simp)
      | _ => rfl

/-- Sources with the same entries in each origin, with a data file or without one,
are declared alike. -/
theorem ofSources_congr {sources others : Sources}
    (h : ∀ origin, entriesOf (varsOf sources origin) = entriesOf (varsOf others origin))
    (hdata : sources.data = .absent ↔ others.data = .absent) :
    Scope.ofSources sources = Scope.ofSources others := by
  have hglobals : declaredValues .global sources.globals = declaredValues .global others.globals :=
    declaredValues_congr .global (h .global)
  have henvironment : declaredValues .environment sources.environment
      = declaredValues .environment others.environment :=
    declaredValues_congr .environment (h .environment)
  have hcollection : declaredValues .collection sources.collection
      = declaredValues .collection others.collection :=
    declaredValues_congr .collection (h .collection)
  rw [Scope.ofSources, Scope.ofSources, hglobals, henvironment, hcollection,
    declaredRows_congr hdata]

theorem isEmpty_ofSources (sources : Sources) :
    (Scope.ofSources sources).isEmpty = true ↔
      (∀ origin, entriesOf (varsOf sources origin) = []) ∧ sources.data = .absent := by
  rw [Scope.isEmpty, List.isEmpty_iff]
  constructor
  · intro hnone
    have hnothing : ∀ origin declared, (origin, declared) ∉ (Scope.ofSources sources).entries := by
      intro origin declared
      rw [hnone]
      exact List.not_mem_nil
    constructor
    · intro origin
      by_contra hfull
      cases hvars : varsOf sources origin with
      | none => exact hfull (by rw [hvars]; rfl)
      | some m =>
          rw [hvars] at hfull
          exact hnothing origin _ (mem_ofSources.2 (Or.inl ⟨m, hvars, hfull, rfl⟩))
    · by_contra hrows
      exact hnothing .data _ (mem_ofSources.2 (Or.inr ⟨rfl, hrows, rfl⟩))
  · rintro ⟨hvars, hdata⟩
    refine List.eq_nil_iff_forall_not_mem.2 ?_
    rintro ⟨origin, declared⟩ hmem
    rcases mem_ofSources.1 hmem with ⟨m, hm, hfull, -⟩ | ⟨-, hrows, -⟩
    · have hempty := hvars origin
      rw [hm] at hempty
      exact hfull hempty
    · exact hrows hdata

/-! ## What is declared are the sources -/

/-- The properties of a declaration are what the sources supply. -/
structure Declares (sources : Sources) (properties : List (String × Property)) : Prop where
  /-- The origins stand in their order, and none of them twice. -/
  order : (properties.map Prod.fst).Sublist ["global", "environment", "collection", "data"]
  /-- An origin of variables is there if it has any, with all of them in the order
  of its map. -/
  vars : ∀ origin, origin ≠ .data → ∀ property, (origin.key, property) ∈ properties ↔
    ∃ m, varsOf sources origin = some m ∧ m.entries ≠ [] ∧ property = .vars m.entries
  /-- The rows are there if there is a data file. -/
  rows : ∀ property, (Origin.data.key, property) ∈ properties ↔
    sources.data ≠ .absent ∧ property = .name "file"

theorem mem_properties {scope : Scope} {origin : Origin} {property : Property} :
    (origin.key, property) ∈ scope.properties ↔
      ∃ declared, (origin, declared) ∈ scope.entries ∧ declared.property = property := by
  rw [Scope.properties, List.mem_map]
  constructor
  · rintro ⟨⟨other, declared⟩, hmem, heq⟩
    obtain ⟨hkey, hproperty⟩ := Prod.mk.inj heq
    obtain rfl : other = origin := Scope.key_inj.1 hkey
    exact ⟨declared, hmem, hproperty⟩
  · rintro ⟨declared, hmem, rfl⟩
    exact ⟨(origin, declared), hmem, rfl⟩

theorem declares_ofSources (sources : Sources) :
    Declares sources (Scope.ofSources sources).properties where
  order := by
    rw [Scope.properties, Scope.ofSources, List.map_map]
    simp only [List.map_append]
    exact (((map_key_declaredValues .global _).append (map_key_declaredValues .environment _)).append
      (map_key_declaredValues .collection _)).append (map_key_declaredRows _)
  vars := by
    intro origin horigin property
    rw [mem_properties]
    constructor
    · rintro ⟨declared, hmem, rfl⟩
      rcases mem_ofSources.1 hmem with ⟨m, hm, hfull, rfl⟩ | ⟨hdata, -, -⟩
      · exact ⟨m, hm, hfull, rfl⟩
      · exact absurd hdata horigin
    · rintro ⟨m, hm, hfull, rfl⟩
      exact ⟨.values m, mem_ofSources.2 (Or.inl ⟨m, hm, hfull, rfl⟩), rfl⟩
  rows := by
    intro property
    rw [mem_properties]
    constructor
    · rintro ⟨declared, hmem, rfl⟩
      rcases mem_ofSources.1 hmem with ⟨m, hm, -, -⟩ | ⟨-, hrows, rfl⟩
      · exact absurd hm (by simp [varsOf])
      · exact ⟨hrows, rfl⟩
    · rintro ⟨hrows, rfl⟩
      exact ⟨.rows, mem_ofSources.2 (Or.inr ⟨rfl, hrows, rfl⟩), rfl⟩

/-- Read from its text, the scope statement has no argument exactly if no origin
has variables and there is no data file, and else it has one, the object that
declares what the sources supply. A map that is empty may as well not be there. -/
theorem arguments?_ofSources (sources : Sources) :
    ∃ arguments, Scope.arguments? (Scope.ofSources sources).render = some arguments
      ∧ (arguments = [] ↔
          (∀ origin, entriesOf (varsOf sources origin) = []) ∧ sources.data = .absent)
      ∧ (arguments ≠ [] → ∃ argument properties, arguments = [argument]
          ∧ properties? argument = some properties ∧ Declares sources properties)
      ∧ ∀ others : Sources,
          (∀ origin, entriesOf (varsOf sources origin) = entriesOf (varsOf others origin)) →
          (sources.data = .absent ↔ others.data = .absent) →
          (Scope.ofSources others).render = (Scope.ofSources sources).render := by
  refine ⟨_, Scope.arguments?_render _, ?_, ?_, ?_⟩
  · rw [← isEmpty_ofSources]
    split
    · next hempty => simp [hempty]
    · next hfull => simp [hfull]
  · intro hargument
    split at hargument
    · exact absurd rfl hargument
    · next hfull =>
        rw [if_neg hfull]
        exact ⟨_, _, rfl, Scope.properties?_object _, declares_ofSources sources⟩
  · intro others hvars hdata
    rw [ofSources_congr hvars hdata]

end LoadScript.Script
