import LoadScript.Proofs.Declaration
import LoadScript.Proofs.Supply

/-!
# One list of variables in two formats

Variables can be listed in a collection and in an export, with switches that
say opposite things and have opposite defaults. Both lists are read by one form
of an entry (`EntryForm.recorded` here, `EntryForm.exported` for an export), so
a list is given by its entries whichever way it is written. What a collection
holds beside the list does not matter for the variables, and the list does not
matter for anything else in the collection (`parse_unlisted`).

A script declares variables by their entries, in the same way for each origin
that has any, so a list that is given for several origins is declared by the
same properties there (`exists_comesTo`).
-/

namespace LoadScript

open Json

/-- The entries of a collection, which may be form fields as well. -/
def EntryForm.recorded : EntryForm where
  fields := ["key", "value", "disabled", "type"]
  switch := "disabled"
  whenOn := false

theorem EntryForm.writes_unique {form : EntryForm} {elements : List Tree}
    {entries others : List ExportedEntry} (h : List.Forall₂ form.Writes elements entries)
    (hothers : List.Forall₂ form.Writes elements others) : entries = others :=
  List.right_unique_forall₂' (fun _ _ _ hentry hother => hentry.unique hother) h hothers

namespace Document

/-! ## Entries of a collection -/

/-- What a variable of a collection would be in an export. -/
def Entry.exported (entry : Entry) : ExportedEntry where
  key := entry.key
  value := entry.value
  enabled := !entry.disabled

/-- The kind of an entry is a text, if it has one at all. -/
def HasKind (tree : Tree) : Prop :=
  ∀ part, tree.field? EntryForm.recorded.fields "type" = some part →
    part = .null ∨ ∃ text, part = .string (some text)

theorem exists_optional?_string_iff {record : Record} {label : String} :
    (∃ x, record.optional? label Tree.string? = some x) ↔
      ∀ part, record.get? label = some part → part = .null ∨ ∃ text, part = .string (some text) := by
  rw [Record.optional?]
  cases record.get? label with
  | none => simp
  | some part =>
      cases part with
      | string value => cases value <;> simp [Tree.string?]
      | _ => simp [Tree.string?]

theorem exists_entry_iff {room : Nat} {tree : Tree} {listed : ExportedEntry} :
    (∃ entry, Entry.ofTree? (room + 1) tree = some entry ∧ entry.exported = listed) ↔
      EntryForm.recorded.Writes tree listed ∧ EntryForm.recorded.Fits room tree
        ∧ HasKind tree := by
  have hreads := @EntryForm.reads_iff .recorded tree (by decide) (by decide) (by decide) room listed
  have hswitch : (listed.enabled == EntryForm.recorded.whenOn) = !listed.enabled := by
    cases listed.enabled <;> rfl
  have hkind : ∀ {record : Record}, tree.record? EntryForm.recorded.fields = some record →
      ((∃ kind, record.optional? "type" Tree.string? = some kind) ↔ HasKind tree) := by
    intro record hrecord
    rw [exists_optional?_string_iff, Tree.get?_of_record? hrecord (by decide), HasKind]
  rw [← and_assoc, ← hreads, hswitch]
  simp only [Entry.ofTree?, Option.bind_eq_bind, Option.bind_eq_some_iff]
  constructor
  · rintro ⟨entry, ⟨record, hrecord, key, hkey, value, hvalue, disabled, hdisabled, kind, htype,
      heq⟩, rfl⟩
    rw [← Option.some.inj heq]
    refine ⟨⟨record, hrecord, hkey, hvalue, ?_⟩, (hkind hrecord).1 ⟨kind, htype⟩⟩
    simpa [Entry.exported, EntryForm.recorded] using hdisabled
  · rintro ⟨⟨record, hrecord, hkey, hvalue, hdisabled⟩, htype⟩
    obtain ⟨kind, htype⟩ := (hkind hrecord).2 htype
    refine ⟨⟨listed.key, listed.value, !listed.enabled, kind⟩, ⟨record, hrecord, _, hkey, _, hvalue,
      _, hdisabled, _, htype, rfl⟩, ?_⟩
    simp [Entry.exported]

theorem writes_of_mapM {room : Nat} {elements : List Tree} {vars : List Entry}
    (h : elements.mapM (Entry.ofTree? (room + 1)) = some vars) :
    List.Forall₂ EntryForm.recorded.Writes elements (vars.map Entry.exported) := by
  refine List.forall₂_map_right_iff.2 ((mapM_eq_some_iff.1 h).imp ?_)
  intro tree entry hentry
  exact (exists_entry_iff.1 ⟨entry, hentry, rfl⟩).1

theorem exists_mapM_entries {room : Nat} {elements : List Tree} {entries : List ExportedEntry}
    (hentries : List.Forall₂ EntryForm.recorded.Writes elements entries)
    (hfits : ∀ element ∈ elements, EntryForm.recorded.Fits room element ∧ HasKind element) :
    ∃ vars, elements.mapM (Entry.ofTree? (room + 1)) = some vars
      ∧ vars.map Entry.exported = entries := by
  have heach : ∀ element ∈ elements, ∃ entry, Entry.ofTree? (room + 1) element = some entry := by
    intro element helement
    obtain ⟨i, hi, rfl⟩ := List.mem_iff_getElem.1 helement
    have hwrites := hentries.get hi (hentries.length_eq ▸ hi)
    obtain ⟨entry, hentry, -⟩ := exists_entry_iff.2 ⟨hwrites, hfits _ helement⟩
    exact ⟨entry, hentry⟩
  obtain ⟨vars, hvars⟩ := exists_mapM_iff.2 heach
  exact ⟨vars, hvars, EntryForm.writes_unique (writes_of_mapM hvars) hentries⟩

/-- The variables of a collection are those of the export with the same entries. -/
theorem varMap_eq (document : Document) :
    document.varMap = Variables.ofExport (document.vars.map Entry.exported) := by
  rw [varMap, Variables.ofExport, enabled, List.filter_map, List.map_map]
  rfl

/-! ## The list in a collection -/

def recordFields : List String := ["info", "item", "variable"]

structure HasList (elements : List Tree) (tree : Tree) : Prop where
  record : tree.IsRecord recordFields
  list : tree.field? recordFields "variable" = some (.array elements)

/-- A collection without its list of variables. -/
def unlisted : Tree → Tree
  | .object members => .object (members.filter fun m => m.1 ≠ some "variable")
  | .array elements => .array (elements.take 2)
  | tree => tree

theorem named_unlisted {label : String} (h : label ≠ "variable")
    (members : List (Option String × Tree)) :
    Tree.named label (members.filter fun m => m.1 ≠ some "variable") = Tree.named label members := by
  rw [Tree.named, Tree.named, List.filter_filter]
  congr 1
  refine List.filter_congr fun m _ => ?_
  by_cases hlabel : m.1 = some label
  · simp [hlabel, h]
  · simp [hlabel]

theorem named_variable_unlisted (members : List (Option String × Tree)) :
    Tree.named "variable" (members.filter fun m => m.1 ≠ some "variable") = [] := by
  rw [Tree.named, List.filter_filter, List.map_eq_nil_iff, List.filter_eq_nil_iff]
  simp

theorem isRecord_unlisted {tree : Tree} (h : tree.IsRecord recordFields) :
    (unlisted tree).IsRecord recordFields := by
  cases h with
  | object texts once =>
      refine .object (fun m hm => texts m (List.mem_filter.1 hm).1) fun label hlabel => ?_
      by_cases hvariable : label = "variable"
      · rw [hvariable, named_variable_unlisted]
        exact Nat.zero_le 1
      · rw [named_unlisted hvariable]
        exact once label hlabel
  | array fits => exact .array (by rw [List.length_take]; simp [recordFields])

theorem field?_unlisted {tree : Tree} (h : tree.IsRecord recordFields) :
    (unlisted tree).field? recordFields "info" = tree.field? recordFields "info"
      ∧ (unlisted tree).field? recordFields "item" = tree.field? recordFields "item"
      ∧ (unlisted tree).field? recordFields "variable" = none := by
  cases h with
  | object texts once =>
      simp only [unlisted, Tree.field?]
      rw [named_unlisted (by decide), named_unlisted (by decide), named_variable_unlisted]
      exact ⟨rfl, rfl, rfl⟩
  | @array elements fits =>
      have hplaces : recordFields.idxOf "info" = 0 ∧ recordFields.idxOf "item" = 1
          ∧ recordFields.idxOf "variable" = 2 := by decide
      simp only [unlisted, Tree.field?, hplaces.1, hplaces.2.1, hplaces.2.2]
      exact ⟨List.getElem?_take_of_lt (by decide), List.getElem?_take_of_lt (by decide),
        List.getElem?_take_eq_none (by decide)⟩

theorem vars_of_ofTree? {room : Nat} {tree : Tree} {elements : List Tree} {document : Document}
    (h : ofTree? (room + 2) tree = some document) (hlist : HasList elements tree) :
    elements.mapM (Entry.ofTree? room) = some document.vars := by
  simp only [ofTree?, Option.bind_eq_bind, Option.bind_eq_some_iff] at h
  obtain ⟨record, hrecord, info, -, items, -, vars, hvars, heq⟩ := h
  have hget : record.get? "variable" = some (.array elements) :=
    (Tree.get?_of_record? hrecord (by decide)).trans hlist.list
  rw [Record.withDefault?, hget] at hvars
  rw [← Option.some.inj heq]
  exact hvars

theorem ofTree?_unlisted {room : Nat} {tree : Tree} {elements : List Tree} {vars : List Entry}
    (hlist : HasList elements tree) (hvars : elements.mapM (Entry.ofTree? room) = some vars) :
    ofTree? (room + 2) tree
      = (ofTree? (room + 2) (unlisted tree)).map fun document => { document with vars } := by
  obtain ⟨record, hrecord⟩ := Tree.exists_record?_iff.2 hlist.record
  obtain ⟨others, hothers⟩ := Tree.exists_record?_iff.2 (isRecord_unlisted hlist.record)
  obtain ⟨hinfo, hitem, hnone⟩ := field?_unlisted hlist.record
  have hget : record.get? "variable" = some (.array elements) :=
    (Tree.get?_of_record? hrecord (by decide)).trans hlist.list
  rw [← Tree.get?_of_record? hothers (by decide)] at hinfo hitem hnone
  rw [← Tree.get?_of_record? hrecord (by decide)] at hinfo hitem
  have hread : elementsWithin? Entry.ofTree? (room + 1) (.array elements) = some vars := hvars
  rw [recordFields] at hrecord hothers
  simp only [ofTree?, hrecord, hothers, Option.bind_eq_bind, Option.bind_some, Record.optional?,
    Record.withDefault?, hinfo, hitem, hnone, hget, hread]
  simp only [Option.map_bind, Function.comp_def, Option.map_some]

/-- A list of variables decides nothing about a collection but its variables. Each
entry has to fit where it stands, and its kind, if it has one, has to be a text. -/
theorem parse_unlisted {text bare : String} {tree : Tree} {elements : List Tree}
    {entries : List ExportedEntry} (htext : Tree.parse? text = some tree)
    (hbare : Tree.parse? bare = some (unlisted tree)) (hlist : HasList elements tree)
    (hentries : List.Forall₂ EntryForm.recorded.Writes elements entries)
    (hfits : ∀ element ∈ elements,
      EntryForm.recorded.Fits (nestingLimit - 3) element ∧ HasKind element) :
    (Collection.parse text).outcome
      = (Collection.parse bare).outcome.map fun collection =>
          { collection with vars := Variables.ofExport entries } := by
  obtain ⟨vars, hvars, hsame⟩ := exists_mapM_entries hentries hfits
  have hdocument : parse? text = (parse? bare).map fun document => { document with vars } := by
    rw [parse?, parse?, htext, hbare]
    exact ofTree?_unlisted hlist hvars
  rw [Collection.parse, Collection.parse, hdocument]
  cases parse? bare with
  | none => rfl
  | some document =>
      rw [Option.map_some]
      simp only [ofDocument_outcome, namedRequests, varMap_eq, hsame]
      cases (numbered 1 (requestsOf (walkAll document.items))).mapM build <;> rfl

theorem exists_vars_of_parse {text : String} {tree : Tree} {elements : List Tree}
    {collection : Collection} (h : (Collection.parse text).outcome = .ok collection)
    (htext : Tree.parse? text = some tree) (hlist : HasList elements tree) :
    ∃ entries, List.Forall₂ EntryForm.recorded.Writes elements entries
      ∧ collection.vars = Variables.ofExport entries := by
  rw [Collection.parse] at h
  cases hdocument : parse? text with
  | none =>
      rw [hdocument] at h
      cases h
  | some document =>
      rw [hdocument, ofDocument_outcome] at h
      obtain ⟨ts, -, rfl⟩ := map_eq_ok_iff.1 h
      rw [parse?, htext, Option.bind_some] at hdocument
      have hread := @vars_of_ofTree? (nestingLimit - 2) _ _ _ hdocument hlist
      exact ⟨_, writes_of_mapM hread, varMap_eq document⟩

theorem vars_of_parse {text : String} {tree : Tree} {elements : List Tree}
    {entries : List ExportedEntry} {collection : Collection}
    (h : (Collection.parse text).outcome = .ok collection) (htext : Tree.parse? text = some tree)
    (hlist : HasList elements tree)
    (hentries : List.Forall₂ EntryForm.recorded.Writes elements entries) :
    collection.vars = Variables.ofExport entries := by
  obtain ⟨others, hothers, hvars⟩ := exists_vars_of_parse h htext hlist
  rw [hvars, EntryForm.writes_unique hothers hentries]

end Document

/-! ## The list in an export -/

def CollectionLists (text : String) (entries : List ExportedEntry) : Prop :=
  ∃ tree elements, Tree.parse? text = some tree ∧ Document.HasList elements tree
    ∧ List.Forall₂ EntryForm.recorded.Writes elements entries

def ExportLists (text : String) (entries : List ExportedEntry) : Prop :=
  ∃ members, IsDocument text (.object members) ∧ Variables.IsExport members entries

theorem outcome_of_exportLists {read : Reader} {path text : String} {entries : List ExportedEntry}
    (hread : read path = .ok text) (hlists : ExportLists text entries) :
    (read.variableFile path).outcome = .ok (Variables.ofExport entries) := by
  obtain ⟨members, hdocument, hexport⟩ := hlists
  rw [outcome_variableFile hread, Variables.parse?_of_export hdocument hexport]
  rfl

/-- The text lists the entries, in the format that is read for the origin. -/
def Lists (text : String) (entries : List ExportedEntry) : Script.Origin → Prop
  | .global | .environment => ExportLists text entries
  | .collection => CollectionLists text entries
  | .data => False

theorem Lists.eq_ofExport {text : String} {entries : List ExportedEntry} {origin : Script.Origin}
    {vars : Variables} (h : Lists text entries origin) (hvars : HasVars text vars origin) :
    vars = Variables.ofExport entries := by
  cases origin with
  | data => exact absurd h id
  | collection =>
      obtain ⟨tree, elements, htext, hlist, hentries⟩ := h
      obtain ⟨collection, hparse, rfl⟩ := hvars
      exact Document.vars_of_parse hparse htext hlist hentries
  | _ =>
      obtain ⟨members, hdocument, hexport⟩ := h
      exact Option.some.inj (hvars.symm.trans (Variables.parse?_of_export hdocument hexport))

/-! ## The two formats agree -/

/-- The variables that a list of entries comes to, in either format. -/
structure ComesTo (entries : List ExportedEntry) (vars : Variables) : Prop where
  /-- An entry that is switched off has no part in them. The keys of the others stand
  where they first stood in the list, and have the values that they last had. -/
  merged : ∀ out, Merges (Variables.enabledPairs entries) out ↔ out = vars.entries
  /-- A collection with the list has these variables. -/
  collection : ∀ text collection, CollectionLists text entries →
    (Collection.parse text).outcome = .ok collection → collection.vars = vars
  /-- With the list or without it, a collection is accepted or refused alike. -/
  beside : ∀ text bare tree elements, Tree.parse? text = some tree →
    Tree.parse? bare = some (Document.unlisted tree) → Document.HasList elements tree →
    List.Forall₂ EntryForm.recorded.Writes elements entries →
    (∀ element ∈ elements,
      EntryForm.recorded.Fits (nestingLimit - 3) element ∧ Document.HasKind element) →
    (Collection.parse text).outcome
      = (Collection.parse bare).outcome.map fun collection => { collection with vars }
  /-- A file with the export is read as these variables. -/
  file : ∀ (read : Reader) (path text : String), read path = .ok text →
    ExportLists text entries → (read.variableFile path).outcome = .ok vars
  /-- A script declares them with the same properties under each origin that they are
  given for. -/
  script : ∃ members, Value.memberValues? members = some vars.entries
    ∧ ∀ (read : Reader) (path : String) (options : Options) (script : String),
      (convert read path options).outcome = .ok script → script ≠ Script.emptyText →
      ∀ origin text, Supplies read path options origin text → Lists text entries origin →
        Script.declaredMembers? origin script = some members

/-- Every list of entries comes to the same variables as the variables of a
collection and as an export. -/
theorem exists_comesTo (entries : List ExportedEntry) : ∃ vars, ComesTo entries vars := by
  have hmerges : Merges (Variables.enabledPairs entries) (Variables.ofExport entries).entries :=
    merges_ofList _
  refine ⟨Variables.ofExport entries, ⟨fun out => ⟨fun hout => hout.unique hmerges, ?_⟩, ?_, ?_,
    fun read path text => outcome_of_exportLists, ?_⟩⟩
  · rintro rfl
    exact hmerges
  · rintro text collection ⟨tree, elements, htext, hlist, hentries⟩ hparse
    exact Document.vars_of_parse hparse htext hlist hentries
  · intro text bare tree elements htext hbare hlist hentries hfits
    exact Document.parse_unlisted htext hbare hlist hentries hfits
  · refine ⟨_, Script.memberValues?_objectOf (Variables.ofExport entries).entries, ?_⟩
    intro read path options script hscript hfull origin text hsupplies hlists
    obtain ⟨vars, hvars, hmembers⟩ := declaredMembers?_of_supplies hscript hfull hsupplies
    rw [hmembers, hlists.eq_ofExport hvars]
    rfl

/-- A key that is switched on again, behind an entry of its name that is not. -/
def counters : List ExportedEntry :=
  [⟨"a", .null, false⟩, ⟨"b", .string "1", true⟩, ⟨"a", .string "2", true⟩,
    ⟨"b", .string "3", true⟩, ⟨"a", .string "4", false⟩]

def recordedCounters : String :=
  "\x7b\"variable\": [\x7b\"key\": \"a\", \"disabled\": true\x7d, [\"b\", \"1\"],
    [\"a\", \"2\"], [\"b\", \"3\"], [\"a\", \"4\", true]]\x7d"

def exportedCounters : String :=
  "\x7b\"values\": [\x7b\"key\": \"a\", \"enabled\": false\x7d, [\"b\", \"1\"],
    [\"a\", \"2\"], [\"b\", \"3\"], [\"a\", \"4\", false]]\x7d"

/-- The elements of either list; the switches say opposite things. -/
def counterElements (switch : String) (whenOn : Bool) : List Tree :=
  [.object [(some "key", .string (some "a")), (some switch, .bool !whenOn)],
    .array [.string (some "b"), .string (some "1")],
    .array [.string (some "a"), .string (some "2")],
    .array [.string (some "b"), .string (some "3")],
    .array [.string (some "a"), .string (some "4"), .bool !whenOn]]

theorem exists_comesTo_counters :
    CollectionLists recordedCounters counters
      ∧ ExportLists exportedCounters counters
      ∧ ∃ vars collection, (Collection.parse recordedCounters).outcome = .ok collection
        ∧ collection.vars = vars
        ∧ (Reader.variableFile (fun _ => .ok exportedCounters) "counters.json").outcome = .ok vars
        ∧ vars.entries = [("b", .string "3"), ("a", .string "2")] := by
  have hrecorded : CollectionLists recordedCounters counters := by
    refine ⟨.object [(some "variable", .array (counterElements "disabled" false))], _, by cbv,
      ⟨.object (by simp) (by decide), rfl⟩, ?_⟩
    exact @Document.writes_of_mapM 0 _ [⟨"a", .null, true, none⟩, ⟨"b", .string "1", false, none⟩,
      ⟨"a", .string "2", false, none⟩, ⟨"b", .string "3", false, none⟩,
      ⟨"a", .string "4", true, none⟩] rfl
  have hexported : ExportLists exportedCounters counters := by
    have hdocument : IsDocument exportedCounters
        (.object [(some "values", .array (counterElements "enabled" true))]) := ⟨by cbv, _, rfl⟩
    exact ⟨_, hdocument, (Variables.exported?_eq_some_iff hdocument.2).1 rfl⟩
  obtain ⟨vars, hvars⟩ := exists_comesTo counters
  have hmerged : Merges (Variables.enabledPairs counters) [("b", .string "3"), ("a", .string "2")] :=
    merges_ofList _
  have haccepted : (Collection.parse recordedCounters).outcome.isOk = true := by decide +kernel
  cases hcollection : (Collection.parse recordedCounters).outcome with
  | error error =>
      rw [hcollection] at haccepted
      cases haccepted
  | ok collection =>
      exact ⟨hrecorded, hexported, vars, collection, rfl,
        hvars.collection _ _ hrecorded hcollection, hvars.file _ _ _ rfl hexported,
        ((hvars.merged _).1 hmerged).symm⟩

end LoadScript
