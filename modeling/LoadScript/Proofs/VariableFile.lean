import LoadScript.Input
import LoadScript.Proofs.Merge
import LoadScript.Proofs.Record

/-!
# The two readings of a variable file

A file of variables is an export or a flat map, and which of the two it is
depends on all of it: an object is an export if it has one member `values`, a
list of which every element is an entry (`IsExport`), and anything less makes
it a flat map of all its members (`IsFlat`). An entry is a record with a key, a
value and a switch (`EntryForm.Writes`), as an object or as an array.

The values in a file are decoded twice, once with the whole file and once with
the entries. The second time cannot fail where the first one did not
(`Tree.Decodes.field`), so for a file that can be decoded the shape of its
entries is all that decides (`exported?_eq_some_iff`).
-/

namespace LoadScript

open Json

/-- How the entries of a list of variables are written. -/
structure EntryForm where
  fields : List String
  switch : String
  /-- What the switch says of an entry that counts, which need not be said. -/
  whenOn : Bool

def EntryForm.exported : EntryForm where
  fields := ["key", "value", "enabled"]
  switch := "enabled"
  whenOn := true

namespace EntryForm

/-- The tree is an entry with the given key, value and switch. -/
structure Writes (form : EntryForm) (tree : Tree) (entry : ExportedEntry) : Prop where
  record : tree.IsRecord form.fields
  key : tree.field? form.fields "key" = some (.string (some entry.key))
  /-- A value that is not written is `null`. -/
  value : (tree.field? form.fields "value" = none ∧ entry.value = .null)
    ∨ ∃ part, tree.field? form.fields "value" = some part ∧ part.Denotes entry.value
  switch : (tree.field? form.fields form.switch = none ∧ entry.enabled = true)
    ∨ tree.field? form.fields form.switch = some (.bool (entry.enabled == form.whenOn))

/-- The value of an entry, if it is written, is nested no deeper than there is room. -/
def Fits (form : EntryForm) (room : Nat) (tree : Tree) : Prop :=
  ∀ part, tree.field? form.fields "value" = some part → part.Decodes room

variable {form : EntryForm} {tree : Tree}

theorem Writes.unique {entry other : ExportedEntry} (h : form.Writes tree entry)
    (hother : form.Writes tree other) : entry = other := by
  have hkey : entry.key = other.key := by
    have hsame := h.key.symm.trans hother.key
    simpa using hsame
  have hvalue : entry.value = other.value := by
    rcases h.value with ⟨hnone, hnull⟩ | ⟨part, hpart, hdenotes⟩
    · rcases hother.value with ⟨-, hnull'⟩ | ⟨part, hpart, -⟩
      · rw [hnull, hnull']
      · exact absurd (hnone.symm.trans hpart) (by simp)
    · rcases hother.value with ⟨hnone, -⟩ | ⟨part', hpart', hdenotes'⟩
      · exact absurd (hnone.symm.trans hpart) (by simp)
      · obtain rfl : part = part' := Option.some.inj (hpart.symm.trans hpart')
        exact hdenotes.unique hdenotes'
  have hcancel : ∀ a b whenOn : Bool, (a == whenOn) = (b == whenOn) → a = b := by decide
  have henabled : entry.enabled = other.enabled := by
    rcases h.switch with ⟨hnone, hon⟩ | hswitch
    · rcases hother.switch with ⟨-, hon'⟩ | hswitch'
      · rw [hon, hon']
      · exact absurd (hnone.symm.trans hswitch') (by simp)
    · rcases hother.switch with ⟨hnone, -⟩ | hswitch'
      · exact absurd (hnone.symm.trans hswitch) (by simp)
      · have hsame := hswitch.symm.trans hswitch'
        exact hcancel _ _ _ (Tree.bool.inj (Option.some.inj hsame))
  obtain ⟨key, value, enabled⟩ := entry
  obtain ⟨key', value', enabled'⟩ := other
  exact ExportedEntry.mk.injEq .. ▸ ⟨hkey, hvalue, henabled⟩

/-- What is read of the fields of a record is an entry that the tree writes, and
the other way round if its value fits. -/
theorem reads_iff (hkey : "key" ∈ form.fields) (hvalue : "value" ∈ form.fields)
    (hswitch : form.switch ∈ form.fields) {room : Nat} {entry : ExportedEntry} :
    (∃ record, tree.record? form.fields = some record
      ∧ record.required? "key" Tree.string? = some entry.key
      ∧ record.withDefault? "value" .null (Value.ofTree? room) = some entry.value
      ∧ record.withDefault? form.switch form.whenOn Tree.bool?
          = some (entry.enabled == form.whenOn))
    ↔ form.Writes tree entry ∧ form.Fits room tree := by
  have hdefault : (entry.enabled == form.whenOn) = form.whenOn ↔ entry.enabled = true := by
    cases entry.enabled <;> cases form.whenOn <;> simp
  constructor
  · rintro ⟨record, hrecord, hk, hv, hs⟩
    have hget := @Tree.get?_of_record? _ _ _ hrecord
    rw [Record.required?, hget hkey, Option.bind_eq_some_iff] at hk
    rw [Record.withDefault?_eq_some_iff, hget hvalue] at hv
    rw [Record.withDefault?_eq_some_iff, hget hswitch] at hs
    refine ⟨⟨Tree.exists_record?_iff.1 ⟨record, hrecord⟩, ?_, ?_, ?_⟩, ?_⟩
    · obtain ⟨part, hpart, htext⟩ := hk
      rw [hpart, Tree.string?_eq_some_iff.1 htext]
    · rcases hv with hnone | ⟨part, hpart, hread⟩
      · exact Or.inl hnone
      · exact Or.inr ⟨part, hpart, room, hread⟩
    · rcases hs with ⟨hnone, hon⟩ | ⟨part, hpart, hread⟩
      · exact Or.inl ⟨hnone, hdefault.1 hon⟩
      · exact Or.inr (by rw [hpart, Tree.bool?_eq_some_iff.1 hread])
    · intro part hpart
      rcases hv with ⟨hnone, -⟩ | ⟨part', hpart', hread⟩
      · exact absurd (hnone.symm.trans hpart) (by simp)
      · obtain rfl : part = part' := Option.some.inj (hpart.symm.trans hpart')
        exact ⟨_, hread⟩
  · rintro ⟨hwrites, hfits⟩
    obtain ⟨record, hrecord⟩ := Tree.exists_record?_iff.2 hwrites.record
    have hget := @Tree.get?_of_record? _ _ _ hrecord
    refine ⟨record, hrecord, ?_, ?_, ?_⟩
    · rw [Record.required?, hget hkey, hwrites.key]
      rfl
    · rw [Record.withDefault?_eq_some_iff, hget hvalue]
      rcases hwrites.value with hnone | ⟨part, hpart, hdenotes⟩
      · exact Or.inl hnone
      · exact Or.inr ⟨part, hpart, (hfits part hpart).ofTree?_iff.2 hdenotes⟩
    · rw [Record.withDefault?_eq_some_iff, hget hswitch]
      rcases hwrites.switch with ⟨hnone, hon⟩ | hbool
      · exact Or.inl ⟨hnone, hdefault.2 hon⟩
      · exact Or.inr ⟨_, hbool, rfl⟩

end EntryForm

namespace Variables

/-- The members of an object are an export with the given entries. Other members
do not matter, nor do other members of the entries. -/
def IsExport (members : List (Option String × Tree)) (entries : List ExportedEntry) : Prop :=
  ∃ elements, Tree.named "values" members = [.array elements]
    ∧ List.Forall₂ EntryForm.exported.Writes elements entries

/-- The members of an object, each with its name and the value that it denotes. -/
def IsFlat (members : List (Option String × Tree)) (listed : List (String × Value)) : Prop :=
  List.Forall₂ (fun m entry => m.1 = some entry.1 ∧ m.2.Denotes entry.2) members listed

theorem IsFlat.unique {members : List (Option String × Tree)} {listed others : List (String × Value)}
    (h : IsFlat members listed) (hothers : IsFlat members others) : listed = others := by
  refine List.right_unique_forall₂' (fun m entry other hentry hother => ?_) h hothers
  have hname : entry.1 = other.1 := Option.some.inj (hentry.1.symm.trans hother.1)
  exact Prod.ext hname (hentry.2.unique hother.2)

def enabledPairs (entries : List ExportedEntry) : List (String × Value) :=
  (entries.filter (·.enabled)).map fun entry => (entry.key, entry.value)

theorem exportedEntry_eq_some_iff {room : Nat} {tree : Tree} (h : tree.Decodes (room + 1))
    {entry : ExportedEntry} :
    ExportedEntry.ofTree? (room + 1) tree = some entry ↔ EntryForm.exported.Writes tree entry := by
  have hfits : EntryForm.exported.Fits room tree := fun part hpart => h.field hpart
  have hreads := @EntryForm.reads_iff .exported tree (by decide) (by decide) (by decide) room entry
  rw [and_iff_left hfits] at hreads
  rw [← hreads]
  simp only [ExportedEntry.ofTree?, Option.bind_eq_bind, Option.bind_eq_some_iff]
  constructor
  · rintro ⟨record, hrecord, key, hkey, value, hvalue, enabled, henabled, heq⟩
    rw [← Option.some.inj heq]
    exact ⟨record, hrecord, hkey, hvalue, by simpa [EntryForm.exported] using henabled⟩
  · rintro ⟨record, hrecord, hkey, hvalue, henabled⟩
    exact ⟨record, hrecord, _, hkey, _, hvalue, _, by simpa [EntryForm.exported] using henabled, rfl⟩

/-- An object that can be decoded is read as an export exactly if it is one. -/
theorem exported?_eq_some_iff {room : Nat} {members : List (Option String × Tree)}
    (h : (Tree.object members).Decodes (room + 1)) {entries : List ExportedEntry} :
    exported? (room + 1) (.object members) = some entries ↔ IsExport members entries := by
  have hmembers := Tree.decodes_object_iff.1 h
  -- all elements of the list have been decoded, with less room than they get now
  have hread : ∀ elements, Tree.named "values" members = [.array elements] →
      (elements.mapM (ExportedEntry.ofTree? (room + 1)) = some entries ↔
        List.Forall₂ EntryForm.exported.Writes elements entries) := by
    intro elements hvalues
    have hlist : (Tree.array elements).Decodes room :=
      (hmembers _ (Tree.mem_of_mem_named (by rw [hvalues]; exact List.mem_cons_self))).2
    have helements : ∀ tree ∈ elements, tree.Decodes (room + 1) := fun tree htree =>
      (Tree.decodes_array_iff.1 (hlist.mono (Nat.le_succ room)) tree htree).mono (Nat.le_succ room)
    rw [mapM_eq_some_iff]
    exact forall₂_congr_of_mem fun tree htree _ => exportedEntry_eq_some_iff (helements tree htree)
  simp only [exported?, Option.bind_eq_bind, Option.bind_eq_some_iff, IsExport]
  constructor
  · rintro ⟨record, hrecord, hvalues⟩
    obtain ⟨list, hlist, helements⟩ := Option.bind_eq_some_iff.1 hvalues
    obtain ⟨elements, rfl, hentries⟩ := Tree.elements?_eq_some_iff.1 helements
    rw [Tree.get?_of_record? hrecord List.mem_cons_self] at hlist
    cases Tree.exists_record?_iff.1 ⟨record, hrecord⟩ with
    | object texts once =>
        have hone := Tree.named_eq_singleton hlist (once _ List.mem_cons_self)
        exact ⟨elements, hone, (hread elements hone).1 hentries⟩
  · rintro ⟨elements, hvalues, hentries⟩
    have hform : (Tree.object members).IsRecord ["values"] :=
      .object (fun m hm => (hmembers m hm).1) (by simp [hvalues])
    obtain ⟨record, hrecord⟩ := Tree.exists_record?_iff.2 hform
    refine ⟨record, hrecord, Option.bind_eq_some_iff.2 ⟨.array elements, ?_, ?_⟩⟩
    · rw [Tree.get?_of_record? hrecord List.mem_cons_self, Tree.field?, hvalues]
      rfl
    · exact (hread elements hvalues).2 hentries

theorem exists_flat? {room : Nat} {members : List (Option String × Tree)}
    (h : (Tree.object members).Decodes (room + 1)) :
    ∃ listed, IsFlat members listed
      ∧ flat? (room + 1) (.object members) = some (OrderedMap.ofList listed) := by
  obtain ⟨value, hvalue⟩ := h
  obtain ⟨listed, hlisted, -⟩ := Option.map_eq_some_iff.1 hvalue
  refine ⟨listed, ?_, ?_⟩
  · rw [Value.ofMembers?_eq_mapM, mapM_eq_some_iff] at hlisted
    refine hlisted.imp ?_
    rintro ⟨label, tree⟩ entry hmember
    obtain ⟨name, rfl, hread⟩ := Option.bind_eq_some_iff.1 hmember
    obtain ⟨v, hv, rfl⟩ := Option.map_eq_some_iff.1 hread
    exact ⟨rfl, room, hv⟩
  · rw [flat?, Value.ofMembers?_mono (Nat.le_succ room) hlisted]
    rfl

end Variables

/-- The text is a JSON document that can be decoded, and this is what is written
in it. -/
def IsDocument (text : String) (tree : Tree) : Prop :=
  Tree.parse? text = some tree ∧ tree.Decodes nestingLimit

namespace Variables

theorem parse?_eq_none {text : String} (h : ∀ tree, ¬ IsDocument text tree) :
    parse? text = none := by
  rw [Option.eq_none_iff_forall_ne_some]
  intro vars hvars
  obtain ⟨tree, htree, hread⟩ := Option.bind_eq_some_iff.1 hvars
  simp only [ofTree?, Option.bind_eq_bind, Option.bind_eq_some_iff] at hread
  obtain ⟨value, hvalue, -⟩ := hread
  exact h tree ⟨htree, value, hvalue⟩

theorem parse?_of_document {text : String} {tree : Tree} (h : IsDocument text tree) :
    parse? text = match exported? nestingLimit tree with
      | some entries => some (ofExport entries)
      | none => flat? nestingLimit tree := by
  obtain ⟨hparse, value, hvalue⟩ := h
  rw [parse?, hparse, Option.bind_some, ofTree?, hvalue]
  rfl

theorem parse?_of_not_object {text : String} {tree : Tree} (h : IsDocument text tree)
    (hobject : ∀ members, tree ≠ .object members) : parse? text = none := by
  rw [parse?_of_document h]
  cases tree with
  | object members => exact absurd rfl (hobject members)
  | _ => rfl

theorem parse?_of_export {text : String} {members : List (Option String × Tree)}
    (h : IsDocument text (.object members)) {entries : List ExportedEntry}
    (hexport : IsExport members entries) : parse? text = some (ofExport entries) := by
  have hread : exported? nestingLimit (.object members) = some entries :=
    (exported?_eq_some_iff h.2).2 hexport
  rw [parse?_of_document h, hread]

/-- What is no export is a flat map, whatever keeps it from being one. -/
theorem parse?_of_not_export {text : String} {members : List (Option String × Tree)}
    (h : IsDocument text (.object members)) (hexport : ∀ entries, ¬ IsExport members entries) :
    ∃ listed, IsFlat members listed ∧ parse? text = some (OrderedMap.ofList listed) := by
  have hnone : exported? nestingLimit (.object members) = none := by
    rw [Option.eq_none_iff_forall_ne_some]
    exact fun entries hentries => hexport entries ((exported?_eq_some_iff h.2).1 hentries)
  obtain ⟨listed, hlisted, hflat⟩ := exists_flat? h.2
  rw [parse?_of_document h, hnone]
  exact ⟨listed, hlisted, hflat⟩

end Variables

theorem outcome_variableFile {read : Reader} {path text : String} (h : read path = .ok text) :
    (read.variableFile path).outcome
      = (Variables.parse? text).elim (.error (.malformedVariables path)) .ok := by
  rw [Reader.variableFile, Traced.outcome_bind, Reader.text, Traced.outcome_ofExcept, h]
  cases hvars : Variables.parse? text with
  | none =>
      simp only [Except.mapError, Except.bind, hvars, Traced.outcome_fail, Option.elim_none]
  | some vars =>
      simp only [Except.mapError, Except.bind, hvars, Option.elim_some]
      rfl

open Variables

/-- A file of variables is refused if it is no JSON document that can be decoded.
Of those that are, exactly the ones that are no objects are refused. An object is
read as an export if it is one, and then gives the entries that are switched on,
merged where their keys are equal. Any other object gives all of its members,
merged in the same way. -/
theorem variableFile_readings (read : Reader) {path text : String} (h : read path = .ok text) :
    ((∀ tree, ¬ IsDocument text tree) →
        (read.variableFile path).outcome = .error (.malformedVariables path))
      ∧ ∀ tree, IsDocument text tree →
        ((read.variableFile path).outcome = .error (.malformedVariables path) ↔
          ∀ members, tree ≠ .object members)
        ∧ ∀ members, tree = .object members →
          ∃ vars, (read.variableFile path).outcome = .ok vars
            ∧ (∀ entries, IsExport members entries → Merges (enabledPairs entries) vars.entries)
            ∧ ((∀ entries, ¬ IsExport members entries) →
              ∃ listed, IsFlat members listed ∧ Merges listed vars.entries) := by
  rw [outcome_variableFile h]
  have hobject : ∀ members, IsDocument text (.object members) → ∃ vars, parse? text = some vars
      ∧ (∀ entries, IsExport members entries → Merges (enabledPairs entries) vars.entries)
      ∧ ((∀ entries, ¬ IsExport members entries) →
        ∃ listed, IsFlat members listed ∧ Merges listed vars.entries) := by
    intro members hdocument
    by_cases hexport : ∃ entries, IsExport members entries
    · obtain ⟨entries, hentries⟩ := hexport
      have hread := parse?_of_export hdocument hentries
      refine ⟨_, hread, fun others hothers => ?_, fun hnone => absurd hentries (hnone entries)⟩
      rw [Option.some.inj (hread.symm.trans (parse?_of_export hdocument hothers))]
      exact merges_ofList _
    · obtain ⟨listed, hlisted, hread⟩ := parse?_of_not_export hdocument (not_exists.1 hexport)
      refine ⟨_, hread, fun entries hentries => absurd ⟨entries, hentries⟩ hexport, fun _ => ?_⟩
      exact ⟨listed, hlisted, merges_ofList listed⟩
  refine ⟨fun hnone => ?_, fun tree hdocument => ⟨⟨fun hrefused => ?_, fun hother => ?_⟩, ?_⟩⟩
  · rw [parse?_eq_none hnone]
    rfl
  · intro members heq
    rw [heq] at hdocument
    obtain ⟨vars, hvars, -⟩ := hobject members hdocument
    rw [hvars] at hrefused
    cases hrefused
  · rw [parse?_of_not_object hdocument hother]
    rfl
  · intro members heq
    rw [heq] at hdocument
    obtain ⟨vars, hvars, hreadings⟩ := hobject members hdocument
    rw [hvars]
    exact ⟨vars, rfl, hreadings⟩

/-- An export in which one entry has no key, so that it is none. -/
def staging : String :=
  "\x7b\"name\": \"staging\", \"values\": [[\"host\", \"a.test\"], \x7b\"value\": \"b\", \"enabled\": false\x7d]\x7d"

def stagingMembers : List (Option String × Tree) :=
  [(some "name", .string (some "staging")),
    (some "values", .array [.array [.string (some "host"), .string (some "a.test")],
      .object [(some "value", .string (some "b")), (some "enabled", .bool false)]])]

def stagingListed : List (String × Value) :=
  [("name", .string "staging"),
    ("values", .array [.array [.string "host", .string "a.test"],
      .object [("enabled", .bool false), ("value", .string "b")]])]

/-- All of it counts then, also what is said about the export itself. -/
theorem variableFile_readings_staging :
    (fun _ => .ok staging : Reader) "staging.json" = .ok staging
      ∧ IsDocument staging (.object stagingMembers)
      ∧ (∀ entries, ¬ IsExport stagingMembers entries)
      ∧ IsFlat stagingMembers stagingListed
      ∧ ∃ vars, (Reader.variableFile (fun _ => .ok staging) "staging.json").outcome = .ok vars
        ∧ vars.entries = stagingListed := by
  have hdocument : IsDocument staging (.object stagingMembers) := ⟨by cbv, _, rfl⟩
  have hexport : ∀ entries, ¬ IsExport stagingMembers entries := by
    rintro entries ⟨elements, hvalues, hentries⟩
    obtain rfl : _ = elements := Tree.array.inj (List.head_eq_of_cons_eq hvalues)
    obtain _ | ⟨-, _ | ⟨hkeyless, -⟩⟩ := hentries
    exact absurd hkeyless.key (by simp [Tree.field?, Tree.named])
  have hflat : IsFlat stagingMembers stagingListed := .cons ⟨rfl, 0, rfl⟩ (.cons ⟨rfl, 2, rfl⟩ .nil)
  obtain ⟨-, hobjects⟩ := @variableFile_readings (fun _ => .ok staging) "staging.json" staging rfl
  obtain ⟨vars, hvars, -, hother⟩ := (hobjects _ hdocument).2 stagingMembers rfl
  obtain ⟨listed, hlisted, hmerged⟩ := hother hexport
  obtain rfl : listed = stagingListed := hlisted.unique hflat
  exact ⟨rfl, hdocument, hexport, hflat, vars, hvars, hmerged.eq_self (by decide)⟩

end LoadScript
