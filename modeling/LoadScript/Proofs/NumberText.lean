import LoadScript.Proofs.Number.Kept
import LoadScript.Proofs.Number.Token
import LoadScript.Proofs.VariableList

/-!
# Numbers on their way into a script

A number is recorded as a numeral, decoded, and written as a numeral again. What is
written denotes the number that was decoded, and is the same numeral exactly if that
is one of those which are kept (`Shows`). This is so on every way that a number can take: as a
variable of a collection, of an export or of a flat map, where the last entry of
a name that counts is what is shown, and as the text of a header or of a form
field.
-/

namespace LoadScript

open Json

/-! ## What is recorded of variables -/

namespace EntryForm

def counts (form : EntryForm) (tree : Tree) : Bool :=
  match tree.field? form.fields form.switch with
  | some (.bool value) => value == form.whenOn
  | _ => true

def label (form : EntryForm) (tree : Tree) : String :=
  match tree.field? form.fields "key" with
  | some (.string (some key)) => key
  | _ => ""

/-- The value of an entry as it is written, which is `null` if it is not written. -/
def part (form : EntryForm) (tree : Tree) : Tree :=
  (tree.field? form.fields "value").getD .null

/-- The entries that count, as keys and values as they are written. -/
def parts (form : EntryForm) (elements : List Tree) : List (String × Tree) :=
  (elements.filter form.counts).map fun tree => (form.label tree, form.part tree)

variable {form : EntryForm}

theorem Writes.counts_eq {tree : Tree} {entry : ExportedEntry} (h : form.Writes tree entry) :
    form.counts tree = entry.enabled := by
  have hcancel : ∀ a b : Bool, ((a == b) == b) = a := by decide
  rcases h.switch with ⟨hnone, hon⟩ | hswitch
  · rw [counts, hnone, hon]
  · rw [counts, hswitch]
    exact hcancel _ _

theorem Writes.label_eq {tree : Tree} {entry : ExportedEntry} (h : form.Writes tree entry) :
    form.label tree = entry.key := by
  rw [label, h.key]

theorem Writes.part_denotes {tree : Tree} {entry : ExportedEntry} (h : form.Writes tree entry) :
    (form.part tree).Denotes entry.value := by
  rcases h.value with ⟨hnone, hnull⟩ | ⟨part, hpart, hdenotes⟩
  · rw [EntryForm.part, hnone, hnull]
    exact ⟨0, rfl⟩
  · rw [EntryForm.part, hpart]
    exact hdenotes

end EntryForm

/-- The pairs have the keys of the parts, and the values that these denote. -/
def Denoted (parts : List (String × Tree)) (pairs : List (String × Value)) : Prop :=
  List.Forall₂ (fun part pair => part.1 = pair.1 ∧ part.2.Denotes pair.2) parts pairs

theorem denoted_parts {form : EntryForm} {elements : List Tree} {entries : List ExportedEntry}
    (h : List.Forall₂ form.Writes elements entries) :
    Denoted (form.parts elements) (Variables.enabledPairs entries) := by
  induction h with
  | nil => exact .nil
  | @cons tree entry _ _ hwrites _ ih =>
      rw [EntryForm.parts, Variables.enabledPairs, List.filter_cons, List.filter_cons,
        hwrites.counts_eq]
      split
      · exact .cons ⟨hwrites.label_eq, hwrites.part_denotes⟩ ih
      · exact ih

theorem denoted_flat {members : List (Option String × Tree)} {listed : List (String × Value)}
    (h : Variables.IsFlat members listed) :
    Denoted (members.map fun m => (m.1.getD "", m.2)) listed := by
  refine List.forall₂_map_left_iff.2 (h.imp ?_)
  rintro ⟨label, tree⟩ entry ⟨hlabel, hdenotes⟩
  obtain rfl : label = some entry.1 := hlabel
  exact ⟨rfl, hdenotes⟩

theorem Denoted.keys_eq {parts : List (String × Tree)} {pairs : List (String × Value)}
    (h : Denoted parts pairs) : parts.map Prod.fst = pairs.map Prod.fst := by
  induction h with
  | nil => rfl
  | cons hfirst _ ih => rw [List.map_cons, List.map_cons, hfirst.1, ih]

theorem Denoted.last {parts : List (String × Tree)} {pairs : List (String × Value)}
    (h : Denoted parts pairs) {key : String} {tree : Tree} (hlast : LastOf parts (key, tree)) :
    ∃ value, tree.Denotes value ∧ LastOf pairs (key, value) := by
  obtain ⟨front, back, rfl, hback⟩ := hlast
  induction front generalizing pairs with
  | nil =>
      obtain ⟨⟨label, value⟩, rest, ⟨hkey, hdenotes⟩, hrest, rfl⟩ := List.forall₂_cons_left_iff.1 h
      obtain rfl : key = label := hkey
      refine ⟨value, hdenotes, [], rest, rfl, ?_⟩
      rw [← Denoted.keys_eq hrest]
      exact hback
  | cons _ front ih =>
      obtain ⟨first, rest, -, hrest, rfl⟩ := List.forall₂_cons_left_iff.1 h
      obtain ⟨value, hdenotes, before, after, rfl, hafter⟩ := ih hrest
      exact ⟨value, hdenotes, first :: before, after, rfl, hafter⟩

/-- What a file of variables says of them, in one of its two formats. -/
inductive FileParts (text : String) : List (String × Tree) → Prop where
  | exported {members : List (Option String × Tree)} {elements : List Tree}
      {entries : List ExportedEntry} : IsDocument text (.object members) →
      Tree.named "values" members = [.array elements] →
      List.Forall₂ EntryForm.exported.Writes elements entries →
      FileParts text (EntryForm.exported.parts elements)
  | flat {members : List (Option String × Tree)} : IsDocument text (.object members) →
      (∀ entries, ¬ Variables.IsExport members entries) →
      FileParts text (members.map fun m => (m.1.getD "", m.2))

/-- What the text of an origin says of variables: their names, with the values as they
are written. Entries that are switched off are left out. -/
def HasParts (text : String) (parts : List (String × Tree)) : Script.Origin → Prop
  | .global | .environment => FileParts text parts
  | .collection => ∃ tree elements, Tree.parse? text = some tree
      ∧ Document.HasList elements tree ∧ parts = EntryForm.recorded.parts elements
  | .data => False

theorem FileParts.exists_denoted {text : String} {parts : List (String × Tree)} {vars : Variables}
    (h : FileParts text parts) (hvars : Variables.parse? text = some vars) :
    ∃ pairs, Denoted parts pairs ∧ Merges pairs vars.entries := by
  cases h with
  | exported hdocument hnamed hwrites =>
      have hread := Variables.parse?_of_export hdocument ⟨_, hnamed, hwrites⟩
      rw [← Option.some.inj (hread.symm.trans hvars)]
      exact ⟨_, denoted_parts hwrites, merges_ofList _⟩
  | flat hdocument hnone =>
      obtain ⟨listed, hlisted, hread⟩ := Variables.parse?_of_not_export hdocument hnone
      rw [← Option.some.inj (hread.symm.trans hvars)]
      exact ⟨listed, denoted_flat hlisted, merges_ofList listed⟩

/-- What is left of the parts when they are merged are the variables of the text. -/
theorem exists_denoted {text : String} {parts : List (String × Tree)} {vars : Variables}
    {origin : Script.Origin} (hparts : HasParts text parts origin)
    (hvars : HasVars text vars origin) :
    ∃ pairs, Denoted parts pairs ∧ Merges pairs vars.entries := by
  cases origin with
  | global => exact FileParts.exists_denoted hparts hvars
  | environment => exact FileParts.exists_denoted hparts hvars
  | collection =>
      obtain ⟨tree, elements, htext, hlist, rfl⟩ := hparts
      obtain ⟨collection, hparse, rfl⟩ := hvars
      obtain ⟨entries, hwrites, hsame⟩ := Document.exists_vars_of_parse hparse htext hlist
      rw [hsame]
      exact ⟨_, denoted_parts hwrites, merges_ofList _⟩
  | data => exact absurd hvars id

/-! ## Numerals of the parts -/

namespace Json.Tree

variable {n : Numeral}

theorem mem_numerals_array {elements : List Tree} {element : Tree} (h : element ∈ elements)
    (hn : n ∈ element.numerals) : n ∈ (array elements).numerals := by
  rw [numerals, elementNumerals_eq, List.mem_flatMap]
  exact ⟨element, h, hn⟩

theorem mem_numerals_object {members : List (Option String × Tree)} {m : Option String × Tree}
    (h : m ∈ members) (hn : n ∈ m.2.numerals) : n ∈ (object members).numerals := by
  rw [numerals, memberNumerals_eq, List.mem_flatMap]
  exact ⟨m, h, hn⟩

theorem mem_numerals_of_field? {fields : List String} {label : String} {tree part : Tree}
    (h : tree.field? fields label = some part) (hn : n ∈ part.numerals) : n ∈ tree.numerals := by
  cases tree with
  | object members =>
      exact mem_numerals_object (mem_of_mem_named (List.mem_of_mem_head? h)) hn
  | array elements => exact mem_numerals_array (List.mem_of_getElem? h) hn
  | _ => cases h

end Json.Tree

theorem mem_numerals_of_parts {form : EntryForm} {elements : List Tree} {part : String × Tree}
    (h : part ∈ form.parts elements) {n : Numeral} (hn : n ∈ part.2.numerals) :
    n ∈ (Tree.array elements).numerals := by
  obtain ⟨element, helement, rfl⟩ := List.mem_map.1 h
  refine Tree.mem_numerals_array (List.mem_filter.1 helement).1 ?_
  cases hpart : element.field? form.fields "value" with
  | none =>
      rw [EntryForm.part, hpart] at hn
      exact absurd hn List.not_mem_nil
  | some tree =>
      rw [EntryForm.part, hpart] at hn
      exact Tree.mem_numerals_of_field? hpart hn

theorem FileParts.exists_document {text : String} {parts : List (String × Tree)}
    (h : FileParts text parts) :
    ∃ tree, Tree.parse? text = some tree ∧ ∀ part ∈ parts, ∀ n ∈ part.2.numerals,
      n ∈ tree.numerals := by
  cases h with
  | @exported members elements _ hdocument hnamed _ =>
      refine ⟨_, hdocument.1, ?_⟩
      intro part hpart n hn
      have hmem : (some "values", Tree.array elements) ∈ members :=
        Tree.mem_of_mem_named (by rw [hnamed]; exact List.mem_cons_self)
      exact Tree.mem_numerals_object hmem (mem_numerals_of_parts hpart hn)
  | flat hdocument _ =>
      refine ⟨_, hdocument.1, ?_⟩
      intro part hpart n hn
      obtain ⟨m, hm, rfl⟩ := List.mem_map.1 hpart
      exact Tree.mem_numerals_object hm hn

/-- The numerals of the parts are numerals of the document. -/
theorem exists_document_of_parts {text : String} {parts : List (String × Tree)}
    {origin : Script.Origin} (h : HasParts text parts origin) :
    ∃ tree, Tree.parse? text = some tree ∧ ∀ part ∈ parts, ∀ n ∈ part.2.numerals,
      n ∈ tree.numerals := by
  cases origin with
  | global => exact FileParts.exists_document h
  | environment => exact FileParts.exists_document h
  | collection =>
      obtain ⟨tree, elements, htext, hlist, rfl⟩ := h
      refine ⟨tree, htext, ?_⟩
      intro part hpart n hn
      exact Tree.mem_numerals_of_field? hlist.list (mem_numerals_of_parts hpart hn)
  | data => exact absurd h id

/-! ## What is shown of a number -/

/-- What is written for a numeral denotes the number that was decoded from it, which is
the one that a short numeral denotes. It consists of the same characters exactly if the
numeral is kept. -/
structure Shows (n shown : Numeral) : Prop where
  number : ∃ number, n.number? = some number ∧ shown.nearest? = some number
  short : n.Short → shown.nearest? = n.nearest?
  kept : shown.chars = n.chars ↔ n.Kept
  plain : shown.Plain

theorem shows_numeral {n : Numeral} (hwell : n.WellFormed) {number : Number}
    (hnumber : n.number? = some number) : Shows n number.numeral where
  number := ⟨number, hnumber, nearest?_numeral number⟩
  short := by
    intro hshort
    rw [nearest?_numeral, ← hnumber]
    exact Numeral.number?_of_short hshort
  kept := chars_eq_iff_kept hwell hnumber
  plain := plain_numeral number

theorem denotes_numeral_iff {n : Numeral} {value : Value} :
    (Tree.numeral n).Denotes value ↔ ∃ number, n.number? = some number ∧ value = .number number := by
  constructor
  · rintro ⟨room, hvalue⟩
    obtain ⟨number, hnumber, rfl⟩ := Option.map_eq_some_iff.1 hvalue
    exact ⟨number, hnumber, rfl⟩
  · rintro ⟨number, hnumber, rfl⟩
    exact ⟨0, by rw [Value.ofTree?, hnumber, Option.map_some]⟩

theorem mem_membersOf {entries : List (String × Value)} {key : String} {e : Ecma.Expr} :
    (Ecma.keyOf key, e) ∈ Script.membersOf entries ↔
      ∃ value, (key, value) ∈ entries ∧ value.expr = e := by
  rw [Script.membersOf, List.mem_map]
  constructor
  · rintro ⟨⟨label, value⟩, hmem, heq⟩
    obtain ⟨hkey, rfl⟩ := Prod.mk.inj heq
    have hlabel : label = key := by
      rw [← Ecma.keyOf_text label, hkey, Ecma.keyOf_text]
    exact ⟨value, hlabel ▸ hmem, rfl⟩
  · rintro ⟨value, hmem, rfl⟩
    exact ⟨(key, value), hmem, rfl⟩

theorem text_of_value {entry : Document.Entry} {number : Number} (h : entry.value = .number number) :
    entry.text = String.ofList number.numeral.chars := by
  rw [Document.Entry.text, h, chars_numeral]
  rfl

theorem value_of_entry {room : Nat} {tree : Tree} {entry : Document.Entry}
    (h : Document.Entry.ofTree? room tree = some entry) {part : Tree}
    (hpart : tree.field? EntryForm.recorded.fields "value" = some part) :
    part.Denotes entry.value := by
  cases room with
  | zero => cases h
  | succ room =>
      have hwrites := (Document.exists_entry_iff.1 ⟨entry, h, rfl⟩).1
      have hdenotes := hwrites.part_denotes
      rw [EntryForm.part, hpart] at hdenotes
      exact hdenotes

/-- A number is shown as the number that was decoded, and as the same numeral exactly if
that is kept: an integer in range, or the shortest numeral of the double that is decoded
from it. A script shows, under the origin that its text is given for, what the text has
last under a key. The text of a header or of a form field whose value is a number shows
it in the same way. -/
theorem numbers_shown (text : String) :
    (∀ (read : Reader) (path : String) (options : Options) (script : String),
        (convert read path options).outcome = .ok script → script ≠ Script.emptyText →
        ∀ origin parts, Supplies read path options origin text → HasParts text parts origin →
          ∃ members, Script.declaredMembers? origin script = some members
            ∧ ∀ key n, LastOf parts (key, .numeral n) → ∃ shown, Shows n shown
              ∧ ∀ e, (Ecma.keyOf key, e) ∈ members ↔ e = .numeral shown)
      ∧ ∀ document, Tree.parse? text = some document → ∀ n ∈ document.numerals,
          ∀ room tree entry, Document.Entry.ofTree? room tree = some entry →
            tree.field? EntryForm.recorded.fields "value" = some (.numeral n) →
            ∃ shown, Shows n shown ∧ entry.text = String.ofList shown.chars := by
  refine ⟨?_, ?_⟩
  · intro read path options script hscript hfull origin parts hsupplies hparts
    obtain ⟨vars, hvars, hmembers⟩ := declaredMembers?_of_supplies hscript hfull hsupplies
    obtain ⟨pairs, hdenoted, hmerges⟩ := exists_denoted hparts hvars
    obtain ⟨document, hdocument, hnumerals⟩ := exists_document_of_parts hparts
    refine ⟨_, hmembers, ?_⟩
    intro key n hlast
    obtain ⟨value, hvalue, hlast'⟩ := hdenoted.last hlast
    obtain ⟨number, hnumber, rfl⟩ := denotes_numeral_iff.1 hvalue
    have hmem : (key, Tree.numeral n) ∈ parts := by
      obtain ⟨front, back, rfl, -⟩ := hlast
      simp
    have hn : n ∈ document.numerals := hnumerals _ hmem n List.mem_cons_self
    refine ⟨_, shows_numeral (Tree.numeral_of_parse? hdocument hn).1 hnumber, ?_⟩
    intro e
    simp only [mem_membersOf, hmerges.mem_iff hlast', exists_eq_left]
    exact eq_comm
  · intro document hdocument n hn room tree entry hentry hpart
    obtain ⟨number, hnumber, hvalue⟩ := denotes_numeral_iff.1 (value_of_entry hentry hpart)
    exact ⟨_, shows_numeral (Tree.numeral_of_parse? hdocument hn).1 hnumber, text_of_value hvalue⟩

def priced : String :=
  "\x7b\"item\": [\x7b\"request\": \"http://host/\"\x7d], \"variable\": [[\"price\", 1.50]]\x7d"

/-- The price is declared as 1.5, and so it is as the text of an entry. -/
theorem numbers_shown_price_ne :
    ((Collection.parse priced).outcome.toOption.map fun collection =>
        (Script.Scope.ofSources ⟨none, none, some collection.vars, .absent⟩).render)
      = some "postman[Scope](\x7b\n  collection: \x7b\n    price: 1.5\n  \x7d\n\x7d);"
    ∧ ((Tree.parse? "[\"price\", 1.50]").bind (Document.Entry.ofTree? 2)).map
        Document.Entry.text = some "1.5" := by
  decide +kernel

end LoadScript
