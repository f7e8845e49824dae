import LoadScript.Collection
import LoadScript.Proofs.Rearrangement

/-!
# The order of members, and members that nobody asks for

Collection documents are made of records of eight kinds, in each other and at any
depth: the document with its metadata, items and variables, and in a request its URL,
the query, the body and the entries of headers and forms. For each kind it is said here
how the tree of such a record may be rearranged, with what room it is read, and with
the rooms of the records in it. Everywhere else the trees are the same, since order and
repetition matter in lists and in the values of variables.

No reader tells a rearranged tree from the tree, kind by kind, and for items by
recursion on the room. Requests and URLs are decoded as a whole before their form is
told, and what was added to a record inside of one has to be decoded with it. Outside of
requests, members that nobody asks for are skipped, so there they may hold anything.
Their names are decoded everywhere, and a name that is no text is the one thing about
them that matters (`parse_nameless_ne`).
-/

namespace LoadScript

open Json
open Json.Tree (Decodes Elementwise ReadAlike)

namespace Document

/-! ## Rearranged documents -/

/-- How an entry may be rearranged: in its fields stand values, which stay as they are. -/
def Entry.Rearranged (added : Tree → Prop) : Tree → Tree → Prop :=
  Tree.Rearranged ["key", "value", "disabled", "type"] (fun _ => Eq) added

def EntriesRearranged (room : Nat) : Tree → Tree → Prop :=
  Elementwise (Entry.Rearranged (Decodes (room - 2)))

def QueryEntry.Rearranged (room : Nat) : Tree → Tree → Prop :=
  Tree.Rearranged ["key", "value", "disabled"] (fun _ => Eq) (Decodes (room - 1))

def UrlParts.FieldRearranged (room : Nat) : String → Tree → Tree → Prop
  | "query" => Elementwise (QueryEntry.Rearranged (room - 1))
  | _ => Eq

def UrlParts.Rearranged (room : Nat) : Tree → Tree → Prop :=
  Tree.Rearranged ["raw", "protocol", "host", "port", "path", "query", "hash"]
    (UrlParts.FieldRearranged (room - 1)) (Decodes (room - 1))

def Body.FieldRearranged (room : Nat) : String → Tree → Tree → Prop
  | "urlencoded" => EntriesRearranged room
  | "formdata" => EntriesRearranged room
  | _ => Eq

def Body.Rearranged (room : Nat) : Tree → Tree → Prop :=
  Tree.Rearranged ["mode", "raw", "urlencoded", "formdata", "disabled"]
    (Body.FieldRearranged (room - 1)) (Decodes (room - 1))

def FullRequest.FieldRearranged (room : Nat) : String → Tree → Tree → Prop
  | "url" => UrlParts.Rearranged room
  | "header" => EntriesRearranged room
  | "body" => Body.Rearranged room
  | _ => Eq

def FullRequest.Rearranged (room : Nat) : Tree → Tree → Prop :=
  Tree.Rearranged ["method", "url", "header", "body"]
    (FullRequest.FieldRearranged (room - 1)) (Decodes (room - 1))

def Item.FieldRearranged (room : Nat) (children : Tree → Tree → Prop) :
    String → Tree → Tree → Prop
  | "request" => FullRequest.Rearranged room
  | "item" => children
  | _ => Eq

/-- How an item may be rearranged, with its request and the items below it. A list of
items below it takes some of the room, as does each item in the list. -/
def Item.Rearranged : Nat → Tree → Tree → Prop
  | 0 => Eq
  | 1 => Tree.Rearranged ["name", "request", "item"] (Item.FieldRearranged 0 Eq) fun _ => True
  | room + 2 =>
    Tree.Rearranged ["name", "request", "item"]
      (Item.FieldRearranged (room + 1) (Elementwise (Item.Rearranged room))) fun _ => True

def Info.Rearranged : Tree → Tree → Prop :=
  Tree.Rearranged ["name", "schema"] (fun _ => Eq) fun _ => True

def FieldRearranged (room : Nat) : String → Tree → Tree → Prop
  | "info" => Info.Rearranged
  | "item" => Elementwise (Item.Rearranged (room - 1))
  | "variable" => Elementwise (Entry.Rearranged fun _ => True)
  | _ => Eq

/-- How the tree of a document may be rearranged that is read with some room. -/
def Rearranged (room : Nat) : Tree → Tree → Prop :=
  Tree.Rearranged ["info", "item", "variable"] (FieldRearranged (room - 1)) fun _ => True

/-! ## Requests are decoded as before -/

section Decodes

variable {room : Nat} {tree other : Tree}

theorem Entry.decodes_iff (h : Entry.Rearranged (Decodes (room - 1)) tree other) :
    tree.Decodes room ↔ other.Decodes room :=
  Tree.Rearranged.decodes_iff h (fun _ _ _ hsame => by rw [hsame]) fun _ hadded => hadded

theorem entries_decodes_iff (h : EntriesRearranged room tree other) :
    tree.Decodes room ↔ other.Decodes room :=
  Elementwise.decodes_iff h fun _ _ => Entry.decodes_iff

theorem QueryEntry.decodes_iff (h : QueryEntry.Rearranged room tree other) :
    tree.Decodes room ↔ other.Decodes room :=
  Tree.Rearranged.decodes_iff h (fun _ _ _ hsame => by rw [hsame]) fun _ hadded => hadded

theorem UrlParts.decodes_iff (h : UrlParts.Rearranged room tree other) :
    tree.Decodes room ↔ other.Decodes room := by
  refine Tree.Rearranged.decodes_iff h (fun label x y hxy => ?_) fun _ hadded => hadded
  unfold UrlParts.FieldRearranged at hxy
  split at hxy
  · exact hxy.decodes_iff fun _ _ => QueryEntry.decodes_iff
  · rw [hxy]

theorem Body.decodes_iff (h : Body.Rearranged room tree other) :
    tree.Decodes room ↔ other.Decodes room := by
  refine Tree.Rearranged.decodes_iff h (fun label x y hxy => ?_) fun _ hadded => hadded
  unfold Body.FieldRearranged at hxy
  split at hxy
  · exact entries_decodes_iff hxy
  · exact entries_decodes_iff hxy
  · rw [hxy]

theorem FullRequest.decodes_iff (h : FullRequest.Rearranged room tree other) :
    tree.Decodes room ↔ other.Decodes room := by
  refine Tree.Rearranged.decodes_iff h (fun label x y hxy => ?_) fun _ hadded => hadded
  unfold FullRequest.FieldRearranged at hxy
  split at hxy
  · exact UrlParts.decodes_iff hxy
  · exact entries_decodes_iff hxy
  · exact Body.decodes_iff hxy
  · rw [hxy]

end Decodes

theorem bind_decoded {α : Type} {room : Nat} {tree other : Tree}
    (h : tree.Decodes room ↔ other.Decodes room) {result more : Option α} (hread : result = more) :
    ((Value.ofTree? room tree).bind fun _ => result)
      = (Value.ofTree? room other).bind fun _ => more := by
  rw [hread]
  cases htree : Value.ofTree? room tree with
  | none =>
      cases hother : Value.ofTree? room other with
      | none => rfl
      | some value =>
          obtain ⟨_, hsome⟩ := h.2 ⟨value, hother⟩
          rw [htree] at hsome
          cases hsome
  | some value =>
      obtain ⟨_, hsome⟩ := h.1 ⟨value, htree⟩
      rw [hsome]
      rfl

/-! ## Readers do not tell arrangements apart -/

theorem readAlike_elementsWithin {α : Type} {R : Tree → Tree → Prop} {room : Nat}
    {read? : Nat → Tree → Option α}
    (hread : ∀ x y, R x y → read? (room - 1) x = read? (room - 1) y) :
    ReadAlike (elementsWithin? read? room) (Elementwise R) := by
  refine Elementwise.readAlike fun tree other h => ?_
  cases room with
  | zero => rfl
  | succ room => exact h.elements?_eq hread

theorem Entry.ofTree?_rearranged {added : Tree → Prop} {room : Nat} {tree other : Tree}
    (h : Entry.Rearranged added tree other) : Entry.ofTree? room tree = Entry.ofTree? room other := by
  cases room with
  | zero => rfl
  | succ room =>
      refine Tree.Rearranged.bind_record? h fun r s hfields => ?_
      rw [Record.required?_congr .eq (hfields "key" (by simp)),
        Record.withDefault?_congr .eq (hfields "value" (by simp)),
        Record.withDefault?_congr .eq (hfields "disabled" (by simp)),
        Record.optional?_congr .eq (hfields "type" (by simp))]

theorem QueryEntry.ofTree?_rearranged {room depth : Nat} {tree other : Tree}
    (h : QueryEntry.Rearranged depth tree other) :
    QueryEntry.ofTree? room tree = QueryEntry.ofTree? room other := by
  cases room with
  | zero => rfl
  | succ room =>
      refine Tree.Rearranged.bind_record? h fun r s hfields => ?_
      rw [Record.optional?_congr .eq (hfields "key" (by simp)),
        Record.optional?_congr .eq (hfields "value" (by simp)),
        Record.withDefault?_congr .eq (hfields "disabled" (by simp))]

theorem Info.ofTree?_rearranged {room : Nat} {tree other : Tree}
    (h : Info.Rearranged tree other) : Info.ofTree? room tree = Info.ofTree? room other := by
  cases room with
  | zero => rfl
  | succ room =>
      refine Tree.Rearranged.bind_record? h fun r s hfields => ?_
      rw [Record.optional?_congr .eq (hfields "name" (by simp)),
        Record.optional?_congr .eq (hfields "schema" (by simp))]

theorem entries_readAlike (added : Tree → Prop) (room : Nat) :
    ReadAlike (elementsWithin? Entry.ofTree? room) (Elementwise (Entry.Rearranged added)) :=
  readAlike_elementsWithin fun _ _ => Entry.ofTree?_rearranged

theorem UrlParts.ofTree?_rearranged {room : Nat} {tree other : Tree}
    (h : UrlParts.Rearranged room tree other) :
    UrlParts.ofTree? room tree = UrlParts.ofTree? room other := by
  cases room with
  | zero => rfl
  | succ room =>
      refine Tree.Rearranged.bind_record? h fun r s hfields => ?_
      have hquery : ReadAlike (elementsWithin? QueryEntry.ofTree? room)
          (Elementwise (QueryEntry.Rearranged (room - 1))) :=
        readAlike_elementsWithin fun _ _ => QueryEntry.ofTree?_rearranged
      rw [Record.optional?_congr .eq (hfields "raw" (by simp)),
        Record.optional?_congr .eq (hfields "protocol" (by simp)),
        Record.optional?_congr .eq (hfields "host" (by simp)),
        Record.optional?_congr .eq (hfields "port" (by simp)),
        Record.optional?_congr .eq (hfields "path" (by simp)),
        Record.withDefault?_congr hquery (hfields "query" (by simp)),
        Record.optional?_congr .eq (hfields "hash" (by simp))]

theorem Url.ofTree?_rearranged {room : Nat} {tree other : Tree}
    (h : UrlParts.Rearranged room tree other) :
    Url.ofTree? room tree = Url.ofTree? room other := by
  have hdecodes := UrlParts.decodes_iff h
  have hread : (UrlParts.ofTree? room tree).map Url.structured
      = (UrlParts.ofTree? room other).map Url.structured :=
    congrArg (Option.map Url.structured) (UrlParts.ofTree?_rearranged h)
  -- an object and an array are no text, so the second form is tried for both
  cases h with
  | same => rfl
  | object => exact bind_decoded hdecodes hread
  | array => exact bind_decoded hdecodes hread

theorem Body.ofTree?_rearranged {room : Nat} {tree other : Tree}
    (h : Body.Rearranged room tree other) :
    Body.ofTree? room tree = Body.ofTree? room other := by
  cases room with
  | zero => rfl
  | succ room =>
      refine Tree.Rearranged.bind_record? h fun r s hfields => ?_
      have hentries := entries_readAlike (Decodes (room - 2)) room
      rw [Record.optional?_congr .eq (hfields "mode" (by simp)),
        Record.optional?_congr .eq (hfields "raw" (by simp)),
        Record.withDefault?_congr hentries (hfields "urlencoded" (by simp)),
        Record.withDefault?_congr hentries (hfields "formdata" (by simp)),
        Record.withDefault?_congr .eq (hfields "disabled" (by simp))]

theorem FullRequest.ofTree?_rearranged {room : Nat} {tree other : Tree}
    (h : FullRequest.Rearranged room tree other) :
    FullRequest.ofTree? room tree = FullRequest.ofTree? room other := by
  cases room with
  | zero => rfl
  | succ room =>
      refine Tree.Rearranged.bind_record? h fun r s hfields => ?_
      have hurl : ReadAlike (Url.ofTree? room) (UrlParts.Rearranged room) :=
        Tree.Rearranged.readAlike fun _ _ => Url.ofTree?_rearranged
      have hheaders := entries_readAlike (Decodes (room - 2)) room
      have hbody : ReadAlike (Body.ofTree? room) (Body.Rearranged room) :=
        Tree.Rearranged.readAlike fun _ _ => Body.ofTree?_rearranged
      rw [Record.optional?_congr .eq (hfields "method" (by simp)),
        Record.optional?_congr hurl (hfields "url" (by simp)),
        Record.withDefault?_congr hheaders (hfields "header" (by simp)),
        Record.optional?_congr hbody (hfields "body" (by simp))]

theorem Request.ofTree?_rearranged {room : Nat} {tree other : Tree}
    (h : FullRequest.Rearranged room tree other) :
    Request.ofTree? room tree = Request.ofTree? room other := by
  have hdecodes := FullRequest.decodes_iff h
  have hread : (FullRequest.ofTree? room tree).map Request.full
      = (FullRequest.ofTree? room other).map Request.full :=
    congrArg (Option.map Request.full) (FullRequest.ofTree?_rearranged h)
  cases h with
  | same => rfl
  | object => exact bind_decoded hdecodes hread
  | array => exact bind_decoded hdecodes hread

theorem request_readAlike (room : Nat) :
    ReadAlike (Request.ofTree? room) (FullRequest.Rearranged room) :=
  Tree.Rearranged.readAlike fun _ _ => Request.ofTree?_rearranged

theorem Item.ofTree?_rearranged : ∀ {room : Nat} {tree other : Tree},
    Item.Rearranged room tree other → Item.ofTree? room tree = Item.ofTree? room other
  | 0, _, _, h => congrArg (Item.ofTree? 0) h
  | 1, _, _, h => by
      refine Tree.Rearranged.bind_record? h fun r s hfields => ?_
      rw [Record.optional?_congr .eq (hfields "name" (by simp)),
        Record.optional?_congr (request_readAlike 0) (hfields "request" (by simp)),
        Record.optional?_congr .eq (hfields "item" (by simp))]
  | room + 2, _, _, h => by
      refine Tree.Rearranged.bind_record? h fun r s hfields => ?_
      have hitems : ReadAlike (Tree.elements? (Item.ofTree? room))
          (Elementwise (Item.Rearranged room)) :=
        Elementwise.readAlike fun _ _ hlists =>
          hlists.elements?_eq fun _ _ => Item.ofTree?_rearranged
      rw [Record.optional?_congr .eq (hfields "name" (by simp)),
        Record.optional?_congr (request_readAlike (room + 1)) (hfields "request" (by simp)),
        Record.optional?_congr hitems (hfields "item" (by simp))]

/-- A rearranged document is the same document, or both are none. -/
theorem ofTree?_rearranged {room : Nat} {tree other : Tree} (h : Rearranged room tree other) :
    ofTree? room tree = ofTree? room other := by
  cases room with
  | zero => rfl
  | succ room =>
      refine Tree.Rearranged.bind_record? h fun r s hfields => ?_
      have hinfo : ReadAlike (Info.ofTree? room) Info.Rearranged :=
        Tree.Rearranged.readAlike fun _ _ => Info.ofTree?_rearranged
      have hitems : ReadAlike (elementsWithin? Item.ofTree? room)
          (Elementwise (Item.Rearranged (room - 1))) :=
        readAlike_elementsWithin fun _ _ => Item.ofTree?_rearranged
      have hvars := entries_readAlike (fun _ => True) room
      rw [Record.optional?_congr hinfo (hfields "info" (by simp)),
        Record.withDefault?_congr hitems (hfields "item" (by simp)),
        Record.withDefault?_congr hvars (hfields "variable" (by simp))]

end Document

/-- Texts whose documents differ in the order of members and in members that no field
asks for come to the same collection, or are rejected with the same error. -/
theorem Collection.parse_rearranged {text more : String} {tree other : Tree}
    (htext : Tree.parse? text = some tree) (hmore : Tree.parse? more = some other)
    (h : Document.Rearranged nestingLimit tree other) :
    Collection.parse text = Collection.parse more := by
  have hsame : Document.parse? text = Document.parse? more := by
    rw [Document.parse?, Document.parse?, htext, hmore]
    exact Document.ofTree?_rearranged h
  rw [Collection.parse, Collection.parse, hsame]

namespace Document

def brief : String :=
  "\x7b\"item\":[\x7b\"item\":[\x7b\"request\":\x7b\"url\":\x7b\"host\":\"a\"\x7d,\"method\":\"GET\"\x7d\x7d]\x7d]\x7d"

/-- The same turned round, with notes. -/
def annotated : String :=
  "\x7b\"id\":0,\"item\":[\x7b\"item\":[\x7b\"request\":\x7b\"method\":\"GET\",\"url\":\x7b\"id\":[],\"host\":\"a\"\x7d\x7d\x7d]\x7d]\x7d"

def briefRequest : Tree :=
  .object [(some "url", .object [(some "host", .string (some "a"))]),
    (some "method", .string (some "GET"))]

def briefTree : Tree :=
  .object [(some "item", .array [
    .object [(some "item", .array [.object [(some "request", briefRequest)]])]])]

def annotatedRequest : Tree :=
  .object [(some "method", .string (some "GET")),
    (some "url", .object [(some "id", .array []), (some "host", .string (some "a"))])]

def annotatedTree : Tree :=
  .object [(some "id", .numeral ⟨false, ['0'], none, none⟩),
    (some "item", .array [
      .object [(some "item", .array [.object [(some "request", annotatedRequest)]])]])]

theorem rearranged_annotatedRequest :
    FullRequest.Rearranged 122 briefRequest annotatedRequest := by
  have hurl : UrlParts.Rearranged 121 (.object [(some "host", .string (some "a"))])
      (.object [(some "id", .array []), (some "host", .string (some "a"))]) := by
    refine Tree.Rearranged.reverse [_] [(some "id", .array [])] (.cons ⟨rfl, rfl⟩ .nil) ?_
    exact List.forall_mem_singleton.2 ⟨"id", rfl, by decide, .array [], rfl⟩
  exact Tree.Rearranged.reverse [(some "url", _), (some "method", _)] []
    (.cons ⟨rfl, hurl⟩ (.cons ⟨rfl, rfl⟩ .nil)) (List.forall_mem_nil _)

theorem rearranged_annotatedTree : Rearranged nestingLimit briefTree annotatedTree := by
  have hitem : Item.Rearranged 123 (.object [(some "request", briefRequest)])
      (.object [(some "request", annotatedRequest)]) :=
    Tree.Rearranged.reverse [(some "request", annotatedRequest)] []
      (.cons ⟨rfl, rearranged_annotatedRequest⟩ .nil) (List.forall_mem_nil _)
  have hfolder : Item.Rearranged 125
      (.object [(some "item", .array [.object [(some "request", briefRequest)]])])
      (.object [(some "item", .array [.object [(some "request", annotatedRequest)]])]) :=
    Tree.Rearranged.reverse [(some "item", _)] [] (.cons ⟨rfl, .array (.cons hitem .nil)⟩ .nil)
      (List.forall_mem_nil _)
  refine Tree.Rearranged.reverse [(some "item", _)]
    [(some "id", .numeral ⟨false, ['0'], none, none⟩)]
    (.cons ⟨rfl, .array (.cons hfolder .nil)⟩ .nil) ?_
  exact List.forall_mem_singleton.2 ⟨"id", rfl, by decide, trivial⟩

end Document

theorem Collection.parse_rearranged_annotated :
    Tree.parse? Document.brief = some Document.briefTree
      ∧ Tree.parse? Document.annotated = some Document.annotatedTree
      ∧ Document.Rearranged nestingLimit Document.briefTree Document.annotatedTree
      ∧ Collection.parse Document.brief = Collection.parse Document.annotated := by
  have hbrief : Tree.parse? Document.brief = some Document.briefTree := by cbv
  have hannotated : Tree.parse? Document.annotated = some Document.annotatedTree := by cbv
  exact ⟨hbrief, hannotated, Document.rearranged_annotatedTree,
    Collection.parse_rearranged hbrief hannotated Document.rearranged_annotatedTree⟩

/-- A member whose name is no text has the name of no field, and yet it matters: every
name of a record is decoded, be it asked for or not. -/
theorem Collection.parse_nameless_ne :
    Tree.parse? "\x7b\x7d" = some (.object [])
      ∧ Tree.parse? "\x7b\"\\ud800\":null\x7d" = some (.object [(none, .null)])
      ∧ (∀ label ∈ ["info", "item", "variable"], none ≠ some label)
      ∧ Tree.null.Decodes (nestingLimit - 1)
      ∧ Collection.parse "\x7b\x7d" ≠ Collection.parse "\x7b\"\\ud800\":null\x7d" := by
  refine ⟨by cbv, by cbv, by simp, ⟨.null, rfl⟩, fun hsame => ?_⟩
  have hplain : (Collection.parse "\x7b\x7d").outcome.isOk = true := by decide +kernel
  rw [hsame] at hplain
  have hrefused : (Collection.parse "\x7b\"\\ud800\":null\x7d").outcome.isOk = false := by
    decide +kernel
  rw [hrefused] at hplain
  cases hplain

end LoadScript
