import LoadScript.Proofs.Fields
import LoadScript.Proofs.Stages
import LoadScript.Proofs.Statements
import LoadScript.Run

/-!
# A listing and a conversion tell the same

A collection is listed and it is converted, and both start from what it was
loaded to. So they fail together and for the same reason, which needs that no
collection fails to be converted once it has loaded (`convert_outcome`). And
what is listed of a collection is in its script: as many requests as the script
has assignments of a response, in the same order and with the same URLs, and as
many variables as the script declares for the collection.

What a listing shows is said line by line (`Account.lines`), apart from how it
is written. What a script says is read from its text.
-/

namespace LoadScript

open Text

namespace Listing

structure Entry where
  method : String
  url : String
  /-- The lines below the first. -/
  details : List String

structure Account where
  name : Option String
  vars : Nat
  entries : List Entry

def Entry.lines (color : Bool) (number : Nat) (entry : Entry) : List String :=
  ["", "  " ++ toString number ++ ". " ++ Style.brightCyan.paint color entry.method
    ++ " " ++ Style.bold.paint color entry.url] ++ entry.details

def preambleLines (color : Bool) (path : String) : List String :=
  [Style.brightBlue.paint color "Loading collection...", "  Path: " ++ path]

def nameLines (color : Bool) : Option String → List String
  | none => []
  | some name => ["  Name: " ++ Style.bold.paint color name]

/-- The lines about requests: that there are none, or else how many there are, and
each of them under its number. -/
def entryLines (color : Bool) : List Entry → List String
  | [] => [Style.yellow.paint color "No requests found"]
  | entry :: rest =>
    Style.bold.paint color ("Requests (" ++ toString (entry :: rest).length ++ "):")
      :: ((entry :: rest).zipIdx 1).flatMap fun (entry, number) => entry.lines color number

def Account.lines (color : Bool) (account : Account) : List String :=
  ["", Style.green.paint color "✓ Collection loaded successfully"]
    ++ nameLines color account.name
    ++ ["  Variables: " ++ toString account.vars, ""]
    ++ entryLines color account.entries

/-! ## The lines of a listing -/

open Script (unlines unlines_cons unlines_append)

def headerLines (headers : Fields) : List String :=
  if headers.isEmpty then [] else ["     Headers: " ++ toString headers.size]

def bodyLines (color : Bool) (body : Body) : List String :=
  match body with
  | .absent => []
  | .raw text => ["     Body: raw (" ++ toString text.utf8ByteSize ++ " bytes)"]
  | .form fields | .urlencoded fields =>
    ["     Body: " ++ Style.brightYellow.paint color body.kind
      ++ " (" ++ toString fields.size ++ " fields)"]

def entryOf (color : Bool) (t : Transaction) : Entry where
  method := t.method
  url := t.url
  details := ("     Name: " ++ t.name) :: (headerLines t.headers ++ bodyLines color t.body)

def accountOf (color : Bool) (collection : Collection) : Account where
  name := collection.name
  vars := collection.vars.size
  entries := collection.transactions.map (entryOf color)

theorem line_eq (text : String) : line text = unlines [text] := by
  rw [unlines_cons]
  exact String.append_empty.symm

theorem preamble_eq (color : Bool) (path : String) :
    preamble color path = unlines (preambleLines color path) := by
  rw [preamble, line_eq, line_eq, ← unlines_append]
  rfl

theorem bodyText_eq (color : Bool) (body : Body) :
    bodyText color body = unlines (bodyLines color body) := by
  cases body with
  | absent => rfl
  | _ => exact line_eq _

theorem headerText_eq (headers : Fields) :
    (if headers.isEmpty then "" else line ("     Headers: " ++ toString headers.size))
      = unlines (headerLines headers) := by
  unfold headerLines
  split
  · rfl
  · exact line_eq _

theorem requestText_eq (color : Bool) (number : Nat) (t : Transaction) :
    requestText color number t = unlines ((entryOf color t).lines color number) := by
  rw [requestText, headerText_eq, bodyText_eq, line_eq, line_eq, line_eq, ← unlines_append,
    ← unlines_append, ← unlines_append, ← unlines_append]
  rfl

theorem requestsText_eq (color : Bool) (number : Nat) (ts : List Transaction) :
    requestsText color number ts
      = unlines (((ts.map (entryOf color)).zipIdx number).flatMap fun (entry, number) =>
          entry.lines color number) := by
  induction ts generalizing number with
  | nil => rfl
  | cons t rest ih =>
      rw [requestsText, requestText_eq, ih, List.map_cons, List.zipIdx_cons, List.flatMap_cons,
        unlines_append]

theorem body_eq (color : Bool) (collection : Collection) :
    body color collection = unlines ((accountOf color collection).lines color) := by
  have hentries : (if collection.transactions.isEmpty then
        line (Style.yellow.paint color "No requests found")
      else line (Style.bold.paint color
          ("Requests (" ++ toString collection.transactions.length ++ "):"))
        ++ requestsText color 1 collection.transactions)
        = unlines (entryLines color (accountOf color collection).entries) := by
    cases hts : collection.transactions with
    | nil =>
        rw [accountOf, hts]
        exact line_eq _
    | cons t rest =>
        rw [accountOf, hts, List.map_cons, entryLines, unlines_cons, ← List.map_cons,
          ← requestsText_eq, List.length_map]
        rfl
  have hlines : (accountOf color collection).lines color
      = ["", Style.green.paint color "✓ Collection loaded successfully"]
        ++ nameLines color collection.name
        ++ ["  Variables: " ++ toString collection.vars.size, ""]
        ++ entryLines color (accountOf color collection).entries := rfl
  rw [body, hentries, hlines]
  split
  · next hname =>
      rw [hname, String.append_empty]
      simp only [line_eq, ← unlines_append]
      rfl
  · next name hname =>
      rw [hname]
      simp only [line_eq, ← unlines_append]
      rfl

/-! ## What the script says of it -/

open Ecma Script

/-- A declaration of variables has so many properties for the collection, each
under a name of its own; none at all if there are no variables. -/
structure DeclaresVars (declaration : Expr) (count : Nat) : Prop where
  absent : Scope.declared? .collection declaration = none ↔ count = 0
  present : ∀ e, Scope.declared? .collection declaration = some e →
    ∃ members : List (Key × Expr), e = .object members ∧ members.length = count
      ∧ (members.map fun m => m.1.text).Nodup

/-- What a listing shows of a request is what a statement of the script requests. -/
def Entry.IsSentBy (entry : Entry) (result : Expr) : Prop :=
  ∃ sent, Sent.ofExpr? result = some sent ∧ sourceText? sent.url = some entry.url

/-- What is listed is what the script is made of. -/
structure Account.Matches (account : Account) (text : String) : Prop where
  empty : account.entries = [] ↔ text = emptyText
  statements : account.entries ≠ [] → ∃ ts declaration, tokens? text = some ts
    ∧ List.Forall₂ Entry.IsSentBy account.entries (results ts)
    ∧ declarations ts = [declaration] ∧ DeclaresVars declaration account.vars

theorem isSentBy_callOf (color : Bool) (t : Transaction) :
    (entryOf color t).IsSentBy (callOf t).expr :=
  ⟨sentOf t, bind?_callOf t, sourceText?_expr t.url⟩

theorem declaresVars_ofSources {sources : Sources} {vars : Variables}
    (h : sources.collection = some vars) :
    DeclaresVars (Scope.ofSources sources).expr vars.size := by
  have hentries : entriesOf (varsOf sources .collection) = vars.entries := by
    rw [varsOf, h]
    rfl
  have hdeclared := declared?_ofSources sources (show Origin.collection ≠ .data by decide)
  rw [hentries] at hdeclared
  constructor
  · rw [hdeclared, OrderedMap.size, List.length_eq_zero_iff]
    split
    · next hempty => simp [hempty]
    · next hfull => simp [hfull]
  · intro e he
    rw [hdeclared] at he
    split at he
    · cases he
    · refine ⟨_, (Option.some.inj he).symm, List.length_map _, ?_⟩
      have hnames : (vars.entries.map fun entry => (keyOf entry.1, entry.2.expr)).map
          (fun m => m.1.text) = vars.entries.map Prod.fst := by
        rw [List.map_map]
        exact List.map_congr_left fun entry _ => keyOf_text entry.1
      rw [hnames]
      exact vars.nodup

/-- Whatever the other sources are, the script of a collection is what its listing
shows. -/
theorem matches_accountOf (color : Bool) (collection : Collection) {sources : Sources}
    (h : sources.collection = some collection.vars) :
    (accountOf color collection).Matches (scriptOf collection.transactions sources).render where
  empty := by
    rw [render_eq_emptyText_iff, accountOf, scriptOf, List.map_eq_nil_iff, List.map_eq_nil_iff]
  statements := by
    intro hentries
    have hts : collection.transactions ≠ [] := by
      intro hnil
      exact hentries (by rw [accountOf, hnil]; rfl)
    refine ⟨_, _, tokens?_scriptOf hts sources, ?_, declarations_tokens _,
      declaresVars_ofSources h⟩
    rw [results_tokens, accountOf, scriptOf, List.map_map, List.forall₂_map_left_iff,
      List.forall₂_map_right_iff, List.forall₂_same]
    exact fun t _ => isSentBy_callOf color t

end Listing

def Options.unset : Options where
  globals := none
  environment := none
  json := none
  csv := none

theorem convert_unset (read : Reader) (path : String) :
    (convert read path Options.unset).outcome
      = (read.collection path).outcome.map fun collection =>
          (Script.scriptOf collection.transactions
            ⟨none, none, some collection.vars, .absent⟩).render := by
  rw [convert_outcome read path rfl]
  cases (read.collection path).outcome <;> rfl

/-- A listing fails exactly when the conversion without options does, with the
same error and after no more than its first two lines. Else it shows what the
script is made of: no requests exactly if the script is the fixed comment, and
otherwise an entry for each assignment of a response in the script, numbered from
1, with the URL that is requested there; and the number of variables that the
script declares for the collection. -/
theorem list_convert (color : Bool) (read : Reader) (path : String) :
    (listReport color path (read.collection path)).failure
        = failure? (convert read path Options.unset).outcome
      ∧ (∀ error, (convert read path Options.unset).outcome = .error error →
          (listReport color path (read.collection path)).stdout
            = Script.unlines (Listing.preambleLines color path))
      ∧ ∀ script, (convert read path Options.unset).outcome = .ok script →
          ∃ account : Listing.Account, account.Matches script
            ∧ (listReport color path (read.collection path)).stdout
              = Script.unlines (Listing.preambleLines color path ++ account.lines color) := by
  rw [convert_unset, listReport]
  cases (read.collection path).outcome with
  | error error =>
      refine ⟨rfl, fun _ _ => Listing.preamble_eq color path, ?_⟩
      intro script hscript
      cases hscript
  | ok collection =>
      refine ⟨rfl, ?_, ?_⟩
      · intro error herror
        cases herror
      · intro script hscript
        refine ⟨Listing.accountOf color collection, ?_, ?_⟩
        · rw [← Except.ok.inj hscript]
          exact Listing.matches_accountOf color collection rfl
        · rw [Script.unlines_append, ← Listing.preamble_eq, ← Listing.body_eq]

end LoadScript
