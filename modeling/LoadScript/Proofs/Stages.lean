import LoadScript.Conversion
import LoadScript.Proofs.Content
import LoadScript.Proofs.Walk

/-!
# The stages of a conversion

A conversion goes through its stages in a fixed order: the options, the
collection (reading it, decoding it, replaying its requests one by one), the
globals, the environment, the data file. What can fail at each stage is said
here by what stands in the files alone (`stages`), every stage without regard
to the others, and the conversion fails with the first failure of the list
(`failure?_convert`).

Behind these stages nothing fails any more. Compiling the calls checks every
transaction once again, but a collection that was loaded has none that is
incomplete (`parse_complete`), so its script is always there.
-/

namespace LoadScript

open Document

namespace Reader

variable (read : Reader)

/-! ## What can fail at each stage -/

def unreadable? (path : String) : Option Error :=
  match read path with
  | .ok _ => none
  | .error fault => some (.unreadable path fault)

/-- What is wrong with the text of a file, where there is one. -/
def onText? (path : String) (check : String → Option Error) : Option Error :=
  match read path with
  | .ok text => check text
  | .error _ => none

/-- That the text of a file is not what it should be. -/
def refused? (path : String) (fits : String → Bool) (error : Error) : Option Error :=
  read.onText? path fun text => if fits text then none else some error

/-- The first request of a collection that cannot be replayed. -/
def faultyRequest? (path : String) : Option Error :=
  read.onText? path fun text => (Document.parse? text).bind fun document =>
    (namedRequests document).findSome? fun named => failure? (build named)

def collectionStages (path : String) : List (Option Error) :=
  [read.unreadable? path,
   read.refused? path (fun text => (Document.parse? text).isSome) .malformedCollection,
   read.faultyRequest? path]

def variableStages : Option String → List (Option Error)
  | none => []
  | some path =>
    [read.unreadable? path,
     read.refused? path (fun text => (Variables.parse? text).isSome) (.malformedVariables path)]

def rowsStages : Option String → List (Option Error)
  | none => []
  | some path =>
    [read.unreadable? path,
     read.refused? path (fun text => (DataFile.rowCount? text).isSome) (.malformedRows path)]

def tableStages : Option String → List (Option Error)
  | none => []
  | some path =>
    [read.unreadable? path, read.refused? path DataFile.hasHeader (.missingHeader path)]

def conflict? (options : Options) : Option Error :=
  if options.json.isSome && options.csv.isSome then some .twoDataFiles else none

/-- What fails at the stages of a conversion, in their order. -/
def stages (path : String) (options : Options) : List (Option Error) :=
  conflict? options :: (read.collectionStages path ++ read.variableStages options.globals
    ++ read.variableStages options.environment ++ read.rowsStages options.json
    ++ read.tableStages options.csv)

def firstFailure? (stages : List (Option Error)) : Option Error := stages.findSome? id

theorem firstFailure?_cons (stage : Option Error) (rest : List (Option Error)) :
    firstFailure? (stage :: rest) = stage.or (firstFailure? rest) := by
  cases stage <;> rfl

theorem firstFailure?_append (front back : List (Option Error)) :
    firstFailure? (front ++ back) = (firstFailure? front).or (firstFailure? back) :=
  List.findSome?_append

/-! ## The loaders fail at their stages -/

section Loaders

variable {read}

theorem onText?_or (path : String) (first second : String → Option Error) :
    (read.onText? path first).or (read.onText? path second)
      = read.onText? path fun text => (first text).or (second text) := by
  simp only [onText?]
  cases read path <;> rfl

theorem failure?_text_bind {α : Type} {path : String} {next : String → Traced α}
    {check : String → Option Error} (h : ∀ text, failure? (next text).outcome = check text) :
    failure? (read.text path >>= next).outcome
      = (read.unreadable? path).or (read.onText? path check) := by
  rw [Traced.outcome_bind, text, Traced.outcome_ofExcept, unreadable?, onText?]
  cases read path with
  | error fault => rfl
  | ok text => exact h text

theorem text_bind_eq_ok {α : Type} {path : String} {next : String → Traced α} {a : α}
    (h : (read.text path >>= next).outcome = .ok a) :
    ∃ text, read path = .ok text ∧ (next text).outcome = .ok a := by
  rw [Traced.outcome_bind, text, Traced.outcome_ofExcept] at h
  obtain ⟨text, htext, hnext⟩ := bind_eq_ok_iff.1 h
  cases hread : read path with
  | error fault =>
      rw [hread] at htext
      cases htext
  | ok found =>
      rw [hread] at htext
      rw [← Except.ok.inj htext] at hnext
      exact ⟨found, rfl, hnext⟩

theorem failure?_parse (text : String) :
    failure? (Collection.parse text).outcome
      = (if (Document.parse? text).isSome then none else some .malformedCollection : Option Error).or
        ((Document.parse? text).bind fun document =>
          (namedRequests document).findSome? fun named => failure? (build named)) := by
  rw [Collection.parse]
  cases Document.parse? text with
  | none => rfl
  | some document => exact failure?_ofDocument document

theorem failure?_collection (path : String) :
    failure? (read.collection path).outcome = firstFailure? (read.collectionStages path) := by
  -- what is reported of a collection does not fail
  have hreport : ∀ text, failure? (Collection.parse text >>= fun collection =>
        Traced.report (.loadedCollection path collection.transactions.length) >>= fun _ =>
          pure collection).outcome = failure? (Collection.parse text).outcome := by
    intro text
    rw [Traced.outcome_bind]
    cases (Collection.parse text).outcome <;> rfl
  rw [collection, failure?_text_bind fun text => (hreport text).trans (failure?_parse text),
    ← onText?_or]
  simp only [collectionStages, firstFailure?_cons, refused?, faultyRequest?]
  exact congrArg _ (congrArg _ Option.or_none.symm)

/-- A file whose text has to be of a certain kind, and nothing more. -/
theorem failure?_kind {α : Type} {path : String} {next : String → Traced α} {fits : String → Bool}
    {error : Error} (h : ∀ text, failure? (next text).outcome
      = if fits text then none else some error) :
    failure? (read.text path >>= next).outcome
      = firstFailure? [read.unreadable? path, read.refused? path fits error] := by
  rw [failure?_text_bind h, firstFailure?_cons, firstFailure?_cons, refused?]
  exact congrArg _ Option.or_none.symm

theorem failure?_variableFile (path : String) :
    failure? (read.variableFile path).outcome = firstFailure? (read.variableStages (some path)) := by
  refine failure?_kind fun text => ?_
  cases Variables.parse? text <;> rfl

theorem failure?_variableFile? (path : Option String) :
    failure? (read.variableFile? path).outcome = firstFailure? (read.variableStages path) := by
  cases path with
  | none => rfl
  | some path =>
      rw [variableFile?, Traced.outcome_map, ← failure?_variableFile]
      cases (read.variableFile path).outcome <;> rfl

theorem failure?_rows (path : String) :
    failure? (read.rows path).outcome = firstFailure? (read.rowsStages (some path)) := by
  refine failure?_kind fun text => ?_
  cases DataFile.rowCount? text <;> rfl

theorem failure?_table (path : String) :
    failure? (read.table path).outcome = firstFailure? (read.tableStages (some path)) := by
  refine failure?_kind fun text => ?_
  split <;> rfl

theorem failure?_check (options : Options) : failure? options.check = conflict? options := by
  rw [Options.check, conflict?]
  split <;> rfl

/-- With at most one data file, the data file is the only thing that can fail. -/
theorem failure?_rowSource {options : Options} (h : options.check = .ok ()) :
    failure? (read.rowSource options).outcome
      = firstFailure? (read.rowsStages options.json ++ read.tableStages options.csv) := by
  have hconflict := failure?_check options
  rw [h, failure?_ok, conflict?] at hconflict
  rw [rowSource, Traced.outcome_bind, Traced.outcome_ofExcept, h, firstFailure?_append]
  cases hjson : options.json with
  | some path =>
      cases hcsv : options.csv with
      | some table => simp [hjson, hcsv] at hconflict
      | none =>
          show failure? (read.rows path).outcome = _
          rw [failure?_rows]
          exact Option.or_none.symm
  | none =>
      cases hcsv : options.csv with
      | some path => exact failure?_table path
      | none => rfl

theorem failure?_sources (collection : Collection) {options : Options}
    (h : options.check = .ok ()) :
    failure? (read.sources collection options).outcome
      = firstFailure? (read.variableStages options.globals
        ++ read.variableStages options.environment
        ++ read.rowsStages options.json ++ read.tableStages options.csv) := by
  simp only [firstFailure?_append, Option.or_assoc]
  rw [← firstFailure?_append (read.rowsStages options.json), ← failure?_variableFile?,
    ← failure?_variableFile?, ← failure?_rowSource h, sources, Traced.outcome_bind]
  refine failure?_bind fun globals _ => ?_
  rw [Traced.outcome_bind]
  refine failure?_bind fun environment _ => ?_
  rw [Traced.outcome_bind]
  cases (read.rowSource options).outcome <;> rfl

end Loaders

end Reader

/-- The stages of a file that need not be given do not fail exactly when the file
loads, if it is given. -/
theorem Reader.firstFailure?_eq_none_iff {α : Type} {load : String → Traced α}
    {stagesOf : Option String → List (Option Error)} (hnone : stagesOf none = [])
    (h : ∀ path, failure? (load path).outcome = firstFailure? (stagesOf (some path)))
    (path : Option String) :
    firstFailure? (stagesOf path) = none ↔ ∀ p ∈ path, ∃ a, (load p).outcome = .ok a := by
  cases path with
  | none => simp [hnone, firstFailure?]
  | some path => simp [← h, failure?_eq_none_iff]

theorem Reader.conflict?_eq_none_iff (options : Options) :
    conflict? options = none ↔ ¬ (options.json.isSome ∧ options.csv.isSome) := by
  simp [conflict?]

/-! ## What loads converts -/

/-- A collection that a document comes to has complete transactions only. -/
theorem ofDocument_complete {document : Document} {collection : Collection}
    (h : (Collection.ofDocument document).outcome = .ok collection) :
    ∀ t ∈ collection.transactions, t.check = .ok () := by
  rw [ofDocument_outcome] at h
  obtain ⟨ts, hts, rfl⟩ := map_eq_ok_iff.1 h
  exact forall_of_mapM (fun _ _ hbuild => Request.check_transaction hbuild) hts

theorem parse_complete {text : String} {collection : Collection}
    (h : (Collection.parse text).outcome = .ok collection) :
    ∀ t ∈ collection.transactions, t.check = .ok () := by
  rw [Collection.parse] at h
  cases hdocument : Document.parse? text with
  | none =>
      rw [hdocument] at h
      cases h
  | some document =>
      rw [hdocument] at h
      exact ofDocument_complete h

theorem ofTransactions_parse {text : String} {collection : Collection}
    (h : (Collection.parse text).outcome = .ok collection) (sources : Sources) :
    (Script.ofTransactions collection.transactions sources).outcome
      = .ok (Script.scriptOf collection.transactions sources) :=
  Script.ofTransactions_outcome (parse_complete h) sources

theorem parse_of_collection {read : Reader} {path : String} {collection : Collection}
    (h : (read.collection path).outcome = .ok collection) :
    ∃ text, read path = .ok text ∧ (Collection.parse text).outcome = .ok collection := by
  rw [Reader.collection, Traced.outcome_bind, Reader.text, Traced.outcome_ofExcept] at h
  obtain ⟨text, htext, hloaded⟩ := bind_eq_ok_iff.1 h
  rw [Traced.outcome_bind] at hloaded
  obtain ⟨loaded, hparse, hsame⟩ := bind_eq_ok_iff.1 hloaded
  obtain rfl : loaded = collection := Except.ok.inj hsame
  refine ⟨text, ?_, hparse⟩
  cases hread : read path with
  | error fault =>
      rw [hread] at htext
      cases htext
  | ok other =>
      rw [hread] at htext
      exact congrArg Except.ok (Except.ok.inj htext)

/-- What a conversion comes to, the options being in order. -/
theorem convert_outcome (read : Reader) (path : String) {options : Options}
    (h : options.check = .ok ()) :
    (convert read path options).outcome
      = (read.collection path).outcome.bind fun collection =>
          (read.sources collection options).outcome.map fun sources =>
            (Script.scriptOf collection.transactions sources).render := by
  rw [convert, Traced.outcome_bind, Traced.outcome_ofExcept, h]
  show (read.collection path >>= _).outcome = _
  rw [Traced.outcome_bind]
  cases hcollection : (read.collection path).outcome with
  | error error => rfl
  | ok collection =>
      obtain ⟨text, -, hparse⟩ := parse_of_collection hcollection
      show (read.sources collection options >>= _).outcome
        = (read.sources collection options).outcome.map _
      rw [Traced.outcome_bind]
      cases (read.sources collection options).outcome with
      | error error => rfl
      | ok sources =>
          show (Script.ofTransactions collection.transactions sources >>= _).outcome
            = .ok (Script.scriptOf collection.transactions sources).render
          rw [Traced.outcome_bind, ofTransactions_parse hparse]
          rfl

theorem Reader.sources_eq_ok {read : Reader} {collection : Collection} {options : Options}
    {sources : Sources} (h : (read.sources collection options).outcome = .ok sources) :
    (read.variableFile? options.globals).outcome = .ok sources.globals
      ∧ (read.variableFile? options.environment).outcome = .ok sources.environment
      ∧ (read.rowSource options).outcome = .ok sources.data
      ∧ sources.collection = some collection.vars := by
  rw [Reader.sources, Traced.outcome_bind] at h
  obtain ⟨globals, hglobals, h⟩ := bind_eq_ok_iff.1 h
  rw [Traced.outcome_bind] at h
  obtain ⟨environment, henvironment, h⟩ := bind_eq_ok_iff.1 h
  rw [Traced.outcome_bind] at h
  obtain ⟨rows, hrows, h⟩ := bind_eq_ok_iff.1 h
  rw [← Except.ok.inj h]
  exact ⟨hglobals, henvironment, hrows, rfl⟩

/-- A conversion that comes to a script has loaded everything that it is made of. -/
theorem exists_sources_of_convert {read : Reader} {path : String} {options : Options}
    {text : String} (h : (convert read path options).outcome = .ok text) :
    ∃ collection sources, (read.collection path).outcome = .ok collection
      ∧ (read.sources collection options).outcome = .ok sources
      ∧ (Script.scriptOf collection.transactions sources).render = text := by
  cases hcheck : options.check with
  | error error =>
      rw [convert, Traced.outcome_bind, Traced.outcome_ofExcept, hcheck] at h
      cases h
  | ok _ =>
      rw [convert_outcome read path hcheck] at h
      obtain ⟨collection, hcollection, hscript⟩ := bind_eq_ok_iff.1 h
      obtain ⟨sources, hsources, hrender⟩ := map_eq_ok_iff.1 hscript
      exact ⟨collection, sources, hcollection, hsources, hrender⟩

theorem exists_script_of_convert {read : Reader} {path : String} {options : Options}
    {text : String} (h : (convert read path options).outcome = .ok text) :
    ∃ collection sources, (read.collection path).outcome = .ok collection
      ∧ (Script.scriptOf collection.transactions sources).render = text := by
  obtain ⟨collection, sources, hcollection, -, hrender⟩ := exists_sources_of_convert h
  exact ⟨collection, sources, hcollection, hrender⟩

/-- A conversion fails with the first failure of its stages. -/
theorem failure?_convert (read : Reader) (path : String) (options : Options) :
    failure? (convert read path options).outcome
      = Reader.firstFailure? (read.stages path options) := by
  have hconflict := Reader.failure?_check options
  rw [Reader.stages, Reader.firstFailure?_cons, ← hconflict]
  cases hcheck : options.check with
  | error error =>
      rw [convert, Traced.outcome_bind, Traced.outcome_ofExcept, hcheck]
      rfl
  | ok _ =>
      -- the collection fails first, and what comes behind it depends on it no further
      rw [failure?_ok, Option.none_or, convert_outcome read path hcheck, List.append_assoc,
        List.append_assoc, List.append_assoc, Reader.firstFailure?_append,
        ← Reader.failure?_collection]
      refine failure?_bind fun collection _ => ?_
      rw [← List.append_assoc, ← List.append_assoc, ← Reader.failure?_sources collection hcheck]
      cases (read.sources collection options).outcome <;> rfl

/-! ## The script without requests -/

namespace Script

/-- A script with calls begins with its head and not with the comment that stands
for none. -/
theorem render_eq_emptyText_iff (script : Script) :
    script.render = emptyText ↔ script.calls = [] := by
  rw [render]
  split
  · next hempty => exact ⟨fun _ => List.isEmpty_iff.1 hempty, fun _ => rfl⟩
  · next hcalls =>
      have hhead : ∃ rest, ("\n".intercalate script.lines).toList
          = "// Auto-generated by the Load Impact converter".toList ++ rest := by
        rw [lines, frontLines, headLines]
        simp only [List.cons_append, String.intercalate_cons_cons, String.toList_append,
          List.append_assoc]
        exact ⟨_, rfl⟩
      obtain ⟨rest, hrest⟩ := hhead
      constructor
      · intro heq
        have hstart := congrArg (List.take 4) hrest
        rw [heq, List.take_append_of_le_length (by decide)] at hstart
        exact absurd hstart (by decide)
      · intro hnone
        exact absurd (List.isEmpty_iff.2 hnone) hcalls

end Script

/-- Whatever a collection was loaded from, its script is made. So a conversion
succeeds exactly when its options are in order and every file that it is given
loads; else its failure is the first one there is, in the order of the stages. The
script is the fixed comment exactly for a collection without requests. -/
theorem convert_stages (read : Reader) (path : String) (options : Options) :
    (∀ text collection sources, (Collection.parse text).outcome = .ok collection →
        ∃ script, (Script.ofTransactions collection.transactions sources).outcome = .ok script)
      ∧ ((∃ text, (convert read path options).outcome = .ok text) ↔
          ¬ (options.json.isSome ∧ options.csv.isSome)
            ∧ (∃ collection, (read.collection path).outcome = .ok collection)
            ∧ (∀ path ∈ options.globals, ∃ vars, (read.variableFile path).outcome = .ok vars)
            ∧ (∀ path ∈ options.environment, ∃ vars, (read.variableFile path).outcome = .ok vars)
            ∧ (∀ path ∈ options.json, ∃ rows, (read.rows path).outcome = .ok rows)
            ∧ ∀ path ∈ options.csv, ∃ rows, (read.table path).outcome = .ok rows)
      ∧ failure? (convert read path options).outcome
          = Reader.firstFailure? (read.stages path options)
      ∧ ∀ text, (convert read path options).outcome = .ok text →
          ∃ collection, (read.collection path).outcome = .ok collection
            ∧ (text = Script.emptyText ↔ collection.transactions = []) := by
  refine ⟨fun text collection sources h => ⟨_, ofTransactions_parse h sources⟩, ?_,
    failure?_convert read path options, fun text htext => ?_⟩
  · rw [← failure?_eq_none_iff, failure?_convert, Reader.stages, Reader.firstFailure?_cons]
    simp only [Reader.firstFailure?_append, Option.or_eq_none_iff, and_assoc]
    rw [Reader.conflict?_eq_none_iff, ← Reader.failure?_collection, failure?_eq_none_iff,
      Reader.firstFailure?_eq_none_iff rfl Reader.failure?_variableFile,
      Reader.firstFailure?_eq_none_iff rfl Reader.failure?_variableFile,
      Reader.firstFailure?_eq_none_iff rfl Reader.failure?_rows,
      Reader.firstFailure?_eq_none_iff rfl Reader.failure?_table]
  · obtain ⟨collection, sources, hcollection, rfl⟩ := exists_script_of_convert htext
    refine ⟨collection, hcollection, ?_⟩
    rw [Script.render_eq_emptyText_iff, Script.scriptOf, List.map_eq_nil_iff]

end LoadScript
