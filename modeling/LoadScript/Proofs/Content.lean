import LoadScript.Proofs.Tokens

/-!
# A script keeps what it was made from

From the text of a script, the requests, the variables and the data file can be
told: scripts that are equal as texts have been made from equal recordings, up
to what a script is not meant to keep — the names and headers of requests, how
a method is written, and whether a map of variables is empty or absent.

Equal texts are read as equal tokens, and these are taken apart from the front.
The fixed tokens tell how rows are used. Where an expression comes next, it ends
where its tokens end and nowhere else (`Expr.tokens_append_inj`), so the scope
statement and the calls are equal one by one, and each determines what it was
made from.
-/

namespace LoadScript.Script

open Ecma

/-! ## Scripts of transactions -/

/-- The script for complete transactions. -/
def scriptOf (ts : List Transaction) (sources : Sources) : Script where
  rows := RowsUse.ofSource? sources.data
  scope := Scope.ofSources sources
  calls := ts.map callOf

theorem compileAll_outcome {ts : List Transaction} (h : ∀ t ∈ ts, t.check = .ok ()) :
    (compileAll ts).outcome = .ok (ts.map callOf) := by
  induction ts with
  | nil => rfl
  | cons t rest ih =>
      have hcall := ofTransaction_eq_ok (h t (by simp))
      have hrest := ih fun u hu => h u (by simp [hu])
      simp only [compileAll, compile, hcall, hrest, Traced.outcome_bind, Traced.outcome_report,
        Traced.outcome_ofExcept, Traced.outcome_pure, List.map_cons]
      rfl

theorem ofTransactions_outcome {ts : List Transaction} (h : ∀ t ∈ ts, t.check = .ok ())
    (sources : Sources) : (ofTransactions ts sources).outcome = .ok (scriptOf ts sources) := by
  simp only [ofTransactions, Traced.outcome_bind, compileAll_outcome h, Traced.outcome_pure]
  rfl

theorem tokens?_scriptOf {ts : List Transaction} (h : ts ≠ []) (sources : Sources) :
    tokens? (scriptOf ts sources).render = some (scriptOf ts sources).tokens := by
  refine tokens?_render ?_ ?_
  · simpa [scriptOf] using h
  · intro call hcall
    obtain ⟨t, _, rfl⟩ := List.mem_map.1 hcall
    exact canonical_callOf t

/-! ## Tokens taken apart -/

variable {ts us : List Token}

theorem headTokens_append_inj {table other : Bool}
    (h : headTokens table ++ ts = headTokens other ++ us) : table = other ∧ ts = us := by
  cases table <;> cases other
  case false.false => exact ⟨rfl, List.append_cancel_left h⟩
  case true.true => exact ⟨rfl, List.append_cancel_left h⟩
  all_goals simp [headTokens, importTokens] at h

/-- Behind the head, the constant for the rows is told from the declaration of a
symbol by its name. -/
theorem rowsTokens_append_inj {rows other : Option RowsUse}
    (htable : rows.any RowsUse.isTable = other.any RowsUse.isTable)
    (h : rowsTokens rows ++ (symbolsTokens rows.isSome ++ ts)
      = rowsTokens other ++ (symbolsTokens other.isSome ++ us)) : rows = other ∧ ts = us := by
  cases rows with
  | none =>
      cases other with
      | none => exact ⟨rfl, List.append_cancel_left (List.append_cancel_left h)⟩
      | some rows => simp [rowsTokens, rowsFrontTokens, symbolsTokens, symbolTokens] at h
  | some rows =>
      cases other with
      | none => simp [rowsTokens, rowsFrontTokens, symbolsTokens, symbolTokens] at h
      | some other =>
          obtain ⟨path, table⟩ := rows
          obtain ⟨otherPath, otherTable⟩ := other
          have heq : table = otherTable := htable
          subst heq
          simp only [rowsTokens, List.append_assoc, List.append_cancel_left_eq,
            List.cons_append, List.nil_append, List.cons.injEq, Token.string.injEq] at h
          obtain ⟨hpath, hrest⟩ := h
          rw [hpath]
          exact ⟨rfl, List.append_cancel_left hrest⟩

theorem callTokens_append_inj {call other : Call} (h : callTokens call ++ ts = callTokens other ++ us) :
    call.expr = other.expr ∧ ts = us := by
  simp only [callTokens, List.cons_append, List.append_assoc, List.cons.injEq, true_and,
    List.nil_append] at h
  obtain ⟨hexpr, hrest⟩ := Expr.tokens_append_inj (by simp [Expr.carriesOn])
    (by simp [Expr.carriesOn]) h
  exact ⟨hexpr, (List.cons.inj hrest).2⟩

theorem flatMap_callTokens_inj {calls others : List Call}
    (h : calls.flatMap callTokens ++ [.punctuator "\x7d"]
      = others.flatMap callTokens ++ [.punctuator "\x7d"]) :
    calls.map Call.expr = others.map Call.expr := by
  induction calls generalizing others with
  | nil =>
      cases others with
      | nil => rfl
      | cons other rest => simp [callTokens] at h
  | cons call calls ih =>
      cases others with
      | nil => simp [callTokens] at h
      | cons other others =>
          rw [List.flatMap_cons, List.flatMap_cons, List.append_assoc, List.append_assoc] at h
          obtain ⟨hexpr, hrest⟩ := callTokens_append_inj h
          rw [List.map_cons, List.map_cons, hexpr, ih hrest]

/-- The tokens of a script tell how it uses rows, its scope statement and its
calls. -/
theorem tokens_inj {script other : Script} (h : script.tokens = other.tokens) :
    script.rows = other.rows ∧ script.scope.expr = other.scope.expr
      ∧ script.calls.map Call.expr = other.calls.map Call.expr := by
  simp only [tokens, List.append_assoc] at h
  obtain ⟨htable, h⟩ := headTokens_append_inj h
  obtain ⟨hrows, h⟩ := rowsTokens_append_inj htable h
  obtain ⟨hscope, h⟩ := Expr.tokens_append_inj (by simp [Expr.carriesOn])
    (by simp [Expr.carriesOn]) h
  rw [hrows, List.append_cancel_left_eq, List.append_cancel_left_eq] at h
  exact ⟨hrows, hscope, flatMap_callTokens_inj h⟩

/-! ## Equal texts -/

theorem ofSource?_inj {data other : RowSource}
    (h : RowsUse.ofSource? data = RowsUse.ofSource? other) : data = other := by
  cases data with
  | absent => cases other <;> simp_all [RowsUse.ofSource?]
  | json path => cases other <;> simp_all [RowsUse.ofSource?]
  | csv path => cases other <;> simp_all [RowsUse.ofSource?]

theorem forall₂_of_map_eq {ts us : List Transaction}
    (h : (ts.map callOf).map Call.expr = (us.map callOf).map Call.expr) :
    List.Forall₂ (fun t u => Text.upperAscii (Text.trim t.method)
      = Text.upperAscii (Text.trim u.method) ∧ t.url = u.url ∧ t.body = u.body) ts us := by
  induction ts generalizing us with
  | nil =>
      cases us with
      | nil => exact .nil
      | cons u us => simp at h
  | cons t ts ih =>
      cases us with
      | nil => simp at h
      | cons u us =>
          simp only [List.map_cons, List.cons.injEq] at h
          exact .cons (callOf_expr_inj h.1) (ih h.2)

/-- Scripts that are equal as texts replay the same requests in the same order,
with the same variables and the same data file. -/
theorem eq_of_render_eq {ts us : List Transaction} {sources others : Sources} (hts : ts ≠ [])
    (hus : us ≠ []) (hcheck : ∀ t ∈ ts, t.check = .ok ()) (hcheck' : ∀ u ∈ us, u.check = .ok ())
    (h : (ofTransactions ts sources).outcome.map render
      = (ofTransactions us others).outcome.map render) :
    List.Forall₂ (fun t u => Text.upperAscii (Text.trim t.method)
        = Text.upperAscii (Text.trim u.method) ∧ t.url = u.url ∧ t.body = u.body) ts us
      ∧ entriesOf sources.globals = entriesOf others.globals
      ∧ entriesOf sources.environment = entriesOf others.environment
      ∧ entriesOf sources.collection = entriesOf others.collection
      ∧ sources.data = others.data := by
  rw [ofTransactions_outcome hcheck, ofTransactions_outcome hcheck'] at h
  have hrender : (scriptOf ts sources).render = (scriptOf us others).render := Except.ok.inj h
  have htokens := tokens?_scriptOf hts sources
  rw [hrender, tokens?_scriptOf hus others, Option.some.injEq] at htokens
  obtain ⟨hrows, hscope, hcalls⟩ := tokens_inj htokens.symm
  have hvars : ∀ origin, origin ≠ .data →
      entriesOf (varsOf sources origin) = entriesOf (varsOf others origin) :=
    fun origin horigin => entriesOf_eq hscope horigin
  exact ⟨forall₂_of_map_eq hcalls, hvars .global (by decide), hvars .environment (by decide),
    hvars .collection (by decide), ofSource?_inj hrows⟩

/-- A request as one tool records it. -/
def recorded : Transaction where
  name := "front page"
  method := " get\n"
  url := "http://\x7b\x7bhost\x7d\x7d/"
  headers := OrderedMap.ofList [("Accept", "*/*")]
  body := .absent

/-- The same request as another tool records it. -/
def recordedAgain : Transaction where
  name := ""
  method := "GET"
  url := "http://\x7b\x7bhost\x7d\x7d/"
  headers := ∅
  body := .absent

theorem eq_of_render_eq_recorded :
    [recorded] ≠ [] ∧ [recordedAgain] ≠ [] ∧ (∀ t ∈ [recorded], t.check = .ok ())
      ∧ (∀ u ∈ [recordedAgain], u.check = .ok ())
      ∧ (ofTransactions [recorded] ⟨none, some ∅, none, .json "rows"⟩).outcome.map render
        = (ofTransactions [recordedAgain] ⟨some ∅, none, none, .json "rows"⟩).outcome.map render
      ∧ List.Forall₂ (fun t u => Text.upperAscii (Text.trim t.method)
        = Text.upperAscii (Text.trim u.method) ∧ t.url = u.url ∧ t.body = u.body)
        [recorded] [recordedAgain] := by
  have hcheck : ∀ t ∈ [recorded], t.check = .ok () := by simp; rfl
  have hcheck' : ∀ u ∈ [recordedAgain], u.check = .ok () := by simp; rfl
  have hcall : callOf recorded = callOf recordedAgain := by decide +kernel
  have hrender : (ofTransactions [recorded] ⟨none, some ∅, none, .json "rows"⟩).outcome.map render
      = (ofTransactions [recordedAgain] ⟨some ∅, none, none, .json "rows"⟩).outcome.map
          render := by
    rw [ofTransactions_outcome hcheck, ofTransactions_outcome hcheck', scriptOf, scriptOf,
      List.map_singleton, List.map_singleton, hcall]
    rfl
  exact ⟨by simp, by simp, hcheck, hcheck', hrender,
    (eq_of_render_eq (by simp) (by simp) hcheck hcheck' hrender).1⟩

end LoadScript.Script
