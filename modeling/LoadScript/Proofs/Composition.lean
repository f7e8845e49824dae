import LoadScript.Proofs.Content
import LoadScript.Proofs.Failure

/-!
# Scripts compose

A script is a front that depends on the sources alone, a statement for each
call, and the closing brace. What stands in a statement is decided by its own
transaction, so the script for more transactions is the script for the first of
them with the statements of the others put in front of its last line. No
statement knows of its neighbours, whatever layout their calls have.

Compiling stops at the first transaction that is incomplete, wherever the list
is cut. So a longer list has a script exactly when the shorter one has and the
rest is complete, and else its failure is that of the first incomplete
transaction (`textFor_eq_error_iff`).
-/

namespace LoadScript.Script

def textFor (ts : List Transaction) (sources : Sources) : Except Error String :=
  (ofTransactions ts sources).outcome.map render

def statementText (call : Call) : String := "\n  res = " ++ call.render ++ ";\n"

def closingText : String := "\x7d\n"

/-! ## Which transactions have a script -/

theorem ofTransaction_eq (t : Transaction) :
    Call.ofTransaction t = t.check.map fun _ => callOf t := by
  rw [Call.ofTransaction]
  cases t.check with
  | ok _ => rfl
  | error error => rfl

theorem compileAll_eq_mapM (ts : List Transaction) :
    (compileAll ts).outcome = ts.mapM Call.ofTransaction := by
  induction ts with
  | nil => rfl
  | cons t rest ih =>
      have hcompile : (compile t).outcome = Call.ofTransaction t := rfl
      rw [compileAll, Traced.outcome_bind, hcompile, mapM_cons_eq, ← ih]
      simp only [Traced.outcome_bind, Traced.outcome_pure]

theorem failure?_textFor (ts : List Transaction) (sources : Sources) :
    failure? (textFor ts sources) = ts.findSome? fun t => failure? t.check := by
  have hcall : ∀ t, failure? (Call.ofTransaction t) = failure? t.check := by
    intro t
    rw [ofTransaction_eq]
    cases t.check <;> rfl
  have hcalls : failure? (textFor ts sources) = failure? (ts.mapM Call.ofTransaction) := by
    rw [textFor, ofTransactions, Traced.outcome_bind, compileAll_eq_mapM]
    cases ts.mapM Call.ofTransaction <;> rfl
  rw [hcalls, failure?_mapM]
  simp only [hcall]

theorem exists_textFor_iff (ts : List Transaction) (sources : Sources) :
    (∃ text, textFor ts sources = .ok text) ↔ ∀ t ∈ ts, t.check = .ok () := by
  rw [← failure?_eq_none_iff, failure?_textFor, List.findSome?_eq_none_iff]
  simp only [failure?_eq_none_iff]
  constructor
  · intro h t ht
    obtain ⟨_, hcheck⟩ := h t ht
    exact hcheck
  · intro h t ht
    exact ⟨(), h t ht⟩

theorem textFor_eq_error_iff (ts : List Transaction) (sources : Sources) (error : Error) :
    textFor ts sources = .error error ↔
      ∃ before t after, ts = before ++ t :: after ∧ (∀ u ∈ before, u.check = .ok ())
        ∧ t.check = .error error := by
  rw [← failure?_eq_some_iff, failure?_textFor, List.findSome?_eq_some_iff]
  simp only [failure?_eq_some_iff, failure?_eq_none_iff]
  constructor
  · rintro ⟨before, t, after, hts, ht, hbefore⟩
    refine ⟨before, t, after, hts, fun u hu => ?_, ht⟩
    obtain ⟨_, hcheck⟩ := hbefore u hu
    exact hcheck
  · rintro ⟨before, t, after, hts, hbefore, ht⟩
    exact ⟨before, t, after, hts, ht, fun u hu => ⟨(), hbefore u hu⟩⟩

theorem forall₂_ofTransaction {ts : List Transaction} (h : ∀ t ∈ ts, t.check = .ok ()) :
    List.Forall₂ (fun t call => Call.ofTransaction t = .ok call) ts (ts.map callOf) := by
  rw [List.forall₂_map_right_iff, List.forall₂_same]
  intro t ht
  exact ofTransaction_eq_ok (h t ht)

/-! ## The text in three parts -/

/-- What stands in front of the first statement. -/
def frontText (sources : Sources) : String := unlines (scriptOf [] sources).frontLines

theorem unlines_calls (calls : List Call) :
    unlines (calls.flatMap callLines) = String.join (calls.map statementText) := by
  induction calls with
  | nil => rfl
  | cons call rest ih =>
      have hcall : unlines (callLines call) = statementText call := by
        have hbreak : "" ++ "\n" ++ "  res = " = "\n  res = " := rfl
        have hend : ";" ++ "\n" = ";\n" := rfl
        rw [callLines, unlines_cons, unlines_cons, unlines, List.map_nil, String.join_nil,
          String.append_empty, statementText, ← hbreak, ← hend]
        simp only [String.append_assoc]
      rw [List.flatMap_cons, unlines_append, ih, hcall, List.map_cons, String.join_cons]

theorem render_scriptOf {ts : List Transaction} (h : ts ≠ []) (sources : Sources) :
    (scriptOf ts sources).render
      = frontText sources ++ String.join ((ts.map callOf).map statementText) ++ closingText := by
  have hcalls : (scriptOf ts sources).calls ≠ [] := by simpa [scriptOf] using h
  have hfront : frontText sources
      = unlines (headLines (scriptOf ts sources).rows ++ rowsLines (scriptOf ts sources).rows
          ++ symbolLines (scriptOf ts sources).rows ++ [(scriptOf ts sources).scope.render, ""])
        ++ unlines (openingLines (scriptOf ts sources).rows) := by
    rw [← unlines_append]
    rfl
  rw [render_eq_unlines hcalls, hfront, unlines_calls]
  simp only [String.append_assoc]
  rfl

theorem textFor_eq_ok {ts : List Transaction} (hts : ts ≠ []) {sources : Sources} {text : String}
    (h : textFor ts sources = .ok text) :
    (∀ t ∈ ts, t.check = .ok ())
      ∧ text = frontText sources ++ String.join ((ts.map callOf).map statementText)
          ++ closingText := by
  have hcheck : ∀ t ∈ ts, t.check = .ok () := (exists_textFor_iff ts sources).1 ⟨text, h⟩
  rw [textFor, ofTransactions_outcome hcheck] at h
  rw [← render_scriptOf hts]
  exact ⟨hcheck, (Except.ok.inj h).symm⟩

/-- More transactions have a script exactly when the first of them have and the others are
complete, and else fail with the first one that is incomplete. Their script is that of the first
transactions with a statement for each of the others in front of its last line, and what stands in
front of the first statement is the same for all transactions. -/
theorem textFor_append {ts : List Transaction} (hts : ts ≠ []) (us : List Transaction)
    (sources : Sources) :
    ((∃ text, textFor (ts ++ us) sources = .ok text) ↔
        (∃ text, textFor ts sources = .ok text) ∧ ∀ u ∈ us, u.check = .ok ())
      ∧ (∀ error, textFor (ts ++ us) sources = .error error ↔
          ∃ before t after, ts ++ us = before ++ t :: after ∧ (∀ u ∈ before, u.check = .ok ())
            ∧ t.check = .error error)
      ∧ (∀ text, textFor (ts ++ us) sources = .ok text →
          ∃ front calls, textFor ts sources = .ok (front ++ closingText)
            ∧ List.Forall₂ (fun u call => Call.ofTransaction u = .ok call) us calls
            ∧ text = front ++ String.join (calls.map statementText) ++ closingText)
      ∧ ∃ front, ∀ vs text, vs ≠ [] → textFor vs sources = .ok text →
          ∃ calls, List.Forall₂ (fun v call => Call.ofTransaction v = .ok call) vs calls
            ∧ text = front ++ String.join (calls.map statementText) ++ closingText := by
  refine ⟨?_, textFor_eq_error_iff (ts ++ us) sources, ?_, frontText sources, ?_⟩
  · rw [exists_textFor_iff, exists_textFor_iff, List.forall_mem_append]
  · intro text htext
    obtain ⟨hcheck, hparts⟩ := textFor_eq_ok (List.append_ne_nil_of_left_ne_nil hts us) htext
    obtain ⟨hfirst, hmore⟩ := List.forall_mem_append.1 hcheck
    refine ⟨frontText sources ++ String.join ((ts.map callOf).map statementText), us.map callOf,
      ?_, forall₂_ofTransaction hmore, ?_⟩
    · rw [← render_scriptOf hts, textFor, ofTransactions_outcome hfirst]
      rfl
    · rw [hparts, List.map_append, List.map_append, String.join_append]
      simp only [String.append_assoc]
  · intro vs text hvs htext
    obtain ⟨hcheck, hparts⟩ := textFor_eq_ok hvs htext
    exact ⟨vs.map callOf, forall₂_ofTransaction hcheck, hparts⟩

def visit : Transaction := ⟨"visit", "GET", "http://host/", OrderedMap.ofList [], .absent⟩

def login : Transaction :=
  ⟨"login", "POST", "http://host/login", OrderedMap.ofList [],
    .form (OrderedMap.ofList [("user", "\x7b\x7bname\x7d\x7d")])⟩

def unsent : Transaction := ⟨"unsent", " ", "http://host/", OrderedMap.ofList [], .absent⟩

/-- A variable, and a table that a row is taken of in front of the calls. -/
def visitSources : Sources where
  globals := some (OrderedMap.ofList [("name", .string "n")])
  environment := none
  collection := none
  data := .csv "users.csv"

/-- The statement for `login` on the lines that it takes. -/
def loginText : String :=
  "\n".intercalate ["", "  res = http.post(\"http://host/login\", \x7b",
    "    user: \x60$\x7bpm[Var](\"name\")\x7d\x60", "  \x7d);", ""]

theorem textFor_append_visit :
    [visit] ≠ []
      ∧ (∃ front, textFor [visit] visitSources = .ok (front ++ closingText)
        ∧ textFor ([visit] ++ [login]) visitSources = .ok (front ++ loginText ++ closingText))
      ∧ textFor ([visit] ++ [unsent, login]) visitSources = .error (.missingMethod "unsent") := by
  have hvisit : [visit] ≠ [] := by simp
  have hvisitCheck : visit.check = .ok () := rfl
  have hlogin : login.check = .ok () := rfl
  have hrender : statementText (callOf login) = loginText := by decide +kernel
  refine ⟨hvisit, ?_, ?_⟩
  · obtain ⟨hiff, -, hparts, -⟩ := textFor_append hvisit [login] visitSources
    have hfirst : ∃ text, textFor [visit] visitSources = .ok text :=
      (exists_textFor_iff _ _).2 (by simpa using hvisitCheck)
    obtain ⟨text, htext⟩ := hiff.2 ⟨hfirst, by simpa using hlogin⟩
    obtain ⟨front, calls, hfront, hcalls, hwhole⟩ := hparts text htext
    obtain ⟨call, rest, hcall, hnil, hcons⟩ := List.forall₂_cons_left_iff.1 hcalls
    rw [ofTransaction_eq_ok hlogin] at hcall
    rw [hcons, List.forall₂_nil_left_iff.1 hnil, ← Except.ok.inj hcall, List.map_singleton,
      hrender, String.join_cons, String.join_nil, String.append_empty] at hwhole
    exact ⟨front, hfront, htext.trans (congrArg Except.ok hwhole)⟩
  · obtain ⟨-, hfails, -, -⟩ := textFor_append hvisit [unsent, login] visitSources
    exact (hfails _).2 ⟨[visit], unsent, [login], rfl, by simpa using hvisitCheck, rfl⟩

end LoadScript.Script
