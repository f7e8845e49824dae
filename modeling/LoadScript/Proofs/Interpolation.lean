import LoadScript.Proofs.LineBreak
import LoadScript.Proofs.Marker

/-!
# A text expression stands for the text with its markers replaced

A text becomes a string literal or a template literal, and what the script
computes from that at run time is an ECMAScript matter: string literals stand
for what they denote, and a template for its chunks with the values of its
substitutions between them. A substitution here is always a lookup
`pm[Var]("name")`, so a value for each name gives a value for each expression
(`eval?`). What is proved is that this value is the text with its markers
replaced.

Reading a rendered expression back comes in two steps: the rendering spells the
tokens of a certain expression (`TextExpr.Canonical.spells`), and those tokens
are read as it. The lemmas about evaluation are about that expression alone.
-/

namespace LoadScript.Script

open Ecma

/-- The lookup of a variable. -/
def lookup (name : String) : Expr :=
  .call (.index (.name "pm") (.name "Var")) [.string name]

/-- The first chunk and the other parts of the template literal for segments. -/
def templateOf : List Segment → String × List (Expr × String)
  | [] => ("", [])
  | .literal text :: rest => (text ++ (templateOf rest).1, (templateOf rest).2)
  | .reference name :: rest => ("", (lookup name, (templateOf rest).1) :: (templateOf rest).2)

/-- A text expression as an expression of ECMAScript. -/
def TextExpr.expr : TextExpr → Expr
  | plain text => .string text
  | template segments => .template (templateOf segments).1 (templateOf segments).2

/-! ## What a text expression is read as -/

theorem spells_lookup (name : String) :
    Spells ("pm[Var](" ++ quote name ++ ")") (lookup name).tokens := by
  have hfront : Spells "pm[Var]("
      [.name "pm", .punctuator "[", .name "Var", .punctuator "]", .punctuator "("] :=
    fun _ => rfl
  have hback : Spells ")" [.punctuator ")"] := fun _ => rfl
  exact (hfront.append (spells_quote name)).append hback

theorem Separated.tail {segment : Segment} {rest : List Segment}
    (h : Separated (segment :: rest)) : Separated rest := by
  match segment, rest with
  | .literal _, [] => trivial
  | .literal _, .reference _ :: _ => exact h
  | .reference _, _ => exact h

/-- Behind a literal segment stands the end of the template or a dollar. -/
theorem template_next {text : String} {rest : List Segment}
    (h : Separated (.literal text :: rest)) :
    ∃ c more, (String.join (rest.map Segment.render)).toList ++ ['\x60'] = c :: more
      ∧ c ≠ '\x7b' := by
  match rest with
  | [] => exact ⟨'\x60', [], by simp, by decide⟩
  | .reference name :: more =>
      exact ⟨'$', _, by simp [Segment.render]; rfl, by decide⟩

/-- The rest of a template literal, from inside a chunk on. -/
theorem feed_segments {segments : List Segment} (h : Separated segments) (first : Bool)
    (read : List Char) (braces : List Bool) :
    feed ⟨.inside (.chunk first) read, braces⟩
        ((String.join (segments.map Segment.render)).toList ++ ['\x60'])
      = some (.start braces,
          .chunk first (templateOf segments).2.isEmpty
              (String.ofList (read ++ (templateOf segments).1.toList))
            :: Expr.partTokens (templateOf segments).2) := by
  induction segments generalizing first read with
  | nil => simp [feed, step?, inside?, templateOf, Expr.partTokens]
  | cons segment rest ih =>
      rw [List.map_cons, String.join_cons, String.toList_append, List.append_assoc]
      cases segment with
      | literal text =>
          obtain ⟨c, more, hmore, hc⟩ := template_next h
          have hrest := ih h.tail first (read ++ text.toList)
          rw [hmore] at hrest ⊢
          rw [Segment.render, String.toList_ofList, feed_templateChars hc, hrest]
          simp [templateOf]
      | reference name =>
          have hopen : feed ⟨.inside (.chunk first) read, braces⟩ ['$', '\x7b']
              = some (.start (true :: braces), [.chunk first false (String.ofList read)]) := by
            rfl
          have hclose : step? (.start (true :: braces)) '\x7d'
              = some (⟨.inside (.chunk false) [], braces⟩, []) := rfl
          have htext : (Segment.reference name).render.toList
              = ['$', '\x7b'] ++ (("pm[Var](" ++ quote name ++ ")").toList ++ ['\x7d']) := by
            simp [Segment.render]
          rw [htext, List.append_assoc, List.append_assoc, feed_append hopen,
            feed_append (spells_lookup name (true :: braces)), List.singleton_append,
            feed_cons hclose, precede_nil, ih h.tail false []]
          simp [templateOf, Expr.partTokens]

/-- Expressions as they come from texts: no two literal segments in a row. -/
def TextExpr.Canonical : TextExpr → Prop
  | plain _ => True
  | template segments => Separated segments

theorem canonical_parse (text : String) : (TextExpr.parse text).Canonical := by
  rw [TextExpr.parse]
  split
  · exact separated_segments text.toList
  · trivial

theorem TextExpr.Canonical.spells {e : TextExpr} (h : e.Canonical) :
    Spells e.render e.expr.tokens := by
  cases e with
  | plain text => exact spells_quote text
  | template segments =>
      intro braces
      have hopen : step? (.start braces) '\x60'
          = some (⟨.inside (.chunk true) [], braces⟩, []) := rfl
      have htext : (TextExpr.template segments).render.toList
          = '\x60' :: ((String.join (segments.map Segment.render)).toList ++ ['\x60']) := by
        simp [TextExpr.render]
      rw [htext, feed_cons hopen, precede_nil, feed_segments h true []]
      simp [TextExpr.expr, Expr.tokens]

/-- Reading the rendered expression of a text. -/
theorem ofText?_render (text : String) :
    Expr.ofText? (TextExpr.parse text).render = some (TextExpr.parse text).expr :=
  Expr.ofText?_eq (canonical_parse text).spells.lexes.tokens?_eq

/-! ## Evaluation -/

mutual

/-- The text that an expression stands for, where each variable has a value;
none if it is no expression of texts. -/
def eval? (value : String → String) : Expr → Option String
  | .string text => some text
  | .template head parts => (evalParts? value parts).map (head ++ ·)
  | .call (.index (.name "pm") (.name "Var")) [.string name] => some (value name)
  | _ => none
  termination_by structural e => e

/-- The text of substitutions and the chunks after them. -/
def evalParts? (value : String → String) : List (Expr × String) → Option String
  | [] => some ""
  | (e, chunk) :: rest => do
    let text ← eval? value e
    let more ← evalParts? value rest
    some (text ++ chunk ++ more)
  termination_by structural parts => parts

end

theorem eval?_templateOf (value : String → String) (segments : List Segment) :
    eval? value (.template (templateOf segments).1 (templateOf segments).2)
      = some (String.ofList (fill value segments)) := by
  rw [eval?]
  induction segments with
  | nil => rfl
  | cons segment rest ih =>
      obtain ⟨more, hmore, htext⟩ := Option.map_eq_some_iff.1 ih
      cases segment with
      | literal text =>
          rw [templateOf, fill, hmore, Option.map_some, String.ofList_append,
            String.ofList_toList, ← htext, String.append_assoc]
      | reference name =>
          have hlookup : eval? value (lookup name) = some (value name) := rfl
          rw [templateOf, fill, evalParts?, hlookup, hmore, String.ofList_append,
            String.ofList_toList, ← htext]
          simp [String.append_assoc]

/-- What a text expression stands for is the text with its segments filled in. -/
theorem eval?_expr (value : String → String) (text : String) :
    eval? value (TextExpr.parse text).expr
      = some (String.ofList (fill value (segments text.toList))) := by
  rw [TextExpr.parse]
  split
  · exact eval?_templateOf value _
  · next h =>
      have hplain : (segments text.toList).any Segment.isReference = false := by simpa using h
      rw [fill_of_plain hplain value _, fill_marker, String.ofList_toList]
      rfl

/-- The value of a text expression with the markers put in for themselves is the
text, so texts are told apart by their expressions. -/
theorem expr_parse_inj {text other : String}
    (h : (TextExpr.parse text).expr = (TextExpr.parse other).expr) : text = other := by
  have hsource := eval?_expr (fun name => String.ofList (marker name.toList)) text
  rw [h, eval?_expr, Option.some.injEq, fill_marker, fill_marker, String.ofList_toList,
    String.ofList_toList] at hsource
  exact hsource.symm

/-- A text expression, rendered and read as source text, stands for the text
with its markers replaced: for the only text that comes of replacing them, and
it has the value of a name wherever the text has its marker. The source text has
no line break. -/
theorem ofText?_render_eval? (value : String → String) (text : String) :
    ∃ out, (∀ other, Substituted value text.toList other ↔ other = out)
      ∧ (∀ before name rest, IsMarkerName name → text.toList = before ++ (marker name ++ rest) →
          ∃ front back, Substituted value before front ∧ Substituted value rest back
            ∧ out = front ++ ((value (String.ofList name)).toList ++ back))
      ∧ (Expr.ofText? (TextExpr.parse text).render).bind (eval? value)
          = some (String.ofList out)
      ∧ ∀ c, IsBreak c → c ∉ (TextExpr.parse text).render.toList := by
  have hout := substituted_fill value text.toList
  refine ⟨_, fun other => ⟨fun h => h.unique hout, fun h => h ▸ hout⟩, ?_, ?_, ?_⟩
  · intro before name rest hname htext
    exact hout.occurrence hname htext
  · rw [ofText?_render, Option.bind_some, eval?_expr]
  · intro c hc
    exact not_mem_textExpr hc _

end LoadScript.Script
