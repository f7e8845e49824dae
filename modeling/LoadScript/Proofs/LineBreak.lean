import LoadScript.Proofs.Ecma.Literal
import LoadScript.Script.Call

/-!
# Line breaks of a script

Texts are written without line breaks, whatever they contain, so the line feeds
of a script are those of its layout, and carriage returns it has none.
-/

namespace LoadScript.Script

/-- Line feed and carriage return. -/
def IsBreak (c : Char) : Prop := c = '\n' ∨ c = '\r'

/-- A line break is not among characters that neither of the two is among. -/
theorem IsBreak.not_mem {c : Char} (hc : IsBreak c) {cs : List Char}
    (h : '\n' ∉ cs ∧ '\r' ∉ cs) : c ∉ cs := by
  rcases hc with rfl | rfl
  · exact h.1
  · exact h.2

theorem IsBreak.ne {c : Char} (hc : IsBreak c) {d : Char} (h : '\n' ≠ d ∧ '\r' ≠ d) : c ≠ d := by
  rcases hc with rfl | rfl
  · exact h.1
  · exact h.2

theorem not_mem_append {c : Char} {a b : String} (ha : c ∉ a.toList) (hb : c ∉ b.toList) :
    c ∉ (a ++ b).toList := by
  rw [String.toList_append, List.mem_append, not_or]
  exact ⟨ha, hb⟩

theorem not_mem_intercalate {c : Char} {sep : String} (hsep : c ∉ sep.toList)
    {texts : List String} (h : ∀ text ∈ texts, c ∉ text.toList) :
    c ∉ (sep.intercalate texts).toList := by
  induction texts with
  | nil => simp
  | cons text rest ih =>
      have htext := h text (by simp)
      have hrest := ih fun other hother => h other (by simp [hother])
      cases rest with
      | nil => simpa using htext
      | cons next more =>
          rw [String.intercalate_cons_cons]
          exact not_mem_append (not_mem_append htext hsep) hrest

theorem not_mem_quotedChar {c : Char} (hc : IsBreak c) (d : Char) : c ∉ quotedChar d := by
  unfold quotedChar
  rcases hc with rfl | rfl
  all_goals
    split
    · decide
    · decide
    · decide
    · decide
    · next hn hr =>
        intro hmem
        rcases List.mem_singleton.1 hmem with rfl
        contradiction

theorem not_mem_quote {c : Char} (hc : IsBreak c) (s : String) : c ∉ (quote s).toList := by
  have hquote : c ≠ '"' := hc.ne (by decide)
  simp [quote, quotedChars, hquote, not_mem_quotedChar hc]

theorem not_mem_propertyName {c : Char} (hc : IsBreak c) (s : String) :
    c ∉ (propertyName s).toList := by
  rw [propertyName]
  split
  · next hbare =>
      intro hmem
      cases hs : s.toList with
      | nil => rw [hs] at hmem; exact absurd hmem (by simp)
      | cons d ds =>
          rw [hs, isBareName, Bool.and_eq_true] at hbare
          rw [hs] at hmem
          rcases List.mem_cons.1 hmem with rfl | hmem
          · rcases hc with rfl | rfl <;> exact absurd hbare.1 (by decide)
          · have hpart : isNamePart c = true := List.all_eq_true.1 hbare.2 c hmem
            rcases hc with rfl | rfl <;> exact absurd hpart (by decide)
  · exact not_mem_quote hc s

theorem not_mem_hexByte : ∀ n < 32, '\n' ∉ Json.Value.hexByte n ∧ '\r' ∉ Json.Value.hexByte n := by
  decide

theorem not_mem_escapeChar {c : Char} (hc : IsBreak c) (d : Char) :
    c ∉ Json.Value.escapeChar d := by
  unfold Json.Value.escapeChar
  rcases hc with rfl | rfl
  all_goals
    split
    · decide
    · decide
    · decide
    · decide
    · decide
    · decide
    · decide
    · next hn hr _ =>
        split
        · next hd =>
            have hbyte := not_mem_hexByte d.toNat hd
            simp [hbyte]
        · intro hmem
          rcases List.mem_singleton.1 hmem with rfl
          contradiction

theorem not_mem_quoted {c : Char} (hc : IsBreak c) (s : String) :
    c ∉ (Json.Value.quoted s).toList := by
  have hquote : c ≠ '"' := hc.ne (by decide)
  simp [Json.Value.quoted, hquote, not_mem_escapeChar hc]

theorem not_mem_templateChar {c : Char} (hc : IsBreak c) (d : Char) :
    c ∉ Ecma.templateChar d := by
  unfold Ecma.templateChar
  rcases hc with rfl | rfl
  all_goals
    split
    · decide
    · decide
    · decide
    · decide
    · next hn hr =>
        intro hmem
        rcases List.mem_singleton.1 hmem with rfl
        contradiction

theorem not_mem_templateChars {c : Char} (hc : IsBreak c) (cs : List Char) :
    c ∉ templateChars cs := by
  induction cs using templateChars.induct with
  | case1 => simp [templateChars]
  | case2 cs ih =>
      have hfixed : c ∉ ['\\', '$', '\x7b'] := hc.not_mem (by decide)
      rw [Ecma.templateChars_open]
      intro hmem
      rcases List.mem_append.1 hmem with hmem | hmem
      · exact hfixed hmem
      · exact ih hmem
  | case3 d cs hd ih =>
      rw [Ecma.templateChars_cons hd]
      intro hmem
      rcases List.mem_append.1 hmem with hmem | hmem
      · exact not_mem_templateChar hc d hmem
      · exact ih hmem

theorem not_mem_segment {c : Char} (hc : IsBreak c) (segment : Segment) :
    c ∉ segment.render.toList := by
  cases segment with
  | literal text =>
      rw [Segment.render, String.toList_ofList]
      exact not_mem_templateChars hc text.toList
  | reference name =>
      have hopen : c ∉ "$\x7bpm[Var](".toList := hc.not_mem (by decide)
      have hclose : c ∉ ")\x7d".toList := hc.not_mem (by decide)
      exact not_mem_append (not_mem_append hopen (not_mem_quote hc name)) hclose

/-- A text expression is written in one line. -/
theorem not_mem_textExpr {c : Char} (hc : IsBreak c) (e : TextExpr) : c ∉ e.render.toList := by
  cases e with
  | plain text => exact not_mem_quote hc text
  | template segments =>
      have htick : c ≠ '\x60' := hc.ne (by decide)
      simp [TextExpr.render, htick, not_mem_segment hc]

end LoadScript.Script
