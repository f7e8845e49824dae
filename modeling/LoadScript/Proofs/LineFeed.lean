import LoadScript.Proofs.Shape

/-!
# The line feeds of a script

How many lines a script has is a matter of its layout, and the layout is a
matter of the shape of the input. Two texts are `Aligned` when they have equally
many line feeds and neither has a carriage return. Texts of the same shape are
aligned part by part: what a user wrote has no line breaks at all by the time it
stands in a script, and everything else is the same in both.
-/

namespace LoadScript.Script

/-- Texts with equally many line feeds and without carriage returns. -/
structure Aligned (a b : String) : Prop where
  count : a.toList.count '\n' = b.toList.count '\n'
  left : '\r' ∉ a.toList
  right : '\r' ∉ b.toList

/-- Texts without line breaks are aligned. -/
theorem aligned_of_not_mem {a b : String} (ha : ∀ c, IsBreak c → c ∉ a.toList)
    (hb : ∀ c, IsBreak c → c ∉ b.toList) : Aligned a b where
  count := by
    rw [List.count_eq_zero.2 (ha '\n' (Or.inl rfl)), List.count_eq_zero.2 (hb '\n' (Or.inl rfl))]
  left := ha '\r' (Or.inr rfl)
  right := hb '\r' (Or.inr rfl)

theorem aligned_self {a : String} (h : '\r' ∉ a.toList) : Aligned a a := ⟨rfl, h, h⟩

variable {a b c d sep : String}

theorem Aligned.append (h : Aligned a b) (h' : Aligned c d) : Aligned (a ++ c) (b ++ d) where
  count := by
    rw [String.toList_append, String.toList_append, List.count_append, List.count_append, h.count,
      h'.count]
  left := not_mem_append h.left h'.left
  right := not_mem_append h.right h'.right

theorem Aligned.intercalate (hsep : '\r' ∉ sep.toList) {xs ys : List String}
    (h : List.Forall₂ Aligned xs ys) : Aligned (sep.intercalate xs) (sep.intercalate ys) := by
  induction h with
  | nil => exact aligned_self (by simp)
  | cons hfirst hrest ih =>
      cases hrest with
      | nil => simpa using hfirst
      | cons hnext hmore =>
          rw [String.intercalate_cons_cons, String.intercalate_cons_cons]
          exact (hfirst.append (aligned_self hsep)).append ih

theorem Aligned.unlines {xs ys : List String} (h : List.Forall₂ Aligned xs ys) :
    Aligned (unlines xs) (unlines ys) := by
  induction h with
  | nil => exact aligned_self (by decide)
  | cons hfirst _ ih =>
      rw [unlines_cons, unlines_cons]
      exact (hfirst.append (aligned_self (by decide))).append ih

/-- Lines that are the same in every script. -/
theorem aligned_fixed {lines : List String} (h : ∀ line ∈ lines, '\r' ∉ line.toList) :
    Aligned (Script.unlines lines) (Script.unlines lines) :=
  Aligned.unlines (List.forall₂_same.2 fun line hline => aligned_self (h line hline))

/-! ## Parts of a script -/

theorem aligned_quote (s t : String) : Aligned (quote s) (quote t) :=
  aligned_of_not_mem (fun _ hc => not_mem_quote hc s) fun _ hc => not_mem_quote hc t

theorem aligned_textExpr (e f : TextExpr) : Aligned e.render f.render :=
  aligned_of_not_mem (fun _ hc => not_mem_textExpr hc e) fun _ hc => not_mem_textExpr hc f

theorem aligned_member (s t : String) (h : Aligned a b) : Aligned (member s a) (member t b) := by
  have hname : Aligned (propertyName s) (propertyName t) :=
    aligned_of_not_mem (fun _ hc => not_mem_propertyName hc s) fun _ hc =>
      not_mem_propertyName hc t
  exact (hname.append (aligned_self (by decide))).append h

theorem aligned_braced (h : Aligned a b) : Aligned (braced a) (braced b) :=
  ((aligned_self (by decide)).append h).append (aligned_self (by decide))

section Objects

variable {members others : List String}

theorem isEmpty_eq_of_forall₂ {α β : Type} {r : α → β → Prop} {xs : List α} {ys : List β}
    (h : List.Forall₂ r xs ys) : xs.isEmpty = ys.isEmpty := by
  cases h with
  | nil => rfl
  | cons _ _ => rfl

theorem aligned_inlineObject (h : List.Forall₂ Aligned members others) :
    Aligned (inlineObject members) (inlineObject others) := by
  have hblank : Aligned " " " " := aligned_self (by decide)
  rw [inlineObject, inlineObject, isEmpty_eq_of_forall₂ h]
  split
  · exact aligned_self (by decide)
  · exact aligned_braced ((hblank.append (Aligned.intercalate (by decide) h)).append hblank)

theorem aligned_indented {indent : String} (hindent : '\r' ∉ indent.toList)
    (h : List.Forall₂ Aligned members others) :
    List.Forall₂ Aligned (members.map (indent ++ ·)) (others.map (indent ++ ·)) := by
  rw [List.forall₂_map_left_iff, List.forall₂_map_right_iff]
  exact h.imp fun _ _ hmember => (aligned_self hindent).append hmember

theorem aligned_blockObject {indent : String} (hindent : '\r' ∉ indent.toList)
    (h : List.Forall₂ Aligned members others) :
    Aligned (blockObject indent members) (blockObject indent others) := by
  have hbreak : Aligned "\n" "\n" := aligned_self (by decide)
  have hfront : '\r' ∉ (indent ++ "  ").toList := not_mem_append hindent (by decide)
  rw [blockObject, blockObject, isEmpty_eq_of_forall₂ h]
  split
  · exact aligned_self (by decide)
  · exact aligned_braced (((hbreak.append (Aligned.intercalate (by decide)
      (aligned_indented hfront h))).append hbreak).append (aligned_self hindent))

end Objects

/-! ## Calls -/

theorem aligned_fieldMembers {fields others : List (String × TextExpr)}
    (h : List.Forall₂ (fun x y => SameForm x.1 y.1 ∧ SamePattern x.2 y.2) fields others) :
    List.Forall₂ Aligned (fieldMembers fields) (fieldMembers others) := by
  rw [fieldMembers, fieldMembers, List.forall₂_map_left_iff, List.forall₂_map_right_iff]
  exact h.imp fun x y _ => aligned_member x.1 y.1 (aligned_textExpr x.2 y.2)

section Calls

variable {call other : Call}

theorem aligned_leading (h : call.callee.name = other.callee.name) :
    List.Forall₂ Aligned call.leading other.leading := by
  have hurl := aligned_textExpr call.url other.url
  rcases callee_of_name h with heq | ⟨method, verb, hcall, hother⟩
  · rw [Call.leading, Call.leading, heq]
    cases other.callee with
    | request method => exact .cons (aligned_quote method method) (.cons hurl .nil)
    | _ => exact .cons hurl .nil
  · rw [Call.leading, Call.leading, hcall, hother]
    exact .cons (aligned_quote method verb) (.cons hurl .nil)

theorem aligned_function (h : call.callee.name = other.callee.name) :
    Aligned ("http." ++ call.callee.name) ("http." ++ other.callee.name) := by
  rw [h]
  refine aligned_self ?_
  cases other.callee with
  | request method =>
      rw [Callee.name]
      decide
  | _ => decide

theorem aligned_renderInline (h : call.callee.name = other.callee.name) {xs ys : List String}
    (hargs : List.Forall₂ Aligned xs ys) : Aligned (call.renderInline xs) (other.renderInline ys) := by
  exact (((aligned_function h).append (aligned_self (by decide))).append
    (Aligned.intercalate (by decide) hargs)).append (aligned_self (by decide))

theorem aligned_renderBlock (h : call.callee.name = other.callee.name) {xs ys : List String}
    (hargs : List.Forall₂ Aligned xs ys) : Aligned (call.renderBlock xs) (other.renderBlock ys) := by
  exact (((aligned_function h).append (aligned_self (by decide))).append
    (Aligned.intercalate (by decide) (aligned_indented (by decide) hargs))).append
      (aligned_self (by decide))

theorem aligned_call (hname : call.callee.name = other.callee.name)
    (hpayload : SamePayload call.payload other.payload) : Aligned call.render other.render := by
  have hleading := aligned_leading hname
  rw [Call.render, Call.render]
  generalize call.payload = payload at hpayload ⊢
  generalize other.payload = otherPayload at hpayload ⊢
  cases payload with
  | absent =>
      cases otherPayload with
      | absent => exact aligned_renderInline hname hleading
      | _ => exact hpayload.elim
  | text e =>
      cases otherPayload with
      | text f =>
          have htext := aligned_textExpr e f
          exact aligned_renderInline hname (List.rel_append hleading (.cons htext .nil))
      | _ => exact hpayload.elim
  | form fields =>
      cases otherPayload with
      | form others =>
          have hobject := @aligned_blockObject _ _ "  " (by decide) (aligned_fieldMembers hpayload)
          exact aligned_renderInline hname (List.rel_append hleading (.cons hobject .nil))
      | _ => exact hpayload.elim
  | urlencoded fields =>
      cases otherPayload with
      | urlencoded others =>
          have hobject := aligned_inlineObject (aligned_fieldMembers hpayload)
          have hparams : Aligned urlencodedParams urlencodedParams := aligned_self (by decide)
          exact aligned_renderBlock hname
            (List.rel_append hleading (.cons hobject (.cons hparams .nil)))
      | _ => exact hpayload.elim

end Calls

/-! ## Scripts -/

theorem aligned_declared {entry other : Origin × Declared} (h : SameDeclared entry other) :
    Aligned (Scope.entryMember entry) (Scope.entryMember other) := by
  cases h with
  | values origin h =>
      refine aligned_member _ _ (aligned_blockObject (by decide) ?_)
      rw [List.forall₂_map_left_iff, List.forall₂_map_right_iff]
      refine h.imp fun x y _ => aligned_member x.1 y.1 ?_
      exact aligned_of_not_mem (fun _ hc => Json.Value.not_mem_valueText hc x.2) fun _ hc =>
        Json.Value.not_mem_valueText hc y.2
  | rows origin => exact aligned_member _ _ (aligned_self (by decide))

theorem aligned_scope {scope other : Scope}
    (h : List.Forall₂ SameDeclared scope.entries other.entries) :
    Aligned scope.render other.render := by
  have hentries : List.Forall₂ Aligned (scope.entries.map Scope.entryMember)
      (other.entries.map Scope.entryMember) := by
    rw [List.forall₂_map_left_iff, List.forall₂_map_right_iff]
    exact h.imp fun _ _ => aligned_declared
  have hinner : Aligned
      (if scope.isEmpty then "" else blockObject "" (scope.entries.map Scope.entryMember))
      (if other.isEmpty then "" else blockObject "" (other.entries.map Scope.entryMember)) := by
    rw [Scope.isEmpty, Scope.isEmpty, isEmpty_eq_of_forall₂ h]
    split
    · exact aligned_self (by decide)
    · exact aligned_blockObject (by decide) hentries
  exact ((aligned_self (by decide)).append hinner).append (aligned_self (by decide))

theorem aligned_rowsLines {rows other : Option RowsUse} (h : SameUse rows other) :
    Aligned (unlines (rowsLines rows)) (unlines (rowsLines other)) := by
  cases h with
  | none => exact aligned_self (by decide)
  | @some rows other htable =>
      have hfront : Aligned rowsFront rowsFront := aligned_self (by decide +kernel)
      have hback : Aligned (rowsBack rows.parser) (rowsBack other.parser) := by
        rw [RowsUse.parser, RowsUse.parser, htable]
        cases other.isTable with
        | true => exact aligned_self (by decide +kernel)
        | false => exact aligned_self (by decide +kernel)
      have hprologue : Aligned rows.prologue other.prologue := by
        rw [prologue_eq, prologue_eq]
        exact (hfront.append (aligned_quote rows.path other.path)).append hback
      exact Aligned.unlines (.cons hprologue (.cons (aligned_self (by decide)) .nil))

theorem aligned_callLines {calls others : List Call}
    (h : List.Forall₂ (fun c d => Aligned c.render d.render) calls others) :
    Aligned (unlines (calls.flatMap callLines)) (unlines (others.flatMap callLines)) := by
  have hlines : List.Forall₂ Aligned (calls.flatMap callLines) (others.flatMap callLines) := by
    refine List.rel_flatMap h fun c d hcall => ?_
    refine .cons (aligned_self (by decide)) (.cons ?_ .nil)
    exact ((aligned_self (by decide)).append hcall).append (aligned_self (by decide))
  exact Aligned.unlines hlines

/-- Scripts that agree in how they use rows, in the shape of their declarations
and in the shape of their calls have equally many lines. -/
theorem aligned_render {script other : Script} (h : script.calls ≠ []) (h' : other.calls ≠ [])
    (hrows : SameUse script.rows other.rows)
    (hscope : List.Forall₂ SameDeclared script.scope.entries other.scope.entries)
    (hcalls : List.Forall₂ (fun c d => Aligned c.render d.render) script.calls other.calls) :
    Aligned script.render other.render := by
  have hhead : Aligned (unlines (headLines script.rows)) (unlines (headLines other.rows)) := by
    rw [headLines, headLines, hrows.any_isTable]
    cases other.rows.any RowsUse.isTable with
    | true => exact aligned_fixed (by decide +kernel)
    | false => exact aligned_fixed (by decide +kernel)
  have hsymbols : Aligned (unlines (symbolLines script.rows)) (unlines (symbolLines other.rows)) := by
    rw [symbolLines, symbolLines, hrows.isSome_eq]
    cases other.rows.isSome with
    | true => exact aligned_fixed (by decide +kernel)
    | false => exact aligned_fixed (by decide +kernel)
  have hopening : Aligned (unlines (openingLines script.rows))
      (unlines (openingLines other.rows)) := by
    rw [openingLines, openingLines, hrows.isSome_eq]
    cases other.rows.isSome with
    | true => exact aligned_fixed (by decide +kernel)
    | false => exact aligned_fixed (by decide +kernel)
  have hdeclared : Aligned (unlines [script.scope.render, ""]) (unlines [other.scope.render, ""]) :=
    Aligned.unlines (.cons (aligned_scope hscope) (.cons (aligned_self (by decide)) .nil))
  rw [render_eq_unlines h, render_eq_unlines h', unlines_append, unlines_append, unlines_append,
    unlines_append, unlines_append, unlines_append]
  exact (((hhead.append (aligned_rowsLines hrows)).append hsymbols).append hdeclared).append
    ((hopening.append (aligned_callLines hcalls)).append (aligned_self (by decide)))

end LoadScript.Script
