import LoadScript.Script.TextExpr

/-!
# Markers of a text

A marker is a name between two opening and two closing braces, and the name has
at least one character and no brace. That is all a marker is here; how texts
are cut at their markers (`Script.segments`) is compared with it.

Two facts carry everything. A marker is determined by any text that begins with
it (`marker_append_inj`), and no marker begins inside another
(`not_marker_inside`), so replacing the markers of a text has one result only
(`Substituted.unique`). And the segments of a text fill up to that result,
whatever is put in for the names (`substituted_fill`); with the markers put in
for themselves, they fill up to the text again (`fill_marker`).
-/

namespace LoadScript.Script

def IsMarkerName (name : List Char) : Prop :=
  name ≠ [] ∧ '\x7b' ∉ name ∧ '\x7d' ∉ name

def marker (name : List Char) : List Char :=
  '\x7b' :: '\x7b' :: name ++ ['\x7d', '\x7d']

theorem isBrace_eq_false {name : List Char} (h : IsMarkerName name) :
    ∀ c ∈ name, isBrace c = false := by
  intro c hc
  have hopen : c ≠ '\x7b' := fun e => h.2.1 (e ▸ hc)
  have hclose : c ≠ '\x7d' := fun e => h.2.2 (e ▸ hc)
  simp [isBrace, hopen, hclose]

theorem takeWhile_marker {name : List Char} (h : IsMarkerName name) (rest : List Char) :
    (name ++ '\x7d' :: rest).takeWhile (!isBrace ·) = name := by
  rw [List.takeWhile_append_of_pos (fun c hc => by rw [isBrace_eq_false h c hc]; rfl)]
  simp [isBrace]

theorem dropWhile_marker {name : List Char} (h : IsMarkerName name) (rest : List Char) :
    (name ++ '\x7d' :: rest).dropWhile (!isBrace ·) = '\x7d' :: rest := by
  rw [List.dropWhile_append_of_pos (fun c hc => by rw [isBrace_eq_false h c hc]; rfl)]
  simp [isBrace]

theorem marker?_marker {name : List Char} (h : IsMarkerName name) (rest : List Char) :
    marker? (marker name ++ rest) = some (name, rest) := by
  obtain ⟨c, more, rfl⟩ := List.exists_cons_of_ne_nil h.1
  have htake := takeWhile_marker h ('\x7d' :: rest)
  have hdrop := dropWhile_marker h ('\x7d' :: rest)
  have htext : marker (c :: more) ++ rest
      = '\x7b' :: '\x7b' :: (c :: more ++ '\x7d' :: '\x7d' :: rest) := by
    simp [marker]
  rw [htext, marker?]
  simp only [htake, hdrop]

/-- A text begins with a marker exactly where a marker is found. -/
theorem marker?_eq_some_iff {cs name rest : List Char} :
    marker? cs = some (name, rest) ↔ IsMarkerName name ∧ cs = marker name ++ rest := by
  constructor
  · intro h
    unfold marker? at h
    split at h
    · next tail =>
        split at h
        · next c more rest' htake hdrop =>
            simp only [Option.some.injEq, Prod.mk.injEq] at h
            obtain ⟨rfl, rfl⟩ := h
            have hnone : ∀ d ∈ c :: more, isBrace d = false := by
              intro d hd
              rw [← htake] at hd
              simpa using List.all_eq_true.1 List.all_takeWhile d hd
            have htail := List.takeWhile_append_dropWhile (p := (!isBrace ·)) (l := tail)
            rw [htake, hdrop] at htail
            refine ⟨⟨by simp, fun hmem => ?_, fun hmem => ?_⟩, ?_⟩
            · exact Bool.noConfusion (hnone _ hmem)
            · exact Bool.noConfusion (hnone _ hmem)
            · rw [← htail]
              simp [marker]
        · exact absurd h (by simp)
    · exact absurd h (by simp)
  · rintro ⟨hname, rfl⟩
    exact marker?_marker hname rest

theorem marker_append_inj {name other rest more : List Char} (hname : IsMarkerName name)
    (hother : IsMarkerName other) (h : marker name ++ rest = marker other ++ more) :
    name = other ∧ rest = more := by
  have hfound := marker?_marker hname rest
  rw [h, marker?_marker hother, Option.some.injEq, Prod.mk.injEq] at hfound
  exact ⟨hfound.1.symm, hfound.2.symm⟩

/-- No marker begins inside another. -/
theorem not_marker_inside {name other before inside rest more : List Char}
    (hname : IsMarkerName name) (hbefore : before ≠ []) (hinside : inside ≠ [])
    (hsplit : marker name = before ++ inside) :
    inside ++ rest ≠ marker other ++ more := by
  intro h
  obtain ⟨b, before, rfl⟩ := List.exists_cons_of_ne_nil hbefore
  obtain ⟨c, inside, rfl⟩ := List.exists_cons_of_ne_nil hinside
  simp only [marker, List.cons_append, List.cons.injEq] at hsplit h
  obtain ⟨-, hsplit⟩ := hsplit
  obtain ⟨rfl, h⟩ := h
  cases before with
  | nil =>
      -- it would begin at the second brace, and the name with a brace
      simp only [List.nil_append, List.cons.injEq, true_and] at hsplit
      obtain ⟨n, letters, rfl⟩ := List.exists_cons_of_ne_nil hname.1
      rw [← hsplit, List.cons_append, List.cons_append, List.cons.injEq] at h
      exact hname.2.1 (by rw [h.1]; exact List.mem_cons_self)
  | cons d before =>
      simp only [List.cons_append, List.cons.injEq] at hsplit
      have hmem : '\x7b' ∈ name ++ ['\x7d', '\x7d'] := by
        rw [hsplit.2]
        simp
      rcases List.mem_append.1 hmem with hmem | hmem
      · exact hname.2.1 hmem
      · exact absurd hmem (by decide)

/-! ## Substitution -/

/-- `out` is `text` with what `value` gives for the names in place of all
markers, and with every other character kept. -/
inductive Substituted (value : String → String) : List Char → List Char → Prop where
  | nil : Substituted value [] []
  | marker {name rest out : List Char} : IsMarkerName name → Substituted value rest out →
      Substituted value (marker name ++ rest) ((value (String.ofList name)).toList ++ out)
  | keep {c : Char} {cs out : List Char} :
      (∀ name rest, IsMarkerName name → c :: cs ≠ Script.marker name ++ rest) →
      Substituted value cs out → Substituted value (c :: cs) (c :: out)

theorem Substituted.unique {value : String → String} {text out other : List Char}
    (h : Substituted value text out) (hother : Substituted value text other) :
    out = other := by
  induction h generalizing other with
  | nil =>
      cases hother
      rfl
  | marker hname _ ih =>
      generalize htext : Script.marker _ ++ _ = text at hother
      cases hother with
      | nil => simp [Script.marker] at htext
      | marker hname' hother =>
          obtain ⟨rfl, rfl⟩ := marker_append_inj hname hname' htext
          rw [ih hother]
      | keep hno _ => exact absurd htext.symm (hno _ _ hname)
  | keep hno _ ih =>
      generalize htext : _ :: _ = text at hother
      cases hother with
      | nil => cases htext
      | marker hname _ => exact absurd htext (hno _ _ hname)
      | keep _ hother =>
          cases htext
          rw [ih hother]

/-- Wherever a marker stands in a text, its value stands in the result, between
the results of what is before the marker and of what is behind it. -/
theorem Substituted.occurrence {value : String → String} {text out : List Char}
    (h : Substituted value text out) {before name rest : List Char} (hname : IsMarkerName name)
    (htext : text = before ++ (Script.marker name ++ rest)) :
    ∃ front back, Substituted value before front ∧ Substituted value rest back
      ∧ out = front ++ ((value (String.ofList name)).toList ++ back) := by
  induction h generalizing before with
  | nil => simp [Script.marker] at htext
  | marker hfirst hrest ih =>
      rcases List.append_eq_append_iff.1 htext with ⟨more, rfl, hmore⟩ | ⟨inside, hsplit, hinside⟩
      · obtain ⟨front, back, hfront, hback, rfl⟩ := ih hmore
        exact ⟨_, back, Substituted.marker hfirst hfront, hback, by simp⟩
      · by_cases hbefore : before = []
        · subst hbefore
          rw [List.nil_append] at htext
          obtain ⟨rfl, rfl⟩ := marker_append_inj hfirst hname htext
          exact ⟨[], _, Substituted.nil, hrest, rfl⟩
        · by_cases hnil : inside = []
          · subst hnil
            rw [List.append_nil] at hsplit
            rw [List.nil_append] at hinside
            obtain ⟨front, back, hfront, hback, rfl⟩ := @ih [] hinside.symm
            have hboth := Substituted.marker hfirst hfront
            rw [List.append_nil, hsplit] at hboth
            exact ⟨_, back, hboth, hback, by simp⟩
          · exact absurd hinside.symm (not_marker_inside hfirst hbefore hnil hsplit)
  | keep hno hrest ih =>
      cases before with
      | nil => exact absurd htext (hno name rest hname)
      | cons d before =>
          rw [List.cons_append, List.cons.injEq] at htext
          obtain ⟨rfl, htext⟩ := htext
          obtain ⟨front, back, hfront, hback, rfl⟩ := ih htext
          refine ⟨_ :: front, back, Substituted.keep (fun other more hother heq => ?_) hfront,
            hback, rfl⟩
          refine hno other (more ++ (Script.marker name ++ rest)) hother ?_
          rw [htext, ← List.cons_append, heq, List.append_assoc]

/-! ## Segments -/

/-- The text of segments, with what `value` gives for the names of variables. -/
def fill (value : String → String) : List Segment → List Char
  | [] => []
  | .literal text :: rest => text.toList ++ fill value rest
  | .reference name :: rest => (value name).toList ++ fill value rest

@[simp] theorem fill_consLiteral (value : String → String) (c : Char) (segments : List Segment) :
    fill value (consLiteral c segments) = c :: fill value segments := by
  unfold consLiteral
  split
  · simp [fill]
  · simp [fill]

theorem segments_nil : segments [] = [] := by rw [segments]

theorem segments_marker {name rest : List Char} (h : IsMarkerName name) :
    segments (marker name ++ rest) = .reference (String.ofList name) :: segments rest := by
  have hfound := marker?_marker h rest
  rw [segments.eq_def]
  split
  · next heq => simp [marker] at heq
  · next c cs heq =>
      rw [heq] at hfound
      split
      · next hm =>
          rw [hfound, Option.some.injEq, Prod.mk.injEq] at hm
          rw [hm.1, hm.2]
      · next hm => rw [hfound] at hm; cases hm

theorem segments_cons {c : Char} {cs : List Char}
    (h : ∀ name rest, IsMarkerName name → c :: cs ≠ marker name ++ rest) :
    segments (c :: cs) = consLiteral c (segments cs) := by
  rw [segments]
  split
  · next hm => exact absurd (marker?_eq_some_iff.1 hm).2 (h _ _ (marker?_eq_some_iff.1 hm).1)
  · rfl

/-- A property of texts holds of all, if it goes over to a text from what comes
behind its first marker or its first character. -/
theorem marker_induction {motive : List Char → Prop} (nil : motive [])
    (marker : ∀ name rest, IsMarkerName name → motive rest → motive (marker name ++ rest))
    (keep : ∀ c cs, (∀ name rest, IsMarkerName name → c :: cs ≠ Script.marker name ++ rest) →
      motive cs → motive (c :: cs)) (text : List Char) : motive text := by
  induction text using segments.induct with
  | case1 => exact nil
  | case2 c cs name rest hm ih =>
      obtain ⟨hname, htext⟩ := marker?_eq_some_iff.1 hm
      rw [htext]
      exact marker name rest hname ih
  | case3 c cs hm ih =>
      refine keep c cs (fun name rest hname htext => ?_) ih
      rw [marker?_eq_some_iff.2 ⟨hname, htext⟩] at hm
      cases hm

/-- The segments of a text fill up to the text with its markers replaced. -/
theorem substituted_fill (value : String → String) (text : List Char) :
    Substituted value text (fill value (segments text)) := by
  induction text using marker_induction with
  | nil =>
      rw [segments_nil]
      exact Substituted.nil
  | marker name rest hname ih =>
      rw [segments_marker hname]
      exact Substituted.marker hname ih
  | keep c cs hno ih =>
      rw [segments_cons hno, fill_consLiteral]
      exact Substituted.keep hno ih

/-- With the markers put in for themselves, the segments of a text fill up to
the text. -/
theorem fill_marker (text : List Char) :
    fill (fun name => String.ofList (marker name.toList)) (segments text) = text := by
  induction text using marker_induction with
  | nil => rw [segments_nil, fill]
  | marker name rest hname ih =>
      rw [segments_marker hname, fill, ih]
      simp
  | keep c cs hno ih => rw [segments_cons hno, fill_consLiteral, ih]

/-- Segments without variables fill up alike, whatever is put in. -/
theorem fill_of_plain {segments : List Segment} (h : segments.any Segment.isReference = false)
    (value other : String → String) : fill value segments = fill other segments := by
  induction segments with
  | nil => rfl
  | cons segment rest ih =>
      rw [List.any_cons, Bool.or_eq_false_iff] at h
      cases segment with
      | literal text => rw [fill, fill, ih h.2]
      | reference name => exact Bool.noConfusion h.1

/-! ## Neighbours

A piece of a template literal is read in view of what comes behind it, so it
matters that no two literal segments stand side by side. -/

/-- No literal stands directly before another. -/
def Separated : List Segment → Prop
  | .literal _ :: .literal _ :: _ => False
  | _ :: rest => Separated rest
  | [] => True

theorem separated_consLiteral {segments : List Segment} (h : Separated segments) (c : Char) :
    Separated (consLiteral c segments) := by
  match segments with
  | [] => trivial
  | .reference _ :: _ => exact h
  | .literal _ :: [] => trivial
  | .literal _ :: .reference _ :: _ => exact h

theorem separated_segments (text : List Char) : Separated (segments text) := by
  induction text using marker_induction with
  | nil =>
      rw [segments_nil]
      trivial
  | marker name rest hname ih =>
      rw [segments_marker hname]
      exact ih
  | keep c cs hno ih =>
      rw [segments_cons hno]
      exact separated_consLiteral ih c

end LoadScript.Script
