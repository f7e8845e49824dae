import LoadScript.Proofs.Marker
import Mathlib.Data.List.Pairwise
import Mathlib.Tactic.ByContra

/-!
# Segments are the canonical form of a text

Segments make up a text when each variable among them is written as its marker.
Many lists of segments make up the same text: a literal may hold a marker, may
be cut in two, or may be empty. Without such literals there is only one
(`segments_eq_iff`), and it is the one that cutting a text at its markers from
left to right finds.

What has to be shown for that is where markers can begin. None begins inside
another (`not_marker_inside`), so none reaches from a literal into the marker
behind it (`not_marker_across`), however many braces the literal ends with. And
so the variables among the segments are all markers that the text has
(`mem_references_iff`), each at its place.
-/

namespace LoadScript.Script

/-- A segment as it stands in a text. -/
def Segment.source : Segment → List Char
  | literal text => text.toList
  | reference name => marker name.toList

def source (segments : List Segment) : List Char := segments.flatMap Segment.source

/-- In the text, behind so many characters, stands the marker of the name. -/
def MarkerAt (text : List Char) (place : Nat) (name : List Char) : Prop :=
  IsMarkerName name ∧ ∃ before rest, before.length = place ∧ text = before ++ (marker name ++ rest)

def HasMarker (text : List Char) : Prop := ∃ place name, MarkerAt text place name

/-- Literals that are not empty and have no marker, and variables with names that
a marker may have. -/
def Segment.Canonical : Segment → Prop
  | literal text => text.toList ≠ [] ∧ ¬ HasMarker text.toList
  | reference name => IsMarkerName name.toList

/-- Segments in canonical form, no two literals side by side. -/
structure CanonicalSegments (segments : List Segment) : Prop where
  each : ∀ segment ∈ segments, segment.Canonical
  separated : Separated segments

/-! ## Where markers stand -/

theorem markerAt_zero_iff {text name : List Char} :
    MarkerAt text 0 name ↔ IsMarkerName name ∧ ∃ rest, text = marker name ++ rest := by
  constructor
  · rintro ⟨hname, before, rest, hplace, rfl⟩
    obtain rfl := List.length_eq_zero_iff.1 hplace
    exact ⟨hname, rest, rfl⟩
  · rintro ⟨hname, rest, rfl⟩
    exact ⟨hname, [], rest, rfl, rfl⟩

theorem markerAt_succ_iff {c : Char} {cs name : List Char} {place : Nat} :
    MarkerAt (c :: cs) (place + 1) name ↔ MarkerAt cs place name := by
  constructor
  · rintro ⟨hname, before, rest, hplace, htext⟩
    obtain ⟨d, before, rfl⟩ := List.exists_cons_of_length_eq_add_one hplace
    rw [List.cons_append, List.cons.injEq] at htext
    exact ⟨hname, before, rest, Nat.succ.inj hplace, htext.2⟩
  · rintro ⟨hname, before, rest, hplace, rfl⟩
    exact ⟨hname, c :: before, rest, congrArg (· + 1) hplace, rfl⟩

theorem not_hasMarker_nil : ¬ HasMarker [] := by
  rintro ⟨place, name, -, before, rest, -, htext⟩
  simp [marker] at htext

theorem hasMarker_cons_iff {c : Char} {cs : List Char} :
    HasMarker (c :: cs)
      ↔ (∃ name rest, IsMarkerName name ∧ c :: cs = marker name ++ rest) ∨ HasMarker cs := by
  constructor
  · rintro ⟨place, name, h⟩
    cases place with
    | zero =>
        obtain ⟨hname, rest, htext⟩ := markerAt_zero_iff.1 h
        exact Or.inl ⟨name, rest, hname, htext⟩
    | succ place => exact Or.inr ⟨place, name, markerAt_succ_iff.1 h⟩
  · rintro (⟨name, rest, hname, htext⟩ | ⟨place, name, h⟩)
    · exact ⟨0, name, markerAt_zero_iff.2 ⟨hname, rest, htext⟩⟩
    · exact ⟨place + 1, name, markerAt_succ_iff.2 h⟩

/-- In a text that begins with a marker, the other markers stand behind it. -/
theorem markerAt_marker_iff {name other rest : List Char} {place : Nat} (hname : IsMarkerName name) :
    MarkerAt (marker name ++ rest) place other
      ↔ (place = 0 ∧ other = name)
        ∨ ∃ behind, place = (marker name).length + behind ∧ MarkerAt rest behind other := by
  constructor
  · rintro ⟨hother, before, more, rfl, htext⟩
    rcases List.append_eq_append_iff.1 htext with ⟨front, rfl, hrest⟩ | ⟨inside, hsplit, hinside⟩
    · exact Or.inr ⟨front.length, List.length_append, hother, front, more, rfl, hrest⟩
    · by_cases hbefore : before = []
      · subst hbefore
        rw [List.nil_append] at htext
        exact Or.inl ⟨rfl, (marker_append_inj hname hother htext).1.symm⟩
      · by_cases hnil : inside = []
        · subst hnil
          rw [List.append_nil] at hsplit
          rw [List.nil_append] at hinside
          exact Or.inr ⟨0, by rw [hsplit, Nat.add_zero],
            markerAt_zero_iff.2 ⟨hother, more, hinside.symm⟩⟩
        · exact absurd hinside.symm (not_marker_inside hname hbefore hnil hsplit)
  · rintro (⟨rfl, rfl⟩ | ⟨behind, rfl, hother, before, more, rfl, rfl⟩)
    · exact markerAt_zero_iff.2 ⟨hname, rest, rfl⟩
    · exact ⟨hother, marker name ++ before, more, List.length_append,
        (List.append_assoc _ _ _).symm⟩

/-- No marker begins in a text that has none and reaches into the marker behind
the text, or beyond the end of all. -/
theorem not_marker_across {c : Char} {cs behind name rest : List Char}
    (h : ¬ HasMarker (c :: cs))
    (hbehind : behind = [] ∨ ∃ other more, IsMarkerName other ∧ behind = marker other ++ more)
    (hname : IsMarkerName name) : c :: cs ++ behind ≠ marker name ++ rest := by
  intro htext
  have hbegins : ∀ more, c :: cs ≠ marker name ++ more := fun more heq =>
    h (hasMarker_cons_iff.2 (Or.inl ⟨name, more, hname, heq⟩))
  rcases List.append_eq_append_iff.1 htext with ⟨inside, hsplit, hinside⟩ | ⟨more, heq, -⟩
  · by_cases hnil : inside = []
    · exact hbegins [] (by rw [hsplit, hnil, List.append_nil, List.append_nil])
    · rcases hbehind with rfl | ⟨other, more, hother, rfl⟩
      · exact hnil (List.append_eq_nil_iff.1 hinside.symm).1
      · exact not_marker_inside hname (List.cons_ne_nil _ _) hnil hsplit hinside.symm
  · exact hbegins more heq

/-! ## The segments of a text -/

theorem source_cons (segment : Segment) (rest : List Segment) :
    source (segment :: rest) = segment.source ++ source rest := List.flatMap_cons

theorem source_eq_fill (segments : List Segment) :
    source segments = fill (fun name => String.ofList (marker name.toList)) segments := by
  induction segments with
  | nil => rfl
  | cons segment rest ih =>
      rw [source_cons, ih]
      cases segment with
      | literal text => rfl
      | reference name => rw [fill, Segment.source, String.toList_ofList]

/-- The segments of a text make up the text. -/
theorem source_segments (text : List Char) : source (segments text) = text := by
  rw [source_eq_fill, fill_marker]

/-- A character in front of canonical segments, where no marker begins. -/
theorem canonical_consLiteral {c : Char} {segments : List Segment} (h : CanonicalSegments segments)
    (hno : ∀ name rest, IsMarkerName name → c :: source segments ≠ marker name ++ rest) :
    CanonicalSegments (consLiteral c segments) := by
  have hfront : ∀ text more, source segments = text ++ more → ¬ HasMarker text →
      ¬ HasMarker (c :: text) := by
    intro text more hsource hnone hmarker
    rcases hasMarker_cons_iff.1 hmarker with ⟨name, rest, hname, heq⟩ | hmarker
    · refine hno name (rest ++ more) hname ?_
      rw [hsource, ← List.append_assoc, ← heq, List.cons_append]
    · exact hnone hmarker
  have halone : (Segment.literal (String.singleton c)).Canonical := by
    have hchars : (String.singleton c).toList = [c] := by simp
    refine ⟨by simp [hchars], ?_⟩
    rw [hchars]
    exact hfront [] (source segments) rfl not_hasMarker_nil
  refine ⟨?_, separated_consLiteral h.separated c⟩
  match segments, h with
  | [], _ => simpa [consLiteral] using halone
  | .reference name :: rest, h => exact List.forall_mem_cons.2 ⟨halone, h.each⟩
  | .literal text :: rest, h =>
      obtain ⟨htext, hrest⟩ := List.forall_mem_cons.1 h.each
      have hchars : (String.singleton c ++ text).toList = c :: text.toList := by simp
      refine List.forall_mem_cons.2 ⟨⟨by simp [hchars], ?_⟩, hrest⟩
      rw [hchars]
      exact hfront text.toList (source rest) (source_cons _ _) htext.2

theorem canonical_segments (text : List Char) : CanonicalSegments (segments text) := by
  induction text using marker_induction with
  | nil =>
      rw [segments_nil]
      exact ⟨nofun, trivial⟩
  | marker name rest hname ih =>
      rw [segments_marker hname]
      refine ⟨List.forall_mem_cons.2 ⟨?_, ih.each⟩, ih.separated⟩
      rw [Segment.Canonical, String.toList_ofList]
      exact hname
  | keep c cs hno ih =>
      rw [segments_cons hno]
      refine canonical_consLiteral ih fun name rest hname => ?_
      rw [source_segments]
      exact hno name rest hname

/-- A literal in front of the end or of a marker is the first segment. -/
theorem segments_literal {c : Char} {cs behind : List Char} (h : ¬ HasMarker (c :: cs))
    (hbehind : behind = [] ∨ ∃ name more, IsMarkerName name ∧ behind = marker name ++ more) :
    segments (c :: cs ++ behind) = .literal (String.ofList (c :: cs)) :: segments behind := by
  have hfirst : ∀ name rest, IsMarkerName name → c :: (cs ++ behind) ≠ marker name ++ rest :=
    fun _ _ hname => not_marker_across h hbehind hname
  induction cs generalizing c with
  | nil =>
      rw [List.cons_append, segments_cons hfirst, List.nil_append]
      rcases hbehind with rfl | ⟨name, more, hname, rfl⟩
      · rw [segments_nil]
        rfl
      · rw [segments_marker hname]
        rfl
  | cons d ds ih =>
      have hrest : ¬ HasMarker (d :: ds) := fun hmarker =>
        h (hasMarker_cons_iff.2 (Or.inr hmarker))
      rw [List.cons_append, segments_cons hfirst,
        ih hrest fun _ _ hname => not_marker_across hrest hbehind hname, consLiteral]
      simp

/-- Segments in canonical form are the segments of the text that they make up. -/
theorem CanonicalSegments.segments_source {segments : List Segment}
    (h : CanonicalSegments segments) :
    Script.segments (source segments) = segments := by
  induction segments with
  | nil => exact segments_nil
  | cons segment rest ih =>
      obtain ⟨hfirst, hrest⟩ := List.forall_mem_cons.1 h.each
      match segment with
      | .reference name =>
          rw [source_cons, Segment.source, segments_marker hfirst, ih ⟨hrest, h.separated⟩,
            String.ofList_toList]
      | .literal text =>
          obtain ⟨c, cs, hchars⟩ := List.exists_cons_of_ne_nil hfirst.1
          have hbehind : source rest = []
              ∨ ∃ name more, IsMarkerName name ∧ source rest = marker name ++ more := by
            match rest with
            | [] => exact Or.inl rfl
            | .literal _ :: _ => exact h.separated.elim
            | .reference name :: more =>
                exact Or.inr ⟨name.toList, source more, (List.forall_mem_cons.1 hrest).1,
                  source_cons _ _⟩
          have hseparated : Separated rest := by
            match rest with
            | [] => trivial
            | .literal _ :: _ => exact h.separated.elim
            | .reference _ :: _ => exact h.separated
          rw [source_cons, Segment.source, hchars,
            segments_literal (hchars ▸ hfirst.2) hbehind, ih ⟨hrest, hseparated⟩, ← hchars,
            String.ofList_toList]

/-- Of the segments that make up a text, those in canonical form are the ones that
the text is cut into. -/
theorem segments_eq_iff {text : List Char} {segments : List Segment} :
    Script.segments text = segments ↔ CanonicalSegments segments ∧ source segments = text := by
  constructor
  · rintro rfl
    exact ⟨canonical_segments text, source_segments text⟩
  · rintro ⟨h, rfl⟩
    exact h.segments_source

/-! ## The variables of a text -/

/-- The variables among segments, each with the place of its marker. The text of
the segments begins at the given place. -/
def references (place : Nat) : List Segment → List (Nat × List Char)
  | [] => []
  | .literal text :: rest => references (place + text.toList.length) rest
  | .reference name :: rest =>
    (place, name.toList) :: references (place + (marker name.toList).length) rest

theorem references_consLiteral (place : Nat) (c : Char) (segments : List Segment) :
    references place (consLiteral c segments) = references (place + 1) segments := by
  unfold consLiteral
  split
  · next text rest =>
      have hlength : place + (String.singleton c ++ text).toList.length
          = place + 1 + text.toList.length := by
        simp only [String.toList_append, String.toList_singleton, List.length_append,
          List.length_singleton]
        omega
      rw [references, references, hlength]
  · simp [references]

/-- The variables among the segments of a text are the markers that stand in it. -/
theorem mem_references_iff {text name : List Char} {start place : Nat} :
    (place, name) ∈ references start (segments text)
      ↔ ∃ behind, place = start + behind ∧ MarkerAt text behind name := by
  induction text using marker_induction generalizing start with
  | nil =>
      have hnone : ∀ behind, ¬ MarkerAt [] behind name := fun behind h =>
        not_hasMarker_nil ⟨behind, name, h⟩
      rw [segments_nil]
      simp [references, hnone]
  | marker first rest hfirst ih =>
      rw [segments_marker hfirst, references, List.mem_cons, ih, String.toList_ofList,
        Prod.mk.injEq]
      constructor
      · rintro (⟨rfl, rfl⟩ | ⟨behind, rfl, h⟩)
        · exact ⟨0, rfl, (markerAt_marker_iff hfirst).2 (Or.inl ⟨rfl, rfl⟩)⟩
        · exact ⟨(marker first).length + behind, Nat.add_assoc _ _ _,
            (markerAt_marker_iff hfirst).2 (Or.inr ⟨behind, rfl, h⟩)⟩
      · rintro ⟨behind, rfl, h⟩
        rcases (markerAt_marker_iff hfirst).1 h with ⟨rfl, rfl⟩ | ⟨more, rfl, hmore⟩
        · exact Or.inl ⟨rfl, rfl⟩
        · exact Or.inr ⟨more, (Nat.add_assoc _ _ _).symm, hmore⟩
  | keep c cs hno ih =>
      rw [segments_cons hno, references_consLiteral, ih]
      constructor
      · rintro ⟨behind, rfl, h⟩
        exact ⟨behind + 1, by omega, markerAt_succ_iff.2 h⟩
      · rintro ⟨behind, rfl, h⟩
        cases behind with
        | zero =>
            obtain ⟨hname, rest, htext⟩ := markerAt_zero_iff.1 h
            exact absurd htext (hno name rest hname)
        | succ behind => exact ⟨behind, by omega, markerAt_succ_iff.1 h⟩

/-- The first marker ends where the second one begins, or before. -/
def EndsBefore (first second : Nat × List Char) : Prop :=
  first.1 + (marker first.2).length ≤ second.1

theorem le_of_mem_references {start place : Nat} {name : List Char} {segments : List Segment}
    (h : (place, name) ∈ references start segments) : start ≤ place := by
  induction segments generalizing start with
  | nil => cases h
  | cons segment rest ih =>
      cases segment with
      | literal text => exact Nat.le_trans (Nat.le_add_right _ _) (ih h)
      | reference first =>
          rcases List.mem_cons.1 h with heq | h
          · exact Nat.le_of_eq (Prod.mk.inj heq).1.symm
          · exact Nat.le_trans (Nat.le_add_right _ _) (ih h)

theorem pairwise_references (start : Nat) (segments : List Segment) :
    (references start segments).Pairwise EndsBefore := by
  induction segments generalizing start with
  | nil => exact .nil
  | cons segment rest ih =>
      cases segment with
      | literal text => exact ih _
      | reference name => exact .cons (fun _ h => le_of_mem_references h) (ih _)

/-- Two markers of a text are the same or do not overlap. -/
theorem MarkerAt.apart {text name other : List Char} {place behind : Nat}
    (h : MarkerAt text place name) (h' : MarkerAt text behind other) :
    (place, name) = (behind, other) ∨ EndsBefore (place, name) (behind, other)
      ∨ EndsBefore (behind, other) (place, name) := by
  have hfirst : (place, name) ∈ references 0 (segments text) :=
    mem_references_iff.2 ⟨place, (Nat.zero_add place).symm, h⟩
  have hsecond : (behind, other) ∈ references 0 (segments text) :=
    mem_references_iff.2 ⟨behind, (Nat.zero_add behind).symm, h'⟩
  have hsymm : Std.Symm fun a b => EndsBefore a b ∨ EndsBefore b a := ⟨fun _ _ => Or.symm⟩
  have hapart : (references 0 (segments text)).Pairwise
      fun a b => EndsBefore a b ∨ EndsBefore b a :=
    (pairwise_references 0 (segments text)).imp Or.inl
  by_cases heq : (place, name) = (behind, other)
  · exact Or.inl heq
  · exact Or.inr (hapart.forall hfirst hsecond heq)

theorem references_eq_nil_iff (start : Nat) {segments : List Segment} :
    references start segments = [] ↔ segments.any Segment.isReference = false := by
  induction segments generalizing start with
  | nil => exact ⟨fun _ => rfl, fun _ => rfl⟩
  | cons segment rest ih =>
      cases segment with
      | literal text => exact ih _
      | reference name => exact ⟨nofun, nofun⟩

theorem any_isReference_segments (text : List Char) :
    (segments text).any Segment.isReference = true ↔ HasMarker text := by
  rw [← not_iff_not, Bool.not_eq_true, ← references_eq_nil_iff 0,
    List.eq_nil_iff_forall_not_mem]
  constructor
  · rintro h ⟨place, name, hmarker⟩
    exact h _ (mem_references_iff.2 ⟨place, (Nat.zero_add place).symm, hmarker⟩)
  · rintro h ⟨place, name⟩ hmem
    obtain ⟨behind, -, hmarker⟩ := mem_references_iff.1 hmem
    exact h ⟨behind, name, hmarker⟩

/-! ## Text expressions -/

namespace TextExpr

def source : TextExpr → List Char
  | plain text => text.toList
  | template segments => Script.source segments

theorem parse_of_hasMarker {text : String} (h : HasMarker text.toList) :
    parse text = template (segments text.toList) :=
  if_pos ((any_isReference_segments _).2 h)

theorem parse_of_not_hasMarker {text : String} (h : ¬ HasMarker text.toList) :
    parse text = plain text :=
  if_neg fun hany => h ((any_isReference_segments _).1 hany)

/-- An expression keeps its text, with each variable as its marker. A text becomes a
plain expression exactly if no marker stands in it. Else its variables are the
markers that stand in it, all of them in their order and without overlap, and its
literals are what is between them, none empty and none with a marker. Of the
segments that are of this form, every list with a variable is what its own text
becomes. -/
theorem parse_canonical (text : String) :
    (parse text).source = text.toList
      ∧ ((∃ content, parse text = plain content) ↔ ¬ HasMarker text.toList)
      ∧ (∀ place name behind other, MarkerAt text.toList place name →
          MarkerAt text.toList behind other →
          (place, name) = (behind, other) ∨ EndsBefore (place, name) (behind, other)
            ∨ EndsBefore (behind, other) (place, name))
      ∧ (∀ segments, parse text = template segments →
          (∀ place name, (place, name) ∈ references 0 segments
            ↔ MarkerAt text.toList place name)
          ∧ (references 0 segments).Pairwise EndsBefore ∧ CanonicalSegments segments)
      ∧ ∀ segments, CanonicalSegments segments → (∃ name, .reference name ∈ segments) →
          parse (String.ofList (Script.source segments)) = template segments := by
  refine ⟨?_, ?_, fun _ _ _ _ h h' => h.apart h', fun segments h => ?_,
    fun segments hcanonical hreference => ?_⟩
  · by_cases h : HasMarker text.toList
    · rw [parse_of_hasMarker h, source, source_segments]
    · rw [parse_of_not_hasMarker h, source]
  · constructor
    · rintro ⟨content, hplain⟩ h
      rw [parse_of_hasMarker h] at hplain
      cases hplain
    · exact fun h => ⟨text, parse_of_not_hasMarker h⟩
  · have hmarker : HasMarker text.toList := by
      by_contra hnone
      rw [parse_of_not_hasMarker hnone] at h
      cases h
    rw [parse_of_hasMarker hmarker] at h
    obtain rfl := template.inj h
    refine ⟨fun place name => ?_, pairwise_references 0 _, canonical_segments _⟩
    rw [mem_references_iff]
    simp only [Nat.zero_add, exists_eq_left']
  · obtain ⟨name, hname⟩ := hreference
    have hmarker : HasMarker (Script.source segments) := by
      rw [← any_isReference_segments, hcanonical.segments_source]
      exact List.any_eq_true.2 ⟨_, hname, rfl⟩
    rw [parse_of_hasMarker (by rwa [String.toList_ofList]), String.toList_ofList,
      hcanonical.segments_source]

end TextExpr

/-- Braces that belong to no marker stay with the literals. -/
example : TextExpr.parse "\x7b\x7b\x7ba\x7d\x7d\x7d"
    = .template [.literal "\x7b", .reference "a", .literal "\x7d"] := by decide +kernel

end LoadScript.Script
