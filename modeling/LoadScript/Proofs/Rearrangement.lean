import LoadScript.Proofs.Record
import Mathlib.Data.List.Perm.Basic

/-!
# Rearranged records

A record that is written as an object can be written in another way: its members in
another order, members added that no field asks for, and what stands in its fields
rearranged in turn (`Tree.Rearranged`). A record that is written as an array keeps its
order, but its fields can be rearranged all the same.

For a reader of records it does not matter. It looks a field up by name, and under the
name of a field the same stands as before, as often as before (`object_named`). So a
rearranged tree is a record if the tree is one, and its fields are rearrangements of
the tree's fields (`Rearranged.bind_record?`). The second thing to say is about values
that are decoded before they are read: there the members that were added are decoded
too, so they have to be such that they can be (`Rearranged.decodes_iff`).
-/

namespace LoadScript.Json

/-! ## Lists of which the elements correspond -/

theorem mapM_congr_forall₂ {α β : Type} {R : α → α → Prop} {read? : α → Option β}
    (hread : ∀ x y, R x y → read? x = read? y) {xs ys : List α} (h : List.Forall₂ R xs ys) :
    xs.mapM read? = ys.mapM read? := by
  induction h with
  | nil => rfl
  | cons hxy _ ih => rw [List.mapM_cons, List.mapM_cons, hread _ _ hxy, ih]

theorem forall_mem_iff_of_forall₂ {α : Type} {R : α → α → Prop} {p : α → Prop}
    (hp : ∀ x y, R x y → (p x ↔ p y)) {xs ys : List α} (h : List.Forall₂ R xs ys) :
    (∀ x ∈ xs, p x) ↔ ∀ y ∈ ys, p y := by
  induction h with
  | nil => simp
  | cons hxy _ ih => rw [List.forall_mem_cons, List.forall_mem_cons, hp _ _ hxy, ih]

theorem rel_head? {α : Type} {R : α → α → Prop} {xs ys : List α} (h : List.Forall₂ R xs ys) :
    Option.Rel R xs.head? ys.head? := by
  cases h with
  | nil => exact .none
  | cons hxy _ => exact .some hxy

/-- A list with one element at most has no other order. -/
theorem eq_of_perm_of_length_le_one {α : Type} {xs ys : List α} (h : xs.Perm ys)
    (hlength : xs.length ≤ 1) : xs = ys := by
  cases xs with
  | nil => exact h.nil_eq
  | cons x rest =>
      obtain rfl : rest = [] := List.length_eq_zero_iff.1 (by simpa using hlength)
      exact List.singleton_perm.1 h

namespace Tree

/-! ## Rearranged trees -/

section Rearranged

variable (fields : List String) (inner : String → Tree → Tree → Prop)

/-- A member with its name, and what it holds rearranged as the field of this name is. -/
def MemberRearranged (m n : Option String × Tree) : Prop :=
  m.1 = n.1 ∧ m.1.elim Eq inner m.2 n.2

/-- The elements of an array that is a record, each rearranged as the field in its place
is. -/
inductive PlacesRearranged : List String → List Tree → List Tree → Prop
  | nil (names : List String) : PlacesRearranged names [] []
  | cons {label : String} {names : List String} {tree other : Tree} {rest others : List Tree} :
      inner label tree other → PlacesRearranged names rest others →
      PlacesRearranged (label :: names) (tree :: rest) (other :: others)
  | beyond (elements : List Tree) : PlacesRearranged [] elements elements

/-- The tree of a record with the given fields, and the same record in another
arrangement. `inner` says how what stands in a field may be rearranged, and `added` what
the members may hold that no field asks for and that were added. -/
inductive Rearranged (added : Tree → Prop) : Tree → Tree → Prop
  | same (tree : Tree) : Rearranged added tree tree
  | object {members kept inserted others : List (Option String × Tree)} :
      List.Forall₂ (MemberRearranged inner) members kept →
      (∀ m ∈ inserted, ∃ label, m.1 = some label ∧ label ∉ fields ∧ added m.2) →
      others.Perm (kept ++ inserted) → Rearranged added (.object members) (.object others)
  | array {elements others : List Tree} : PlacesRearranged inner fields elements others →
      Rearranged added (.array elements) (.array others)

end Rearranged

/-- Arrays of which each element is related to the one in its place. -/
inductive Elementwise (R : Tree → Tree → Prop) : Tree → Tree → Prop
  | same (tree : Tree) : Elementwise R tree tree
  | array {elements others : List Tree} : List.Forall₂ R elements others →
      Elementwise R (.array elements) (.array others)

variable {fields : List String} {inner : String → Tree → Tree → Prop} {added : Tree → Prop}

/-- An object turned round, behind what was added to it. -/
theorem Rearranged.reverse {members : List (Option String × Tree)}
    (kept inserted : List (Option String × Tree))
    (hkept : List.Forall₂ (MemberRearranged inner) members kept)
    (hinserted : ∀ m ∈ inserted, ∃ label, m.1 = some label ∧ label ∉ fields ∧ added m.2) :
    Rearranged fields inner added (.object members) (.object (kept ++ inserted).reverse) :=
  .object hkept hinserted (List.reverse_perm _)

/-! ## What stands under a name -/

theorem named_cons (label : String) (m : Option String × Tree)
    (members : List (Option String × Tree)) :
    named label (m :: members)
      = if m.1 = some label then m.2 :: named label members else named label members := by
  rw [named, List.filter_cons]
  by_cases h : m.1 = some label
  · simp [h, named]
  · simp [h, named]

theorem forall₂_named {members kept : List (Option String × Tree)}
    (h : List.Forall₂ (MemberRearranged inner) members kept) (label : String) :
    List.Forall₂ (inner label) (named label members) (named label kept) := by
  induction h with
  | nil => exact .nil
  | @cons m n rest more hmn _ ih =>
      obtain ⟨hname, hinner⟩ := hmn
      rw [named_cons, named_cons, ← hname]
      by_cases hlabel : m.1 = some label
      · rw [if_pos hlabel, if_pos hlabel]
        rw [hlabel] at hinner
        exact .cons hinner ih
      · rw [if_neg hlabel, if_neg hlabel]
        exact ih

/-- Under the name of a field stands what stood there, in some order. -/
theorem object_named {members kept inserted others : List (Option String × Tree)}
    (hkept : List.Forall₂ (MemberRearranged inner) members kept)
    (hinserted : ∀ m ∈ inserted, ∃ label, m.1 = some label ∧ label ∉ fields ∧ added m.2)
    (hothers : others.Perm (kept ++ inserted)) {label : String} (hlabel : label ∈ fields) :
    ∃ trees, List.Forall₂ (inner label) (named label members) trees
      ∧ (named label others).Perm trees := by
  refine ⟨named label kept, forall₂_named hkept label, ?_⟩
  have hnone : (inserted.filter fun m => m.1 = some label) = [] := by
    refine List.filter_eq_nil_iff.2 fun m hm => ?_
    obtain ⟨name, hname, hnew, -⟩ := hinserted m hm
    have hother : name ≠ label := fun heq => hnew (heq ▸ hlabel)
    simpa [hname] using hother
  have hsplit : (kept ++ inserted).filter (fun m => m.1 = some label)
      = kept.filter fun m => m.1 = some label := by
    rw [List.filter_append, hnone, List.append_nil]
  have hperm := hothers.filter fun m => m.1 = some label
  rw [hsplit] at hperm
  exact hperm.map Prod.snd

theorem isRecord_object_iff {members : List (Option String × Tree)} :
    (object members).IsRecord fields ↔
      (∀ m ∈ members, m.1.isSome) ∧ ∀ label ∈ fields, (named label members).length ≤ 1 := by
  constructor
  · rintro (⟨htexts, honce⟩ | _)
    exact ⟨htexts, honce⟩
  · rintro ⟨htexts, honce⟩
    exact .object htexts honce

theorem PlacesRearranged.length_eq {elements others : List Tree}
    (h : PlacesRearranged inner fields elements others) : elements.length = others.length := by
  induction h with
  | nil => rfl
  | cons _ _ ih => rw [List.length_cons, List.length_cons, ih]
  | beyond => rfl

theorem PlacesRearranged.getElem? {elements others : List Tree}
    (h : PlacesRearranged inner fields elements others) {label : String} (hlabel : label ∈ fields) :
    Option.Rel (inner label) elements[fields.idxOf label]? others[fields.idxOf label]? := by
  induction h with
  | nil => exact .none
  | @cons first names tree other rest more hinner _ ih =>
      by_cases heq : first = label
      · subst heq
        simpa using Option.Rel.some hinner
      · rw [List.idxOf_cons_ne _ heq]
        exact ih ((List.mem_cons.1 hlabel).resolve_left fun e => heq e.symm)
  | beyond => exact absurd hlabel List.not_mem_nil

theorem PlacesRearranged.forall_mem_iff {p : Tree → Prop}
    (hp : ∀ label x y, inner label x y → (p x ↔ p y)) {elements others : List Tree}
    (h : PlacesRearranged inner fields elements others) :
    (∀ x ∈ elements, p x) ↔ ∀ y ∈ others, p y := by
  induction h with
  | nil => rfl
  | cons hxy _ ih => rw [List.forall_mem_cons, List.forall_mem_cons, hp _ _ _ hxy, ih]
  | beyond => rfl

/-- Whether a tree is a record does not depend on its arrangement. -/
theorem Rearranged.isRecord_iff {tree other : Tree}
    (h : Rearranged fields inner added tree other) :
    tree.IsRecord fields ↔ other.IsRecord fields := by
  cases h with
  | same => rfl
  | @object members kept inserted others hkept hinserted hothers =>
      have htexts : (∀ m ∈ members, m.1.isSome) ↔ ∀ m ∈ others, m.1.isSome := by
        have hkeep : (∀ m ∈ members, m.1.isSome) ↔ ∀ m ∈ kept, m.1.isSome :=
          forall_mem_iff_of_forall₂ (fun m n hmn => by rw [hmn.1]) hkept
        have hnew : ∀ m ∈ inserted, m.1.isSome := by
          intro m hm
          obtain ⟨label, hlabel, -⟩ := hinserted m hm
          rw [hlabel, Option.isSome_some]
        simp only [hkeep, hothers.mem_iff, List.forall_mem_append]
        exact ⟨fun hall => ⟨hall, hnew⟩, And.left⟩
      have honce : ∀ label ∈ fields,
          (named label members).length = (named label others).length := by
        intro label hlabel
        obtain ⟨trees, hrel, hperm⟩ := object_named hkept hinserted hothers hlabel
        rw [hrel.length_eq, hperm.length_eq]
      rw [isRecord_object_iff, isRecord_object_iff, htexts]
      refine and_congr_right fun _ => forall₂_congr fun label hlabel => ?_
      rw [honce label hlabel]
  | array hplaces =>
      have hlength := hplaces.length_eq
      constructor
      · rintro (_ | hfits)
        exact .array (hlength ▸ hfits)
      · rintro (_ | hfits)
        exact .array (hlength ▸ hfits)

/-- The fields of a rearranged record are those of the record, each rearranged. -/
theorem Rearranged.field? {tree other : Tree} (h : Rearranged fields inner added tree other)
    (hrecord : tree.IsRecord fields) :
    tree = other ∨ ∀ label ∈ fields,
      Option.Rel (inner label) (tree.field? fields label) (other.field? fields label) := by
  cases h with
  | same => exact Or.inl rfl
  | @object members _ _ others hkept hinserted hothers =>
      refine Or.inr fun label hlabel => ?_
      obtain ⟨trees, hrel, hperm⟩ := object_named hkept hinserted hothers hlabel
      have honce : (named label members).length ≤ 1 := (isRecord_object_iff.1 hrecord).2 label hlabel
      have hsame : named label others = trees :=
        eq_of_perm_of_length_le_one hperm (by rw [hperm.length_eq, ← hrel.length_eq]; exact honce)
      rw [Tree.field?, Tree.field?, hsame]
      exact rel_head? hrel
  | array hplaces => exact Or.inr fun label hlabel => hplaces.getElem? hlabel

/-- A reader that looks at a record by its fields, and reads each field alike in any
arrangement, reads the record alike. -/
theorem Rearranged.bind_record? {α : Type} {read? : Record → Option α} {tree other : Tree}
    (h : Rearranged fields inner added tree other)
    (hread : ∀ r s : Record,
      (∀ label ∈ fields, Option.Rel (inner label) (r.get? label) (s.get? label)) →
        read? r = read? s) :
    (tree.record? fields).bind read? = (other.record? fields).bind read? := by
  cases hr : tree.record? fields with
  | none =>
      have hnone : other.record? fields = none := by
        rw [Option.eq_none_iff_forall_ne_some]
        intro s hs
        obtain ⟨r, hsome⟩ := exists_record?_iff.2 (h.isRecord_iff.2 (exists_record?_iff.1 ⟨s, hs⟩))
        rw [hr] at hsome
        cases hsome
      rw [hnone]
  | some r =>
      have hrecord := exists_record?_iff.1 ⟨r, hr⟩
      obtain ⟨s, hs⟩ := exists_record?_iff.2 (h.isRecord_iff.1 hrecord)
      rcases h.field? hrecord with rfl | hfields
      · rw [hr]
      · rw [hs, Option.bind_some, Option.bind_some]
        refine hread r s fun label hlabel => ?_
        rw [get?_of_record? hr hlabel, get?_of_record? hs hlabel]
        exact hfields label hlabel

/-! ## Values that are decoded first -/

/-- A rearranged tree can be decoded if the tree can be, provided that so can what was
added. -/
theorem Rearranged.decodes_iff {room : Nat} {tree other : Tree}
    (h : Rearranged fields inner added tree other)
    (hinner : ∀ label x y, inner label x y → (x.Decodes (room - 1) ↔ y.Decodes (room - 1)))
    (hadded : ∀ x, added x → x.Decodes (room - 1)) : tree.Decodes room ↔ other.Decodes room := by
  cases room with
  | zero =>
      cases h with
      | same => rfl
      | object => simp [Decodes, Value.ofTree?]
      | array => simp [Decodes, Value.ofTree?]
  | succ room =>
      cases h with
      | same => rfl
      | @object members kept inserted others hkept hinserted hothers =>
          have hmember : ∀ m n : Option String × Tree, MemberRearranged inner m n →
              (m.1.isSome ∧ m.2.Decodes room ↔ n.1.isSome ∧ n.2.Decodes room) := by
            rintro ⟨label, x⟩ ⟨_, y⟩ ⟨rfl, hxy⟩
            cases label with
            | none => simp
            | some label => exact and_congr_right fun _ => hinner label x y hxy
          have hnew : ∀ m ∈ inserted, m.1.isSome ∧ m.2.Decodes room := by
            intro m hm
            obtain ⟨label, hlabel, -, hvalue⟩ := hinserted m hm
            exact ⟨by rw [hlabel, Option.isSome_some], hadded m.2 hvalue⟩
          rw [decodes_object_iff, decodes_object_iff, forall_mem_iff_of_forall₂ hmember hkept]
          simp only [hothers.mem_iff, List.forall_mem_append]
          exact ⟨fun hall => ⟨hall, hnew⟩, And.left⟩
      | array hplaces =>
          rw [decodes_array_iff, decodes_array_iff]
          exact hplaces.forall_mem_iff hinner

theorem Elementwise.decodes_iff {R : Tree → Tree → Prop} {room : Nat} {tree other : Tree}
    (h : Elementwise R tree other)
    (hR : ∀ x y, R x y → (x.Decodes (room - 1) ↔ y.Decodes (room - 1))) :
    tree.Decodes room ↔ other.Decodes room := by
  cases h with
  | same => rfl
  | array helements =>
      cases room with
      | zero => simp [Decodes, Value.ofTree?]
      | succ room =>
          rw [decodes_array_iff, decodes_array_iff]
          exact forall_mem_iff_of_forall₂ hR helements

theorem Elementwise.elements?_eq {α : Type} {R : Tree → Tree → Prop} {read? : Tree → Option α}
    {tree other : Tree} (h : Elementwise R tree other) (hR : ∀ x y, R x y → read? x = read? y) :
    tree.elements? read? = other.elements? read? := by
  cases h with
  | same => rfl
  | array helements => exact mapM_congr_forall₂ hR helements

/-! ## Readers of fields -/

/-- A reader that does not tell related trees apart. Where a field may be left out, `null`
stands for nothing, so no other tree may be related to it. -/
structure ReadAlike {α : Type} (read? : Tree → Option α) (R : Tree → Tree → Prop) : Prop where
  null : ∀ {x y}, R x y → (x = .null ↔ y = .null)
  read : ∀ {x y}, R x y → read? x = read? y

theorem ReadAlike.eq {α : Type} {read? : Tree → Option α} : ReadAlike read? Eq where
  null := by
    rintro x _ rfl
    rfl
  read := congrArg read?

theorem Rearranged.readAlike {α : Type} {read? : Tree → Option α}
    (hread : ∀ x y, Rearranged fields inner added x y → read? x = read? y) :
    ReadAlike read? (Rearranged fields inner added) where
  null := by
    intro x y h
    cases h with
    | same => rfl
    | object => simp
    | array => simp
  read := hread _ _

theorem Elementwise.readAlike {α : Type} {R : Tree → Tree → Prop} {read? : Tree → Option α}
    (hread : ∀ x y, Elementwise R x y → read? x = read? y) : ReadAlike read? (Elementwise R) where
  null := by
    intro x y h
    cases h with
    | same => rfl
    | array => simp
  read := hread _ _

end Tree

namespace Record

variable {α : Type} {read? : Tree → Option α} {R : Tree → Tree → Prop} {r s : Record} {label : String}

theorem required?_congr (hread : Tree.ReadAlike read? R)
    (h : Option.Rel R (r.get? label) (s.get? label)) :
    r.required? label read? = s.required? label read? := by
  rw [required?, required?]
  generalize r.get? label = given, s.get? label = other at h ⊢
  cases h with
  | none => rfl
  | some hxy => exact hread.read hxy

theorem withDefault?_congr (hread : Tree.ReadAlike read? R)
    (h : Option.Rel R (r.get? label) (s.get? label)) (default : α) :
    r.withDefault? label default read? = s.withDefault? label default read? := by
  rw [withDefault?, withDefault?]
  generalize r.get? label = given, s.get? label = other at h ⊢
  cases h with
  | none => rfl
  | some hxy => exact hread.read hxy

theorem optional?_congr (hread : Tree.ReadAlike read? R)
    (h : Option.Rel R (r.get? label) (s.get? label)) :
    r.optional? label read? = s.optional? label read? := by
  unfold optional?
  generalize r.get? label = given, s.get? label = other at h ⊢
  cases h with
  | none => rfl
  | @some x y hxy =>
      by_cases hx : x = .null
      · rw [hx, (hread.null hxy).1 hx]
      · have hy : y ≠ .null := fun hy => hx ((hread.null hxy).2 hy)
        simp only [hread.read hxy]

end Record

end LoadScript.Json
