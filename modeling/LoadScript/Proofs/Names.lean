import LoadScript.Collection
import LoadScript.Proofs.Merge
import LoadScript.Proofs.Record
import LoadScript.VariableFile
import Mathlib.Data.String.Basic

/-!
# The names in a value

The members of an object are a list of names and values, and some facts about a
value are facts about the names of every object in it (`Value.Everywhere`). One
of them holds of all values that are read from a text: in no object is there a
name twice (`Value.Distinct`). A member is put in where its name belongs, so the
names of an object are sorted all the time (`sorted_putMember`), and sorted names
do not repeat. Variables are maps besides, so what is read of them has no name
twice at any depth (`distinct_variables`, `distinct_varMap`).
-/

namespace LoadScript.Json

namespace Value

mutual

/-- `p` holds of the names of each object in a value. -/
def Everywhere (p : List String → Prop) : Value → Prop
  | .array elements => EverywhereIn p elements
  | .object members => p (members.map Prod.fst) ∧ EverywhereUnder p members
  | _ => True
  termination_by structural value => value

def EverywhereIn (p : List String → Prop) : List Value → Prop
  | [] => True
  | value :: rest => Everywhere p value ∧ EverywhereIn p rest
  termination_by structural values => values

def EverywhereUnder (p : List String → Prop) : List (String × Value) → Prop
  | [] => True
  | (_, value) :: rest => Everywhere p value ∧ EverywhereUnder p rest
  termination_by structural members => members

end

theorem everywhereUnder_iff {p : List String → Prop} {members : List (String × Value)} :
    EverywhereUnder p members ↔ ∀ m ∈ members, m.2.Everywhere p := by
  induction members with
  | nil => simp [EverywhereUnder]
  | cons m rest ih =>
      obtain ⟨label, value⟩ := m
      rw [EverywhereUnder, ih, List.forall_mem_cons]

/-- In no object does a name occur twice. -/
def Distinct (value : Value) : Prop := value.Everywhere List.Nodup

end Value

/-! ## Sorted members -/

section Members

variable {α : Type}

/-- Members in the order of their names, none of which repeats. -/
def Sorted (members : List (String × α)) : Prop := (members.map Prod.fst).Pairwise (· < ·)

theorem Sorted.nodup {members : List (String × α)} (h : Sorted members) :
    (members.map Prod.fst).Nodup :=
  List.Pairwise.imp (fun hlt => ne_of_lt hlt) h

theorem sorted_nil : Sorted ([] : List (String × α)) := List.Pairwise.nil

theorem mem_putMember {label : String} {value : α} {members : List (String × α)}
    {m : String × α} (h : m ∈ putMember label value members) :
    m = (label, value) ∨ m ∈ members := by
  induction members with
  | nil => exact Or.inl (List.mem_singleton.1 h)
  | cons first rest ih =>
      rw [putMember] at h
      split at h
      · rcases List.mem_cons.1 h with hnew | hrest
        · exact Or.inl hnew
        · exact Or.inr (List.mem_cons_of_mem first hrest)
      · split at h
        · exact List.mem_cons.1 h
        · rcases List.mem_cons.1 h with hfirst | hrest
          · exact Or.inr (hfirst ▸ List.mem_cons_self)
          · exact (ih hrest).imp id (List.mem_cons_of_mem first)

theorem sorted_putMember {members : List (String × α)} (h : Sorted members) (label : String)
    (value : α) : Sorted (putMember label value members) := by
  induction members with
  | nil => exact List.pairwise_singleton _ _
  | cons first rest ih =>
      obtain ⟨hfirst, hrest⟩ := List.pairwise_cons.1 h
      rw [putMember]
      split
      · next heq =>
          rw [Sorted, List.map_cons, heq]
          exact h
      · next hne =>
          split
          · next hlt =>
              refine List.pairwise_cons.2 ⟨fun other hother => ?_, h⟩
              rcases List.mem_cons.1 hother with heq | hmem
              · exact heq ▸ hlt
              · exact hlt.trans (hfirst other hmem)
          · next hnlt =>
              have hbehind : first.1 < label := lt_of_le_of_ne (not_lt.1 hnlt) (Ne.symm hne)
              refine List.pairwise_cons.2 ⟨fun other hother => ?_, ih hrest⟩
              obtain ⟨m, hm, rfl⟩ := List.mem_map.1 hother
              rcases mem_putMember hm with rfl | hold
              · exact hbehind
              · exact hfirst m.1 (List.mem_map_of_mem hold)

/-- Putting members in keeps the members sorted and brings nothing else in. -/
theorem sorted_foldl_putMember (members : List (String × α)) {sorted : List (String × α)}
    (h : Sorted sorted) :
    Sorted (members.foldl (fun sorted m => putMember m.1 m.2 sorted) sorted)
      ∧ ∀ m ∈ members.foldl (fun sorted m => putMember m.1 m.2 sorted) sorted,
          m ∈ sorted ∨ m ∈ members := by
  induction members generalizing sorted with
  | nil => exact ⟨h, fun m hm => Or.inl hm⟩
  | cons first rest ih =>
      obtain ⟨hsorted, hmem⟩ := ih (sorted_putMember h first.1 first.2)
      refine ⟨hsorted, fun m hm => ?_⟩
      rcases hmem m hm with hput | hrest
      · rcases mem_putMember hput with hnew | hold
        · exact Or.inr (hnew ▸ List.mem_cons_self)
        · exact Or.inl hold
      · exact Or.inr (List.mem_cons_of_mem first hrest)

theorem sorted_sortMembers (members : List (String × α)) : Sorted (sortMembers members) :=
  (sorted_foldl_putMember members sorted_nil).1

theorem mem_sortMembers {members : List (String × α)} {m : String × α}
    (h : m ∈ sortMembers members) : m ∈ members :=
  ((sorted_foldl_putMember members sorted_nil).2 m h).resolve_left List.not_mem_nil

end Members

/-! ## Values that are read -/

namespace Value

mutual

theorem distinct_ofTree? {room : Nat} : ∀ {tree : Tree} {value : Value},
    ofTree? room tree = some value → value.Distinct
  | .null, value, h => by
      rw [← Option.some.inj h]
      trivial
  | .bool _, value, h => by
      rw [← Option.some.inj h]
      trivial
  | .numeral numeral, value, h => by
      obtain ⟨number, -, rfl⟩ := Option.map_eq_some_iff.1 h
      trivial
  | .string text, value, h => by
      obtain ⟨inner, -, rfl⟩ := Option.map_eq_some_iff.1 h
      trivial
  | .array elements, value, h => by
      cases room with
      | zero => exact absurd h (by simp [ofTree?])
      | succ deeper =>
          obtain ⟨values, hvalues, rfl⟩ := Option.map_eq_some_iff.1 h
          exact distinct_ofTrees? hvalues
  | .object members, value, h => by
      cases room with
      | zero => exact absurd h (by simp [ofTree?])
      | succ deeper =>
          obtain ⟨read, hread, rfl⟩ := Option.map_eq_some_iff.1 h
          refine ⟨(sorted_sortMembers read).nodup, everywhereUnder_iff.2 fun m hm => ?_⟩
          exact distinct_ofMembers? hread m (mem_sortMembers hm)

theorem distinct_ofTrees? {room : Nat} : ∀ {trees : List Tree} {values : List Value},
    ofTrees? room trees = some values → EverywhereIn List.Nodup values
  | [], values, h => by
      rw [← Option.some.inj h]
      trivial
  | tree :: rest, values, h => by
      simp only [ofTrees?, Option.bind_eq_bind, Option.bind_eq_some_iff] at h
      obtain ⟨first, hfirst, more, hmore, hvalues⟩ := h
      rw [← Option.some.inj hvalues]
      exact ⟨distinct_ofTree? hfirst, distinct_ofTrees? hmore⟩

theorem distinct_ofMembers? {room : Nat} : ∀ {members : List (Option String × Tree)}
    {read : List (String × Value)}, ofMembers? room members = some read →
    ∀ m ∈ read, m.2.Distinct
  | [], read, h => by
      rw [← Option.some.inj h]
      simp
  | (label, tree) :: rest, read, h => by
      simp only [ofMembers?, Option.bind_eq_bind, Option.bind_eq_some_iff] at h
      obtain ⟨name, -, first, hfirst, more, hmore, hread⟩ := h
      rw [← Option.some.inj hread]
      exact List.forall_mem_cons.2 ⟨distinct_ofTree? hfirst, distinct_ofMembers? hmore⟩

end

theorem distinct_ofList {entries : List (String × Value)} (h : ∀ e ∈ entries, e.2.Distinct) :
    (Value.object (OrderedMap.ofList entries).entries).Distinct := by
  refine ⟨(OrderedMap.ofList entries).nodup, everywhereUnder_iff.2 fun e he => ?_⟩
  obtain ⟨front, back, hsplit, -⟩ := (merges_ofList entries).last e he
  refine h e ?_
  rw [hsplit]
  simp

/-- A field that is a value, or `null` if it is not given. -/
theorem distinct_withDefault? {record : Record} {label : String} {room : Nat} {value : Value}
    (h : record.withDefault? label .null (ofTree? room) = some value) : value.Distinct := by
  unfold Record.withDefault? at h
  split at h
  · rw [← Option.some.inj h]
    trivial
  · exact distinct_ofTree? h

end Value

end LoadScript.Json

namespace LoadScript

open Json

theorem exists_of_mapM {α β : Type} {read? : α → Option β} {xs : List α} {ys : List β}
    (h : xs.mapM read? = some ys) : ∀ y ∈ ys, ∃ x ∈ xs, read? x = some y := by
  intro y hy
  obtain ⟨i, hi, rfl⟩ := List.mem_iff_getElem.1 hy
  have hall := mapM_eq_some_iff.1 h
  have hplace : i < xs.length := hall.length_eq ▸ hi
  exact ⟨xs[i], List.getElem_mem hplace, hall.get hplace hi⟩

theorem forall_of_elements? {α : Type} {read? : Tree → Option α} {p : α → Prop}
    (hread : ∀ tree x, read? tree = some x → p x) {tree : Tree} {xs : List α}
    (h : tree.elements? read? = some xs) : ∀ x ∈ xs, p x := by
  cases tree with
  | array elements =>
      intro x hx
      obtain ⟨element, -, helement⟩ := exists_of_mapM h x hx
      exact hread element x helement
  | _ => exact absurd h (by simp [Tree.elements?])

namespace Variables

theorem distinct_exportedEntry {room : Nat} {tree : Tree} {entry : ExportedEntry}
    (h : ExportedEntry.ofTree? room tree = some entry) : entry.value.Distinct := by
  cases room with
  | zero => exact absurd h (by simp [ExportedEntry.ofTree?])
  | succ room =>
      simp only [ExportedEntry.ofTree?, Option.bind_eq_bind, Option.bind_eq_some_iff] at h
      obtain ⟨record, -, key, -, value, hvalue, enabled, -, hentry⟩ := h
      rw [← Option.some.inj hentry]
      exact Value.distinct_withDefault? hvalue

theorem distinct_exported {room : Nat} {tree : Tree} {entries : List ExportedEntry}
    (h : exported? room tree = some entries) : ∀ entry ∈ entries, entry.value.Distinct := by
  cases tree with
  | object members =>
      simp only [exported?, Option.bind_eq_bind, Option.bind_eq_some_iff] at h
      obtain ⟨record, -, hvalues⟩ := h
      obtain ⟨list, -, hlist⟩ := Option.bind_eq_some_iff.1 hvalues
      exact forall_of_elements? (fun _ _ => distinct_exportedEntry) hlist
  | _ => exact absurd h (by simp [exported?])

theorem distinct_flat {room : Nat} {tree : Tree} {vars : Variables}
    (h : flat? room tree = some vars) : (Value.object vars.entries).Distinct := by
  cases tree with
  | object members =>
      obtain ⟨entries, hentries, rfl⟩ := Option.map_eq_some_iff.1 h
      exact Value.distinct_ofList (Value.distinct_ofMembers? hentries)
  | _ => exact absurd h (by simp [flat?])

/-- The variables of a file have no name twice, at no depth of their values. -/
theorem distinct_variables {text : String} {vars : Variables} (h : parse? text = some vars) :
    (Value.object vars.entries).Distinct := by
  obtain ⟨tree, -, hvars⟩ := Option.bind_eq_some_iff.1 h
  simp only [ofTree?, Option.bind_eq_bind, Option.bind_eq_some_iff] at hvars
  obtain ⟨_, -, hvars⟩ := hvars
  split at hvars
  · next entries hentries =>
      rw [← Option.some.inj hvars]
      refine Value.distinct_ofList fun e he => ?_
      obtain ⟨entry, hentry, rfl⟩ := List.mem_map.1 he
      exact distinct_exported hentries entry (List.mem_of_mem_filter hentry)
  · exact distinct_flat hvars

end Variables

namespace Document

theorem distinct_entry {room : Nat} {tree : Tree} {entry : Entry}
    (h : Entry.ofTree? room tree = some entry) : entry.value.Distinct := by
  cases room with
  | zero => exact absurd h (by simp [Entry.ofTree?])
  | succ room =>
      simp only [Entry.ofTree?, Option.bind_eq_bind, Option.bind_eq_some_iff] at h
      obtain ⟨record, -, key, -, value, hvalue, disabled, -, kind, -, hentry⟩ := h
      rw [← Option.some.inj hentry]
      exact Value.distinct_withDefault? hvalue

theorem distinct_vars {room : Nat} {tree : Tree} {document : Document}
    (h : ofTree? room tree = some document) : ∀ entry ∈ document.vars, entry.value.Distinct := by
  cases room with
  | zero => exact absurd h (by simp [ofTree?])
  | succ room =>
      simp only [ofTree?, Option.bind_eq_bind, Option.bind_eq_some_iff] at h
      obtain ⟨record, -, info, -, items, -, vars, hvars, hdocument⟩ := h
      rw [← Option.some.inj hdocument]
      unfold Record.withDefault? at hvars
      split at hvars
      · rw [← Option.some.inj hvars]
        simp
      · cases room with
        | zero => exact absurd hvars (by simp [elementsWithin?])
        | succ deeper => exact forall_of_elements? (fun _ _ => distinct_entry) hvars

/-- The variables of a collection have no name twice, at no depth of their values. -/
theorem distinct_varMap {text : String} {document : Document} (h : parse? text = some document) :
    (Value.object document.varMap.entries).Distinct := by
  obtain ⟨tree, -, htree⟩ := Option.bind_eq_some_iff.1 h
  refine Value.distinct_ofList fun e he => ?_
  obtain ⟨entry, hentry, rfl⟩ := List.mem_map.1 he
  exact distinct_vars htree entry (List.mem_of_mem_filter hentry)

end Document

end LoadScript
