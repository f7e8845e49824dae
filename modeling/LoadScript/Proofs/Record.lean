import LoadScript.Json.Record
import Mathlib.Data.List.Forall2
import Mathlib.Data.List.Nodup

/-!
# Records and values as they are written

What a reader makes of a tree is said here by the tree alone. The fields of a
record are found by name in an object, where a declared name may stand once, and
by place in an array (`Tree.IsRecord`, `Tree.field?`). A tree denotes a value
(`Tree.Denotes`), and how much room there is to go into arrays and objects
decides only whether the value is read (`Tree.Decodes`), never which value it is
(`ofTree?_mono`). So what is read twice with different room is read alike.
-/

namespace LoadScript.Json

/-! ## Fields by name and by place -/

namespace Tree

/-- What stands under a name in an object, once for each time the name occurs. -/
def named (label : String) (members : List (Option String × Tree)) : List Tree :=
  (members.filter fun m => m.1 = some label).map Prod.snd

/-- A record of declared fields: an object whose names are texts, with no declared
name twice, or an array with a place for each of its elements. -/
inductive IsRecord (fields : List String) : Tree → Prop where
  | object {members : List (Option String × Tree)} (texts : ∀ m ∈ members, m.1.isSome)
      (once : ∀ label ∈ fields, (named label members).length ≤ 1) :
      IsRecord fields (.object members)
  | array {elements : List Tree} (fits : elements.length ≤ fields.length) :
      IsRecord fields (.array elements)

/-- What a record gives for a field. -/
def field? (fields : List String) (label : String) : Tree → Option Tree
  | .object members => (named label members).head?
  | .array elements => elements[fields.idxOf label]?
  | _ => none

variable {fields : List String}

theorem named_eq_singleton {label : String} {members : List (Option String × Tree)} {tree : Tree}
    (h : (named label members).head? = some tree) (honce : (named label members).length ≤ 1) :
    named label members = [tree] := by
  obtain ⟨rest, hrest⟩ := List.head?_eq_some_iff.1 h
  rw [hrest, List.length_cons] at honce
  rw [hrest, List.length_eq_zero_iff.1 (by omega : rest.length = 0)]

theorem exists_knownMembers?_iff {members : List (Option String × Tree)} :
    (∃ known, knownMembers? fields members = some known) ↔ ∀ m ∈ members, m.1.isSome := by
  induction members with
  | nil => simp [knownMembers?]
  | cons m rest ih =>
      obtain ⟨label, tree⟩ := m
      rw [List.forall_mem_cons, ← ih]
      cases label with
      | none => simp [knownMembers?]
      | some label =>
          simp only [knownMembers?, Option.bind_eq_bind, Option.bind_some, Option.bind_eq_some_iff,
            Option.isSome_some, true_and]
          constructor
          · rintro ⟨-, known, hknown, -⟩
            exact ⟨known, hknown⟩
          · rintro ⟨known, hknown⟩
            exact ⟨_, known, hknown, rfl⟩

/-- The members of declared names are kept, each with all that stands under it. -/
theorem filter_knownMembers? {members : List (Option String × Tree)} {known : Record}
    (h : knownMembers? fields members = some known) :
    (∀ label ∈ fields, (known.filter (·.1 = label)).map Prod.snd = named label members)
      ∧ ∀ field ∈ known, field.1 ∈ fields := by
  induction members generalizing known with
  | nil =>
      rw [← Option.some.inj h]
      simp [named]
  | cons m rest ih =>
      obtain ⟨label, tree⟩ := m
      simp only [knownMembers?, Option.bind_eq_bind, Option.bind_eq_some_iff] at h
      obtain ⟨name, rfl, more, hmore, hknown⟩ := h
      obtain ⟨hnamed, hdeclared⟩ := ih hmore
      rw [← Option.some.inj hknown]
      split
      · next hname =>
          refine ⟨fun label hlabel => ?_, List.forall_mem_cons.2 ⟨hname, hdeclared⟩⟩
          rw [named, List.filter_cons, List.filter_cons]
          by_cases heq : name = label
          · simpa [heq, named] using hnamed label hlabel
          · simpa [heq, named] using hnamed label hlabel
      · next hname =>
          refine ⟨fun label hlabel => ?_, hdeclared⟩
          have hother : name ≠ label := fun heq => hname (heq ▸ hlabel)
          rw [hnamed label hlabel, named, named, List.filter_cons_of_neg (by simpa using hother)]

theorem nodup_knownMembers?_iff {members : List (Option String × Tree)} {known : Record}
    (h : knownMembers? fields members = some known) :
    (known.map Prod.fst).Nodup ↔ ∀ label ∈ fields, (named label members).length ≤ 1 := by
  obtain ⟨hnamed, hdeclared⟩ := filter_knownMembers? h
  have hcount : ∀ label, (known.map Prod.fst).count label
      = (known.filter (·.1 = label)).length := by
    intro label
    rw [List.count, List.countP_map, List.countP_eq_length_filter]
    rfl
  rw [List.nodup_iff_count_le_one]
  constructor
  · intro hnodup label hlabel
    rw [← hnamed label hlabel, List.length_map, ← hcount]
    exact hnodup label
  · intro honce label
    by_cases hlabel : label ∈ fields
    · rw [hcount, ← List.length_map Prod.snd, hnamed label hlabel]
      exact honce label hlabel
    · rw [List.count_eq_zero_of_not_mem]
      · exact Nat.zero_le 1
      · intro hmem
        obtain ⟨field, hfield, rfl⟩ := List.mem_map.1 hmem
        exact hlabel (hdeclared field hfield)

theorem exists_record?_iff {tree : Tree} :
    (∃ record, tree.record? fields = some record) ↔ tree.IsRecord fields := by
  cases tree with
  | object members =>
      simp only [record?, Option.bind_eq_bind, Option.bind_eq_some_iff]
      constructor
      · rintro ⟨record, known, hknown, hrecord⟩
        split at hrecord
        · next hnodup =>
            exact .object (exists_knownMembers?_iff.1 ⟨known, hknown⟩)
              ((nodup_knownMembers?_iff hknown).1 hnodup)
        · cases hrecord
      · rintro (⟨htexts, honce⟩ | _)
        obtain ⟨known, hknown⟩ := exists_knownMembers?_iff.2 htexts
        exact ⟨known, known, hknown, if_pos ((nodup_knownMembers?_iff hknown).2 honce)⟩
  | array elements =>
      rw [record?]
      split
      · next hfits => exact ⟨fun _ => .array hfits, fun _ => ⟨_, rfl⟩⟩
      · next hlong =>
          constructor
          · rintro ⟨record, hnone⟩
            cases hnone
          · rintro (_ | hfits)
            exact absurd hfits hlong
  | _ =>
      constructor
      · rintro ⟨record, hnone⟩
        cases hnone
      · rintro ⟨⟩

theorem find?_zip {label : String} (h : label ∈ fields) (elements : List Tree) :
    Record.get? (fields.zip elements) label = elements[fields.idxOf label]? := by
  induction fields generalizing elements with
  | nil => exact absurd h List.not_mem_nil
  | cons first rest ih =>
      cases elements with
      | nil => rfl
      | cons element more =>
          rw [Record.get?, List.zip_cons_cons, List.find?_cons]
          by_cases heq : first = label
          · simp [heq]
          · have hrest : label ∈ rest := (List.mem_cons.1 h).resolve_left fun e => heq e.symm
            simp only [heq, decide_false, List.idxOf_cons_ne _ heq]
            exact ih hrest more

theorem get?_of_record? {tree : Tree} {record : Record} (h : tree.record? fields = some record)
    {label : String} (hlabel : label ∈ fields) :
    record.get? label = tree.field? fields label := by
  cases tree with
  | object members =>
      simp only [record?, Option.bind_eq_bind, Option.bind_eq_some_iff] at h
      obtain ⟨known, hknown, hrecord⟩ := h
      split at hrecord
      · rw [← Option.some.inj hrecord, Record.get?, ← List.head?_filter, ← List.head?_map,
          (filter_knownMembers? hknown).1 label hlabel]
        rfl
      · cases hrecord
  | array elements =>
      rw [record?] at h
      split at h
      · rw [← Option.some.inj h]
        exact find?_zip hlabel elements
      · cases h
  | _ => exact absurd h (by simp [record?])

/-! ## What the readers of fields accept -/

theorem string?_eq_some_iff {tree : Tree} {text : String} :
    tree.string? = some text ↔ tree = .string (some text) := by
  cases tree with
  | string value => simp [string?]
  | _ => simp [string?]

theorem bool?_eq_some_iff {tree : Tree} {value : Bool} :
    tree.bool? = some value ↔ tree = .bool value := by
  cases tree with
  | bool value => simp [bool?]
  | _ => simp [bool?]

theorem elements?_eq_some_iff {α : Type} {read? : Tree → Option α} {tree : Tree} {xs : List α} :
    tree.elements? read? = some xs ↔
      ∃ elements, tree = .array elements ∧ elements.mapM read? = some xs := by
  cases tree with
  | array elements => simp [elements?]
  | _ => simp [elements?]

end Tree

theorem Record.withDefault?_eq_some_iff {α : Type} {record : Record} {label : String} {default x : α}
    {read? : Tree → Option α} :
    record.withDefault? label default read? = some x ↔
      (record.get? label = none ∧ x = default)
        ∨ ∃ part, record.get? label = some part ∧ read? part = some x := by
  rw [Record.withDefault?]
  cases record.get? label with
  | none => simp [eq_comm]
  | some part => simp

/-! ## Values and room -/

theorem mapM_eq_some_iff {α β : Type} {f : α → Option β} {xs : List α} {ys : List β} :
    xs.mapM f = some ys ↔ List.Forall₂ (fun x y => f x = some y) xs ys := by
  induction xs generalizing ys with
  | nil =>
      rw [List.mapM_nil, List.forall₂_nil_left_iff]
      exact ⟨fun h => (Option.some.inj h).symm, fun h => congrArg some h.symm⟩
  | cons x rest ih =>
      simp only [List.mapM_cons, Option.bind_eq_bind, Option.bind_eq_some_iff,
        List.forall₂_cons_left_iff]
      constructor
      · rintro ⟨y, hy, more, hmore, hys⟩
        exact ⟨y, more, hy, ih.1 hmore, (Option.some.inj hys).symm⟩
      · rintro ⟨y, more, hy, hmore, rfl⟩
        exact ⟨y, hy, more, ih.2 hmore, rfl⟩

theorem forall₂_congr_of_mem {α β : Type} {R S : α → β → Prop} {xs : List α} {ys : List β}
    (h : ∀ x ∈ xs, ∀ y, R x y ↔ S x y) : List.Forall₂ R xs ys ↔ List.Forall₂ S xs ys := by
  induction xs generalizing ys with
  | nil => rw [List.forall₂_nil_left_iff, List.forall₂_nil_left_iff]
  | cons x rest ih =>
      obtain ⟨hx, hrest⟩ := List.forall_mem_cons.1 h
      simp only [List.forall₂_cons_left_iff, hx, ih hrest]

theorem exists_mapM_iff {α β : Type} {f : α → Option β} {xs : List α} :
    (∃ ys, xs.mapM f = some ys) ↔ ∀ x ∈ xs, ∃ y, f x = some y := by
  induction xs with
  | nil => simp
  | cons x rest ih =>
      rw [List.forall_mem_cons, ← ih]
      simp only [mapM_eq_some_iff, List.forall₂_cons_left_iff]
      constructor
      · rintro ⟨-, y, more, hy, hmore, -⟩
        exact ⟨⟨y, hy⟩, more, hmore⟩
      · rintro ⟨⟨y, hy⟩, more, hmore⟩
        exact ⟨_, y, more, hy, hmore, rfl⟩

namespace Value

theorem ofTrees?_eq_mapM (room : Nat) (trees : List Tree) :
    ofTrees? room trees = trees.mapM (ofTree? room) := by
  induction trees with
  | nil => rfl
  | cons tree rest ih =>
      rw [ofTrees?, List.mapM_cons, ih]
      rfl

def ofMember? (room : Nat) (m : Option String × Tree) : Option (String × Value) :=
  m.1.bind fun label => (ofTree? room m.2).map fun value => (label, value)

theorem ofMembers?_eq_mapM (room : Nat) (members : List (Option String × Tree)) :
    ofMembers? room members = members.mapM (ofMember? room) := by
  induction members with
  | nil => rfl
  | cons m rest ih =>
      obtain ⟨label, tree⟩ := m
      rw [ofMembers?, List.mapM_cons, ih]
      cases label with
      | none => rfl
      | some label =>
          rw [ofMember?]
          cases ofTree? room tree <;> rfl

mutual

/-- With more room the same value is read. -/
theorem ofTree?_mono {room more : Nat} (hle : room ≤ more) : ∀ {tree : Tree} {value : Value},
    ofTree? room tree = some value → ofTree? more tree = some value
  | .null, _, h => h
  | .bool _, _, h => h
  | .numeral _, _, h => h
  | .string _, _, h => h
  | .array elements, value, h => by
      cases room with
      | zero => exact absurd h (by simp [ofTree?])
      | succ room =>
          obtain ⟨more, rfl⟩ := Nat.exists_eq_add_one_of_ne_zero (by omega : more ≠ 0)
          obtain ⟨values, hvalues, rfl⟩ := Option.map_eq_some_iff.1 h
          rw [ofTree?, ofTrees?_mono (Nat.le_of_succ_le_succ hle) hvalues]
          rfl
  | .object members, value, h => by
      cases room with
      | zero => exact absurd h (by simp [ofTree?])
      | succ room =>
          obtain ⟨more, rfl⟩ := Nat.exists_eq_add_one_of_ne_zero (by omega : more ≠ 0)
          obtain ⟨read, hread, rfl⟩ := Option.map_eq_some_iff.1 h
          rw [ofTree?, ofMembers?_mono (Nat.le_of_succ_le_succ hle) hread]
          rfl

theorem ofTrees?_mono {room more : Nat} (hle : room ≤ more) : ∀ {trees : List Tree}
    {values : List Value}, ofTrees? room trees = some values → ofTrees? more trees = some values
  | [], _, h => h
  | tree :: rest, values, h => by
      simp only [ofTrees?, Option.bind_eq_bind, Option.bind_eq_some_iff] at h
      obtain ⟨first, hfirst, others, hothers, hvalues⟩ := h
      rw [ofTrees?, ofTree?_mono hle hfirst, ofTrees?_mono hle hothers]
      exact hvalues

theorem ofMembers?_mono {room more : Nat} (hle : room ≤ more) :
    ∀ {members : List (Option String × Tree)} {read : List (String × Value)},
    ofMembers? room members = some read → ofMembers? more members = some read
  | [], _, h => h
  | (label, tree) :: rest, read, h => by
      simp only [ofMembers?, Option.bind_eq_bind, Option.bind_eq_some_iff] at h
      obtain ⟨name, hname, first, hfirst, others, hothers, hread⟩ := h
      rw [ofMembers?, hname, ofTree?_mono hle hfirst, ofMembers?_mono hle hothers]
      exact hread

end

end Value

namespace Tree

/-- The value that a tree denotes, however deep it may be nested. -/
def Denotes (tree : Tree) (value : Value) : Prop := ∃ room, Value.ofTree? room tree = some value

/-- The tree denotes a value and is not nested deeper than there is room. -/
def Decodes (room : Nat) (tree : Tree) : Prop := ∃ value, Value.ofTree? room tree = some value

/-- What is read of a tree is what it denotes. -/
theorem Decodes.ofTree?_iff {room : Nat} {tree : Tree} (h : tree.Decodes room) {value : Value} :
    Value.ofTree? room tree = some value ↔ tree.Denotes value := by
  constructor
  · intro hvalue
    exact ⟨room, hvalue⟩
  · rintro ⟨other, hother⟩
    obtain ⟨read, hread⟩ := h
    have hsame := Value.ofTree?_mono (Nat.le_max_left room other) hread
    rw [Value.ofTree?_mono (Nat.le_max_right room other) hother] at hsame
    rw [hread, hsame]

theorem Denotes.unique {tree : Tree} {value other : Value} (h : tree.Denotes value)
    (hother : tree.Denotes other) : value = other := by
  obtain ⟨room, hvalue⟩ := h
  have hread := (Decodes.ofTree?_iff ⟨value, hvalue⟩).2 hother
  rw [hvalue] at hread
  exact Option.some.inj hread

theorem Decodes.mono {room more : Nat} {tree : Tree} (h : tree.Decodes room) (hle : room ≤ more) :
    tree.Decodes more := by
  obtain ⟨value, hvalue⟩ := h
  exact ⟨value, Value.ofTree?_mono hle hvalue⟩

theorem decodes_array_iff {room : Nat} {elements : List Tree} :
    (array elements).Decodes (room + 1) ↔ ∀ element ∈ elements, element.Decodes room := by
  simp only [Decodes, Value.ofTree?, Value.ofTrees?_eq_mapM, Option.map_eq_some_iff,
    ← exists_mapM_iff]
  constructor
  · rintro ⟨_, values, hvalues, -⟩
    exact ⟨values, hvalues⟩
  · rintro ⟨values, hvalues⟩
    exact ⟨_, values, hvalues, rfl⟩

theorem decodes_object_iff {room : Nat} {members : List (Option String × Tree)} :
    (object members).Decodes (room + 1) ↔ ∀ m ∈ members, m.1.isSome ∧ m.2.Decodes room := by
  have hmember : ∀ m : Option String × Tree,
      (∃ read, Value.ofMember? room m = some read) ↔ m.1.isSome ∧ m.2.Decodes room := by
    rintro ⟨label, tree⟩
    cases label with
    | none => simp [Value.ofMember?]
    | some label => simp [Value.ofMember?, Decodes]
  simp only [← hmember, ← exists_mapM_iff]
  rw [Decodes, Value.ofTree?, Value.ofMembers?_eq_mapM]
  constructor
  · rintro ⟨_, hvalue⟩
    obtain ⟨read, hread, -⟩ := Option.map_eq_some_iff.1 hvalue
    exact ⟨read, hread⟩
  · rintro ⟨read, hread⟩
    exact ⟨_, Option.map_eq_some_iff.2 ⟨read, hread, rfl⟩⟩

theorem mem_of_mem_named {label : String} {members : List (Option String × Tree)} {tree : Tree}
    (h : tree ∈ named label members) : (some label, tree) ∈ members := by
  obtain ⟨⟨name, found⟩, hm, rfl⟩ := List.mem_map.1 h
  obtain ⟨hmem, hname⟩ := List.mem_filter.1 hm
  obtain rfl : name = some label := of_decide_eq_true hname
  exact hmem

/-- The fields of a record that can be read can be read. -/
theorem Decodes.field {room : Nat} {tree part : Tree} {fields : List String} {label : String}
    (h : tree.Decodes (room + 1)) (hpart : tree.field? fields label = some part) :
    part.Decodes room := by
  cases tree with
  | object members =>
      have hmem := mem_of_mem_named (List.mem_of_mem_head? hpart)
      exact (decodes_object_iff.1 h _ hmem).2
  | array elements => exact decodes_array_iff.1 h part (List.mem_of_getElem? hpart)
  | _ => cases hpart

end Tree

end LoadScript.Json
