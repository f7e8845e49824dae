/-!
# Maps that keep the order of their keys

Headers, form fields and variables are maps whose order is shown to the user. An `OrderedMap` is a
list of entries in which no key occurs twice: a key stands where it was first put and holds what was
put last. The view of a map is its list of entries; `keys_insert` and `get?_insert` say what one
insertion does to it.
-/

namespace LoadScript

/-- Puts `value` under `key`: in place of what the key held, or at the end when the key is new. -/
def putEntry {κ α : Type} [DecidableEq κ] (key : κ) (value : α) : List (κ × α) → List (κ × α)
  | [] => [(key, value)]
  | entry :: rest =>
    if entry.1 = key then (key, value) :: rest else entry :: putEntry key value rest

theorem map_fst_putEntry {κ α : Type} [DecidableEq κ] (key : κ) (value : α)
    (entries : List (κ × α)) :
    (putEntry key value entries).map Prod.fst
      = if key ∈ entries.map Prod.fst then entries.map Prod.fst
        else entries.map Prod.fst ++ [key] := by
  induction entries with
  | nil => rfl
  | cons entry rest ih =>
    by_cases h : entry.1 = key
    · simp [putEntry, h]
    · have h' : ¬ key = entry.1 := fun e => h e.symm
      simp only [putEntry, h, if_false, List.map_cons, ih, List.mem_cons, h', false_or]
      split <;> rfl

theorem nodup_putEntry {κ α : Type} [DecidableEq κ] (key : κ) (value : α)
    {entries : List (κ × α)} (h : (entries.map Prod.fst).Nodup) :
    ((putEntry key value entries).map Prod.fst).Nodup := by
  rw [map_fst_putEntry]
  split
  · exact h
  · next hk =>
    refine List.nodup_append.2 ⟨h, by simp, ?_⟩
    intro a ha b hb
    obtain rfl := List.mem_singleton.1 hb
    exact fun e => hk (e ▸ ha)

theorem putEntry_of_not_mem {κ α : Type} [DecidableEq κ] {key : κ} (value : α)
    {entries : List (κ × α)} (h : key ∉ entries.map Prod.fst) :
    putEntry key value entries = entries ++ [(key, value)] := by
  induction entries with
  | nil => rfl
  | cons entry rest ih =>
    rw [List.map_cons, List.mem_cons, not_or] at h
    rw [putEntry, if_neg fun e => h.1 e.symm, ih h.2, List.cons_append]

theorem mem_putEntry {κ α : Type} [DecidableEq κ] {key : κ} {value : α} {entries : List (κ × α)}
    (h : (entries.map Prod.fst).Nodup) {entry : κ × α}
    (hentry : entry ∈ putEntry key value entries) :
    entry = (key, value) ∨ (entry ∈ entries ∧ entry.1 ≠ key) := by
  induction entries with
  | nil => exact Or.inl (List.mem_singleton.1 hentry)
  | cons first rest ih =>
    obtain ⟨hfirst, hrest⟩ := List.nodup_cons.1 h
    rw [putEntry] at hentry
    split at hentry
    · next heq =>
      rcases List.mem_cons.1 hentry with rfl | hmem
      · exact Or.inl rfl
      · refine Or.inr ⟨List.mem_cons_of_mem _ hmem, fun hkey => hfirst ?_⟩
        rw [heq, ← hkey]
        exact List.mem_map_of_mem hmem
    · next hne =>
      rcases List.mem_cons.1 hentry with rfl | hmem
      · exact Or.inr ⟨List.mem_cons_self, hne⟩
      · rcases ih hrest hmem with hput | ⟨hold, hkey⟩
        · exact Or.inl hput
        · exact Or.inr ⟨List.mem_cons_of_mem _ hold, hkey⟩

theorem putEntry_putEntry {κ α : Type} [DecidableEq κ] (key : κ) (value : α)
    (entries : List (κ × α)) :
    putEntry key value (putEntry key value entries) = putEntry key value entries := by
  induction entries with
  | nil => simp [putEntry]
  | cons entry rest ih =>
    by_cases h : entry.1 = key
    · simp [putEntry, h]
    · simp [putEntry, h, ih]

/-- A map from keys to values that remembers in which order its keys first came. -/
@[ext]
structure OrderedMap (κ α : Type) where
  entries : List (κ × α)
  nodup : (entries.map Prod.fst).Nodup
  deriving DecidableEq

namespace OrderedMap

variable {κ α : Type}

def empty : OrderedMap κ α := ⟨[], List.nodup_nil⟩

instance : EmptyCollection (OrderedMap κ α) := ⟨empty⟩

instance : Inhabited (OrderedMap κ α) := ⟨empty⟩

def keys (m : OrderedMap κ α) : List κ := m.entries.map Prod.fst

def size (m : OrderedMap κ α) : Nat := m.entries.length

def isEmpty (m : OrderedMap κ α) : Bool := m.entries.isEmpty

variable [DecidableEq κ]

def get? (m : OrderedMap κ α) (key : κ) : Option α :=
  (m.entries.find? (fun entry => entry.1 = key)).map Prod.snd

/-- The map with `value` under `key`; a key that is there keeps its place. -/
def insert (m : OrderedMap κ α) (key : κ) (value : α) : OrderedMap κ α :=
  ⟨putEntry key value m.entries, nodup_putEntry key value m.nodup⟩

def ofList (entries : List (κ × α)) : OrderedMap κ α :=
  entries.foldl (fun m entry => m.insert entry.1 entry.2) empty

theorem keys_insert (m : OrderedMap κ α) (key : κ) (value : α) :
    (m.insert key value).keys = if key ∈ m.keys then m.keys else m.keys ++ [key] :=
  map_fst_putEntry key value m.entries

theorem insert_insert (m : OrderedMap κ α) (key : κ) (value : α) :
    (m.insert key value).insert key value = m.insert key value :=
  OrderedMap.ext (putEntry_putEntry key value m.entries)

theorem get?_insert (m : OrderedMap κ α) (key : κ) (value : α) (other : κ) :
    (m.insert key value).get? other = if other = key then some value else m.get? other := by
  obtain ⟨entries, nodup⟩ := m
  simp only [get?, insert]
  clear nodup
  induction entries with
  | nil =>
    by_cases h : other = key
    · simp [putEntry, h]
    · have h' : ¬ key = other := fun e => h e.symm
      simp [putEntry, h, h']
  | cons entry rest ih =>
    by_cases he : entry.1 = key
    · by_cases h : other = key
      · simp [putEntry, he, h]
      · have h' : ¬ key = other := fun e => h e.symm
        simp [putEntry, he, h, h']
    · by_cases ho : entry.1 = other
      · have h : ¬ other = key := fun e => he (ho.trans e)
        simp [putEntry, ho, h]
      · simp only [putEntry, he, if_false, List.find?_cons, ho, decide_false]
        exact ih

end OrderedMap

end LoadScript
