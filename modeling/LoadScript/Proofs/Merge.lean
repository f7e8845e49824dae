import LoadScript.OrderedMap
import Mathlib.Data.List.Induction

/-!
# Entries merged by their keys

Entries put into an ordered map one after another are merged where their keys
are equal. What is left of a list of entries is said here in two facts: a key
stands once, where it first stood in the list, and it has the value that it
last had there (`Merges`). The two facts leave no choice (`Merges.unique`), they
carry over from a list to the list with one more entry (`Merges.put`), and so
they hold of the map that a list is made into (`merges_ofList`). Entries with
keys of their own are not changed by merging (`Merges.eq_self`).
-/

namespace LoadScript

variable {κ α : Type}

/-- The last entry of its key. -/
def LastOf (entries : List (κ × α)) (entry : κ × α) : Prop :=
  ∃ front back, entries = front ++ entry :: back ∧ entry.1 ∉ back.map Prod.fst

theorem LastOf.unique {entries : List (κ × α)} {entry other : κ × α}
    (h : LastOf entries entry) (hother : LastOf entries other) (hkey : entry.1 = other.1) :
    entry = other := by
  obtain ⟨front, back, rfl, hback⟩ := h
  obtain ⟨before, after, hsplit, hafter⟩ := hother
  rcases List.append_eq_append_iff.1 hsplit with ⟨more, -, hmore⟩ | ⟨more, -, hmore⟩
  · cases more with
    | nil => exact (List.cons.inj hmore).1
    | cons first more =>
        -- the other entry stands behind this one
        have hrest : back = more ++ other :: after := (List.cons.inj hmore).2
        refine absurd ?_ hback
        rw [hrest, hkey]
        simp
  · cases more with
    | nil => exact (List.cons.inj hmore).1.symm
    | cons first more =>
        have hrest : after = more ++ entry :: back := (List.cons.inj hmore).2
        refine absurd ?_ hafter
        rw [hrest, ← hkey]
        simp

theorem LastOf.append {entries : List (κ × α)} {entry added : κ × α} (h : LastOf entries entry)
    (hkey : entry.1 ≠ added.1) : LastOf (entries ++ [added]) entry := by
  obtain ⟨front, back, rfl, hback⟩ := h
  refine ⟨front, back ++ [added], by simp, ?_⟩
  rw [List.map_append, List.mem_append, not_or]
  exact ⟨hback, by simpa using hkey⟩

theorem lastOf_append (entries : List (κ × α)) (added : κ × α) :
    LastOf (entries ++ [added]) added :=
  ⟨entries, [], rfl, by simp⟩

/-- Where keys do not repeat, each entry is the last of its key. -/
theorem lastOf_of_nodup {entries : List (κ × α)} (h : (entries.map Prod.fst).Nodup)
    {entry : κ × α} (hentry : entry ∈ entries) : LastOf entries entry := by
  obtain ⟨front, back, rfl⟩ := List.append_of_mem hentry
  refine ⟨front, back, rfl, ?_⟩
  rw [List.map_append, List.map_cons] at h
  exact (List.nodup_cons.1 (List.nodup_append.1 h).2.1).1

theorem eq_of_lastOf {entries out other : List (κ × α)}
    (hkeys : out.map Prod.fst = other.map Prod.fst) (hout : ∀ entry ∈ out, LastOf entries entry)
    (hother : ∀ entry ∈ other, LastOf entries entry) : out = other := by
  induction out generalizing other with
  | nil => exact (List.map_eq_nil_iff.1 hkeys.symm).symm
  | cons entry rest ih =>
      cases other with
      | nil => exact absurd hkeys (by simp)
      | cons first more =>
          obtain ⟨hkey, hrest⟩ := List.cons.inj hkeys
          have hhead : entry = first :=
            (hout entry List.mem_cons_self).unique (hother first List.mem_cons_self) hkey
          have htail : rest = more :=
            ih hrest (fun e he => hout e (List.mem_cons_of_mem _ he))
              fun e he => hother e (List.mem_cons_of_mem _ he)
          rw [hhead, htail]

variable [DecidableEq κ]

/-- `out` is what is left of `entries` when entries with the same key are merged. -/
structure Merges (entries out : List (κ × α)) : Prop where
  /-- Each key stands where it first stood. -/
  keys : out.map Prod.fst = (entries.map Prod.fst).eraseDups
  /-- A key has the value that it last had. -/
  last : ∀ entry ∈ out, LastOf entries entry

theorem Merges.unique {entries out other : List (κ × α)} (h : Merges entries out)
    (hother : Merges entries other) : out = other :=
  eq_of_lastOf (h.keys.trans hother.keys.symm) h.last hother.last

/-- The last entry of a key is what is left of its key. -/
theorem Merges.mem_iff {entries out : List (κ × α)} (h : Merges entries out) {entry : κ × α}
    (hlast : LastOf entries entry) {value : α} : (entry.1, value) ∈ out ↔ value = entry.2 := by
  constructor
  · intro hmem
    exact congrArg Prod.snd ((h.last _ hmem).unique hlast rfl)
  · rintro rfl
    have hkey : entry.1 ∈ out.map Prod.fst := by
      obtain ⟨front, back, rfl, -⟩ := hlast
      rw [h.keys, List.mem_eraseDups]
      simp
    obtain ⟨other, hother, hsame⟩ := List.mem_map.1 hkey
    rwa [(h.last other hother).unique hlast hsame] at hother

theorem eraseDups_of_nodup {keys : List κ} (h : keys.Nodup) : keys.eraseDups = keys := by
  induction keys with
  | nil => rfl
  | cons key rest ih =>
      obtain ⟨hkey, hrest⟩ := List.nodup_cons.1 h
      have hfilter : rest.filter (fun other => !other == key) = rest := by
        rw [List.filter_eq_self]
        intro other hother
        have hne : other ≠ key := fun e => hkey (e ▸ hother)
        simpa using hne
      rw [List.eraseDups_cons, hfilter, ih hrest]

theorem Merges.eq_self {entries out : List (κ × α)} (h : Merges entries out)
    (hkeys : (entries.map Prod.fst).Nodup) : out = entries :=
  h.unique ⟨(eraseDups_of_nodup hkeys).symm, fun _ hentry => lastOf_of_nodup hkeys hentry⟩

theorem Merges.put {entries : List (κ × α)} {m : OrderedMap κ α} (h : Merges entries m.entries)
    (key : κ) (value : α) :
    Merges (entries ++ [(key, value)]) (m.insert key value).entries where
  keys := by
    have hmem : key ∈ m.entries.map Prod.fst ↔ key ∈ entries.map Prod.fst := by
      rw [h.keys, List.mem_eraseDups]
    show (putEntry key value m.entries).map Prod.fst = _
    rw [map_fst_putEntry, List.map_append, List.eraseDups_append, ← h.keys]
    -- a key that is there keeps its place, and a new one comes to the end
    by_cases hold : key ∈ entries.map Prod.fst
    · rw [if_pos (hmem.2 hold)]
      simp [List.removeAll, hold]
    · rw [if_neg (mt hmem.1 hold)]
      simp [List.removeAll, hold, List.eraseDups_cons]
  last := by
    intro entry hentry
    rcases mem_putEntry m.nodup hentry with rfl | ⟨hold, hkey⟩
    · exact lastOf_append entries _
    · exact (h.last entry hold).append hkey

/-- A list of entries made into a map is merged. -/
theorem merges_ofList (entries : List (κ × α)) :
    Merges entries (OrderedMap.ofList entries).entries := by
  induction entries using List.reverseRecOn with
  | nil => exact ⟨rfl, fun _ h => absurd h List.not_mem_nil⟩
  | append_singleton entries entry ih =>
      rw [OrderedMap.ofList, List.foldl_append]
      exact ih.put entry.1 entry.2

end LoadScript
