import LoadScript.Document.Basic
import LoadScript.Proofs.Number.ReadBack
import LoadScript.Text.Cut

/-!
# A URL in parts can be told from its text

The text of a URL is its parts with a mark in front of most of them, and reading
it means looking for the marks in a certain order: the first `#`, in front of it
the first `?`, in front of that a protocol, and so on (`SplitUrl.ofChars`). What
is put together from parts that do not contain each other's marks is read as
these parts again, whichever of them are there and whichever are empty
(`text?_split`).

Most parts are behind a mark or absent (`marked`), and there one lemma does the
work (`splitFirst_marked`). The protocol is the exception: it ends with three
characters, and two of them may begin a path, so without a protocol it has to be
shown that no host and port end with a colon (`protocol?_eq_none`).
-/

namespace LoadScript.Document

/-! ## Reading the text of a URL -/

/-- What a text has in front of the first separator, and behind it, if there is one. -/
def splitFirst (separator : Char) (cs : List Char) : List Char × Option (List Char) :=
  (cs.takeWhile (· != separator), (cs.dropWhile (· != separator)).tail?)

/-- The protocol that a text begins with, and what is behind it. No slash may come
before the two that end the protocol. -/
def protocol? : List Char → Option (List Char × List Char)
  | ':' :: '/' :: '/' :: rest => some ([], rest)
  | '/' :: _ => none
  | c :: rest => (protocol? rest).map fun (protocol, rest) => (c :: protocol, rest)
  | [] => none

structure SplitUrl where
  protocol : Option String
  host : String
  port : Option String
  path : String
  /-- The entries of the query, if there is a question mark. -/
  query : Option (List (String × Option String))
  hash : Option String
  deriving DecidableEq, Repr

/-- An entry of a query: a key, and a value if there is an equals sign. -/
def entryOfChars (cs : List Char) : String × Option String :=
  (String.ofList (splitFirst '=' cs).1, (splitFirst '=' cs).2.map String.ofList)

/-- What is in front of the query: a protocol, host and port up to the first slash
behind it, and a path. -/
def SplitUrl.ofFront (query : Option (List (String × Option String))) (hash : Option String)
    (front : List Char) : SplitUrl :=
  let rest := ((protocol? front).map Prod.snd).getD front
  let authority := splitFirst ':' (rest.takeWhile (· != '/'))
  { protocol := (protocol? front).map fun found => String.ofList found.1
    host := String.ofList authority.1
    port := authority.2.map String.ofList
    path := String.ofList (rest.dropWhile (· != '/'))
    query, hash }

def SplitUrl.ofChars (cs : List Char) : SplitUrl :=
  let hashed := splitFirst '#' cs
  let asked := splitFirst '?' hashed.1
  ofFront (asked.2.map fun query => (Text.cutAt '&' query).map entryOfChars)
    (hashed.2.map String.ofList) asked.1

/-- A full URL, and one that is a path only. -/
example : SplitUrl.ofChars "http://h:80/a:b?k=v=w&f#".toList
    = ⟨some "http", "h", some "80", "/a:b", some [("k", some "v=w"), ("f", none)], some ""⟩ := by
  decide +kernel

example : SplitUrl.ofChars "/a://b".toList = ⟨none, "", none, "/a://b", none, none⟩ := by
  decide +kernel

/-! ## Marks found again -/

/-- A part behind its mark, if the part is there. -/
def marked (mark : Char) : Option (List Char) → List Char
  | none => []
  | some part => mark :: part

section Split

variable {separator : Char} {front : List Char}

theorem forall_ne_of_not_mem (h : separator ∉ front) : ∀ c ∈ front, (c != separator) = true := by
  intro c hc
  rw [bne_iff_ne]
  rintro rfl
  exact h hc

/-- In front of the end or of the separator, a text without the separator is taken
whole. -/
theorem span_of_not_mem (h : separator ∉ front) {rest : List Char}
    (hrest : rest = [] ∨ ∃ more, rest = separator :: more) :
    (front ++ rest).takeWhile (· != separator) = front
      ∧ (front ++ rest).dropWhile (· != separator) = rest := by
  have hfront := forall_ne_of_not_mem h
  rw [List.takeWhile_append_of_pos hfront, List.dropWhile_append_of_pos hfront]
  rcases hrest with rfl | ⟨more, rfl⟩
  · simp
  · simp

theorem splitFirst_marked (h : separator ∉ front) (part : Option (List Char)) :
    splitFirst separator (front ++ marked separator part) = (front, part) := by
  cases part with
  | none =>
      obtain ⟨htake, hdrop⟩ := span_of_not_mem h (Or.inl rfl)
      rw [splitFirst, marked, htake, hdrop]
      rfl
  | some part =>
      obtain ⟨htake, hdrop⟩ := span_of_not_mem h (Or.inr ⟨part, rfl⟩)
      rw [splitFirst, marked, htake, hdrop]
      rfl

theorem cutAt_append_cons (h : separator ∉ front) (rest : List Char) :
    Text.cutAt separator (front ++ separator :: rest) = front :: Text.cutAt separator rest := by
  induction front with
  | nil => rw [List.nil_append, Text.cutAt, if_pos rfl]
  | cons c cs ih =>
      rw [List.mem_cons, not_or] at h
      rw [List.cons_append, Text.cutAt, if_neg fun heq => h.1 heq.symm, ih h.2]

theorem cutAt_of_not_mem (h : separator ∉ front) : Text.cutAt separator front = [front] := by
  induction front with
  | nil => rfl
  | cons c cs ih =>
      rw [List.mem_cons, not_or] at h
      rw [Text.cutAt, if_neg fun heq => h.1 heq.symm, ih h.2]

/-- Pieces without the separator are found again between separators. -/
theorem cutAt_intercalate {pieces : List (List Char)} (hne : pieces ≠ [])
    (h : ∀ piece ∈ pieces, separator ∉ piece) :
    Text.cutAt separator ([separator].intercalate pieces) = pieces := by
  induction pieces with
  | nil => exact absurd rfl hne
  | cons piece rest ih =>
      obtain ⟨hpiece, hrest⟩ := List.forall_mem_cons.1 h
      cases rest with
      | nil => rw [List.intercalate_singleton, cutAt_of_not_mem hpiece]
      | cons next more =>
          rw [List.intercalate_cons_cons, List.append_assoc, List.singleton_append,
            cutAt_append_cons hpiece, ih (by simp) hrest]

end Split

theorem protocol?_append {protocol : List Char} (h : '/' ∉ protocol) (rest : List Char) :
    protocol? (protocol ++ ':' :: '/' :: '/' :: rest) = some (protocol, rest) := by
  induction protocol with
  | nil => rfl
  | cons c cs ih =>
      rw [List.mem_cons, not_or] at h
      rw [List.cons_append, protocol?.eq_def]
      split
      · next heq =>
          -- the colon of the protocol would have to stand in front of a slash
          cases cs with
          | nil => simp at heq
          | cons d ds =>
              simp only [List.cons_append, List.cons.injEq] at heq
              exact absurd (List.mem_cons.2 (Or.inl heq.2.1.symm)) h.2
      · next heq => exact absurd (List.cons.inj heq).1.symm h.1
      · next heq =>
          obtain ⟨rfl, rfl⟩ := List.cons.inj heq
          rw [ih h.2]
          rfl
      · next heq => cases heq

/-- There is no protocol in a text without slashes that does not end with a colon,
nor in a path behind it. -/
theorem protocol?_eq_none {front rest : List Char} (h : '/' ∉ front)
    (hlast : front.getLast? ≠ some ':') (hrest : rest = [] ∨ ∃ more, rest = '/' :: more) :
    protocol? (front ++ rest) = none := by
  induction front with
  | nil =>
      rcases hrest with rfl | ⟨more, rfl⟩
      · rfl
      · rfl
  | cons c cs ih =>
      rw [List.mem_cons, not_or] at h
      rw [List.cons_append, protocol?.eq_def]
      split
      · next heq =>
          obtain ⟨rfl, htail⟩ := List.cons.inj heq
          cases cs with
          | nil => exact absurd rfl hlast
          | cons d ds =>
              rw [List.cons_append] at htail
              exact absurd (List.mem_cons.2 (Or.inl (List.cons.inj htail).1.symm)) h.2
      · rfl
      · next heq =>
          obtain ⟨rfl, rfl⟩ := List.cons.inj heq
          have hcs : cs.getLast? ≠ some ':' := by
            cases cs with
            | nil => exact nofun
            | cons d ds => rwa [List.getLast?_cons_cons] at hlast
          rw [ih h.2 hcs]
          rfl
      · rfl

/-! ## The parts that a text is put together from -/

/-- A path with a slash in front, where one is missing. An empty path needs none. -/
def slashed (path : String) : String :=
  if path = "" then "" else if path.toList.head? = some '/' then path else "/" ++ path

def entryChars (entry : String × Option String) : List Char :=
  entry.1.toList ++ marked '=' (entry.2.map String.toList)

/-- The query as it stands in a URL behind its mark; none without entries. -/
def queryChars? (entries : List (String × Option String)) : Option (List Char) :=
  if entries.isEmpty then none else some (['&'].intercalate (entries.map entryChars))

def protocolChars : Option String → List Char
  | none => []
  | some protocol => protocol.toList ++ [':', '/', '/']

theorem toList_slashed (path : String) :
    (slashed path).toList = [] ∨ ∃ more, (slashed path).toList = '/' :: more := by
  unfold slashed
  split
  · exact Or.inl rfl
  · split
    · next hslash =>
        cases hpath : path.toList with
        | nil => rw [hpath] at hslash; cases hslash
        | cons c cs =>
            rw [hpath, List.head?_cons] at hslash
            exact Or.inr ⟨cs, by rw [Option.some.inj hslash]⟩
    · exact Or.inr ⟨path.toList, by simp⟩

theorem not_mem_slashed {c : Char} (hslash : c ≠ '/') {path : String} (h : c ∉ path.toList) :
    c ∉ (slashed path).toList := by
  unfold slashed
  split
  · simp
  · split
    · exact h
    · simp [hslash, h]

namespace UrlParts

/-- The entries of a query that stand in the URL, by key and value: those that are
switched on and have a key. -/
def listed (parts : UrlParts) : List (String × Option String) :=
  (parts.query.filter fun entry => !entry.disabled).filterMap fun entry =>
    entry.key.map fun key => (key, entry.value)

/-- The parts that the text of a URL is expected to show. -/
def shown (parts : UrlParts) : SplitUrl where
  protocol := parts.protocol
  host := parts.hostText
  port := parts.portText?
  path := slashed parts.pathText
  query := if parts.listed.isEmpty then none else some parts.listed
  hash := parts.hash

/-- Parts that have to be put together, and in which no mark is found that stands for
the beginning of another part. -/
structure Separable (parts : UrlParts) : Prop where
  raw : parts.raw = none ∨ parts.raw = some ""
  place : parts.hostText ≠ "" ∨ parts.pathText ≠ ""
  protocol : ∀ protocol ∈ parts.protocol, ∀ c ∈ [':', '/', '?', '#'], c ∉ protocol.toList
  host : ∀ c ∈ [':', '/', '?', '#'], c ∉ parts.hostText.toList
  port : ∀ port ∈ parts.portText?, ∀ c ∈ [':', '/', '?', '#'], c ∉ port.toList
  path : ∀ c ∈ ['?', '#'], c ∉ parts.pathText.toList
  keys : ∀ entry ∈ parts.query, entry.disabled = false → ∀ key ∈ entry.key,
    ∀ c ∈ ['#', '&', '='], c ∉ key.toList
  values : ∀ entry ∈ parts.query, entry.disabled = false → ∀ value ∈ entry.value,
    ∀ c ∈ ['#', '&'], c ∉ value.toList

/-! ## A text read back -/

theorem map_toList_queryTexts (parts : UrlParts) :
    parts.queryTexts.map String.toList = parts.listed.map entryChars := by
  have hentry : ∀ entry : QueryEntry, entry.text?.map String.toList
      = (entry.key.map fun key => (key, entry.value)).map entryChars := by
    rintro ⟨key, value, disabled⟩
    cases key with
    | none => rfl
    | some key => cases value <;> simp [QueryEntry.text?, entryChars, marked]
  rw [queryTexts, listed, List.map_filterMap, List.map_filterMap]
  simp only [hentry]

theorem assemble?_eq {parts : UrlParts} (h : parts.hostText ≠ "" ∨ parts.pathText ≠ "") :
    ∃ text, parts.assemble? = some text
      ∧ text.toList = protocolChars parts.protocol
          ++ (parts.hostText.toList ++ marked ':' (parts.portText?.map String.toList)
            ++ (slashed parts.pathText).toList)
          ++ marked '?' (queryChars? parts.listed) ++ marked '#' (parts.hash.map String.toList) := by
  have hplace : ¬ (parts.hostText = "" ∧ parts.pathText = "") := fun hboth =>
    h.elim (· hboth.1) (· hboth.2)
  have hempty : parts.queryTexts.isEmpty = parts.listed.isEmpty := by
    have hmap := congrArg List.isEmpty parts.map_toList_queryTexts
    rwa [List.isEmpty_map, List.isEmpty_map] at hmap
  have hquery : (if parts.queryTexts.isEmpty then ""
      else "?" ++ "&".intercalate parts.queryTexts).toList
        = marked '?' (queryChars? parts.listed) := by
    rw [hempty, queryChars?]
    split
    · rfl
    · rw [String.toList_append, String.toList_intercalate, map_toList_queryTexts]
      rfl
  refine ⟨_, if_neg hplace, ?_⟩
  simp only [String.toList_append, hquery]
  cases parts.protocol <;> cases parts.portText? <;> cases parts.hash <;>
    simp [protocolChars, marked, slashed]

end UrlParts

theorem not_mem_marked {c mark : Char} (hmark : c ≠ mark) {part : Option (List Char)}
    (h : ∀ cs ∈ part, c ∉ cs) : c ∉ marked mark part := by
  cases part with
  | none => exact List.not_mem_nil
  | some cs => exact List.not_mem_cons_of_ne_of_not_mem hmark (h cs rfl)

theorem not_mem_protocolChars {c : Char} (hends : c ∉ [':', '/', '/']) {protocol : Option String}
    (h : ∀ text ∈ protocol, c ∉ text.toList) : c ∉ protocolChars protocol := by
  cases protocol with
  | none => exact List.not_mem_nil
  | some text =>
      rw [protocolChars, List.mem_append, not_or]
      exact ⟨h text rfl, hends⟩

theorem not_mem_pieces {c separator : Char} (hsep : c ≠ separator) {pieces : List (List Char)}
    (h : ∀ piece ∈ pieces, c ∉ piece) : c ∉ [separator].intercalate pieces := by
  induction pieces with
  | nil => simp
  | cons piece rest ih =>
      obtain ⟨hpiece, hrest⟩ := List.forall_mem_cons.1 h
      cases rest with
      | nil => rwa [List.intercalate_singleton]
      | cons next more =>
          rw [List.intercalate_cons_cons, List.mem_append, List.mem_append, not_or, not_or]
          exact ⟨⟨hpiece, by simpa using hsep⟩, ih hrest⟩

/-- Protocol, host, port and path are read back where none of them has the mark of
another in it. -/
theorem ofFront_eq {protocol port : Option String} {host path : String}
    (hprotocol : ∀ text ∈ protocol, '/' ∉ text.toList) (hcolon : ':' ∉ host.toList)
    (hslash : '/' ∉ host.toList)
    (hport : ∀ text ∈ port, text ≠ "" ∧ ':' ∉ text.toList ∧ '/' ∉ text.toList)
    (hpath : path.toList = [] ∨ ∃ more, path.toList = '/' :: more)
    (query : Option (List (String × Option String))) (hash : Option String) :
    SplitUrl.ofFront query hash
        (protocolChars protocol
          ++ (host.toList ++ marked ':' (port.map String.toList) ++ path.toList))
      = ⟨protocol, host, port, path, query, hash⟩ := by
  have hauthority : '/' ∉ host.toList ++ marked ':' (port.map String.toList) := by
    rw [List.mem_append, not_or]
    refine ⟨hslash, not_mem_marked (by decide) ?_⟩
    cases port with
    | none => exact nofun
    | some text => simpa using (hport text rfl).2.2
  have hlast : (host.toList ++ marked ':' (port.map String.toList)).getLast? ≠ some ':' := by
    cases port with
    | none =>
        rw [Option.map_none, marked, List.append_nil]
        exact fun heq => hcolon (List.mem_of_getLast? heq)
    | some text =>
        -- behind the colon stands the port, which is not empty and has no colon
        obtain ⟨hfull, hno, -⟩ := hport text rfl
        obtain ⟨c, cs, htext⟩ := List.exists_cons_of_ne_nil
          (fun hnil => hfull (String.toList_eq_nil_iff.1 hnil))
        have hend : (host.toList ++ ':' :: c :: cs).getLast? = (c :: cs).getLast? := by
          rw [List.getLast?_append, List.getLast?_cons_cons, List.getLast?_cons]
          rfl
        rw [htext] at hno
        rw [Option.map_some, marked, htext, hend]
        exact fun heq => hno (List.mem_of_getLast? heq)
  have hfound : protocol? (protocolChars protocol
        ++ (host.toList ++ marked ':' (port.map String.toList) ++ path.toList))
      = protocol.map fun text =>
          (text.toList, host.toList ++ marked ':' (port.map String.toList) ++ path.toList) := by
    cases protocol with
    | none =>
        rw [protocolChars, List.nil_append, protocol?_eq_none hauthority hlast hpath]
        rfl
    | some text =>
        rw [protocolChars, List.append_assoc]
        exact protocol?_append (hprotocol text rfl) _
  obtain ⟨htake, hdrop⟩ := span_of_not_mem hauthority hpath
  have hrest : ((protocol.map fun text => (text.toList,
        host.toList ++ marked ':' (port.map String.toList) ++ path.toList)).map Prod.snd).getD
          (protocolChars protocol
            ++ (host.toList ++ marked ':' (port.map String.toList) ++ path.toList))
      = host.toList ++ marked ':' (port.map String.toList) ++ path.toList := by
    cases protocol with
    | none => rfl
    | some text => rfl
  rw [SplitUrl.ofFront, hfound, hrest, htake, hdrop, splitFirst_marked hcolon]
  simp only [Option.map_map, Function.comp_def, String.ofList_toList, Option.map_id']

theorem number_text_ne_empty (number : Json.Number) : number.text ≠ "" := by
  intro heq
  have hchars : number.numeral.chars = [] := by
    rw [Json.chars_numeral, ← String.ofList_eq_empty_iff]
    exact heq
  rw [Json.Numeral.chars, List.append_eq_nil_iff, List.append_eq_nil_iff,
    List.append_eq_nil_iff] at hchars
  exact (Json.numeral_wellFormed number).whole.1 hchars.1.1.2

theorem entryOfChars_entryChars {entry : String × Option String} (h : '=' ∉ entry.1.toList) :
    entryOfChars (entryChars entry) = entry := by
  rw [entryOfChars, entryChars, splitFirst_marked h]
  simp

namespace UrlParts

variable {parts : UrlParts}

theorem mem_listed {entry : String × Option String} (h : entry ∈ parts.listed) :
    ∃ recorded ∈ parts.query, recorded.disabled = false ∧ recorded.key = some entry.1
      ∧ recorded.value = entry.2 := by
  obtain ⟨recorded, hmem, hentry⟩ := List.mem_filterMap.1 h
  obtain ⟨hquery, henabled⟩ := List.mem_filter.1 hmem
  obtain ⟨key, hkey, rfl⟩ := Option.map_eq_some_iff.1 hentry
  exact ⟨recorded, hquery, by simpa using henabled, hkey, rfl⟩

section Separable

variable (h : parts.Separable)
include h

theorem Separable.not_mem_entryChars {c : Char} (hc : c ∈ ['#', '&']) {entry : String × Option String}
    (hentry : entry ∈ parts.listed) : c ∉ entryChars entry := by
  obtain ⟨recorded, hquery, henabled, hkey, hvalue⟩ := mem_listed hentry
  have hkeys := h.keys recorded hquery henabled entry.1 hkey
  have hvalues := h.values recorded hquery henabled
  rw [entryChars, List.mem_append, not_or]
  have hequals : c ≠ '=' := by
    rintro rfl
    exact absurd hc (by decide)
  refine ⟨hkeys c ?_, not_mem_marked hequals fun cs hcs => ?_⟩
  · exact List.mem_of_mem_take (i := 2) hc
  · obtain ⟨value, hsome, rfl⟩ := Option.map_eq_some_iff.1 hcs
    exact hvalues value (hvalue.trans hsome) c hc

/-- A mark that is not one of the marks in front is in none of the parts in front of
the query. -/
theorem Separable.not_mem_front {c : Char} (hc : c ∈ ['?', '#']) :
    c ∉ protocolChars parts.protocol
        ++ (parts.hostText.toList ++ marked ':' (parts.portText?.map String.toList)
          ++ (slashed parts.pathText).toList) := by
  have hmark : c ∈ [':', '/', '?', '#'] := List.mem_of_mem_drop (i := 2) hc
  have hother : c ≠ ':' ∧ c ≠ '/' := by
    constructor
    · rintro rfl
      exact absurd hc (by decide)
    · rintro rfl
      exact absurd hc (by decide)
  have hprotocol : c ∉ protocolChars parts.protocol :=
    not_mem_protocolChars (by simp [hother.1, hother.2])
      fun text htext => h.protocol text htext c hmark
  have hport : c ∉ marked ':' (parts.portText?.map String.toList) := by
    refine not_mem_marked hother.1 fun cs hcs => ?_
    obtain ⟨port, hsome, rfl⟩ := Option.map_eq_some_iff.1 hcs
    exact h.port port hsome c hmark
  have hpath : c ∉ (slashed parts.pathText).toList := not_mem_slashed hother.2 (h.path c hc)
  rw [List.mem_append, List.mem_append, List.mem_append, not_or, not_or, not_or]
  exact ⟨hprotocol, ⟨h.host c hmark, hport⟩, hpath⟩

theorem Separable.not_mem_query : '#' ∉ marked '?' (queryChars? parts.listed) := by
  refine not_mem_marked (by decide) fun cs hcs => ?_
  unfold queryChars? at hcs
  split at hcs
  · cases hcs
  · obtain rfl := Option.some.inj hcs
    refine not_mem_pieces (by decide) fun piece hpiece => ?_
    obtain ⟨entry, hentry, rfl⟩ := List.mem_map.1 hpiece
    exact h.not_mem_entryChars (by decide) hentry

/-- The entries of a query are read back, each with its value or without one. -/
theorem Separable.query_eq :
    (queryChars? parts.listed).map (fun query => (Text.cutAt '&' query).map entryOfChars)
      = if parts.listed.isEmpty then none else some parts.listed := by
  unfold queryChars?
  split
  · rfl
  · next hfull =>
      have hpieces : ∀ piece ∈ parts.listed.map entryChars, '&' ∉ piece := by
        intro piece hpiece
        obtain ⟨entry, hentry, rfl⟩ := List.mem_map.1 hpiece
        exact h.not_mem_entryChars (by decide) hentry
      have hentries : ∀ entry ∈ parts.listed, (entryOfChars ∘ entryChars) entry = entry := by
        intro entry hentry
        obtain ⟨recorded, hquery, henabled, hkey, -⟩ := mem_listed hentry
        exact entryOfChars_entryChars (h.keys recorded hquery henabled entry.1 hkey '=' (by decide))
      rw [Option.map_some, cutAt_intercalate (by simpa using hfull) hpieces, List.map_map,
        List.map_congr_left hentries, List.map_id']

end Separable

theorem portText?_ne_empty {port : String} (h : parts.portText? = some port) : port ≠ "" := by
  unfold portText? at h
  split at h
  · split at h
    · cases h
    · next hfull => rwa [← Option.some.inj h]
  · next number _ =>
      rw [← Option.some.inj h]
      exact number_text_ne_empty number
  · cases h

/-- A port is there if it is recorded as a number, or as a text that is not empty. -/
theorem portText?_eq_none_iff : parts.portText? = none ↔
    ∀ port ∈ parts.port, (∀ text, port = .string text → text = "") ∧ ∀ n, port ≠ .number n := by
  unfold portText?
  cases parts.port with
  | none => simp
  | some port => cases port <;> simp

/-- The URL that is put together from parts shows these parts: read in the usual way,
its text has the protocol, the host, the port, the path with a slash in front, the
entries of the query that are switched on and have a key, and the hash, each of
them there or not and empty or not as it was recorded. -/
theorem text?_split (h : parts.Separable) :
    ∃ text, (Url.structured parts).text? = some text ∧ SplitUrl.ofChars text.toList = parts.shown
      ∧ (parts.portText? = none ↔ ∀ port ∈ parts.port,
          (∀ text, port = .string text → text = "") ∧ ∀ n, port ≠ .number n) := by
  obtain ⟨text, htext, hchars⟩ := assemble?_eq h.place
  have hurl : (Url.structured parts).text? = parts.assemble? := by
    rw [Url.text?]
    rcases h.raw with hraw | hraw
    · rw [hraw]
    · rw [hraw]
      rfl
  refine ⟨text, hurl.trans htext, ?_, portText?_eq_none_iff⟩
  have hhash : '#' ∉ protocolChars parts.protocol
      ++ (parts.hostText.toList ++ marked ':' (parts.portText?.map String.toList)
        ++ (slashed parts.pathText).toList) ++ marked '?' (queryChars? parts.listed) := by
    rw [List.mem_append, not_or]
    exact ⟨h.not_mem_front (by decide), h.not_mem_query⟩
  have hfront := ofFront_eq (fun text htext => h.protocol text htext '/' (by decide))
    (h.host ':' (by decide)) (h.host '/' (by decide))
    (fun port hport => ⟨portText?_ne_empty hport, h.port port hport ':' (by decide),
      h.port port hport '/' (by decide)⟩)
    (toList_slashed parts.pathText)
  rw [hchars, SplitUrl.ofChars, splitFirst_marked hhash,
    splitFirst_marked (h.not_mem_front (by decide)), h.query_eq, hfront, shown]
  simp only [Option.map_map, Function.comp_def, String.ofList_toList, Option.map_id']

/-- A host in three labels, a protocol and a hash that are empty, a value that is empty
and one that is absent, and a key that is empty. -/
def sparse : UrlParts where
  raw := some ""
  protocol := some ""
  host := some (.list ["api", "a", "test"])
  port := some (.number (.integer 8080 (by decide)))
  path := some (.list ["a:b", "", "c=d"])
  query := [⟨some "k", some "", false⟩, ⟨some "off", none, true⟩, ⟨none, some "lost", false⟩,
    ⟨some "", none, false⟩, ⟨some "v", some "a=b?", false⟩]
  hash := some ""

theorem separable_sparse : sparse.Separable := by
  have hhost : sparse.hostText = "api.a.test" := by decide +kernel
  have hport : sparse.portText? = some "8080" := by decide +kernel
  have hpath : sparse.pathText = "a:b//c=d" := by decide +kernel
  exact {
    raw := Or.inr rfl
    place := Or.inr (by simp [hpath])
    protocol := by simp [sparse]
    host := by simp [hhost]
    port := by simp [hport]
    path := by simp [hpath]
    keys := by simp [sparse]
    values := by simp [sparse] }

theorem text?_split_sparse :
    sparse.Separable ∧ ∃ text, (Url.structured sparse).text? = some text
      ∧ SplitUrl.ofChars text.toList
        = ⟨some "", "api.a.test", some "8080", "/a:b//c=d",
            some [("k", some ""), ("", none), ("v", some "a=b?")], some ""⟩ := by
  obtain ⟨text, htext, hsplit, -⟩ := text?_split separable_sparse
  refine ⟨separable_sparse, text, htext, hsplit.trans ?_⟩
  decide +kernel

end UrlParts

end LoadScript.Document
