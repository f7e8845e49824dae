import LoadScript.Log.Line
import LoadScript.Proofs.LineBreak
import LoadScript.Proofs.Names
import LoadScript.Proofs.UrlText

/-!
# Log lines among other lines

Log lines in their normal form, without time stamp, padding and colour, are told
by what they begin with (`isLogLine`): a level and a module of the program, or
the fields of a JSON object. Every record of a log begins
like that (`isLogLine_record`), and it is one line as long as no field that is
shown as it is has a line feed (`not_mem_record`); in JSON no field is shown so.

So from a log with something behind it, taking out the log lines leaves what is
left of the rest alone (`withoutLog_join`).
-/

namespace LoadScript

open Script (not_mem_append not_mem_intercalate not_mem_quoted)
open Document (cutAt_of_not_mem)

theorem Text.cutAt_append_separator (separator : Char) (front rest : List Char) :
    cutAt separator (front ++ separator :: rest)
      = cutAt separator front ++ cutAt separator rest := by
  induction front with
  | nil => simp [cutAt]
  | cons c cs ih =>
      rw [List.cons_append, cutAt, cutAt, ih]
      split
      · rfl
      · cases hcut : cutAt separator cs with
        | nil => exact absurd hcut (cutAt_ne_nil separator cs)
        | cons first more => rfl

namespace Log

/-! ## Taking the log out of a text -/

def heads : List String :=
  "\x7b\"fields\":" :: [Level.error, .warn, .info, .debug, .trace].map fun level =>
    level.label ++ " collection2k6::"

/-- Whether a line is a log line in normal form. A line with a time stamp or a colour in
front is not recognised, as `Event.textLine` and `Event.jsonLine` write none. -/
def isLogLine (line : List Char) : Bool := heads.any (·.toList.isPrefixOf line)

/-- A text without those of its lines that are log lines. -/
def withoutLog (text : String) : String :=
  String.ofList (['\n'].intercalate ((Text.cutAt '\n' text.toList).filter (!isLogLine ·)))

/-- No line of a text is a log line. -/
def Free (cs : List Char) : Prop := ∀ line ∈ Text.cutAt '\n' cs, isLogLine line = false

theorem isLogLine_append {head : String} (h : head ∈ heads) (rest : String) :
    isLogLine (head ++ rest).toList = true := by
  have hprefix : head.toList.isPrefixOf (head ++ rest).toList = true := by
    rw [String.toList_append, List.isPrefixOf_iff_prefix]
    exact List.prefix_append _ _
  exact List.any_eq_true.2 ⟨head, h, hprefix⟩

theorem withoutLog_line {line : String} (hlog : isLogLine line.toList = true)
    (hline : '\n' ∉ line.toList) (rest : String) :
    withoutLog (line ++ "\n" ++ rest) = withoutLog rest := by
  have htext : (line ++ "\n" ++ rest).toList = line.toList ++ '\n' :: rest.toList := by
    simp
  rw [withoutLog, htext, Text.cutAt_append_separator, cutAt_of_not_mem hline,
    List.singleton_append, List.filter_cons_of_neg (by simp [hlog]), withoutLog]

theorem withoutLog_join {lines : List String}
    (hlog : ∀ line ∈ lines, isLogLine line.toList = true ∧ '\n' ∉ line.toList) (rest : String) :
    withoutLog (String.join (lines.map (· ++ "\n")) ++ rest) = withoutLog rest := by
  induction lines with
  | nil => simp
  | cons line more ih =>
      obtain ⟨hline, hmore⟩ := List.forall_mem_cons.1 hlog
      rw [List.map_cons, String.join_cons, String.append_assoc, withoutLog_line hline.1 hline.2]
      exact ih hmore

theorem Free.withoutLog_eq {text : String} (h : Free text.toList) : withoutLog text = text := by
  have hkept : (Text.cutAt '\n' text.toList).filter (!isLogLine ·)
      = Text.cutAt '\n' text.toList := by
    refine List.filter_eq_self.2 ?_
    intro line hline
    rw [h line hline]
    rfl
  rw [withoutLog, hkept, Text.intercalate_cutAt, String.ofList_toList]

theorem free_of_not_mem {line : List Char} (h : '\n' ∉ line) (hlog : isLogLine line = false) :
    Free line := by
  rw [Free, cutAt_of_not_mem h, List.forall_mem_singleton]
  exact hlog

theorem free_nil : Free [] := free_of_not_mem List.not_mem_nil rfl

/-- Between two texts a line feed joins no lines. -/
theorem free_append_iff {front rest : List Char} :
    Free (front ++ '\n' :: rest) ↔ Free front ∧ Free rest := by
  rw [Free, Text.cutAt_append_separator, List.forall_mem_append]
  rfl

/-! ## The records of a log -/

/-- Whether a value is written in one line: a text that is shown as it is may have line feeds. -/
def FieldValue.isLine : FieldValue → Bool
  | number _ | quoted _ => true
  | shown value => '\n' ∉ value.toList

namespace Event

def isLine (event : Event) : Bool := event.fields.all (·.2.isLine)

/-- A record of an event, without its end. -/
def record (format : Format) (event : Event) : String :=
  match format with
  | .text => event.textLine
  | .json => event.jsonLine

theorem exists_target (event : Event) : ∃ name, event.target = "collection2k6::" ++ name := by
  cases event with
  | started => exact ⟨"telemetry", rfl⟩
  | enteredFolder | loadedCollection => exact ⟨"loader::collection", rfl⟩
  | loadedVariables | loadedRows | loadedTable => exact ⟨"loader::variables", rfl⟩
  | compiling => exact ⟨"converters::k6", rfl⟩
  | generated => exact ⟨"converters", rfl⟩

theorem sortMembers_line (level target fields : String) :
    Json.sortMembers [("level", level), ("target", target), ("fields", fields)]
      = [("fields", fields), ("level", level), ("target", target)] := by
  have htarget : ¬ "target" < "level" := by decide
  have hfields : "fields" < "level" := by decide
  simp [Json.sortMembers, Json.putMember, htarget, hfields]

theorem exists_head (format : Format) (event : Event) :
    ∃ head ∈ heads, ∃ rest, event.record format = head ++ rest := by
  cases format with
  | text =>
      obtain ⟨name, hname⟩ := event.exists_target
      have hlevel : event.level.label ++ " collection2k6::" ∈ heads := by
        cases event.level <;> simp [heads]
      refine ⟨_, hlevel, name ++ (": " ++ event.message
        ++ String.join (event.fields.map fun field => " " ++ field.1 ++ "=" ++ field.2.text)), ?_⟩
      have hmodule : " collection2k6::" = " " ++ "collection2k6::" := rfl
      simp only [record, textLine, hname, hmodule, String.append_assoc]
  | json =>
      -- sorted by name, the fields come in front of the level and the module
      refine ⟨_, List.mem_cons_self, ?_⟩
      have hopen : "\x7b\"fields\":" = "\x7b" ++ (Json.Value.quoted "fields" ++ ":") := rfl
      simp only [record, jsonLine, objectText, sortMembers_line, List.map_cons, List.map_nil,
        String.intercalate_cons_cons, hopen, String.append_assoc]
      exact ⟨_, rfl⟩

theorem isLogLine_record (format : Format) (event : Event) :
    isLogLine (event.record format).toList = true := by
  obtain ⟨head, hhead, rest, hrecord⟩ := event.exists_head format
  rw [hrecord]
  exact isLogLine_append hhead rest

end Event

/-! ## No line feed within a record -/

theorem not_mem_toDigits {base : Nat} (hbase : 1 < base) (n : Nat) :
    '\n' ∉ Nat.toDigits base n := by
  have hdigit : ∀ d, '\n' ≠ Nat.digitChar d := by
    intro d
    exact (Nat.digitChar_ne '\n' (by decide)).symm
  induction n using Nat.strong_induction_on with
  | _ n ih =>
      rcases Nat.lt_or_ge n base with hlt | hge
      · rw [Nat.toDigits_of_lt_base hlt, List.mem_singleton]
        exact hdigit n
      · have hless : n / base < n := Nat.div_lt_self (by omega) hbase
        rw [Nat.toDigits_of_base_le hbase hge, List.mem_append, List.mem_singleton, not_or]
        exact ⟨ih _ hless, hdigit _⟩

theorem not_mem_toString (n : Nat) : '\n' ∉ (toString n).toList := by
  rw [Nat.toString_eq_ofList_toDigits, String.toList_ofList]
  exact not_mem_toDigits (by decide) n

theorem not_mem_fieldChar (c : Char) : '\n' ∉ fieldChar c := by
  unfold fieldChar
  split
  · decide
  · decide
  · decide
  · decide
  · decide
  · decide
  · next hfeed _ _ _ =>
      split
      · intro hmem
        exact hfeed (List.mem_singleton.1 hmem).symm
      · have hdigits : '\n' ∉ Nat.toDigits 16 c.toNat := not_mem_toDigits (by decide) _
        simp [codeEscape, hdigits]

theorem not_mem_join {texts : List String} (h : ∀ text ∈ texts, '\n' ∉ text.toList) :
    '\n' ∉ (String.join texts).toList := by
  induction texts with
  | nil => simp
  | cons text rest ih =>
      obtain ⟨htext, hrest⟩ := List.forall_mem_cons.1 h
      rw [String.join_cons]
      exact not_mem_append htext (ih hrest)

namespace FieldValue

theorem not_mem_text {value : FieldValue} (h : value.isLine = true) :
    '\n' ∉ value.text.toList := by
  cases value with
  | number n => exact not_mem_toString n
  | shown text => exact of_decide_eq_true h
  | quoted text =>
      have hchars : '\n' ∉ text.toList.flatMap fieldChar := by
        intro hmem
        obtain ⟨c, -, hc⟩ := List.mem_flatMap.1 hmem
        exact not_mem_fieldChar c hc
      simp [FieldValue.text, hchars]

theorem not_mem_jsonText (value : FieldValue) : '\n' ∉ value.jsonText.toList := by
  cases value with
  | number n => exact not_mem_toString n
  | shown text => exact not_mem_quoted (.inl rfl) text
  | quoted text => exact not_mem_quoted (.inl rfl) text

end FieldValue

theorem not_mem_objectText {members : List (String × String)}
    (h : ∀ member ∈ members, '\n' ∉ member.2.toList) : '\n' ∉ (objectText members).toList := by
  rw [objectText]
  refine not_mem_append (not_mem_append (by decide) ?_) (by decide)
  refine not_mem_intercalate (by decide) ?_
  intro text htext
  obtain ⟨member, hmember, rfl⟩ := List.mem_map.1 htext
  refine not_mem_append (not_mem_append (not_mem_quoted (.inl rfl) _) (by decide)) ?_
  exact h member (Json.mem_sortMembers hmember)

namespace Event

theorem not_mem_label (level : Level) : '\n' ∉ level.label.toList := by
  cases level <;> decide

theorem not_mem_words (event : Event) :
    '\n' ∉ event.target.toList ∧ '\n' ∉ event.message.toList
      ∧ ∀ field ∈ event.fields, '\n' ∉ field.1.toList := by
  cases event <;> simp [target, message, fields]

theorem not_mem_textLine {event : Event} (h : event.isLine = true) :
    '\n' ∉ event.textLine.toList := by
  obtain ⟨htarget, hmessage, hnames⟩ := event.not_mem_words
  rw [textLine]
  refine not_mem_append (not_mem_append (not_mem_append (not_mem_append
    (not_mem_append (not_mem_label _) (by decide)) htarget) (by decide)) hmessage) ?_
  refine not_mem_join ?_
  intro text htext
  obtain ⟨field, hfield, rfl⟩ := List.mem_map.1 htext
  exact not_mem_append (not_mem_append (not_mem_append (by decide) (hnames field hfield))
    (by decide)) (FieldValue.not_mem_text (List.all_eq_true.1 h field hfield))

theorem not_mem_jsonLine (event : Event) : '\n' ∉ event.jsonLine.toList := by
  have hquoted : ∀ text, '\n' ∉ (Json.Value.quoted text).toList := not_mem_quoted (.inl rfl)
  have hfields : ∀ member ∈ ("message", Json.Value.quoted event.message)
      :: event.fields.map fun field => (field.1, field.2.jsonText), '\n' ∉ member.2.toList := by
    rw [List.forall_mem_cons]
    refine ⟨hquoted _, ?_⟩
    intro member hmember
    obtain ⟨field, -, rfl⟩ := List.mem_map.1 hmember
    exact field.2.not_mem_jsonText
  refine not_mem_objectText ?_
  simp only [List.forall_mem_cons]
  exact ⟨hquoted _, hquoted _, not_mem_objectText hfields, fun _ h => (List.not_mem_nil h).elim⟩

theorem not_mem_record {format : Format} {event : Event}
    (h : format = .json ∨ event.isLine = true) : '\n' ∉ (event.record format).toList := by
  cases format with
  | text => exact not_mem_textLine (h.resolve_left (by decide))
  | json => exact event.not_mem_jsonLine

end Event

end Log

end LoadScript
