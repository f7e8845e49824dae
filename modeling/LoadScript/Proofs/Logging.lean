import LoadScript.Proofs.Execution
import LoadScript.Proofs.LogLine
import LoadScript.Proofs.Repeat

/-!
# Runs and their logs

What a run does, says and leaves does not depend on what is logged of it, and
the log stands in front of all else on the standard error stream. So whoever
takes the log lines out has the same text left, whatever the environment asks
for (`run_alike_but_log`).

What is left are the program's own words. None of their lines begins like a
record of the log, and what a report quotes stands behind other words or is
indented (`free_report`). Only a path with a line feed in it could bring in a
line of its own.

Everything that is reported is information or for debugging. With no filter, or
a blank one, warnings are the least that passes, so there is no log at all.
-/

namespace LoadScript

open Script (not_mem_append)

namespace Log

/-! ## Reports -/

/-- What begins a line, and not in the way of a log line. -/
def Bland (front : List Char) : Prop :=
  '\n' ∉ front ∧ ∀ head ∈ heads, ¬ head.toList <+: front ∧ ¬ front <+: head.toList

instance (front : List Char) : Decidable (Bland front) := inferInstanceAs (Decidable (_ ∧ _))

theorem Bland.append {front more : List Char} (h : Bland front) (hmore : '\n' ∉ more) :
    Bland (front ++ more) := by
  obtain ⟨hfront, hheads⟩ := h
  refine ⟨?_, ?_⟩
  · rw [List.mem_append, not_or]
    exact ⟨hfront, hmore⟩
  · intro head hhead
    obtain ⟨hnot, hbegins⟩ := hheads head hhead
    refine ⟨?_, fun hprefix => hbegins ((List.prefix_append front more).trans hprefix)⟩
    intro hprefix
    rcases List.prefix_or_prefix_of_prefix hprefix (List.prefix_append front more) with h | h
    · exact hnot h
    · exact hbegins h

theorem Bland.free {front : List Char} (h : Bland front) : Free front := by
  refine free_of_not_mem h.1 (List.any_eq_false.2 ?_)
  intro head hhead
  rw [List.isPrefixOf_iff_prefix]
  exact (h.2 head hhead).1

theorem free_hang {indent : String} (hindent : Bland indent.toList) {front : List Char}
    (hfront : Bland front) (text : String) :
    Free (front ++ (Error.hang indent text).toList) := by
  rw [Error.hang, String.toList_ofList]
  -- `front` is what has been read of a line, so it grows until the line feed comes
  induction text.toList generalizing front with
  | nil =>
      rw [List.flatMap_nil, List.append_nil]
      exact hfront.free
  | cons c cs ih =>
      rw [List.flatMap_cons]
      by_cases hc : c = '\n'
      · rw [if_pos hc, hc, List.cons_append, free_append_iff]
        exact ⟨hfront.free, ih hindent⟩
      · have hmore : '\n' ∉ [c] := by
          rw [List.mem_singleton]
          exact Ne.symm hc
        rw [if_neg hc, ← List.append_assoc]
        exact ih (hfront.append hmore)

theorem free_report {context : String} (hcontext : '\n' ∉ context.toList) (error : Error) :
    Free (error.report context).toList := by
  have hcauses : ∀ {causes : List Char}, Free causes →
      Free (("Error: " ++ context ++ "\n\nCaused by:\n").toList ++ causes) := by
    intro causes hfree
    have hlines : ("Error: " ++ context ++ "\n\nCaused by:\n").toList ++ causes
        = ("Error: ".toList ++ context.toList)
          ++ '\n' :: ([] ++ '\n' :: ("Caused by:".toList ++ '\n' :: causes)) := by
      simp
    have hopening : Bland "Error: ".toList := by decide
    have hfirst := hopening.append hcontext
    have hsecond : Bland "Caused by:".toList := by decide
    rw [hlines, free_append_iff, free_append_iff, free_append_iff]
    exact ⟨hfirst.free, free_nil, hsecond.free, hfree⟩
  rw [Error.report, String.toList_append]
  refine hcauses ?_
  cases hsource : error.source? with
  | some source =>
      have hindent : Bland "       ".toList := by decide
      have hzero : Bland "    0: ".toList := by decide
      have hone : Bland "    1: ".toList := by decide
      have hmessage := free_hang hindent hzero error.message
      have hreason := free_hang hindent hone source
      have hboth := free_append_iff.2 ⟨hmessage, free_append_iff.2 ⟨hreason, free_nil⟩⟩
      simpa using hboth
  | none =>
      have hindent : Bland "    ".toList := by decide
      have hmessage := free_hang hindent hindent error.message
      cases error.isOpenEnded with
      | true => simpa using hmessage
      | false =>
          have hended := free_append_iff.2 ⟨hmessage, free_nil⟩
          simpa using hended

theorem free_notice {path : String} (hpath : '\n' ∉ path.toList) :
    Free (writtenNotice false path).toList := by
  have hopening : Bland "✓ Generated k6 script: ".toList := by decide
  have hline := hopening.append hpath
  have hended := free_append_iff.2 ⟨hline.free, free_nil⟩
  rw [writtenNotice, Text.Style.paint]
  simpa using hended

/-! ## What passes when nothing is asked for -/

theorem foldl_better_mem (first : Directive) (rest : List Directive) :
    rest.foldl Directive.better first ∈ first :: rest := by
  induction rest generalizing first with
  | nil => exact List.mem_singleton.2 rfl
  | cons next rest ih =>
      have hbetter : first.better next = first ∨ first.better next = next := by
        rw [Directive.better]
        split
        · exact .inl rfl
        · exact .inr rfl
      rw [List.foldl_cons]
      rcases List.mem_cons.1 (ih (first.better next)) with h | h
      · rw [h]
        rcases hbetter with hfirst | hnext
        · rw [hfirst]
          exact List.mem_cons_self
        · rw [hnext]
          exact List.mem_cons_of_mem _ List.mem_cons_self
      · exact List.mem_cons_of_mem _ (List.mem_cons_of_mem _ h)

theorem mem_of_governing? {filter : Filter} {event : Event} {directive : Directive}
    (h : filter.governing? event = some directive) : directive ∈ filter := by
  rw [Filter.governing?] at h
  split at h
  · cases h
  · next first rest hcovering =>
      have hmem := foldl_better_mem first rest
      rw [Option.some.inj h, ← hcovering] at hmem
      exact (List.mem_filter.1 hmem).1

theorem exists_of_passes {filter : Filter} {event : Event} (h : filter.passes event = true) :
    ∃ directive ∈ filter, ∃ level, directive.level = some level
      ∧ event.level.rank ≤ level.rank := by
  obtain ⟨directive, hgoverning, hlevel⟩ := (Option.any_eq_true _ _).1 h
  obtain ⟨level, hsome, hrank⟩ := (Option.any_eq_true _ _).1 hlevel
  exact ⟨directive, mem_of_governing? hgoverning, level, hsome, of_decide_eq_true hrank⟩

theorem rank_info_le (event : Event) : Level.info.rank ≤ event.level.rank := by
  cases event <;> simp [Event.level, Level.rank]

theorem filter_ofEnvironment {filter : Option String}
    (h : ∀ text ∈ filter, Text.isBlankText text = true) (format : Option String) :
    (Settings.ofEnvironment filter format).filter = defaultFilter := by
  cases filter with
  | none => rfl
  | some text => exact if_pos (h text rfl)

theorem parse?_defaultFilter :
    Filter.parse? defaultFilter = some [⟨"collection2k6", .nothing, some .warn⟩] := by
  decide +kernel

theorem not_passes_default {settings : Settings} (h : settings.filter = defaultFilter)
    (event : Event) : settings.directives.passes event = false := by
  rw [Settings.directives, h, parse?_defaultFilter, Option.getD_some, Bool.eq_false_iff]
  intro hpasses
  obtain ⟨directive, hdirective, level, hlevel, hrank⟩ := exists_of_passes hpasses
  rw [List.mem_singleton.1 hdirective] at hlevel
  rw [← Option.some.inj hlevel] at hrank
  exact absurd ((rank_info_le event).trans hrank) (by decide)

end Log

/-! ## Two runs -/

namespace Environment

variable (environment : Environment)

def settings : Log.Settings :=
  .ofEnvironment environment.logFilter environment.logFormat

/-- The events that are logged of a run. The first one tells the filter itself. -/
def logged (events : List Log.Event) : List Log.Event :=
  (.started environment.settings.filter :: events).filter environment.settings.directives.passes

def records (events : List Log.Event) : List String :=
  (environment.logged events).map (Log.Event.record environment.settings.format)

def OneLine (events : List Log.Event) : Prop :=
  environment.settings.format = .json ∨ (environment.logged events).all Log.Event.isLine = true

instance (events : List Log.Event) : Decidable (environment.OneLine events) :=
  inferInstanceAs (Decidable (_ ∨ _))

/-- No filter is given, or a blank one. -/
def IsQuiet : Prop := ∀ filter ∈ environment.logFilter, Text.isBlankText filter = true

/-- What stands on the standard error stream: the records of the log, and behind them remarks, which
are all that is left without the log. Where every record is one line, its looks are enough to take
the log out. -/
structure Tells (events : List Log.Event) (remarks stderr : String) : Prop where
  said : stderr = String.join ((environment.records events).map (· ++ "\n")) ++ remarks
  logged : ∀ record ∈ environment.records events, Log.isLogLine record.toList = true
  left : environment.OneLine events → Log.withoutLog stderr = Log.withoutLog remarks

variable {environment}

theorem log_eq (report : Report) :
    report.log environment
      = String.join ((environment.records report.events).map (· ++ "\n")) := by
  rw [records, List.map_map]
  rfl

theorem records_eq_nil (h : environment.IsQuiet) (events : List Log.Event) :
    environment.records events = [] := by
  have hnone : environment.logged events = [] := by
    refine List.filter_eq_nil_iff.2 ?_
    intro event _
    have hfilter := Log.filter_ofEnvironment h environment.logFormat
    rw [Environment.settings, Log.not_passes_default hfilter event]
    exact Bool.false_ne_true
  rw [records, hnone, List.map_nil]

theorem tells_log (report : Report) (remarks : String) :
    environment.Tells report.events remarks (report.log environment ++ remarks) where
  said := by rw [log_eq]
  logged := by
    intro record hrecord
    obtain ⟨event, -, rfl⟩ := List.mem_map.1 hrecord
    exact event.isLogLine_record _
  left := by
    intro hline
    rw [log_eq]
    refine Log.withoutLog_join ?_ remarks
    intro record hrecord
    obtain ⟨event, hevent, rfl⟩ := List.mem_map.1 hrecord
    have hformat : environment.settings.format = .json ∨ event.isLine = true :=
      hline.imp_right fun hall => List.all_eq_true.1 hall event hevent
    exact ⟨event.isLogLine_record _, Log.Event.not_mem_record hformat⟩

end Environment

/-- What a command says on the standard error stream besides the log, by its exit code. -/
inductive Remarks (command : Command) : Nat → String → Prop where
  | failed (error : Error) : Remarks command 1 (error.report command.context)
  | written (path : String) : command.output? = some path →
      Remarks command 0 (writtenNotice false path)
  | printed : command.output? = none → Remarks command 0 ""

/-- The paths that remarks can quote in front of a line are written in one line. -/
structure Command.IsLine (command : Command) : Prop where
  context : '\n' ∉ command.context.toList
  output : ∀ path, command.output? = some path → '\n' ∉ path.toList

theorem Remarks.free {command : Command} {exitCode : Nat} {remarks : String}
    (h : Remarks command exitCode remarks) (hline : command.IsLine) : Log.Free remarks.toList := by
  cases h with
  | failed error => exact Log.free_report hline.context error
  | written path hpath => exact Log.free_notice (hline.output path hpath)
  | printed => exact Log.free_nil

theorem Remarks.of_failure {command : Command} {report : Report} {error : Error}
    (hfailure : report.failure = some error) (hstderr : report.stderr = "") :
    Remarks command report.exitCode (report.remarks command.context) := by
  have hremarks : Remarks command 1 (error.report command.context) := .failed error
  simpa [Report.exitCode, Report.remarks, hfailure, hstderr] using hremarks

theorem Command.remarks_execute (command : Command) (files : Files) :
    Remarks command (command.execute false files).1.exitCode
      ((command.execute false files).1.remarks command.context) := by
  cases command with
  | list path =>
      rw [Command.execute, listReport]
      cases (Reader.collection files.read path).outcome with
      | error error => exact .of_failure rfl rfl
      | ok collection => exact .printed rfl
  | convert command =>
      rw [Command.execute]
      generalize hexecute : command.execute false files = executed
      cases ConvertCommand.executes hexecute with
      | failed error => exact .of_failure rfl rfl
      | printed script _ hnone => exact .printed hnone
      | unwritable => exact .of_failure rfl rfl
      | saved script output place _ hsome =>
          have hremarks : Remarks (.convert command) 0 (writtenNotice false output) :=
            .written output hsome
          simpa [Report.exitCode, Report.remarks] using hremarks

/-- Two outcomes that differ at most in the logs that two environments ask for. -/
structure AlikeButLog (first second : Environment) (events : List Log.Event) (remarks : String)
    (one two : Outcome) : Prop where
  exitCode : one.exitCode = two.exitCode
  stdout : one.stdout = two.stdout
  files : one.files = two.files
  first : first.Tells events remarks one.stderr
  second : second.Tells events remarks two.stderr

theorem alikeButLog_run (command : Command) (first second : Environment) (files : Files) :
    AlikeButLog first second (command.execute false files).1.events
      ((command.execute false files).1.remarks command.context)
      (command.run first files) (command.run second files) where
  exitCode := rfl
  stdout := rfl
  files := rfl
  first := first.tells_log _ _
  second := second.tells_log _ _

theorem Environment.IsQuiet.stderr_run {environment : Environment} (h : environment.IsQuiet)
    (command : Command) (files : Files) :
    (command.run environment files).stderr
      = (command.execute false files).1.remarks command.context := by
  have hsaid := (alikeButLog_run command environment environment files).first.said
  rw [Environment.records_eq_nil h] at hsaid
  simpa using hsaid

/-- Whatever two environments ask to be logged, the arguments are refused alike, or there are two
outcomes that differ in their logs only. With no filter or a blank one there are remarks only, and
no line of them is a log line. -/
theorem run_alike_but_log (arguments : List String) (files : Files) :
    (∀ first second,
      (∃ usage, run arguments first files = .error usage
        ∧ run arguments second files = .error usage)
      ∨ ∃ command one two remarks, CommandLine.parse arguments = .ok command
        ∧ run arguments first files = .ok one ∧ run arguments second files = .ok two
        ∧ AlikeButLog first second (command.execute false files).1.events remarks one two
        ∧ Remarks command one.exitCode remarks
        ∧ (command.IsLine → Log.withoutLog remarks = remarks))
    ∧ ∀ environment : Environment, environment.IsQuiet →
        ∀ outcome, run arguments environment files = .ok outcome →
          ∃ command, CommandLine.parse arguments = .ok command
            ∧ Remarks command outcome.exitCode outcome.stderr
            ∧ (command.IsLine → Log.Free outcome.stderr.toList) := by
  constructor
  · intro first second
    cases hparse : CommandLine.parse arguments with
    | error usage =>
        exact .inl ⟨usage, run_of_refused hparse first files, run_of_refused hparse second files⟩
    | ok command =>
        have hremarks := command.remarks_execute files
        exact .inr ⟨command, _, _, _, rfl, run_of_parse hparse first files,
          run_of_parse hparse second files, alikeButLog_run command first second files, hremarks,
          fun hline => (hremarks.free hline).withoutLog_eq⟩
  · intro environment hquiet outcome hrun
    obtain ⟨command, hparse, rfl⟩ := map_eq_ok_iff.1 hrun
    have hremarks : Remarks command (command.run environment files).exitCode
        (command.run environment files).stderr := by
      rw [hquiet.stderr_run]
      exact command.remarks_execute files
    exact ⟨command, hparse, hremarks, hremarks.free⟩

theorem run_alike_but_log_desk :
    (⟨some " ", none⟩ : Environment).IsQuiet ∧ Command.IsLine (.convert deskCommand)
      ∧ ∃ detailed brief quiet,
        run ["convert", "-Oout.js", "c.json"] ⟨some "debug", none⟩ desk = .ok detailed
        ∧ run ["convert", "-Oout.js", "c.json"] ⟨some "info", some "JSON "⟩ desk = .ok brief
        ∧ run ["convert", "-Oout.js", "c.json"] ⟨some " ", none⟩ desk = .ok quiet
        ∧ detailed.exitCode = quiet.exitCode ∧ brief.exitCode = quiet.exitCode
        ∧ Log.withoutLog detailed.stderr = quiet.stderr
        ∧ Log.withoutLog brief.stderr = quiet.stderr := by
  have hparse : CommandLine.parse ["convert", "-Oout.js", "c.json"]
      = .ok (.convert deskCommand) := by decide +kernel
  have hquiet : (⟨some " ", none⟩ : Environment).IsQuiet := by
    intro filter hfilter
    rw [← Option.some.inj hfilter]
    decide
  have hline : Command.IsLine (.convert deskCommand) := by
    refine ⟨by decide, ?_⟩
    intro path hpath
    rw [← Option.some.inj hpath]
    decide
  have hnone : (⟨some " ", none⟩ : Environment).OneLine
      ((Command.convert deskCommand).execute false desk).1.events := by decide +kernel
  obtain ⟨halike, hsilent⟩ := run_alike_but_log ["convert", "-Oout.js", "c.json"] desk
  have hleft : ∀ environment : Environment,
      environment.OneLine ((Command.convert deskCommand).execute false desk).1.events →
      ∃ outcome, run ["convert", "-Oout.js", "c.json"] environment desk = .ok outcome
        ∧ outcome.exitCode
          = (Command.run (.convert deskCommand) ⟨some " ", none⟩ desk).exitCode
        ∧ Log.withoutLog outcome.stderr
          = (Command.run (.convert deskCommand) ⟨some " ", none⟩ desk).stderr := by
    intro environment honeLine
    rcases halike environment ⟨some " ", none⟩ with
      ⟨usage, hrefused, -⟩ | ⟨command, one, two, remarks, hcommand, hone, htwo, hsame, -⟩
    · rw [run_of_parse hparse] at hrefused
      cases hrefused
    · obtain ⟨other, hother, -, hfree⟩ := hsilent _ hquiet two htwo
      rw [hparse] at hcommand hother
      obtain rfl := Except.ok.inj hcommand
      obtain rfl := Except.ok.inj hother
      rw [run_of_parse hparse] at htwo
      obtain rfl := Except.ok.inj htwo
      have hfirst := hsame.first.left honeLine
      have hsecond := hsame.second.left hnone
      exact ⟨one, hone, hsame.exitCode,
        (hfirst.trans hsecond.symm).trans (hfree hline).withoutLog_eq⟩
  obtain ⟨detailed, hdetailed, hcode, hsaid⟩ := hleft ⟨some "debug", none⟩ (by decide +kernel)
  obtain ⟨brief, hbrief, hbriefCode, hbriefSaid⟩ :=
    hleft ⟨some "info", some "JSON "⟩ (by decide +kernel)
  exact ⟨hquiet, hline, detailed, brief, _, hdetailed, hbrief, run_of_parse hparse _ _,
    hcode, hbriefCode, hsaid, hbriefSaid⟩

end LoadScript
