import LoadScript.Proofs.Execution

/-!
# Arguments that spell a conversion

A conversion has a collection and up to four paths for its options, and each of
them can be given in several ways (`Part.Written`) and at any place among the
others. All these command lines are read as the one conversion that they spell.

Arguments are taken from left to right, so the proof follows them: what a part
is written as gives that part (`takeAll_written`), and what has been taken so
far is known by its parts, in whatever order they came (`Given.Holds`). That
order cannot show in the conversion then, which asks each option for its path.
From there the paths are handed on twice before the conversion is executed, and
each stays in its field (`path?_command`).
-/

namespace LoadScript

namespace CommandLine

/-- A path that is taken for a value by its form. -/
def IsPlainPath (path : String) : Prop := path ≠ "" ∧ path.toList.head? ≠ some '-'

instance (path : String) : Decidable (IsPlainPath path) := inferInstanceAs (Decidable (_ ∧ _))

/-- The ways to write a part of a command as arguments. -/
inductive Part.Written : Part → List String → Prop where
  | collection (path : String) : Written (.collection path) [path]
  | letterApart (option : PathOption) (path : String) :
      Written (.path option path) ["-" ++ String.singleton option.letter, path]
  | letterJoined (option : PathOption) (path : String) (h : path.toList.head? ≠ some '=') :
      Written (.path option path) ["-" ++ String.singleton option.letter ++ path]
  | letterEquals (option : PathOption) (path : String) :
      Written (.path option path) ["-" ++ String.singleton option.letter ++ "=" ++ path]
  | nameApart (option : PathOption) (path : String) :
      Written (.path option path) ["--" ++ option.name, path]
  | nameEquals (option : PathOption) (path : String) :
      Written (.path option path) ["--" ++ option.name ++ "=" ++ path]

/-! ## One part -/

theorem ofText_plain {path : String} (h : IsPlainPath path) : Argument.ofText path = .value path := by
  unfold Argument.ofText
  split
  · next htext => exact absurd (congrArg List.head? htext) h.2
  · next htext => exact absurd (congrArg List.head? htext) h.2
  · next htext => exact absurd (congrArg List.head? htext) h.2
  · rfl

theorem ofText_short {text : String} {letter : Char} {attached : List Char}
    (htext : text.toList = '-' :: letter :: attached) (h : letter ≠ '-') :
    Argument.ofText text = .short letter attached := by
  unfold Argument.ofText
  rw [htext]
  split
  · next heq => exact absurd (List.cons.inj (List.cons.inj heq).2).1 h
  · next heq => exact absurd (List.cons.inj (List.cons.inj heq).2).1 h
  · next heq =>
      obtain ⟨rfl, rfl⟩ := List.cons.inj (List.cons.inj heq).2
      rfl
  · next hshort => exact absurd rfl (hshort letter attached)

theorem ofText_long {text : String} {name : List Char} {attached : List Char}
    (htext : text.toList = '-' :: '-' :: (name ++ '=' :: attached)) (h : '=' ∉ name) :
    Argument.ofText text = .long name (some attached) := by
  have hname : ∀ c ∈ name, decide (c ≠ '=') = true := by
    intro c hc
    have hne : c ≠ '=' := fun heq => h (heq ▸ hc)
    exact decide_eq_true hne
  have hspan : (name ++ '=' :: attached).span (· ≠ '=') = (name, '=' :: attached) := by
    rw [List.span_eq_takeWhile_dropWhile, List.takeWhile_append_of_pos hname,
      List.dropWhile_append_of_pos hname]
    simp
  obtain ⟨c, cs, hcons⟩ := List.exists_cons_of_ne_nil (List.append_ne_nil_of_right_ne_nil name
    (List.cons_ne_nil '=' attached))
  rw [hcons] at hspan htext
  simp only [Argument.ofText, htext, hspan]

theorem find?_letter (option : PathOption) :
    (PathOption.all.find? fun other => other.letter = option.letter) = some option := by
  cases option <;> rfl

theorem find?_name (option : PathOption) :
    (PathOption.all.find? fun other => other.name.toList = option.name.toList) = some option := by
  cases option <;> rfl

theorem letter_ne (option : PathOption) : option.letter ≠ '-' ∧ option.letter ≠ 'h' := by
  cases option <;> decide

theorem name_ne (option : PathOption) :
    '=' ∉ option.name.toList ∧ option.name.toList ≠ "help".toList := by
  cases option <;> decide

theorem attachedValue?_path {path : String} (hpath : path ≠ "") :
    attachedValue? ('=' :: path.toList) = some path
      ∧ (path.toList.head? ≠ some '=' → attachedValue? path.toList = some path) := by
  refine ⟨by rw [attachedValue?, String.ofList_toList], fun hhead => ?_⟩
  unfold attachedValue?
  split
  · next hnil => exact absurd (String.toList_eq_nil_iff.1 hnil) hpath
  · next hequals => exact absurd (congrArg List.head? hequals) hhead
  · rw [String.ofList_toList]

theorem part_letter (option : PathOption) (attached : String) :
    Part.ofText PathOption.all ("-" ++ String.singleton option.letter ++ attached)
      = Part.ofOption (some option) (attachedValue? attached.toList) := by
  obtain ⟨hdash, hhelp⟩ := letter_ne option
  have htext : ("-" ++ String.singleton option.letter ++ attached).toList
      = '-' :: option.letter :: attached.toList := by
    simp
  simp only [Part.ofText, ofText_short htext hdash, if_neg hhelp, find?_letter]

theorem part_letterJoined (option : PathOption) {path : String} (hpath : path ≠ "")
    (hhead : path.toList.head? ≠ some '=') :
    Part.ofText PathOption.all ("-" ++ String.singleton option.letter ++ path)
      = .ok (.path option path) := by
  rw [part_letter, (attachedValue?_path hpath).2 hhead]
  rfl

theorem part_letterEquals (option : PathOption) {path : String} (hpath : path ≠ "") :
    Part.ofText PathOption.all ("-" ++ String.singleton option.letter ++ "=" ++ path)
      = .ok (.path option path) := by
  have hattached : ("=" ++ path).toList = '=' :: path.toList := by simp
  rw [String.append_assoc, part_letter, hattached, (attachedValue?_path hpath).1]
  rfl

theorem part_nameEquals (option : PathOption) (path : String) :
    Part.ofText PathOption.all ("--" ++ option.name ++ "=" ++ path) = .ok (.path option path) := by
  obtain ⟨hequals, hhelp⟩ := name_ne option
  have htext : ("--" ++ option.name ++ "=" ++ path).toList
      = '-' :: '-' :: (option.name.toList ++ '=' :: path.toList) := by
    simp
  simp only [Part.ofText, ofText_long htext hequals, if_neg hhelp, find?_name, Option.map_some,
    String.ofList_toList, Part.ofOption]

theorem part_apart (option : PathOption) :
    Part.ofText PathOption.all ("-" ++ String.singleton option.letter) = .ok (.pending option)
      ∧ Part.ofText PathOption.all ("--" ++ option.name) = .ok (.pending option) := by
  cases option <;> exact ⟨rfl, rfl⟩

/-! ## What has been taken -/

def Part.IsPlain : Part → Prop
  | .collection text => IsPlainPath text
  | .path _ text => IsPlainPath text
  | _ => False

namespace Given

def takePart (given : Given) : Part → Except Usage Given
  | .collection text => given.takeCollection text
  | .path option text => given.takePath option text
  | _ => .error .invalid

theorem takeAll_value {text path : String} {option : PathOption}
    (hpart : Part.ofText PathOption.all text = .ok (.pending option)) (hpath : IsPlainPath path)
    (given : Given) (rest : List String) :
    given.takeAll PathOption.all (text :: path :: rest)
      = (given.takePath option path).bind fun taken => taken.takeAll PathOption.all rest := by
  rw [takeAll, hpart]
  simp only [bind, Except.bind, ofText_plain hpath]

theorem takeAll_written {part : Part} {words : List String} (hwritten : part.Written words)
    (hplain : part.IsPlain) (given : Given) (rest : List String) :
    given.takeAll PathOption.all (words ++ rest)
      = (given.takePart part).bind fun taken => taken.takeAll PathOption.all rest := by
  cases hwritten with
  | collection path =>
      have hpart : Part.ofText PathOption.all path = .ok (.collection path) := by
        rw [Part.ofText, ofText_plain hplain]
      exact takeAll_of_collection hpart
  | letterApart option path => exact takeAll_value (part_apart option).1 hplain given rest
  | letterJoined option path hhead => exact takeAll_of_path (part_letterJoined option hplain.1 hhead)
  | letterEquals option path => exact takeAll_of_path (part_letterEquals option hplain.1)
  | nameApart option path => exact takeAll_value (part_apart option).2 hplain given rest
  | nameEquals option path => exact takeAll_of_path (part_nameEquals option path)

theorem path?_append (given : Given) (option other : PathOption) (path : String) :
    Given.path? { given with paths := given.paths ++ [(option, path)] } other
      = (given.path? other).or (if option = other then some path else none) := by
  rw [path?, path?, List.find?_append]
  cases given.paths.find? fun entry => entry.1 = other with
  | some entry => rfl
  | none => by_cases h : option = other <;> simp [h]

/-- The parts are what has been given so far. -/
structure Holds (given : Given) (parts : List Part) : Prop where
  collection : ∀ path, given.collection = some path ↔ .collection path ∈ parts
  path : ∀ option path, given.path? option = some path ↔ .path option path ∈ parts

end Given

/-- The option that a part belongs to; the collection belongs to none. -/
def Part.option? : Part → Option PathOption
  | .path option _ => some option
  | _ => none

namespace Given

variable {given : Given} {taken parts : List Part}

theorem holds_nothing : nothing.Holds [] where
  collection _ := by simp [nothing]
  path _ _ := by simp [nothing, path?]

/-- A part is taken if there is none yet that belongs to the same option. -/
theorem Holds.takePart {part : Part} (h : given.Holds taken) (hplain : part.IsPlain)
    (hfresh : part.option? ∉ taken.map Part.option?) :
    ∃ next, given.takePart part = .ok next ∧ next.Holds (taken ++ [part]) := by
  have hnew : ∀ other ∈ taken, other.option? ≠ part.option? := by
    intro other hother heq
    exact hfresh (heq ▸ List.mem_map_of_mem hother)
  cases part with
  | separator => exact hplain.elim
  | pending option => exact hplain.elim
  | collection path =>
      have hnone : given.collection = none := by
        rw [Option.eq_none_iff_forall_ne_some]
        intro other hother
        exact hnew _ ((h.collection other).1 hother) rfl
      have hfree : ¬ (path = "" ∨ given.collection.isSome) := by simp [hplain.1, hnone]
      refine ⟨{ given with collection := some path }, if_neg hfree, ?_, ?_⟩
      · intro other
        have hother : .collection other ∉ taken := fun hmem => hnew _ hmem rfl
        simp [hother, eq_comm]
      · intro option other
        simp [← h.path, Given.path?]
  | path option path =>
      have hnone : given.path? option = none := by
        rw [Option.eq_none_iff_forall_ne_some]
        intro other hother
        exact hnew _ ((h.path option other).1 hother) rfl
      have hfree : ¬ (path = "" ∨ (given.path? option).isSome) := by simp [hplain.1, hnone]
      refine ⟨{ given with paths := given.paths ++ [(option, path)] }, if_neg hfree, ?_, ?_⟩
      · intro other
        simp [← h.collection]
      · intro other text
        rw [path?_append, List.mem_append, ← h.path, List.mem_singleton]
        by_cases hoption : option = other
        · subst hoption
          simp [hnone, eq_comm]
        · simp [hoption, Ne.symm hoption]

/-- Parts that belong to options of their own are taken from left to right, however each of them is
written. -/
theorem Holds.takeAll {words : List (List String)} (h : given.Holds taken)
    (hwritten : List.Forall₂ Part.Written parts words) (hplain : ∀ part ∈ parts, part.IsPlain)
    (hfresh : ((taken ++ parts).map Part.option?).Nodup) :
    ∃ next, given.takeAll PathOption.all words.flatten = .ok next
      ∧ next.Holds (taken ++ parts) := by
  -- the parts taken so far grow from the left
  induction hwritten generalizing given taken with
  | nil => exact ⟨given, rfl, by rwa [List.append_nil]⟩
  | @cons part texts rest words hpart hrest ih =>
      have hnew : part.option? ∉ taken.map Part.option? := by
        rw [List.map_append, List.nodup_append] at hfresh
        intro hmem
        exact hfresh.2.2 _ hmem _ (by simp) rfl
      obtain ⟨next, htaken, hnext⟩ := h.takePart (hplain part (by simp)) hnew
      obtain ⟨last, hall, hlast⟩ := ih hnext (fun other hother => hplain other (by simp [hother]))
        (by simpa using hfresh)
      refine ⟨last, ?_, by simpa using hlast⟩
      rw [List.flatten_cons, takeAll_written hpart (hplain part (by simp)), htaken]
      exact hall

end Given

end CommandLine

/-- The path that a conversion has for an option. -/
def ConvertCommand.path? (command : ConvertCommand) : CommandLine.PathOption → Option String
  | .globals => command.options.globals
  | .environment => command.options.environment
  | .json => command.options.json
  | .csv => command.options.csv
  | .output => command.output

namespace ConvertArguments

open CommandLine

def path? (arguments : ConvertArguments) : PathOption → Option String
  | .globals => arguments.globals
  | .environment => arguments.environment
  | .json => arguments.json
  | .csv => arguments.csv
  | .output => arguments.output

/-- Every path is handed on in its own field. -/
theorem path?_command (arguments : ConvertArguments) (option : PathOption) :
    arguments.command.path? option = arguments.path? option := by
  cases option <;> rfl

/-- What has to be given for a conversion: its collection, and the path of each option that it
has. -/
def parts (arguments : ConvertArguments) : List Part :=
  .collection arguments.collection
    :: PathOption.all.filterMap fun option => (arguments.path? option).map (Part.path option)

theorem collection_mem_parts {arguments : ConvertArguments} {path : String} :
    .collection path ∈ arguments.parts ↔ arguments.collection = path := by
  simp [parts, eq_comm]

theorem path_mem_parts {arguments : ConvertArguments} {option : PathOption} {path : String} :
    .path option path ∈ arguments.parts ↔ arguments.path? option = some path := by
  have hall : option ∈ PathOption.all := by cases option <;> decide
  simp only [parts, List.mem_cons, List.mem_filterMap, Option.map_eq_some_iff]
  constructor
  · rintro (h | ⟨other, -, text, htext, heq⟩)
    · cases h
    · obtain ⟨rfl, rfl⟩ := Part.path.inj heq
      exact htext
  · intro h
    exact Or.inr ⟨option, hall, path, h, rfl⟩

theorem nodup_parts (arguments : ConvertArguments) :
    (arguments.parts.map Part.option?).Nodup := by
  have hpaths : ∀ options : List PathOption,
      (options.filterMap fun option => (arguments.path? option).map (Part.path option)).map
          Part.option?
        = (options.filter fun option => (arguments.path? option).isSome).map some := by
    intro options
    induction options with
    | nil => rfl
    | cons option rest ih =>
        cases hpath : arguments.path? option with
        | none => simpa [hpath] using ih
        | some path => simpa [hpath, Part.option?] using ih
  have hall : PathOption.all.Nodup := by decide
  rw [parts, List.map_cons, hpaths, List.nodup_cons]
  refine ⟨by simp [Part.option?], (hall.filter _).map (Option.some_injective _)⟩

structure IsPlain (arguments : ConvertArguments) : Prop where
  collection : IsPlainPath arguments.collection
  path : ∀ option path, arguments.path? option = some path → IsPlainPath path

variable {arguments : ConvertArguments}

theorem IsPlain.parts (h : arguments.IsPlain) : ∀ part ∈ arguments.parts, part.IsPlain := by
  intro part hpart
  cases part with
  | collection path =>
      rw [collection_mem_parts] at hpart
      exact hpart ▸ h.collection
  | path option path => exact h.path option path (path_mem_parts.1 hpart)
  | separator => simp [ConvertArguments.parts] at hpart
  | pending option => simp [ConvertArguments.parts] at hpart

theorem toConvert_of_holds {given : Given} {taken : List Part} (hholds : given.Holds taken)
    (hparts : taken.Perm arguments.parts)
    (hdata : ¬ (arguments.json.isSome ∧ arguments.csv.isSome)) :
    given.toConvert = .ok (.convert arguments.command) := by
  have hcollection : given.collection = some arguments.collection := by
    rw [hholds.collection, hparts.mem_iff, collection_mem_parts]
  have hpath : ∀ option, given.path? option = arguments.path? option := by
    intro option
    ext path
    rw [hholds.path, hparts.mem_iff, path_mem_parts]
  -- nothing but the path of each option is asked for, so the order of the parts cannot show
  rw [Given.toConvert, hcollection, hpath, hpath, hpath, hpath, hpath]
  obtain ⟨collection, globals, environment, json, csv, output⟩ := arguments
  cases json with
  | none => cases csv <;> rfl
  | some json =>
      cases csv with
      | none => rfl
      | some csv => exact absurd ⟨rfl, rfl⟩ hdata

theorem parse_written (hplain : arguments.IsPlain)
    (hdata : ¬ (arguments.json.isSome ∧ arguments.csv.isSome)) {parts : List Part}
    (hparts : parts.Perm arguments.parts) {words : List (List String)}
    (hwritten : List.Forall₂ Part.Written parts words) :
    CommandLine.parse ("convert" :: words.flatten) = .ok (.convert arguments.command) := by
  have hpartsPlain : ∀ part ∈ parts, part.IsPlain :=
    fun part hpart => hplain.parts part (hparts.mem_iff.1 hpart)
  have hfresh : (([] ++ parts).map Part.option?).Nodup :=
    ((hparts.map Part.option?).nodup_iff).2 arguments.nodup_parts
  obtain ⟨given, htaken, hholds⟩ := Given.holds_nothing.takeAll hwritten hpartsPlain hfresh
  exact bind_eq_ok_iff.2 ⟨given, htaken, toConvert_of_holds hholds hparts hdata⟩

end ConvertArguments

/-! ## What comes of the arguments -/

/-- A conversion is asked for by all arguments that spell it, in whatever ways and order, with every
path in its own field, and it ends as what is made of the files under its own paths. No other
arguments give it a second data file, so a run does not fail for having two. -/
theorem parse_spelled :
    (∀ arguments : ConvertArguments, arguments.IsPlain →
        ¬ (arguments.json.isSome ∧ arguments.csv.isSome) →
        ∀ (parts : List CommandLine.Part) (words : List (List String)),
          parts.Perm arguments.parts → List.Forall₂ CommandLine.Part.Written parts words →
          CommandLine.parse ("convert" :: words.flatten) = .ok (.convert arguments.command)
            ∧ arguments.command.collection = arguments.collection
            ∧ (∀ option, arguments.command.path? option = arguments.path? option)
            ∧ ∀ environment files, ∃ outcome,
              run ("convert" :: words.flatten) environment files = .ok outcome
                ∧ outcome = Command.run (.convert arguments.command) environment files
                ∧ Ends arguments.collection files outcome
                  (convert files.read arguments.collection
                    { globals := arguments.globals, environment := arguments.environment,
                      json := arguments.json, csv := arguments.csv }).outcome arguments.output)
      ∧ (∀ arguments command, CommandLine.parse arguments = .ok (.convert command) →
          ¬ (command.options.json.isSome ∧ command.options.csv.isSome))
      ∧ ∀ arguments environment files outcome, run arguments environment files = .ok outcome →
          ∃ command, CommandLine.parse arguments = .ok command
            ∧ outcome = command.run environment files
            ∧ (command.execute false files).1.failure ≠ some .twoDataFiles := by
  refine ⟨?_, fun _ _ => CommandLine.oneDataFile_of_parse, ?_⟩
  · intro arguments hplain hdata parts words hparts hwritten
    have hparse := ConvertArguments.parse_written hplain hdata hparts hwritten
    refine ⟨hparse, rfl, arguments.path?_command, fun environment files => ?_⟩
    exact ⟨_, run_of_parse hparse environment files, rfl,
      ends_run arguments.command environment files⟩
  · intro arguments environment files outcome hrun
    obtain ⟨command, hparse, houtcome⟩ := map_eq_ok_iff.1 hrun
    exact ⟨command, hparse, houtcome.symm, Command.failure_ne_conflict hparse false files⟩

/-- A conversion whose paths look like other arguments. -/
def jumbled : ConvertArguments where
  collection := "convert --csv=c"
  globals := some "=g"
  environment := some "e=1"
  json := none
  csv := some "help"
  output := some "o -j"

theorem isPlain_jumbled : jumbled.IsPlain where
  collection := by decide
  path option path h := by cases option <;> cases h <;> decide

def jumbledArguments : List String :=
  ["convert", "-Oo -j", "-g==g", "convert --csv=c", "-c", "help", "--environment=e=1"]

theorem parse_spelled_jumbled :
    jumbled.IsPlain
      ∧ ¬ (jumbled.json.isSome ∧ jumbled.csv.isSome)
      ∧ CommandLine.parse jumbledArguments = .ok (.convert jumbled.command)
      ∧ jumbled.command
        = ⟨"convert --csv=c", ⟨some "=g", some "e=1", none, some "help"⟩, some "o -j"⟩
      ∧ (∃ outcome, run jumbledArguments ⟨none, none⟩ Files.empty = .ok outcome
        ∧ outcome.exitCode = 1 ∧ outcome.stdout = "")
      ∧ ∃ command, CommandLine.parse jumbledArguments = .ok command
        ∧ (command.execute false Files.empty).1.failure ≠ some .twoDataFiles := by
  have hdata : ¬ (jumbled.json.isSome ∧ jumbled.csv.isSome) := by decide
  have hparts : [CommandLine.Part.path .output "o -j", .path .globals "=g",
      .collection "convert --csv=c", .path .csv "help", .path .environment "e=1"].Perm
        jumbled.parts := by decide
  have hwritten : List.Forall₂ CommandLine.Part.Written
      [.path .output "o -j", .path .globals "=g", .collection "convert --csv=c",
        .path .csv "help", .path .environment "e=1"]
      [["-Oo -j"], ["-g==g"], ["convert --csv=c"], ["-c", "help"], ["--environment=e=1"]] :=
    .cons (.letterJoined .output "o -j" (by decide)) <|
      .cons (.letterEquals .globals "=g") <| .cons (.collection _) <|
      .cons (.letterApart .csv "help") <| .cons (.nameEquals .environment "e=1") .nil
  have hmade : (convert Files.empty.read jumbled.collection
      ⟨jumbled.globals, jumbled.environment, jumbled.json, jumbled.csv⟩).outcome
      = .error (.unreadable "convert --csv=c" .notFound) := rfl
  obtain ⟨hspelled, -, hruns⟩ := parse_spelled
  obtain ⟨hparse, -, -, hends⟩ := hspelled jumbled isPlain_jumbled hdata _ _ hparts hwritten
  obtain ⟨outcome, hrun, -, hend⟩ := hends ⟨none, none⟩ Files.empty
  obtain ⟨command, hcommand, -, hfailure⟩ := hruns _ _ _ _ hrun
  rw [hmade] at hend
  cases hend with
  | failed _ _ hleaves =>
      exact ⟨isPlain_jumbled, hdata, hparse, rfl, ⟨outcome, hrun, hleaves.exitCode, hleaves.stdout⟩,
        command, hcommand, hfailure⟩

end LoadScript
