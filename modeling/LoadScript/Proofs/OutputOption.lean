import LoadScript.CommandLine
import LoadScript.Proofs.Failure

/-!
# Arguments without the output option

The output path is an option like the others: it can be given before or after
the collection, under its letter or its name, attached or as an argument of its
own. `withoutOutput` takes it out of the arguments in all these forms, and what
is left asks for the same conversion, with its script on the standard output
(`parse_withoutOutput`).

Behind the separator nothing is an option any more, so what stands there stays.
-/

namespace LoadScript.CommandLine

/-- The arguments of a conversion without the output option. -/
def dropOutput : List String → List String
  | [] => []
  | argument :: rest =>
    match Part.ofText PathOption.all argument with
    | .ok .separator => argument :: rest
    | .ok (.path .output _) => dropOutput rest
    | .ok (.pending option) =>
      match rest with
      | [] => [argument]
      | next :: rest =>
        if option = .output then dropOutput rest else argument :: next :: dropOutput rest
    | _ => argument :: dropOutput rest

def withoutOutput : List String → List String
  | "convert" :: rest => "convert" :: dropOutput rest
  | arguments => arguments

namespace Given

variable {given next : Given}

def withoutOutput (given : Given) : Given :=
  { given with paths := given.paths.filter fun entry => entry.1 ≠ .output }

theorem path?_withoutOutput {option : PathOption} (h : option ≠ .output) :
    given.withoutOutput.path? option = given.path? option := by
  rw [path?, path?, withoutOutput, List.find?_filter]
  congr 2
  funext entry
  by_cases hentry : entry.1 = option
  · simp [hentry, h]
  · simp [hentry]

theorem path?_withoutOutput_output : given.withoutOutput.path? .output = none := by
  rw [path?, withoutOutput, List.find?_filter, Option.map_eq_none_iff, List.find?_eq_none]
  intro entry _
  simp

theorem takeCollection_withoutOutput {path : String} (h : given.takeCollection path = .ok next) :
    given.withoutOutput.takeCollection path = .ok next.withoutOutput := by
  rw [takeCollection] at h ⊢
  split at h
  · cases h
  · next hfree =>
      rw [← Except.ok.inj h]
      exact if_neg hfree

theorem takeValues_withoutOutput {values : List String} (h : given.takeValues values = .ok next) :
    given.withoutOutput.takeValues values = .ok next.withoutOutput := by
  induction values generalizing given with
  | nil => exact congrArg _ (congrArg withoutOutput (Except.ok.inj h))
  | cons path rest ih =>
      obtain ⟨taken, htaken, hrest⟩ := bind_eq_ok_iff.1 h
      exact bind_eq_ok_iff.2 ⟨_, takeCollection_withoutOutput htaken, ih hrest⟩

theorem takePath_withoutOutput {option : PathOption} {path : String} (hoption : option ≠ .output)
    (h : given.takePath option path = .ok next) :
    given.withoutOutput.takePath option path = .ok next.withoutOutput := by
  rw [takePath] at h ⊢
  rw [path?_withoutOutput hoption]
  split at h
  · cases h
  · next hfree =>
      rw [if_neg hfree, ← Except.ok.inj h]
      simp only [withoutOutput, List.filter_append]
      simp [hoption]

/-- The output path is all that its option gives. -/
theorem withoutOutput_takePath {path : String} (h : given.takePath .output path = .ok next) :
    next.withoutOutput = given.withoutOutput := by
  rw [takePath] at h
  split at h
  · cases h
  · rw [← Except.ok.inj h]
    simp [withoutOutput]

section TakeAll

variable {options : List PathOption} {argument : String} {rest : List String}

theorem takeAll_of_separator (h : Part.ofText options argument = .ok .separator) :
    given.takeAll options (argument :: rest) = given.takeValues rest := by
  rw [takeAll, h]
  rfl

theorem takeAll_of_collection {path : String}
    (h : Part.ofText options argument = .ok (.collection path)) :
    given.takeAll options (argument :: rest)
      = (given.takeCollection path).bind fun taken => taken.takeAll options rest := by
  rw [takeAll, h]
  rfl

theorem takeAll_of_path {option : PathOption} {path : String}
    (h : Part.ofText options argument = .ok (.path option path)) :
    given.takeAll options (argument :: rest)
      = (given.takePath option path).bind fun taken => taken.takeAll options rest := by
  rw [takeAll, h]
  rfl

/-- An option whose path is the next argument, which is a value by its form. -/
theorem takeAll_of_pending {option : PathOption}
    (h : Part.ofText options argument = .ok (.pending option)) :
    given.takeAll options (argument :: rest) = .ok next ↔
      ∃ text more path, rest = text :: more ∧ Argument.ofText text = .value path
        ∧ (given.takePath option path).bind (fun taken => taken.takeAll options more)
          = .ok next := by
  rw [takeAll, h]
  constructor
  · intro htaken
    cases rest with
    | nil => cases htaken
    | cons text more =>
        cases hvalue : Argument.ofText text with
        | value path =>
            simp only [bind, Except.bind, hvalue] at htaken
            exact ⟨text, more, path, rfl, hvalue, htaken⟩
        | _ =>
            simp only [bind, Except.bind, hvalue] at htaken
            cases htaken
  · rintro ⟨text, more, path, rfl, hvalue, htaken⟩
    simp only [bind, Except.bind, hvalue]
    exact htaken

end TakeAll

theorem takeAll_dropOutput {arguments : List String}
    (h : given.takeAll PathOption.all arguments = .ok next) :
    given.withoutOutput.takeAll PathOption.all (dropOutput arguments)
      = .ok next.withoutOutput := by
  -- what is left of the arguments is taken by what is left of all that was given before them
  fun_induction dropOutput arguments generalizing given with
  | case1 => exact congrArg _ (congrArg withoutOutput (Except.ok.inj h))
  | case2 argument rest hpart =>
      rw [takeAll_of_separator hpart] at h ⊢
      exact takeValues_withoutOutput h
  | case3 argument rest path hpart ih =>
      rw [takeAll_of_path hpart] at h
      obtain ⟨taken, htaken, hrest⟩ := bind_eq_ok_iff.1 h
      rw [← withoutOutput_takePath htaken]
      exact ih hrest
  | case4 argument option hpart =>
      obtain ⟨text, more, path, hnil, -⟩ := (takeAll_of_pending hpart).1 h
      cases hnil
  | case5 argument next' rest hpart ih =>
      obtain ⟨text, more, path, hnext, -, htaken⟩ := (takeAll_of_pending hpart).1 h
      obtain ⟨rfl, rfl⟩ := List.cons.inj hnext
      obtain ⟨taken, htaken, hrest⟩ := bind_eq_ok_iff.1 htaken
      rw [← withoutOutput_takePath htaken]
      exact ih hrest
  | case6 argument option hpart next' rest hoption ih =>
      obtain ⟨text, more, path, hnext, hvalue, htaken⟩ := (takeAll_of_pending hpart).1 h
      obtain ⟨rfl, rfl⟩ := List.cons.inj hnext
      obtain ⟨taken, htaken, hrest⟩ := bind_eq_ok_iff.1 htaken
      refine (takeAll_of_pending hpart).2 ⟨_, _, path, rfl, hvalue, ?_⟩
      exact bind_eq_ok_iff.2 ⟨_, takePath_withoutOutput hoption htaken, ih hrest⟩
  | case7 argument rest hseparator houtput hpending ih =>
      cases hpart : Part.ofText PathOption.all argument with
      | error usage =>
          rw [takeAll, hpart] at h
          cases h
      | ok part =>
          cases part with
          | separator => exact absurd hpart hseparator
          | pending option => exact absurd hpart (hpending option)
          | collection path =>
              rw [takeAll_of_collection hpart] at h ⊢
              obtain ⟨taken, htaken, hrest⟩ := bind_eq_ok_iff.1 h
              exact bind_eq_ok_iff.2 ⟨_, takeCollection_withoutOutput htaken, ih hrest⟩
          | path option path =>
              have hoption : option ≠ .output := by
                rintro rfl
                exact houtput path hpart
              rw [takeAll_of_path hpart] at h ⊢
              obtain ⟨taken, htaken, hrest⟩ := bind_eq_ok_iff.1 h
              exact bind_eq_ok_iff.2 ⟨_, takePath_withoutOutput hoption htaken, ih hrest⟩

/-- The conversion is the same, with its script on the standard output. -/
theorem toConvert_withoutOutput {command : ConvertCommand}
    (h : given.toConvert = .ok (.convert command)) :
    given.withoutOutput.toConvert = .ok (.convert { command with output := none }) := by
  have hcollection : given.withoutOutput.collection = given.collection := rfl
  rw [toConvert] at h ⊢
  rw [hcollection, path?_withoutOutput (by decide), path?_withoutOutput (by decide),
    path?_withoutOutput (by decide), path?_withoutOutput (by decide), path?_withoutOutput_output]
  split at h
  · cases h
  · cases h
  · rw [← Command.convert.inj (Except.ok.inj h)]
    rfl

theorem toList_ne_convert (command : ConvertCommand) : given.toList ≠ .ok (.convert command) := by
  intro h
  rw [toList] at h
  split at h
  · cases h
  · cases Except.ok.inj h

end Given

/-- A conversion is asked for by its name. -/
theorem convert_of_parse {arguments : List String} {command : ConvertCommand}
    (h : parse arguments = .ok (.convert command)) :
    ∃ rest, arguments = "convert" :: rest ∧ parseConvert rest = .ok (.convert command) := by
  cases arguments with
  | nil => cases h
  | cons first rest =>
      simp only [parse] at h
      split at h
      · exact ⟨rest, rfl, h⟩
      · obtain ⟨given, -, hlist⟩ := bind_eq_ok_iff.1 h
        exact absurd hlist (Given.toList_ne_convert command)
      · cases h
      · repeat' split at h
        all_goals cases h

/-- Arguments that ask for a conversion ask for the same one without the output option. -/
theorem parse_withoutOutput {arguments : List String} {command : ConvertCommand}
    (h : parse arguments = .ok (.convert command)) :
    parse (withoutOutput arguments) = .ok (.convert { command with output := none }) := by
  obtain ⟨rest, rfl, hconvert⟩ := convert_of_parse h
  obtain ⟨given, htaken, hasked⟩ := bind_eq_ok_iff.1 hconvert
  exact bind_eq_ok_iff.2 ⟨_, Given.takeAll_dropOutput htaken, Given.toConvert_withoutOutput hasked⟩

example : withoutOutput ["convert", "--output", "a.js", "-g=g.json", "--", "-O"]
    = ["convert", "-g=g.json", "--", "-O"] := by decide +kernel

end LoadScript.CommandLine
