import LoadScript.Files
import LoadScript.Proofs.Failure

/-!
# What a write changes

A path is followed step by step, and each step leads on from a directory, either
to what stands there under the name or, at a link, to where the link leads. A file
that is written is neither a directory nor a link before, nor after, so a path that
led somewhere still leads there (`Leads.put`): the write replaces what stands at one
place and reroutes nothing. That is all there is to know of a write. What stands at
the other places is what stood there (`entry?_put`), a file elsewhere is read as
before (`read_put`), and the path of the write itself now reads what was written
(`read_target`).

Two spellings name the same file if they lead to the same place, wherever they
start and whatever links they lead through, and so places are what is compared
here, never paths. After a write every spelling of its file reads what was written
(`read_put_self`).
-/

namespace LoadScript

namespace Files

variable (files : Files)

/-- The place of the file that is read under a path. -/
def source (path : String) : Except FileFault Place := (Path.ofText path).bind (files.locate false)

/-- The place of the file that is written under a path. -/
def target (path : String) : Except FileFault Place := (Path.ofText path).bind files.writePlace

def textAt (place : Place) : Except FileFault String :=
  match files.entry? place with
  | none => .error .notFound
  | some (.file content) =>
    match String.fromUTF8? content with
    | none => .error .notText
    | some text => .ok text
  | some _ => .error .isDirectory

theorem read_eq (path : String) : files.read path = (files.source path).bind files.textAt := by
  rw [read, source]
  cases Path.ofText path with
  | error fault => rfl
  | ok path =>
      show (files.locate false path).bind _ = (files.locate false path).bind _
      cases files.locate false path <;> rfl

theorem write_eq (path text : String) :
    files.write path text
      = (files.target path).map fun place => files.put place (.file text.toUTF8) := by
  rw [write, target]
  cases Path.ofText path with
  | error fault => rfl
  | ok path =>
      show (files.writePlace path).bind _ = (files.writePlace path).map _
      cases files.writePlace path <;> rfl

/-! ## Where steps lead -/

/-- A step from a directory to a name in it, with the steps behind it. -/
structure Enters (create : Bool) (place : Place) (name : String) (rest : List String) : Prop where
  directory : files.entry? place = some .directory
  named : name ≠ "" ∧ name ≠ "." ∧ name ≠ ".."
  bare : ¬ (create = true ∧ rest = [""])
  short : name.utf8ByteSize ≤ Path.maxNameBytes

/-- Steps lead from a place to another one, through so many links at most. -/
inductive Leads (create : Bool) : Nat → Place → List String → Place → Prop where
  | here {links : Nat} {place : Place} : Leads create links place [] place
  | stay {links : Nat} {place last : Place} {name : String} {rest : List String}
      (directory : files.entry? place = some .directory) (named : name = "" ∨ name = ".")
      (next : Leads create links place rest last) : Leads create links place (name :: rest) last
  | up {links : Nat} {place last : Place} {rest : List String}
      (directory : files.entry? place = some .directory)
      (next : Leads create links (above place) rest last) :
      Leads create links place (".." :: rest) last
  | down {links : Nat} {place last : Place} {name : String} {rest : List String}
      {entry : FileEntry} (enters : files.Enters create place name rest)
      (there : files.entry? (place ++ [name]) = some entry) (solid : ∀ target, entry ≠ .link target)
      (next : Leads create links (place ++ [name]) rest last) :
      Leads create links place (name :: rest) last
  /-- The last name is missing and can be created. -/
  | new {links : Nat} {place : Place} {name : String} (enters : files.Enters create place name [])
      (free : files.entry? (place ++ [name]) = none) (created : create = true) :
      Leads create links place [name] (place ++ [name])
  | through {links : Nat} {place last : Place} {name : String} {rest : List String} {target : Path}
      (enters : files.Enters create place name rest)
      (link : files.entry? (place ++ [name]) = some (.link target))
      (next : Leads create links (target.start place) (target.steps ++ rest) last) :
      Leads create (links + 1) place (name :: rest) last

variable {files}

theorem leads_of_followWith {create : Bool} {links : Nat}
    {through : Place → List String → Except FileFault Place}
    (hthrough : ∀ place steps last, through place steps = .ok last →
      ∃ fewer, links = fewer + 1 ∧ files.Leads create fewer place steps last)
    {place last : Place} {steps : List String}
    (h : followWith through files create place steps = .ok last) :
    files.Leads create links place steps last := by
  induction steps generalizing place with
  | nil =>
      rw [← Except.ok.inj h]
      exact .here
  | cons name rest ih =>
      rw [followWith] at h
      split at h
      · cases h
      · next hdirectory =>
          split at h
          · next hstay => exact .stay hdirectory hstay (ih h)
          next hstay =>
          split at h
          · next hup =>
              rw [hup]
              exact .up hdirectory (ih h)
          next hup =>
          split at h
          · cases h
          next hbare =>
          split at h
          · cases h
          next hshort =>
          have henters : files.Enters create place name rest :=
            ⟨hdirectory, ⟨fun e => hstay (.inl e), fun e => hstay (.inr e), hup⟩, hbare,
              Nat.not_lt.1 hshort⟩
          split at h
          · next hfree =>
              split at h
              · next hlast =>
                  obtain ⟨hcreate, rfl⟩ := hlast
                  rw [← Except.ok.inj h]
                  exact .new henters hfree hcreate
              · cases h
          · next target hlink =>
              obtain ⟨fewer, rfl, hnext⟩ := hthrough _ _ _ h
              exact .through henters hlink hnext
          · next entry hsolid hthere => exact .down henters hthere hsolid (ih h)
      · cases h

theorem leads_of_follow {create : Bool} {links : Nat} {place last : Place} {steps : List String}
    (h : files.follow create links place steps = .ok last) :
    files.Leads create links place steps last := by
  induction links generalizing place steps last with
  | zero => exact leads_of_followWith (fun _ _ _ hnone => by cases hnone) h
  | succ fewer ih => exact leads_of_followWith (fun _ _ _ hmore => ⟨fewer, rfl, ih hmore⟩) h

theorem Leads.follow {create : Bool} {links : Nat} {place last : Place} {steps : List String}
    (h : files.Leads create links place steps last) :
    files.follow create links place steps = .ok last := by
  induction h with
  | @here links place => cases links <;> rfl
  | @stay links place last name rest hdirectory hname _ ih =>
      rw [← ih]
      cases links <;> simp only [Files.follow, followWith, hdirectory, hname, if_true]
  | @up links place last rest hdirectory _ ih =>
      rw [← ih]
      cases links <;> simp [Files.follow, followWith, hdirectory]
  | @down links place last name rest entry henters hthere hsolid _ ih =>
      rw [← ih]
      obtain ⟨hdirectory, ⟨hempty, hdot, hup⟩, hbare, hshort⟩ := henters
      have hlong := Nat.not_lt.2 hshort
      cases entry with
      | link target => exact absurd rfl (hsolid target)
      | _ =>
          cases links <;> simp only [Files.follow, followWith, hdirectory, hempty, hdot, hup, hbare,
            hlong, hthere, or_self, if_false]
  | @new links place name henters hfree hcreate =>
      obtain ⟨hdirectory, ⟨hempty, hdot, hup⟩, -, hshort⟩ := henters
      have hlong := Nat.not_lt.2 hshort
      cases links <;> simp only [Files.follow, followWith, hdirectory, hempty, hdot, hup, hlong,
        hfree, hcreate, or_self, and_self, and_false, reduceCtorEq, if_false, if_true]
  | @through links place last name rest target henters hlink _ ih =>
      rw [← ih]
      obtain ⟨hdirectory, ⟨hempty, hdot, hup⟩, hbare, hshort⟩ := henters
      have hlong := Nat.not_lt.2 hshort
      simp only [Files.follow, followWith, hdirectory, hempty, hdot, hup, hbare, hlong, hlink,
        or_self, if_false]

/-! ## What a write leaves as it is -/

variable {path : String} {place : Place}

/-- A file can be written to a place: nothing stands there, or a file. -/
def Writable (files : Files) (place : Place) : Prop :=
  ∀ entry, files.entry? place = some entry → ∃ content, entry = .file content

theorem writePlace_eq_ok_iff {parsed : Path} :
    files.writePlace parsed = .ok place ↔
      files.locate true parsed = .ok place ∧ files.Writable place := by
  rw [writePlace]
  constructor
  · intro h
    obtain ⟨found, hfound, hplace⟩ := bind_eq_ok_iff.1 h
    split at hplace
    · next hfree =>
        rw [← Except.ok.inj hplace]
        exact ⟨hfound, by simp [Writable, hfree]⟩
    · next content hfile =>
        rw [← Except.ok.inj hplace]
        exact ⟨hfound, by simp [Writable, hfile]⟩
    · cases hplace
  · rintro ⟨hfound, hwritable⟩
    refine bind_eq_ok_iff.2 ⟨place, hfound, ?_⟩
    cases hentry : files.entry? place with
    | none => rfl
    | some entry =>
        obtain ⟨content, rfl⟩ := hwritable entry hentry
        rfl

theorem writable_target (h : files.target path = .ok place) : files.Writable place := by
  obtain ⟨parsed, -, hplace⟩ := bind_eq_ok_iff.1 h
  exact (writePlace_eq_ok_iff.1 hplace).2

theorem Writable.ne_directory (h : files.Writable place) :
    files.entry? place ≠ some .directory := by
  intro hdirectory
  obtain ⟨content, hfile⟩ := h _ hdirectory
  cases hfile

theorem Writable.not_isPrefixOf (h : files.Writable place) :
    place.isPrefixOf files.directory = false := by
  rw [Bool.eq_false_iff]
  intro habove
  exact h.ne_directory (if_pos habove)

/-- Only the place that is written to holds something else than before. -/
theorem entry?_put (h : files.Writable place) (entry : FileEntry) (other : Place) :
    Files.entry? (files.put place entry) other
      = if other = place then some entry else files.entry? other := by
  simp only [Files.entry?, put, OrderedMap.get?_insert]
  by_cases hsame : other = place
  · rw [hsame, h.not_isPrefixOf, if_pos rfl, if_pos rfl]
    rfl
  · rw [if_neg hsame, if_neg hsame]

theorem directory_put (h : files.Writable place) (content : ByteArray) {other : Place}
    (hother : files.entry? other = some .directory) :
    Files.entry? (files.put place (.file content)) other = some .directory := by
  rw [entry?_put h, if_neg, hother]
  rintro rfl
  exact h.ne_directory hother

/-- Steps that led somewhere still lead there. -/
theorem Leads.put (hplace : files.Writable place) (content : ByteArray) {create : Bool}
    {links : Nat} {start last : Place} {steps : List String}
    (h : files.Leads create links start steps last) :
    (files.put place (.file content)).Leads create links start steps last := by
  have henters : ∀ {start : Place} {name : String} {rest : List String},
      files.Enters create start name rest →
        (files.put place (.file content)).Enters create start name rest :=
    fun h => ⟨directory_put hplace content h.directory, h.named, h.bare, h.short⟩
  induction h with
  | here => exact .here
  | stay hdirectory hname _ ih => exact .stay (directory_put hplace content hdirectory) hname ih
  | up hdirectory _ ih => exact .up (directory_put hplace content hdirectory) ih
  | @down links start last name rest entry h hthere hsolid _ ih =>
      by_cases hsame : start ++ [name] = place
      · exact .down (henters h) (by rw [entry?_put hplace, if_pos hsame]) (by simp) ih
      · exact .down (henters h) (by rw [entry?_put hplace, if_neg hsame, hthere]) hsolid ih
  | @new links start name h hfree hcreate =>
      by_cases hsame : start ++ [name] = place
      · exact .down (henters h) (by rw [entry?_put hplace, if_pos hsame]) (by simp) .here
      · exact .new (henters h) (by rw [entry?_put hplace, if_neg hsame, hfree]) hcreate
  | @through links start last name rest target h hlink _ ih =>
      -- a link is not what is written
      have hother : start ++ [name] ≠ place := by
        rintro rfl
        obtain ⟨_, hfile⟩ := hplace _ hlink
        cases hfile
      exact .through (henters h) (by rw [entry?_put hplace, if_neg hother, hlink]) ih

theorem locate_put (h : files.Writable place) (content : ByteArray) {create : Bool}
    {parsed : Path} {found : Place} (hfound : files.locate create parsed = .ok found) :
    (files.put place (.file content)).locate create parsed = .ok found :=
  ((leads_of_follow hfound).put h content).follow

theorem source_put (h : files.Writable place) (content : ByteArray) {found : Place}
    (hfound : files.source path = .ok found) :
    (files.put place (.file content)).source path = .ok found := by
  obtain ⟨parsed, hparsed, hlocate⟩ := bind_eq_ok_iff.1 hfound
  rw [source, hparsed]
  exact locate_put h content hlocate

/-- A file elsewhere is read as before. -/
theorem read_put (h : files.Writable place) (content : ByteArray) {text : String}
    (hapart : files.source path ≠ .ok place) (hread : files.read path = .ok text) :
    (files.put place (.file content)).read path = .ok text := by
  rw [read_eq] at hread ⊢
  obtain ⟨found, hfound, htext⟩ := bind_eq_ok_iff.1 hread
  have hother : found ≠ place := by
    rintro rfl
    exact hapart hfound
  rw [source_put h content hfound]
  show (files.put place (.file content)).textAt found = .ok text
  rw [textAt, entry?_put h, if_neg hother]
  exact htext

/-! ## The file that was written -/

/-- Where something stands at the end, steps lead there whether or not it may be created. -/
theorem Leads.existing {links : Nat} {start last : Place} {steps : List String}
    (h : files.Leads true links start steps last) (hlast : (files.entry? last).isSome) :
    files.Leads false links start steps last := by
  have henters : ∀ {start : Place} {name : String} {rest : List String},
      files.Enters true start name rest → files.Enters false start name rest :=
    fun h => ⟨h.directory, h.named, by simp, h.short⟩
  induction h with
  | here => exact .here
  | stay hdirectory hname _ ih => exact .stay hdirectory hname (ih hlast)
  | up hdirectory _ ih => exact .up hdirectory (ih hlast)
  | down h hthere hsolid _ ih => exact .down (henters h) hthere hsolid (ih hlast)
  | new _ hfree _ =>
      rw [hfree] at hlast
      cases hlast
  | through h hlink _ ih => exact .through (henters h) hlink (ih hlast)

theorem entry?_put_self (h : files.Writable place) (entry : FileEntry) :
    Files.entry? (files.put place entry) place = some entry := by
  rw [entry?_put h, if_pos rfl]

/-- The path of a write names the same file afterwards. -/
theorem target_put (h : files.target path = .ok place) (content : ByteArray) :
    (files.put place (.file content)).target path = .ok place := by
  have hwritable := writable_target h
  obtain ⟨parsed, hparsed, hplace⟩ := bind_eq_ok_iff.1 h
  rw [target, hparsed]
  refine writePlace_eq_ok_iff.2 ⟨locate_put hwritable content (writePlace_eq_ok_iff.1 hplace).1, ?_⟩
  intro entry hentry
  rw [entry?_put_self hwritable] at hentry
  exact ⟨content, (Option.some.inj hentry).symm⟩

theorem source_target (h : files.target path = .ok place) (content : ByteArray) :
    (files.put place (.file content)).source path = .ok place := by
  have hwritable := writable_target h
  obtain ⟨parsed, hparsed, hplace⟩ := bind_eq_ok_iff.1 h
  have hleads := (leads_of_follow (writePlace_eq_ok_iff.1 hplace).1).put hwritable content
  rw [source, hparsed]
  exact (hleads.existing (by rw [entry?_put_self hwritable]; rfl)).follow

theorem fromUTF8?_toUTF8 (text : String) : String.fromUTF8? text.toUTF8 = some text := by
  simp only [String.fromUTF8?, String.toUTF8_eq_toByteArray, dif_pos text.isValidUTF8]
  rfl

/-- What was written is read under every path that leads to the place. -/
theorem read_put_self (h : files.Writable place) (text : String)
    (hsource : (files.put place (.file text.toUTF8)).source path = .ok place) :
    (files.put place (.file text.toUTF8)).read path = .ok text := by
  rw [read_eq, hsource]
  show (files.put place (.file text.toUTF8)).textAt place = .ok text
  rw [textAt, entry?_put_self h]
  simp only [fromUTF8?_toUTF8]

/-- A file that is created through a link, by way of the directory above the working
directory, and read in its place. -/
example :
    let files := empty.put ["work", "out.js"] (.link ⟨true, ["work", "c.json"], false⟩)
    ((files.write "../work/./out.js" "1").toOption.map fun files =>
      (files.read "c.json").toOption) = some (some "1") := by decide +kernel

/-- What was written is read under the path that it was written to. -/
theorem read_target (h : files.target path = .ok place) (text : String) :
    (files.put place (.file text.toUTF8)).read path = .ok text :=
  read_put_self (writable_target h) text (source_target h _)

/-- Writing the same once more changes nothing. -/
theorem put_put (files : Files) (place : Place) (entry : FileEntry) :
    (files.put place entry).put place entry = files.put place entry :=
  congrArg (Files.mk files.directory) (OrderedMap.insert_insert files.entries place entry)

end Files

end LoadScript
