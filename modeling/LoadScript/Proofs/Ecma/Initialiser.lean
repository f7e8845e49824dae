import LoadScript.Json.Number
import LoadScript.OrderedMap

/-!
# Values of ECMAScript, and the objects that initialisers build

An object initialiser makes its properties one after the other, and a name that
comes again gets the later value. The name `__proto__` is an exception, whether
it is bare or quoted: its value becomes the prototype of the object if it can be
one, and is dropped if not, and there is no property of that name either way
(`define`). Twice in one initialiser, it is an error before anything runs.

With names that do not repeat, the object can be told at once
(`initialise?_of_nodup`): its properties are the definitions without the name
`__proto__`.
-/

namespace LoadScript.Ecma

inductive NumVal where
  | finite (value : Binary64)
  | infinite (negative : Bool)
  deriving DecidableEq, Repr

def NumVal.nearest (negative : Bool) (d : Decimal) : NumVal :=
  match Binary64.ofDecimal? negative d with
  | some value => .finite value
  | none => .infinite negative

inductive Val where
  | null
  | bool (value : Bool)
  | number (value : NumVal)
  | string (value : String)
  | array (elements : List Val)
  /-- An object: its prototype, if that is not the one that objects have by
  themselves, and its own properties in the order in which they were made. -/
  | object (prototype : Option Val) (own : List (String × Val))
  deriving Repr

def Val.isPrototype : Val → Bool
  | null => true
  | array _ => true
  | object _ _ => true
  | _ => false

/-- The name that stands for the prototype in an initialiser. -/
def protoName : String := "__proto__"

abbrev Draft := Option Val × List (String × Val)

def define (draft : Draft) (name : String) (value : Val) : Draft :=
  if name = protoName then
    if value.isPrototype then (some value, draft.2) else draft
  else (draft.1, putEntry name value draft.2)

/-- The object of an initialiser; none if the prototype is defined twice. -/
def initialise? (definitions : List (String × Val)) : Option Val :=
  if 1 < (definitions.map Prod.fst).count protoName then none
  else
    let draft := definitions.foldl (fun draft d => define draft d.1 d.2) (none, [])
    some (.object draft.1 draft.2)

def prototypeOf (definitions : List (String × Val)) : Option Val :=
  (definitions.find? fun d => d.1 = protoName && d.2.isPrototype).map Prod.snd

def properties (definitions : List (String × Val)) : List (String × Val) :=
  definitions.filter fun d => d.1 ≠ protoName

/-- The object that definitions with names of their own make. -/
def Val.ofDefinitions (definitions : List (String × Val)) : Val :=
  .object (prototypeOf definitions) (properties definitions)

theorem prototypeOf_eq_none {definitions : List (String × Val)}
    (h : protoName ∉ definitions.map Prod.fst) : prototypeOf definitions = none := by
  rw [prototypeOf, Option.map_eq_none_iff, List.find?_eq_none]
  intro d hd hproto
  have hname : d.1 = protoName := by
    simp only [Bool.and_eq_true, decide_eq_true_eq] at hproto
    exact hproto.1
  exact h (hname ▸ List.mem_map_of_mem hd)

theorem properties_eq_self {definitions : List (String × Val)} :
    properties definitions = definitions ↔ protoName ∉ definitions.map Prod.fst := by
  rw [properties, List.filter_eq_self]
  simp only [ne_eq, decide_eq_true_eq, List.mem_map, not_exists, not_and]

/-- Definitions with names of their own, added to an object that has none of
these names. -/
theorem foldl_define {definitions : List (String × Val)}
    (hnames : (definitions.map Prod.fst).Nodup) (prototype : Option Val)
    (own : List (String × Val)) (hown : ∀ d ∈ definitions, d.1 ∉ own.map Prod.fst) :
    definitions.foldl (fun draft d => define draft d.1 d.2) (prototype, own)
      = ((prototypeOf definitions).or prototype, own ++ properties definitions) := by
  induction definitions generalizing prototype own with
  | nil => simp [prototypeOf, properties]
  | cons d rest ih =>
      obtain ⟨hd, hrest⟩ := List.nodup_cons.1 hnames
      have htail : ∀ e ∈ rest, e.1 ∉ own.map Prod.fst :=
        fun e he => hown e (List.mem_cons_of_mem d he)
      rw [List.foldl_cons, define]
      by_cases hproto : d.1 = protoName
      · -- the name does not come again, so this is the only definition of a prototype
        have hnone : prototypeOf rest = none := prototypeOf_eq_none (hproto ▸ hd)
        have hskip : properties (d :: rest) = properties rest := by simp [properties, hproto]
        rw [if_pos hproto, hskip]
        by_cases hvalue : d.2.isPrototype = true
        · have hset : prototypeOf (d :: rest) = some d.2 := by
            simp [prototypeOf, hproto, hvalue]
          rw [if_pos hvalue, ih hrest _ _ htail, hnone, hset]
          rfl
        · have hdrop : prototypeOf (d :: rest) = prototypeOf rest := by
            simp [prototypeOf, hvalue]
          rw [if_neg hvalue, ih hrest _ _ htail, hdrop]
      · have hdrop : prototypeOf (d :: rest) = prototypeOf rest := by simp [prototypeOf, hproto]
        have hkeep : properties (d :: rest) = d :: properties rest := by
          simp [properties, hproto]
        have hput : putEntry d.1 d.2 own = own ++ [d] :=
          putEntry_of_not_mem d.2 (hown d List.mem_cons_self)
        have hmore : ∀ e ∈ rest, e.1 ∉ (own ++ [d]).map Prod.fst := by
          intro e he
          rw [List.map_append, List.mem_append, not_or]
          refine ⟨htail e he, fun hmem => hd ?_⟩
          have hname : e.1 = d.1 := by simpa using hmem
          rw [← hname]
          exact List.mem_map_of_mem he
        rw [if_neg hproto, hput, ih hrest _ _ hmore, hdrop, hkeep, List.append_assoc]
        rfl

/-- With names of their own, definitions make one property each, but for the
name `__proto__`. -/
theorem initialise?_of_nodup {definitions : List (String × Val)}
    (h : (definitions.map Prod.fst).Nodup) :
    initialise? definitions = some (.ofDefinitions definitions) := by
  have hcount : ¬ 1 < (definitions.map Prod.fst).count protoName :=
    Nat.not_lt.2 (List.nodup_iff_count.1 h protoName)
  rw [initialise?, if_neg hcount, foldl_define h none [] (by simp), Option.or_none]
  rfl

/-- The properties are all that was defined exactly if nothing was defined under
the name `__proto__`. -/
theorem properties_eq_iff {definitions others : List (String × Val)}
    (hnames : definitions.map Prod.fst = others.map Prod.fst) :
    properties definitions = others ↔
      protoName ∉ others.map Prod.fst ∧ definitions = others := by
  constructor
  · rintro rfl
    have hplain : protoName ∉ (properties definitions).map Prod.fst := by
      intro hmem
      obtain ⟨d, hd, hname⟩ := List.mem_map.1 hmem
      exact of_decide_eq_true (List.mem_filter.1 hd).2 hname
    exact ⟨hplain, (properties_eq_self.2 (hnames ▸ hplain)).symm⟩
  · rintro ⟨hplain, rfl⟩
    exact properties_eq_self.2 hplain

theorem ofDefinitions_eq_iff {definitions others : List (String × Val)}
    (hnames : definitions.map Prod.fst = others.map Prod.fst) :
    Val.ofDefinitions definitions = .object none others ↔
      protoName ∉ others.map Prod.fst ∧ definitions = others := by
  rw [Val.ofDefinitions, Val.object.injEq, properties_eq_iff hnames]
  constructor
  · exact And.right
  · rintro ⟨hplain, rfl⟩
    exact ⟨prototypeOf_eq_none hplain, hplain, rfl⟩

end LoadScript.Ecma
