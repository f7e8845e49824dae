import LoadScript.Proofs.Ecma.Literal
import LoadScript.Script.Object

/-!
# The two layouts of an object

In one line or with a line for each member, an object spells the tokens of the
same object literal: white space is all that the layouts differ in. The members
are given by a name, the text of a value and the expression that this text is;
what is assumed of a value is only that its text spells its expression.
-/

namespace LoadScript.Script

open Ecma

section Members

variable {α : Type} {name text : α → String} {expr : α → Expr} {xs : List α}

/-- The expression of an object with given members. -/
def objectOf (name : α → String) (expr : α → Expr) (xs : List α) : Expr :=
  .object (xs.map fun x => (keyOf (name x), expr x))

theorem listTokens_eq (elements : List Expr) :
    Expr.listTokens elements = [.punctuator ","].intercalate (elements.map Expr.tokens) := by
  have hmore : ∀ (elements : List Expr) (e : Expr),
      e.tokens ++ Expr.moreTokens elements
        = [.punctuator ","].intercalate ((e :: elements).map Expr.tokens) := by
    intro elements
    induction elements with
    | nil => intro e; simp [Expr.moreTokens]
    | cons d rest ih =>
        intro e
        rw [List.map_cons, List.map_cons, List.intercalate_cons_cons, ← List.map_cons, ← ih d,
          Expr.moreTokens]
        simp
  cases elements with
  | nil => rfl
  | cons e rest => exact hmore rest e

/-- The tokens of one member. -/
def memberTokensOf (key : Key) (e : Expr) : List Token :=
  key.token :: .punctuator ":" :: e.tokens

theorem memberTokens_eq (members : List (Key × Expr)) :
    Expr.memberTokens members
      = [.punctuator ","].intercalate (members.map fun m => memberTokensOf m.1 m.2) := by
  have hmore : ∀ (members : List (Key × Expr)) (key : Key) (e : Expr),
      memberTokensOf key e ++ Expr.moreMemberTokens members
        = [.punctuator ","].intercalate
            (((key, e) :: members).map fun m => memberTokensOf m.1 m.2) := by
    intro members
    induction members with
    | nil => intro key e; simp [Expr.moreMemberTokens]
    | cons m rest ih =>
        intro key e
        obtain ⟨next, d⟩ := m
        have hrest := ih next d
        rw [List.map_cons] at hrest
        rw [List.map_cons, List.map_cons, List.intercalate_cons_cons, ← hrest,
          Expr.moreMemberTokens]
        simp [memberTokensOf]
  cases members with
  | nil => rfl
  | cons m rest => exact hmore rest m.1 m.2

theorem lexes_member {s value : String} {e : Expr} (h : Lexes value e.tokens) :
    Lexes (member s value) (memberTokensOf (keyOf s) e) := by
  have hcolon : Spells ": " [.punctuator ":"] := fun _ => rfl
  have hstart : BeginsWithEnding ": " := ⟨':', by decide, [' '], rfl⟩
  exact ((lexes_propertyName s).append_spells hstart hcolon).append_lexes h

theorem objectOf_tokens (name : α → String) (expr : α → Expr) (xs : List α) :
    (objectOf name expr xs).tokens
      = .punctuator "\x7b"
          :: [.punctuator ","].intercalate
              (xs.map fun x => memberTokensOf (keyOf (name x)) (expr x))
          ++ [.punctuator "\x7d"] := by
  rw [objectOf, Expr.tokens, memberTokens_eq, List.map_map]
  rfl

/-- Members with names and values of their own are told apart by the object. -/
theorem objectOf_inj (hinj : ∀ x y, name x = name y → expr x = expr y → x = y) {xs ys : List α}
    (h : objectOf name expr xs = objectOf name expr ys) : xs = ys := by
  have hmembers := Expr.object.inj h
  refine (List.map_inj_right fun x y hxy => ?_).1 hmembers
  have hname := congrArg (fun m : Key × Expr => m.1.text) hxy
  simp only [keyOf_text] at hname
  exact hinj x y hname (congrArg Prod.snd hxy)

theorem spells_emptyObject : Spells (braced "") [.punctuator "\x7b", .punctuator "\x7d"] :=
  Spells.empty.lexes.braced

theorem spells_inlineObject (h : ∀ x ∈ xs, Lexes (text x) (expr x).tokens) :
    Spells (inlineObject (xs.map fun x => member (name x) (text x)))
      (objectOf name expr xs).tokens := by
  rw [objectOf_tokens, inlineObject, List.isEmpty_map]
  split
  · next hempty =>
      rw [List.isEmpty_iff.1 hempty]
      exact spells_emptyObject
  · have hcomma : Spells ", " [.punctuator ","] := fun _ => rfl
    have hblank : Spells " " [] := fun _ => rfl
    have hmembers := Lexes.intercalate hcomma ⟨',', by decide, [' '], rfl⟩
      fun x hx => lexes_member (s := name x) (h x hx)
    have hinner := (hblank.append_lexes hmembers).append_spells ⟨' ', by decide, [], rfl⟩ hblank
    rw [List.append_nil, List.nil_append] at hinner
    exact hinner.lexes.braced

theorem spells_blockObject {indent : String} (hindent : Spells indent [])
    (h : ∀ x ∈ xs, Lexes (text x) (expr x).tokens) :
    Spells (blockObject indent (xs.map fun x => member (name x) (text x)))
      (objectOf name expr xs).tokens := by
  rw [objectOf_tokens, blockObject, List.isEmpty_map]
  split
  · next hempty =>
      rw [List.isEmpty_iff.1 hempty]
      exact spells_emptyObject
  · have hcomma : Spells ",\n" [.punctuator ","] := fun _ => rfl
    have hbreak : Spells "\n" [] := fun _ => rfl
    have hfront : Spells (indent ++ "  ") [] := hindent.append fun _ => rfl
    have hmembers := Lexes.intercalate hcomma ⟨',', by decide, ['\n'], rfl⟩
      fun x hx => hfront.append_lexes (lexes_member (s := name x) (h x hx))
    have hinner := ((hbreak.append_lexes hmembers).append_spells ⟨'\n', by decide, [], rfl⟩
      hbreak).append hindent
    simp only [List.append_nil, List.nil_append] at hinner
    rw [List.map_map]
    exact hinner.lexes.braced

end Members

end LoadScript.Script
