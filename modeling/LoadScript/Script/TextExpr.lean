import LoadScript.Script.Literal

/-!
# Texts with variables

A recorded text may contain markers: a name without braces between two opening and two closing
braces. A text without markers becomes a string literal. With markers it becomes a template literal
in which each of them is a lookup of the variable at run time.
-/

namespace LoadScript.Script

inductive Segment where
  | literal (text : String)
  | reference (name : String)
  deriving DecidableEq, Repr

inductive TextExpr where
  | plain (text : String)
  /-- The parts of a text with at least one marker. -/
  | template (segments : List Segment)
  deriving DecidableEq, Repr

def isBrace (c : Char) : Bool := c = '\x7b' || c = '\x7d'

/-- The name of the marker that a text begins with, and what follows the marker. -/
def marker? : List Char → Option (List Char × List Char)
  | '\x7b' :: '\x7b' :: cs =>
    match cs.takeWhile (!isBrace ·), cs.dropWhile (!isBrace ·) with
    | c :: name, '\x7d' :: '\x7d' :: rest => some (c :: name, rest)
    | _, _ => none
  | _ => none

theorem length_marker? {cs name rest : List Char} (h : marker? cs = some (name, rest)) :
    rest.length < cs.length := by
  unfold marker? at h
  split at h
  · next tail =>
    split at h
    · next hd =>
      simp only [Option.some.injEq, Prod.mk.injEq] at h
      have hlen := congrArg List.length
        (List.takeWhile_append_dropWhile (p := (!isBrace ·)) (l := tail))
      rw [List.length_append, hd] at hlen
      simp only [List.length_cons, ← h.2] at hlen ⊢
      omega
    · simp at h
  · simp at h

/-- Puts a character in front of segments. -/
def consLiteral (c : Char) : List Segment → List Segment
  | .literal text :: rest => .literal (String.singleton c ++ text) :: rest
  | segments => .literal (String.singleton c) :: segments

/-- The segments of a text. Markers are found from left to right, and what is in none of them is
literal. -/
def segments : List Char → List Segment
  | [] => []
  | c :: cs =>
    match _h : marker? (c :: cs) with
    | some (name, rest) => .reference (String.ofList name) :: segments rest
    | none => consLiteral c (segments cs)
termination_by cs => cs.length
decreasing_by
  · exact length_marker? _h
  · simp

namespace Segment

def isReference : Segment → Bool
  | reference _ => true
  | literal _ => false

def render : Segment → String
  | literal text => String.ofList (templateChars text.toList)
  | reference name => "$\x7bpm[Var](" ++ quote name ++ ")\x7d"

end Segment

namespace TextExpr

def parse (text : String) : TextExpr :=
  let segments := segments text.toList
  if segments.any Segment.isReference then template segments else plain text

def render : TextExpr → String
  | plain text => quote text
  | template segments => "`" ++ String.join (segments.map Segment.render) ++ "`"

end TextExpr

end LoadScript.Script
