/-!
# Cutting a text

A text is cut at every occurrence of a separator, so that there is one piece more than separators.
Put together again with the separator, the pieces are the text (`intercalate_cutAt`).
-/

namespace LoadScript.Text

def cutAt (separator : Char) : List Char → List (List Char)
  | [] => [[]]
  | c :: cs =>
    if c = separator then [] :: cutAt separator cs
    else match cutAt separator cs with
      | first :: rest => (c :: first) :: rest
      | [] => [[c]]

theorem cutAt_ne_nil (separator : Char) (cs : List Char) : cutAt separator cs ≠ [] := by
  cases cs with
  | nil => simp [cutAt]
  | cons c cs => rw [cutAt]; split <;> (try split) <;> simp

/-- No character of a text is lost when it is cut. -/
theorem intercalate_cutAt (separator : Char) (cs : List Char) :
    [separator].intercalate (cutAt separator cs) = cs := by
  induction cs with
  | nil => simp [cutAt]
  | cons c cs ih =>
    cases h : cutAt separator cs with
    | nil => exact absurd h (cutAt_ne_nil separator cs)
    | cons first rest =>
      rw [h] at ih
      by_cases hc : c = separator
      · simp [cutAt, hc, h, List.intercalate_cons_cons, ih]
      · cases rest <;> simp_all [cutAt, List.intercalate_cons_cons]

end LoadScript.Text
