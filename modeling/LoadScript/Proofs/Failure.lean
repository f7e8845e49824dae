import LoadScript.Traced
import Mathlib.Data.List.Forall2

/-!
# Which failure comes first

Loading and converting are chains of steps, and a chain fails with the failure
of its first step that fails. Said of single outcomes, that is a matter of
`failure?`: over one step after another it is the first failure there is
(`failure?_bind`), and so it is over a step for each element of a list
(`failure?_mapM`).
-/

namespace LoadScript

variable {ε α β : Type}

/-- The failure of an outcome, if it is one. -/
def failure? : Except ε α → Option ε
  | .ok _ => none
  | .error error => some error

@[simp] theorem failure?_ok (a : α) : failure? (.ok a : Except ε α) = none := rfl

@[simp] theorem failure?_error (error : ε) :
    failure? (.error error : Except ε α) = some error := rfl

theorem failure?_eq_some_iff {outcome : Except ε α} {error : ε} :
    failure? outcome = some error ↔ outcome = .error error := by
  cases outcome with
  | ok a => simp
  | error other => simp

theorem failure?_eq_none_iff {outcome : Except ε α} :
    failure? outcome = none ↔ ∃ a, outcome = .ok a := by
  cases outcome with
  | ok a => simp
  | error other => simp

/-- A step after which the next one fails in the same way, whatever the first
one came to. -/
theorem failure?_bind {first : Except ε α} {next : α → Except ε β} {later : Option ε}
    (h : ∀ a, first = .ok a → failure? (next a) = later) :
    failure? (first.bind next) = (failure? first).or later := by
  cases first with
  | ok a => exact h a rfl
  | error error => rfl

/-- Two steps succeed exactly if the second one does with what the first came to. -/
theorem bind_eq_ok_iff {first : Except ε α} {next : α → Except ε β} {b : β} :
    first.bind next = .ok b ↔ ∃ a, first = .ok a ∧ next a = .ok b := by
  cases first with
  | ok a =>
      constructor
      · intro h
        exact ⟨a, rfl, h⟩
      · rintro ⟨_, ha, h⟩
        rw [← Except.ok.inj ha] at h
        exact h
  | error error =>
      constructor
      · intro h
        cases h
      · rintro ⟨_, ha, -⟩
        cases ha

theorem map_eq_ok_iff {outcome : Except ε α} {f : α → β} {b : β} :
    outcome.map f = .ok b ↔ ∃ a, outcome = .ok a ∧ f a = b := by
  cases outcome with
  | ok a => simp [Except.map]
  | error error => simp [Except.map]

theorem mapM_cons_eq (f : α → Except ε β) (x : α) (xs : List α) :
    (x :: xs).mapM f = (f x).bind fun y => (xs.mapM f).bind fun ys => .ok (y :: ys) := by
  rw [List.mapM_cons]
  rfl

theorem failure?_mapM (f : α → Except ε β) (xs : List α) :
    failure? (xs.mapM f) = xs.findSome? fun x => failure? (f x) := by
  induction xs with
  | nil => rfl
  | cons x rest ih =>
      rw [mapM_cons_eq, List.findSome?_cons, ← ih]
      cases f x with
      | error error => rfl
      | ok y => cases rest.mapM f <;> rfl

theorem mapM_eq_ok_iff {f : α → Except ε β} {xs : List α} {ys : List β} :
    xs.mapM f = .ok ys ↔ List.Forall₂ (fun x y => f x = .ok y) xs ys := by
  induction xs generalizing ys with
  | nil =>
      rw [List.mapM_nil, List.forall₂_nil_left_iff]
      constructor
      · intro h
        exact (Except.ok.inj h).symm
      · rintro rfl
        rfl
  | cons x rest ih =>
      rw [mapM_cons_eq, List.forall₂_cons_left_iff]
      constructor
      · intro h
        obtain ⟨y, hy, hmore⟩ := bind_eq_ok_iff.1 h
        obtain ⟨more, hrest, hys⟩ := bind_eq_ok_iff.1 hmore
        exact ⟨y, more, hy, ih.1 hrest, (Except.ok.inj hys).symm⟩
      · rintro ⟨y, more, hy, hmore, rfl⟩
        rw [hy, ih.2 hmore]
        rfl

/-- What holds of whatever a step comes to holds of all that the steps come to. -/
theorem forall_of_mapM {f : α → Except ε β} {P : β → Prop} (hf : ∀ x y, f x = .ok y → P y)
    {xs : List α} {ys : List β} (h : xs.mapM f = .ok ys) : ∀ y ∈ ys, P y := by
  induction mapM_eq_ok_iff.1 h with
  | nil => simp
  | cons hxy hrest ih =>
      intro y hy
      rcases List.mem_cons.1 hy with rfl | hy
      · exact hf _ _ hxy
      · exact ih (mapM_eq_ok_iff.2 hrest) y hy

end LoadScript
