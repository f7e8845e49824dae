import LoadScript.Error
import LoadScript.Log.Event

/-!
# Steps that report events and may fail

A `Traced` step has an outcome and the events on the way to it. The events are there whether the
step succeeds or fails: a failure ends the steps and keeps what was reported before it.
-/

namespace LoadScript

/-- A step that reports events and may fail. -/
@[ext]
structure Traced (α : Type) where
  events : List Log.Event
  outcome : Except Error α

namespace Traced

variable {α β : Type}

def report (event : Log.Event) : Traced Unit := ⟨[event], .ok ()⟩

def ofExcept (outcome : Except Error α) : Traced α := ⟨[], outcome⟩

def fail (error : Error) : Traced α := ofExcept (.error error)

/-- One step after another; a failure of the first is the failure of both. -/
def andThen (first : Traced α) (next : α → Traced β) : Traced β :=
  match first.outcome with
  | .error error => ⟨first.events, .error error⟩
  | .ok a =>
    let second := next a
    ⟨first.events ++ second.events, second.outcome⟩

instance : Monad Traced where
  pure a := ofExcept (.ok a)
  bind := andThen

@[simp] theorem outcome_pure (a : α) : (pure a : Traced α).outcome = .ok a := rfl

@[simp] theorem events_pure (a : α) : (pure a : Traced α).events = [] := rfl

@[simp] theorem outcome_report (event : Log.Event) : (report event).outcome = .ok () := rfl

@[simp] theorem events_report (event : Log.Event) : (report event).events = [event] := rfl

@[simp] theorem outcome_ofExcept (outcome : Except Error α) :
    (ofExcept outcome).outcome = outcome := rfl

@[simp] theorem events_ofExcept (outcome : Except Error α) : (ofExcept outcome).events = [] := rfl

@[simp] theorem outcome_fail (error : Error) : (fail error : Traced α).outcome = .error error := rfl

@[simp] theorem outcome_bind (first : Traced α) (next : α → Traced β) :
    (first >>= next).outcome = first.outcome.bind fun a => (next a).outcome := by
  simp only [bind, andThen]
  split <;> simp_all [Except.bind]

@[simp] theorem outcome_map (f : α → β) (step : Traced α) :
    (f <$> step).outcome = step.outcome.map f := by
  show (step >>= fun a => pure (f a)).outcome = _
  rw [outcome_bind]
  cases step.outcome <;> rfl

private theorem map_id {α : Type} (step : Traced α) : id <$> step = step := by
  obtain ⟨events, outcome⟩ := step
  cases outcome <;> simp [Functor.map, andThen, ofExcept]

private theorem pure_andThen {α β : Type} (a : α) (next : α → Traced β) :
    (pure a >>= next) = next a := by
  simp [bind, pure, andThen, ofExcept]

private theorem andThen_assoc {α β γ : Type} (step : Traced α) (f : α → Traced β)
    (g : β → Traced γ) : (step >>= f >>= g) = step >>= fun a => f a >>= g := by
  obtain ⟨events, outcome⟩ := step
  cases outcome with
  | error e => rfl
  | ok a =>
    simp only [bind, andThen]
    cases (f a).outcome <;> simp

instance : LawfulMonad Traced := LawfulMonad.mk' Traced map_id pure_andThen andThen_assoc

end Traced

end LoadScript
