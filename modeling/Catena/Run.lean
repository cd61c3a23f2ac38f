import Catena.Event
import Catena.Fault

/-!
# Runs

A computation that leaves events behind and then returns, raises a fault, or is cut off because what
was granted to it did not suffice. Runs follow each other as a lawful monad; a loop of them takes no
more room the longer it is.
-/

namespace Catena

inductive Outcome (α : Type) where
  | returned (result : α)
  | raised (fault : Fault)
  /-- The run was cut off; if more is granted to it, it may end. -/
  | exhausted

/-- The events of a computation and how it ends. -/
structure Run (α : Type) where
  events : List Event
  outcome : Outcome α

namespace Run

variable {α β : Type}

/-- Goes on from a result, after the events that led to it. -/
def bind (x : Run α) (next : α → Run β) : Run β :=
  match x.outcome with
  | .returned a => ⟨x.events ++ (next a).events, (next a).outcome⟩
  | .raised fault => ⟨x.events, .raised fault⟩
  | .exhausted => ⟨x.events, .exhausted⟩

instance : Monad Run where
  pure a := ⟨[], .returned a⟩
  bind := bind

def log (event : Event) : Run Unit :=
  ⟨[event], .returned ()⟩

def raise (fault : Fault) : Run α :=
  ⟨[], .raised fault⟩

def exhausted : Run α :=
  ⟨[], .exhausted⟩

/-- The result of an operation that may not be defined. -/
def need (defect : Defect) : Option α → Run α
  | some a => pure a
  | none => raise (.defect defect)

/-- Goes on from a fault that a handler takes on, after the events that led to it. -/
def rescue (x : Run α) (handler : Fault → Option (Run α)) : Run α :=
  match x.outcome with
  | .raised fault =>
    match handler fault with
    | some y => ⟨x.events ++ y.events, y.outcome⟩
    | none => x
  | _ => x

theorem pure_eq (a : α) : (pure a : Run α) = ⟨[], .returned a⟩ := rfl

@[simp] theorem bind_returned (events : List Event) (a : α) (next : α → Run β) :
    (⟨events, .returned a⟩ : Run α) >>= next = ⟨events ++ (next a).events, (next a).outcome⟩ := rfl

@[simp] theorem bind_raised (events : List Event) (fault : Fault) (next : α → Run β) :
    (⟨events, .raised fault⟩ : Run α) >>= next = ⟨events, .raised fault⟩ := rfl

@[simp] theorem bind_exhausted (events : List Event) (next : α → Run β) :
    (⟨events, .exhausted⟩ : Run α) >>= next = ⟨events, .exhausted⟩ := rfl

instance : LawfulMonad Run := LawfulMonad.mk' Run
  (by rintro α ⟨events, _ | _ | _⟩ <;> simp [Functor.map, bind])
  (by intro α β a next; rfl)
  (by
    rintro α β γ ⟨events, a | _ | _⟩ f g
    · simp only [bind_returned]
      rcases f a with ⟨_, _ | _ | _⟩ <;> simp
    all_goals rfl)

/-! ### Loops -/

/-- Leaves earlier events, the latest first, before those of a computation. -/
def after (earlier : List Event) (x : Run α) : Run α :=
  ⟨earlier.reverseAux x.events, x.outcome⟩

/-- A loop that has left earlier events, the latest first. -/
def loopAfter (step : α → Run (ForInStep α)) (spent : α → Run α) : Nat → List Event → α → Run α
  | 0, earlier, a => after earlier (spent a)
  | left + 1, earlier, a =>
    match step a with
    | ⟨events, .returned (.yield b)⟩ => loopAfter step spent left (events.reverse ++ earlier) b
    | ⟨events, .returned (.done b)⟩ => after earlier ⟨events, .returned b⟩
    | ⟨events, .raised fault⟩ => after earlier ⟨events, .raised fault⟩
    | ⟨events, .exhausted⟩ => after earlier ⟨events, .exhausted⟩

/-- Takes steps until one is the last, or until there have been as many as given; then `spent` has
the last word. -/
def loop (step : α → Run (ForInStep α)) (spent : α → Run α) (count : Nat) (a : α) : Run α :=
  loopAfter step spent count [] a

/-- What a loop does after a step. -/
def goOn (next : α → Run α) : ForInStep α → Run α
  | .yield b => next b
  | .done b => pure b

@[simp] theorem after_nil (x : Run α) : after [] x = x := rfl

theorem after_append (earlier : List Event) (events : List Event) (x : Run α) :
    after (events.reverse ++ earlier) x = after earlier ⟨events ++ x.events, x.outcome⟩ := by
  simp [after, List.reverseAux_eq]

theorem loopAfter_eq (step : α → Run (ForInStep α)) (spent : α → Run α) (count : Nat)
    (earlier : List Event) (a : α) :
    loopAfter step spent count earlier a = after earlier (loop step spent count a) := by
  induction count generalizing earlier a with
  | zero => rfl
  | succ count ih =>
    rcases h : step a with ⟨events, (_ | b) | _ | _⟩ <;> simp only [loop, loopAfter, h]
    · rfl
    · rw [ih, ih (_ ++ _), after_append, after_append, after_nil]
    all_goals rfl

@[simp] theorem loop_zero (step : α → Run (ForInStep α)) (spent : α → Run α) (a : α) :
    loop step spent 0 a = spent a := rfl

theorem loop_succ (step : α → Run (ForInStep α)) (spent : α → Run α) (count : Nat) (a : α) :
    loop step spent (count + 1) a = step a >>= goOn (loop step spent count) := by
  rcases h : step a with ⟨events, (b | b) | _ | _⟩ <;> simp only [loop, loopAfter, h]
  · simp [goOn, pure_eq]
  · rw [loopAfter_eq, after_append]
    rfl
  all_goals rfl

end Run

/-- What a parser does to a state. -/
abbrev Action := State → Run State

end Catena
