import Catena.Callback

/-!
# Agreement of runs

Two runs agree if they call the same functions with the same arguments and end alike: with related
results, with related faults, or both cut off. Agreement goes through everything that runs are put
together from; the rule for loops carries an invariant that knows how many turns are left.
-/

namespace Catena

variable {α β γ δ : Type}

def Outcome.Agree (R : α → β → Prop) (E : Fault → Fault → Prop) : Outcome α → Outcome β → Prop
  | .returned a, .returned b => R a b
  | .raised fault, .raised fault' => E fault fault'
  | .exhausted, .exhausted => True
  | _, _ => False

/-- Two runs make the same calls and end alike. -/
structure Run.Agree (R : α → β → Prop) (E : Fault → Fault → Prop) (x : Run α) (y : Run β) :
    Prop where
  calls : callsOf x.events = callsOf y.events
  outcome : x.outcome.Agree R E y.outcome

theorem Outcome.Agree.bind {R : α → β → Prop} {S : γ → δ → Prop}
    {E : Fault → Fault → Prop} {x : Run α} {y : Run β} {f : α → Run γ} {g : β → Run δ}
    (h : x.outcome.Agree R E y.outcome)
    (next : ∀ a b, x.outcome = .returned a → y.outcome = .returned b → R a b →
      (f a).outcome.Agree S E (g b).outcome) :
    (x >>= f).outcome.Agree S E (y >>= g).outcome := by
  rcases x with ⟨_, a | _ | _⟩ <;> rcases y with ⟨_, b | _ | _⟩ <;> simp only [Outcome.Agree] at h
  · exact next a b rfl rfl h
  · exact h
  · trivial

theorem Outcome.Agree.refl {E : Fault → Fault → Prop} (reflexive : ∀ fault, E fault fault)
    (x : Outcome α) : x.Agree Eq E x := by
  cases x with
  | returned a => rfl
  | raised fault => exact reflexive fault
  | exhausted => trivial

theorem Outcome.Agree.of_returned {R : α → β → Prop} {E : Fault → Fault → Prop} {x : Outcome α}
    {y : Outcome β} (h : x.Agree R E y) {a : α} (left : x = .returned a) :
    ∃ b, y = .returned b ∧ R a b := by
  subst left
  cases y with
  | returned b => exact ⟨b, rfl, h⟩
  | raised _ | exhausted => exact h.elim

theorem callsOf_append (first second : List Event) :
    callsOf (first ++ second) = callsOf first ++ callsOf second :=
  List.filterMap_append

namespace Run.Agree

variable {R : α → β → Prop} {S : γ → δ → Prop} {E : Fault → Fault → Prop}

theorem pure {a : α} {b : β} (h : R a b) : Run.Agree R E (Pure.pure a) (Pure.pure b) :=
  ⟨rfl, h⟩

theorem raise {fault fault' : Fault} (h : E fault fault') :
    Run.Agree R E (Run.raise fault) (Run.raise fault') :=
  ⟨rfl, h⟩

theorem exhausted : Run.Agree R E Run.exhausted Run.exhausted :=
  ⟨rfl, trivial⟩

/-- A run agrees with itself if its end is related to itself. -/
theorem self {R : α → α → Prop} {x : Run α} (result : ∀ a, x.outcome = .returned a → R a a)
    (ended : ∀ fault, x.outcome = .raised fault → E fault fault) : Run.Agree R E x x := by
  refine ⟨rfl, ?_⟩
  rcases x with ⟨events, a | fault | _⟩
  · exact result a rfl
  · exact ended fault rfl
  · trivial

theorem refl (x : Run α) (h : ∀ fault, x.outcome = .raised fault → E fault fault) :
    Run.Agree Eq E x x :=
  self (fun _ _ => rfl) h

theorem mono {R' : α → β → Prop} {E' : Fault → Fault → Prop} {x : Run α} {y : Run β}
    (h : x.Agree R E y) (weaker : ∀ a b, R a b → R' a b)
    (milder : ∀ fault fault', E fault fault' → E' fault fault') : x.Agree R' E' y := by
  obtain ⟨calls, outcome⟩ := h
  refine ⟨calls, ?_⟩
  rcases x with ⟨_, _ | _ | _⟩ <;> rcases y with ⟨_, _ | _ | _⟩ <;>
    simp only [Outcome.Agree] at outcome ⊢
  · exact weaker _ _ outcome
  · exact milder _ _ outcome

/-- What holds of every result of the first run holds where the runs agree. -/
theorem and_left {P : α → Prop} {x : Run α} {y : Run β} (h : x.Agree R E y)
    (holds : ∀ a, x.outcome = .returned a → P a) :
    x.Agree (fun a b => R a b ∧ P a) E y := by
  obtain ⟨calls, outcome⟩ := h
  refine ⟨calls, ?_⟩
  rcases x with ⟨_, a | _ | _⟩ <;> rcases y with ⟨_, _ | _ | _⟩ <;>
    simp only [Outcome.Agree] at outcome ⊢
  · exact ⟨outcome, holds a rfl⟩
  · exact outcome

theorem returned {x : Run α} {y : Run β} (h : x.Agree R E y) {a : α} {b : β}
    (left : x.outcome = .returned a) (right : y.outcome = .returned b) : R a b := by
  have both := h.outcome
  rwa [left, right] at both

theorem of_returned {x : Run α} {y : Run β} (h : x.Agree R E y) {a : α}
    (left : x.outcome = .returned a) : ∃ b, y.outcome = .returned b ∧ R a b :=
  h.outcome.of_returned left

theorem raised {x : Run α} {y : Run β} (h : x.Agree R E y) {fault fault' : Fault}
    (left : x.outcome = .raised fault) (right : y.outcome = .raised fault') : E fault fault' := by
  have both := h.outcome
  rwa [left, right] at both

theorem bind {x : Run α} {y : Run β} {f : α → Run γ} {g : β → Run δ} (h : x.Agree R E y)
    (next : ∀ a b, R a b → (f a).Agree S E (g b)) : (x >>= f).Agree S E (y >>= g) := by
  obtain ⟨calls, outcome⟩ := h
  rcases x with ⟨events, a | fault | _⟩ <;> rcases y with ⟨events', b | fault' | _⟩ <;>
    simp only [Outcome.Agree] at outcome
  · obtain ⟨later, last⟩ := next a b outcome
    refine ⟨?_, last⟩
    simp only [bind_returned, callsOf_append]
    rw [calls, later]
  · exact ⟨calls, outcome⟩
  · exact ⟨calls, trivial⟩

theorem bind_eq {x y : Run α} {f : α → Run γ} {g : α → Run δ} (h : x.Agree Eq E y)
    (next : ∀ a, (f a).Agree S E (g a)) : (x >>= f).Agree S E (y >>= g) :=
  h.bind fun a _ same => same ▸ next a

theorem ite {c c' : Prop} [Decidable c] [Decidable c'] {x y : Run α} {x' y' : Run β}
    (same : c ↔ c') (yes : x.Agree R E x') (no : y.Agree R E y') :
    (if c then x else y).Agree R E (if c' then x' else y') := by
  by_cases h : c
  · rwa [if_pos h, if_pos (same.mp h)]
  · rwa [if_neg h, if_neg (fun h' => h (same.mpr h'))]

/-- The branches may use which of them is taken. -/
theorem branch {c c' : Bool} {x y : Run α} {x' y' : Run β} (same : c = c')
    (yes : c = true → x.Agree R E x') (no : c = false → y.Agree R E y') :
    (if c then x else y).Agree R E (if c' then x' else y') := by
  subst same
  cases c with
  | true => exact yes rfl
  | false => exact no rfl

theorem need {defect : Defect} {o : Option α} {p : Option β} (h : Option.Rel R o p)
    (missing : E (.defect defect) (.defect defect)) :
    Run.Agree R E (Run.need defect o) (Run.need defect p) := by
  cases h with
  | some h => exact pure h
  | none => exact raise missing

/-- The events of interest are calls; other ones may differ. -/
theorem log {event event' : Event} (h : event.call? = event'.call?) :
    Run.Agree Eq E (Run.log event) (Run.log event') :=
  ⟨by simp only [Run.log, callsOf, List.filterMap_cons, List.filterMap_nil, h], rfl⟩

theorem call {α β : Type} [Listed α] (f : Callback α β) (a : α)
    (complains : ∀ complaint : Complaint, E complaint.fault complaint.fault) :
    Run.Agree Eq E (f.call a) (f.call a) := by
  refine refl _ fun fault raised => ?_
  unfold Callback.call at raised
  split at raised
  · exact absurd raised (by simp [Run.log, pure_eq])
  · simp only [Run.log, bind_returned, Run.raise, Outcome.raised.injEq] at raised
    exact raised ▸ complains _

theorem test {α : Type} [Listed α] (f : Callback α Value) (a : α)
    (complains : ∀ complaint : Complaint, E complaint.fault complaint.fault) :
    Run.Agree Eq E (f.test a) (f.test a) :=
  bind_eq (call f a complains) fun _ => pure rfl

/-- Handlers agree if they take on the same faults and agree on those. -/
theorem rescue {x : Run α} {y : Run β} {handler : Fault → Option (Run α)}
    {handler' : Fault → Option (Run β)} (h : x.Agree R E y)
    (handled : ∀ fault fault', E fault fault' →
      Option.Rel (Run.Agree R E) (handler fault) (handler' fault')) :
    (x.rescue handler).Agree R E (y.rescue handler') := by
  obtain ⟨calls, outcome⟩ := h
  rcases x with ⟨events, a | fault | _⟩ <;> rcases y with ⟨events', b | fault' | _⟩ <;>
    simp only [Outcome.Agree] at outcome
  · exact ⟨calls, outcome⟩
  · have both := handled fault fault' outcome
    simp only [Run.rescue]
    cases left : handler fault <;> cases right : handler' fault' <;> rw [left, right] at both <;>
      cases both
    · exact ⟨calls, outcome⟩
    · rename_i both
      exact ⟨by rw [callsOf_append, callsOf_append, calls, both.calls], both.outcome⟩
  · exact ⟨calls, trivial⟩

/-! ### Loops -/

def Turn (I J : α → β → Prop) : ForInStep α → ForInStep β → Prop
  | .yield a, .yield b => I a b
  | .done a, .done b => J a b
  | _, _ => False

theorem loop {I : Nat → α → β → Prop} {J : α → β → Prop} {step : α → Run (ForInStep α)}
    {step' : β → Run (ForInStep β)} {spent : α → Run α} {spent' : β → Run β}
    (turn : ∀ left a b, I (left + 1) a b → (step a).Agree (Turn (I left) J) E (step' b))
    (last : ∀ a b, I 0 a b → (spent a).Agree J E (spent' b)) {count : Nat} {a : α} {b : β}
    (start : I count a b) :
    (Run.loop step spent count a).Agree J E (Run.loop step' spent' count b) := by
  induction count generalizing a b with
  | zero => exact last a b start
  | succ left ih =>
    rw [loop_succ, loop_succ]
    refine (turn left a b start).bind fun s t h => ?_
    rcases s with a | a <;> rcases t with b | b <;> simp only [Turn] at h
    · exact pure h
    · exact ih h

end Run.Agree

end Catena
