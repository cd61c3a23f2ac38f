import Catena.Callback

/-!
# How runs end

What the end of a run tells about the runs it is put together from.
-/

namespace Catena.Run

variable {α β : Type}

@[simp] theorem pure_returned_iff {a b : α} :
    (pure a : Run α).outcome = .returned b ↔ a = b :=
  ⟨Outcome.returned.inj, congrArg _⟩

theorem bind_returned_iff {x : Run α} {next : α → Run β} {b : β} :
    (x >>= next).outcome = .returned b ↔
      ∃ a, x.outcome = .returned a ∧ (next a).outcome = .returned b := by
  rcases x with ⟨events, a | fault | _⟩
  · constructor
    · exact fun last => ⟨a, rfl, last⟩
    · rintro ⟨a', first, last⟩
      obtain rfl := Outcome.returned.inj first
      exact last
  · constructor
    · intro last
      cases last
    · rintro ⟨a, first, -⟩
      cases first
  · constructor
    · intro last
      cases last
    · rintro ⟨a, first, -⟩
      cases first

@[simp] theorem need_returned_iff {defect : Defect} {o : Option α} {a : α} :
    (need defect o).outcome = .returned a ↔ o = some a := by
  cases o with
  | none => exact ⟨nofun, nofun⟩
  | some b => exact ⟨fun h => congrArg some (Outcome.returned.inj h), fun h => by cases h; rfl⟩

theorem bind_outcome {x : Run α} {a : α} (h : x.outcome = .returned a) (next : α → Run β) :
    (x >>= next).outcome = (next a).outcome := by
  obtain ⟨events, outcome⟩ := x
  subst h
  rfl

theorem bind_outcome_raised {x : Run α} {fault : Fault} (h : x.outcome = .raised fault)
    (next : α → Run β) : (x >>= next).outcome = .raised fault := by
  obtain ⟨events, outcome⟩ := x
  subst h
  rfl

theorem bind_outcome_exhausted {x : Run α} (h : x.outcome = .exhausted) (next : α → Run β) :
    (x >>= next).outcome = .exhausted := by
  obtain ⟨events, outcome⟩ := x
  subst h
  rfl

theorem mapM_returned {run : α → Run β} {result : α → β} {items : List α}
    (each : ∀ item ∈ items, (run item).outcome = .returned (result item)) :
    (items.mapM run).outcome = .returned (items.map result) := by
  induction items with
  | nil => rfl
  | cons item items ih =>
    obtain ⟨here, later⟩ := List.forall_mem_cons.mp each
    rw [List.mapM_cons, bind_outcome here, bind_outcome (ih later)]
    rfl

theorem bind_congr_returned {x : Run α} {f g : α → Run β}
    (h : ∀ a, x.outcome = .returned a → f a = g a) : x >>= f = x >>= g := by
  rcases x with ⟨events, a | fault | _⟩
  · rw [bind_returned, bind_returned, h a rfl]
  · rfl
  · rfl

/-- Runs that end alike go on to ends that are alike. -/
theorem bind_outcome_congr {x y : Run α} {next next' : α → Run β} (h : x.outcome = y.outcome)
    (same : ∀ a, y.outcome = .returned a → (next a).outcome = (next' a).outcome) :
    (x >>= next).outcome = (y >>= next').outcome := by
  obtain ⟨events, outcome⟩ := x
  subst h
  rcases y with ⟨events', a | fault | _⟩
  · exact same a rfl
  · rfl
  · rfl

theorem loop_outcome_congr {step step' : α → Run (ForInStep α)}
    {spent : α → Run α} (same : ∀ a, (step a).outcome = (step' a).outcome) (count : Nat) (a : α) :
    (loop step spent count a).outcome = (loop step' spent count a).outcome := by
  induction count generalizing a with
  | zero => rfl
  | succ count ih =>
    rw [loop_succ, loop_succ]
    refine bind_outcome_congr (same a) fun turn _ => ?_
    cases turn with
    | yield b => exact ih b
    | done b => rfl

theorem events_bind_pure (x : Run α) (f : α → β) : (x >>= fun a => pure (f a)).events = x.events := by
  rcases x with ⟨events, _ | _ | _⟩ <;> simp [pure_eq]

/-- What a computation leaves behind that goes on from a result. -/
theorem events_bind (few : List Event → Prop) {x : Run α} (next : α → Run β) (nothing : few [])
    (later : ∀ a, x.outcome = .returned a → few (next a).events) :
    ∃ last, few last ∧ (x >>= next).events = x.events ++ last := by
  rcases x with ⟨events, a | _ | _⟩
  · exact ⟨_, later a rfl, rfl⟩
  · exact ⟨[], nothing, (List.append_nil _).symm⟩
  · exact ⟨[], nothing, (List.append_nil _).symm⟩

theorem events_bind_all {x : Run α} {next : α → Run β} {P : Event → Prop}
    (first : ∀ event ∈ x.events, P event)
    (later : ∀ a, x.outcome = .returned a → ∀ event ∈ (next a).events, P event) :
    ∀ event ∈ (x >>= next).events, P event := by
  obtain ⟨last, holds, events⟩ := events_bind (fun last => ∀ event ∈ last, P event) next nofun later
  rw [events]
  exact fun event member => (List.mem_append.mp member).elim (first event) (holds event)

theorem rescue_some {events : List Event} {fault : Fault} {handler : Fault → Option (Run α)}
    {y : Run α} (taken : handler fault = some y) :
    (⟨events, .raised fault⟩ : Run α).rescue handler = ⟨events ++ y.events, y.outcome⟩ := by
  simp only [rescue, taken]

theorem rescue_none {events : List Event} {fault : Fault} {handler : Fault → Option (Run α)}
    (left : handler fault = none) :
    (⟨events, .raised fault⟩ : Run α).rescue handler = ⟨events, .raised fault⟩ := by
  simp only [rescue, left]

theorem rescue_returned {x : Run α} {handler : Fault → Option (Run α)} {a : α}
    (h : (x.rescue handler).outcome = .returned a) :
    x.outcome = .returned a ∨ ∃ fault y, x.outcome = .raised fault ∧ handler fault = some y ∧
      y.outcome = .returned a := by
  rcases x with ⟨events, b | fault | _⟩
  · exact .inl h
  · simp only [rescue] at h
    cases taken : handler fault with
    | none =>
      rw [taken] at h
      cases h
    | some y =>
      rw [taken] at h
      exact .inr ⟨fault, y, rfl, taken, h⟩
  · cases h

end Catena.Run

namespace Catena

theorem Callback.call_returned_iff {α β : Type} [Listed α] {f : Callback α β} {a : α}
    {b : β} : (f.call a).outcome = .returned b ↔ f.apply a = .ok b := by
  unfold call
  rw [Run.bind_outcome (a := ()) rfl]
  cases f.apply a with
  | ok c => rw [Run.pure_returned_iff, Except.ok.injEq]
  | error complaint => exact ⟨nofun, nofun⟩

theorem Callback.call_raised {α β : Type} [Listed α] {f : Callback α β} {a : α} {fault : Fault}
    (h : (f.call a).outcome = .raised fault) :
    ∃ complaint, f.apply a = .error complaint ∧ fault = complaint.fault := by
  unfold call at h
  rw [Run.bind_outcome (a := ()) rfl] at h
  cases answer : f.apply a with
  | ok c =>
    rw [answer] at h
    cases h
  | error complaint =>
    rw [answer] at h
    exact ⟨complaint, rfl, (Outcome.raised.inj h).symm⟩

theorem Callback.test_events {α : Type} [Listed α] (test : Callback α Value) (a : α) :
    (test.test a).events = [.called test.label (Listed.arguments a)] := by
  rw [Callback.test, Run.events_bind_pure, Callback.call]
  cases test.apply a <;> rfl

end Catena
