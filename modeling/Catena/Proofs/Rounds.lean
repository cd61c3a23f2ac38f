import Catena.Meaning
import Catena.Proofs.Outcome

/-!
# Rounds of a repetition

What holds where a repetition ends: whatever it starts with and every round that succeeds keeps.
`Action.round_returned` is the step, and the loop carries it to `many_returned` and
`repeated_returned`.
-/

namespace Catena

theorem Run.loop_returned {α : Type} {I : α → Prop} {step : α → Run (ForInStep α)}
    {spent : α → Run α}
    (turn : ∀ a b, I a → (step a).outcome = .returned (.yield b) ∨
      (step a).outcome = .returned (.done b) → I b)
    (last : ∀ a b, I a → (spent a).outcome = .returned b → I b) {count : Nat} {a b : α}
    (start : I a) (h : (Run.loop step spent count a).outcome = .returned b) : I b := by
  induction count generalizing a with
  | zero => exact last a b start h
  | succ count ih =>
    rw [loop_succ] at h
    obtain ⟨next, run, h⟩ := bind_returned_iff.mp h
    cases next with
    | yield c => exact ih (turn a c start (.inl run)) h
    | done c =>
      obtain rfl := pure_returned_iff.mp h
      exact turn a c start (.inr run)

namespace Action

variable {body : Action} {proceed : State → Nat → Run Bool}

def Rounds.next (rounds : Rounds) (result : State) (matched : Value) : Rounds :=
  ⟨rounds.count + 1, matched, { result with matched }⟩

/-- A round that fails leaves everything as it was, and is the last one. -/
theorem round_returned {rounds : Rounds} {turn : ForInStep Rounds}
    (h : (round body proceed rounds).outcome = .returned turn) :
    (∃ result, (body rounds.current).outcome = .returned result ∧ result.ok = false ∧
      turn = .done rounds) ∨
    (∃ result matched, (body rounds.current).outcome = .returned result ∧ result.ok = true ∧
      rounds.matched.plus? result.matched = some matched ∧
      (turn = .yield (rounds.next result matched) ∨ turn = .done (rounds.next result matched))) := by
  obtain ⟨result, run, h⟩ := Run.bind_returned_iff.mp h
  by_cases good : result.ok = true
  · rw [if_neg (by simp [good])] at h
    obtain ⟨matched, sum, h⟩ := Run.bind_returned_iff.mp h
    obtain ⟨goesOn, -, h⟩ := Run.bind_returned_iff.mp h
    refine .inr ⟨result, matched, run, good, Run.need_returned_iff.mp sum, ?_⟩
    split at h
    · exact .inl (Run.pure_returned_iff.mp h).symm
    · exact .inr (Run.pure_returned_iff.mp h).symm
  · rw [Bool.not_eq_true] at good
    rw [if_pos (by simp [good])] at h
    exact .inl ⟨result, run, good, (Run.pure_returned_iff.mp h).symm⟩

def Lasting (body : Action) (I : Rounds → Prop) : Prop :=
  ∀ rounds result matched, I rounds → (body rounds.current).outcome = .returned result →
    result.ok = true → rounds.matched.plus? result.matched = some matched →
    I (rounds.next result matched)

variable {I : Rounds → Prop} {s r : State}

theorem repeatRounds_returned (lasting : Lasting body I) {spent : Rounds → Run Rounds}
    (last : ∀ rounds ended, I rounds → (spent rounds).outcome = .returned ended → I ended)
    {count : Nat} {rounds ended : Rounds} (start : I rounds)
    (h : (repeatRounds body proceed spent count rounds).outcome = .returned ended) : I ended := by
  refine Run.loop_returned (fun rounds after holds turn => ?_) last start h
  obtain turn | turn := turn <;>
    obtain ⟨_, _, _, same⟩ | ⟨result, matched, run, good, sum, same | same⟩ := round_returned turn <;>
    cases same
  · exact lasting rounds result matched holds run good sum
  · exact holds
  · exact lasting rounds result matched holds run good sum

theorem repeatOpen_returned (lasting : Lasting body I) (start : I ⟨0, s.noText, s⟩)
    {patience : Nat} {ended : Rounds}
    (h : (repeatOpen patience body proceed s).outcome = .returned ended) : I ended :=
  repeatRounds_returned lasting (fun _ _ _ spent => by cases spent) start h

theorem many_returned (lasting : Lasting body I) (start : I ⟨0, s.noText, s⟩) {patience : Nat}
    {least most : Int} (h : (many patience least most body s).outcome = .returned r) :
    ∃ rounds, I rounds ∧
      r = { rounds.current with matched := rounds.matched, ok := least ≤ rounds.count } := by
  unfold many at h
  by_cases isOpen : most < 0
  · simp only [if_pos isOpen] at h
    obtain ⟨rounds, ended, h⟩ := Run.bind_returned_iff.mp h
    exact ⟨rounds, repeatOpen_returned lasting start ended, (Run.pure_returned_iff.mp h).symm⟩
  · simp only [if_neg isOpen] at h
    obtain ⟨rounds, ended, h⟩ := Run.bind_returned_iff.mp h
    have holds : I rounds := by
      refine repeatRounds_returned lasting (fun rounds after holds spent => ?_) start ended
      exact Run.pure_returned_iff.mp spent ▸ holds
    exact ⟨rounds, holds, (Run.pure_returned_iff.mp h).symm⟩

theorem repeated_returned (lasting : Lasting body I) (start : I ⟨0, s.noText, s⟩) {patience : Nat}
    {test : RoundFunction} {stopsWhenTrue : Bool}
    (h : (repeated patience test stopsWhenTrue body s).outcome = .returned r) :
    ∃ rounds, I rounds ∧ r = { rounds.current with matched := rounds.matched, ok := true } := by
  obtain ⟨rounds, ended, h⟩ := Run.bind_returned_iff.mp h
  exact ⟨rounds, repeatOpen_returned lasting start ended, (Run.pure_returned_iff.mp h).symm⟩

end Action

end Catena
