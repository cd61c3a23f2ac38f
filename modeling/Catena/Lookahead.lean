import Catena.Parser

/-!
# Lookahead

A parser that may match less than it would by itself. Its candidates are tried in the order of its
mode, and the first one after which the rest of the chain succeeds is committed to.
-/

namespace Catena

/-- A parser whose match may be shortened, with its description and what it does. -/
structure Lookahead where
  mode : Mode
  shown : Thunk String
  act : Action

namespace Lookahead

/-- Runs the parser for a candidate. The candidates are iterated over, and no fault that ends an
iteration leaves one as it is. -/
def run (look : Lookahead) : Action := fun s =>
  (look.act s).rescue fun fault =>
    if fault.endsIteration then some (Run.raise (.defect .interrupted)) else none

section Run

variable {look : Lookahead} {s r : State} {fault : Fault}

theorem run_eq (look : Lookahead) (s : State) :
    look.run s = look.act s ∧
      (∀ fault, (look.act s).outcome = .raised fault → fault.endsIteration = false) ∨
    ∃ events cause, look.act s = ⟨events, .raised cause⟩ ∧ cause.endsIteration = true ∧
      look.run s = ⟨events, .raised (.defect .interrupted)⟩ := by
  unfold run Run.rescue
  rcases look.act s with ⟨events, result | cause | _⟩
  · exact .inl ⟨rfl, nofun⟩
  · cases ends : cause.endsIteration with
    | false => exact .inl ⟨by simp [ends], fun fault same => Outcome.raised.inj same ▸ ends⟩
    | true => exact .inr ⟨events, cause, rfl, ends, by simp [ends, Run.raise]⟩
  · exact .inl ⟨rfl, nofun⟩

theorem run_events (look : Lookahead) (s : State) : (look.run s).events = (look.act s).events := by
  obtain ⟨same, -⟩ | ⟨events, cause, act, -, run⟩ := run_eq look s
  · rw [same]
  · rw [run, act]

@[simp] theorem run_returned_iff :
    (look.run s).outcome = .returned r ↔ (look.act s).outcome = .returned r := by
  obtain ⟨same, -⟩ | ⟨events, cause, act, -, run⟩ := run_eq look s
  · rw [same]
  · rw [run, act]
    exact ⟨nofun, nofun⟩

end Run

/-- The length to try after so many others, where `longest` is the unrestricted one. -/
def lengthAt (longest : Int) : Mode → Option (Nat → Int)
  | .reluctant => some fun index => index
  | .greedy => some fun index => longest - index
  | .unordered => none

/-- The state after matching `length` items, if that is a candidate: the unrestricted match, or a
match of all of the input cut to that length. -/
def candidate (look : Lookahead) (s full : State) (longest length : Int) : Run (Option State) :=
  if length = longest then return some full
  else do
    let clipped ← look.run { s with limit := s.pos + length }
    if clipped.ok && clipped.remaining == 0 then
      return some { s with
        pos := s.pos + length, matched := clipped.matched, value := clipped.value, ok := true }
    else return none

/-- What a lookahead tries. -/
structure Trials where
  count : Nat
  /-- Tries one of them, which may give a candidate. -/
  trial : Nat → Run (Option State)

/-- The trials of a lookahead, none of which is run yet; there are none if the parser does not match
at all. -/
def trials (look : Lookahead) (s : State) : Run Trials := do
  let full ← look.run s
  if !full.ok then return ⟨0, fun _ => return none⟩
  let longest := s.remaining - full.remaining
  let lengthAt ← Run.need .unimplemented (lengthAt longest look.mode)
  return ⟨(longest + 1).toNat, fun index => look.candidate s full longest (lengthAt index)⟩

/-- The candidates in trial order. -/
def candidates (look : Lookahead) (s : State) : Run (List State) := do
  let trials ← look.trials s
  let found ← (List.range trials.count).mapM trials.trial
  return found.filterMap id

/-- Where a search stands. -/
structure Search where
  index : Nat
  /-- How many of them gave a candidate. -/
  tried : Nat
  /-- The result after the last candidate. -/
  last : Option State

/-- Tries the next length. The search is over if the rest of the chain succeeds after it. -/
def attempt (look : Lookahead) (s : State) (resume : Action) (trial : Nat → Run (Option State))
    (search : Search) : Run (ForInStep Search) := do
  match ← trial search.index with
  | none => return .yield { search with index := search.index + 1 }
  | some t =>
    let result ← resume t
    let next := ⟨search.index + 1, search.tried + 1, some result⟩
    if !result.ok then return .yield next
    Run.log (.committed look.mode.word look.shown (s.remaining - t.remaining) next.tried)
    return .done next

/-- Tries to resume after each candidate until one succeeds. The result is that of the last
candidate tried. -/
def search (look : Lookahead) (s : State) (resume : Action) : Run (Option State) := do
  let trials ← look.trials s
  return (← Run.loop (look.attempt s resume trials.trial) pure trials.count ⟨0, 0, none⟩).last

end Lookahead

end Catena
