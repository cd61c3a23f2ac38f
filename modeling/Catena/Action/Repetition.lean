import Catena.Parser

/-!
# Repetition

An action repeated while its rounds succeed, consume something and are allowed to go on. The state
after a round starts the next one, with the text of all rounds so far.
-/

namespace Catena.Action

/-- Where a repetition stands. -/
structure Rounds where
  count : Nat
  /-- The text of all of them. -/
  matched : Value
  /-- The state the next round starts on. -/
  current : State

/-- One more round. It is the last one if the action fails, if it changes nothing about how much is
left, or if `proceed` says so from its result and its index; a failed round leaves no trace. -/
def round (body : Action) (proceed : State → Nat → Run Bool) (rounds : Rounds) :
    Run (ForInStep Rounds) := do
  let left := rounds.current.remaining
  let result ← body rounds.current
  if !result.ok then return .done rounds
  let matched ← Run.need (.ofSum rounds.matched result.matched)
    (rounds.matched.plus? result.matched)
  let goesOn ← proceed result rounds.count
  let next := ⟨rounds.count + 1, matched, { result with matched }⟩
  if goesOn && result.remaining != left then return .yield next else return .done next

/-- Repeats an action for at most the given number of rounds; `spent` ends a repetition that no
round has ended. -/
def repeatRounds (body : Action) (proceed : State → Nat → Run Bool) (spent : Rounds → Run Rounds) :
    Nat → Rounds → Run Rounds :=
  Run.loop (round body proceed) spent

/-- Repeats an action until a round ends it. A round goes on only if it changed how much is left, so
that rounds which give nothing back are at most one more than there are items; `patience` grants
further ones. -/
def repeatOpen (patience : Nat) (body : Action) (proceed : State → Nat → Run Bool) (s : State) :
    Run Rounds :=
  repeatRounds body proceed (fun _ => Run.exhausted) (s.remaining.toNat + 1 + patience)
    ⟨0, s.noText, s⟩

/-- Repeats an action between two bounds, a negative one being open. -/
def many (patience : Nat) (least most : Int) (body : Action) : Action := fun s => do
  let proceed : State → Nat → Run Bool := fun _ _ => return true
  let rounds ←
    if most < 0 then repeatOpen patience body proceed s
    else repeatRounds body proceed pure most.toNat ⟨0, s.noText, s⟩
  return { rounds.current with matched := rounds.matched, ok := least ≤ rounds.count }

/-- Repeats an action while a test of each round holds, or until it does. Always succeeds. -/
def repeated (patience : Nat) (test : RoundFunction) (stopsWhenTrue : Bool) (body : Action) :
    Action := fun s => do
  let proceed : State → Nat → Run Bool := fun result index =>
    return (← test.test (result.value, result.matched, index)) != stopsWhenTrue
  let rounds ← repeatOpen patience body proceed s
  return { rounds.current with matched := rounds.matched, ok := true }

end Catena.Action
