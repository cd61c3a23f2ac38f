import Catena.State

/-!
# Edits of states

Changes of single fields, which nothing checks, and the moves that a step may put together.
-/

namespace Catena

/-- New values for the fields of a state; a field without one is kept. -/
structure Changes where
  source : Option Buffer := none
  pos : Option Int := none
  limit : Option Int := none
  matched : Option Value := none
  value : Option Value := none
  ok : Option Bool := none

/-- Makes the changes, and leaves the last good state alone. -/
def State.change (s : State) (changes : Changes) : State where
  source := changes.source.getD s.source
  pos := changes.pos.getD s.pos
  limit := changes.limit.getD s.limit
  matched := changes.matched.getD s.matched
  value := changes.value.getD s.value
  ok := changes.ok.getD s.ok
  lastGood := s.lastGood

/-- Changes of a state and of its last good state. -/
inductive Edit where
  /-- The last good state is kept. -/
  | keeping (changes : Changes)
  /-- There is no last good state any more. -/
  | clearing (changes : Changes)
  /-- The last good state is an edit of the same state. -/
  | remembering (changes : Changes) (good : Edit)

def State.edit (s : State) : Edit → State
  | .keeping changes => s.change changes
  | .clearing changes => { s.change changes with lastGood := none }
  | .remembering changes good => { s.change changes with lastGood := some (s.edit good) }

inductive Move where
  /-- Consumes items, with a matched text of its own if one is given. -/
  | advance (count : Int) (matched : Option Value)
  | failed
  | detach
  | edit (edit : Edit)

/-- Moves a state; only detaching can be impossible. -/
def State.move (s : State) : Move → Option State
  | .advance count none => some (s.advance count)
  | .advance count (some matched) => some (s.advanceWith count matched)
  | .failed => some s.failed
  | .detach => s.detach
  | .edit edit => some (s.edit edit)

end Catena
