import Catena.Parser

/-!
# Wrapping actions

What parsers around one or more others do: they change the state the inner one sees, or what is left
of its result.
-/

namespace Catena.Action

/-- Leaves the result settled: snapshots only on failed states. -/
def settled (body : Action) : Action := fun s => do
  return s.settle (← body s)

theorem settled_settled (body : Action) : settled (settled body) = settled body := by
  funext s
  simp only [settled, bind_assoc, pure_bind, State.settle_settle]

/-- Runs on a fresh value and merges it on success; fails on the state as it is otherwise. -/
def absorb (merge : MergeFunction) (initial : Value) (body : Action) : Action := fun s => do
  let sub ← body { s with matched := s.noText, value := initial, ok := true, lastGood := none }
  if !sub.ok then return s.failed
  let value ← merge.call (s.value, sub.value, sub.matched)
  return { sub with value, ok := true, lastGood := s.lastGood }

/-- Changes the matched text of a success; nothing in place of a text leaves it alone. -/
def morph (transform : TransformFunction) (body : Action) : Action := fun s => do
  let result ← body s
  if !result.ok then return result
  match ← transform.call result.matched with
  | .null => return result
  | text => return { result with matched := text }

/-- Moves the result to a fresh buffer. -/
def force (body : Action) : Action := fun s => do
  let result ← body s
  Run.need .mistyped result.detach

/-- Gives back what was consumed. -/
def noConsume (body : Action) : Action := fun s => do
  return { (← body s) with source := s.source, pos := s.pos, limit := s.limit }

/-- Gives back the built value. -/
def noBuild (body : Action) : Action := fun s => do
  return { (← body s) with value := s.value }

/-- Stops signals of some kinds and goes on from the state before them. -/
def catches (kinds : List SignalKind) (shown : Thunk String) (body handler : Action) :
    Action := fun s =>
  (body s).rescue fun
    | .signal signal =>
      if kinds.any signal.kind.isA then some do
        Run.log (.intercepted signal.kind.name shown s.pos)
        handler s
      else none
    | _ => none

/-- Does what the first action that succeeds does, or the last one. -/
def firstOf (first : Action) : List Action → Action
  | [] => first
  | next :: rest => fun s => do
    let result ← first s
    if result.ok then return result else firstOf next rest s

end Catena.Action
