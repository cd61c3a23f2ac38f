import Catena.Parser
import Catena.Sequence.Case

/-!
# Elementary actions

What the steps without parts do to a state. None but a step function reads outside the window of a
state whose window lies in its buffer.
-/

namespace Catena.Action

/-- Consumes the given items, in either case if the case does not matter. -/
def literal (text : Plain) (caseSensitive : Bool) : Action := fun s => do
  let length ← Run.need .mistyped text.length?
  match s.peek length with
  | none => return s.mismatch
  | some chunk =>
    if text.isSame chunk then return s.advance length
    if caseSensitive then return s.mismatch
    let found ← Run.need .caseless chunk.lower?
    let wanted ← Run.need .caseless (text.sequence? >>= Sequence.lower?)
    return if Value.sameSequence found wanted then s.advance length else s.mismatch

def outcome (ok : Bool) : Action := fun s =>
  return if ok then s.pass else s.mismatch

/-- Succeeds if a test holds; fails on the state as it is otherwise. -/
def check (test : TextFunction) : Action := fun s => do
  return if ← test.test (s.value, s.matched) then s.pass else s.failed

def build (function : TextFunction) : Action := fun s => do
  return { s with value := ← function.call (s.value, s.matched), matched := s.noText }

/-- Consumes one item that a test accepts. -/
def singleItem (test : ItemFunction) : Action := fun s => do
  if s.atEnd then return s.mismatch
  let item ← Run.need .outOfRange (s.source.item? s.pos)
  return if ← test.test item then s.advance 1 else s.mismatch

/-- Goes on behind an item, unless that stops a run. -/
def scanItem (test : ItemFunction) (stopsWhenTrue : Bool) (source : Buffer) (pos : Int) :
    Run (ForInStep Int) := do
  let item ← Run.need .outOfRange (source.item? pos)
  return if (← test.test item) != stopsWhenTrue then .yield (pos + 1) else .done pos

/-- The offset of the first item, of the next `count` ones, that stops a run. -/
def scan (test : ItemFunction) (stopsWhenTrue : Bool) (source : Buffer) : Nat → Int → Run Int :=
  Run.loop (scanItem test stopsWhenTrue source) pure

/-- Consumes items up to the one that stops the run, and that one; it counts as matched text if the
terminator is kept. -/
def itemRun (test : ItemFunction) (keepTerminator stopsWhenTrue : Bool) : Action := fun s => do
  let stop ← scan test stopsWhenTrue s.source s.remaining.toNat s.pos
  let next := if stop < s.limit then stop + 1 else stop
  let text := s.source.slice s.pos (if keepTerminator then next else stop)
  return s.advanceWith (next - s.pos) (.seq text)

def everything : Action := fun s =>
  return s.advance s.remaining

def endOfInput : Action := fun s =>
  return if s.atEnd then s.pass else s.mismatch

/-- Whether a throw step raises its signal on a state. -/
def fires (trigger : Trigger) (ok : Bool) : Bool :=
  match trigger with
  | .onSuccess => ok
  | .onFailure => !ok
  | .always => true

/-- Raises a signal, or passes the state through. -/
def throws (kind : SignalKind) (msg : Option String) (trigger : Trigger) : Action := fun s =>
  if fires trigger s.ok then
    match Signal.raised kind msg s with
    | .ok signal => Run.raise (.signal signal)
    | .error e => Run.raise (.defect (.excess e))
  else return if s.ok then s.pass else s

end Catena.Action
