import Catena.State.Position

/-!
# Signals

Typed errors that leave a parse past ordinary failure until a parser catches their kind. A kind is
below its parents, of which it may have several, and catching a kind catches every kind below it.
-/

namespace Catena

/-- A kind of signal, with the kinds it is directly below. -/
inductive SignalKind where
  | kind (name : String) (parents : List SignalKind)

namespace SignalKind

def root (name : String) : SignalKind :=
  kind name []

def sub (parent : SignalKind) (name : String) : SignalKind :=
  kind name [parent]

def name : SignalKind → String
  | kind n _ => n

mutual

def same : SignalKind → SignalKind → Bool
  | kind n ps, kind m qs => n == m && sameAll ps qs

def sameAll : List SignalKind → List SignalKind → Bool
  | [], [] => true
  | p :: ps, q :: qs => same p q && sameAll ps qs
  | _, _ => false

end

mutual

/-- Whether a kind is the other one or below it. -/
def isA : SignalKind → SignalKind → Bool
  | kind n ps, k => same (kind n ps) k || anyIsA ps k

def anyIsA : List SignalKind → SignalKind → Bool
  | [], _ => false
  | p :: ps, k => isA p k || anyIsA ps k

end

/-- The kind of what is raised for want of a next item. A signal may be below it too. -/
def endOfIteration : SignalKind :=
  root "StopIteration"

end SignalKind

structure Signal where
  kind : SignalKind
  msg : Option String
  /-- The state it was raised on. -/
  state : Option State
  /-- Notes added to it, the earliest first. -/
  notes : List String

namespace Signal

def bare (kind : SignalKind) (msg : Option String) : Signal where
  kind := kind
  msg := msg
  state := none
  notes := []

/-- Adds a note on the position of a state, if there can be one. -/
def withNote (signal : Signal) (state : State) (msg : Option String) : Except Excess Signal :=
  (state.note msg).map fun note => { signal with notes := signal.notes ++ [note] }

/-- A signal as it is raised on a state, with a note on the position. -/
def raised (kind : SignalKind) (msg : Option String) (state : State) : Except Excess Signal :=
  { bare kind msg with state := some state }.withNote state none

/-- Adds a note on the position of a state for each of the messages. -/
def withNotes (signal : Signal) (state : State) (msgs : List (Option String)) :
    Except Excess Signal :=
  msgs.foldlM (fun noted msg => noted.withNote state msg) signal

def message (signal : Signal) : String :=
  signal.msg.getD ""

def pos (signal : Signal) : Option Int :=
  signal.state.map (·.pos)

end Signal

end Catena
