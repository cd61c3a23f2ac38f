import Catena.State

/-!
# Events

What a run leaves behind besides its result: the calls of the functions given to parsers, and
records of the runs, commitments and interceptions in it. Parsers are described in them only when a
record is asked for.
-/

namespace Catena

/-- An argument of a call. -/
inductive Argument where
  | value (v : Value)
  | state (s : State)

/-- Something that happened in a run. -/
inductive Event where
  /-- A function was called; one without a label leaves no mark in the list of calls. -/
  | called (label : Option String) (arguments : List Argument)
  /-- A run began with that many items left. -/
  | started (parser : Thunk String) (left : Int)
  /-- A run returned with that many items left. -/
  | finished (parser : Thunk String) (ok : Bool) (left : Int)
  /-- A lookahead settled for a candidate of that many items, the `tried`-th it tried. -/
  | committed (mode : String) (parser : Thunk String) (taken : Int) (tried : Nat)
  /-- A signal was stopped at a position. -/
  | intercepted (kind : String) (parser : Thunk String) (pos : Int)

namespace Event

def call? : Event → Option (String × List Argument)
  | called (some label) arguments => some (label, arguments)
  | _ => none

/-- The record of an event, after the name of the log it goes to. -/
def record? : Event → Option String
  | called _ _ => none
  | started parser left =>
    some ("chainparse.main: Running " ++ parser.get ++ " on " ++ toString left ++ " item(s)")
  | finished parser ok left =>
    some ("chainparse.main: " ++ parser.get ++ (if ok then " succeeded" else " failed") ++
      " with " ++ toString left ++ " item(s) left")
  | committed mode parser taken tried =>
    some ("chainparse.main: " ++ mode ++ " lookahead " ++ parser.get ++ " committed to " ++
      toString taken ++ " item(s) after " ++ toString tried ++ " trial(s)")
  | intercepted kind parser pos =>
    some ("chainparse.signals: Intercepted " ++ kind ++ " raised within " ++ parser.get ++
      " at position " ++ toString pos)

end Event

/-- The calls among events, in order. -/
def callsOf (events : List Event) : List (String × List Argument) :=
  events.filterMap Event.call?

def recordsOf (events : List Event) : List String :=
  events.filterMap Event.record?

end Catena
