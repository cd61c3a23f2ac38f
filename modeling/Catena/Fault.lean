import Catena.Signal

/-!
# Faults

What ends a run without a result: a signal, a function given to a parser that refuses its arguments,
a placeholder that nothing was put in place of, or an operation that a value does not have.
-/

namespace Catena

/-- Why a function given to a parser refuses its arguments. -/
inductive Refusal where
  /-- The arguments are of the right types but not acceptable. -/
  | rejected (reason : String)
  /-- The function is not defined on values of these types. -/
  | mistyped
  | missing
  | notAState
  | excess (e : Excess)
  /-- The function asks for a next item where there is none. -/
  | drained
deriving DecidableEq, Repr

/-- How a function given to a parser fails: by a signal of its own, or by refusing. -/
inductive Complaint where
  | signal (kind : SignalKind) (msg : Option String)
  | refusal (reason : Refusal)

/-- What parsers themselves cannot do with the states they meet. -/
inductive Defect where
  | unimplemented
  /-- Values of these types do not join, or have no length. -/
  | mistyped
  /-- There is no item at an offset within the window. -/
  | outOfRange
  | caseless
  /-- A note on a position would be too long. -/
  | excess (e : Excess)
  /-- The candidates of a lookahead broke off for want of a next item. -/
  | interrupted
deriving DecidableEq, Repr

/-- Why two values have no sum. -/
def Defect.ofSum (v w : Value) : Defect :=
  (v.sumExcess? w).elim .mistyped .excess

@[simp] theorem Defect.ofSum_seq (s : Buffer) (v : Value) :
    Defect.ofSum (.seq s) v = .mistyped := by
  simp [Defect.ofSum, Value.sumExcess?]

theorem Defect.ofSum_present (v w : Value) : Defect.ofSum v w ≠ .outOfRange := by
  unfold Defect.ofSum
  cases v.sumExcess? w <;> exact nofun

/-- What ends a run without a result. -/
inductive Fault where
  | signal (raised : Signal)
  | refusal (reason : Refusal)
  | undefined (name : String)
  | defect (what : Defect)

/-- A complaint as it leaves the function; a signal raised there carries no state. -/
def Complaint.fault : Complaint → Fault
  | signal kind msg => .signal (.bare kind msg)
  | refusal reason => .refusal reason

/-- Whether a fault would end an iteration it leaves. -/
def Fault.endsIteration : Fault → Bool
  | refusal .drained => true
  | signal raised => raised.kind.isA .endOfIteration
  | _ => false

def Fault.message? : Fault → Option String
  | signal raised => some raised.message
  | refusal (.rejected reason) => some reason
  | refusal (.excess e) => some e.message
  | refusal .drained => some ""
  | refusal _ => none
  | undefined name => some ("Forward parser `" ++ name ++ "` was run before being defined.")
  | defect .unimplemented => some "Subclasses must implement this method"
  | defect (.excess e) => some e.message
  | defect .interrupted => some "generator raised StopIteration"
  | defect _ => none

end Catena
