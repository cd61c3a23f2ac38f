import Catena.CharSet
import Catena.Construction
import Catena.State.Edit

/-!
# A vocabulary of functions

Ready functions to give to parsers. Each role has rules of its own, and any of them can be replaced
by a function that always answers the same, raises a signal or rejects its arguments.
-/

namespace Catena.Vocabulary

/-- What a function of the vocabulary answers. -/
abbrev Answer := Except Complaint

/-- An answer that may not be defined on values of the types given. -/
def typed {α : Type} : Option α → Answer α
  | some a => .ok a
  | none => .error (.refusal .mistyped)

/-- A sum, which may not be defined, or be of a number out of reach. -/
def added (v w : Value) : Answer Value :=
  match v.plus? w, v.sumExcess? w with
  | some sum, _ => .ok sum
  | none, some e => .error (.refusal (.excess e))
  | none, none => .error (.refusal .mistyped)

/-- A product, which may not be defined, or be too long. -/
def product (v w : Value) : Answer Value := do
  match ← typed (v.times? w) with
  | .ok v => return v
  | .error e => throw (.refusal (.excess e))

def verdict (b : Bool) : Answer Value :=
  .ok (.bool b)

def lengthOf (v : Value) : Answer Value :=
  typed (v.sequence?.map fun s => .int s.length)

def isLess (v w : Value) : Answer Value := do
  verdict (← typed (v.less? w))

def appended (v item : Value) : Answer Value :=
  added v (.ofList [item])

/-- The number that ASCII digits write. -/
def decimal? (cs : List Char) : Option Nat :=
  if !cs.isEmpty && cs.all Char.isDigit then
    some (decimalValue cs)
  else none

/-- How many digits are read as a number. -/
def digitLimit : Nat := 4300

def tooManyDigits (count : Nat) : String :=
  "Exceeds the limit (" ++ toString digitLimit ++ " digits) for integer string conversion: " ++
    "value has " ++ toString count ++
    " digits; use sys.set_int_max_str_digits() to increase the limit"

/-- The number a matched text writes. -/
def numberOf : Value → Answer Value
  | .seq (.text cs) =>
    match decimal? cs.toList with
    | some n =>
      if digitLimit < cs.size then .error (.refusal (.rejected (tooManyDigits cs.size)))
      else .ok (.int n)
    | none => .error (.refusal (.rejected "not a number"))
  | _ => .error (.refusal (.rejected "not a number"))

/-! ### Text functions -/

inductive Arithmetic where
  | plus
  | minus
  | times
deriving DecidableEq, Repr

def Arithmetic.apply : Arithmetic → Number → Number → Option Number
  | plus => Number.plus?
  | minus => Number.minus?
  | times => Number.times?

/-- A list whose last two items, which are to be numbers, are replaced by the result of an operation
on them. -/
def reduceLast (op : Arithmetic) : Value → Answer Value
  | .seq (.list items) =>
    match items.toList.reverse with
    | b :: a :: rest => do
      let m ← typed a.numeric?
      let n ← typed b.numeric?
      match op.apply m n with
      | some result => return .ofList (rest.reverse ++ [.ofNumber result])
      | none => throw (.refusal (.excess .double))
    | _ => .error (.refusal .missing)
  | .seq s => .error (.refusal (if s.length < 2 then .missing else .mistyped))
  | _ => .error (.refusal .mistyped)

inductive TextRule where
  | matched
  | value
  | inc
  | add (k : Value)
  | mul (k : Value)
  | append
  | pair
  | len
  | int
  | pushInt
  | binop (op : Arithmetic)
  | valueEq (x : Value)
  | valueLt (k : Value)
  | matchedEq (x : Value)
  | lenLt (k : Value)

namespace TextRule

def name : TextRule → String
  | matched => "matched"
  | value => "value"
  | inc => "inc"
  | add _ => "add"
  | mul _ => "mul"
  | append => "append"
  | pair => "pair"
  | len => "len"
  | int => "int"
  | pushInt => "push_int"
  | binop _ => "binop"
  | valueEq _ => "value_eq"
  | valueLt _ => "value_lt"
  | matchedEq _ => "matched_eq"
  | lenLt _ => "len_lt"

def apply : TextRule → Value × Value → Answer Value
  | matched, (_, m) => .ok m
  | value, (v, _) => .ok v
  | inc, (v, _) => added v (.int 1)
  | add k, (v, _) => added v k
  | mul k, (v, _) => product v k
  | append, (v, m) => appended v m
  | pair, (v, m) => .ok (.ofList [v, m])
  | len, (_, m) => lengthOf m
  | int, (_, m) => numberOf m
  | pushInt, (v, m) => do appended v (← numberOf m)
  | binop op, (v, _) => reduceLast op v
  | valueEq x, (v, _) => verdict (v.same x)
  | valueLt k, (v, _) => isLess v k
  | matchedEq x, (_, m) => verdict (m.same x)
  | lenLt k, (_, m) => do isLess (← lengthOf m) k

end TextRule

/-! ### Item functions -/

/-- Whether a value is a member of a set of characters; lists cannot be looked up. -/
def isMember (set : CharSet) : Value → Answer Value
  | .seq (.text #[c]) => verdict (set.members.contains c)
  | .seq (.list _) => .error (.refusal .mistyped)
  | _ => verdict false

inductive ItemRule where
  | any
  | equals (x : Value)
  | among (xs : Value)
  | range (lo hi : Value)
  /-- The opposite of another function, which is not listed when it is called. -/
  | negation (inner : ItemFunction)

namespace ItemRule

def name : ItemRule → String
  | any => "any"
  | equals _ => "is"
  | among _ => "in"
  | range _ _ => "range"
  | negation _ => "not"

def apply : ItemRule → Value → Answer Value
  | any, _ => verdict true
  | equals x, c => verdict (c.same x)
  | among xs, c => do verdict ((Value.itemsOf (← typed xs.sequence?)).any c.same)
  | range lo hi, c => do
    if !c.sameType lo then return .bool false
    if !(← typed (lo.lessOrSame? c)) then return .bool false
    verdict (← typed (c.lessOrSame? hi))
  | negation inner, c => do verdict !(← inner.apply c).isTrue

end ItemRule

/-! ### Round functions -/

/-- Functions of the built value, the matched text and the index of a round. -/
inductive RoundRule where
  | indexLt (k : Value)
  | indexEq (k : Value)
  | index
  | matchedEq (x : Value)
  | lenLt (k : Value)
  | valueLt (k : Value)

namespace RoundRule

def name : RoundRule → String
  | indexLt _ => "index_lt"
  | indexEq _ => "index_eq"
  | index => "index"
  | matchedEq _ => "matched_eq"
  | lenLt _ => "len_lt"
  | valueLt _ => "value_lt"

def apply : RoundRule → Value × Value × Nat → Answer Value
  | indexLt k, (_, _, i) => isLess (.int i) k
  | indexEq k, (_, _, i) => verdict (Value.same (.int i) k)
  | index, (_, _, i) => .ok (.int i)
  | matchedEq x, (_, m, _) => verdict (m.same x)
  | lenLt k, (_, m, _) => do isLess (← lengthOf m) k
  | valueLt k, (v, _, _) => isLess v k

end RoundRule

/-! ### Merge functions -/

/-- Functions of the built value, a sub-parser's value and its matched text. -/
inductive MergeRule where
  | subValue
  | subMatched
  | value
  | triple
  | appendSub
  | appendMatched
  | sum
deriving DecidableEq, Repr

namespace MergeRule

def name : MergeRule → String
  | subValue => "sub_value"
  | subMatched => "sub_matched"
  | value => "value"
  | triple => "triple"
  | appendSub => "append_sub"
  | appendMatched => "append_matched"
  | sum => "sum"

def apply : MergeRule → Value × Value × Value → Answer Value
  | subValue, (_, sv, _) => .ok sv
  | subMatched, (_, _, sm) => .ok sm
  | value, (v, _, _) => .ok v
  | triple, (v, sv, sm) => .ok (.ofList [v, sv, sm])
  | appendSub, (v, sv, _) => appended v sv
  | appendMatched, (v, _, sm) => appended v sm
  | sum, (v, sv, _) => added v sv

end MergeRule

/-! ### Transform functions -/

inductive TransformRule where
  | identity
  | reverse
  | double
  | dropLast
  | asciiUpper
deriving DecidableEq, Repr

namespace TransformRule

def name : TransformRule → String
  | identity => "identity"
  | reverse => "reverse"
  | double => "double"
  | dropLast => "drop_last"
  | asciiUpper => "ascii_upper"

def apply : TransformRule → Value → Answer Value
  | identity, m => .ok m
  | reverse, m => typed (m.sequence?.map fun s => .seq s.reverse)
  | double, m => added m m
  | dropLast, m => typed (m.sequence?.map fun s => .seq (s.slice 0 (-1)))
  | asciiUpper, .seq (.text cs) => .ok (.seq (.text (cs.map Char.toUpper)))
  | asciiUpper, m => .ok m

end TransformRule

/-! ### Step functions -/

inductive StepPart where
  | move (m : Move)
  /-- The state given to the step becomes the last good one. -/
  | good

structure StepRule where
  parts : List StepPart

def StepRule.apply (rule : StepRule) (s : State) : Answer State :=
  rule.parts.foldlM (fun current part =>
    match part with
    | .move m => typed (current.move m)
    | .good => .ok { current with lastGood := some s }) s

/-! ### Functions of any role -/

/-- A role: what its rules are called and answer, and what functions that are not made for it do. -/
class Role (ρ : Type) (α β : outParam Type) where
  name : ρ → String
  apply : ρ → α → Answer β
  /-- A function that answers the same value whatever it is given. -/
  constant : Value → Answer β
  /-- A look-up in a set of characters. -/
  lookUp : CharSet → α → Answer β

/-- What a function answers that is given other arguments than it takes. -/
def misused {α β : Type} (_ : CharSet) (_ : α) : Answer β :=
  .error (.refusal .mistyped)

instance : Role TextRule (Value × Value) Value :=
  ⟨TextRule.name, TextRule.apply, .ok, misused⟩
instance : Role ItemRule Value Value :=
  ⟨ItemRule.name, ItemRule.apply, .ok, isMember⟩
instance : Role RoundRule (Value × Value × Nat) Value :=
  ⟨RoundRule.name, RoundRule.apply, .ok, misused⟩
instance : Role MergeRule (Value × Value × Value) Value :=
  ⟨MergeRule.name, MergeRule.apply, .ok, misused⟩
instance : Role TransformRule Value Value :=
  ⟨TransformRule.name, TransformRule.apply, .ok, isMember⟩
instance : Role StepRule State State :=
  ⟨fun _ => "edit", StepRule.apply, fun _ => .error (.refusal .notAState), misused⟩

inductive Word (ρ : Type) where
  | rule (r : ρ)
  | returns (v : Value)
  | raises (kind : SignalKind) (msg : Option String)
  | rejects (reason : String)
  /-- A request for a next item where there is none. -/
  | drains
  /-- A look-up in a set of characters; its calls are not listed. -/
  | member (set : CharSet)
  /-- The same function without a name. -/
  | nameless (w : Word ρ)
  /-- Something that cannot be called. -/
  | uncallable (x : Plain)

def listed {α β : Type} (name : String) (apply : α → Answer β) : Supplied α β :=
  .function ⟨some name, some name, apply⟩ "function"

def Word.supplied {ρ α β : Type} [Role ρ α β] : Word ρ → Supplied α β
  | rule r => listed (Role.name r) (Role.apply r)
  | returns v => listed "returns" fun _ => Role.constant ρ v
  | raises kind msg => listed "raise" fun _ => .error (.signal kind msg)
  | rejects reason => listed "error" fun _ => .error (.refusal (.rejected reason))
  | drains => listed "raise" fun _ => .error (.refusal .drained)
  | member set =>
    .function ⟨some "__contains__", none, Role.lookUp ρ set⟩ "builtin_function_or_method"
  | nameless w =>
    match w.supplied with
    | .function f _ => .function { f with name := none } "functools.partial"
    | .plain x => .plain x
  | uncallable x => .plain x

/-! ### Signal kinds -/

def anySignal : SignalKind := .root "ParseSignal"

def invalid : SignalKind := .sub anySignal "Invalid"

def subInvalid : SignalKind := .sub invalid "SubInvalid"

def other : SignalKind := .sub anySignal "Other"

end Catena.Vocabulary
