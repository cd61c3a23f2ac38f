import Catena.Number
import Catena.Sequence

/-!
# Values

What parsers read, match and build: numbers, truth values, sequences and nothing. A truth value
counts as the number zero or one, and sequences of different kinds have nothing in common. An
undefined number is not the same as itself, but two lists that hold it in one place may be.
-/

namespace Catena

/-- A built value or an item of a buffer. -/
inductive Value where
  | null
  | bool (b : Bool)
  | int (n : Int)
  | double (x : Double)
  | seq (s : Sequence Value)

/-- What a parser reads. -/
abbrev Buffer := Sequence Value

namespace Value

def ofString (s : String) : Value :=
  seq (.text s.toList.toArray)

def ofList (items : List Value) : Value :=
  seq (.list items.toArray)

/-- The whole number a value stands for. -/
def number? : Value → Option Int
  | bool b => some (if b then 1 else 0)
  | int n => some n
  | _ => none

/-- The number a value stands for, whole or not. -/
def numeric? : Value → Option Number
  | double x => some (.double x)
  | v => v.number?.map .whole

@[simp] theorem numeric?_seq (s : Sequence Value) : (seq s).numeric? = none := rfl

def sequence? : Value → Option Buffer
  | seq s => some s
  | _ => none

/-- Whether a value counts as true: nothing, zero and empty sequences do not. -/
def isTrue : Value → Bool
  | null => false
  | bool b => b
  | int n => n != 0
  | double x => !x.isZero
  | seq s => s.length != 0

def sameType : Value → Value → Bool
  | null, null => true
  | bool _, bool _ => true
  | int _, int _ => true
  | double _, double _ => true
  | seq s, seq t => s.kind = t.kind
  | _, _ => false

/-! ### Equality -/

def isUndefined : Value → Bool
  | double .undefined => true
  | _ => false

mutual

/-- Equality of values: numbers by value, sequences of one kind item by item. -/
def same : Value → Value → Bool
  | null, null => true
  | seq s, seq t => sameSequence s t
  | v, w => (v.numeric?.bind fun m => w.numeric?.map m.same).getD false

def sameSequence : Buffer → Buffer → Bool
  | .text a, .text b => a == b
  | .bytes a, .bytes b => a == b
  | .list ⟨a⟩, .list ⟨b⟩ => sameItems a b
  | _, _ => false

/-- Items in one place are the same if they are equal or one thing; undefined numbers count as one
thing. -/
def sameItems : List Value → List Value → Bool
  | [], [] => true
  | a :: as, b :: bs => (same a b || a.isUndefined && b.isUndefined) && sameItems as bs
  | _, _ => false

end

/-! ### Order -/

/-- The order of two lists by their first difference, the shorter one first. -/
def orderBy {β : Type} (order : β → β → Ordering) : List β → List β → Ordering
  | [], [] => .eq
  | [], _ :: _ => .lt
  | _ :: _, [] => .gt
  | a :: as, b :: bs => (order a b).then (orderBy order as bs)

mutual

/-- The order of two numbers or of two sequences of one kind, if they can be compared. Nothing comes
before or after an undefined number. -/
def order? : Value → Value → Option (Option Ordering)
  | seq s, seq t => orderSequence? s t
  | v, w => do
    let m ← v.numeric?
    let n ← w.numeric?
    return m.order? n

def orderSequence? : Buffer → Buffer → Option (Option Ordering)
  | .text a, .text b =>
    some (orderBy (fun x y => compare x.toNat y.toNat) a.toList b.toList)
  | .bytes a, .bytes b =>
    some (orderBy (fun x y => compare x.toNat y.toNat) a.toList b.toList)
  | .list ⟨a⟩, .list ⟨b⟩ => orderItems? a b
  | _, _ => none

def orderItems? : List Value → List Value → Option (Option Ordering)
  | [], [] => some (some .eq)
  | [], _ :: _ => some (some .lt)
  | _ :: _, [] => some (some .gt)
  | a :: as, b :: bs =>
    if same a b || a.isUndefined && b.isUndefined then orderItems? as bs else order? a b

end

def less? (v w : Value) : Option Bool :=
  (v.order? w).map (· == some .lt)

/-- Whether one value comes before another or beside it, where the two can be compared. -/
def lessOrSame? (v w : Value) : Option Bool :=
  (v.order? w).map fun order => order == some .lt || order == some .eq

/-! ### Arithmetic -/

def ofNumber : Number → Value
  | .whole n => int n
  | .double x => double x

/-- The sum of two numbers, if none is out of reach, or two sequences of one kind joined. -/
def plus? : Value → Value → Option Value
  | seq s, seq t => (s.append? t).map seq
  | v, w => do
    let m ← v.numeric?
    let n ← w.numeric?
    return ofNumber (← m.plus? n)

/-- Why two values have no sum, if it is not for their types. -/
def sumExcess? (v w : Value) : Option Excess :=
  if v.numeric?.isSome && w.numeric?.isSome then some .double else none

/-- The product of two numbers, or a sequence repeated that many times, if it is not too long. -/
def times? : Value → Value → Option (Except Excess Value)
  | seq s, w => w.number?.map fun n => return seq (← s.times n)
  | v, seq t => v.number?.map fun n => return seq (← t.times n)
  | v, w => do
    let m ← v.numeric?
    let n ← w.numeric?
    return match m.times? n with
      | some product => .ok (ofNumber product)
      | none => .error .double

/-! ### Items -/

def itemsOf : Buffer → List Value
  | .text cs => cs.toList.map fun c => seq (.text #[c])
  | .bytes bs => bs.toList.map fun b => int b.toNat
  | .list xs => xs.toList

end Value

/-- The item at an offset, if there is one there. -/
def Sequence.item? (s : Buffer) (i : Int) : Option Value :=
  let at? (n : Nat) : Option Value := match s with
    | .text cs => cs[n]?.map fun c => .seq (.text #[c])
    | .bytes bs => bs[n]?.map fun b => .int b.toNat
    | .list xs => xs[n]?
  if 0 ≤ i then at? i.toNat
  else if 0 ≤ i + s.length then at? (i + s.length).toNat
  else none

end Catena
