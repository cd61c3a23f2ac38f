import Catena.Plain

/-!
# Arithmetic of plain things

Products, quotients, remainders and unions of plain things, and why there may be none. Numbers with
a fraction make the result one; a quotient always is one.
-/

namespace Catena

/-- Why an operation on plain things has no result. -/
inductive ArithmeticError where
  /-- An operation is not defined on things of these types. -/
  | unsupported (sign left right : String)
  /-- A sequence cannot be repeated by something of this type. -/
  | notACount (typeName : String)
  | excess (e : Excess)
  /-- The divisor of a quotient is zero; all numbers are whole, or not. -/
  | noQuotient (whole : Bool)
  /-- The divisor of a remainder is zero; all numbers are whole, or not. -/
  | noRemainder (whole : Bool)
  | beyondDouble
  /-- The quotient of whole numbers is beyond double precision. -/
  | quotientBeyondDouble
deriving DecidableEq, Repr

def ArithmeticError.message : ArithmeticError → String
  | unsupported sign left right =>
    "unsupported operand type(s) for " ++ sign ++ ": '" ++ left ++ "' and '" ++ right ++ "'"
  | notACount typeName => "can't multiply sequence by non-int of type '" ++ typeName ++ "'"
  | excess e => e.message
  | noQuotient whole => if whole then "division by zero" else "float division by zero"
  | noRemainder whole => if whole then "integer modulo by zero" else "float modulo"
  | beyondDouble => "int too large to convert to float"
  | quotientBeyondDouble => "integer division result too large for a float"

/-- The bits of two numbers joined; a negative one has all bits beyond its own. -/
def unionBits : Int → Int → Int
  | .ofNat m, .ofNat n => .ofNat (m ||| n)
  | .ofNat m, .negSucc n => .negSucc (n ^^^ (n &&& m))
  | .negSucc m, .ofNat n => .negSucc (m ^^^ (m &&& n))
  | .negSucc m, .negSucc n => .negSucc (m &&& n)

namespace Plain

/-- What comes of two numbers that are not both whole, each taken in double precision first. -/
def combine (unsupported : ArithmeticError)
    (operation : Double → Double → Except ArithmeticError Double) (x y : Plain) :
    Except ArithmeticError Plain := do
  let real (n : Number) : Except ArithmeticError Double := n.double?.elim (.error .beyondDouble) .ok
  match x.numeric?, y.numeric? with
  | some m, some n => return value (.double (← operation (← real m) (← real n)))
  | _, _ => throw unsupported

/-- Why two things have no product: with a sequence the other one is no count. -/
def noProduct (x y : Plain) : ArithmeticError :=
  if x.length?.isSome then .notACount y.typeName
  else if y.length?.isSome then .notACount x.typeName
  else .unsupported "*" x.typeName y.typeName

def repeated (octets : Bool) (t : Script) (n : Int) : Except ArithmeticError Plain :=
  match excess? (if octets then .bytes else .text) t.length scriptLimit n with
  | some e => .error (.excess e)
  | none => .ok (.ofScript octets (if t.length = 0 then t else t.replicate n.toNat))

/-- The product of two numbers, or a sequence repeated. -/
def times (x y : Plain) : Except ArithmeticError Plain :=
  match x.script?, y.script?, x.number?, y.number? with
  | some (octets, t), _, _, some n | _, some (octets, t), some n, _ => repeated octets t n
  | _, _, _, _ =>
    match x, y with
    | value v, value w =>
      match v.times? w with
      | some (.ok product) => .ok (value product)
      | some (.error e) => .error (.excess e)
      | none => .error (noProduct x y)
    | x, y => .error (noProduct x y)

/-- The quotient of two whole numbers, in double precision. -/
def wholeQuotient (m n : Int) : Except ArithmeticError Plain :=
  if n = 0 then .error (.noQuotient true)
  else
    match Double.ofRatio ((m < 0) != (n < 0)) ⟨m.natAbs, n.natAbs⟩ with
    | .infinite _ => .error .quotientBeyondDouble
    | x => .ok (value (.double x))

def quotient (x y : Plain) : Except ArithmeticError Plain :=
  match x.number?, y.number? with
  | some m, some n => wholeQuotient m n
  | _, _ =>
    combine (.unsupported "/" x.typeName y.typeName)
      (fun a b => if b.isZero then .error (.noQuotient false) else .ok (a.quotient b)) x y

def modulo (x y : Plain) : Except ArithmeticError Plain :=
  match x.number?, y.number? with
  | some m, some n =>
    if n = 0 then .error (.noRemainder true) else .ok (value (.int (Int.fmod m n)))
  | _, _ =>
    combine (.unsupported "%" x.typeName y.typeName)
      (fun a b => if b.isZero then .error (.noRemainder false) else .ok (a.modulo b)) x y

/-- The union of two truth values, or of the bits of two whole numbers. -/
def union (x y : Plain) : Except ArithmeticError Plain :=
  match x, y with
  | value (.bool a), value (.bool b) => .ok (value (.bool (a || b)))
  | x, y =>
    match x.number?, y.number? with
    | some m, some n => .ok (value (.int (unionBits m n)))
    | _, _ => .error (.unsupported "|" x.typeName y.typeName)

end Plain

end Catena
