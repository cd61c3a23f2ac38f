import Catena.Number.Ratio

/-!
# Numbers of double precision

Numbers with 53 binary digits and a bounded exponent. Every operation is exact up to one rounding,
to the nearest such number and, halfway between two of them, to the even one.
-/

namespace Catena

inductive Double where
  /-- Plus or minus `digits * 2 ^ exponent`. -/
  | finite (negative : Bool) (digits : Nat) (exponent : Int)
  | infinite (negative : Bool)
  /-- What is left where an operation has no answer. -/
  | undefined
deriving DecidableEq, Repr

namespace Double

def leastExponent : Int := -1074

def greatestExponent : Int := 971

/-- The least number that takes all 53 digits. -/
def fullDigits : Nat := 4503599627370496

def zero (negative : Bool) : Double :=
  finite negative 0 leastExponent

/-- The number of a sign nearest to a ratio. -/
def ofRatio (negative : Bool) (r : Ratio) : Double :=
  if r.num = 0 then zero negative
  else
    let guess := r.binaryOrder - 53
    let full := !r.less ((Ratio.ofNat 1).scale 2 (guess + 53))
    let exponent := max leastExponent (if full then guess + 1 else guess)
    let digits := (r.scale 2 (-exponent)).round
    let (digits, exponent) :=
      if digits = 2 * fullDigits then (fullDigits, exponent + 1) else (digits, exponent)
    if greatestExponent < exponent then infinite negative else finite negative digits exponent

/-- The number nearest to a whole number, unless that is out of reach. -/
def ofInt? (n : Int) : Option Double :=
  match ofRatio (n < 0) (.ofNat n.natAbs) with
  | infinite _ => none
  | x => some x

/-- The number nearest to `digits * 10 ^ exponent`. -/
def ofDecimal (negative : Bool) (digits : Nat) (exponent : Int) : Double :=
  if digits = 0 ∨ exponent < -1100 - digits.log2 then zero negative
  else if 310 < exponent then infinite negative
  else ofRatio negative ((Ratio.ofNat digits).scale 10 exponent)

def isFinite : Double → Bool
  | finite _ _ _ => true
  | _ => false

def isNegative : Double → Bool
  | finite negative _ _ => negative
  | infinite negative => negative
  | undefined => false

def isZero : Double → Bool
  | finite _ digits _ => digits = 0
  | _ => false

def size (digits : Nat) (exponent : Int) : Ratio :=
  (Ratio.ofNat digits).scale 2 exponent

/-- The whole number that a number is a multiple of a power of two by, for an exponent that is not
above its own. -/
def steps (negative : Bool) (digits : Nat) (exponent least : Int) : Int :=
  let n : Int := ((Ratio.ofNat digits).scale 2 (exponent - least)).num
  if negative then -n else n

/-- The order of two numbers, unless one of them is undefined. -/
def order? : Double → Double → Option Ordering
  | finite n d e, finite m c f =>
    some (compare (steps n d e (min e f)) (steps m c f (min e f)))
  | infinite n, infinite m => some (compare m n)
  | infinite n, finite _ _ _ => some (if n then .lt else .gt)
  | finite _ _ _, infinite m => some (if m then .gt else .lt)
  | _, _ => none

def negated : Double → Double
  | finite n d e => finite (!n) d e
  | infinite n => infinite (!n)
  | undefined => undefined

def plus : Double → Double → Double
  | finite n d e, finite m c f =>
    let least := min e f
    let total := steps n d e least + steps m c f least
    if total = 0 then zero (n && m) else ofRatio (total < 0) (size total.natAbs least)
  | infinite n, infinite m => if n = m then infinite n else undefined
  | infinite n, finite _ _ _ => infinite n
  | finite _ _ _, infinite m => infinite m
  | _, _ => undefined

def minus (x y : Double) : Double :=
  x.plus y.negated

def times : Double → Double → Double
  | finite n d e, finite m c f => ofRatio (n != m) (size (d * c) (e + f))
  | infinite n, infinite m => infinite (n != m)
  | infinite n, finite m d _ => if d = 0 then undefined else infinite (n != m)
  | finite n d _, infinite m => if d = 0 then undefined else infinite (n != m)
  | _, _ => undefined

def quotient : Double → Double → Double
  | finite n d e, finite m c f => ofRatio (n != m) ((⟨d, c⟩ : Ratio).scale 2 (e - f))
  | infinite n, finite m _ _ => infinite (n != m)
  | finite n _ _, infinite m => zero (n != m)
  | _, _ => undefined

/-- What is left of a number divided by one that is not zero; it has the sign of the divisor. -/
def modulo : Double → Double → Double
  | finite n d e, finite m c f =>
    let least := min e f
    let divisor := ((Ratio.ofNat c).scale 2 (f - least)).num
    let rest := ((Ratio.ofNat d).scale 2 (e - least)).num % divisor
    if rest = 0 then zero m
    else ofRatio m (size (if n = m then rest else divisor - rest) least)
  | finite n d e, infinite m =>
    if d = 0 then zero m else if n = m then finite n d e else infinite m
  | _, _ => undefined

end Double

end Catena
