import Catena.Number.Double

/-!
# Numbers

Whole numbers of any size and numbers of double precision. They are compared exactly; where they are
mixed in arithmetic, a whole one is taken in double precision first, if it is not out of reach.
-/

namespace Catena

inductive Number where
  | whole (n : Int)
  | double (x : Double)
deriving DecidableEq, Repr

namespace Number

/-- A number as it is, with no bound on its digits. -/
def exact : Number → Double
  | whole n => .finite (n < 0) n.natAbs 0
  | double x => x

/-- The order of two numbers, unless one of them is undefined. -/
def order? : Number → Number → Option Ordering
  | whole m, whole n => some (compare m n)
  | m, n => m.exact.order? n.exact

def same (m n : Number) : Bool :=
  m.order? n == some .eq

theorem same_self (m : Number) : m.same m = !decide (m = .double .undefined) := by
  cases m with
  | whole n => simp [same, order?]
  | double x => cases x <;> simp [same, order?, exact, Double.order?]

def double? : Number → Option Double
  | whole n => Double.ofInt? n
  | double x => some x

/-- What comes of two numbers by an operation on whole ones or on ones of double precision. -/
def combine? (onWhole : Int → Int → Int) (onDouble : Double → Double → Double) :
    Number → Number → Option Number
  | whole m, whole n => some (whole (onWhole m n))
  | m, n => do return double (onDouble (← m.double?) (← n.double?))

def plus? : Number → Number → Option Number :=
  combine? (· + ·) Double.plus

def minus? : Number → Number → Option Number :=
  combine? (· - ·) Double.minus

def times? : Number → Number → Option Number :=
  combine? (· * ·) Double.times

end Number

end Catena
