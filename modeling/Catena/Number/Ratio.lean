/-!
# Ratios

Fractions that are not negative, as far as rounding needs them: scaling by powers, comparison, and
the nearest whole number.
-/

namespace Catena

/-- A numerator over a denominator; a ratio over zero means nothing. -/
structure Ratio where
  num : Nat
  den : Nat
deriving DecidableEq, Repr

namespace Ratio

def ofNat (n : Nat) : Ratio :=
  ⟨n, 1⟩

/-- A ratio times a power of a base. -/
def scale (r : Ratio) (base : Nat) (exponent : Int) : Ratio :=
  if 0 ≤ exponent then ⟨r.num * Nat.pow base exponent.toNat, r.den⟩
  else ⟨r.num, r.den * Nat.pow base (-exponent).toNat⟩

def less (r s : Ratio) : Bool :=
  r.num * s.den < s.num * r.den

def floor (r : Ratio) : Nat :=
  r.num / r.den

/-- The nearest whole number; of two that are as near, the even one. -/
def round (r : Ratio) : Nat :=
  let rest := 2 * (r.num % r.den)
  if rest < r.den then r.floor
  else if r.den < rest then r.floor + 1
  else r.floor + r.floor % 2

/-- About how many binary digits stand before the point: one more at most. -/
def binaryOrder (r : Ratio) : Int :=
  r.num.log2 - r.den.log2

/-- The least exponent from a first one on, of the next `count`, whose power of ten is above a
ratio. -/
def climb (r : Ratio) : Nat → Int → Int
  | 0, exponent => exponent
  | count + 1, exponent =>
    if r.less ((ofNat 1).scale 10 exponent) then exponent else r.climb count (exponent + 1)

/-- How many decimal digits stand before the point, less the zeros that follow it at once. -/
def decimalOrder (r : Ratio) : Int :=
  r.climb 3 ((r.binaryOrder - 1) * 30103 / 100000)

@[simp] theorem floor_ofNat (n : Nat) : (ofNat n).floor = n :=
  Nat.div_one n

@[simp] theorem round_ofNat (n : Nat) : (ofNat n).round = n := by
  simp [round, ofNat, floor, Nat.mod_one]

end Ratio

end Catena
