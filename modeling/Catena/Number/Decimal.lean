import Catena.Number.Double

/-!
# Decimal numbers

Numbers written with decimal digits: to a given number of places, to a given number of digits, or
with the fewest digits that still tell a number of double precision from all others.
-/

namespace Catena

/-- The number that decimal digits write. -/
def decimalValue (digits : List Char) : Nat :=
  digits.foldl (fun n c => 10 * n + (c.toNat - '0'.toNat)) 0

/-- Digits with zeros in front, up to a width. -/
def zeroPadded (width : Nat) (digits : List Char) : List Char :=
  List.replicate (width - digits.length) '0' ++ digits

def trimmed (digits : List Char) : List Char :=
  (digits.reverse.dropWhile (· == '0')).reverse

/-- Decimal digits, and how many of them stand before the point; below zero, that many zeros follow
the point first. -/
structure Decimal where
  digits : List Char
  point : Int
deriving DecidableEq, Repr

namespace Decimal

/-- The decimal number `n * 10 ^ exponent`. -/
def scaled (n : Nat) (exponent : Int) : Decimal :=
  let digits := Nat.toDigits 10 n
  ⟨digits, digits.length + exponent⟩

/-- A ratio with the given number of places behind the point. -/
def toPlaces (places : Nat) (r : Ratio) : Decimal :=
  scaled (r.scale 10 places).round (-places)

/-- A ratio with the given number of digits behind the first one. -/
def toDigits (more : Nat) (r : Ratio) : Decimal :=
  if r.num = 0 then ⟨List.replicate (more + 1) '0', 1⟩
  else
    let order := r.decimalOrder
    let n := (r.scale 10 (more + 1 - order)).round
    let last := order - (more + 1)
    if n = Nat.pow 10 (more + 1) then scaled (Nat.pow 10 more) (last + 1) else scaled n last

/-! ### The fewest digits -/

/-- The ratios that round to one number of double precision. -/
structure Rounds where
  low : Ratio
  high : Ratio
  /-- Whether the bounds themselves round to it. -/
  closed : Bool

/-- The ratios that round to `digits * 2 ^ exponent`; the next lower number is half as far below
the least one that takes all digits. -/
def Rounds.ofDouble (digits : Nat) (exponent : Int) : Rounds :=
  let below := if digits = Double.fullDigits ∧ Double.leastExponent < exponent then 1 else 2
  ⟨Double.size (4 * digits - below) (exponent - 2), Double.size (4 * digits + 2) (exponent - 2),
    digits % 2 = 0⟩

def Rounds.contains (rounds : Rounds) (r : Ratio) : Bool :=
  if rounds.closed then !r.less rounds.low && !rounds.high.less r
  else rounds.low.less r && r.less rounds.high

/-- The multiple of a power of ten next to a ratio that rounds like it: the nearer one, if both
neighbours do. -/
def neighbour? (rounds : Rounds) (r : Ratio) (exponent : Int) : Option Nat :=
  let steps := r.scale 10 (-exponent)
  let fits (n : Nat) : Bool := rounds.contains ((Ratio.ofNat n).scale 10 exponent)
  match fits steps.floor, fits (steps.floor + 1) with
  | true, true => some steps.round
  | true, false => some steps.floor
  | false, true => some (steps.floor + 1)
  | false, false => none

/-- The first hit among the multiples of ever smaller powers of ten; seventeen digits always
suffice. -/
def fewestFrom (rounds : Rounds) (r : Ratio) : Nat → Int → Decimal
  | 0, exponent => scaled (r.scale 10 (-exponent)).round exponent
  | count + 1, exponent =>
    match neighbour? rounds r exponent with
    | some n => scaled n exponent
    | none => fewestFrom rounds r count (exponent - 1)

/-- The fewest digits that read back as `digits * 2 ^ exponent`. -/
def fewest (digits : Nat) (exponent : Int) : Decimal :=
  if digits = 0 then ⟨['0'], 1⟩
  else
    let r := Double.size digits exponent
    let found := fewestFrom (.ofDouble digits exponent) r 16 (r.decimalOrder - 1)
    ⟨trimmed found.digits, found.point⟩

/-! ### Layout -/

/-- A whole part, and the point and a fraction if there is one or the point is kept. -/
def joined (keepPoint : Bool) (whole fraction : List Char) : List Char :=
  if fraction.isEmpty && !keepPoint then whole else whole ++ '.' :: fraction

/-- The digits before the point, of which there is one at least. -/
def whole (d : Decimal) : List Char :=
  if d.point ≤ 0 then ['0']
  else d.digits.take d.point.toNat ++ List.replicate (d.point.toNat - d.digits.length) '0'

def fraction (d : Decimal) : List Char :=
  List.replicate (-d.point).toNat '0' ++ d.digits.drop d.point.toNat

/-- The exponent of a number written with one digit before the point. -/
def exponent (d : Decimal) : Int :=
  d.point - 1

/-- An exponent with its sign and two digits at least. -/
def exponentText (e : Int) : List Char :=
  'e' :: (if e < 0 then '-' else '+') :: zeroPadded 2 (Nat.toDigits 10 e.natAbs)

def positional (d : Decimal) (keepPoint : Bool) : List Char :=
  joined keepPoint d.whole d.fraction

/-- A decimal number with one digit before the point, and an exponent. -/
def scientific (d : Decimal) (keepPoint : Bool) : List Char :=
  joined keepPoint (d.digits.take 1) (d.digits.drop 1) ++ exponentText d.exponent

/-- The shorter of the two notations: with an exponent, if that is below -4 or leaves no place for
the given number of digits. Zeros at the end of a fraction go, unless the point is kept. -/
def general (d : Decimal) (digits : Nat) (keepPoint : Bool) : List Char :=
  let kept (ds : List Char) := if keepPoint then ds else trimmed ds
  if -4 ≤ d.exponent ∧ d.exponent < digits then joined keepPoint d.whole (kept d.fraction)
  else joined keepPoint (d.digits.take 1) (kept (d.digits.drop 1)) ++ exponentText d.exponent

end Decimal

namespace Double

/-- How the size of a number is written. -/
inductive Style where
  /-- With that many places. -/
  | places (count : Nat)
  /-- With an exponent and that many digits behind the first one. -/
  | exponent (more : Nat)
  /-- With that many digits, in the shorter notation. -/
  | general (digits : Nat)
deriving DecidableEq, Repr

def sizeText (style : Style) (keepPoint : Bool) : Double → List Char
  | undefined => ['n', 'a', 'n']
  | infinite _ => ['i', 'n', 'f']
  | finite _ digits exponent =>
    let r := size digits exponent
    match style with
    | .places count => (Decimal.toPlaces count r).positional keepPoint
    | .exponent more => (Decimal.toDigits more r).scientific keepPoint
    | .general digits =>
      let count := max digits 1
      (Decimal.toDigits (count - 1) r).general count keepPoint

/-- The text of a number: the fewest digits that read back, with one place at least, or with an
exponent if that is below -4 or above 15. -/
def shown (x : Double) : String :=
  let text := match x with
    | finite _ digits exponent =>
      let d := Decimal.fewest digits exponent
      if d.exponent < -4 ∨ 16 ≤ d.exponent then d.scientific false
      else if d.fraction.isEmpty then d.positional true ++ ['0']
      else d.positional true
    | x => x.sizeText (.places 0) false
  String.ofList (if x.isNegative then '-' :: text else text)

/-- A number without its fraction, unless it is not finite. -/
def whole? : Double → Option Int
  | finite negative digits exponent =>
    let n : Int := (size digits exponent).floor
    some (if negative then -n else n)
  | _ => none

end Double

end Catena
