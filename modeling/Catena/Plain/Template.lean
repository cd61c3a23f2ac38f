import Catena.Plain

/-!
# Templates

A text or a run of octets with directives in it, each of which a percent sign opens. A template is
filled with one thing, and exactly one directive must take it. What comes of it is a script, so that
widths and precisions cost nothing.
-/

namespace Catena

/-- What a template is filled with. -/
inductive Filling where
  | plain (x : Plain)
  /-- A function, by the word for its type. -/
  | function (typeName : String)

namespace Filling

def typeName : Filling → String
  | plain x => x.typeName
  | function typeName => typeName

/-- The text of a filling between quotes, if it is a text. -/
def shown : Filling → String
  | plain x => x.shown
  | function typeName => "<" ++ typeName ++ ">"

/-- The text, or the run of octets, that a filling is. -/
def script? (octets : Bool) : Filling → Option Script
  | plain x =>
    match x.script? with
    | some (ofOctets, t) => if ofOctets == octets then some t else none
    | none => none
  | function _ => none

/-- The text of a filling as it stands. -/
def bare (filling : Filling) : Script :=
  (filling.script? false).getD (.ofChars filling.shown.toList)

def number? : Filling → Option Int
  | plain x => x.number?
  | function _ => none

end Filling

namespace Template

/-! ### Directives -/

/-- How what a directive writes is laid out. -/
structure Layout where
  /-- Blanks go behind instead of in front. -/
  left : Bool := false
  /-- Numbers without a minus have a plus. -/
  plus : Bool := false
  /-- Numbers without a minus have a blank. -/
  blank : Bool := false
  /-- Numbers are marked by their base, or keep their point. -/
  marked : Bool := false
  /-- Numbers have zeros in front instead of blanks. -/
  zeros : Bool := false
deriving DecidableEq, Repr

/-- A width or a precision. -/
inductive Measure where
  | stated (n : Nat)
  /-- It is to be what the template is filled with. -/
  | taken
deriving DecidableEq, Repr

/-- A place of a template that is to be filled. -/
structure Directive where
  layout : Layout
  width : Option Measure
  precision : Option Measure
  /-- Whether the conversion stands right behind the digits of a measure. -/
  behindDigits : Bool
  /-- What is to be written; a template may end before that. -/
  conversion : Option Nat
deriving DecidableEq, Repr

inductive Piece where
  | point (code : Nat)
  /-- A directive, and the place of its conversion. -/
  | directive (d : Directive) (place : Nat)
  /-- A directive that asks for something by name. -/
  | keyed
deriving DecidableEq, Repr

/-- The layout after a flag. -/
def Layout.flagged? (layout : Layout) : Char → Option Layout
  | '-' => some { layout with left := true }
  | '+' => some { layout with plus := true }
  | ' ' => some { layout with blank := true }
  | '#' => some { layout with marked := true }
  | '0' => some { layout with zeros := true }
  | _ => none

def Layout.scan (layout : Layout) : List Nat → Layout × List Nat
  | [] => (layout, [])
  | code :: codes =>
    match layout.flagged? (Char.ofNat code) with
    | some layout => scan layout codes
    | none => (layout, code :: codes)

def isDigit (code : Nat) : Bool :=
  (Char.ofNat code).isDigit

/-- Reads over a character, if it is there. -/
def skip (isWanted : Char → Bool) : List Nat → Bool × List Nat
  | [] => (false, [])
  | code :: codes => if isWanted (Char.ofNat code) then (true, codes) else (false, code :: codes)

def Measure.scan (codes : List Nat) : Option Measure × List Nat :=
  let (isTaken, codes) := skip (· == '*') codes
  if isTaken then (some .taken, codes)
  else
    let digits := codes.takeWhile isDigit
    (if digits.isEmpty then none else some (.stated (decimalValue (digits.map Char.ofNat))),
      codes.dropWhile isDigit)

/-- Reads a directive behind its percent sign. A point alone stands for the precision zero, and a
letter for the size of numbers means nothing. -/
def Directive.scan (codes : List Nat) : Directive × List Nat :=
  let (layout, codes) := Layout.scan {} codes
  let (width, codes) := Measure.scan codes
  let (hasPoint, codes) := skip (· == '.') codes
  let (digits, codes) := if hasPoint then Measure.scan codes else (none, codes)
  let (hasSize, codes) := skip (fun c => c == 'h' || c == 'l' || c == 'L') codes
  let behindDigits := match if hasPoint then digits else width with
    | some (.stated _) => !hasSize
    | _ => false
  let precision := if hasPoint then some (digits.getD (.stated 0)) else none
  (⟨layout, width, precision, behindDigits, codes.head?⟩, codes.tail)

theorem Layout.length_scan (layout : Layout) (codes : List Nat) :
    (layout.scan codes).2.length ≤ codes.length := by
  fun_induction Layout.scan layout codes <;> grind

theorem length_skip (isWanted : Char → Bool) (codes : List Nat) :
    (skip isWanted codes).2.length ≤ codes.length := by
  fun_cases skip isWanted codes <;> simp

theorem Measure.length_scan (codes : List Nat) : (Measure.scan codes).2.length ≤ codes.length := by
  have taken := length_skip (· == '*') codes
  simp only [Measure.scan]
  split
  · exact taken
  · exact Nat.le_trans (List.dropWhile_suffix _).length_le taken

theorem Directive.length_scan (codes : List Nat) :
    (Directive.scan codes).2.length ≤ codes.length := by
  have flags := Layout.length_scan {} codes
  have width := Measure.length_scan (Layout.scan {} codes).2
  have point := length_skip (· == '.') (Measure.scan (Layout.scan {} codes).2).2
  simp only [Directive.scan, List.length_tail]
  grind [length_skip, Measure.length_scan]

/-- The pieces of what is left of a template of the given length. -/
def pieces (length : Nat) : List Nat → List Piece
  | [] => []
  | 0x25 :: 0x25 :: codes => .point 0x25 :: pieces length codes
  | 0x25 :: 0x28 :: codes => .keyed :: pieces length codes
  | 0x25 :: codes =>
    let scanned := Directive.scan codes
    have := Directive.length_scan codes
    .directive scanned.1 (length - scanned.2.length - 1) :: pieces length scanned.2
  | code :: codes => .point code :: pieces length codes
termination_by codes => codes.length
decreasing_by all_goals grind

/-! ### Errors -/

/-- Why a template cannot be filled. -/
inductive Error where
  /-- The template ends within a directive. -/
  | incomplete
  /-- A directive asks for something by name. -/
  | keyed
  /-- A directive finds nothing left to take. -/
  | tooFew
  /-- No directive takes the filling. -/
  | unused (octets : Bool)
  /-- There is no such conversion. -/
  | unknown (conversion : Nat) (place : Nat) (octets : Bool)
  | unnameable
  /-- A measure is to be taken from something that is no whole number. -/
  | noMeasure
  | widthTooGreat
  | precisionTooGreat (octets : Bool)
  /-- A measure taken from the filling is beyond a machine type. -/
  | measureTooGreat (machineType : String)
  /-- The conversion is for whole numbers. -/
  | notWhole (conversion : Char) (typeName : String)
  | notReal (conversion : Char) (typeName : String)
  /-- The conversion is for numbers, in double precision. -/
  | notDouble (typeName : String) (octets : Bool)
  | beyondDouble
  /-- A number that is not finite has no whole part. -/
  | notFinite (x : Double)
  | tooManyDigits
  /-- The filling is no code of a character. -/
  | noCode (octets : Bool)
  /-- There is no character of this code. -/
  | codeTooGreat (octets : Bool)
  | noOctets (typeName : String)
  | noRoom
deriving DecidableEq, Repr

/-- The conversion of a message, as it is shown there. -/
def Error.shownConversion (code : Nat) (octets : Bool) : Char :=
  if octets || 31 ≤ code && code ≤ 126 then Char.ofNat code else '?'

def Error.message : Error → String
  | incomplete => "incomplete format"
  | keyed => "format requires a mapping"
  | tooFew => "not enough arguments for format string"
  | unused octets =>
    "not all arguments converted during " ++ (if octets then "bytes" else "string") ++ " formatting"
  | unknown code place octets =>
    "unsupported format character '" ++ String.singleton (shownConversion code octets) ++ "' (0x" ++
      String.ofList (Nat.toDigits 16 code) ++ ") at index " ++ toString place
  | unnameable => "character argument not in range(0x110000)"
  | noMeasure => "* wants int"
  | widthTooGreat => "width too big"
  | precisionTooGreat octets => (if octets then "prec" else "precision") ++ " too big"
  | measureTooGreat machineType => "Python int too large to convert to C " ++ machineType
  | notWhole c typeName =>
    "%" ++ String.singleton c ++ " format: an integer is required, not " ++ typeName
  | notReal c typeName =>
    "%" ++ String.singleton c ++ " format: a real number is required, not " ++ typeName
  | notDouble typeName octets =>
    (if octets then "float argument required, not " else "must be real number, not ") ++ typeName
  | beyondDouble => "int too large to convert to float"
  | notFinite (.infinite _) => "cannot convert float infinity to integer"
  | notFinite _ => "cannot convert float NaN to integer"
  | tooManyDigits => "precision too large"
  | noCode octets =>
    if octets then "%c requires an integer in range(256) or a single byte"
    else "%c requires int or char"
  | codeTooGreat octets =>
    "%c arg not in range(" ++ (if octets then "256" else "0x110000") ++ ")"
  | noOctets typeName =>
    "%b requires a bytes-like object, or an object that implements __bytes__, not '" ++
      typeName ++ "'"
  | noRoom => ""

/-! ### Filling -/

/-- What a directive writes, before it is laid out. -/
structure Written where
  /-- The sign and the mark of the base. -/
  head : List Char := []
  body : Script
  isNumber : Bool := false

def Layout.sign (layout : Layout) (negative : Bool) : List Char :=
  if negative then ['-'] else if layout.plus then ['+'] else if layout.blank then [' '] else []

def run (c : Char) (count : Nat) : Stretch :=
  { codes := [c.toNat], count }

/-- What a directive writes, in a width. -/
def Layout.place (layout : Layout) (width : Nat) (written : Written) : Script :=
  let missing := width - (written.head.length + written.body.length)
  let head := Script.ofChars written.head
  if layout.left then head ++ written.body ++ [run ' ' missing]
  else if layout.zeros && written.isNumber then head ++ [run '0' missing] ++ written.body
  else [run ' ' missing] ++ head ++ written.body

def beginning (length : Nat) (t : Script) : Script :=
  if t.length ≤ length then t else [{ codes := t.codes.take length }]

def writeText (precision : Option Nat) (t : Script) : Written :=
  { body := precision.elim t fun length => beginning length t }

/-- A whole number in a base, behind the mark of the base. -/
def writeWhole (layout : Layout) (precision : Option Nat) (base : Nat) (mark : List Char)
    (n : Int) : Except Error Written :=
  let digits := Nat.toDigits base n.natAbs
  if 2147483644 < precision.getD 0 then .error .tooManyDigits
  else .ok {
    head := layout.sign (n < 0) ++ mark
    body := run '0' (precision.getD 0 - digits.length) :: Script.ofChars digits
    isNumber := true }

def wholeOf (conversion : Char) (filling : Filling) : Except Error Int :=
  match filling.number? with
  | some n => .ok n
  | none => .error (.notWhole conversion filling.typeName)

/-- The whole part of the number that a filling is. -/
def wholePartOf (conversion : Char) : Filling → Except Error Int
  | .plain (.value (.double x)) =>
    match x.whole? with
    | some n => .ok n
    | none => .error (.notFinite x)
  | filling =>
    match filling.number? with
    | some n => .ok n
    | none => .error (.notReal conversion filling.typeName)

def doubleOf (octets : Bool) : Filling → Except Error Double
  | .plain (.value (.double x)) => .ok x
  | filling =>
    match filling.number?.map Double.ofInt? with
    | some (some x) => .ok x
    | some none => .error (if octets then .notDouble filling.typeName octets else .beyondDouble)
    | none => .error (.notDouble filling.typeName octets)

/-- How many digits a number in double precision may have; all further ones are zeros. -/
def digitLimit : Nat := 1100

def writeDouble (layout : Layout) (precision : Option Nat) (octets : Bool) (conversion : Char)
    (filling : Filling) : Except Error Written := do
  let x ← doubleOf octets filling
  let asked := precision.getD 6
  let count := min asked digitLimit
  let letter := conversion.toLower
  let style : Double.Style := match letter with
    | 'e' => .exponent count
    | 'f' => .places count
    | _ => .general count
  let text := x.sizeText style layout.marked
  let text := if conversion.isUpper then text.map Char.toUpper else text
  let further := if x.isFinite && (letter != 'g' || layout.marked) then asked - count else 0
  let (digits, exponent) := text.span fun c => c != 'e' && c != 'E'
  return {
    head := layout.sign x.isNegative
    body := Script.ofChars digits ++ run '0' further :: Script.ofChars exponent
    isNumber := true }

/-- The one code point that a filling is, or whose number it is. -/
def codeOf (octets : Bool) (filling : Filling) : Except Error Nat :=
  match filling.number? with
  | some code =>
    if code < 0 ∨ (if octets then 256 else 0x110000) ≤ code then .error (.codeTooGreat octets)
    else .ok code.toNat
  | none =>
    match filling.script? octets with
    | some [⟨[code], 1⟩] => .ok code
    | _ => .error (.noCode octets)

def asciiText (s : String) : List Char :=
  s.toList.flatMap fun c => if c.toNat < 0x80 then [c] else Text.numberEscape c.toNat

def octetsOf (filling : Filling) : Except Error Script :=
  match filling.script? true with
  | some t => .ok t
  | none => .error (.noOctets filling.typeName)

/-- Why there is no such conversion. An octet that is no ASCII character can be named only right
behind digits. -/
def noConversion (octets : Bool) (d : Directive) (place code : Nat) : Error :=
  if octets && 127 < code && !d.behindDigits then .unnameable else .unknown code place octets

/-- What the conversion of a directive, written at a place of a template, makes of a filling. -/
def convert (octets : Bool) (d : Directive) (precision : Option Nat) (place code : Nat)
    (filling : Filling) : Except Error Written :=
  let layout := d.layout
  let conversion := Char.ofNat code
  let mark (cs : List Char) : List Char := if layout.marked then cs else []
  match conversion with
  | 's' => return writeText precision (← if octets then octetsOf filling else .ok filling.bare)
  | 'b' =>
    if octets then (octetsOf filling).map (writeText precision)
    else .error (noConversion octets d place code)
  | 'r' =>
    let text := if octets then asciiText filling.shown else filling.shown.toList
    .ok (writeText precision (.ofChars text))
  | 'a' => .ok (writeText precision (.ofChars (asciiText filling.shown)))
  | 'i' => do
    let named := if octets then 'd' else 'i'
    writeWhole layout precision 10 [] (← wholePartOf named filling)
  | 'd' | 'u' => do writeWhole layout precision 10 [] (← wholePartOf conversion filling)
  | 'o' => do writeWhole layout precision 8 (mark ['0', 'o']) (← wholeOf conversion filling)
  | 'x' => do writeWhole layout precision 16 (mark ['0', 'x']) (← wholeOf conversion filling)
  | 'X' => do
    let written ← writeWhole layout precision 16 (mark ['0', 'X']) (← wholeOf conversion filling)
    let capital (s : Stretch) : Stretch :=
      { s with codes := s.codes.map fun c => (Char.ofNat c).toUpper.toNat }
    return { written with body := written.body.map capital }
  | 'e' | 'f' | 'g' | 'E' | 'F' | 'G' => writeDouble layout precision octets conversion filling
  | 'c' => do return { body := [{ codes := [← codeOf octets filling] }] }
  | _ => .error (noConversion octets d place code)

/-- A measure, and what is left to fill a template with after it is known; `limit` is the least
number that is too great for it. -/
def Measure.resolve (tooGreat : Error) (machineType : String) (limit : Nat) :
    Option Measure → Option Filling → Except Error (Option Nat × Option Filling)
  | none, filling => .ok (none, filling)
  | some (.stated n), filling => if limit ≤ n then .error tooGreat else .ok (some n, filling)
  | some .taken, none => .error .tooFew
  | some .taken, some filling =>
    match filling.number? with
    | none => .error .noMeasure
    | some n =>
      if n < -limit ∨ limit ≤ n then .error (.measureTooGreat machineType)
      else .ok (some n.natAbs, none)

/-- What a directive writes, and what is left to fill the template with. -/
def Directive.fill (octets : Bool) (d : Directive) (place : Nat) (filling : Option Filling) :
    Except Error (Script × Option Filling) := do
  let (width, filling) ←
    Measure.resolve .widthTooGreat "ssize_t" wordLimit.toNat d.width filling
  let (precision, filling) ←
    Measure.resolve (.precisionTooGreat octets) "int" 2147483648 d.precision filling
  match d.conversion, filling with
  | none, _ => throw .incomplete
  | some _, none => throw .tooFew
  | some code, some filling =>
    let written ← convert octets d precision place code filling
    if scriptLimit < width.getD 0 then throw .noRoom
    return (d.layout.place (width.getD 0) written, none)

/-- Fills pieces of a template with what is left to fill them with. -/
def fillPieces (octets : Bool) : List Piece → Option Filling → Except Error Script
  | [], none => .ok []
  | [], some _ => .error (.unused octets)
  | .point code :: rest, filling => return { codes := [code] } :: (← fillPieces octets rest filling)
  | .keyed :: _, _ => .error .keyed
  | .directive d place :: rest, filling => do
    let (text, filling) ← d.fill octets place filling
    return text ++ (← fillPieces octets rest filling)

/-- Fills a template; one that is too long to be written out cannot be filled. -/
def fill (octets : Bool) (template : Script) (filling : Filling) : Except Error Script :=
  if roomLimit < template.length then .error .noRoom
  else
    let codes := template.codes
    fillPieces octets (pieces codes.length codes) (some filling)

end Template

end Catena
