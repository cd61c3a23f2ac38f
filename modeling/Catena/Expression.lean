import Catena.Construction

/-!
# Parser expressions

Instructions for building parsers, as data. Operands are built from left to right, names stand for
parsers built before, and each placeholder takes a slot of its own in the grammar.
-/

namespace Catena

/-- Instructions for building an operand. -/
inductive Expression where
  | given (operand : Operand)
  | named (name : String)
  /-- A fresh placeholder. -/
  | forward (name : String)
  | literal (text : Plain) (caseSensitive : Bool)
  /-- An operand that has to be a parser already. -/
  | itself (inner : Expression)
  | many (least most : Int) (inner : Expression)
  | around (wrap : Parser → Parser) (inner : Expression)
  | throwing (kinds : KindsOperand) (msg : Option String) (trigger : Trigger)
  | catching (kinds : KindsOperand) (main : Expression)
  | catchingWith (kinds : KindsOperand) (main handler : Expression)
  | join (fold : Fold) (left right : Expression)
  | attach (left : Expression) (function : Supplied (Value × Value) Value)
  | either (left right : Expression)
  /-- A chain of links, none of which is taken apart. -/
  | chain (links : List (Link Expression))
  /-- An alternative of options, none of which is taken apart. -/
  | options (parsers : List Expression)

/-- Parsers by name, the latest first. -/
abbrev Names := List (String × Parser)

/-- Builds under a grammar that may grow. -/
abbrev Builder := StateT Grammar (Except ConstructionError)

/-- A placeholder for a slot not yet defined. -/
def Builder.placeholder (name : String) : Builder Parser := do
  let slot := (← get).nextSlot
  modify Grammar.reserve
  return .forward slot name

namespace Expression

mutual

def build (names : Names) : Expression → Builder Operand
  | given operand => return operand
  | named name =>
    match names.lookup name with
    | some parser => return .parser parser
    | none => throw (.unknownName name)
  | forward name => return .parser (← Builder.placeholder name)
  | literal text caseSensitive => return .parser (← Parser.ofText text caseSensitive)
  | itself inner => do
    return .parser (← (← inner.build names).itself)
  | many least most inner => do
    let parser ← (← inner.build names).toParser
    return .parser (← Parser.between least most parser)
  | around wrap inner => do
    let parser ← (← inner.build names).toParser
    return .parser (wrap parser)
  | throwing kinds msg trigger => return .parser (← Parser.throwing kinds msg trigger)
  | catching kinds main => do
    let main ← main.build names
    return .parser (← Parser.catching kinds main none)
  | catchingWith kinds main handler => do
    let main ← main.build names
    let handler ← handler.build names
    return .parser (← Parser.catching kinds main (some handler))
  | join fold left right => do
    let left ← left.build names
    let right ← right.build names
    left.join fold right
  | attach left function => do
    let left ← left.build names
    left.attach function
  | either left right => do
    let left ← left.build names
    let right ← right.build names
    left.either right
  | chain links => return .parser (.chain (← buildLinks names links))
  | options inner => do
    let parsers ← buildAll names inner
    return .parser (← Parser.ofOptions parsers)

def buildLinks (names : Names) : List (Link Expression) → Builder (List (Link Parser))
  | [] => return []
  | .item fold inner :: rest => do
    let parser ← (← inner.build names).toParser
    return .item fold parser :: (← buildLinks names rest)
  | .build function :: rest => return .build function :: (← buildLinks names rest)

def buildAll (names : Names) : List Expression → Builder (List Parser)
  | [] => return []
  | inner :: rest => do
    let parser ← (← inner.build names).toParser
    return parser :: (← buildAll names rest)

end

def toParser (names : Names) (e : Expression) : Builder Parser := do
  (← e.build names).toParser

end Expression

end Catena
