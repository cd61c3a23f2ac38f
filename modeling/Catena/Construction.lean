import Catena.Grammar
import Catena.Plain.Arithmetic
import Catena.Plain.Template

/-!
# Construction

How parsers are put together from operands of any kind: texts become literals, and what is neither
a text nor a parser is refused, as are crossed bounds and kinds that are no signal kinds. Between
plain operands the operators do arithmetic, and what comes of it is an operand in turn.
-/

namespace Catena

/-- Something put where a parser is expected. -/
inductive Operand where
  | parser (p : Parser)
  | plain (x : Plain)

/-- Why a parser cannot be constructed. -/
inductive ConstructionError where
  | notAParser (typeName : String)
  | notCallable (typeName : String)
  | tooFewOptions
  | crossedBounds (least most : Int)
  | caseless
  | noKinds
  | notAKind (shown : String)
  /-- A throw step was given several kinds. -/
  | severalKinds
  /-- An operator between plain things has no result. -/
  | arithmetic (error : ArithmeticError)
  /-- A text or a run of octets cannot be filled. -/
  | template (error : Template.Error)
  | unknownName (name : String)
  | notAPlaceholder
  /-- A text stands for a literal but is none. -/
  | onlyText
deriving DecidableEq

/-- The bound that leaves a repetition open; every negative bound does. -/
def unbounded : Int := -1

namespace Operand

/-- The parser an operand stands for. -/
def toParser : Operand → Except ConstructionError Parser
  | parser p => .ok p
  | plain x@(.value (.seq (.text _))) | plain x@(.script false _) => .ok (.literal x true)
  | plain x => .error (.notAParser x.typeName)

/-- The parser an operand is; a text is none, although it stands for one. -/
def itself : Operand → Except ConstructionError Parser
  | parser p => .ok p
  | operand => do
    let _ ← operand.toParser
    throw .onlyText

end Operand

def ConstructionError.message? : ConstructionError → Option String
  | notAParser typeName => some ("Expected a parser or a string, got " ++ typeName ++ ".")
  | notCallable typeName => some ("Build functions must be callable, got " ++ typeName ++ ".")
  | tooFewOptions => some "At least two parsers required."
  | crossedBounds least most =>
    some ("The minimum count (" ++ toString least ++ ") exceeds the maximum count (" ++
      toString most ++ ").")
  | caseless => some "Case insensitive literals must be strings or bytes."
  | noKinds => some "At least one signal kind required."
  | notAKind shown => some ("Signal kinds must be subclasses of ParseSignal, got " ++ shown ++ ".")
  | severalKinds => none
  | arithmetic error => some error.message
  | template error => some error.message
  | unknownName name => some ((Value.ofString name).shown)
  | notAPlaceholder => none
  | onlyText => none

/-! ### Chains and alternatives -/

namespace Parser

/-- A chain longer by one link; a parser that is no chain becomes the first link. -/
def extend (left : Parser) (link : Link Parser) : Parser :=
  match left with
  | chain links => chain (links ++ [link])
  | p => chain [.item .append p, link]

/-- The options of an alternative; any other parser is its own only option. -/
def options : Parser → List Parser
  | alternative first rest => first :: rest
  | p => [p]

/-- The alternative of all options of two parsers. -/
def either (left right : Parser) : Parser :=
  match left with
  | alternative first rest => alternative first (rest ++ right.options)
  | p => alternative p right.options

/-- The alternative of options, of which two are needed. -/
def ofOptions : List Parser → Except ConstructionError Parser
  | first :: second :: rest => .ok (alternative first (second :: rest))
  | _ => .error .tooFewOptions

/-- A literal; only texts and octets can be matched in either case. -/
def ofText (text : Plain) (caseSensitive : Bool) : Except ConstructionError Parser :=
  match caseSensitive, text.sequence? with
  | true, _ | _, some (.text _) | _, some (.bytes _) => .ok (literal text caseSensitive)
  | _, _ => .error .caseless

/-- A repetition between bounds that are not crossed. -/
def between (least most : Int) (parser : Parser) : Except ConstructionError Parser :=
  if 0 ≤ most ∧ most < least then .error (.crossedBounds least most)
  else .ok (many least most parser)

end Parser

/-! ### Functions -/

/-- Something put where a function is expected. -/
inductive Supplied (α β : Type) where
  /-- A function, and the word for its type. -/
  | function (f : Callback α β) (typeName : String)
  | plain (x : Plain)

namespace Supplied

variable {α β : Type}

/-- What is called in place of the operand; calling what is no function fails. -/
def callback : Supplied α β → Callback α β
  | function f _ => f
  | plain _ => ⟨none, none, fun _ => .error (.refusal .mistyped)⟩

/-- What a template is filled with that is given the operand. -/
def filling : Supplied α β → Filling
  | function _ typeName => .function typeName
  | plain x => .plain x

end Supplied

/-! ### Operators -/

/-- A template filled, or what is left of a number divided by another one. -/
def Plain.filled (x : Plain) (filling : Filling) : Except ConstructionError Plain :=
  match x.script?, filling with
  | some (octets, t), filling =>
    ((Template.fill octets t filling).mapError .template).map (Plain.ofScript octets)
  | none, .plain y => (x.modulo y).mapError .arithmetic
  | none, .function typeName => .error (.arithmetic (.unsupported "%" x.typeName typeName))

namespace Operand

/-- Joins two operands in a chain; two plain ones are multiplied or divided. -/
def join (fold : Fold) : Operand → Operand → Except ConstructionError Operand
  | parser left, right => return parser (left.extend (.item fold (← right.toParser)))
  | left, parser right => return parser ((← left.toParser).extend (.item fold right))
  | plain x, plain y =>
    let result := match fold with
      | .append => x.times y
      | .discard => x.quotient y
    return plain (← result.mapError .arithmetic)

/-- Attaches a function that builds a value; with it, a plain operand is filled or divided. -/
def attach : Operand → Supplied (Value × Value) Value → Except ConstructionError Operand
  | parser left, .function f _ => .ok (parser (left.extend (.build f)))
  | parser _, .plain x => .error (.notCallable x.typeName)
  | plain x, function => return plain (← x.filled function.filling)

/-- The alternative of two operands; two plain ones are united. -/
def either : Operand → Operand → Except ConstructionError Operand
  | parser left, right => return parser (left.either (← right.toParser))
  | left, parser right => return parser ((← left.toParser).either right)
  | plain x, plain y => return plain (← (x.union y).mapError .arithmetic)

end Operand

/-! ### Signal kinds -/

/-- Something put where a signal kind is expected: a kind, or something else as it is shown. -/
inductive KindOperand where
  | kind (k : SignalKind)
  | other (shown : String)

inductive KindsOperand where
  | one (k : KindOperand)
  | several (ks : List KindOperand)

def KindOperand.toKind : KindOperand → Except ConstructionError SignalKind
  | kind k => .ok k
  | other shown => .error (.notAKind shown)

/-- The kinds given, of which there must be one. -/
def KindsOperand.toKinds : KindsOperand → Except ConstructionError (List SignalKind)
  | one k => return [← k.toKind]
  | several [] => .error .noKinds
  | several ks => ks.mapM KindOperand.toKind

namespace Parser

/-- A throw step, for a single kind. -/
def throwing (kinds : KindsOperand) (msg : Option String) (trigger : Trigger) :
    Except ConstructionError Parser := do
  let checked ← kinds.toKinds
  match kinds, checked with
  | .one _, [kind] => return throws kind msg trigger
  | _, _ => .error .severalKinds

/-- A parser whose signals of the given kinds are stopped. -/
def catching (kinds : KindsOperand) (main : Operand) (handler : Option Operand) :
    Except ConstructionError Parser := do
  let main ← main.toParser
  let handler ← handler.mapM Operand.toParser
  return catches (← kinds.toKinds) main handler

end Parser

end Catena
