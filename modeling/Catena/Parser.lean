import Catena.Callback
import Catena.Plain

/-!
# Parsers

The parsers as data: elementary steps, combinators, and chains of links. A parser has a name, which
tells how it was put together, and traits, which tell a chain when to run it and whether it counts.
-/

namespace Catena

/-- How the text matched by a link joins the text of its chain. -/
inductive Fold where
  /-- The link's text is added to the chain's. -/
  | append
  /-- The link's text takes the place of the chain's. -/
  | discard
deriving DecidableEq, Repr

/-- A link of a chain: a parser, or a function that builds a value from the chain's text. -/
inductive Link (π : Type) where
  | item (fold : Fold) (parser : π)
  | build (function : TextFunction)

/-- The order in which a lookahead tries its candidates. -/
inductive Mode where
  /-- The shortest first. -/
  | reluctant
  /-- The longest first. -/
  | greedy
  | unordered
deriving DecidableEq, Repr

inductive Trigger where
  | onSuccess
  | onFailure
  | always
deriving DecidableEq, Repr

inductive Parser where
  /-- A parser without behaviour. -/
  | base (name : String)
  /-- The given items; a text that is no sequence cannot be matched. -/
  | literal (text : Plain) (caseSensitive : Bool)
  /-- Success or failure, whatever is left. -/
  | outcome (ok : Bool)
  /-- Success if a test of the built value and the matched text holds. -/
  | check (test : TextFunction)
  /-- A new value from the built value and the matched text. -/
  | build (function : TextFunction)
  /-- One item that a test accepts. -/
  | singleItem (test : ItemFunction)
  /-- Items while a test holds, or until it does, and the item that stops them. -/
  | itemRun (test : ItemFunction) (keepTerminator stopsWhenTrue : Bool)
  | everything
  /-- Success if nothing is left. -/
  | endOfInput
  /-- A move of the state. -/
  | step (function : StepFunction)
  /-- A parser repeated between two bounds, of which a negative one is open. -/
  | many (least most : Int) (parser : Parser)
  /-- A parser repeated while a test of each round holds, or until it does. -/
  | repeated (test : RoundFunction) (stopsWhenTrue : Bool) (parser : Parser)
  /-- A parser with a built value of its own, merged afterwards. -/
  | absorb (merge : MergeFunction) (initial : Value) (parser : Parser)
  /-- A parser whose matched text is transformed. -/
  | morph (transform : TransformFunction) (parser : Parser)
  /-- A parser whose result moves to a fresh buffer. -/
  | force (parser : Parser)
  /-- The parser that a grammar defines in a slot. -/
  | forward (slot : Nat) (name : String)
  /-- A parser that gives back what it consumed. -/
  | noConsume (parser : Parser)
  /-- A parser that gives back the built value. -/
  | noBuild (parser : Parser)
  /-- A parser that resumes a failed chain. -/
  | oblivious (parser : Parser)
  /-- A parser that may match less, so that the rest of its chain succeeds. -/
  | lookahead (mode : Mode) (parser : Parser)
  /-- A signal, raised on success, on failure or always. -/
  | throws (kind : SignalKind) (msg : Option String) (trigger : Trigger)
  /-- A parser whose signals of some kinds are stopped. -/
  | catches (kinds : List SignalKind) (main : Parser) (handler : Option Parser)
  /-- Links that pass one state on. -/
  | chain (links : List (Link Parser))
  /-- The first parser that succeeds on the same state. -/
  | alternative (first : Parser) (rest : List Parser)

/-! ### Names -/

/-- The sign of a link in the name of its chain. -/
def Link.sign {π : Type} : Link π → String
  | .item .append _ => "*"
  | .item .discard _ => "/"
  | .build _ => "%"

def Mode.word : Mode → String
  | reluctant => "reluctant"
  | greedy => "greedy"
  | unordered => "lookahead"

namespace Parser

def wrapped (word inner : String) : String :=
  word ++ "(" ++ inner ++ ")"

mutual

def name : Parser → String
  | base name => name
  | literal text caseSensitive =>
    if caseSensitive then text.shown else wrapped "anycase" text.shown
  | outcome ok => if ok then "succeed" else "fail"
  | check test => wrapped "test" (test.name.getD "...")
  | build function => wrapped "build" (function.name.getD "...")
  | singleItem test => wrapped "single_char" (test.name.getD "...")
  | itemRun test _ stopsWhenTrue =>
    wrapped (if stopsWhenTrue then "char_until" else "char_while") (test.name.getD "...")
  | everything => "everything"
  | endOfInput => "end_of_input"
  | step function => function.name.getD "step"
  | many least most parser =>
    wrapped "many" (toString least ++ ", " ++ toString most ++ ", " ++ parser.name)
  | repeated _ stopsWhenTrue parser =>
    wrapped (if stopsWhenTrue then "repeat_until" else "repeat_while") parser.name
  | absorb _ _ parser => wrapped "absorb" parser.name
  | morph _ parser => wrapped "morph" parser.name
  | force parser => wrapped "force" parser.name
  | forward _ name => name
  | noConsume parser => wrapped "no_consume" parser.name
  | noBuild parser => wrapped "no_build" parser.name
  | oblivious parser => wrapped "oblivious" parser.name
  | lookahead mode parser => wrapped mode.word parser.name
  | throws kind _ .onSuccess => wrapped "throw_on_success" kind.name
  | throws kind _ .onFailure => wrapped "throw_on_failure" kind.name
  | throws kind _ .always => wrapped "throw_anyway" kind.name
  | catches _ main _ => wrapped "catch" main.name
  | chain [] => ""
  | chain (.item _ parser :: links) => " ".intercalate (parser.name :: linkNames links)
  | chain (.build function :: links) =>
    " ".intercalate (function.name.getD "<build>" :: linkNames links)
  | alternative first rest => " | ".intercalate (first.name :: names rest)

/-- The names of links behind their signs. -/
def linkNames : List (Link Parser) → List String
  | [] => []
  | .item .append parser :: links => ("* " ++ parser.name) :: linkNames links
  | .item .discard parser :: links => ("/ " ++ parser.name) :: linkNames links
  | .build function :: links => ("% " ++ function.name.getD "<build>") :: linkNames links

def names : List Parser → List String
  | [] => []
  | parser :: parsers => parser.name :: names parsers

end

def form : Parser → String
  | base _ => "Parser"
  | literal _ _ => "Literal"
  | outcome _ => "Outcome"
  | check _ => "Check"
  | build _ => "Build"
  | singleItem _ => "SingleChar"
  | itemRun _ _ _ => "CharRun"
  | everything => "Everything"
  | endOfInput => "EndOfInput"
  | step _ => "FunctionParser"
  | many _ _ _ => "Many"
  | repeated _ _ _ => "Repeat"
  | absorb _ _ _ => "Absorb"
  | morph _ _ => "Morph"
  | force _ => "Force"
  | forward _ _ => "Forward"
  | noConsume _ => "NoConsume"
  | noBuild _ => "NoBuild"
  | oblivious _ => "Oblivious"
  | lookahead .reluctant _ => "Reluctant"
  | lookahead .greedy _ => "Greedy"
  | lookahead .unordered _ => "Lookahead"
  | throws _ _ _ => "Throw"
  | catches _ _ _ => "Catch"
  | chain _ => "Chain"
  | alternative _ _ => "Alternative"

def shown (parser : Parser) : String :=
  "<" ++ parser.form ++ " " ++ parser.name ++ ">"

end Parser

/-! ### Traits -/

/-- What a chain goes by when it runs a parser. -/
structure Traits where
  /-- The parser resumes a failed chain. -/
  oblivious : Bool := false
  /-- The parser runs on a failed chain as it is. -/
  inspectsFailure : Bool := false
  /-- The parser adds no text. -/
  inspectsOnly : Bool := false
deriving DecidableEq, Repr

/-- The traits of a parser; a wrapper or a placeholder does not have those of what it stands for. -/
def Parser.traits : Parser → Traits
  | outcome _ | check _ | build _ | endOfInput => { inspectsOnly := true }
  | throws _ _ _ => { inspectsFailure := true, inspectsOnly := true }
  | oblivious _ => { oblivious := true }
  | _ => {}

end Catena
