import Catena.Expression
import Catena.State.Edit

/-!
# Sessions

Parsers and states kept under names, and a current state, through a sequence of commands. A command
that fails leaves the session as it was.
-/

namespace Catena

/-- What is granted to every run of a session: only definitions that keep entering each other go as
deep, and only a repetition that never ends takes as many rounds. -/
def Session.granted : Granted where
  depth := 100000
  patience := 4611686018427387904

/-- What a session keeps. -/
structure Session where
  grammar : Grammar := .empty
  names : Names := []
  /-- States by name, the latest first. -/
  saved : List (String × State) := []
  current : Option State := none

/-- Why a command has no answer. -/
inductive Failure where
  | construction (error : ConstructionError)
  | fault (fault : Fault)
  | exhausted
  | noState
  | unknownState (name : String)

/-- What can be read off the current state. -/
inductive Reading where
  | source
  | pos
  | limit
  | ok
  | matched
  | value
  | remaining
  | noText
  | unconsumed
  | atEnd
  | lineCol
  | hasItems (count : Int)
  | peek (count : Int)
  | shown
  /-- States are not to be used as keys, so this fails. -/
  | key

/-- What becomes of the last good state when fields of the current state are replaced. -/
inductive Remembered where
  | keep
  | clear
  | saved (name : String)

/-- A command of a session. -/
inductive Command where
  | name (name : String) (parser : Expression)
  | forward (name : String) (label : String)
  | define (name : String) (parser : Expression)
  | describe (parser : Expression)
  | run (parser : Expression) (source : Buffer) (value : Value)
  | resume (parser : Expression)
  | start (source : Buffer) (value : Value)
  | save (name : String)
  | load (name : String)
  /-- Compares saved states; without a second name, one with something that is no state. -/
  | compare (name : String) (other : Option String)
  | move (m : Move)
  | replace (changes : Changes) (lastGood : Remembered)
  | read (reading : Reading)

inductive Answer where
  | parser (p : Parser)
  | result (s : State)
  | saved (name : String)
  | compared (equal : Bool)
  | value (v : Value)
  | position (line column : Int)
  | failed (failure : Failure)

/-- An answer, and the events of the run that led to it. -/
structure Reply where
  answer : Answer
  events : List Event := []

namespace Session

/-- Builds a parser; the grammar may grow. -/
def build (session : Session) (e : Expression) : Except Failure (Session × Parser) :=
  match (e.toParser session.names).run session.grammar with
  | .ok (parser, grammar) => .ok ({ session with grammar }, parser)
  | .error error => .error (.construction error)

def savedState (session : Session) (name : String) : Except Failure State :=
  match session.saved.lookup name with
  | some s => .ok s
  | none => .error (.unknownState name)

def currentState (session : Session) : Except Failure State :=
  match session.current with
  | some s => .ok s
  | none => .error .noState

def read (s : State) : Reading → Except Failure Answer
  | .source => .ok (.value (.seq s.source))
  | .pos => .ok (.value (.int s.pos))
  | .limit => .ok (.value (.int s.limit))
  | .ok => .ok (.value (.bool s.ok))
  | .matched => .ok (.value s.matched)
  | .value => .ok (.value s.value)
  | .remaining => .ok (.value (.int s.remaining))
  | .noText => .ok (.value s.noText)
  | .unconsumed => .ok (.value (.seq s.unconsumed))
  | .atEnd => .ok (.value (.bool s.atEnd))
  | .lineCol => .ok (.position s.lineCol.1 s.lineCol.2)
  | .hasItems count => .ok (.value (.bool (s.hasItems count)))
  | .peek count => .ok (.value ((s.peek count).elim .null .seq))
  | .shown => .ok (.value (.ofString s.shown))
  | .key => .error (.fault (.defect .mistyped))

def addForward (session : Session) (name label : String) : Session × Parser :=
  let parser := Parser.forward session.grammar.nextSlot label
  ({ session with grammar := session.grammar.reserve, names := (name, parser) :: session.names },
    parser)

def defineForward (session : Session) (name : String) (e : Expression) :
    Except Failure (Session × Parser) :=
  match session.names.lookup name with
  | none => .error (.construction (.unknownName name))
  | some (.forward slot label) => do
    let (next, parser) ← session.build e
    return ({ next with grammar := next.grammar.define slot parser }, .forward slot label)
  | some _ => .error (.construction .notAPlaceholder)

/-- Goes on to another session without running a parser, unless that fails. -/
def quietly (session : Session) (next : Except Failure (Session × Answer)) : Session × Reply :=
  match next with
  | .ok (next, answer) => (next, { answer })
  | .error failure => (session, { answer := .failed failure })

def moveTo (session : Session) (s : Except Failure State) : Session × Reply :=
  session.quietly do
    let s ← s
    return ({ session with current := some s }, .result s)

/-- Builds a parser and runs it, unless there is no state to run it on. -/
def runOn (session : Session) (e : Expression) (s : Except Failure State) : Session × Reply :=
  let prepared := do
    let (next, parser) ← session.build e
    return (next, parser, ← s)
  match prepared with
  | .error failure => (session, { answer := .failed failure })
  | .ok (next, parser, s) =>
    let ran := next.grammar.run granted parser s
    match ran.outcome with
    | .returned result => ({ next with current := some result }, ⟨.result result, ran.events⟩)
    | .raised fault => (session, ⟨.failed (.fault fault), ran.events⟩)
    | .exhausted => (session, ⟨.failed .exhausted, ran.events⟩)

def step (session : Session) : Command → Session × Reply
  | .name name e => session.quietly do
    let (next, parser) ← session.build e
    return ({ next with names := (name, parser) :: next.names }, .parser parser)
  | .forward name label =>
    let (next, parser) := session.addForward name label
    (next, { answer := .parser parser })
  | .define name e => session.quietly do
    let (next, parser) ← session.defineForward name e
    return (next, .parser parser)
  | .describe e => session.quietly do
    let (next, parser) ← session.build e
    return (next, .parser parser)
  | .run e source value => session.runOn e (.ok (.start source value))
  | .resume e => session.runOn e session.currentState
  | .start source value => session.moveTo (.ok (.start source value))
  | .save name => session.quietly do
    let s ← session.currentState
    return ({ session with saved := (name, s) :: session.saved }, .saved name)
  | .load name => session.moveTo (session.savedState name)
  | .compare name other => session.quietly do
    let s ← session.savedState name
    match other with
    | some other => return (session, .compared (s.same (← session.savedState other)))
    | none => return (session, .compared false)
  | .move m => session.moveTo do
    match (← session.currentState).move m with
    | some s => return s
    | none => throw (.fault (.defect .mistyped))
  | .replace changes lastGood => session.moveTo do
    let s := (← session.currentState).change changes
    match lastGood with
    | .keep => return s
    | .clear => return { s with lastGood := none }
    | .saved name => return { s with lastGood := some (← session.savedState name) }
  | .read reading => session.quietly do
    return (session, ← read (← session.currentState) reading)

def steps (session : Session) : List Command → List Reply
  | [] => []
  | command :: rest =>
    let (next, reply) := session.step command
    reply :: next.steps rest

/-! ### Single tasks -/

/-- A session whose names stand for definitions, each of which may use all names. -/
def ofDefinitions (definitions : List (String × Expression)) : Except Failure Session :=
  let declared := definitions.foldl (fun session d => (session.addForward d.1 d.1).1) {}
  definitions.foldlM (fun session d => return (← session.defineForward d.1 d.2).1) declared

/-- Runs a parser under definitions, on an edit of the state at the start of a source. -/
def parse (definitions : List (String × Expression)) (e : Expression) (source : Buffer)
    (value : Value) (edit : Edit) : Reply :=
  match ofDefinitions definitions with
  | .ok session => (session.runOn e (.ok ((State.start source value).edit edit))).2
  | .error failure => { answer := .failed failure }

end Session

end Catena
