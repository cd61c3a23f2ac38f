import Catena.Meaning

/-!
# Grammars

Definitions that placeholders stand for, and runs of a parser under them. A run is granted so much
depth and patience; more of either never changes what a run that ends does.
-/

namespace Catena

/-- What is defined in each slot; a slot reserved but not defined yet holds nothing. -/
structure Grammar where
  slots : List (Option Parser)

/-- What is granted to a run. -/
structure Granted where
  /-- How many definitions may be entered one inside the other. -/
  depth : Nat
  /-- Rounds of open repetitions beyond one more than there are items. -/
  patience : Nat
deriving DecidableEq, Repr

namespace Grammar

def empty : Grammar := ⟨[]⟩

def nextSlot (g : Grammar) : Nat :=
  g.slots.length

def reserve (g : Grammar) : Grammar :=
  ⟨g.slots ++ [none]⟩

/-- Defines what a slot stands for, also anew. -/
def define (g : Grammar) (slot : Nat) (parser : Parser) : Grammar :=
  ⟨g.slots.set slot (some parser)⟩

def lookup (g : Grammar) (slot : Nat) : Option Parser :=
  g.slots[slot]?.join

/-- What a placeholder does, where so many definitions may be entered. -/
def forward (g : Grammar) (patience : Nat) : Nat → Nat → String → Action
  | 0, slot, name => fun _ =>
    match g.lookup slot with
    | none => Run.raise (.undefined name)
    | some _ => Run.exhausted
  | depth + 1, slot, name => fun s =>
    match g.lookup slot with
    | none => Run.raise (.undefined name)
    | some parser => parser.act ⟨g.forward patience depth, patience⟩ s

/-- What parsers go by under a grammar. -/
def setting (g : Grammar) (granted : Granted) : Setting :=
  ⟨g.forward granted.patience granted.depth, granted.patience⟩

/-- Runs a parser on a state, with records of the run. -/
def run (g : Grammar) (granted : Granted) (parser : Parser) (s : State) : Run State := do
  Run.log (.started parser.shown s.remaining)
  let result ← parser.act (g.setting granted) s
  Run.log (.finished parser.shown result.ok result.remaining)
  return result

def parse (g : Grammar) (granted : Granted) (parser : Parser) (source : Buffer) (value : Value) :
    Run State :=
  g.run granted parser (.start source value)

end Grammar

end Catena
