import Catena.Action.Elementary
import Catena.Action.Repetition
import Catena.Action.Wrapping
import Catena.Chain

/-!
# The meaning of parsers

What each parser does to a state, put together from what its parts do. Every parser leaves its
result settled.
-/

namespace Catena

/-- What the meaning of a parser depends on besides the parser. -/
structure Setting where
  /-- What a placeholder of the given slot and name does. -/
  forward : Nat → String → Action
  /-- Rounds granted to open repetitions beyond one more than there are items. -/
  patience : Nat

namespace Parser

mutual

/-- What a parser does to a state, with the result as its parts leave it. -/
def body (setting : Setting) : Parser → Action
  | base _ => fun _ => Run.raise (.defect .unimplemented)
  | literal text caseSensitive => .literal text caseSensitive
  | outcome ok => .outcome ok
  | check test => .check test
  | build function => .build function
  | singleItem test => .singleItem test
  | itemRun test keepTerminator stopsWhenTrue => .itemRun test keepTerminator stopsWhenTrue
  | everything => .everything
  | endOfInput => .endOfInput
  | step function => function.call
  | many least most parser => .many setting.patience least most (.settled (parser.body setting))
  | repeated test stopsWhenTrue parser =>
    .repeated setting.patience test stopsWhenTrue (.settled (parser.body setting))
  | absorb merge initial parser => .absorb merge initial (.settled (parser.body setting))
  | morph transform parser => .morph transform (.settled (parser.body setting))
  | force parser => .force (.settled (parser.body setting))
  | forward slot name => setting.forward slot name
  | noConsume parser => .noConsume (.settled (parser.body setting))
  | noBuild parser => .noBuild (.settled (parser.body setting))
  | oblivious parser => .settled (parser.body setting)
  | lookahead _ parser => .settled (parser.body setting)
  | throws kind msg trigger => .throws kind msg trigger
  | catches kinds main none =>
    .catches kinds main.shown (.settled (main.body setting)) fun s => return s.failed
  | catches kinds main (some handler) =>
    .catches kinds main.shown (.settled (main.body setting)) (.settled (handler.body setting))
  | chain links => Chain.act (parts setting links)
  | alternative first rest => .firstOf (.settled (first.body setting)) (acts setting rest)

/-- How a parser backs off. -/
def backsOff (setting : Setting) : Parser → Option Lookahead
  | lookahead mode parser => some ⟨mode, parser.shown, .settled (parser.body setting)⟩
  | _ => none

/-- What a chain knows of its links. -/
def parts (setting : Setting) : List (Link Parser) → List (Link Part)
  | [] => []
  | .build function :: links => .build function :: parts setting links
  | .item fold parser :: links =>
    .item fold ⟨.settled (parser.body setting), parser.traits, parser.backsOff setting⟩ ::
      parts setting links

def acts (setting : Setting) : List Parser → List Action
  | [] => []
  | parser :: parsers => .settled (parser.body setting) :: acts setting parsers

end

/-- What a parser does to a state. -/
def act (setting : Setting) (parser : Parser) : Action :=
  .settled (parser.body setting)

def part (setting : Setting) (parser : Parser) : Part :=
  ⟨parser.act setting, parser.traits, parser.backsOff setting⟩

theorem settled_act (setting : Setting) (parser : Parser) :
    Action.settled (parser.act setting) = parser.act setting :=
  Action.settled_settled _

theorem oblivious_act (setting : Setting) (parser : Parser) :
    (oblivious parser).act setting = parser.act setting :=
  Action.settled_settled _

theorem lookahead_act (setting : Setting) (mode : Mode) (parser : Parser) :
    (lookahead mode parser).act setting = parser.act setting :=
  Action.settled_settled _

theorem acts_eq_map (setting : Setting) (parsers : List Parser) :
    acts setting parsers = parsers.map (act setting) := by
  induction parsers with
  | nil => rfl
  | cons parser parsers ih => rw [acts, ih]; rfl

theorem parts_eq_map (setting : Setting) (links : List (Link Parser)) :
    parts setting links = links.map (Link.map (part setting)) := by
  induction links with
  | nil => rfl
  | cons link links ih => cases link <;> rw [parts, ih] <;> rfl

end Parser

end Catena
