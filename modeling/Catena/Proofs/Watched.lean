import Catena.Grammar

/-!
# Watched runs

The meaning of parsers with something in between: a watch sees every run of a parser inside another
one, the state it starts on and the state it leaves, and may stop or change it.
-/

namespace Catena

/-- What stands between a parser and those that run it. -/
abbrev Watch := Parser → Action → Action

namespace Parser

mutual

def bodyUnder (watch : Watch) (setting : Setting) : Parser → Action
  | many least most parser =>
    .many setting.patience least most (watch parser (.settled (parser.bodyUnder watch setting)))
  | repeated test stopsWhenTrue parser =>
    .repeated setting.patience test stopsWhenTrue
      (watch parser (.settled (parser.bodyUnder watch setting)))
  | absorb merge initial parser =>
    .absorb merge initial (watch parser (.settled (parser.bodyUnder watch setting)))
  | morph transform parser =>
    .morph transform (watch parser (.settled (parser.bodyUnder watch setting)))
  | force parser => .force (watch parser (.settled (parser.bodyUnder watch setting)))
  | noConsume parser => .noConsume (watch parser (.settled (parser.bodyUnder watch setting)))
  | noBuild parser => .noBuild (watch parser (.settled (parser.bodyUnder watch setting)))
  | oblivious parser => watch parser (.settled (parser.bodyUnder watch setting))
  | lookahead _ parser => watch parser (.settled (parser.bodyUnder watch setting))
  | catches kinds main none =>
    .catches kinds main.shown (watch main (.settled (main.bodyUnder watch setting)))
      fun s => return s.failed
  | catches kinds main (some handler) =>
    .catches kinds main.shown (watch main (.settled (main.bodyUnder watch setting)))
      (watch handler (.settled (handler.bodyUnder watch setting)))
  | chain links => Chain.act (partsUnder watch setting links)
  | alternative first rest =>
    .firstOf (watch first (.settled (first.bodyUnder watch setting))) (actsUnder watch setting rest)
  | parser => parser.body setting

def backsOffUnder (watch : Watch) (setting : Setting) : Parser → Option Lookahead
  | lookahead mode parser =>
    some ⟨mode, parser.shown, watch parser (.settled (parser.bodyUnder watch setting))⟩
  | _ => none

def partsUnder (watch : Watch) (setting : Setting) : List (Link Parser) → List (Link Part)
  | [] => []
  | .build function :: links => .build function :: partsUnder watch setting links
  | .item fold parser :: links =>
    .item fold ⟨watch parser (.settled (parser.bodyUnder watch setting)), parser.traits,
      parser.backsOffUnder watch setting⟩ :: partsUnder watch setting links

def actsUnder (watch : Watch) (setting : Setting) : List Parser → List Action
  | [] => []
  | parser :: parsers =>
    watch parser (.settled (parser.bodyUnder watch setting)) :: actsUnder watch setting parsers

end

def actUnder (watch : Watch) (setting : Setting) (parser : Parser) : Action :=
  watch parser (.settled (parser.bodyUnder watch setting))

def partUnder (watch : Watch) (setting : Setting) (parser : Parser) : Part :=
  ⟨parser.actUnder watch setting, parser.traits, parser.backsOffUnder watch setting⟩

theorem actsUnder_eq_map (watch : Watch) (setting : Setting) (parsers : List Parser) :
    actsUnder watch setting parsers = parsers.map (actUnder watch setting) := by
  induction parsers with
  | nil => rfl
  | cons parser parsers ih => rw [actsUnder, ih]; rfl

theorem partsUnder_eq_map (watch : Watch) (setting : Setting) (links : List (Link Parser)) :
    partsUnder watch setting links = links.map (Link.map (partUnder watch setting)) := by
  induction links with
  | nil => rfl
  | cons link links ih => cases link <;> rw [partsUnder, ih] <;> rfl

end Parser

namespace Grammar

def forwardUnder (g : Grammar) (watch : Watch) (patience : Nat) : Nat → Nat → String → Action
  | 0, slot, name => g.forward patience 0 slot name
  | depth + 1, slot, name => fun s =>
    match g.lookup slot with
    | none => Run.raise (.undefined name)
    | some parser => parser.actUnder watch ⟨g.forwardUnder watch patience depth, patience⟩ s

def settingUnder (g : Grammar) (watch : Watch) (granted : Granted) : Setting :=
  ⟨g.forwardUnder watch granted.patience granted.depth, granted.patience⟩

end Grammar

end Catena
