import Catena.Proofs.Parts
import Catena.Proofs.Bond.Chain
import Catena.Proofs.Move
import Catena.Proofs.Tracking.Action

/-!
# Parsers track themselves

Under a stable family of relations between windows, every parser made without moves of the state
takes alike states to alike ends: `Grammar.act_tracks`. By induction on the parts of the parser,
inside an induction on how deep definitions are entered.
-/

namespace Catena

variable {ι : Type} {W : ι → Window → Window → Prop}

/-- What a family of relations asks of all that a parser is made of. -/
def Parser.Trackable (W : ι → Window → Window → Prop) (parser : Parser) : Prop :=
  parser.isStep = false ∧ (parser.isForce = true → Window.Detachable W)

def Setting.Tracks (W : ι → Window → Window → Prop) (g : Grammar) (setting : Setting) : Prop :=
  ∀ slot name, g.Throughout (Parser.Trackable W) (.forward slot name) →
    Action.Tracks W (setting.forward slot name) (setting.forward slot name)

namespace Parser

variable {setting : Setting} {parser : Parser}

/-- What an elementary parser does depends on no setting. -/
theorem elementary_tracks (stable : Window.Stable W) (elementary : parser.isElementary = true)
    (setting setting' : Setting) :
    Action.Tracks W (parser.body setting) (parser.body setting') := by
  cases parser with
  | literal text caseSensitive => exact .literal stable text caseSensitive
  | outcome ok => exact .outcome stable ok
  | check test => exact .check stable test
  | build function => exact .build stable function
  | singleItem test => exact .singleItem stable test
  | itemRun test keepTerminator stopsWhenTrue =>
    exact .itemRun stable test keepTerminator stopsWhenTrue
  | everything => exact .everything stable
  | endOfInput => exact .endOfInput stable
  | _ => cases elementary

/-- A lookahead does what its parser does, so that one tracks itself if the other does. -/
theorem part_tracks (h : Action.Tracks W (parser.act setting) (parser.act setting)) :
    Part.Keeps (Window.bond W) (parser.part setting) (parser.part setting) where
  act := h
  traits := rfl
  lookahead := by
    unfold part
    cases parser with
    | lookahead mode parser =>
      rw [lookahead_act] at h
      exact .some ⟨rfl, h, fun _ => .defect nofun⟩
    | _ => exact .none
  inspects _ i s t before _ := h i s t before

theorem act_tracks (stable : Window.Stable W) {g : Grammar} (forwards : setting.Tracks W g)
    (h : g.Throughout (Trackable W) parser) :
    Action.Tracks W (parser.act setting) (parser.act setting) := by
  have lawful := Window.bond_lawful stable
  induction parser using inner_induction with
  | step parser below =>
    have ih := fun part member => below part member (h.part member)
    have elementary : parser.isElementary = true →
        Action.Yields (Window.bond W) (parser.body setting) (parser.body setting) :=
      fun elementary => lawful.passed (elementary_tracks stable elementary setting setting)
    show Action.Keeps (Window.bond W) (.settled (parser.body setting))
      (.settled (parser.body setting))
    apply Bond.Lawful.settled
    cases parser with
    | base => exact fun _ _ _ _ => .raise (.defect (by decide))
    | literal | outcome | check | build | singleItem | itemRun | everything | endOfInput =>
      exact elementary rfl
    | step function => exact absurd h.here.1 (by simp [isStep])
    | throws kind msg trigger => exact lawful.passed (Action.Tracks.throws stable kind msg trigger)
    | forward slot name => exact lawful.passed (forwards slot name h)
    | many least most parser => exact lawful.many _ least most (ih parser (.head _))
    | repeated test stopsWhenTrue parser =>
      exact lawful.repeated _ test stopsWhenTrue (ih parser (.head _))
    | absorb merge initial parser => exact lawful.absorb merge initial (ih parser (.head _))
    | morph transform parser =>
      exact lawful.morph (fun _ _ _ _ _ _ => trivial) (ih parser (.head _))
    | force parser =>
      refine lawful.force (fun _ _ _ after => ?_) (.defect (by decide)) (ih parser (.head _))
      exact after.detach (h.here.2 rfl)
    | noConsume parser => exact lawful.noConsume (ih parser (.head _))
    | noBuild parser => exact lawful.noBuild (ih parser (.head _))
    | oblivious parser | lookahead mode parser => exact lawful.passed (ih parser (.head _))
    | catches kinds main handler =>
      have inner := ih main (.head _)
      cases handler with
      | none => exact lawful.catches kinds _ _ inner lawful.failing
      | some handler =>
        exact lawful.catches kinds _ _ inner (lawful.passed (ih handler (.tail _ (.head _))))
    | chain links =>
      intro i s t before
      unfold body
      rw [parts_eq_map]
      exact Chain.act_keeps lawful (Link.map_keeps fun part member => part_tracks (ih part member))
        before
    | alternative first rest =>
      refine lawful.firstOf (ih first (.head _)) ?_
      rw [acts_eq_map, List.forall₂_map_left_iff, List.forall₂_map_right_iff, List.forall₂_same]
      exact fun part member => ih part (.tail _ member)

end Parser

namespace Grammar

variable {g : Grammar}

theorem forward_tracks (stable : Window.Stable W) (patience depth : Nat) :
    Setting.Tracks W g ⟨g.forward patience depth, patience⟩ := by
  -- Induction on how deep placeholders are still followed: a definition runs one level less deep.
  induction depth with
  | zero =>
    intro slot name h i s t before
    dsimp only
    unfold forward
    cases g.lookup slot with
    | none => exact .raise (.undefined name)
    | some parser => exact .exhausted
  | succ depth ih =>
    intro slot name h i s t before
    dsimp only
    unfold forward
    cases found : g.lookup slot with
    | none => exact .raise (.undefined name)
    | some parser =>
      exact Parser.act_tracks stable ih (h.definition found) i s t before

theorem act_tracks (stable : Window.Stable W) {parser : Parser}
    (h : g.Throughout (Parser.Trackable W) parser) (granted : Granted) :
    Action.Tracks W (parser.act (g.setting granted)) (parser.act (g.setting granted)) :=
  Parser.act_tracks stable (forward_tracks stable _ _) h

end Grammar

end Catena
