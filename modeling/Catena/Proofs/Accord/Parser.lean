import Catena.Proofs.Accord.Chain
import Catena.Proofs.Parts
import Catena.Proofs.Watched

/-!
# Parsers in accord

A parser keeps a lawful accord with itself, also where its parts are watched, if each of the parsers
it is made of is admitted: this is `Grammar.act_accords`, by induction on the parts of the parser
inside an induction on how deep definitions are entered. What has to be shown of an accord are its
laws and the parsers that it admits.
-/

namespace Catena

variable {ι : Type} {A : Accord ι} {g : Grammar} {parser : Parser} {watch : Watch}

/-- What an accord asks of one parser, whatever its parts do: of elementary parsers and moves that
they keep it, and of the others that their functions do. -/
def Accord.Admits (A : Accord ι) (g : Grammar) : Parser → Prop
  | .forward slot name => g.lookup slot = none → A.Allows (.undefined name)
  | .repeated test _ _ => A.Tests test
  | .absorb merge _ _ => A.Merges merge
  | .morph transform _ => A.Transforms transform
  | .force _ => A.Detaches
  | .lookahead mode _ =>
    (mode = .unordered → A.Allows (.defect .unimplemented)) ∧ A.Interrupts
  | .chain links => ∀ function, .build function ∈ links → A.Builds function
  | .many _ _ _ | .noConsume _ | .noBuild _ | .oblivious _ | .catches _ _ _ | .alternative _ _ =>
    True
  | parser => ∀ setting setting', A.Keeps (parser.body setting) (parser.body setting')

def Accord.Passes (A : Accord ι) (watch : Watch) : Prop :=
  ∀ parser act act', A.Keeps act act' → A.Keeps act (watch parser act')

namespace Parser

/-- What placeholders stand for keeps an accord with what they stand for under a watch. -/
def Forwards (A : Accord ι) (g : Grammar) (forward forward' : Nat → String → Action) : Prop :=
  ∀ slot name, g.Throughout (A.Admits g) (.forward slot name) →
    A.Keeps (forward slot name) (forward' slot name)

theorem part_accords {setting setting' : Setting}
    (h : A.Keeps (parser.act setting) (parser.actUnder watch setting'))
    (inner : ∀ part ∈ parser.inner, A.Keeps (part.act setting) (part.actUnder watch setting'))
    (admits : A.Admits g parser) :
    Part.Accords A (parser.part setting) (parser.partUnder watch setting') where
  act := h
  traits := rfl
  lookahead := by
    unfold part partUnder
    cases parser with
    | lookahead mode parser => exact .some ⟨rfl, inner parser (.head _), admits.1, admits.2⟩
    | _ => exact .none

theorem links_accord {setting setting' : Setting} {links : List (Link Parser)}
    (parts : ∀ part ∈ (chain links).inner,
      Part.Accords A (part.part setting) (part.partUnder watch setting'))
    (builds : ∀ function, .build function ∈ links → A.Builds function) :
    List.Forall₂ (Link.Accords A) (links.map (Link.map (part setting)))
      (links.map (Link.map (partUnder watch setting'))) :=
  Link.forall₂_map (fun fold parser member => .item fold (parts parser member))
    fun function member => .build (builds function member)

/-- The parts are in the statement since a lookahead runs its own part in the search of a chain. -/
theorem act_accords (lawful : A.Lawful) (passes : A.Passes watch)
    {forward forward' : Nat → String → Action} (patience : Nat)
    (forwards : Forwards A g forward forward') (h : g.Throughout (A.Admits g) parser) :
    A.Keeps (parser.act ⟨forward, patience⟩) (parser.actUnder watch ⟨forward', patience⟩) ∧
      ∀ part ∈ parser.inner, A.Keeps (part.act ⟨forward, patience⟩)
        (part.actUnder watch ⟨forward', patience⟩) := by
  induction parser using inner_induction with
  | step parser below =>
    have ih := fun part member => below part member (h.part member)
    have inner := fun part member => (ih part member).1
    have here := h.here
    refine ⟨passes parser _ _ ?_, inner⟩
    cases parser with
    | base | literal | outcome | check | build | singleItem | itemRun | everything | endOfInput
    | step | throws => exact lawful.settled (here _ _)
    | forward slot name => exact lawful.settled (forwards slot name h)
    | many least most parser => exact lawful.settled (lawful.many _ least most (inner _ (.head _)))
    | repeated test stopsWhenTrue parser =>
      exact lawful.settled (lawful.repeated _ stopsWhenTrue here (inner _ (.head _)))
    | absorb merge initial parser => exact lawful.absorb initial here (inner _ (.head _))
    | morph transform parser => exact lawful.settled (lawful.morph here (inner _ (.head _)))
    | force parser => exact lawful.settled (Accord.Lawful.force here (inner _ (.head _)))
    | noConsume parser => exact lawful.settled (lawful.noConsume (inner _ (.head _)))
    | noBuild parser => exact lawful.settled (lawful.noBuild (inner _ (.head _)))
    | oblivious parser | lookahead mode parser => exact lawful.settled (inner _ (.head _))
    | catches kinds main handler =>
      have first := inner main (.head _)
      cases handler with
      | none => exact lawful.settled (lawful.catches kinds _ _ first lawful.failing)
      | some handler =>
        have second := inner handler (.tail _ (.head _))
        exact lawful.settled (lawful.catches kinds _ _ first second)
    | chain links =>
      apply lawful.settled
      unfold body bodyUnder
      rw [parts_eq_map, partsUnder_eq_map]
      have parts : ∀ part ∈ (Parser.chain links).inner, Part.Accords A
          (part.part ⟨forward, patience⟩) (part.partUnder watch ⟨forward', patience⟩) :=
        fun part member =>
          part_accords (ih part member).1 (ih part member).2 (h.part member).here
      exact Chain.act_accords lawful (links_accord parts here)
    | alternative first rest =>
      have others : List.Forall₂ A.Keeps (acts ⟨forward, patience⟩ rest)
          (actsUnder watch ⟨forward', patience⟩ rest) := by
        rw [acts_eq_map, actsUnder_eq_map, List.forall₂_map_left_iff, List.forall₂_map_right_iff,
          List.forall₂_same]
        exact fun part member => inner part (.tail _ member)
      exact lawful.settled (Accord.Lawful.firstOf lawful.ok (inner first (.head _)) others)

end Parser

namespace Grammar

theorem forward_accords (lawful : A.Lawful) (passes : A.Passes watch) (patience depth : Nat) :
    Parser.Forwards A g (g.forward patience depth) (g.forwardUnder watch patience depth) := by
  -- Induction on how deep placeholders are still followed: a definition runs one level less deep.
  induction depth with
  | zero =>
    intro slot name h i s t before
    unfold forwardUnder forward
    cases found : g.lookup slot with
    | none => exact .raise (h.here found)
    | some parser => exact .exhausted
  | succ depth ih =>
    intro slot name h i s t before
    unfold forwardUnder forward
    cases found : g.lookup slot with
    | none => exact .raise (h.here found)
    | some parser =>
      have body := (Parser.act_accords lawful passes patience ih (h.definition found)).1
      exact body i s t before

theorem act_accords (lawful : A.Lawful) (passes : A.Passes watch)
    (h : g.Throughout (A.Admits g) parser) (granted : Granted) :
    A.Keeps (parser.act (g.setting granted))
      (parser.actUnder watch (g.settingUnder watch granted)) :=
  (Parser.act_accords lawful passes granted.patience (forward_accords lawful passes _ _) h).1

end Grammar

/-! ### Nothing between -/

def Watch.idle : Watch := fun _ act => act

theorem Accord.passes_idle : A.Passes Watch.idle :=
  fun _ _ _ => id

namespace Parser

theorem partUnder_idle {setting : Setting}
    (h : parser.actUnder Watch.idle setting = parser.act setting)
    (inner : ∀ part ∈ parser.inner, part.actUnder Watch.idle setting = part.act setting) :
    parser.partUnder Watch.idle setting = parser.part setting := by
  have backsOff : parser.backsOffUnder Watch.idle setting = parser.backsOff setting := by
    cases parser with
    | lookahead mode parser =>
      have same := inner parser (.head _)
      unfold backsOffUnder backsOff
      exact congrArg (fun act => some (⟨mode, parser.shown, act⟩ : Lookahead)) same
    | _ => rfl
  unfold partUnder part
  rw [h, backsOff]

theorem actUnder_idle (setting : Setting) (parser : Parser) :
    parser.actUnder Watch.idle setting = parser.act setting := by
  suffices both : parser.actUnder Watch.idle setting = parser.act setting ∧
      ∀ part ∈ parser.inner, part.actUnder Watch.idle setting = part.act setting from both.1
  induction parser using inner_induction with
  | step parser below =>
    have inner := fun part member => (below part member).1
    refine ⟨congrArg Action.settled ?_, inner⟩
    have same : ∀ part ∈ parser.inner,
        Watch.idle part (.settled (part.bodyUnder Watch.idle setting)) =
          .settled (part.body setting) := inner
    cases parser with
    | base | literal | outcome | check | build | singleItem | itemRun | everything | endOfInput
    | step | throws | forward => rfl
    | many | repeated | absorb | morph | force | noConsume | noBuild | oblivious | lookahead =>
      unfold bodyUnder body
      rw [same _ (.head _)]
    | catches kinds main handler =>
      cases handler with
      | none =>
        unfold bodyUnder body
        rw [same main (.head _)]
      | some handler =>
        unfold bodyUnder body
        rw [same main (.head _), same handler (.tail _ (.head _))]
    | chain links =>
      unfold bodyUnder body
      rw [partsUnder_eq_map, parts_eq_map]
      refine congrArg Chain.act (List.map_congr_left fun link member => ?_)
      cases link with
      | build function => rfl
      | item fold parser =>
        have inside : parser ∈ (Parser.chain links).inner := List.mem_filterMap.mpr ⟨_, member, rfl⟩
        have part := partUnder_idle (inner parser inside) (below parser inside).2
        exact congrArg (Link.item fold) part
    | alternative first rest =>
      unfold bodyUnder body
      rw [same first (.head _), actsUnder_eq_map, acts_eq_map]
      refine congrArg (Action.firstOf _) (List.map_congr_left fun part member => ?_)
      exact inner part (.tail _ member)

end Parser

namespace Grammar

theorem forwardUnder_idle (g : Grammar) (patience depth : Nat) :
    g.forwardUnder Watch.idle patience depth = g.forward patience depth := by
  induction depth with
  | zero => rfl
  | succ depth ih =>
    funext slot name s
    unfold forwardUnder forward
    rw [ih]
    cases g.lookup slot with
    | none => rfl
    | some parser => simp only [Parser.actUnder_idle]

theorem act_accords_self (lawful : A.Lawful) (h : g.Throughout (A.Admits g) parser)
    (granted : Granted) :
    A.Keeps (parser.act (g.setting granted)) (parser.act (g.setting granted)) := by
  have watched := act_accords lawful A.passes_idle h granted
  have same : g.settingUnder Watch.idle granted = g.setting granted := by
    unfold settingUnder setting
    rw [forwardUnder_idle]
  rwa [Parser.actUnder_idle, same] at watched

end Grammar

end Catena
