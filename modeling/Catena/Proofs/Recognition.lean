import Mathlib
import Catena.Proofs.Parts
import Catena.Proofs.Recognition.Chain

/-!
# Recognition

Parsers put together from literals, single items, the ends of the input, chains that append,
alternatives, repetitions, parsers that give back what they consumed, and placeholders are parsing
expressions: `Grammar.act_returns_iff_derives`. A run of one, with so many definitions to be entered
one inside the other, ends as the evaluation of the expression does where rules may be entered as
deep, at the same number of items. What chains carry along besides never leaves its kind, so that it
stops no run.
-/

namespace Catena

namespace Parser

/-- What makes a parser a parsing expression if its parts and definitions are such. -/
def IsPeg (g : Grammar) : Parser → Prop
  | literal text caseSensitive => caseSensitive = true ∧ text.length?.isSome = true
  | singleItem test => ∀ v, ∃ answer, test.apply v = .ok answer
  | outcome _ | everything | endOfInput | noConsume _ | alternative _ _ => True
  | many least most _ => least = 0 ∧ most = 1 ∨ (least = 0 ∨ least = 1) ∧ most < 0
  | chain links => ∀ link ∈ links, ∃ parser, link = .item .append parser
  | forward slot _ => (g.lookup slot).isSome = true
  | _ => False

mutual

/-- The parsing expression that a parser is, if it is one. -/
def peg : Parser → Peg
  | literal text _ => .literal text
  | outcome ok => if ok then .empty else .fail
  | singleItem test => .item test.accepts
  | everything => .everything
  | endOfInput => .ending
  | many least most parser =>
    if most < 0 then if least = 0 then .star parser.peg else .plus parser.peg
    else .option parser.peg
  | noConsume parser => .ahead parser.peg
  | chain links => .seqs (linkPegs links)
  | alternative first rest => .choices first.peg (pegs rest)
  | forward slot _ => .rule slot
  | _ => .fail

def linkPegs : List (Link Parser) → List Peg
  | [] => []
  | .item _ parser :: links => parser.peg :: linkPegs links
  | .build _ :: links => linkPegs links

def pegs : List Parser → List Peg
  | [] => []
  | parser :: parsers => parser.peg :: pegs parsers

end

variable {g : Grammar} {kind : Kind} {setting : Setting} {parser : Parser}
  {call : Nat → Buffer → Option (Option Nat)}

theorem pegs_eq_map (parsers : List Parser) : pegs parsers = parsers.map peg := by
  induction parsers with
  | nil => rfl
  | cons parser parsers ih => rw [pegs, ih, List.map_cons]

theorem link_recognizes (h : parser.IsPeg g)
    (act : (parser.act setting).Recognizes kind (parser.peg.eval call)) :
    Link.Recognizes kind call (.item .append (parser.part setting)) parser.peg := by
  refine .item act ?_ ?_ ?_ <;> cases parser <;> first | rfl | exact h.elim

theorem links_recognize {links : List (Link Parser)}
    (appends : ∀ link ∈ links, ∃ parser, link = .item .append parser)
    (parts : ∀ part ∈ (chain links).inner, part.IsPeg g ∧
      (part.act setting).Recognizes kind (part.peg.eval call)) :
    List.Forall₂ (Link.Recognizes kind call) (Parser.parts setting links) (linkPegs links) := by
  induction links with
  | nil => exact .nil
  | cons link links ih =>
    obtain ⟨parser, rfl⟩ := appends link (.head _)
    obtain ⟨isPeg, act⟩ := parts parser (.head _)
    refine .cons (link_recognizes isPeg act) (ih ?_ ?_)
    · exact fun link member => appends link (.tail _ member)
    · exact fun part member => parts part (.tail _ member)

def Calls (kind : Kind) (g : Grammar) (forward : Nat → String → Action)
    (call : Nat → Buffer → Option (Option Nat)) : Prop :=
  ∀ slot name, g.Throughout (IsPeg g) (.forward slot name) →
    (forward slot name).Recognizes kind (call slot)

theorem act_recognizes {forward : Nat → String → Action} (patience : Nat)
    (calls : Calls kind g forward call)
    (bounded : ∀ (e : Peg) w n, e.eval call w = some (some n) → n ≤ w.length)
    (h : g.Throughout (IsPeg g) parser) :
    (parser.act ⟨forward, patience⟩).Recognizes kind (parser.peg.eval call) := by
  induction parser using inner_induction with
  | step parser ih =>
    have inner := fun part member => ih part member (h.part member)
    have here := h.here
    refine Action.Recognizes.settled ?_
    cases parser with
    | literal text caseSensitive =>
      obtain ⟨rfl, sized⟩ := here
      obtain ⟨n, length⟩ := Option.isSome_iff_exists.mp sized
      exact Action.literal_recognizes length
    | outcome ok => exact Action.outcome_recognizes ok
    | singleItem test => exact Action.singleItem_recognizes here
    | everything => exact Action.everything_recognizes
    | endOfInput => exact Action.endOfInput_recognizes
    | many least most part =>
      have body := inner part (.head _)
      rcases here with ⟨rfl, rfl⟩ | ⟨rfl | rfl, unbounded⟩
      · exact Action.option_recognizes body patience
      · simp only [peg, if_pos unbounded, if_true]
        exact Action.star_recognizes body (bounded _) patience unbounded
      · simp only [peg, if_pos unbounded, Int.one_ne_zero, if_false]
        exact Action.plus_recognizes body (bounded _) patience unbounded
    | noConsume part => exact Action.noConsume_recognizes (inner part (.head _))
    | chain links =>
      refine Chain.act_recognizes (links_recognize (g := g) here fun part member => ?_)
      exact ⟨(h.part member).here, inner part member⟩
    | alternative first rest =>
      refine Action.firstOf_recognizes (inner first (.head _)) ?_
      rw [acts_eq_map, pegs_eq_map, List.forall₂_map_left_iff, List.forall₂_map_right_iff,
        List.forall₂_same]
      exact fun part member => inner part (.tail _ member)
    | forward slot name => exact calls slot name h
    | _ => exact here.elim

end Parser

namespace Grammar

variable {g : Grammar} {parser : Parser} {s : State}

def rules (g : Grammar) (slot : Nat) : Option Peg :=
  (g.lookup slot).map Parser.peg

theorem forward_recognizes (kind : Kind) (patience depth : Nat) :
    Parser.Calls kind g (g.forward patience depth) (Peg.callIn g.rules depth) := by
  -- Induction on how deep placeholders are still followed: a definition runs one level less deep.
  induction depth with
  | zero =>
    intro slot name h s poised
    obtain ⟨parser, found⟩ := Option.isSome_iff_exists.mp h.here
    simp only [forward, found, Peg.callIn]
    rfl
  | succ depth ih =>
    intro slot name h s poised
    obtain ⟨parser, found⟩ := Option.isSome_iff_exists.mp h.here
    simp only [forward, found, Peg.callIn, rules, Option.map_some, Option.bind_some]
    exact Parser.act_recognizes patience ih (fun _ => Peg.eval_bounded) (h.definition found) s
      poised

theorem act_evaluates (h : g.Throughout (Parser.IsPeg g) parser) (granted : Granted)
    (wellFormed : s.WellFormed) (live : s.ok = true) :
    (parser.act (g.setting granted) s).outcome.Gives (s.Answers s.source.kind)
      (parser.peg.eval (Peg.callIn g.rules granted.depth) s.unconsumed) := by
  obtain ⟨first, order, last, text, -⟩ := wellFormed
  exact Parser.act_recognizes granted.patience (forward_recognizes _ _ _)
    (fun _ => Peg.eval_bounded) h s ⟨live, ⟨first, order, last⟩, rfl, text⟩

theorem act_sound (h : g.Throughout (Parser.IsPeg g) parser) (granted : Granted)
    (wellFormed : s.WellFormed) (live : s.ok = true) :
    (parser.act (g.setting granted) s).outcome = .exhausted ∨
      ∃ r a, (parser.act (g.setting granted) s).outcome = .returned r ∧
        s.Answers s.source.kind r a ∧ Peg.Derives g.rules parser.peg s.unconsumed a := by
  have run := act_evaluates h granted wellFormed live
  cases evaluated : parser.peg.eval (Peg.callIn g.rules granted.depth) s.unconsumed with
  | none =>
    rw [evaluated] at run
    exact .inl run
  | some a =>
    rw [evaluated] at run
    obtain ⟨r, returned, answers⟩ := run
    exact .inr ⟨r, a, returned, answers, Peg.derives_iff.mpr ⟨_, evaluated⟩⟩

/-- A parser that is a parsing expression recognizes what the expression derives: a success behind
so many items or a failure is derived just if all runs that are granted enough depth return it. No
run returns anything else or raises a fault. -/
theorem act_returns_iff_derives (h : g.Throughout (Parser.IsPeg g) parser)
    (wellFormed : s.WellFormed) (live : s.ok = true) :
    (∀ a, Peg.Derives g.rules parser.peg s.unconsumed a ↔
      ∃ depth, ∀ granted : Granted, depth ≤ granted.depth →
        ∃ r, (parser.act (g.setting granted) s).outcome = .returned r ∧
          s.Answers s.source.kind r a) ∧
    ∀ granted, (parser.act (g.setting granted) s).outcome = .exhausted ∨
      ∃ r a, (parser.act (g.setting granted) s).outcome = .returned r ∧
        s.Answers s.source.kind r a ∧ Peg.Derives g.rules parser.peg s.unconsumed a := by
  have sound := fun granted => act_sound h granted wellFormed live
  refine ⟨fun a => ⟨fun derived => ?_, ?_⟩, sound⟩
  · obtain ⟨depth, evaluated⟩ := Peg.derives_iff.mp derived
    refine ⟨depth, fun granted deep => ?_⟩
    have run := act_evaluates h granted wellFormed live
    rwa [Peg.eval_deeper deep evaluated] at run
  · rintro ⟨depth, returns⟩
    obtain ⟨r, returned, answers⟩ := returns ⟨depth, 0⟩ (Nat.le_refl depth)
    rcases sound ⟨depth, 0⟩ with cut | ⟨r', b, returned', answers', derived⟩
    · cases returned.symm.trans cut
    · obtain rfl := Outcome.returned.inj (returned.symm.trans returned')
      obtain rfl := answers.unique answers'
      exact derived

def nested : Parser :=
  .chain [.item .append (.literal (.value (.ofString "[")) true),
    .item .append (.many 0 (-1) (.forward 0 "nested")),
    .item .append (.literal (.value (.ofString "]")) true)]

def nesting : Grammar :=
  ⟨[some nested]⟩

theorem nesting_isPeg : nesting.Throughout (Parser.IsPeg nesting) nested := by
  refine .of_closed [nested, .literal (.value (.ofString "[")) true,
    .many 0 (-1) (.forward 0 "nested"), .literal (.value (.ofString "]")) true,
    .forward 0 "nested"] ?_ ?_ ?_ (.head _)
  · intro member there
    simp only [List.mem_cons, List.not_mem_nil, or_false] at there
    rcases there with rfl | rfl | rfl | rfl | rfl
    · simp [nested, Parser.IsPeg]
    · exact ⟨rfl, rfl⟩
    · exact .inr ⟨.inl rfl, by decide⟩
    · exact ⟨rfl, rfl⟩
    · exact rfl
  · simp [Parser.inner, nested, Link.item?]
  · intro slot name parser member found
    simp [nested] at member
    obtain ⟨rfl, -⟩ := member
    obtain rfl := Option.some.inj found
    exact .head _

/-- The last of the brackets is left, since it closes none. -/
theorem nesting_derives :
    nesting.Throughout (Parser.IsPeg nesting) nested ∧
      (State.start (.text "[[][]]]".toList.toArray) .null).WellFormed ∧
      Peg.Derives nesting.rules nested.peg (.text "[[][]]]".toList.toArray) (some 6) := by
  have run : (nested.act (nesting.setting ⟨3, 0⟩)
        (.start (.text "[[][]]]".toList.toArray) .null)).outcome =
      .returned ⟨.text "[[][]]]".toList.toArray, 6, 7, .ofString "[[][]]", .null, true, none⟩ := by
    cbv
  have wellFormed := State.start_wellFormed (.text "[[][]]]".toList.toArray) .null
  refine ⟨nesting_isPeg, wellFormed, ?_⟩
  rcases (act_returns_iff_derives nesting_isPeg wellFormed rfl).2 ⟨3, 0⟩ with
    cut | ⟨r, a, returned, answers, derived⟩
  · cases run.symm.trans cut
  · obtain rfl := Outcome.returned.inj (run.symm.trans returned)
    have whole : (State.start (.text "[[][]]]".toList.toArray) .null).unconsumed =
        .text "[[][]]]".toList.toArray :=
      Sequence.slice_zero_length _
    rw [whole] at derived
    cases a with
    | none => cases answers
    | some n =>
      have pos : (6 : Int) = 0 + n := congrArg Window.pos answers.2.1
      obtain rfl : 6 = n := by omega
      exact derived

end Grammar

end Catena
