import Mathlib
import Catena.Proofs.Course
import Catena.Proofs.Granting

/-!
# Placeholders in chains

A placeholder does in a chain what its definition would do in its place, if that is an ordinary
parser: `Grammar.placeholder_stands`. A chain goes by the traits of the placeholder itself, so that
it neither resumes nor inspects failures for it, lets its text join the others, and does not search
it: `Grammar.placeholder_hides_traits`.
-/

namespace Catena

namespace Grammar

/-- A run of a parser that has ended, however much it had to be granted for that. -/
def Ends (g : Grammar) (parser : Parser) (s : State) (run : Run State) : Prop :=
  run.outcome ≠ .exhausted ∧ ∃ granted, parser.act (g.setting granted) s = run

theorem ends_of_returned {g : Grammar} {parser : Parser} {granted : Granted} {s r : State}
    (returned : (parser.act (g.setting granted) s).outcome = .returned r) :
    g.Ends parser s (parser.act (g.setting granted) s) := by
  refine ⟨fun cut => ?_, granted, rfl⟩
  cases returned.symm.trans cut

/-- Two parsers have the same runs if each refines the other where that is granted enough. -/
theorem ends_congr {g : Grammar} {parser parser' : Parser}
    (there : ∀ granted, ∃ granted', (parser.act (g.setting granted)).Refines
      (parser'.act (g.setting granted')))
    (back : ∀ granted, ∃ granted', (parser'.act (g.setting granted)).Refines
      (parser.act (g.setting granted'))) (s : State) (run : Run State) :
    g.Ends parser s run ↔ g.Ends parser' s run := by
  constructor
  · rintro ⟨ends, granted, rfl⟩
    obtain ⟨granted', refines⟩ := there granted
    exact ⟨ends, granted', ((refines s).eq ends).symm⟩
  · rintro ⟨ends, granted, rfl⟩
    obtain ⟨granted', refines⟩ := back granted
    exact ⟨ends, granted', ((refines s).eq ends).symm⟩

end Grammar

namespace Chain

variable {links tail tail' : List (Link Part)} {s : State} {text : Value}

/-- A chain refines another one if the ends of both do, with parsers in both or in neither. -/
theorem follow_append_refines (kinds : tail.any Link.isItem = tail'.any Link.isItem)
    (ends : ∀ s text, (follow tail s text).Refines (follow tail' s text)) :
    (follow (links ++ tail) s text).Refines (follow (links ++ tail') s text) := by
  induction links generalizing s text with
  | nil => exact ends s text
  | cons link rest ih =>
    have followed : followed (rest ++ tail) link = followed (rest ++ tail') link := by
      cases link <;> simp only [Chain.followed, List.any_append, kinds]
    rw [List.cons_append, List.cons_append]
    by_cases ordinary : s.ok = true → Chain.followed (rest ++ tail) link = none
    · rw [follow_cons ordinary, follow_cons (followed ▸ ordinary)]
      exact (Run.Refines.refl _).bind fun _ => ih
    · obtain ⟨live, searched⟩ := Classical.not_imp.mp ordinary
      obtain ⟨⟨fold, look⟩, back⟩ := Option.ne_none_iff_exists'.mp searched
      rw [follow_searched live back, follow_searched live (followed ▸ back)]
      have same : look.Refines look := .of_act look.mode look.shown (.refl look.act)
      have resumed : (resume (rest ++ tail) fold text).Refines (resume (rest ++ tail') fold text) :=
        fun t => (Run.Refines.refl _).bind fun _ => ih
      refine (same.search resumed s).bind fun found => ?_
      cases found with
      | some result => exact .refl _
      | none => exact (Run.Refines.refl _).bind fun _ => ih

/-- Of two parsers with the same traits that are not searched, one refines the other in a chain if
it does by itself. -/
theorem follow_placed {fold : Fold} {part part' : Part} {rest : List (Link Part)}
    (act : part.act.Refines part'.act) (traits : part.traits = part'.traits)
    (single : followed rest (.item fold part) = none)
    (single' : followed rest (.item fold part') = none) :
    (follow (links ++ .item fold part :: rest) s text).Refines
      (follow (links ++ .item fold part' :: rest) s text) := by
  refine follow_append_refines rfl fun s text => ?_
  rw [follow_cons fun _ => single, follow_cons fun _ => single']
  exact (step_item_refines act traits).bind fun _ => .refl _

end Chain

/-! ### Placeholders for ordinary parsers -/

def Granted.deeper (granted : Granted) : Granted :=
  ⟨granted.depth + 1, granted.patience⟩

namespace Grammar

variable {g : Grammar} {slot : Nat} {name : String} {parser : Parser} {granted : Granted}
  {before after : List (Link Parser)} {fold : Fold} {s : State} {run : Run State}

theorem act_refines_deeper (g : Grammar) (granted : Granted) (parser : Parser) :
    (parser.act (g.setting granted)).Refines (parser.act (g.setting granted.deeper)) := by
  have more : granted.depth ≤ granted.deeper.depth := Nat.le_succ granted.depth
  exact g.act_refines more (Nat.le_refl granted.patience) parser

theorem forward_act (found : g.lookup slot = some parser) (granted : Granted) :
    (Parser.forward slot name).act (g.setting granted.deeper) = parser.act (g.setting granted) := by
  have definition : (Parser.forward slot name).body (g.setting granted.deeper) =
      parser.act (g.setting granted) := by
    funext s
    simp only [Parser.body, Granted.deeper, setting, forward, found]
  rw [Parser.act, definition]
  exact Parser.settled_act _ parser

/-- A placeholder does what its definition does, with one definition entered more. -/
theorem forward_act_refines (found : g.lookup slot = some parser) (granted : Granted) :
    ((Parser.forward slot name).act (g.setting granted)).Refines
      (parser.act (g.setting granted)) := by
  obtain ⟨depth, patience⟩ := granted
  cases depth with
  | zero =>
    refine fun s => .inl (Run.bind_outcome_exhausted ?_ _)
    simp only [Parser.body, setting, forward, found]
    rfl
  | succ depth =>
    rw [show (⟨depth + 1, patience⟩ : Granted) = Granted.deeper ⟨depth, patience⟩ from rfl,
      forward_act found]
    exact act_refines_deeper g ⟨depth, patience⟩ parser

/-- In a chain a placeholder may stand for its definition, if that neither resumes nor inspects
failures, adds its text, and is no lookahead with parsers behind it: both have the same runs, with
all that a result has, the same faults and the same events. -/
theorem placeholder_stands (found : g.lookup slot = some parser) (ordinary : parser.traits = {})
    (last : parser.isLookahead = true → after.any Link.isItem = false) (s : State)
    (run : Run State) :
    g.Ends (.chain (before ++ .item fold (.forward slot name) :: after)) s run ↔
      g.Ends (.chain (before ++ .item fold parser :: after)) s run := by
  have links : ∀ granted parser,
      Parser.parts (g.setting granted) (before ++ .item fold parser :: after) =
        Parser.parts (g.setting granted) before ++
          .item fold (parser.part (g.setting granted)) :: Parser.parts (g.setting granted) after :=
    fun _ _ => Parser.parts_append _ _ _
  have single : ∀ granted, Chain.followed (Parser.parts (g.setting granted) after)
      (.item fold (parser.part (g.setting granted))) = none :=
    fun _ => Parser.unfollowed last
  have holds : ∀ granted rest, Chain.followed rest
      (.item fold ((Parser.forward slot name).part (g.setting granted))) = none := by
    intro granted rest
    simp only [Chain.followed, Parser.part, Parser.backsOff, Option.map_none, ite_self]
  refine ends_congr (fun granted => ⟨granted, fun s => ?_⟩)
    (fun granted => ⟨granted.deeper, fun s => ?_⟩) s run
  · rw [Parser.chain_act, Parser.chain_act, links, links]
    refine Run.Refines.bind ?_ fun _ => .refl _
    exact Chain.follow_placed (forward_act_refines found granted) ordinary.symm (holds granted _)
      (single granted)
  · -- The placeholder is granted one definition more, and with that all other links.
    have deeper : ∀ links, List.Forall₂ Link.Refines (Parser.parts (g.setting granted) links)
        (Parser.parts (g.setting granted.deeper) links) :=
      fun _ => Parser.parts_refines fun part _ => g.act_refines_deeper granted part
    have same : (parser.act (g.setting granted)).Refines ((Parser.forward slot name).act
        (g.setting granted.deeper)) := by
      rw [forward_act found]
      exact .refl _
    rw [Parser.chain_act, Parser.chain_act, links, links]
    refine Run.Refines.bind ?_ fun _ => .refl _
    refine (Chain.follow_placed same ordinary (single granted) (holds _ _)).trans ?_
    refine Chain.follow_refines (List.rel_append (deeper before) (.cons ?_ (deeper after)))
    exact .item fold ⟨.refl _, rfl, .none⟩

def toTheEnd (parser : Parser) : Parser :=
  .chain [.item .append parser, .item .append .endOfInput]

theorem brackets_stand :
    ∃ run r, run.outcome = .returned r ∧ r.ok = true ∧ r.matched = .ofString "[[a]]" ∧
      brackets.Ends (toTheEnd (.forward 0 "nested"))
        (.start (.text "[[a]]".toList.toArray) .null) run ∧
      brackets.Ends (toTheEnd bracketed) (.start (.text "[[a]]".toList.toArray) .null) run := by
  have returned : ((toTheEnd (.forward 0 "nested")).act (brackets.setting ⟨3, 0⟩)
        (.start (.text "[[a]]".toList.toArray) .null)).outcome =
      .returned ⟨.text "[[a]]".toList.toArray, 5, 5, .ofString "[[a]]", .null, true, none⟩ := by
    cbv
  have found : brackets.lookup 0 = some bracketed := rfl
  have single : bracketed.isLookahead = false := rfl
  have stands : ∀ run,
      brackets.Ends (.chain ([] ++ .item .append (.forward 0 "nested") ::
        [.item .append .endOfInput])) (.start (.text "[[a]]".toList.toArray) .null) run ↔
      brackets.Ends (.chain ([] ++ .item .append bracketed :: [.item .append .endOfInput]))
        (.start (.text "[[a]]".toList.toArray) .null) run :=
    placeholder_stands found rfl (fun looks => absurd looks (by simp [single])) _
  have ends := ends_of_returned returned
  exact ⟨_, _, returned, rfl, rfl, ends, (stands _).mp ends⟩

/-! ### Placeholders for other parsers -/

def endOf (parser : Parser) (links : List (Link Parser)) (text : String) : Outcome State :=
  ((Parser.chain links).act (setting ⟨[some parser]⟩ ⟨1, 0⟩)
    (.start (.text text.toList.toArray) .null)).outcome

def behindFailure (parser : Parser) : List (Link Parser) :=
  [.item .append (.literal (.value (.ofString "a")) true),
    .item .append (.literal (.value (.ofString "x")) true), .item .append parser]

def replacing (parser : Parser) : List (Link Parser) :=
  [.item .append (.literal (.value (.ofString "a")) true), .item .discard parser]

def beforeSign (parser : Parser) : List (Link Parser) :=
  [.item .append parser, .item .append (.literal (.value (.ofString "b")) true)]

/-- A placeholder neither resumes a failed chain nor raises a signal there; it adds its text where
its definition only inspects; and nothing is tried with it in a search. -/
theorem placeholder_hides_traits :
    (endOf (.oblivious .everything) (behindFailure (.oblivious .everything)) "ab" =
        .returned ⟨.text "ab".toList.toArray, 2, 2, .ofString "b", .null, true, none⟩ ∧
      endOf (.oblivious .everything) (behindFailure (.forward 0 "f")) "ab" =
        .returned ⟨.text "ab".toList.toArray, 1, 2, .ofString "", .null, false,
          some ⟨.text "ab".toList.toArray, 1, 2, .ofString "a", .null, true, none⟩⟩) ∧
    (endOf (.throws (.root "Missing") none .onFailure)
          (behindFailure (.throws (.root "Missing") none .onFailure)) "ab" =
        .raised (.signal ⟨.root "Missing", none,
          some ⟨.text "ab".toList.toArray, 1, 2, .ofString "", .null, false,
            some ⟨.text "ab".toList.toArray, 1, 2, .ofString "a", .null, true, none⟩⟩,
          ["At position 1 (line 1, column 2)\nab\n ^"]⟩) ∧
      endOf (.throws (.root "Missing") none .onFailure) (behindFailure (.forward 0 "f")) "ab" =
        .returned ⟨.text "ab".toList.toArray, 1, 2, .ofString "", .null, false,
          some ⟨.text "ab".toList.toArray, 1, 2, .ofString "a", .null, true, none⟩⟩) ∧
    (endOf (.outcome true) (replacing (.outcome true)) "a" =
        .returned ⟨.text "a".toList.toArray, 1, 1, .ofString "a", .null, true, none⟩ ∧
      endOf (.outcome true) (replacing (.forward 0 "f")) "a" =
        .returned ⟨.text "a".toList.toArray, 1, 1, .ofString "", .null, true, none⟩) ∧
    (endOf (.lookahead .reluctant .everything)
          (beforeSign (.lookahead .reluctant .everything)) "ab" =
        .returned ⟨.text "ab".toList.toArray, 2, 2, .ofString "ab", .null, true, none⟩ ∧
      endOf (.lookahead .reluctant .everything) (beforeSign (.forward 0 "f")) "ab" =
        .returned ⟨.text "ab".toList.toArray, 2, 2, .ofString "", .null, false,
          some ⟨.text "ab".toList.toArray, 2, 2, .ofString "ab", .null, true, none⟩⟩) := by
  refine ⟨⟨?_, ?_⟩, ⟨?_, ?_⟩, ⟨?_, ?_⟩, ?_, ?_⟩
  all_goals cbv

end Grammar

end Catena
