import Mathlib
import Catena.Proofs.Course
import Catena.Proofs.Move
import Catena.Proofs.Passage

/-!
# Modifiers without an occasion

A parser may be made oblivious where its chain has not failed, and a lookahead where no parser
follows it: `Parser.idle_modifiers`. The modifier hides that a parser adds no text, so that the
empty text of such a parser joins the text of the chain, and takes its place after a discarding
link: `Parser.idle_modifier_discards`.
-/

namespace Catena

namespace Chain

variable {s : State} {text : Value}

/-- On a chain that has not failed, a part whose text joins that of the chain may stand for one that
adds no text if what that leaves for its text would be no change. -/
theorem step_adding {fold : Fold} {part part' : Part} (act : part'.act = part.act)
    (adding : part'.traits.inspectsOnly = false) (live : s.ok = true)
    (idle : part.traits.inspectsOnly = true → ∀ r, (part.act s).outcome = .returned r →
      r.ok = true → fold.join text r.matched = pure text) :
    step (.item fold part') s text = step (.item fold part) s text := by
  simp only [step, if_pos live, act, adding, Bool.false_eq_true, if_false]
  refine Run.bind_congr_returned fun r run => ?_
  cases good : r.ok with
  | false => rfl
  | true =>
    simp only [Bool.not_true, Bool.false_eq_true, if_false]
    by_cases only : part.traits.inspectsOnly = true
    · rw [if_pos only, idle only r run good]
    · rw [if_neg only]

end Chain

/-! ### Modifiers -/

namespace Parser

variable {setting : Setting} {parser modified : Parser} {before after : List (Link Parser)}
  {fold : Fold} {s t r : State} {text joined : Value}

/-- A run of a chain comes to a link in a state, with the text of the links before it. -/
def ArrivesAt (setting : Setting) (before : List (Link Parser)) (fold : Fold) (parser : Parser)
    (after : List (Link Parser)) (s t : State) (joined : Value) : Prop :=
  Chain.Arrives (parts setting (.item fold parser :: after)) (parts setting before) s s.noText t
    joined

/-- A modified parser whose text joins that of its chain does what the parser does if its empty text
leaves that of the chain as it is. -/
theorem step_modified (act : modified.act setting = parser.act setting)
    (adding : modified.traits.inspectsOnly = false) (live : t.ok = true)
    (adds : parser.traits.inspectsOnly = true → fold.join joined t.noText = pure joined) :
    Chain.step (.item fold (modified.part setting)) t joined =
      Chain.step (.item fold (parser.part setting)) t joined := by
  refine Chain.step_adding act adding live fun only r run good => ?_
  obtain ⟨u, within, settled⟩ := Run.bind_returned_iff.mp run
  obtain rfl := Run.pure_returned_iff.mp settled
  obtain ⟨snapshot, same⟩ := State.settle_eq t u
  rw [State.settle_ok] at good
  have empty : u.matched = t.noText := (inspects_leaves only within).2 good
  rw [same]
  dsimp only
  rw [empty]
  exact adds only

theorem chain_act_modified
    (single : Chain.followed (parts setting after) (.item fold (parser.part setting)) = none)
    (single' : Chain.followed (parts setting after) (.item fold (modified.part setting)) = none)
    (same : ∀ t joined, ArrivesAt setting before fold parser after s t joined →
      Chain.step (.item fold (modified.part setting)) t joined =
        Chain.step (.item fold (parser.part setting)) t joined) :
    (chain (before ++ .item fold modified :: after)).act setting s =
      (chain (before ++ .item fold parser :: after)).act setting s := by
  have here : ∀ parser, parts setting (.item fold parser :: after) =
      .item fold (parser.part setting) :: parts setting after := fun _ => rfl
  have follows : Chain.follow (parts setting before ++ parts setting (.item fold parser :: after))
      s s.noText =
      Chain.follow (parts setting before ++ parts setting (.item fold modified :: after))
        s s.noText := by
    refine Chain.follow_append_arrives rfl fun t joined arrives => ?_
    rw [here, here, Chain.follow_cons fun _ => single, Chain.follow_cons fun _ => single',
      same t joined arrives]
  rw [chain_act, chain_act, parts_append, parts_append, follows]

/-- An oblivious parser does what the parser itself does if its chain has not failed wherever a run
comes to it, and so does a lookahead with no parser behind it, after either kind of link. Where the
parser adds no text, the empty one joined to the text of the chain has to be no change. -/
theorem idle_modifiers (resumes : parser.traits.oblivious = false)
    (inspects : parser.traits.inspectsFailure = false) (plain : parser.isLookahead = false)
    (adds : parser.traits.inspectsOnly = true → ∀ t joined,
      ArrivesAt setting before fold parser after s t joined → t.ok = true →
        fold.join joined t.noText = pure joined) :
    ((∀ t joined, ArrivesAt setting before fold parser after s t joined → t.ok = true) →
      (chain (before ++ .item fold (.oblivious parser) :: after)).act setting s =
        (chain (before ++ .item fold parser :: after)).act setting s) ∧
    (after.any Link.isItem = false → ∀ mode,
      (chain (before ++ .item fold (.lookahead mode parser) :: after)).act setting s =
        (chain (before ++ .item fold parser :: after)).act setting s) := by
  have single : Chain.followed (parts setting after) (.item fold (parser.part setting)) = none :=
    unfollowed fun looks => absurd looks (by simp [plain])
  constructor
  · intro live
    refine chain_act_modified single (unfollowed nofun) fun t joined arrives => ?_
    have good := live t joined arrives
    exact step_modified (oblivious_act setting parser) rfl good fun only =>
      adds only t joined arrives good
  · intro last mode
    refine chain_act_modified single (unfollowed fun _ => last) fun t joined arrives => ?_
    cases good : t.ok with
    | true =>
      exact step_modified (lookahead_act setting mode parser) rfl good fun only =>
        adds only t joined arrives good
    | false =>
      have modest : (Parser.lookahead mode parser).traits = {} := rfl
      simp only [Chain.step, good, part, modest, resumes, inspects, Bool.false_eq_true, if_false]

def behindSign (fold : Fold) (parser : Parser) : Parser :=
  chain [.item .append (.literal (.value (.ofString "a")) true), .item fold parser]

theorem end_modified :
    ∃ s r : State, r.ok = true ∧ r.matched = .ofString "a" ∧
      ((behindSign .append .endOfInput).act (Grammar.empty.setting ⟨0, 0⟩) s).outcome =
        .returned r ∧
      (behindSign .append (.oblivious .endOfInput)).act (Grammar.empty.setting ⟨0, 0⟩) s =
        (behindSign .append .endOfInput).act (Grammar.empty.setting ⟨0, 0⟩) s ∧
      ∀ mode, (behindSign .append (.lookahead mode .endOfInput)).act
          (Grammar.empty.setting ⟨0, 0⟩) s =
        (behindSign .append .endOfInput).act (Grammar.empty.setting ⟨0, 0⟩) s := by
  have run : ((behindSign .append .endOfInput).act (Grammar.empty.setting ⟨0, 0⟩)
        (.start (.text "a".toList.toArray) .null)).outcome =
      .returned ⟨.text "a".toList.toArray, 1, 1, .ofString "a", .null, true, none⟩ := by
    cbv
  have sign : (Chain.step (.item .append ((Parser.literal (.value (.ofString "a")) true).part
        (Grammar.empty.setting ⟨0, 0⟩))) (.start (.text "a".toList.toArray) .null)
        (.ofString "")).outcome =
      .returned (⟨.text "a".toList.toArray, 1, 1, .ofString "a", .null, true, none⟩,
        .ofString "a") := by
    cbv
  have arrives : ∀ t joined, ArrivesAt (Grammar.empty.setting ⟨0, 0⟩)
      [.item .append (.literal (.value (.ofString "a")) true)] .append .endOfInput []
      (.start (.text "a".toList.toArray) .null) t joined →
      t = ⟨.text "a".toList.toArray, 1, 1, .ofString "a", .null, true, none⟩ ∧
        joined = .ofString "a" :=
    fun t joined arrives =>
      Chain.Arrives.of_ordinary arrives (unfollowed fun looks => absurd looks (by decide)) sign
  have single : Parser.endOfInput.isLookahead = false := rfl
  obtain ⟨oblivious, backing⟩ := idle_modifiers rfl rfl single fun _ t joined there _ => by
    obtain ⟨rfl, rfl⟩ := arrives t joined there
    rfl
  refine ⟨_, _, rfl, rfl, run, oblivious fun t joined there => ?_, backing rfl⟩
  rw [(arrives t joined there).1]

/-- A modified success behind a discarding link takes the place of the text before it. -/
theorem idle_modifier_discards :
    endOn (behindSign .discard (.outcome true)) "a" =
        .returned ⟨.text "a".toList.toArray, 1, 1, .ofString "a", .null, true, none⟩ ∧
      endOn (behindSign .discard (.oblivious (.outcome true))) "a" =
        .returned ⟨.text "a".toList.toArray, 1, 1, .ofString "", .null, true, none⟩ ∧
      endOn (behindSign .discard (.lookahead .reluctant (.outcome true))) "a" =
        .returned ⟨.text "a".toList.toArray, 1, 1, .ofString "", .null, true, none⟩ ∧
      endOn (behindSign .discard (.lookahead .greedy (.outcome true))) "a" =
        .returned ⟨.text "a".toList.toArray, 1, 1, .ofString "", .null, true, none⟩ := by
  refine ⟨?_, ?_, ?_, ?_⟩
  all_goals cbv

end Parser

end Catena
