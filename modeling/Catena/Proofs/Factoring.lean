import Mathlib.Data.List.Basic
import Catena.Proofs.Flattening
import Catena.Proofs.Grouping

/-!
# Parsers before alternatives

Alternatives that begin with the same links may share them: `Parser.chains_factored`. The links are
run again for each of the chains, with the same end; what they come to is what each of the chains
goes on from, and if none of them does, the failure is that of the last parser in both.
-/

namespace Catena

/-- A run that is repeated where what follows it fails ends as if what comes then followed it at
once. -/
theorem Run.again_outcome {α : Type} (x : Run α) (f g : α → Run State) :
    ((x >>= f) >>= fun r => if r.ok then pure r else x >>= g).outcome =
      (x >>= fun a => f a >>= fun r => if r.ok then pure r else g a).outcome := by
  rw [bind_assoc]
  refine bind_outcome_congr rfl fun a ended => bind_outcome_congr rfl fun r _ => ?_
  cases r.ok with
  | true => rfl
  | false => exact bind_outcome ended g

namespace Parser

variable {setting : Setting} {links : List (Link Parser)} {fold : Fold} {parser b c : Parser}
  {s t : State} {text : Value}

theorem follow_last (ordinary : parser.traits = {}) :
    Chain.follow [.item fold (part setting parser)] t text =
      if t.ok then parser.act setting t >>= fun r =>
        if r.ok then Chain.resume [] fold text r else pure r
      else pure t := by
  unfold part
  rw [ordinary]
  cases live : t.ok with
  | true => exact Chain.follow_ordinary live
  | false => simp only [Chain.follow, live, Bool.false_eq_true, if_false]

def ending (setting : Setting) (s : State) (fold : Fold) (parser : Parser) (p : State × Value) :
    Run State := do
  return s.settle (← Chain.follow [.item fold (part setting parser)] p.1 p.2)

theorem chain_ending (straight : Chain.Straight (parts setting links)) :
    (chain (links ++ [.item fold parser])).act setting s =
      Chain.steps (parts setting links) s s.noText >>= ending setting s fold parser := by
  rw [chain_act, parts_append, Chain.follow_append_straight straight, bind_assoc]
  rfl

/-- A second parser tried behind the same links is tried as the second of two options. -/
theorem ending_alternative (first : b.traits = {}) (second : c.traits = {}) (p : State × Value) :
    (ending setting s fold b p >>= fun r => if r.ok then pure r else ending setting s fold c p) =
      ending setting s fold (alternative b [c]) p := by
  obtain ⟨t, text⟩ := p
  have both : (alternative b [c]).traits = {} := rfl
  unfold ending
  rw [follow_last first, follow_last second, follow_last both, alternative_act]
  cases live : t.ok with
  | false =>
    simp only [Bool.false_eq_true, if_false, pure_bind, State.settle_ok, live]
  | true =>
    simp only [if_true, Action.firstOf, List.map_cons, List.map_nil, bind_assoc]
    refine congrArg _ (funext fun r => ?_)
    cases good : r.ok with
    | true =>
      simp only [if_true, good, Chain.resume, Chain.follow, bind_assoc, pure_bind, State.settle_ok]
    | false =>
      simp only [Bool.false_eq_true, if_false, good, pure_bind, State.settle_ok]

/-- Two chains with the same links before their last parsers, one tried after the other, end as the
chain with the two parsers as options behind those links. -/
theorem chains_factored (straight : Chain.Straight (parts setting links)) (first : b.traits = {})
    (second : c.traits = {}) :
    ((alternative (chain (links ++ [.item fold b])) [chain (links ++ [.item fold c])]).act setting
        s).outcome =
      ((chain (links ++ [.item fold (alternative b [c])])).act setting s).outcome := by
  have options : (fun p => ending setting s fold b p >>= fun r =>
      if r.ok then pure r else ending setting s fold c p) =
        ending setting s fold (alternative b [c]) :=
    funext (ending_alternative first second)
  rw [alternative_act]
  simp only [List.map_cons, List.map_nil, Action.firstOf, chain_ending straight]
  rw [Run.again_outcome, options]

/-- A parser that is no lookahead may be shared by the two chains of an alternative that begin with
it, if the parsers behind it run on successes alone and add their text: on every state, the
alternative of the chains and the chain with the alternative end alike. -/
theorem alternatives_factored {a : Parser} (plain : a.isLookahead = false) (first : b.traits = {})
    (second : c.traits = {}) :
    ((alternative (chain [.item .append a, .item .append b])
        [chain [.item .append a, .item .append c]]).act setting s).outcome =
      ((chain [.item .append a, .item .append (alternative b [c])]).act setting s).outcome := by
  have straight : Chain.Straight (parts setting [.item .append a]) := by
    refine parts_straight setting fun part member => ?_
    obtain rfl := List.mem_singleton.mp member
    exact plain
  exact chains_factored straight first second

def valuedSign : Parser :=
  .chain [.item .append (.literal (.value (.ofString "a")) true),
    .build ⟨none, none, fun _ => .ok (.int 1)⟩]

def markAfterSign (mark : String) : Parser :=
  .chain [.item .append (.check ⟨none, none, fun (value, text) =>
      .ok (.bool (value.same (.int 1) && text.same (.ofString "a")))⟩),
    .item .append (.literal (.value (.ofString mark)) true)]

/-- The second mark is found where the first one is missing, and where both are missing the second
chain leaves the state behind the sign. -/
theorem marks_factored :
    (valuedSign.isLookahead = false ∧ (markAfterSign "b").traits = {} ∧
      (markAfterSign "c").traits = {}) ∧
    endOn (alternative (chain [.item .append valuedSign, .item .append (markAfterSign "b")])
        [chain [.item .append valuedSign, .item .append (markAfterSign "c")]]) "ac" =
      .returned ⟨.text "ac".toList.toArray, 2, 2, .ofString "ac", .int 1, true, none⟩ ∧
    endOn (alternative (chain [.item .append valuedSign, .item .append (markAfterSign "b")])
        [chain [.item .append valuedSign, .item .append (markAfterSign "c")]]) "ad" =
      .returned ⟨.text "ad".toList.toArray, 1, 2, .ofString "", .int 1, false,
        some ⟨.text "ad".toList.toArray, 1, 2, .ofString "", .int 1, true, none⟩⟩ := by
  have factored : ∀ text,
      endOn (alternative (chain [.item .append valuedSign, .item .append (markAfterSign "b")])
        [chain [.item .append valuedSign, .item .append (markAfterSign "c")]]) text =
      endOn (chain [.item .append valuedSign,
        .item .append (alternative (markAfterSign "b") [markAfterSign "c"])]) text :=
    fun _ => alternatives_factored rfl rfl rfl
  refine ⟨⟨rfl, rfl, rfl⟩, (factored "ac").trans ?_, (factored "ad").trans ?_⟩
  all_goals cbv

end Parser

end Catena
