import Mathlib
import Catena.Proofs.Passage
import Catena.Proofs.Termination

/-!
# Neutral links

Parsers that take nothing, in the place of functions and of nothing at all. Behind a parser, where
the text of a chain is that of its state, a parser that builds a value does what the function does,
and success does nothing. Since that is so in every trial of a lookahead, `Parser.build_as_item` and
`Parser.success_neutral` are equalities of runs, the calls and the records in them included.
-/

namespace Catena

/-! ### Chains that give nothing back -/

structure Part.LeavesSound (part : Part) : Prop where
  act : ∀ s r, s.Live → (part.act s).outcome = .returned r → r.Sound s.remaining
  lookahead : ∀ look, part.lookahead = some look → look.act.Advances ∧
    ∀ s r, s.Live → (look.act s).outcome = .returned r → r.Sound s.remaining
  inspects : part.traits.inspectsFailure = true → ∀ s r left, s.ok = false → s.Sound left →
    (part.act s).outcome = .returned r → r.Sound left

def Link.LeavesSound : Link Part → Prop
  | .item _ part => part.LeavesSound
  | .build _ => True

namespace Chain

variable {link : Link Part} {links rest : List (Link Part)} {s t u : State}
  {text joined last : Value}

theorem followed_leavesSound (leaves : link.LeavesSound) {fold : Fold} {look : Lookahead}
    (back : followed rest link = some (fold, look)) : look.act.Advances ∧
      ∀ s r, s.Live → (look.act s).outcome = .returned r → r.Sound s.remaining := by
  obtain ⟨part, rfl, -, found⟩ := eq_item_of_followed back
  exact leaves.lookahead look found

theorem step_sound (leaves : link.LeavesSound) {left : Int} (sound : s.Sound left)
    (run : (step link s text).outcome = .returned (t, joined)) : ∃ left, t.Sound left := by
  cases link with
  | build function =>
    simp only [step] at run
    split at run
    · obtain ⟨value, -, run⟩ := Run.bind_returned_iff.mp run
      obtain ⟨rfl, -⟩ := Prod.mk.inj (Run.pure_returned_iff.mp run)
      exact ⟨left, sound.withValue value⟩
    · obtain ⟨rfl, -⟩ := Prod.mk.inj (Run.pure_returned_iff.mp run)
      exact ⟨left, sound⟩
  | item fold part =>
    simp only [step] at run
    split at run
    case isTrue live =>
      obtain ⟨r, ran, run⟩ := Run.bind_returned_iff.mp run
      have after := leaves.act s r (sound.of_ok live).1 ran
      split at run
      · obtain ⟨rfl, -⟩ := Prod.mk.inj (Run.pure_returned_iff.mp run)
        exact ⟨_, after⟩
      · split at run
        all_goals
          obtain ⟨joined, -, run⟩ := Run.bind_returned_iff.mp run
          obtain ⟨rfl, -⟩ := Prod.mk.inj (Run.pure_returned_iff.mp run)
          exact ⟨_, after.withText joined⟩
    case isFalse failed =>
      rw [Bool.not_eq_true] at failed
      split at run
      · obtain ⟨r, ran, run⟩ := Run.bind_returned_iff.mp run
        obtain ⟨rfl, -⟩ := Prod.mk.inj (Run.pure_returned_iff.mp run)
        exact ⟨_, leaves.act _ r (sound.resumed failed).1 ran⟩
      · split at run
        case isTrue inspects =>
          obtain ⟨r, ran, run⟩ := Run.bind_returned_iff.mp run
          obtain ⟨rfl, -⟩ := Prod.mk.inj (Run.pure_returned_iff.mp run)
          exact ⟨left, leaves.inspects inspects s r left failed sound ran⟩
        case isFalse =>
          obtain ⟨rfl, -⟩ := Prod.mk.inj (Run.pure_returned_iff.mp run)
          exact ⟨left, sound⟩

/-- All states that a chain comes to are sound if its parts leave sound ones. -/
theorem Comes.sound (h : Comes links s text rest u last) (leaves : ∀ link ∈ links, link.LeavesSound)
    {left : Int} (sound : s.Sound left) :
    (∃ left, u.Sound left) ∧ ∀ link ∈ rest, link.LeavesSound := by
  induction h generalizing left with
  | here => exact ⟨⟨left, sound⟩, leaves⟩
  | link _ run _ ih =>
    obtain ⟨here, later⟩ := List.forall_mem_cons.mp leaves
    obtain ⟨left, after⟩ := step_sound here sound run
    exact ih later after
  | pick live back tries _ _ ih =>
    obtain ⟨here, later⟩ := List.forall_mem_cons.mp leaves
    obtain ⟨alive, -⟩ := sound.of_ok live
    obtain ⟨advances, -⟩ := followed_leavesSound here back
    obtain ⟨length, candidate⟩ := tries.candidate fun full run =>
      (advances _ full alive.inside alive.clean run).2.1
    exact ih later (.live ((candidate_live advances alive candidate).withText _) (Int.le_refl _))
  | miss live back _ run _ ih =>
    obtain ⟨here, later⟩ := List.forall_mem_cons.mp leaves
    exact ih later ((followed_leavesSound here back).2 _ _ (sound.of_ok live).1 run)

end Chain

namespace Grammar

variable {g : Grammar} {parser : Parser} {links : List (Link Parser)}

theorem part_leavesSound (free : g.StepFree parser) (granted : Granted) :
    (parser.part (g.setting granted)).LeavesSound where
  act := fun _ _ live run => act_leaves_sound free granted live run
  lookahead := by
    intro look found
    unfold Parser.part at found
    cases parser with
    | lookahead mode parser =>
      obtain rfl := Option.some.inj found
      have free := free.part (.head _)
      exact ⟨g.act_advances free granted,
        fun _ _ live run => act_leaves_sound free granted live run⟩
    | _ => cases found
  inspects := by
    intro inspects s r left failed sound run
    cases parser with
    | throws kind msg trigger => exact ((throws_inspects rfl failed sound).result r run).2
    | _ => cases inspects

theorem parts_leaveSound (free : g.StepFree (.chain links)) (granted : Granted) :
    ∀ link ∈ Parser.parts (g.setting granted) links, link.LeavesSound := by
  rw [Parser.parts_eq_map]
  intro link member
  obtain ⟨link, there, rfl⟩ := List.mem_map.mp member
  cases link with
  | build function => trivial
  | item fold parser =>
    exact part_leavesSound (free.part (List.mem_filterMap.mpr ⟨_, there, rfl⟩)) granted

/-- A chain made without moves of the state gives nothing back. -/
theorem chain_givesNothingBack (free : g.StepFree (.chain links)) (granted : Granted) {s : State}
    (live : s.Live) (text : Value) :
    Chain.GivesNothingBack (Parser.parts (g.setting granted) links) s text := by
  intro link rest t joined fold look full comes good back run _
  obtain ⟨⟨left, sound⟩, leaves⟩ :=
    comes.sound (parts_leaveSound free granted) (.live live (Int.le_refl _))
  obtain ⟨alive, -⟩ := sound.of_ok good
  obtain ⟨advances, -⟩ := Chain.followed_leavesSound (List.forall_mem_cons.mp leaves).1 back
  exact (advances t full alive.inside alive.clean run).2.1

end Grammar

namespace Parser

variable {setting : Setting} {s : State}

/-! ### Links that take nothing -/

section Aligned

variable {joined : Value} {rest : List (Link Part)}
  (aligned : s.ok = true → s.lastGood = none ∧ s.matched = joined)
include aligned

/-- A parser that builds a value reads the text of its state, and a function that of the chain. -/
theorem follow_build (function : TextFunction) (fold : Fold) :
    Chain.follow (.build function :: rest) s joined =
      Chain.follow (.item fold (part setting (.build function)) :: rest) s joined := by
  cases live : s.ok with
  | true =>
    obtain ⟨clean, rfl⟩ := aligned live
    simp only [Chain.follow, live, part, backsOff, traits, act, body, Action.settled, Action.build,
      State.settle, clean, if_true, ite_self, bind_assoc, pure_bind, Bool.not_true,
      Bool.false_eq_true, if_false]
  | false =>
    simp only [Chain.follow, live, part, traits, Bool.false_eq_true, if_false]

theorem follow_success (fold : Fold) :
    Chain.follow (.item fold (part setting (.outcome true)) :: rest) s joined =
      Chain.follow rest s joined := by
  cases live : s.ok with
  | true =>
    obtain ⟨clean, rfl⟩ := aligned live
    have ran : (outcome true).act setting s = pure s.pass :=
      congrArg pure (State.settle_of_clean rfl clean)
    simp only [Chain.follow, live, part, backsOff, traits, ran, if_true, ite_self, pure_bind,
      show s.pass.ok = true from rfl, Bool.not_true, Bool.false_eq_true, if_false]
    cases s
    obtain rfl := live
    rfl
  | false =>
    simp only [Chain.follow, live, part, traits, Bool.false_eq_true, if_false]

end Aligned

/-! ### Chains with links that take nothing -/

variable {before after : List (Link Parser)}

/-- In a chain, a function behind a parser may be exchanged for a parser that builds a value with
it, whatever links there are besides, if every lookahead before it is followed by another parser and
those that succeed give nothing back. -/
theorem build_as_item (setting : Setting) (function : TextFunction) (fold : Fold)
    (item : before.any Link.isItem = true) (looks : LooksFollowed before after)
    (kept : Chain.GivesNothingBack (parts setting (before ++ .build function :: after)) s s.noText)
    (clean : s.lastGood = none) :
    (chain (before ++ .build function :: after)).act setting s =
      (chain (before ++ .item fold (.build function) :: after)).act setting s := by
  have same : ∀ t joined, (t.ok = true → t.lastGood = none ∧ t.matched = joined) →
      Chain.follow (parts setting (.build function :: after)) t joined =
        Chain.follow (parts setting (.item fold (.build function) :: after)) t joined := by
    intro t joined aligned
    rw [parts_eq_map, parts_eq_map]
    exact follow_build aligned function fold
  have called : LooksFollowed before (.build function :: after) := looks.mono id
  have parsed : LooksFollowed before (.item fold (.build function) :: after) :=
    looks.mono fun _ => rfl
  rw [chain_act, chain_act,
    follow_append_congr called parsed same kept (fun _ => clean) (.inl item)]

def valuedUpTo : List (Link Parser) :=
  [.item .append (.lookahead .reluctant .everything),
    .build ⟨none, none, fun (_, matched) => .ok matched⟩,
    .item .append (.literal (.value (.ofString "b")) true)]

theorem valuedUpTo_kept (text : String) :
    Chain.GivesNothingBack (parts (Grammar.empty.setting ⟨0, 0⟩) valuedUpTo)
      (.start (.text text.toList.toArray) .null) (.ofString "") := by
  have free : Grammar.empty.StepFree (chain valuedUpTo) := by
    refine .of_closed [chain valuedUpTo, .lookahead .reluctant .everything,
      .literal (.value (.ofString "b")) true, .everything] ?_ ?_ ?_ (.head _)
    · simp [isStep]
    · simp [inner, valuedUpTo, Link.item?]
    · simp
  have live : (State.start (.text text.toList.toArray) .null).Live :=
    ⟨⟨Int.le_refl 0, Int.natCast_nonneg _, Int.le_refl _⟩, rfl, rfl⟩
  exact Grammar.chain_givesNothingBack free ⟨0, 0⟩ live _

theorem valuedUpTo_as_item :
    endOn (chain valuedUpTo) "ab" =
        .returned ⟨.text "ab".toList.toArray, 2, 2, .ofString "ab", .ofString "a", true, none⟩ ∧
      endOn (chain [.item .append (.lookahead .reluctant .everything),
          .item .discard (.build ⟨none, none, fun (_, matched) => .ok matched⟩),
          .item .append (.literal (.value (.ofString "b")) true)]) "ab" =
        .returned ⟨.text "ab".toList.toArray, 2, 2, .ofString "ab", .ofString "a", true, none⟩ := by
  have run : endOn (chain valuedUpTo) "ab" =
      .returned ⟨.text "ab".toList.toArray, 2, 2, .ofString "ab", .ofString "a", true, none⟩ := by
    cbv
  have looks : LooksFollowed [.item .append (.lookahead .reluctant .everything)]
      [.item .append (.literal (.value (.ofString "b")) true)] :=
    fun _ _ _ _ _ _ => by simp [Link.isItem]
  have same := build_as_item (Grammar.empty.setting ⟨0, 0⟩)
    ⟨none, none, fun (_, matched) => .ok matched⟩ .discard rfl looks (valuedUpTo_kept "ab") rfl
  exact ⟨run, (congrArg Run.outcome same).symm.trans run⟩

/-- Success may be put anywhere behind the first parser of a chain and changes nothing, if every
lookahead before it is followed by another parser and those that succeed give nothing back. -/
theorem success_neutral (setting : Setting) (fold : Fold) (item : before.any Link.isItem = true)
    (looks : LooksFollowed before after)
    (kept : Chain.GivesNothingBack (parts setting (before ++ after)) s s.noText)
    (clean : s.lastGood = none) :
    (chain (before ++ .item fold (.outcome true) :: after)).act setting s =
      (chain (before ++ after)).act setting s := by
  have same : ∀ t joined, (t.ok = true → t.lastGood = none ∧ t.matched = joined) →
      Chain.follow (parts setting after) t joined =
        Chain.follow (parts setting (.item fold (.outcome true) :: after)) t joined := by
    intro t joined aligned
    exact (follow_success aligned fold).symm
  have more : LooksFollowed before (.item fold (.outcome true) :: after) :=
    looks.mono fun _ => rfl
  rw [chain_act, chain_act, follow_append_congr looks more same kept (fun _ => clean) (.inl item)]

theorem valuedUpTo_with_success :
    endOn (chain valuedUpTo) "ab" =
        .returned ⟨.text "ab".toList.toArray, 2, 2, .ofString "ab", .ofString "a", true, none⟩ ∧
      endOn (chain [.item .append (.lookahead .reluctant .everything),
          .build ⟨none, none, fun (_, matched) => .ok matched⟩, .item .discard (.outcome true),
          .item .append (.literal (.value (.ofString "b")) true)]) "ab" =
        .returned ⟨.text "ab".toList.toArray, 2, 2, .ofString "ab", .ofString "a", true, none⟩ := by
  have run : endOn (chain valuedUpTo) "ab" =
      .returned ⟨.text "ab".toList.toArray, 2, 2, .ofString "ab", .ofString "a", true, none⟩ := by
    cbv
  have looks : LooksFollowed (valuedUpTo.take 2)
      [.item .append (.literal (.value (.ofString "b")) true)] :=
    fun _ _ _ _ _ _ => by simp [Link.isItem]
  have same := success_neutral (Grammar.empty.setting ⟨0, 0⟩) .discard rfl looks
    (valuedUpTo_kept "ab") rfl
  exact ⟨run, (congrArg Run.outcome same).trans run⟩

end Parser

end Catena
