import Mathlib
import Catena.Proofs.Lossless.Chain

/-!
# Parsers that lose nothing

Parsers that neither drop nor give back nor rewrite what they consume: what a success has matched,
before what it leaves unconsumed, is what was unconsumed to start with, whatever was tried and given
up on the way. This is `Grammar.act_lossless`.
-/

namespace Catena

def Link.appends {π : Type} : Link π → Bool
  | .item .discard _ => false
  | _ => true

namespace Parser

/-- Parsers that take no part in dropping, giving back or rewriting what is consumed. -/
def isLossless : Parser → Bool
  | literal _ _ | outcome _ | check _ | build _ | singleItem _ | everything | endOfInput
  | throws _ _ _ | many _ _ _ | repeated _ _ _ | absorb _ _ _ | force _ | noBuild _ | catches _ _ _
  | alternative _ _ | lookahead _ _ | forward _ _ => true
  | itemRun _ keepTerminator _ => keepTerminator
  | chain links => links.any Link.isItem && links.all Link.appends
  | _ => false

variable {g : Grammar} {parser : Parser} {setting : Setting}

theorem stepFree_of_lossless (h : g.Throughout (·.isLossless = true) parser) :
    g.StepFree parser := by
  intro below reaches
  have lossless := h below reaches
  cases below with
  | step => cases lossless
  | _ => rfl

theorem elementary_lossless (elementary : parser.isElementary = true)
    (lossless : parser.isLossless = true) : Action.Lossless (parser.body setting) := by
  intro s r live run good
  cases parser with
  | itemRun test keepTerminator stopsWhenTrue =>
    obtain rfl : keepTerminator = true := lossless
    exact Action.itemRun_lossless test stopsWhenTrue s r live run good
  | literal text caseSensitive =>
    obtain rfl | ⟨length, rfl⟩ := Action.literal_returned run
    · cases good
    · exact State.advance_leads live.inside (Int.natCast_nonneg length)
  | singleItem test =>
    obtain rfl | rfl := Action.singleItem_returned run
    · cases good
    · exact State.advance_leads live.inside (by decide)
  | everything =>
    obtain rfl := Run.pure_returned_iff.mp run
    exact State.advance_leads live.inside (Window.remaining_nonneg live.inside)
  | outcome ok =>
    obtain rfl := Run.pure_returned_iff.mp run
    cases ok with
    | true => exact s.noText_leads
    | false => cases good
  | check test =>
    obtain ⟨holds, -, run⟩ := Run.bind_returned_iff.mp run
    obtain rfl := Run.pure_returned_iff.mp run
    cases holds with
    | true => exact s.noText_leads
    | false => cases good
  | build function =>
    obtain ⟨value, -, run⟩ := Run.bind_returned_iff.mp run
    obtain rfl := Run.pure_returned_iff.mp run
    exact s.noText_leads
  | endOfInput =>
    obtain rfl := Run.pure_returned_iff.mp run
    split at good
    · rename_i ended
      rw [if_pos ended]
      exact s.noText_leads
    · cases good
  | _ => cases elementary

theorem throws_lossless (kind : SignalKind) (msg : Option String) (trigger : Trigger) :
    Action.Lossless (.throws kind msg trigger) := by
  intro s r live run good
  obtain rfl := Action.throws_returned run
  rw [if_pos live.ok]
  exact s.noText_leads

theorem failing_lossless : Action.Lossless fun s => return s.failed := by
  intro s r live run good
  obtain rfl := Run.pure_returned_iff.mp run
  cases good

theorem part_lossless {granted : Granted} (h : g.Throughout (·.isLossless = true) parser)
    (act : Action.Lossless (parser.act (g.setting granted))) :
    (parser.part (g.setting granted)).Lossless where
  advances := g.act_advances (stepFree_of_lossless h) granted
  lossless := act
  lookahead := by
    intro look found
    cases parser with
    | lookahead mode parser =>
      obtain rfl := Option.some.inj found
      refine ⟨g.act_advances (stepFree_of_lossless (h.part (.head _))) granted, ?_⟩
      rwa [lookahead_act] at act
    | _ => cases found
  inspects := by
    intro only s r run
    obtain ⟨t, inner, settled⟩ := Run.bind_returned_iff.mp run
    obtain rfl := Run.pure_returned_iff.mp settled
    rw [State.settle_window]
    exact (inspects_leaves only inner).1
  oblivious := by
    have lossless := h.here
    cases parser with
    | oblivious => cases lossless
    | _ => rfl
  fails := by
    intro looks s r failed run
    obtain ⟨t, inner, settled⟩ := Run.bind_returned_iff.mp run
    obtain rfl := Run.pure_returned_iff.mp settled
    rw [State.settle_ok]
    cases parser with
    | throws kind msg trigger =>
      obtain rfl := Action.throws_returned inner
      rw [if_neg (by simp [failed])]
      exact failed
    | _ => cases looks

theorem links_lossless {granted : Granted} {links : List (Link Parser)}
    (h : g.Throughout (·.isLossless = true) (.chain links))
    (act : ∀ part ∈ (chain links).inner, Action.Lossless (part.act (g.setting granted))) :
    ∀ link ∈ parts (g.setting granted) links, link.Lossless := by
  rw [parts_eq_map]
  intro link member
  obtain ⟨link, there, rfl⟩ := List.mem_map.mp member
  have appends : link.appends = true := by
    have lossless := h.here
    simp only [isLossless, Bool.and_eq_true, List.all_eq_true] at lossless
    exact lossless.2 link there
  cases link with
  | build function => trivial
  | item fold parser =>
    have inside : parser ∈ (chain links).inner := List.mem_filterMap.mpr ⟨_, there, rfl⟩
    cases fold with
    | append => exact ⟨rfl, part_lossless (h.part inside) (act parser inside)⟩
    | discard => cases appends

theorem act_lossless_of_forward (granted : Granted)
    (forwards : ∀ slot name, g.Throughout (·.isLossless = true) (.forward slot name) →
      Action.Lossless ((g.setting granted).forward slot name))
    (h : g.Throughout (·.isLossless = true) parser) :
    Action.Lossless (parser.act (g.setting granted)) := by
  induction parser using inner_induction with
  | step parser below =>
    have ih := fun part member => below part member (h.part member)
    have advances : ∀ part ∈ parser.inner, (part.act (g.setting granted)).Advances :=
      fun part member => g.act_advances (stepFree_of_lossless (h.part member)) granted
    apply Action.settled_lossless
    cases parser with
    | literal | outcome | check | build | singleItem | itemRun | everything | endOfInput =>
      exact elementary_lossless rfl h.here
    | throws kind msg trigger => exact throws_lossless kind msg trigger
    | forward slot name => exact forwards slot name h
    | many least most parser =>
      exact Action.many_lossless _ least most (advances parser (.head _)) (ih parser (.head _))
    | repeated test stopsWhenTrue parser =>
      exact Action.repeated_lossless _ test stopsWhenTrue (advances parser (.head _))
        (ih parser (.head _))
    | absorb merge initial parser =>
      exact Action.absorb_lossless merge initial (ih parser (.head _))
    | force parser => exact Action.force_lossless (ih parser (.head _))
    | noBuild parser => exact Action.noBuild_lossless (ih parser (.head _))
    | lookahead mode parser => exact ih parser (.head _)
    | catches kinds main handler =>
      have inner := ih main (.head _)
      cases handler with
      | none => exact Action.catches_lossless kinds _ inner failing_lossless
      | some handler => exact Action.catches_lossless kinds _ inner (ih handler (.tail _ (.head _)))
    | chain links =>
      intro s r live run good
      have item : links.any Link.isItem = true := by
        have lossless := h.here
        simp only [isLossless, Bool.and_eq_true] at lossless
        exact lossless.1
      refine Chain.follow_leads (links_lossless h ih) live s.noText_leads (.inr ?_) run good
      rwa [parts_any_isItem]
    | alternative first rest =>
      refine Action.firstOf_lossless (ih first (.head _)) ?_
      rw [acts_eq_map]
      exact List.forall_mem_map.mpr fun part member => ih part (.tail _ member)
    | _ => cases h.here

end Parser

namespace Grammar

variable {g : Grammar} {parser : Parser}

theorem forward_lossless (patience depth : Nat) {slot : Nat} {name : String}
    (h : g.Throughout (·.isLossless = true) (.forward slot name)) :
    Action.Lossless (g.forward patience depth slot name) := by
  -- Induction on how deep placeholders are still followed: a definition runs one level less deep.
  induction depth generalizing slot name with
  | zero =>
    intro s r live run good
    unfold forward at run
    split at run <;> cases run
  | succ depth ih =>
    intro s r live run good
    unfold forward at run
    cases found : g.lookup slot with
    | none =>
      rw [found] at run
      cases run
    | some parser =>
      rw [found] at run
      exact Parser.act_lossless_of_forward ⟨depth, patience⟩ (fun _ _ => ih)
        (h.definition found) s r live run good

/-- Where a parser of the fragment succeeds on a well-formed state, the matched text followed by
what is left unconsumed is what was unconsumed before. -/
theorem act_lossless (h : g.Throughout (·.isLossless = true) parser) (granted : Granted)
    {s r : State} (live : s.Live) (returned : (parser.act (g.setting granted) s).outcome = .returned r)
    (ok : r.ok = true) : r.matched.plus? (.seq r.unconsumed) = some (.seq s.unconsumed) :=
  Parser.act_lossless_of_forward granted
    (fun _ _ => forward_lossless granted.patience granted.depth) h s r
    live returned ok

theorem brackets_lossless :
    ∃ s r : State, s.Live ∧ r.ok = true ∧ r.matched = .ofString "[[a]]" ∧
      (Parser.act (brackets.setting ⟨3, 0⟩) (.forward 0 "nested") s).outcome = .returned r ∧
      r.matched.plus? (.seq r.unconsumed) = some (.seq s.unconsumed) := by
  have returned : (Parser.act (brackets.setting ⟨3, 0⟩) (.forward 0 "nested")
        ⟨.text "x[[a]]y".toList.toArray, 1, 7, .ofString "", .null, true, none⟩).outcome =
      .returned ⟨.text "x[[a]]y".toList.toArray, 6, 7, .ofString "[[a]]", .null, true, none⟩ := by
    cbv
  have live : State.Live ⟨.text "x[[a]]y".toList.toArray, 1, 7, .ofString "", .null, true, none⟩ :=
    ⟨⟨by decide, by decide, by decide⟩, rfl, rfl⟩
  have lossless : brackets.Throughout (·.isLossless = true) (.forward 0 "nested") :=
    brackets_throughout
      (by simp [bracketed, Parser.isLossless, Link.isItem, Link.appends])
  exact ⟨_, _, live, rfl, rfl, returned, act_lossless lossless ⟨3, 0⟩ live returned rfl⟩

end Grammar

end Catena
