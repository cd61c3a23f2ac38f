import Mathlib
import Catena.Proofs.Kind

/-!
# Parsers without fresh buffers

Whether results move to fresh buffers cannot be seen: `Grammar.act_unforced` leaves all such moves
out of a parser and of the definitions of its grammar. The states of the two runs are alike, in
windows with the same items, and their texts are sequences of one kind, so that no move to a fresh
buffer can fail.
-/

namespace Catena

/-! ### Leaving the moves out -/

namespace Parser

mutual

def unforced : Parser → Parser
  | many least most parser => many least most parser.unforced
  | repeated test stopsWhenTrue parser => repeated test stopsWhenTrue parser.unforced
  | absorb merge initial parser => absorb merge initial parser.unforced
  | morph transform parser => morph transform parser.unforced
  | force parser => parser.unforced
  | noConsume parser => noConsume parser.unforced
  | noBuild parser => noBuild parser.unforced
  | oblivious parser => oblivious parser.unforced
  | lookahead mode parser => lookahead mode parser.unforced
  | catches kinds main none => catches kinds main.unforced none
  | catches kinds main (some handler) => catches kinds main.unforced (some handler.unforced)
  | chain links => chain (unforcedLinks links)
  | alternative first rest => alternative first.unforced (unforcedAll rest)
  | parser => parser

def unforcedLinks : List (Link Parser) → List (Link Parser)
  | [] => []
  | .item fold parser :: links => .item fold parser.unforced :: unforcedLinks links
  | .build function :: links => .build function :: unforcedLinks links

def unforcedAll : List Parser → List Parser
  | [] => []
  | parser :: parsers => parser.unforced :: unforcedAll parsers

end

theorem unforcedLinks_eq_map (links : List (Link Parser)) :
    unforcedLinks links = links.map (Link.map unforced) := by
  induction links with
  | nil => rfl
  | cons link links ih => cases link <;> rw [unforcedLinks, ih] <;> rfl

theorem unforcedAll_eq_map (parsers : List Parser) : unforcedAll parsers = parsers.map unforced := by
  induction parsers with
  | nil => rfl
  | cons parser parsers ih => rw [unforcedAll, ih]; rfl

theorem parts_unforced (setting : Setting) (links : List (Link Parser)) :
    parts setting (unforcedLinks links) =
      links.map (Link.map fun parser => part setting parser.unforced) := by
  rw [parts_eq_map, unforcedLinks_eq_map, List.map_map]
  refine List.map_congr_left fun link _ => ?_
  cases link <;> rfl

def isLookahead : Parser → Bool
  | lookahead _ _ => true
  | _ => false

end Parser

def Grammar.unforced (g : Grammar) : Grammar :=
  ⟨g.slots.map (Option.map Parser.unforced)⟩

theorem Grammar.lookup_unforced (g : Grammar) (slot : Nat) :
    g.unforced.lookup slot = (g.lookup slot).map Parser.unforced := by
  simp only [lookup, unforced, List.getElem?_map]
  rcases g.slots[slot]? with _ | _ | parser <;> rfl

/-! ### The bond of states that look the same -/

namespace State

def resemblance (kind : Kind) : Bond Unit :=
  let likeness := Window.bond fun _ : Unit => Window.Same
  { likeness with
    ready := fun i s t => likeness.ready i s t ∧ s.OfKind kind
    done := fun i s t => likeness.done i s t ∧ s.OfKind kind
    text := fun _ v => v.OfKind kind }

theorem resemblance_lawful (kind : Kind) : (resemblance kind).Lawful := by
  have like := Window.bond_lawful Window.same_stable
  exact {
    done_of_ready := id
    ready_of_ok := fun h _ => h
    resumed := fun ⟨alike, of⟩ failed => ⟨like.resumed alike failed, of.resumed⟩
    ok := fun ⟨alike, _⟩ => like.ok alike
    matched := fun ⟨alike, of⟩ => ⟨(like.matched alike).1, of.matched⟩
    value := fun ⟨alike, _⟩ => like.value alike
    remaining := fun ⟨alike, _⟩ => like.remaining alike
    noText := fun ⟨alike, of⟩ => ⟨(like.noText alike).1, of.noText⟩
    settle := fun ⟨alike, of⟩ ⟨alike', of'⟩ => ⟨like.settle alike alike', of.settle of'⟩
    withText := fun ⟨alike, of⟩ text => ⟨like.withText alike trivial, of.withText text⟩
    withValue := fun ⟨alike, of⟩ => ⟨like.withValue alike, of.keep of.source of.matched rfl⟩
    restore := fun ⟨alike, of⟩ ⟨alike', of'⟩ =>
      ⟨like.restore alike alike', of'.keep of.source of'.matched rfl⟩
    close := fun ⟨alike, of⟩ ⟨alike', of'⟩ text =>
      ⟨like.close alike alike' trivial, of.settle (of'.keep of'.source text rfl)⟩
    fresh := fun ⟨alike, of⟩ => ⟨like.fresh alike, .clean of.source of.noText rfl⟩
    cut := by
      rintro ⟨⟩ s t full full' length ⟨alike, of⟩ ⟨alike', -⟩ good nonneg bound
      obtain ⟨⟨⟩, ready, taken⟩ := like.cut alike alike' good nonneg bound
      refine ⟨(), ⟨ready, of.keep of.source of.matched rfl⟩, fun c c' ⟨after, of'⟩ ok => ?_⟩
      exact ⟨taken c c' after ok, of.keep of.source of'.matched rfl⟩
    plus := fun left right sum => by
      obtain ⟨c, sum', of⟩ := left.plus right
      obtain rfl := Option.some.inj (sum'.symm.trans sum)
      exact of
    misfit := fun left right missing => by
      obtain ⟨c, sum, -⟩ := left.plus right
      cases sum.symm.trans missing
    complaint := like.complaint
    signal := like.signal
    endsIteration := like.endsIteration
    interrupted := like.interrupted }

end State

/-! ### Two runs side by side -/

namespace Parser

/-- What is asked of all that a parser is made of: no moves of the state, texts transformed to texts
of their kind, and to a fresh buffer only results of parsers that a chain treats like any other. -/
def Movable (kind : Kind) : Parser → Prop
  | step _ => False
  | morph transform _ => ∀ text v, Value.OfKind kind text → transform.apply text = .ok v →
      v = .null ∨ v.OfKind kind
  | force parser => parser.traits = {} ∧ parser.isLookahead = false
  | _ => True

variable {g : Grammar} {kind : Kind} {parser : Parser}

theorem unforced_alike (h : g.Throughout (Movable kind) parser) :
    parser.unforced.traits = parser.traits ∧
      parser.unforced.isLookahead = parser.isLookahead := by
  induction parser using inner_induction with
  | step parser below =>
    cases parser with
    | force parser =>
      obtain ⟨traits, plain⟩ := h.here
      obtain ⟨same, same'⟩ := below parser (.head _) (h.part (.head _))
      unfold unforced
      exact ⟨same.trans traits, same'.trans plain⟩
    | catches kinds main handler => cases handler <;> exact ⟨rfl, rfl⟩
    | _ => exact ⟨rfl, rfl⟩

theorem backsOff_eq_none (setting : Setting) (plain : parser.isLookahead = false) :
    parser.backsOff setting = none := by
  cases parser with
  | lookahead => cases plain
  | _ => rfl

variable {setting setting' : Setting}

/-- A lookahead does what its parser does, so that the one keeps what the other does. -/
theorem part_unforced (movable : g.Throughout (Movable kind) parser)
    (h : Action.Keeps (State.resemblance kind) (parser.act setting)
      (parser.unforced.act setting')) :
    (parser.part setting).Keeps (State.resemblance kind) (parser.unforced.part setting') where
  act := h
  traits := (unforced_alike movable).1.symm
  lookahead := by
    have same := (unforced_alike movable).2
    cases back : parser.isLookahead with
    | false =>
      simp only [part, backsOff_eq_none _ back, backsOff_eq_none _ (same.trans back)]
      exact .none
    | true =>
      cases parser with
      | lookahead mode parser =>
        rw [unforced, lookahead_act, lookahead_act] at h
        exact .some ⟨rfl, h, fun _ => .defect nofun⟩
      | _ => cases back
  inspects _ i s t before _ := h i s t before

theorem force_left {body body' : Action} (h : Action.Keeps (State.resemblance kind) body body') :
    Action.Yields (State.resemblance kind) (.force body) body' := by
  intro i s t before
  rw [← bind_pure (body' t)]
  refine (h i s t before).bind fun r r' ⟨alike, of⟩ => ?_
  obtain ⟨d, moved, after⟩ := of.detach alike
  rw [moved]
  exact .pure ((State.resemblance_lawful kind).settle before after)

theorem elementary_resembles (elementary : parser.isElementary = true) :
    Action.Keeps (State.resemblance kind) (parser.body setting) (parser.body setting') := by
  rintro i s t ⟨alike, of⟩
  refine (elementary_tracks Window.same_stable elementary setting setting' i s t alike).and_left ?_
  exact fun r run => of.moves (body_moves elementary run)

theorem throws_resembles (signal : SignalKind) (msg : Option String) (trigger : Trigger) :
    Action.Keeps (State.resemblance kind) (.throws signal msg trigger)
      (.throws signal msg trigger) := by
  rintro i s t ⟨alike, of⟩
  refine (Action.Tracks.throws Window.same_stable signal msg trigger i s t alike).and_left ?_
  intro r run
  rw [Action.throws_returned run]
  split
  · exact of.moves .pass
  · exact of

def Unforcing (g : Grammar) (kind : Kind) (forward forward' : Nat → String → Action) : Prop :=
  ∀ slot name, g.Throughout (Movable kind) (.forward slot name) →
    Action.Keeps (State.resemblance kind) (forward slot name) (forward' slot name)

theorem act_keeps_unforced {forward forward' : Nat → String → Action} (patience : Nat)
    (forwards : Unforcing g kind forward forward') (h : g.Throughout (Movable kind) parser) :
    Action.Keeps (State.resemblance kind) (parser.act ⟨forward, patience⟩)
      (parser.unforced.act ⟨forward', patience⟩) := by
  have lawful := State.resemblance_lawful kind
  induction parser using inner_induction with
  | step parser below =>
    have ih := fun part member => below part member (h.part member)
    have elementary : parser.isElementary = true →
        Action.Yields (State.resemblance kind) (parser.body ⟨forward, patience⟩)
          (parser.body ⟨forward', patience⟩) :=
      fun elementary => lawful.passed (elementary_resembles elementary)
    by_cases moves : parser.isForce = true
    · cases parser with
      | force parser =>
        have moved := Bond.Lawful.settled (force_left (ih parser (.head _)))
        unfold act at moved ⊢
        rwa [Action.settled_settled] at moved
      | _ => cases moves
    apply Bond.Lawful.settled
    cases parser with
    | force => exact absurd rfl moves
    | base => exact fun _ _ _ _ => .raise (.defect (by decide))
    | literal | outcome | check | build | singleItem | itemRun | everything | endOfInput =>
      exact elementary rfl
    | step function => exact h.here.elim
    | throws signal msg trigger => exact lawful.passed (throws_resembles signal msg trigger)
    | forward slot name => exact lawful.passed (forwards slot name h)
    | many least most parser => exact lawful.many _ least most (ih parser (.head _))
    | repeated test stopsWhenTrue parser =>
      exact lawful.repeated _ test stopsWhenTrue (ih parser (.head _))
    | absorb merge initial parser => exact lawful.absorb merge initial (ih parser (.head _))
    | morph transform parser =>
      refine lawful.morph (fun _ text v of answer some => ?_) (ih parser (.head _))
      exact (h.here text v of answer).resolve_left some
    | noConsume parser => exact lawful.noConsume (ih parser (.head _))
    | noBuild parser => exact lawful.noBuild (ih parser (.head _))
    | oblivious parser | lookahead mode parser => exact lawful.passed (ih parser (.head _))
    | catches kinds main handler =>
      have inner := ih main (.head _)
      cases handler with
      | none => exact lawful.catches kinds _ _ inner lawful.failing
      | some handler =>
        exact lawful.catches kinds _ _ inner (lawful.passed (ih handler (.tail _ (.head _))))
    | chain links =>
      intro i s t before
      unfold unforced body
      rw [parts_eq_map, parts_unforced]
      refine Chain.act_keeps lawful (Link.map_keeps fun part member => ?_) before
      exact part_unforced (h.part member) (ih part member)
    | alternative first rest =>
      unfold unforced body
      refine lawful.firstOf (ih first (.head _)) ?_
      rw [acts_eq_map, unforcedAll_eq_map, acts_eq_map, List.map_map, List.forall₂_map_left_iff,
        List.forall₂_map_right_iff, List.forall₂_same]
      exact fun part member => ih part (.tail _ member)

end Parser

namespace Grammar

variable {g : Grammar} {parser : Parser} {kind : Kind}

theorem forward_unforced (kind : Kind) (patience depth : Nat) :
    Parser.Unforcing g kind (g.forward patience depth) (g.unforced.forward patience depth) := by
  -- Induction on how deep placeholders are still followed: a definition runs one level less deep.
  induction depth with
  | zero =>
    intro slot name h i s t before
    unfold forward
    rw [lookup_unforced]
    cases g.lookup slot with
    | none => exact .raise (.undefined name)
    | some parser => exact .exhausted
  | succ depth ih =>
    intro slot name h i s t before
    unfold forward
    rw [lookup_unforced]
    cases found : g.lookup slot with
    | none => exact .raise (.undefined name)
    | some parser =>
      exact Parser.act_keeps_unforced patience ih (h.definition found) i s t before

/-- On a well-formed state, a parser made without moves of the state, whose transformed texts are
sequences of the kind of the source or nothing, calls the same functions where the results of plain
parsers no longer move to fresh buffers, and ends alike: both runs are cut off, or both return states
that look the same, or both raise faults that look the same. -/
theorem act_unforced {s : State} (h : g.Throughout (Parser.Movable s.source.kind) parser)
    (granted : Granted) (wellFormed : s.WellFormed) :
    (parser.act (g.setting granted) s).Agree (fun r r' => r.view = r'.view) Fault.LooksLike
      (parser.unforced.act (g.unforced.setting granted) s) := by
  obtain ⟨pos, order, bound, text, clean⟩ := wellFormed
  have same : State.Alike Window.Same s s :=
    .clean ⟨Window.Same.refl ⟨pos, order, bound⟩, rfl, rfl, rfl⟩ clean clean
  have keeps := Parser.act_keeps_unforced granted.patience
    (forward_unforced _ granted.patience granted.depth) h
  refine (keeps () s s ⟨same, .clean rfl text clean⟩).mono ?_ ?_
  · exact fun r r' ⟨after, _⟩ => after.view_eq
  · exact fun fault fault' alike => alike.looksLike

def detached : Parser :=
  .chain [.item .append (.many 0 (-1) (.force (.literal (.value (.ofString "a")) true))),
    .item .append (.noConsume (.force (.literal (.value (.ofString "b")) true)))]

theorem detached_movable : empty.Throughout (Parser.Movable .text) detached := by
  refine .of_closed [detached, .many 0 (-1) (.force (.literal (.value (.ofString "a")) true)),
    .force (.literal (.value (.ofString "a")) true), .literal (.value (.ofString "a")) true,
    .noConsume (.force (.literal (.value (.ofString "b")) true)),
    .force (.literal (.value (.ofString "b")) true), .literal (.value (.ofString "b")) true]
    ?_ ?_ ?_ (.head _)
  · simp [Parser.Movable, Parser.traits, Parser.isLookahead, detached]
  · simp [Parser.inner, detached, Link.item?]
  · simp [detached]

theorem detached_unforced :
    ∃ s r r' : State, s.WellFormed ∧ r.source ≠ r'.source ∧ r.pos ≠ r'.pos ∧
      (detached.act (empty.setting ⟨0, 0⟩) s).outcome = .returned r ∧
      (detached.unforced.act (empty.unforced.setting ⟨0, 0⟩) s).outcome = .returned r' ∧
      r.view = r'.view := by
  have forced : (detached.act (empty.setting ⟨0, 0⟩)
        (.start (.text "aab".toList.toArray) .null)).outcome =
      .returned ⟨.text "b".toList.toArray, 0, 1, .ofString "aab", .null, true, none⟩ := by
    cbv
  have unforced : (detached.unforced.act (empty.unforced.setting ⟨0, 0⟩)
        (.start (.text "aab".toList.toArray) .null)).outcome =
      .returned ⟨.text "aab".toList.toArray, 2, 3, .ofString "aab", .null, true, none⟩ := by
    cbv
  have sources : Sequence.text "b".toList.toArray ≠
      (Sequence.text "aab".toList.toArray : Buffer) :=
    fun same => absurd (congrArg Sequence.length same) (by decide)
  have same := act_unforced (s := .start (.text "aab".toList.toArray) .null) detached_movable ⟨0, 0⟩
    (State.start_wellFormed _ _)
  exact ⟨_, _, _, State.start_wellFormed _ _, sources, by decide, forced, unforced,
    same.returned forced unforced⟩

end Grammar

end Catena
