import Mathlib
import Catena.Construction
import Catena.Proofs.Accord.Invariant
import Catena.Proofs.Discipline
import Catena.Proofs.Recovery
import Catena.Proofs.Unforced

/-!
# Flattened chains

A link behind a chain may as well be a link of it: `Grammar.extend_act` has both run alike, call by
call, unless the chain has lookaheads to try again. In the longer chain the link meets the state and
the text as the links before it have left them, behind the chain as a whole it meets a result with
the text joined to nothing. Both are the same because successes carry the text of their chain and no
snapshot, and failures a snapshot already.
-/

namespace Catena

/-! ### Chains without lookaheads -/

namespace Chain

def steps (links : List (Link Part)) (s : State) (text : Value) : Run (State × Value) :=
  links.foldlM (fun p link => step link p.1 p.2) (s, text)

variable {link : Link Part} {links rest : List (Link Part)} {s a : State} {text last : Value}

theorem steps_cons : steps (link :: rest) s text =
    step link s text >>= fun p => steps rest p.1 p.2 :=
  List.foldlM_cons

theorem Straight.later (straight : Straight (link :: rest)) : Straight rest :=
  fun fold part member => straight fold part (.tail _ member)

theorem follow_append_straight (straight : Straight links) (tail : List (Link Part)) :
    follow (links ++ tail) s text = steps links s text >>= fun p => follow tail p.1 p.2 := by
  induction links generalizing s text with
  | nil => rfl
  | cons link rest ih =>
    have ordinary : s.ok = true → followed (rest ++ tail) link = none := by
      intro _
      cases link with
      | build function => rfl
      | item fold part =>
        simp only [followed, straight fold part (.head _), Option.map_none, ite_self]
    rw [List.cons_append, follow_cons ordinary, steps_cons, bind_assoc]
    exact congrArg _ (funext fun p => ih straight.later)

theorem follow_eq_steps (straight : Straight links) :
    follow links s text = steps links s text >>= fun p => pure p.1 := by
  have same : follow (links ++ []) s text = steps links s text >>= fun p => follow [] p.1 p.2 :=
    follow_append_straight straight []
  rwa [List.append_nil] at same

theorem attempt_of_steps (straight : Straight links)
    (run : (steps links s text).outcome = .returned (a, last)) : Attempt links s text a last := by
  induction links generalizing s text with
  | nil =>
    obtain ⟨rfl, rfl⟩ := Prod.mk.inj (Run.pure_returned_iff.mp run)
    exact .done s text
  | cons link rest ih =>
    rw [steps_cons] at run
    obtain ⟨⟨t, joined⟩, here, later⟩ := Run.bind_returned_iff.mp run
    exact .link (fun _ => followed_straight straight) here (ih straight.later later)

/-- Behind a failure the text of a chain does not matter for its last link. -/
theorem follow_last_failed (failed : s.ok = false) (text text' : Value) :
    follow [link] s text = follow [link] s text' := by
  cases link with
  | build function => simp only [follow, failed, Bool.false_eq_true, if_false]
  | item fold part => simp only [follow, failed, Bool.false_eq_true, if_false]

end Chain

theorem State.noText_plus (s : State) {v : Value} (of : v.OfKind s.source.kind) :
    s.noText.plus? v = some v := by
  obtain ⟨text, rfl, kind⟩ := of
  exact congrArg (Option.map Value.seq) (Sequence.empty_append? kind.symm)

/-! ### What links keep -/

namespace Parser

/-- What is asked of all that a chain is made of: the functions given to it keep the kind of texts,
and moves of the state leave its snapshot alone. -/
def Steady (kind : Kind) : Parser → Prop
  | step function => ∀ s t, function.apply s = .ok t → t.lastGood = s.lastGood ∧
      (s.OfKind kind → t.source.kind = kind ∧ t.matched.OfKind kind)
  | morph transform _ => transform.KeepsKind kind
  | _ => True

variable {g : Grammar} {kind : Kind} {parser : Parser}

theorem keepsSnapshot_of_steady (steady : parser.Steady kind) : parser.KeepsSnapshot := by
  cases parser with
  | step function => exact fun s t answer => (steady s t answer).1
  | _ => trivial

open Accord (invariance)

theorem steady_keeps (steady : parser.Steady kind) (leaf : parser.isLeaf = true)
    {setting : Setting} {s r : State} (of : s.OfKind kind)
    (run : (parser.body setting s).outcome = .returned r) : r.OfKind kind := by
  have elementary : parser.isElementary = true → r.OfKind kind :=
    fun elementary => of.moves (body_moves elementary run)
  cases parser with
  | base => cases run
  | literal | outcome | check | build | singleItem | itemRun | everything | endOfInput =>
    exact elementary rfl
  | step function =>
    obtain ⟨snapshot, kinds⟩ := steady s r (Callback.call_returned_iff.mp run)
    obtain ⟨source, matched⟩ := kinds of
    exact of.keep source matched snapshot
  | throws signal msg trigger =>
    rw [Action.throws_returned run]
    split
    · exact of.moves .pass
    · exact of
  | _ => cases leaf

theorem steady_admits (steady : parser.Steady kind) :
    (invariance kind (State.OfKind kind) fun _ => True).Admits g parser := by
  refine invariance_admits (fun _ _ => trivial) (fun leaf setting setting' => ?_) ?_ ?_
    (fun _ _ => trivial) fun _ _ _ _ _ _ => trivial
  · have body : parser.body setting = parser.body setting' := by
      cases parser <;> first | rfl | cases leaf
    rintro i s _ ⟨rfl, of⟩
    rw [← body]
    refine Run.Accords.self (fun r run => ⟨rfl, ?_⟩) fun _ _ => .inl ⟨rfl, trivial⟩
    exact steady_keeps steady leaf of run
  · rintro transform part rfl
    exact steady
  · rintro part rfl i s _ ⟨rfl, of⟩
    obtain ⟨d, moved, after⟩ := of.detached
    rw [moved]
    exact .pure ⟨rfl, after⟩

theorem parts_straight {links : List (Link Parser)} (setting : Setting)
    (plain : ∀ part ∈ (chain links).inner, part.isLookahead = false) :
    Chain.Straight (parts setting links) := by
  rw [parts_eq_map]
  intro fold part member
  obtain ⟨link, there, same⟩ := List.mem_map.mp member
  cases link with
  | build function => cases same
  | item fold' parser =>
    obtain ⟨rfl, rfl⟩ := Link.item.inj same
    exact backsOff_eq_none setting (plain parser (List.mem_filterMap.mpr ⟨_, there, rfl⟩))

end Parser

namespace Grammar

variable {g : Grammar} {kind : Kind} {links : List (Link Parser)} {s a r : State}

theorem act_ofKind {parser : Parser} (steady : g.Throughout (Parser.Steady kind) parser)
    (granted : Granted) (of : s.OfKind kind)
    (returned : (parser.act (g.setting granted) s).outcome = .returned r) : r.OfKind kind :=
  act_keeps (State.ofKind_invariant kind)
    (fun below reaches => Parser.steady_admits (steady below reaches)) granted of returned

theorem links_settled (keeps : g.Throughout Parser.KeepsSnapshot (.chain links))
    (granted : Granted) (live : s.isLive = true) {text : Value}
    (run : (Chain.follow (Parser.parts (g.setting granted) links) s text).outcome = .returned a) :
    a.isSettled = true := by
  have disciplined : ∀ part ∈ (Parser.chain links).inner, Part.Keeps State.discipline
      (part.part (g.setting granted))
      (part.partUnder (Parser.disciplined fun _ => Run.exhausted)
        (g.settingUnder (Parser.disciplined fun _ => Run.exhausted) granted)) := by
    intro part member
    obtain ⟨act, inner⟩ := Parser.act_keeps_discipline granted.patience
      (forward_disciplined granted.patience granted.depth) (keeps.part member)
    exact Parser.part_disciplined act inner
  rw [Parser.parts_eq_map] at run
  have before : State.discipline.done () s s := ⟨rfl, State.isSettled_of_isLive live⟩
  have text : State.discipline.text () text := trivial
  have same := Chain.follow_keeps State.discipline_lawful (Link.map_keeps disciplined) before text
  obtain ⟨_, -, -, settled⟩ := same.of_returned run
  exact settled

/-- The links of a chain that starts on a live state come to a settled state, with the text of the
chain if it is successful. -/
theorem steps_settled (item : links.any Link.isItem = true)
    (plain : ∀ part ∈ (Parser.chain links).inner, part.isLookahead = false)
    (keeps : g.Throughout Parser.KeepsSnapshot (.chain links)) (granted : Granted)
    (live : s.isLive = true) {text : Value}
    (run : (Chain.steps (Parser.parts (g.setting granted) links) s s.noText).outcome =
      .returned (a, text)) :
    a.isSettled = true ∧ (a.ok = true → a.matched = text) := by
  have straight := Parser.parts_straight (g.setting granted) plain
  constructor
  · have ended : (Chain.follow (Parser.parts (g.setting granted) links) s s.noText).outcome =
        .returned a := by
      rw [Chain.follow_eq_steps straight]
      exact Run.bind_outcome run _
    exact links_settled keeps granted live ended
  · have attempt := Chain.attempt_of_steps straight run
    refine attempt.matched (Parser.parts_lawful _ links) (.inl ?_)
    rw [Parser.parts_any_isItem]
    exact item

/-- A link appended to a chain without lookaheads does what it does behind the chain as a whole, on
a successful well-formed state: the two runs are the same, with all their events, faults and
results, if the moves and texts in the chain are steady. -/
theorem extend_act (item : links.any Link.isItem = true)
    (plain : ∀ part ∈ (Parser.chain links).inner, part.isLookahead = false)
    (steady : g.Throughout (Parser.Steady s.source.kind) (.chain links)) (granted : Granted)
    (wellFormed : s.WellFormed) (ok : s.ok = true) (link : Link Parser) :
    ((Parser.chain links).extend link).act (g.setting granted) s =
      (Parser.chain [.item .append (.chain links), link]).act (g.setting granted) s := by
  obtain ⟨-, -, -, text, clean⟩ := wellFormed
  have live : s.isLive = true := State.isLive_iff.mpr ⟨ok, clean⟩
  have of : s.OfKind s.source.kind := .clean rfl text clean
  have straight := Parser.parts_straight (g.setting granted) plain
  have keeps : g.Throughout Parser.KeepsSnapshot (.chain links) :=
    fun below reaches => Parser.keepsSnapshot_of_steady (steady below reaches)
  have whole : Parser.parts (g.setting granted) [.item .append (.chain links), link] =
      .item .append ((Parser.chain links).part (g.setting granted)) ::
        Parser.parts (g.setting granted) [link] := rfl
  have inner : (Parser.chain links).act (g.setting granted) s =
      Chain.steps (Parser.parts (g.setting granted) links) s s.noText >>= fun p =>
        pure (s.settle p.1) := by
    rw [Parser.chain_act, Chain.follow_eq_steps straight, bind_assoc]
    rfl
  have ordinary : Chain.followed (Parser.parts (g.setting granted) [link])
      (.item .append ((Parser.chain links).part (g.setting granted))) = none := by
    simp only [Chain.followed, Parser.part, Parser.backsOff, Option.map_none, ite_self]
  rw [Parser.extend, Parser.chain_act, Parser.parts_append, Chain.follow_append_straight straight,
    Parser.chain_act, whole, Chain.follow_cons fun _ => ordinary]
  simp only [Chain.step, if_pos ok, Parser.part, Parser.traits, inner, bind_assoc, pure_bind]
  refine Run.bind_congr_returned fun p run => ?_
  obtain ⟨a, text⟩ := p
  obtain ⟨settled, matched⟩ := steps_settled item plain keeps granted live run
  rw [State.settle_of_isSettled settled]
  cases good : a.ok with
  | true =>
    obtain rfl := matched good
    have returned : ((Parser.chain links).act (g.setting granted) s).outcome = .returned a := by
      rw [inner, Run.bind_outcome run, State.settle_of_isSettled settled]
      rfl
    have kept := act_ofKind steady granted of returned
    have sum := s.noText_plus kept.matched
    have same : { a with ok := true } = a := by
      cases a
      simp only at good
      rw [good]
    simp only [Bool.not_true, Bool.false_eq_true, if_false, Fold.join, sum, Run.need, pure_bind,
      same]
  | false =>
    have last : Parser.parts (g.setting granted) [link] =
        [link.map (Parser.part (g.setting granted))] := Parser.parts_eq_map _ _
    simp only [Bool.not_false, if_true, pure_bind]
    rw [last, Chain.follow_last_failed good text s.noText]

def countedSigns : List (Link Parser) :=
  [.item .append (.literal (.value (.ofString "a")) true),
    .build ⟨some "count", some "count", fun _ => .ok (.int 1)⟩,
    .item .append (.literal (.value (.ofString "b")) true)]

theorem countedSigns_steady :
    empty.Throughout (Parser.Steady .text) (.chain countedSigns) := by
  refine .of_closed [.chain countedSigns, .literal (.value (.ofString "a")) true,
    .literal (.value (.ofString "b")) true] ?_ ?_ ?_ (.head _)
  · simp [Parser.Steady]
  · simp [Parser.inner, countedSigns, Link.item?]
  · simp

/-- Where the second sign is missing, what resumes the chain finds itself before it in both, with
the count and none of the text. -/
theorem countedSigns_extended :
    ∃ s r : State, s.WellFormed ∧ r.ok = true ∧ r.value = .int 1 ∧ r.matched = .ofString "c" ∧
      (((Parser.chain countedSigns).extend (.item .append (.oblivious .everything))).act
        (empty.setting ⟨0, 0⟩) s).outcome = .returned r ∧
      ((Parser.chain countedSigns).extend (.item .append (.oblivious .everything))).act
          (empty.setting ⟨0, 0⟩) s =
        (Parser.chain [.item .append (.chain countedSigns),
          .item .append (.oblivious .everything)]).act (empty.setting ⟨0, 0⟩) s := by
  have run : (((Parser.chain countedSigns).extend (.item .append (.oblivious .everything))).act
        (empty.setting ⟨0, 0⟩) (.start (.text "ac".toList.toArray) .null)).outcome =
      .returned ⟨.text "ac".toList.toArray, 2, 2, .ofString "c", .int 1, true, none⟩ := by
    cbv
  have plain : ∀ part ∈ (Parser.chain countedSigns).inner, part.isLookahead = false := by
    simp [Parser.inner, countedSigns, Link.item?, Parser.isLookahead]
  have wellFormed := State.start_wellFormed (.text "ac".toList.toArray) .null
  exact ⟨_, _, wellFormed, rfl, rfl, rfl, run,
    extend_act rfl plain countedSigns_steady ⟨0, 0⟩ wellFormed rfl _⟩

end Grammar

end Catena
