import Mathlib
import Catena.Proofs.Flattening

/-!
# Resumption

Behind links that have failed, an oblivious parser starts over: `Grammar.resumed_act` runs it and all
links after it as a chain of their own, on the last good state of the failure. The text of the failed
links is dropped, and a chain of its own has none to begin with; what it leaves is settled already,
so that it does not matter which state it is settled against.
-/

namespace Catena

namespace Chain

variable {part : Part} {links rest : List (Link Part)} {s : State}

/-- The text of a chain does not matter while the chain is failed. -/
theorem follow_failed_text (lawful : ∀ link ∈ links, link.Lawful) (failed : s.ok = false)
    (text text' : Value) : follow links s text = follow links s text' := by
  induction links generalizing s with
  | nil => rfl
  | cons link rest ih =>
    obtain ⟨here, later⟩ := List.forall_mem_cons.mp lawful
    cases link with
    | build function =>
      simp only [follow, failed, Bool.false_eq_true, if_false]
      exact ih later failed
    | item fold part =>
      simp only [follow, failed, Bool.false_eq_true, if_false]
      by_cases resumes : part.traits.oblivious = true
      · simp only [if_pos resumes]
      · by_cases looks : part.traits.inspectsFailure = true
        · simp only [if_neg resumes, if_pos looks]
          refine Run.bind_congr_returned fun r run => ih later ?_
          exact here.inspects looks s r failed run
        · simp only [if_neg resumes, if_neg looks]
          exact ih later failed

theorem follow_resumed (resumes : part.traits.oblivious = true) (failed : s.ok = false) (fold : Fold)
    (text : Value) : follow (.item fold part :: rest) s text =
      part.act (s.lastGood.getD s) >>= fun r => follow rest r r.matched := by
  simp only [follow, failed, resumes, Bool.false_eq_true, if_false, if_true]

/-- The first parser of a chain leaves its text to the links after it. -/
theorem follow_first (whole : part.lookahead = none) (adds : part.traits.inspectsOnly = false)
    (lawful : ∀ link ∈ rest, link.Lawful) (live : s.ok = true)
    (text : ∀ r, (part.act s).outcome = .returned r → r.ok = true →
      r.matched.OfKind s.source.kind) :
    follow (.item .append part :: rest) s s.noText =
      part.act s >>= fun r => follow rest r r.matched := by
  have ordinary : followed rest (.item .append part) = none := by
    simp only [followed, whole, Option.map_none, ite_self]
  rw [follow_cons fun _ => ordinary]
  simp only [step, if_pos live, adds, bind_assoc]
  refine Run.bind_congr_returned fun r run => ?_
  cases good : r.ok with
  | true =>
    have same : { r with ok := true } = r := by
      cases r
      simp only at good
      rw [good]
    simp only [Bool.not_true, Bool.false_eq_true, if_false, Fold.join,
      s.noText_plus (text r run good), Run.need, pure_bind, same]
  | false =>
    simp only [Bool.not_false, if_true, pure_bind]
    exact follow_failed_text lawful good _ _

end Chain

theorem Parser.parts_quiet (setting : Setting) {links : List (Link Parser)}
    (quiet : ∀ part ∈ (chain links).inner,
      part.traits.oblivious = false ∧ part.traits.inspectsFailure = false) :
    ∀ link ∈ parts setting links, Chain.Quiet link := by
  rw [parts_eq_map]
  intro link member
  obtain ⟨link, there, rfl⟩ := List.mem_map.mp member
  cases link with
  | build function => trivial
  | item fold parser => exact quiet parser (List.mem_filterMap.mpr ⟨_, there, rfl⟩)

namespace Grammar

variable {g : Grammar} {kind : Kind} {links rest : List (Link Parser)} {parser : Parser}
  {fold : Fold} {s a f good : State} {granted : Granted}

/-- What holds throughout a chain holds throughout one of some of its parsers. -/
theorem Throughout.chain {P : Parser → Prop} {all : List (Link Parser)}
    (h : g.Throughout P (.chain all)) (here : P (.chain links))
    (some : (Parser.chain links).inner ⊆ (Parser.chain all).inner) :
    g.Throughout P (.chain links) := by
  intro below reaches
  cases reaches with
  | here => exact here
  | part member reaches => exact h.part (some member) below reaches

/-- A chain that begins with an oblivious parser goes on from what that leaves, with its text. -/
theorem follow_oblivious_first (steady : g.Throughout (Parser.Steady kind) parser)
    (live : s.ok = true) (of : s.OfKind kind) :
    Chain.follow (Parser.parts (g.setting granted) (.item .append (.oblivious parser) :: rest)) s
        s.noText =
      parser.act (g.setting granted) s >>= fun r =>
        Chain.follow (Parser.parts (g.setting granted) rest) r r.matched := by
  have whole : ((Parser.oblivious parser).part (g.setting granted)).act =
      parser.act (g.setting granted) :=
    Parser.oblivious_act (g.setting granted) parser
  have matched : ∀ r,
      (((Parser.oblivious parser).part (g.setting granted)).act s).outcome = .returned r →
        r.ok = true → r.matched.OfKind s.source.kind := by
    intro r run _
    rw [whole] at run
    rw [of.source]
    exact (act_ofKind steady granted of run).matched
  rw [← whole]
  exact Chain.follow_first rfl rfl (Parser.parts_lawful _ rest) live matched

/-- On a failed state, an oblivious parser and the links after it run as a chain of their own does
on the last good one. -/
theorem follow_oblivious
    (steady : g.Throughout (Parser.Steady kind) (.chain (.item fold (.oblivious parser) :: rest)))
    (failed : a.ok = false) (snapshot : a.lastGood = some good) (live : good.isLive = true)
    (of : good.OfKind kind) (text : Value) (s : State) :
    (Chain.follow (Parser.parts (g.setting granted) (.item fold (.oblivious parser) :: rest)) a
        text >>= fun t => pure (s.settle t)) =
      (Parser.chain (.item .append (.oblivious parser) :: rest)).act (g.setting granted) good := by
  have own : g.Throughout (Parser.Steady kind) (.chain (.item .append (.oblivious parser) :: rest)) :=
    steady.chain trivial (List.Subset.refl _)
  have keeps : g.Throughout Parser.KeepsSnapshot
      (.chain (.item .append (.oblivious parser) :: rest)) :=
    fun below reaches => Parser.keepsSnapshot_of_steady (own below reaches)
  have fresh : Chain.follow (Parser.parts (g.setting granted)
        (.item .append (.oblivious parser) :: rest)) good good.noText =
      Chain.follow (Parser.parts (g.setting granted) (.item fold (.oblivious parser) :: rest)) a
        text := by
    rw [follow_oblivious_first ((steady.part (.head _)).part (.head _)) (State.isLive_iff.mp live).1
      of, ← Parser.oblivious_act]
    refine .trans ?_ (Chain.follow_resumed rfl failed fold text).symm
    rw [snapshot]
    rfl
  rw [Parser.chain_act, fresh]
  refine Run.bind_congr_returned fun t run => ?_
  rw [← fresh] at run
  have settled := links_settled keeps granted live run
  rw [State.settle_of_isSettled settled, State.settle_of_isSettled settled]

/-- A steady parser that fails on a live state leaves a live last good state. -/
theorem exists_lastGood (steady : g.Throughout (Parser.Steady kind) parser) (live : s.isLive = true)
    (of : s.OfKind kind) (returned : (parser.act (g.setting granted) s).outcome = .returned f)
    (failed : f.ok = false) :
    ∃ good, f.lastGood = some good ∧ good.isLive = true ∧ good.OfKind kind := by
  have keeps : g.Throughout Parser.KeepsSnapshot parser :=
    fun below reaches => Parser.keepsSnapshot_of_steady (steady below reaches)
  have settled := act_settled keeps granted live returned
  obtain ⟨good, snapshot, goodLive⟩ := (State.isSettled_of_failed failed).mp settled
  exact ⟨good, snapshot, goodLive, (act_ofKind steady granted of returned).lastGood snapshot⟩

/-- The chain that resumes behind failed links runs on their last good state. -/
theorem links_resumed (plain : ∀ part ∈ (Parser.chain links).inner, part.isLookahead = false)
    (before : g.Throughout (Parser.Steady kind) (.chain links))
    (behind : g.Throughout (Parser.Steady kind) (.chain (.item fold (.oblivious parser) :: rest)))
    (startLive : s.isLive = true)
    (returned : ((Parser.chain links).act (g.setting granted) s).outcome = .returned f)
    (failed : f.ok = false) (snapshot : f.lastGood = some good) (live : good.isLive = true)
    (of : good.OfKind kind) :
    (Parser.chain (links ++ .item fold (.oblivious parser) :: rest)).act (g.setting granted) s =
      ((Parser.chain links).act (g.setting granted) s >>= fun _ =>
        (Parser.chain (.item .append (.oblivious parser) :: rest)).act (g.setting granted) good) := by
  have straight := Parser.parts_straight (g.setting granted) plain
  have keeps : g.Throughout Parser.KeepsSnapshot (.chain links) :=
    fun below reaches => Parser.keepsSnapshot_of_steady (before below reaches)
  have inner : (Parser.chain links).act (g.setting granted) s =
      Chain.steps (Parser.parts (g.setting granted) links) s s.noText >>= fun p =>
        pure (s.settle p.1) := by
    rw [Parser.chain_act, Chain.follow_eq_steps straight, bind_assoc]
    rfl
  rw [Parser.chain_act, Parser.parts_append, Chain.follow_append_straight straight, inner,
    bind_assoc, bind_assoc]
  refine Run.bind_congr_returned fun p run => ?_
  obtain ⟨a, text⟩ := p
  -- The links have settled their state already, so that the chain as a whole leaves the same.
  have ended : (Chain.follow (Parser.parts (g.setting granted) links) s s.noText).outcome =
      .returned a := by
    rw [Chain.follow_eq_steps straight]
    exact Run.bind_outcome run _
  obtain rfl : f = a := by
    rw [inner, Run.bind_outcome run] at returned
    rw [← Run.pure_returned_iff.mp returned,
      State.settle_of_isSettled (links_settled keeps granted startLive ended)]
  exact follow_oblivious behind failed snapshot live of text s

/-- Where a parser that resumes a chain fails, the next oblivious parser resumes it, past links that
do nothing on a failure. -/
theorem failure_resumed {skipped : List (Link Parser)} {next : Parser}
    (resumes : g.Throughout (Parser.Steady kind) parser)
    (behind : g.Throughout (Parser.Steady kind) (.chain (.item fold (.oblivious next) :: rest)))
    (quiet : ∀ part ∈ (Parser.chain skipped).inner,
      part.traits.oblivious = false ∧ part.traits.inspectsFailure = false)
    (startLive : s.isLive = true) (startOf : s.OfKind kind)
    (returned : (parser.act (g.setting granted) s).outcome = .returned f)
    (failed : f.ok = false) (snapshot : f.lastGood = some good) (live : good.isLive = true)
    (of : good.OfKind kind) :
    (Parser.chain (.item .append (.oblivious parser) ::
        (skipped ++ .item fold (.oblivious next) :: rest))).act (g.setting granted) s =
      (parser.act (g.setting granted) s >>= fun _ =>
        (Parser.chain (.item .append (.oblivious next) :: rest)).act (g.setting granted) good) := by
  rw [← follow_oblivious behind failed snapshot live of f.matched s, Parser.chain_act,
    follow_oblivious_first resumes (State.isLive_iff.mp startLive).1 startOf, bind_assoc]
  refine Run.bind_congr_returned fun r run => ?_
  obtain rfl := Outcome.returned.inj (run.symm.trans returned)
  rw [Parser.parts_append, Chain.follow_quiet failed (Parser.parts_quiet _ quiet)]

/-- Where a chain without lookaheads fails on a successful well-formed state, an oblivious parser
behind its links resumes it: it runs with all links after it as a chain of its own, on the last good
state of the failure, and nothing else is left of what came before but its events. Where it fails in
turn, the next oblivious parser does the same on the last good state of that failure. -/
theorem resumed_act (plain : ∀ part ∈ (Parser.chain links).inner, part.isLookahead = false)
    (steady : g.Throughout (Parser.Steady s.source.kind)
      (.chain (links ++ .item fold (.oblivious parser) :: rest)))
    (wellFormed : s.WellFormed) (ok : s.ok = true)
    (returned : ((Parser.chain links).act (g.setting granted) s).outcome = .returned f)
    (failed : f.ok = false) :
    ∃ good, f.lastGood = some good ∧
      (Parser.chain (links ++ .item fold (.oblivious parser) :: rest)).act (g.setting granted) s =
        ((Parser.chain links).act (g.setting granted) s >>= fun _ =>
          (Parser.chain (.item .append (.oblivious parser) :: rest)).act (g.setting granted) good) ∧
      ∀ skipped fold' parser' later f',
        rest = skipped ++ .item fold' (.oblivious parser') :: later →
        (∀ part ∈ (Parser.chain skipped).inner,
          part.traits.oblivious = false ∧ part.traits.inspectsFailure = false) →
        (parser.act (g.setting granted) good).outcome = .returned f' → f'.ok = false →
        ∃ good', f'.lastGood = some good' ∧
          (Parser.chain (.item .append (.oblivious parser) :: rest)).act (g.setting granted) good =
            (parser.act (g.setting granted) good >>= fun _ =>
              (Parser.chain (.item .append (.oblivious parser') :: later)).act (g.setting granted)
                good') := by
  obtain ⟨-, -, -, text, clean⟩ := wellFormed
  have live : s.isLive = true := State.isLive_iff.mpr ⟨ok, clean⟩
  have of : s.OfKind s.source.kind := .clean rfl text clean
  have before : g.Throughout (Parser.Steady s.source.kind) (.chain links) :=
    steady.chain trivial (by simp [Parser.inner])
  have behind : g.Throughout (Parser.Steady s.source.kind)
      (.chain (.item fold (.oblivious parser) :: rest)) :=
    steady.chain trivial (by simp [Parser.inner, Link.item?])
  obtain ⟨good, snapshot, goodLive, goodOf⟩ := exists_lastGood before live of returned failed
  refine ⟨good, snapshot,
    links_resumed plain before behind live returned failed snapshot goodLive goodOf, ?_⟩
  rintro skipped fold' parser' later f' rfl quiet fails lost
  have resumes : g.Throughout (Parser.Steady s.source.kind) parser :=
    (behind.part (.head _)).part (.head _)
  have next : g.Throughout (Parser.Steady s.source.kind)
      (.chain (.item fold' (.oblivious parser') :: later)) :=
    behind.chain trivial fun part member => by
      simp only [Parser.inner, List.filterMap_cons, List.filterMap_append, Link.item?,
        List.mem_cons, List.mem_append] at member ⊢
      tauto
  obtain ⟨good', snapshot', live', of'⟩ := exists_lastGood resumes goodLive goodOf fails lost
  exact ⟨good', snapshot',
    failure_resumed resumes next quiet goodLive goodOf fails lost snapshot' live' of'⟩

def secondHelp : List (Link Parser) :=
  [.item .discard (.oblivious (.literal (.value (.ofString "x")) true)),
    .item .append (.literal (.value (.ofString "c")) true),
    .item .append (.oblivious .everything)]

theorem secondHelp_steady :
    empty.Throughout (Parser.Steady .text) (.chain (countedSigns ++ secondHelp)) := by
  refine .of_closed [.chain (countedSigns ++ secondHelp), .literal (.value (.ofString "a")) true,
    .literal (.value (.ofString "b")) true, .literal (.value (.ofString "c")) true,
    .literal (.value (.ofString "x")) true, .oblivious (.literal (.value (.ofString "x")) true),
    .oblivious .everything, .everything] ?_ ?_ ?_ (.head _)
  · simp [Parser.Steady]
  · simp [Parser.inner, countedSigns, secondHelp, Link.item?]
    rintro part (rfl | rfl | rfl | rfl) <;> simp
  · simp

/-- Where the second counted sign is missing, the rest is taken from behind the first one, with the
count: the sign that resumes first is missing too, and everything left resumes its failure. -/
theorem countedSigns_resumed :
    ∃ s f good f' good' r : State, s.WellFormed ∧
      ((Parser.chain countedSigns).act (empty.setting ⟨0, 0⟩) s).outcome = .returned f ∧
      f.ok = false ∧ f.lastGood = some good ∧
      (Parser.chain (countedSigns ++ secondHelp)).act (empty.setting ⟨0, 0⟩) s =
        ((Parser.chain countedSigns).act (empty.setting ⟨0, 0⟩) s >>= fun _ =>
          (Parser.chain (.item .append (.oblivious (.literal (.value (.ofString "x")) true)) ::
            secondHelp.tail)).act (empty.setting ⟨0, 0⟩) good) ∧
      f'.lastGood = some good' ∧
      (Parser.chain (.item .append (.oblivious (.literal (.value (.ofString "x")) true)) ::
            secondHelp.tail)).act (empty.setting ⟨0, 0⟩) good =
        ((Parser.literal (.value (.ofString "x")) true).act (empty.setting ⟨0, 0⟩) good >>= fun _ =>
          (Parser.chain [.item .append (.oblivious .everything)]).act (empty.setting ⟨0, 0⟩)
            good') ∧
      ((Parser.chain (countedSigns ++ secondHelp)).act (empty.setting ⟨0, 0⟩) s).outcome =
        .returned r ∧ r.matched = .ofString "cd" ∧ r.value = .int 1 := by
  have fails : ((Parser.chain countedSigns).act (empty.setting ⟨0, 0⟩)
        (.start (.text "acd".toList.toArray) .null)).outcome =
      .returned ⟨.text "acd".toList.toArray, 1, 3, .ofString "", .int 1, false,
        some ⟨.text "acd".toList.toArray, 1, 3, .ofString "a", .int 1, true, none⟩⟩ := by
    cbv
  have lost : ((Parser.literal (.value (.ofString "x")) true).act (empty.setting ⟨0, 0⟩)
        ⟨.text "acd".toList.toArray, 1, 3, .ofString "a", .int 1, true, none⟩).outcome =
      .returned ⟨.text "acd".toList.toArray, 1, 3, .ofString "", .int 1, false,
        some ⟨.text "acd".toList.toArray, 1, 3, .ofString "a", .int 1, true, none⟩⟩ := by
    cbv
  have run : ((Parser.chain (countedSigns ++ secondHelp)).act (empty.setting ⟨0, 0⟩)
        (.start (.text "acd".toList.toArray) .null)).outcome =
      .returned ⟨.text "acd".toList.toArray, 3, 3, .ofString "cd", .int 1, true, none⟩ := by
    cbv
  have plain : ∀ part ∈ (Parser.chain countedSigns).inner, part.isLookahead = false := by
    simp [Parser.inner, countedSigns, Link.item?, Parser.isLookahead]
  have quiet : ∀ part ∈ (Parser.chain
      [.item .append (.literal (.value (.ofString "c")) true)]).inner,
      part.traits.oblivious = false ∧ part.traits.inspectsFailure = false := by
    simp [Parser.inner, Link.item?, Parser.traits]
  have wellFormed := State.start_wellFormed (.text "acd".toList.toArray) .null
  obtain ⟨good, snapshot, resumed, onward⟩ :=
    resumed_act plain secondHelp_steady wellFormed rfl fails rfl
  obtain rfl := Option.some.inj snapshot
  obtain ⟨good', snapshot', again⟩ := onward _ .append .everything [] _ rfl quiet lost rfl
  exact ⟨_, _, _, _, _, _, wellFormed, fails, rfl, snapshot, resumed, snapshot', again, run, rfl,
    rfl⟩

end Grammar

end Catena
