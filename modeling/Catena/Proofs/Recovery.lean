import Mathlib
import Catena.Construction
import Catena.Proofs.Attempt
import Catena.Proofs.Likeness
import Catena.Proofs.Parts

/-!
# Recovery at the end of a chain

A throw step or an oblivious parser at the end of a chain belongs to what a lookahead tries after
each of its candidates, so that it runs at the end of the first attempt already. What it does there
is what it does behind the chain as a whole, if that attempt succeeds.
-/

namespace Catena

/-- A part that leaves its successes without a snapshot, also as a lookahead, and does not turn a
failure it inspects into a success. -/
structure Part.Lawful (part : Part) : Prop where
  act : ∀ s r, (part.act s).outcome = .returned r → r.ok = true → r.lastGood = none
  lookahead : ∀ look, part.lookahead = some look →
    ∀ s r, (look.act s).outcome = .returned r → r.ok = true → r.lastGood = none
  inspects : part.traits.inspectsFailure = true →
    ∀ s r, s.ok = false → (part.act s).outcome = .returned r → r.ok = false

def Link.Lawful : Link Part → Prop
  | .item _ part => part.Lawful
  | .build _ => True

/-! ### Parts of parsers -/

theorem Action.throws_failed {kind : SignalKind} {msg : Option String} {trigger : Trigger}
    {s r : State} (failed : s.ok = false)
    (h : (settled (throws kind msg trigger) s).outcome = .returned r) : r.ok = false := by
  obtain ⟨t, run, settled⟩ := Run.bind_returned_iff.mp h
  obtain rfl := Run.pure_returned_iff.mp settled
  rw [State.settle_ok]
  unfold throws at run
  split at run
  · split at run <;> cases run
  · simp only [failed, Bool.false_eq_true, if_false] at run
    obtain rfl := Run.pure_returned_iff.mp run
    exact failed

theorem Signal.raised_ok (kind : SignalKind) (msg : Option String) {s : State}
    (near : -wordLimit ≤ s.pos) :
    ∃ signal, Signal.raised kind msg s = .ok signal ∧ signal.kind = kind ∧ signal.msg = msg ∧
      signal.state = some s := by
  have noted : ¬ (s.pos < -wordLimit ∧ s.excerpt.isSome = true) :=
    fun far => absurd near (Int.not_le.mpr far.1)
  simp only [Signal.raised, Signal.withNote, State.note, if_neg noted]
  exact ⟨_, rfl, rfl, rfl, rfl⟩

/-- A throw step on failure ends a failed state in a signal that carries the state, or in a defect
if no note can be made on its position. -/
theorem Action.throws_onFailure (kind : SignalKind) (msg : Option String) {s : State}
    (failed : s.ok = false) :
    ∃ fault, (throws kind msg .onFailure s).outcome = .raised fault ∧
      (-wordLimit ≤ s.pos → ∃ signal, fault = .signal signal ∧ signal.kind = kind ∧
        signal.msg = msg ∧ signal.state = some s) := by
  have fires : fires .onFailure s.ok = true := by rw [failed]; rfl
  simp only [throws, if_pos fires]
  cases raised : Signal.raised kind msg s with
  | ok signal =>
    refine ⟨.signal signal, rfl, fun near => ?_⟩
    obtain ⟨signal', raised', carries⟩ := Signal.raised_ok kind msg near
    obtain rfl := Except.ok.inj (raised.symm.trans raised')
    exact ⟨signal, rfl, carries⟩
  | error e =>
    refine ⟨.defect (.excess e), rfl, fun near => ?_⟩
    obtain ⟨signal, raised', -⟩ := Signal.raised_ok kind msg near
    cases raised.symm.trans raised'

namespace Parser

variable (setting : Setting)

theorem part_lawful (parser : Parser) : (parser.part setting).Lawful where
  act := fun _ _ => State.settled_clean
  lookahead := by
    intro look found
    unfold part at found
    cases parser with
    | lookahead mode parser =>
      obtain rfl := Option.some.inj found
      exact fun _ _ => State.settled_clean
    | _ => cases found
  inspects := by
    intro inspects s r failed run
    cases parser with
    | throws kind msg trigger => exact Action.throws_failed failed run
    | _ => cases inspects

theorem chain_act (links : List (Link Parser)) (s : State) :
    (chain links).act setting s =
      Chain.follow (parts setting links) s s.noText >>= fun t => pure (s.settle t) := rfl

theorem parts_append (links tail : List (Link Parser)) :
    parts setting (links ++ tail) = parts setting links ++ parts setting tail := by
  rw [parts_eq_map, parts_eq_map, parts_eq_map, List.map_append]

theorem parts_lawful (links : List (Link Parser)) : ∀ link ∈ parts setting links, link.Lawful := by
  rw [parts_eq_map]
  intro link member
  obtain ⟨link, -, rfl⟩ := List.mem_map.mp member
  cases link with
  | build function => trivial
  | item fold parser => exact part_lawful setting parser

end Parser

/-! ### What an attempt keeps -/

theorem Lookahead.tries_clean {look : Lookahead} {s t : State}
    (lawful : ∀ r, (look.act s).outcome = .returned r → r.ok = true → r.lastGood = none)
    (clean : s.lastGood = none) (h : look.Tries s t) : t.lastGood = none := by
  obtain ⟨trials, index, tries, bound, found⟩ := h
  obtain ⟨full, run, tries⟩ := Run.bind_returned_iff.mp tries
  by_cases good : full.ok = true
  · simp only [good, Bool.not_true, Bool.false_eq_true, if_false] at tries
    obtain ⟨lengthAt, -, tries⟩ := Run.bind_returned_iff.mp tries
    obtain rfl := Run.pure_returned_iff.mp tries
    simp only [candidate] at found
    split at found
    · obtain rfl := Option.some.inj (Run.pure_returned_iff.mp found)
      exact lawful full (run_returned_iff.mp run) good
    · obtain ⟨clipped, -, found⟩ := Run.bind_returned_iff.mp found
      split at found
      · obtain rfl := Option.some.inj (Run.pure_returned_iff.mp found)
        exact clean
      · cases Run.pure_returned_iff.mp found
  · rw [Bool.not_eq_true] at good
    simp only [good, Bool.not_false, if_true] at tries
    obtain rfl := Run.pure_returned_iff.mp tries
    exact absurd bound (Nat.not_lt_zero index)

namespace Chain

variable {link : Link Part} {links rest : List (Link Part)} {s t a : State}
  {text joined last : Value}

theorem step_clean (lawful : link.Lawful) (clean : s.ok = true → s.lastGood = none)
    (run : (step link s text).outcome = .returned (t, joined)) (good : t.ok = true) :
    t.lastGood = none := by
  cases link with
  | build function =>
    obtain ⟨live, -, value, rfl⟩ := step_build_ok run good
    exact clean live
  | item fold part =>
    obtain ⟨result, after, ok, rfl⟩ | ⟨failed, inspects, after⟩ := step_item_ok run good
    · exact (lawful.act _ result after ok : result.lastGood = none)
    · exact lawful.act _ _ after good

theorem step_matched (lawful : link.Lawful)
    (before : link.isItem = true ∨ (s.ok = true → s.matched = text))
    (run : (step link s text).outcome = .returned (t, joined)) (good : t.ok = true) :
    t.matched = joined := by
  cases link with
  | build function =>
    obtain ⟨live, rfl, value, rfl⟩ := step_build_ok run good
    exact before.resolve_left (by simp [Link.isItem]) live
  | item fold part =>
    obtain ⟨result, after, ok, rfl⟩ | ⟨failed, inspects, after⟩ := step_item_ok run good
    · rfl
    · exact absurd good (by simp [lawful.inspects inspects s t failed after])

theorem followed_lawful (lawful : link.Lawful) {fold : Fold} {look : Lookahead}
    (back : followed rest link = some (fold, look)) {s r : State}
    (run : (look.act s).outcome = .returned r) (ok : r.ok = true) : r.lastGood = none := by
  obtain ⟨part, rfl, -, found⟩ := eq_item_of_followed back
  exact lawful.lookahead look found s r run ok

theorem Attempt.clean (h : Attempt links s text a last) (lawful : ∀ link ∈ links, link.Lawful)
    (clean : s.ok = true → s.lastGood = none) (good : a.ok = true) : a.lastGood = none := by
  induction h with
  | done => exact clean good
  | link ordinary run _ ih =>
    obtain ⟨here, later⟩ := List.forall_mem_cons.mp lawful
    exact ih later (step_clean here clean run) good
  | pick live back first _ _ ih =>
    obtain ⟨here, later⟩ := List.forall_mem_cons.mp lawful
    have after :=
      Lookahead.tries_clean (fun _ => followed_lawful here back) (clean live) first.tries
    exact ih later (fun _ => after) good
  | miss live back _ run _ ih =>
    obtain ⟨here, later⟩ := List.forall_mem_cons.mp lawful
    exact ih later (followed_lawful here back run) good

theorem Attempt.matched (h : Attempt links s text a last) (lawful : ∀ link ∈ links, link.Lawful)
    (before : links.any Link.isItem = true ∨ (s.ok = true → s.matched = text))
    (good : a.ok = true) : a.matched = last := by
  induction h with
  | done => exact before.resolve_left (by simp) good
  | @link link rest s t a text joined last ordinary run _ ih =>
    obtain ⟨here, later⟩ := List.forall_mem_cons.mp lawful
    rw [List.any_cons, Bool.or_eq_true, or_right_comm] at before
    refine ih later (before.symm.imp_right fun before => ?_) good
    exact step_matched here before run
  | pick _ _ _ _ _ ih => exact ih (List.forall_mem_cons.mp lawful).2 (.inr fun _ => rfl) good
  | miss _ back _ _ _ ih =>
    -- Where nothing is tried the text may lag behind, but a parser is still to come.
    obtain ⟨_, -, item, -⟩ := eq_item_of_followed back
    exact ih (List.forall_mem_cons.mp lawful).2 (.inl item) good

end Chain

/-! ### Links at the end -/

namespace Parser

variable {s a r : State} {text : Value}

theorem follow_throws_ok (setting : Setting) (kind : SignalKind) (msg : Option String)
    (good : a.ok = true) (clean : a.lastGood = none) (matched : a.matched = text) :
    (Chain.follow [.item .append (part setting (.throws kind msg .onFailure))] a text).outcome =
      .returned a := by
  obtain ⟨source, pos, limit, matched, value, ok, lastGood⟩ := a
  obtain rfl : ok = true := good
  obtain rfl : lastGood = none := clean
  obtain rfl := matched
  rfl

theorem follow_throws_failed (setting : Setting) (kind : SignalKind) (msg : Option String)
    (text : Value) (failed : a.ok = false) :
    ∃ fault,
      (Chain.follow [.item .append (part setting (.throws kind msg .onFailure))] a text).outcome =
        .raised fault ∧
      (-wordLimit ≤ a.pos → ∃ signal, fault = .signal signal ∧ signal.kind = kind ∧
        signal.msg = msg ∧ signal.state = some a) := by
  obtain ⟨fault, raised, signal⟩ := Action.throws_onFailure kind msg failed
  refine ⟨fault, ?_, signal⟩
  simp only [Chain.follow, failed, part, traits, act, body, Action.settled, bind_assoc, pure_bind,
    Bool.false_eq_true, if_false, if_true]
  exact Run.bind_outcome_raised raised _

theorem follow_oblivious_failed (setting : Setting) (parser : Parser) (text : Value)
    (failed : a.ok = false) :
    Chain.follow [.item .append (part setting (.oblivious parser))] a text =
      (oblivious parser).act setting (a.lastGood.getD a) := by
  simp only [Chain.follow, failed, part, traits, Bool.false_eq_true, if_false, if_true, bind_pure]

/-- Links behind a chain as a whole go on from its result, with its matched text. -/
theorem follow_behind {setting : Setting} {links : List (Link Parser)}
    {tail : List (Link Part)} (live : s.ok = true)
    (returned : ((chain links).act setting s).outcome = .returned r) (good : r.ok = true)
    (sequence : ∃ text, r.matched = .seq text ∧ text.kind = s.source.kind) :
    (Chain.follow (.item .append (part setting (chain links)) :: tail) s s.noText).outcome =
      (Chain.follow tail r r.matched).outcome := by
  obtain ⟨matched, same, kind⟩ := sequence
  have joined : s.noText.plus? r.matched = some r.matched := by
    rw [same]
    exact congrArg (Option.map Value.seq) (Sequence.empty_append? kind.symm)
  have ordinary : Chain.followed tail (.item .append (part setting (chain links))) = none := by
    simp only [Chain.followed, part, backsOff, Option.map_none, ite_self]
  have run : (Chain.step (.item .append (part setting (chain links))) s s.noText).outcome =
      .returned (r, r.matched) := by
    simp only [Chain.step, if_pos live, part, traits]
    refine (Run.bind_outcome returned _).trans ?_
    simp only [good, Bool.not_true, Bool.false_eq_true, if_false, Fold.join, joined, Run.need,
      pure_bind]
    cases r
    obtain rfl := good
    rfl
  rw [Chain.follow_cons fun _ => ordinary]
  exact Run.bind_outcome run _

section Extended

variable {setting : Setting} {links : List (Link Parser)}
  (attempt : Chain.Attempt (parts setting links) s s.noText a text)
  (enclosed : Chain.Enclosed (parts setting links))
include attempt enclosed

/-- A parser at the end of a chain runs at the end of the first attempt, and ends the longer chain
unless it fails there. -/
theorem extend_outcome {parser : Parser}
    (hard : ¬ (Chain.follow [.item .append (part setting parser)] a text).outcome.Fails ∨
      Chain.Straight (parts setting links)) :
    (((chain links).extend (.item .append parser)).act setting s).outcome =
      (Chain.follow [.item .append (part setting parser)] a text >>= fun t =>
        pure (s.settle t)).outcome := by
  have split : parts setting (links ++ [.item .append parser]) =
      parts setting links ++ [.item .append (part setting parser)] := parts_append setting links _
  rw [extend, chain_act, split]
  exact Run.bind_outcome_congr (attempt.follow_append enclosed _ hard) fun _ _ => rfl

theorem extend_throws_ok (kind : SignalKind) (msg : Option String) (good : a.ok = true)
    (clean : a.lastGood = none) (matched : a.matched = text) :
    (((chain links).extend (.item .append (.throws kind msg .onFailure))).act setting s).outcome =
      .returned a := by
  have passes := follow_throws_ok setting kind msg good clean matched
  rw [extend_outcome attempt enclosed (.inl ?_), Run.bind_outcome passes,
    State.settle_of_clean good clean]
  · rfl
  · rintro ⟨u, ends, failed⟩
    obtain rfl := Outcome.returned.inj (passes.symm.trans ends)
    exact absurd good (by simp [failed])

theorem extend_throws_failed (kind : SignalKind) (msg : Option String) (failed : a.ok = false) :
    ∃ fault,
      (((chain links).extend (.item .append (.throws kind msg .onFailure))).act setting s).outcome =
        .raised fault ∧
      (-wordLimit ≤ a.pos → ∃ signal, fault = .signal signal ∧ signal.kind = kind ∧
        signal.msg = msg ∧ signal.state = some a) := by
  obtain ⟨fault, raised, signal⟩ := follow_throws_failed setting kind msg text failed
  refine ⟨fault, ?_, signal⟩
  rw [extend_outcome attempt enclosed (.inl ?_), Run.bind_outcome_raised raised]
  rintro ⟨u, ends, -⟩
  cases raised.symm.trans ends

/-- Behind a first attempt that succeeds, an oblivious parser at the end of a chain does what it
does behind the chain as a whole, unless it fails and there is a lookahead. -/
theorem extend_oblivious {parser : Parser} (live : s.ok = true)
    (returned : ((chain links).act setting s).outcome = .returned a) (good : a.ok = true)
    (matched : a.matched = text)
    (sequence : ∃ matched, a.matched = .seq matched ∧ matched.kind = s.source.kind)
    (mild : Chain.Straight (parts setting links) ∨
      ∀ u, ((chain [.item .append (chain links), .item .append (.oblivious parser)]).act setting
        s).outcome = .returned u → u.ok = true) :
    (((chain links).extend (.item .append (.oblivious parser))).act setting s).outcome =
      ((chain [.item .append (chain links), .item .append (.oblivious parser)]).act setting
        s).outcome := by
  obtain rfl := matched
  have last : ((chain [.item .append (chain links), .item .append (.oblivious parser)]).act setting
      s).outcome = (Chain.follow [.item .append (part setting (.oblivious parser))] a a.matched >>=
        fun t => pure (s.settle t)).outcome := by
    rw [chain_act]
    exact Run.bind_outcome_congr (follow_behind live returned good sequence) fun _ _ => rfl
  rw [last]
  refine extend_outcome attempt enclosed (mild.symm.imp_left ?_)
  rintro passes ⟨u, ends, failed⟩
  have settled := passes (s.settle u) (last.trans (Run.bind_outcome ends _))
  rw [State.settle_ok] at settled
  exact absurd settled (by simp [failed])

/-- Behind a first attempt that fails, an oblivious parser at the end of a chain starts over from
the last good state of that attempt. -/
theorem extend_oblivious_failed {parser : Parser} (failed : a.ok = false)
    (mild : Chain.Straight (parts setting links) ∨
      ∀ u, ((oblivious parser).act setting (a.lastGood.getD a)).outcome = .returned u →
        u.ok = true) :
    (((chain links).extend (.item .append (.oblivious parser))).act setting s).outcome =
      ((oblivious parser).act setting (a.lastGood.getD a) >>= fun u =>
        pure (s.settle u)).outcome := by
  have starts := follow_oblivious_failed setting parser text failed
  rw [← starts]
  refine extend_outcome attempt enclosed (mild.symm.imp_left ?_)
  rintro passes ⟨u, ends, lost⟩
  rw [starts] at ends
  exact absurd (passes u ends) (by simp [lost])

end Extended

/-- What a chain that returns comes to with a parser at its end, where the first attempt at it ends
in `a`. The chain fails only if `a` does. With a throw step on failure it returns the same if `a` is
a success, and otherwise raises a signal that carries `a`. With an oblivious parser it ends as if
that stood behind the chain as a whole, if `a` is a success and the parser does not fail after it;
if `a` has failed, the parser starts over from its last good state, unless it fails there. Without
lookaheads `a` is what the chain returns, but for the snapshot, and the parser may fail. -/
theorem chain_recovery {setting : Setting} {links : List (Link Parser)}
    (item : links.any Link.isItem = true) (enclosed : Chain.Enclosed (parts setting links))
    (wellFormed : s.WellFormed) (live : s.ok = true)
    (returned : ((chain links).act setting s).outcome = .returned r) :
    ∃ a text, Chain.Attempt (parts setting links) s s.noText a text ∧ (a.ok = true → r = a) ∧
      (Chain.Straight (parts setting links) → r = s.settle a) ∧
      (∀ kind msg,
        (a.ok = true → (((chain links).extend (.item .append (.throws kind msg .onFailure))).act
          setting s).outcome = .returned r) ∧
        (a.ok = false → ∃ fault,
          (((chain links).extend (.item .append (.throws kind msg .onFailure))).act
            setting s).outcome = .raised fault ∧
          (-wordLimit ≤ a.pos → ∃ signal, fault = .signal signal ∧ signal.kind = kind ∧
            signal.msg = msg ∧ signal.state = some a))) ∧
      (∀ parser, a.ok = true →
        (∃ matched, r.matched = .seq matched ∧ matched.kind = s.source.kind) →
        (Chain.Straight (parts setting links) ∨
          ∀ u, ((chain [.item .append (chain links), .item .append (.oblivious parser)]).act setting
            s).outcome = .returned u → u.ok = true) →
        (((chain links).extend (.item .append (.oblivious parser))).act setting s).outcome =
          ((chain [.item .append (chain links), .item .append (.oblivious parser)]).act setting
            s).outcome) ∧
      (∀ parser, a.ok = false →
        (Chain.Straight (parts setting links) ∨
          ∀ u, ((oblivious parser).act setting (a.lastGood.getD a)).outcome = .returned u →
            u.ok = true) →
        (((chain links).extend (.item .append (.oblivious parser))).act setting s).outcome =
          ((oblivious parser).act setting (a.lastGood.getD a) >>= fun u =>
            pure (s.settle u)).outcome) := by
  have whole := returned
  rw [chain_act] at whole
  obtain ⟨t, followed, settled⟩ := Run.bind_returned_iff.mp whole
  obtain rfl := Run.pure_returned_iff.mp settled
  obtain ⟨a, text, attempt⟩ := Chain.exists_attempt followed
  have lawful := parts_lawful setting links
  have clean := attempt.clean lawful fun _ => wellFormed.2.2.2.2
  have matched := attempt.matched lawful (.inl (by rwa [parts_any_isItem]))
  -- Without anything appended, the end of a chain is that of the first attempt.
  have ended : a.ok = true ∨ Chain.Straight (parts setting links) → t = a := by
    intro hard
    have same := attempt.follow_append enclosed [] (hard.imp_left ?_)
    · rw [List.append_nil, followed] at same
      exact Outcome.returned.inj same
    · rintro good ⟨u, ends, failed⟩
      obtain rfl := Run.pure_returned_iff.mp ends
      exact absurd good (by simp [failed])
  have settle : a.ok = true → s.settle t = a := fun good => by
    rw [ended (.inl good), State.settle_of_clean good (clean good)]
  refine ⟨a, text, attempt, settle, fun straight => by rw [ended (.inr straight)], ?_, ?_,
    fun parser failed => extend_oblivious_failed attempt enclosed failed⟩
  · refine fun kind msg => ⟨fun good => ?_, extend_throws_failed attempt enclosed kind msg⟩
    rw [settle good]
    exact extend_throws_ok attempt enclosed kind msg good (clean good) (matched good)
  · intro parser good sequence mild
    rw [settle good] at returned sequence
    exact extend_oblivious attempt enclosed live returned good (matched good) sequence mild

def upTo : List (Link Parser) :=
  [.item .append (.lookahead .reluctant .everything),
    .item .append (.literal (.value (.ofString "b")) true)]

theorem upTo_recovery :
    ∃ (s : State) (a : State) (text : Value) (fault : Fault), s.WellFormed ∧ a.ok = false ∧
      Chain.Attempt (parts (Grammar.empty.setting ⟨0, 0⟩) upTo) s s.noText a text ∧
      (((chain upTo).extend (.item .append (.throws (.root "ParseSignal") none .onFailure))).act
        (Grammar.empty.setting ⟨0, 0⟩) s).outcome = .raised fault := by
  have enclosed : Chain.Enclosed (parts (Grammar.empty.setting ⟨0, 0⟩) upTo) := by
    refine ⟨fun _ _ _ _ => rfl, fun fold part same look => ?_, trivial⟩
    cases same
    cases look
  have wellFormed : (State.start (.text "ac".toList.toArray) .null).WellFormed :=
    State.start_wellFormed _ _
  have returned : ((chain upTo).act (Grammar.empty.setting ⟨0, 0⟩)
        (.start (.text "ac".toList.toArray) .null)).outcome =
      .returned ⟨.text "ac".toList.toArray, 2, 2, .ofString "", .null, false,
        some ⟨.text "ac".toList.toArray, 2, 2, .ofString "ac", .null, true, none⟩⟩ := by
    cbv
  obtain ⟨a, text, attempt, same, -, throws, -, -⟩ :=
    chain_recovery rfl enclosed wellFormed rfl returned
  have failed : a.ok = false := by
    cases ok : a.ok with
    | false => rfl
    | true => exact absurd (same ok ▸ ok) (by decide)
  obtain ⟨fault, raised, -⟩ := (throws (.root "ParseSignal") none).2 failed
  exact ⟨_, a, text, fault, wellFormed, failed, attempt, raised⟩

/-! ### Where recovery comes before other trials -/

def endOn (parser : Parser) (text : String) : Outcome State :=
  (parser.act (Grammar.empty.setting ⟨0, 0⟩)
    (.start (.text text.toList.toArray) .null)).outcome

def upToOptional : List (Link Parser) :=
  [.item .append (.lookahead .greedy .everything),
    .item .append (.many 0 1 (.literal (.value (.ofString "b")) true))]

def numbered : List (Link Parser) :=
  [.item .append (.literal (.value (.ofString "a")) true),
    .item .discard (.morph ⟨none, none, fun _ => .ok (.int 5)⟩ .everything)]

def resumedInVain : List (Link Parser) :=
  [.item .append (.step ⟨none, none, fun s => .ok { s.failed with lastGood := some s.failed }⟩),
    .item .append (.oblivious (.outcome false))]

/-- A chain that succeeds may have a first trial that fails, and then a throw step or an oblivious
parser at its end runs after that; an oblivious parser that fails leads to further trials; it is not
reached behind a chain whose text joins no other; and the state that a signal carries may lack the
snapshot that the failed chain has. -/
theorem recovery_before_other_trials :
    (endOn (chain upTo) "ab" =
        .returned ⟨.text "ab".toList.toArray, 2, 2, .ofString "ab", .null, true, none⟩ ∧
      endOn ((chain upTo).extend (.item .append (.throws (.root "Missing") none .onFailure))) "ab" =
        .raised (.signal ⟨.root "Missing", none,
          some ⟨.text "ab".toList.toArray, 0, 2, .ofString "", .null, false,
            some ⟨.text "ab".toList.toArray, 0, 2, .ofString "", .null, true, none⟩⟩,
          ["At position 0 (line 1, column 1)\nab\n^"]⟩) ∧
      endOn ((chain upTo).extend (.item .append (.oblivious (.outcome true)))) "ab" =
        .returned ⟨.text "ab".toList.toArray, 0, 2, .ofString "", .null, true, none⟩ ∧
      endOn (chain [.item .append (chain upTo), .item .append (.oblivious (.outcome true))]) "ab" =
        .returned ⟨.text "ab".toList.toArray, 2, 2, .ofString "ab", .null, true, none⟩) ∧
    (endOn ((chain upToOptional).extend
          (.item .append (.oblivious (.literal (.value (.ofString "ab")) true)))) "ab" =
        .returned ⟨.text "ab".toList.toArray, 2, 2, .ofString "ab", .null, true, none⟩ ∧
      endOn (chain [.item .append (chain upToOptional),
          .item .append (.oblivious (.literal (.value (.ofString "ab")) true))]) "ab" =
        .returned ⟨.text "ab".toList.toArray, 2, 2, .ofString "", .null, false,
          some ⟨.text "ab".toList.toArray, 2, 2, .ofString "ab", .null, true, none⟩⟩) ∧
    (endOn ((chain numbered).extend (.item .append (.oblivious (.outcome false)))) "ab" =
        .returned ⟨.text "ab".toList.toArray, 2, 2, .ofString "", .null, false,
          some ⟨.text "ab".toList.toArray, 2, 2, .int 5, .null, true, none⟩⟩ ∧
      endOn (chain [.item .append (chain numbered), .item .append (.oblivious (.outcome false))])
          "ab" =
        .raised (.defect .mistyped)) ∧
    (endOn (chain resumedInVain) "" =
        .returned ⟨.text #[], 0, 0, .ofString "", .null, false,
          some ⟨.text #[], 0, 0, .ofString "", .null, true, none⟩⟩ ∧
      endOn ((chain resumedInVain).extend
          (.item .append (.throws (.root "Missing") none .onFailure))) "" =
        .raised (.signal ⟨.root "Missing", none,
          some ⟨.text #[], 0, 0, .ofString "", .null, false, none⟩,
          ["At position 0 (line 1, column 1)"]⟩)) := by
  refine ⟨⟨?_, ?_, ?_, ?_⟩, ⟨?_, ?_⟩, ⟨?_, ?_⟩, ?_, ?_⟩
  all_goals cbv

end Parser

end Catena
