import Mathlib
import Catena.Proofs.Additivity
import Catena.Proofs.Occurrence

/-!
# Runs of items, spelled out

A run of items scans the buffer up to an item that stops it and takes that one too. It can be spelled
with other parsers, as a repetition of single items and then any one item at most:
`Parser.itemRun_spelled`. The two call the test on the same items, one after the other, and leave the
same state; without the terminator in the text, that of the repetition is what is kept.
-/

namespace Catena

namespace State

def upTo (s : State) (stop : Int) : State :=
  { s with pos := stop, matched := .seq (s.source.slice s.pos stop) }

def past (s : State) (stop : Int) : Int :=
  if stop < s.limit then stop + 1 else stop

/-- What a run of items leaves that is stopped at an offset, if not by the end. -/
def stopped (s : State) (keepTerminator : Bool) (stop : Int) : State :=
  { s.upTo (s.past stop) with
    matched := .seq (s.source.slice s.pos (if keepTerminator then s.past stop else stop)) }

variable {s : State} {stop : Int}

/-- The texts of two stretches in a row make that of both. -/
theorem upTo_plus {mid : Int} (nonneg : 0 ≤ s.pos) (first : s.pos ≤ mid) (last : mid ≤ stop) :
    (s.upTo mid).matched.plus? ((s.upTo mid).upTo stop).matched = some (s.upTo stop).matched :=
  congrArg (Option.map Value.seq) (Sequence.slice_append?_slice s.source nonneg first last)

theorem upTo_wellFormed (formed : s.WellFormed) (first : s.pos ≤ stop) (last : stop ≤ s.limit) :
    (s.upTo stop).WellFormed :=
  ⟨Int.le_trans formed.1 first, last, formed.2.2.1, ⟨_, rfl, Sequence.kind_slice _ _ _⟩,
    formed.2.2.2.2⟩

theorem le_past (s : State) (stop : Int) : stop ≤ s.past stop := by
  unfold past
  split <;> omega

theorem past_le (last : stop ≤ s.limit) : s.past stop ≤ s.limit := by
  unfold past
  split <;> omega

theorem mismatch_settled (s : State) : ¬ (s.settle s.mismatch).ok = true := by
  rw [settle_ok]
  nofun

end State

namespace Action

variable {test : ItemFunction}

theorem scan_calls (stopsWhenTrue : Bool) (source : Buffer) (count : Nat) (pos : Int) :
    ∀ event ∈ (scan test stopsWhenTrue source count pos).events,
      ∃ item, event = .called test.label [.value item] := by
  have nothing : ∀ event ∈ ([] : List Event), ∃ item, event = .called test.label [.value item] :=
    fun _ member => absurd member List.not_mem_nil
  induction count generalizing pos with
  | zero => exact nothing
  | succ count ih =>
    rw [scan, Run.loop_succ, scanItem]
    refine Run.events_bind_all (Run.events_bind_all ?_ fun item _ => ?_) fun turn _ => ?_
    · cases source.item? pos <;> exact nothing
    · rw [Run.events_bind_pure, Callback.test_events]
      exact fun event member => ⟨item, List.mem_singleton.mp member⟩
    · cases turn with
      | yield next => exact ih next
      | done stop => exact nothing

end Action

namespace Parser

variable {setting : Setting} {test any : ItemFunction} {s t r : State} {pos : Int}

/-! ### Single items -/

theorem singleItem_atEnd (ended : t.limit ≤ t.pos) :
    (singleItem test).act setting t = pure (t.settle t.mismatch) := by
  have body : Action.singleItem test t = pure t.mismatch := if_pos (by simpa [State.atEnd] using ended)
  exact (congrArg (· >>= fun r => pure (t.settle r)) body).trans (pure_bind _ _)

theorem singleItem_within (live : t.Live) (within : t.pos < t.limit) :
    (singleItem test).act setting t =
      Run.need .outOfRange (t.source.item? t.pos) >>= fun item => test.test item >>= fun holds =>
        pure (if holds then t.upTo (t.pos + 1) else t.settle t.mismatch) := by
  have left : 1 ≤ t.remaining := by
    unfold State.remaining
    omega
  have taken : t.settle (t.advance 1) = t.upTo (t.pos + 1) := by
    rw [State.advance_eq left, State.settle_of_ok rfl, ← live.ok, ← live.clean]
    rfl
  have body : Action.singleItem test t =
      Run.need .outOfRange (t.source.item? t.pos) >>= fun item => test.test item >>= fun holds =>
        pure (if holds then t.advance 1 else t.mismatch) :=
    if_neg (by simpa [State.atEnd] using within)
  refine (congrArg (· >>= fun r => pure (t.settle r)) body).trans ?_
  simp only [bind_assoc, pure_bind, apply_ite t.settle, taken]

theorem singleItem_takes (live : t.Live)
    (run : ((singleItem test).act setting t).outcome = .returned r) (good : r.ok = true) :
    t.pos < t.limit ∧ r = t.upTo (t.pos + 1) := by
  by_cases within : t.pos < t.limit
  · rw [singleItem_within live within] at run
    obtain ⟨item, -, run⟩ := Run.bind_returned_iff.mp run
    obtain ⟨holds, -, run⟩ := Run.bind_returned_iff.mp run
    obtain rfl := Run.pure_returned_iff.mp run
    cases holds with
    | true => exact ⟨within, rfl⟩
    | false => exact absurd good (State.mismatch_settled t)
  · rw [singleItem_atEnd (Int.not_lt.mp within)] at run
    obtain rfl := Run.pure_returned_iff.mp run
    exact absurd good (State.mismatch_settled t)

theorem singleItem_regular (setting : Setting) (test : ItemFunction) :
    Action.Regular Eq ((singleItem test).act setting) := by
  refine ⟨textBlind_of_same fun _ _ => rfl, ?_, ?_, fun _ _ => State.settled_clean⟩
  · intro t r formed ok run good
    obtain ⟨within, rfl⟩ := singleItem_takes (formed.live ok) run good
    obtain ⟨first, order, last, -, -⟩ := formed
    have later : 0 ≤ t.pos + 1 := by omega
    exact ⟨⟨later, within, last⟩, _, rfl, Sequence.kind_slice _ _ _⟩
  · intro t r formed ok run good
    obtain ⟨within, rfl⟩ := singleItem_takes (formed.live ok) run good
    simp only [State.remaining, State.upTo]
    omega

/-! ### Repetitions of single items -/

structure Standing (s : State) (pos : Int) (rounds : Action.Rounds) : Prop where
  current : ∃ text, text.OfKind s.source.kind ∧ rounds.current = { s with pos, matched := text }
  text : rounds.matched = (s.upTo pos).matched
  first : s.pos ≤ pos
  last : pos ≤ s.limit

namespace Standing

variable {rounds : Action.Rounds}

theorem start (formed : s.WellFormed) : Standing s s.pos ⟨0, s.noText, s⟩ := by
  have nothing : s.noText = (s.upTo s.pos).matched :=
    congrArg Value.seq (Sequence.slice_self s.source s.pos).symm
  exact ⟨⟨s.matched, formed.2.2.2.1, (State.sameText rfl).symm⟩, nothing, Int.le_refl _, formed.2.1⟩

theorem place (h : Standing s pos rounds) : rounds.current.pos = pos ∧
    rounds.current.limit = s.limit ∧ rounds.current.source = s.source ∧ rounds.current.ok = s.ok := by
  obtain ⟨text, -, current⟩ := h.current
  rw [current]
  exact ⟨rfl, rfl, rfl, rfl⟩

theorem formed (h : Standing s pos rounds) (formed : s.WellFormed) : rounds.current.WellFormed := by
  obtain ⟨text, of, current⟩ := h.current
  rw [current]
  exact (State.upTo_wellFormed formed h.first h.last).withText of

theorem whole (h : Standing s pos rounds) : rounds.whole = s.upTo pos := by
  obtain ⟨text, -, current⟩ := h.current
  rw [Action.Rounds.whole, current, h.text]
  rfl

theorem next (h : Standing s pos rounds) {stop : Int} (further : pos ≤ stop)
    (within : stop ≤ s.limit) :
    Standing s stop (rounds.next (rounds.current.upTo stop) (s.upTo stop).matched) := by
  obtain ⟨text, -, current⟩ := h.current
  have of : (s.upTo stop).matched.OfKind s.source.kind := ⟨_, rfl, Sequence.kind_slice _ _ _⟩
  refine ⟨⟨_, of, ?_⟩, rfl, Int.le_trans h.first further, within⟩
  rw [Action.Rounds.next, current]
  rfl

theorem sum (h : Standing s pos rounds) (formed : s.WellFormed) {stop : Int}
    (further : pos ≤ stop) :
    rounds.matched.plus? (rounds.current.upTo stop).matched = some (s.upTo stop).matched := by
  obtain ⟨text, -, current⟩ := h.current
  rw [h.text, current]
  exact State.upTo_plus formed.1 h.first further

end Standing

theorem roundsUpTo_singleItem {rounds : Action.Rounds} (formed : s.WellFormed) (ok : s.ok = true)
    (stands : Standing s pos rounds) (left : Nat) :
    (Action.roundsUpTo ((singleItem test).act setting) left rounds >>= fun ended =>
        pure ended.whole) =
      Action.scan test false s.source (min left (s.limit - pos).toNat) pos >>= fun stop =>
        pure (s.upTo stop) := by
  induction left generalizing pos rounds with
  | zero =>
    rw [Nat.zero_min]
    exact congrArg pure stands.whole
  | succ left ih =>
    have last := stands.last
    have formed' := stands.formed formed
    obtain ⟨here, limit, source, ok'⟩ := stands.place
    rw [ok] at ok'
    rw [Action.roundsUpTo_succ (singleItem_regular setting test).shortens formed' ok']
    by_cases within : pos < s.limit
    · have further : pos ≤ pos + 1 := by omega
      have counts : min (left + 1) (s.limit - pos).toNat =
          min left (s.limit - (pos + 1)).toNat + 1 := by omega
      rw [singleItem_within (formed'.live ok') (by omega), here, source, counts, Action.scan,
        Run.loop_succ, Action.scanItem]
      simp only [bind_assoc, pure_bind]
      refine congrArg _ (funext fun item => congrArg _ (funext fun holds => ?_))
      cases holds with
      | true =>
        have good : (rounds.current.upTo (pos + 1)).ok = true := ok'
        rw [if_pos rfl, if_pos good, stands.sum formed further, Run.need, pure_bind]
        exact ih (stands.next further within)
      | false =>
        rw [if_neg Bool.false_ne_true, if_neg (State.mismatch_settled _)]
        exact congrArg pure stands.whole
    · have counts : min (left + 1) (s.limit - pos).toNat = 0 := by omega
      rw [singleItem_atEnd (by omega), counts, pure_bind, if_neg (State.mismatch_settled _)]
      obtain rfl : pos = s.limit := by omega
      exact congrArg pure stands.whole

theorem many_singleItem (setting : Setting) (test : ItemFunction) (formed : s.WellFormed)
    (ok : s.ok = true) (most : Int) :
    (many 0 most (singleItem test)).act setting s =
      Action.scan test false s.source (min (Action.allowance most s) s.remaining.toNat) s.pos >>=
        fun stop => pure (s.upTo stop) := by
  rw [many_act (singleItem_regular setting test) formed ok]
  exact roundsUpTo_singleItem formed ok (.start formed) _

theorem reaches_end (s : State) :
    min (Action.allowance (-1) s) s.remaining.toNat = s.remaining.toNat := by
  rw [Action.allowance_of_neg (by decide)]
  omega

/-! ### Runs of items -/

theorem scan_within (formed : s.WellFormed) {stop : Int}
    (run : (Action.scan test false s.source s.remaining.toNat s.pos).outcome = .returned stop) :
    s.pos ≤ stop ∧ stop ≤ s.limit := by
  obtain ⟨first, last⟩ := Action.scan_returned run
  have ordered := formed.2.1
  unfold State.remaining at last
  exact ⟨first, by omega⟩

theorem itemRun_act (formed : s.WellFormed) (ok : s.ok = true) (keepTerminator : Bool) :
    (itemRun test keepTerminator false).act setting s =
      Action.scan test false s.source s.remaining.toNat s.pos >>= fun stop =>
        pure (s.stopped keepTerminator stop) := by
  have body : (itemRun test keepTerminator false).act setting s =
      Action.itemRun test keepTerminator false s >>= fun r => pure (s.settle r) := rfl
  rw [body, Action.itemRun, bind_assoc]
  refine Run.bind_congr_returned fun stop run => ?_
  have bound := State.past_le (scan_within formed run).2
  rw [pure_bind]
  refine congrArg pure (Eq.trans (State.settle_of_clean rfl formed.2.2.2.2) ?_)
  change s.advanceWith (s.past stop - s.pos) _ = _
  rw [State.advanceWith, add_sub_cancel, Int.min_eq_left bound, State.stopped, State.upTo, ok]
  rfl

theorem itemRun_negated (setting : Setting) (test : ItemFunction) (keepTerminator : Bool)
    (s : State) :
    (itemRun test keepTerminator true).act setting s =
      (itemRun test.negated keepTerminator false).act setting s := by
  have same : Action.scanItem test true = Action.scanItem test.negated false := by
    funext source pos
    refine congrArg _ (funext fun item => ?_)
    rw [Callback.test_negated, bind_assoc]
    refine congrArg _ (funext fun holds => ?_)
    cases holds <;> rfl
  have body : Action.itemRun test keepTerminator true =
      Action.itemRun test.negated keepTerminator false := by
    unfold Action.itemRun Action.scan
    rw [same]
  exact congrArg (fun body => Action.settled body s) body

/-- A run of items as a chain: items that a test accepts, and then one that another test accepts, if
it is there. -/
def spelledRun (test any : ItemFunction) : Parser :=
  .chain [.item .append (many 0 (-1) (singleItem test)), .item .append (many 0 1 (singleItem any))]

/-- What follows a repetition of items takes one more, if there is one, and calls its test on no
other. -/
theorem anyItem_act (setting : Setting) (accepts : any.Tells fun _ => true)
    (formed : t.WellFormed) (ok : t.ok = true) :
    ∃ last : List Event, (last = [] ∨ ∃ item, last = [.called any.label [.value item]]) ∧
      (many 0 1 (singleItem any)).act setting t =
        ⟨last, .returned (t.upTo (t.past t.pos))⟩ := by
  rw [many_singleItem setting _ formed ok, Action.allowance_of_nonneg (by decide)]
  by_cases within : t.pos < t.limit
  · have one : min (1 : Int).toNat t.remaining.toNat = 1 := by
      unfold State.remaining
      omega
    have bound : t.pos < t.source.length := Int.lt_of_lt_of_le within formed.2.2.1
    obtain ⟨item, found⟩ := Sequence.item?_isSome t.source formed.1 bound
    refine ⟨_, .inr ⟨item, rfl⟩, ?_⟩
    rw [one, Action.scan, Run.loop_succ, Action.scanItem, found, Run.need, pure_bind,
      Callback.test_of_tells accepts, State.past, if_pos within]
    rfl
  · have none : min (1 : Int).toNat t.remaining.toNat = 0 := by
      unfold State.remaining
      omega
    refine ⟨[], .inl rfl, ?_⟩
    rw [none, State.past, if_neg within]
    rfl

/-- Behind the items that the test accepts, the chain that spells a run of items does what the run
does, and calls the other test once at most. -/
theorem spelledRun_act (setting : Setting) (test : ItemFunction) (accepts : any.Tells fun _ => true)
    (formed : s.WellFormed) (ok : s.ok = true) :
    ∃ behind : Int → Run State,
      (spelledRun test any).act setting s =
        Action.scan test false s.source s.remaining.toNat s.pos >>= behind ∧
      ∀ stop, s.pos ≤ stop → stop ≤ s.limit →
        (behind stop).outcome = .returned (s.stopped true stop) ∧
        ((behind stop).events = [] ∨
          ∃ item, (behind stop).events = [.called any.label [.value item]]) := by
  have links := repetitions_act (singleItem_regular setting test) (singleItem_regular setting any)
    formed ok (-1) 1
  rw [many_singleItem setting _ formed ok, reaches_end, bind_assoc] at links
  simp only [pure_bind] at links
  refine ⟨_, links, fun stop first last => ?_⟩
  have formed' := State.upTo_wellFormed formed first last
  obtain ⟨events, few, run⟩ := anyItem_act setting accepts formed' ok
  have joins : (Run.need (.ofSum (s.upTo stop).matched ((s.upTo stop).upTo (s.past stop)).matched)
          ((s.upTo stop).matched.plus? ((s.upTo stop).upTo (s.past stop)).matched) >>= fun joined =>
        pure { (s.upTo stop).upTo (s.past stop) with matched := joined }) =
      pure (s.stopped true stop) := by
    rw [State.upTo_plus formed.1 first (s.le_past stop)]
    rfl
  have place : (s.upTo stop).past (s.upTo stop).pos = s.past stop := rfl
  rw [run, Run.bind_returned, place, joins, Run.pure_eq]
  exact ⟨rfl, by simpa using few⟩

/-- A run of items is the chain of a repetition of single items and any one item at most. They end
alike, but for the terminator in the text if the run does not keep it: then the text is that of the
repetition. In both the test is called on the same items one after the other, and what the chain does
more is to call its other test, once at most. And a run that goes on until its test holds is one that
goes on while the negated test does. -/
theorem itemRun_spelled (setting : Setting) (test any : ItemFunction)
    (accepts : any.Tells fun _ => true) (formed : s.WellFormed) (ok : s.ok = true) :
    ((spelledRun test any).act setting s).outcome =
      ((itemRun test true false).act setting s).outcome ∧
    ((spelledRun test any).act setting s).outcome.Agree
      (fun whole r => ∃ taken,
        ((many 0 (-1) (singleItem test)).act setting s).outcome = .returned taken ∧
        r = { whole with matched := taken.matched })
      Eq ((itemRun test false false).act setting s).outcome ∧
    (∀ keepTerminator,
      (∀ event ∈ ((itemRun test keepTerminator false).act setting s).events,
        ∃ item, event = .called test.label [.value item]) ∧
      ∃ last : List Event, (last = [] ∨ ∃ item, last = [.called any.label [.value item]]) ∧
        ((spelledRun test any).act setting s).events =
          ((itemRun test keepTerminator false).act setting s).events ++ last) ∧
    ∀ keepTerminator, (itemRun test keepTerminator true).act setting s =
      (itemRun test.negated keepTerminator false).act setting s := by
  obtain ⟨behind, chain, next⟩ := spelledRun_act setting test accepts formed ok
  have taken := many_singleItem setting test formed ok (-1)
  rw [reaches_end] at taken
  refine ⟨?_, ?_, fun keepTerminator => ⟨?_, ?_⟩, fun keepTerminator => itemRun_negated ..⟩
  · rw [chain, itemRun_act formed ok]
    refine Run.bind_outcome_congr rfl fun stop run => ?_
    obtain ⟨first, last⟩ := scan_within formed run
    exact (next stop first last).1
  · rw [chain, itemRun_act formed ok, taken]
    have common := Run.Agree.refl (E := Eq)
      (Action.scan test false s.source s.remaining.toNat s.pos) fun _ _ => rfl
    refine common.outcome.bind ?_
    rintro stop _ run - rfl
    obtain ⟨first, last⟩ := scan_within formed run
    rw [(next stop first last).1]
    exact ⟨s.upTo stop, Run.bind_outcome run _, rfl⟩
  · rw [itemRun_act formed ok, Run.events_bind_pure]
    exact Action.scan_calls _ _ _ _
  · rw [chain, itemRun_act formed ok, Run.events_bind_pure]
    obtain ⟨last, few, events⟩ := Run.events_bind (fun last =>
      last = [] ∨ ∃ item, last = [Event.called any.label [.value item]]) behind
      (.inl rfl) fun stop run => (next stop (scan_within formed run).1 (scan_within formed run).2).2
    exact ⟨last, few, events⟩

def isSign : ItemFunction :=
  ⟨some "sign", some "sign", fun item => .ok (.bool (item.same (.ofString "a")))⟩

def isAny : ItemFunction :=
  ⟨some "any", some "any", fun _ => .ok (.int 1)⟩

/-- The item behind two signs is taken too, but is text only where the terminator is kept. -/
theorem signRun_spelled :
    ∃ s kept left taken : State, s.WellFormed ∧ s.ok = true ∧ kept.matched = .ofString "aab" ∧
      left = { kept with matched := taken.matched } ∧ taken.matched = .ofString "aa" ∧
      ((spelledRun isSign isAny).act (Grammar.empty.setting ⟨0, 0⟩) s).outcome = .returned kept ∧
      ((itemRun isSign true false).act (Grammar.empty.setting ⟨0, 0⟩) s).outcome = .returned kept ∧
      ((itemRun isSign false false).act (Grammar.empty.setting ⟨0, 0⟩) s).outcome = .returned left ∧
      ((many 0 (-1) (singleItem isSign)).act (Grammar.empty.setting ⟨0, 0⟩) s).outcome =
        .returned taken := by
  have formed := State.start_wellFormed (.text "aabc".toList.toArray) .null
  have kept : ((itemRun isSign true false).act (Grammar.empty.setting ⟨0, 0⟩)
        (.start (.text "aabc".toList.toArray) .null)).outcome =
      .returned ⟨.text "aabc".toList.toArray, 3, 4, .ofString "aab", .null, true, none⟩ := by
    cbv
  have left : ((itemRun isSign false false).act (Grammar.empty.setting ⟨0, 0⟩)
        (.start (.text "aabc".toList.toArray) .null)).outcome =
      .returned ⟨.text "aabc".toList.toArray, 3, 4, .ofString "aa", .null, true, none⟩ := by
    cbv
  obtain ⟨spelled, without, -⟩ := itemRun_spelled (Grammar.empty.setting ⟨0, 0⟩) isSign isAny
    (fun _ => ⟨_, rfl, rfl⟩) formed rfl
  rw [spelled, kept, left] at without
  obtain ⟨taken, run, same⟩ := without
  have text : taken.matched = .ofString "aa" := (congrArg State.matched same).symm
  exact ⟨_, _, _, taken, formed, rfl, rfl, same, text, spelled.trans kept, kept, left, run⟩

end Parser

end Catena
