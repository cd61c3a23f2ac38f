import Mathlib
import Catena.Proofs.Laps

/-!
# Bounds of repetitions

A repetition goes on until a test of its rounds says no, or until a bound on their number is
reached. `Parser.repeated_bounded`: a test for an index below a number ends it where a bound of one
round more does, a test that always holds is an open bound, and a test against which a repetition
goes on may as well be negated.
-/

namespace Catena

namespace Callback

variable {α : Type}

def Tells (test : Callback α Value) (truth : α → Bool) : Prop :=
  ∀ a, ∃ v, test.apply a = .ok v ∧ v.isTrue = truth a

def negated (test : Callback α Value) : Callback α Value :=
  { test with apply := fun a => (test.apply a).map fun v => .bool !v.isTrue }

variable [Listed α] {test : Callback α Value} {truth : α → Bool}

theorem test_of_tells (tells : test.Tells truth) (a : α) :
    test.test a = ⟨[.called test.label (Listed.arguments a)], .returned (truth a)⟩ := by
  obtain ⟨v, answer, holds⟩ := tells a
  rw [← holds]
  simp only [Callback.test, call, answer, Run.log, Run.bind_returned, Run.pure_eq, List.append_nil]

theorem test_negated (test : Callback α Value) (a : α) :
    test.negated.test a = test.test a >>= fun holds => pure !holds := by
  simp only [Callback.test, call, negated, bind_assoc, pure_bind]
  refine congrArg _ (funext fun _ => ?_)
  cases test.apply a with
  | ok v => simp only [Except.map, pure_bind, Value.isTrue]
  | error complaint => rfl

end Callback

namespace Action

variable {body : Action} {rounds : Rounds} {s : State}

/-! ### Rounds from their results -/

/-- Goes on from the result of a round that was run where a repetition stands: with more rounds, if
they are wanted and the result has changed how much is left. -/
def Rounds.after (rounds : Rounds) (wanted : Bool) (more : Rounds → Run Rounds) (result : State) :
    Run Rounds :=
  if result.ok then do
    let matched ← Run.need (.ofSum rounds.matched result.matched)
      (rounds.matched.plus? result.matched)
    if wanted && result.remaining != rounds.current.remaining then more (rounds.next result matched)
    else pure (rounds.next result matched)
  else pure rounds

theorem repeatRounds_succ (wanted : Nat → Bool) (spent : Rounds → Run Rounds) (left : Nat) :
    repeatRounds body (fun _ index => pure (wanted index)) spent (left + 1) rounds =
      body rounds.current >>= rounds.after (wanted rounds.count)
        (repeatRounds body (fun _ index => pure (wanted index)) spent left) := by
  unfold repeatRounds
  rw [Run.loop_succ, round, bind_assoc]
  refine congrArg _ (funext fun result => ?_)
  by_cases good : result.ok = true
  · rw [Rounds.after, if_pos good, if_neg (by simp [good]), bind_assoc]
    refine congrArg _ (funext fun matched => ?_)
    rw [pure_bind]
    split <;> exact pure_bind _ _
  · rw [Rounds.after, if_neg good, if_pos (by simpa using good)]
    exact pure_bind _ _

/-- What is asked after a round matters only for how the asking ends. -/
theorem repeatRounds_asked {proceed proceed' : State → Nat → Run Bool}
    (same : ∀ r index, (proceed r index).outcome = (proceed' r index).outcome)
    (spent : Rounds → Run Rounds) (left : Nat) (rounds : Rounds) :
    (repeatRounds body proceed spent left rounds).outcome =
      (repeatRounds body proceed' spent left rounds).outcome := by
  refine Run.loop_outcome_congr (fun rounds => ?_) left rounds
  refine Run.bind_outcome_congr rfl fun r _ => ?_
  split
  · rfl
  · refine Run.bind_outcome_congr rfl fun matched _ => ?_
    exact Run.bind_outcome_congr (same r rounds.count) fun _ _ => rfl

/-- A repetition while the index is below a number makes as many rounds as it would with one more
for a bound: after the last one nothing is wanted, and after those before it the bound is not
reached. -/
theorem repeatRounds_below {limit bound left : Nat} (place : rounds.count + bound = limit)
    (ends : bound < left ∨ (repeatRounds body (fun _ index => pure (decide (index < limit)))
      (fun _ => Run.exhausted) left rounds).outcome ≠ .exhausted) :
    (repeatRounds body (fun _ index => pure (decide (index < limit))) (fun _ => Run.exhausted) left
        rounds).outcome =
      (repeatRounds body (fun _ _ => pure true) pure (bound + 1) rounds).outcome := by
  induction left generalizing bound rounds with
  | zero => exact absurd rfl (ends.resolve_left (Nat.not_lt_zero bound))
  | succ left ih =>
    rw [repeatRounds_succ] at ends ⊢
    rw [repeatRounds_succ fun _ => true]
    refine Run.bind_outcome_congr rfl fun r run => ?_
    rw [Run.bind_outcome run] at ends
    unfold Rounds.after at ends ⊢
    cases good : r.ok with
    | false => rfl
    | true =>
      simp only [good, if_true] at ends ⊢
      refine Run.bind_outcome_congr rfl fun matched sum => ?_
      rw [Run.bind_outcome sum] at ends
      by_cases moves : r.remaining = rounds.current.remaining
      · simp only [moves, bne_self_eq_false, Bool.and_false, Bool.false_eq_true, if_false]
      · simp only [bne_iff_ne.mpr moves, Bool.and_true, if_true, decide_eq_true_eq] at ends ⊢
        cases bound with
        | zero =>
          rw [if_neg (by omega)]
          rfl
        | succ bound =>
          rw [if_pos (by omega)] at ends ⊢
          have next : (rounds.next r matched).count + bound = limit := by
            simp only [Rounds.next]
            omega
          exact ih next (ends.imp_left Nat.lt_of_succ_lt_succ)

/-! ### Repetitions -/

theorem repeated_negated (patience : Nat) (test : RoundFunction) (body : Action) :
    repeated patience test true body = repeated patience test.negated false body := by
  funext s
  have same : (fun (result : State) (index : Nat) => do
        return (← test.test (result.value, result.matched, index)) != true) =
      fun (result : State) (index : Nat) => do
        return (← test.negated.test (result.value, result.matched, index)) != false := by
    funext result index
    rw [Callback.test_negated, bind_assoc]
    refine congrArg _ (funext fun holds => ?_)
    cases holds <;> rfl
  unfold repeated
  rw [same]

theorem repeated_outcome {test : RoundFunction} (wanted : Nat → Bool)
    (tells : test.Tells fun a => wanted a.2.2) (patience : Nat) (body : Action) (s : State) :
    (repeated patience test false body s).outcome =
      (repeatRounds body (fun _ index => pure (wanted index)) (fun _ => Run.exhausted)
          (s.remaining.toNat + 1 + patience) ⟨0, s.noText, s⟩ >>= fun rounds =>
        pure { rounds.current with matched := rounds.matched, ok := true }).outcome := by
  refine Run.bind_outcome_congr ?_ fun _ _ => rfl
  refine repeatRounds_asked (fun r index => ?_) _ _ _
  rw [Callback.test_of_tells tells]
  exact congrArg Outcome.returned (Bool.bne_false _)

theorem many_below (patience : Nat) (least : Int) (bound : Nat) (body : Action) (s : State) :
    many patience least bound body s =
      repeatRounds body (fun _ _ => pure true) pure bound ⟨0, s.noText, s⟩ >>= fun rounds =>
        pure { rounds.current with matched := rounds.matched, ok := least ≤ rounds.count } := by
  unfold many
  rw [if_neg (by omega), Int.toNat_natCast]

theorem many_open (patience : Nat) (least : Int) {most : Int} (isOpen : most < 0) (body : Action)
    (s : State) :
    many patience least most body s =
      repeatRounds body (fun _ _ => pure true) (fun _ => Run.exhausted)
          (s.remaining.toNat + 1 + patience) ⟨0, s.noText, s⟩ >>= fun rounds =>
        pure { rounds.current with matched := rounds.matched, ok := least ≤ rounds.count } := by
  unfold many
  rw [if_pos isOpen]
  rfl

/-- Without a least number of rounds a repetition always succeeds. -/
theorem ok_of_no_least (rounds : Rounds) :
    ({ rounds.current with matched := rounds.matched, ok := (0 : Int) ≤ rounds.count } : State) =
      { rounds.current with matched := rounds.matched, ok := true } := by
  rw [decide_eq_true (Int.natCast_nonneg rounds.count)]

end Action

namespace Parser

/-- Repetitions with a test and with a bound end alike, whatever the parser does: one that goes on
while the index is below a number, and ends, like one with a bound of one round more; one whose test
always holds, like one without a bound. And a test that ends a repetition where it holds is a negated
one that ends it where it does not. -/
theorem repeated_bounded (setting : Setting) (parser : Parser) (s : State) (test : RoundFunction) :
    (∀ limit : Nat, (test.Tells fun a => decide (a.2.2 < limit)) →
      (limit ≤ s.remaining.toNat + setting.patience ∨
        ((repeated test false parser).act setting s).outcome ≠ .exhausted) →
      ((repeated test false parser).act setting s).outcome =
        ((many 0 (limit + 1) parser).act setting s).outcome) ∧
    ((test.Tells fun _ => true) → ∀ most < 0,
      ((repeated test false parser).act setting s).outcome =
        ((many 0 most parser).act setting s).outcome) ∧
    (repeated test true parser).act setting s =
      (repeated test.negated false parser).act setting s := by
  refine ⟨fun limit tells ends => ?_, fun tells most isOpen => ?_, ?_⟩
  · have loops := Action.repeated_outcome (fun index => decide (index < limit)) tells
      setting.patience (parser.act setting) s
    have place : (⟨0, s.noText, s⟩ : Action.Rounds).count + limit = limit := Nat.zero_add limit
    refine Run.bind_outcome_congr (loops.trans ?_) fun _ _ => rfl
    refine .trans ?_ (congrArg Run.outcome (Action.many_below _ 0 (limit + 1) _ s).symm)
    refine Run.bind_outcome_congr (Action.repeatRounds_below place ?_) fun rounds _ => ?_
    · refine ends.imp (by omega) fun ends cutOff => ends ?_
      exact Run.bind_outcome_exhausted (loops.trans (Run.bind_outcome_exhausted cutOff _)) _
    · rw [Action.ok_of_no_least]
  · refine Run.bind_outcome_congr ?_ fun _ _ => rfl
    refine (Action.repeated_outcome (fun _ => true) tells _ _ s).trans ?_
    refine .trans ?_ (congrArg Run.outcome (Action.many_open _ 0 isOpen _ s).symm)
    refine Run.bind_outcome_congr rfl fun rounds _ => ?_
    rw [Action.ok_of_no_least]
  · exact congrArg (fun body => Action.settled body s)
      (Action.repeated_negated setting.patience test (parser.act setting))

def indexBelow (limit : Nat) : RoundFunction :=
  ⟨some "below", some "below", fun (_, _, index) => .ok (.bool (index < limit))⟩

theorem indexBelow_tells (limit : Nat) :
    (indexBelow limit).Tells fun a => decide (a.2.2 < limit) :=
  fun _ => ⟨_, rfl, rfl⟩

def alwaysOne : RoundFunction :=
  ⟨some "one", some "one", fun _ => .ok (.int 1)⟩

theorem alwaysOne_tells : alwaysOne.Tells fun _ => true :=
  fun _ => ⟨_, rfl, rfl⟩

/-- Of three signs, two are taken while the index is below one, and all without a bound. -/
theorem signs_bounded :
    ∃ s two three : State, s.remaining = 4 ∧ two.matched = .ofString "aa" ∧
      three.matched = .ofString "aaa" ∧
      ((repeated (indexBelow 1) false sign).act (Grammar.empty.setting ⟨0, 0⟩) s).outcome =
        .returned two ∧
      ((many 0 2 sign).act (Grammar.empty.setting ⟨0, 0⟩) s).outcome = .returned two ∧
      ((repeated alwaysOne false sign).act (Grammar.empty.setting ⟨0, 0⟩) s).outcome =
        .returned three ∧
      ((many 0 (-1) sign).act (Grammar.empty.setting ⟨0, 0⟩) s).outcome = .returned three ∧
      (repeated (indexBelow 1) true sign).act (Grammar.empty.setting ⟨0, 0⟩) s =
        (repeated (indexBelow 1).negated false sign).act (Grammar.empty.setting ⟨0, 0⟩) s := by
  have two : ((repeated (indexBelow 1) false sign).act (Grammar.empty.setting ⟨0, 0⟩)
        (.start (.text "aaab".toList.toArray) .null)).outcome =
      .returned ⟨.text "aaab".toList.toArray, 2, 4, .ofString "aa", .null, true, none⟩ := by
    cbv
  have three : ((repeated alwaysOne false sign).act (Grammar.empty.setting ⟨0, 0⟩)
        (.start (.text "aaab".toList.toArray) .null)).outcome =
      .returned ⟨.text "aaab".toList.toArray, 3, 4, .ofString "aaa", .null, true, none⟩ := by
    cbv
  obtain ⟨below, -, negated⟩ := repeated_bounded (Grammar.empty.setting ⟨0, 0⟩) sign
    (.start (.text "aaab".toList.toArray) .null) (indexBelow 1)
  obtain ⟨-, always, -⟩ := repeated_bounded (Grammar.empty.setting ⟨0, 0⟩) sign
    (.start (.text "aaab".toList.toArray) .null) alwaysOne
  have bounded := below 1 (indexBelow_tells 1) (.inl (by decide))
  have unbounded := always alwaysOne_tells (-1) (by decide)
  exact ⟨_, _, _, rfl, rfl, rfl, two, bounded ▸ two, three, unbounded ▸ three, negated⟩

end Parser

end Catena
