import Mathlib
import Catena.Proofs.Kind
import Catena.Proofs.Likeness
import Catena.Proofs.Peg
import Catena.Proofs.Rounds

/-!
# Actions that recognize

What actions do to states beside what parsing expressions are evaluated to on the items left: a run
ends at the number of items that the evaluation gives, fails where it fails, and is cut off where it
is not finished. A repetition is followed round by round: `Action.round_recognizes` is the step.
-/

namespace Catena

/-! ### Runs beside evaluations -/

/-- A run is cut off where an evaluation is not finished, and returns what is related to its answer
otherwise. -/
def Outcome.Gives {α : Type} (R : α → Option Nat → Prop) (outcome : Outcome α) :
    Option (Option Nat) → Prop
  | some a => ∃ r, outcome = .returned r ∧ R r a
  | none => outcome = .exhausted

namespace Outcome.Gives

variable {α β : Type} {R : α → Option Nat → Prop} {S : β → Option Nat → Prop}
  {o : Option (Option Nat)}

theorem bind {x : Run α} {next : α → Run β} {f : Option Nat → Option (Option Nat)}
    (h : x.outcome.Gives R o)
    (go : ∀ r a, o = some a → R r a → (next r).outcome.Gives S (f a)) :
    (x >>= next).outcome.Gives S (o.bind f) := by
  cases o with
  | none =>
    obtain ⟨events, outcome⟩ := x
    obtain rfl : outcome = .exhausted := h
    rfl
  | some a =>
    obtain ⟨r, returned, related⟩ := h
    rw [Run.bind_outcome returned]
    exact go r a rfl related

theorem post {x : Run α} {f : α → β} {g : Option Nat → Option Nat} (h : x.outcome.Gives R o)
    (related : ∀ r a, R r a → S (f r) (g a)) :
    (x >>= fun r => pure (f r)).outcome.Gives S (o.map g) := by
  rw [Option.map_eq_bind]
  exact h.bind fun r a _ holds => ⟨f r, rfl, related r a holds⟩

theorem map {x : Run α} {T : α → Option Nat → Prop} {g : Option Nat → Option Nat}
    (h : x.outcome.Gives R o) (related : ∀ r a, R r a → T r (g a)) :
    x.outcome.Gives T (o.map g) := by
  have same := h.post (f := id) related
  rwa [show (x >>= fun r => pure (id r)) = x from bind_pure x] at same

theorem returned {r : β} {a : Option Nat} (related : S r a) :
    (pure r : Run β).outcome.Gives S (some a) :=
  ⟨r, rfl, related⟩

end Outcome.Gives

/-! ### Answers of states -/

namespace State

structure Poised (kind : Kind) (s : State) : Prop where
  ok : s.ok = true
  inside : s.window.Inside
  source : s.source.kind = kind
  text : s.matched.OfKind kind

def Answers (kind : Kind) (s r : State) : Option Nat → Prop
  | some n => n ≤ s.remaining ∧ r.window = s.window.skip n ∧ r.Poised kind
  | none => r.ok = false

variable {kind : Kind} {s t r : State} {a : Option Nat} {m n : Nat}

theorem Poised.noText (h : s.Poised kind) : s.noText.OfKind kind :=
  ⟨_, rfl, by rw [Sequence.kind_empty, h.source]⟩

theorem Poised.length (h : s.Poised kind) : (s.unconsumed.length : Int) = s.remaining :=
  Window.length_rest h.inside

theorem Poised.nonneg (h : s.Poised kind) : 0 ≤ s.remaining :=
  Window.remaining_nonneg h.inside

theorem Poised.put (h : s.Poised kind) {v : Value} (text : v.OfKind kind) :
    Poised kind { s with matched := v } :=
  ⟨h.ok, h.inside, h.source, text⟩

theorem remaining_of_skip {k : Int} (same : r.window = s.window.skip k) :
    r.remaining = s.remaining - k := by
  have pos : r.pos = s.pos + k := congrArg Window.pos same
  have limit : r.limit = s.limit := congrArg Window.limit same
  unfold remaining
  omega

theorem unconsumed_of_skip (h : s.Poised kind) (same : r.window = s.window.skip n) :
    r.unconsumed = s.unconsumed.behind n := by
  have left : s.window.remaining = s.unconsumed.length := h.length.symm
  show r.window.rest = _
  rw [same, Window.rest_skip h.inside (Int.natCast_nonneg n), left]
  rfl

theorem Answers.still (h : s.Poised kind) (window : r.window = s.window) (ok : r.ok = true)
    (text : r.matched.OfKind kind) : s.Answers kind r (some 0) := by
  have source : r.source = s.source := congrArg Window.source window
  refine ⟨h.nonneg, ?_, ok, window ▸ h.inside, by rw [source, h.source], text⟩
  rw [window]
  simp only [Window.skip, Nat.cast_zero, Int.add_zero]

theorem Answers.unique {b : Option Nat} (first : s.Answers kind r a)
    (second : s.Answers kind r b) : a = b := by
  cases a <;> cases b
  · rfl
  · cases first.symm.trans second.2.2.ok
  · cases second.symm.trans first.2.2.ok
  · have same := congrArg Window.pos (first.2.1.symm.trans second.2.1)
    simp only [Window.skip] at same
    exact congrArg some (by omega)

theorem Answers.pass (h : s.Poised kind) : s.Answers kind s.pass (some 0) :=
  .still h rfl rfl h.noText

/-- Items consumed after other ones are consumed. -/
theorem Answers.after (same : t.window = s.window.skip m)
    (h : t.Answers kind r a) : s.Answers kind r (a.map (m + ·)) := by
  cases a with
  | none => exact h
  | some n =>
    obtain ⟨more, window, poised⟩ := h
    rw [remaining_of_skip same] at more
    refine ⟨by push_cast; omega, ?_, poised⟩
    rw [window, same]
    simp only [Window.skip, Nat.cast_add, Int.add_assoc]

theorem Answers.advance (h : s.Poised kind) (bound : n ≤ s.remaining) :
    s.Answers kind (s.advance n) (some n) := by
  have window : (s.advance n).window = s.window.skip n := by
    rw [State.advance, Alike.window_advanceWith, Int.min_eq_left bound]
  refine ⟨bound, window, rfl, ?_, h.source, ?_⟩
  · rw [window]
    exact Window.inside_skip h.inside (Int.natCast_nonneg n) bound
  · exact ⟨_, rfl, by rw [Sequence.kind_slice, h.source]⟩

theorem Answers.settle (h : s.Answers kind r a) : s.Answers kind (s.settle r) a := by
  cases a with
  | none => exact (settle_ok s r).trans h
  | some n =>
    obtain ⟨bound, window, poised⟩ := h
    rw [settle_of_ok poised.ok]
    exact ⟨bound, window, poised.ok, poised.inside, poised.source, poised.text⟩

/-! ### Readings of what is left -/

/-- The next items are the first ones of what is left, if it holds so many. -/
theorem Poised.peek (h : s.Poised kind) (n : Nat) :
    s.peek n = if n ≤ s.unconsumed.length then some (s.unconsumed.slice 0 n) else none := by
  have length := h.length
  by_cases enough : n ≤ s.unconsumed.length
  · have bound : (n : Int) ≤ s.window.remaining := by
      show (n : Int) ≤ s.remaining
      omega
    have items : s.hasItems n = true := by
      refine decide_eq_true ?_
      unfold remaining at length
      omega
    have slice := Window.slice_eq h.inside (Int.le_refl 0) (Int.natCast_nonneg n) bound
    rw [Int.add_zero] at slice
    rw [if_pos enough, State.peek, if_pos items]
    exact congrArg some slice
  · have items : s.hasItems n = false := by
      refine decide_eq_false ?_
      unfold remaining at length
      omega
    rw [if_neg enough, State.peek, items]
    rfl

theorem Poised.atEnd (h : s.Poised kind) : s.atEnd = decide (s.unconsumed.length = 0) := by
  have length := h.length
  unfold remaining at length
  simp only [State.atEnd, decide_eq_decide]
  omega

theorem Poised.item? (h : s.Poised kind) (more : s.unconsumed.length ≠ 0) :
    ∃ v, s.source.item? s.pos = some v ∧ s.unconsumed.item? 0 = some v := by
  have length := h.length
  have bound : 0 < s.window.remaining := by
    show 0 < s.remaining
    omega
  have same := Window.item?_eq h.inside (Int.le_refl 0) bound
  rw [Int.add_zero] at same
  obtain ⟨v, first⟩ := Sequence.item?_isSome s.unconsumed (Int.le_refl 0) (by omega)
  exact ⟨v, same.trans first, first⟩

end State

/-! ### Actions beside evaluations -/

def Callback.accepts (test : ItemFunction) (v : Value) : Bool :=
  match test.apply v with
  | .ok answer => answer.isTrue
  | .error _ => false

/-- An action does to states of a kind what an evaluation does to the items left. -/
def Action.Recognizes (kind : Kind) (act : Action) (once : Buffer → Option (Option Nat)) : Prop :=
  ∀ s, s.Poised kind → (act s).outcome.Gives (s.Answers kind) (once s.unconsumed)

namespace Action

variable {kind : Kind} {act : Action} {once : Buffer → Option (Option Nat)}
  {call : Nat → Buffer → Option (Option Nat)} {e : Peg}

theorem Recognizes.settled (h : act.Recognizes kind once) :
    (Action.settled act).Recognizes kind once := by
  intro s poised
  have settled := (h s poised).post (S := s.Answers kind) (f := s.settle) (g := id)
    fun r a answers => answers.settle
  rwa [Option.map_id] at settled

theorem literal_recognizes {text : Plain} {n : Nat} (length : text.length? = some n) :
    (literal text true).Recognizes kind ((Peg.literal text).eval call) := by
  intro s poised
  have read := poised.peek n
  have left := poised.length
  simp only [literal, Peg.eval, Plain.opens, length, Run.need, pure_bind, Option.map_some,
    if_true]
  by_cases enough : n ≤ s.unconsumed.length
  · rw [if_pos enough] at read
    rw [read]
    by_cases same : text.isSame (s.unconsumed.slice 0 n) = true
    · simp only [same, enough, decide_true, Bool.and_self, if_true]
      exact .returned (.advance poised (by omega))
    · simp only [same, Bool.and_false, Bool.false_eq_true, if_false]
      exact .returned rfl
  · rw [if_neg enough] at read
    rw [read]
    simp only [enough, decide_false, Bool.false_and, Bool.false_eq_true, if_false]
    exact .returned rfl

theorem outcome_recognizes (ok : Bool) :
    (outcome ok).Recognizes kind ((if ok then Peg.empty else .fail).eval call) := by
  intro s poised
  cases ok with
  | true => exact .returned (.pass poised)
  | false => exact .returned rfl

theorem singleItem_recognizes {test : ItemFunction}
    (total : ∀ v, ∃ answer, test.apply v = .ok answer) :
    (singleItem test).Recognizes kind ((Peg.item test.accepts).eval call) := by
  intro s poised
  simp only [singleItem, Peg.eval, poised.atEnd, decide_eq_true_eq]
  by_cases bare : s.unconsumed.length = 0
  · have none : s.unconsumed.item? 0 = none := by
      cases first : s.unconsumed.item? 0 with
      | none => rfl
      | some v => exact absurd (Sequence.length_pos_of_item? first) (by omega)
    simp only [bare, none, if_true, Option.any_none, Bool.false_eq_true, if_false]
    exact .returned rfl
  · obtain ⟨v, here, first⟩ := poised.item? bare
    obtain ⟨answer, applied⟩ := total v
    have tested : (test.test v).outcome = .returned answer.isTrue := by
      rw [Callback.test, Run.bind_outcome (Callback.call_returned_iff.mpr applied)]
      rfl
    have left := poised.length
    simp only [bare, here, first, if_false, Run.need, pure_bind, Option.any_some,
      Callback.accepts, applied]
    show Outcome.Gives _ (Run.outcome (_ >>= _)) _
    rw [Run.bind_outcome tested]
    cases answer.isTrue with
    | true => exact .returned (.advance poised (by push_cast; omega))
    | false => exact .returned rfl

theorem everything_recognizes : everything.Recognizes kind (Peg.everything.eval call) := by
  intro s poised
  have left := poised.length
  rw [everything, ← left]
  exact .returned (.advance poised (by omega))

theorem endOfInput_recognizes : endOfInput.Recognizes kind (Peg.ending.eval call) := by
  intro s poised
  simp only [endOfInput, Peg.eval, poised.atEnd, decide_eq_true_eq]
  by_cases bare : s.unconsumed.length = 0
  · simp only [bare, if_true]
    exact .returned (.pass poised)
  · simp only [bare, if_false]
    exact .returned rfl

theorem noConsume_recognizes (h : act.Recognizes kind (e.eval call)) :
    (noConsume act).Recognizes kind ((Peg.ahead e).eval call) := by
  intro s poised
  refine (h s poised).post fun r a answers => ?_
  cases a with
  | none => exact answers
  | some n => exact .still poised rfl answers.2.2.ok answers.2.2.text

theorem firstOf_recognizes {acts : List Action} {es : List Peg}
    (first : act.Recognizes kind (e.eval call))
    (others : List.Forall₂ (fun act e => act.Recognizes kind (e.eval call)) acts es) :
    (firstOf act acts).Recognizes kind ((Peg.choices e es).eval call) := by
  induction others generalizing act e with
  | nil => exact first
  | @cons next f acts es second others ih =>
    intro s poised
    simp only [firstOf, Peg.choices, Peg.eval_choice]
    refine (first s poised).bind fun r a _ answers => ?_
    cases a with
    | none =>
      have failed : r.ok = false := answers
      simp only [failed, Bool.false_eq_true, if_false]
      exact ih second s poised
    | some n =>
      simp only [answers.2.2.ok, if_true]
      exact .returned answers

/-! ### Repetition -/

variable {body : Action} {proceed : State → Nat → Run Bool} {rounds : Rounds} {s : State}

def Gained (kind : Kind) (rounds last : Rounds) (n : Nat) : Prop :=
  rounds.current.Answers kind last.current (some n) ∧ last.matched.OfKind kind

/-- One more round succeeds and ends the repetition only if it recognizes nothing, or it fails and
leaves no trace. -/
def Turns (kind : Kind) (rounds : Rounds) (turn : ForInStep Rounds) : Option Nat → Prop
  | none => turn = .done rounds
  | some n => ∃ last, turn = (if n = 0 then .done last else .yield last) ∧
      last.count = rounds.count + 1 ∧ Gained kind rounds last n

def Ends (kind : Kind) (once : Buffer → Option (Option Nat)) (rounds last : Rounds) :
    Option Nat → Prop
  | none => False
  | some n => Gained kind rounds last n ∧ rounds.count ≤ last.count ∧
      (last.count = rounds.count ↔ once rounds.current.unconsumed = some none)

theorem round_recognizes (h : body.Recognizes kind once) (poised : rounds.current.Poised kind)
    (text : rounds.matched.OfKind kind) :
    (round body (fun _ _ => pure true) rounds).outcome.Gives (Turns kind rounds)
      (once rounds.current.unconsumed) := by
  rw [← Option.bind_fun_some (once rounds.current.unconsumed)]
  refine (h rounds.current poised).bind fun r a _ answers => ?_
  cases a with
  | none =>
    have failed : r.ok = false := answers
    simp only [failed, Bool.not_false, if_true]
    exact .returned rfl
  | some n =>
    obtain ⟨bound, window, after⟩ := answers
    obtain ⟨joined, sum, text'⟩ := text.plus after.text
    have left := State.remaining_of_skip window
    have gained : Gained kind rounds (rounds.next r joined) n :=
      ⟨⟨bound, window, after.put text'⟩, text'⟩
    have live : (!r.ok) = false := by rw [after.ok, Bool.not_true]
    simp only [live, Bool.false_eq_true, if_false, sum, Run.need, pure_bind, Bool.true_and, left]
    by_cases stalls : n = 0
    · have same : (rounds.current.remaining - n != rounds.current.remaining) = false := by
        simp only [stalls, Nat.cast_zero, Int.sub_zero, bne_self_eq_false]
      simp only [same, Bool.false_eq_true, if_false]
      exact .returned ⟨rounds.next r joined, by rw [if_pos stalls]; rfl, rfl, gained⟩
    · have less : (rounds.current.remaining - n != rounds.current.remaining) = true := by
        refine bne_iff_ne.mpr ?_
        omega
      simp only [less, if_true]
      exact .returned ⟨rounds.next r joined, by rw [if_neg stalls]; rfl, rfl, gained⟩

theorem rounds_recognize (h : body.Recognizes kind once) (poised : rounds.current.Poised kind)
    (text : rounds.matched.OfKind kind) (left : Nat) :
    (repeatRounds body (fun _ _ => pure true) (fun _ => Run.exhausted) left rounds).outcome.Gives
      (Ends kind once rounds) (Peg.rounds once left rounds.current.unconsumed) := by
  -- Induction on the rounds left: one that goes on has recognized something, and the others start
  -- behind it.
  induction left generalizing rounds with
  | zero => rfl
  | succ left ih =>
    rw [repeatRounds, Run.loop_succ, Peg.rounds_succ]
    refine (round_recognizes h poised text).bind fun turn a here turns => ?_
    cases a with
    | none =>
      obtain rfl := turns
      refine .returned ⟨⟨.still poised rfl poised.ok poised.text, text⟩, Nat.le_refl _, ?_⟩
      exact iff_of_true rfl here
    | some n =>
      obtain ⟨last, rfl, more, answers, text'⟩ := turns
      have succeeded : once rounds.current.unconsumed ≠ some none := by
        rw [here]
        exact nofun
      cases n with
      | zero =>
        refine .returned ⟨⟨answers, text'⟩, by omega, ?_⟩
        exact iff_of_false (by omega) succeeded
      | succ n =>
        simp only [Nat.add_one_ne_zero, if_false, Run.goOn]
        rw [← State.unconsumed_of_skip poised answers.2.1]
        refine (ih answers.2.2 text').map fun last a ends => ?_
        cases a with
        | none => exact ends
        | some m =>
          obtain ⟨⟨later, text''⟩, count, -⟩ := ends
          exact ⟨⟨.after answers.2.1 later, text''⟩, by omega, iff_of_false (by omega) succeeded⟩

/-- An open repetition has rounds enough, whatever else is granted to it. -/
theorem repeatOpen_recognizes (h : body.Recognizes kind (e.eval call))
    (bounded : ∀ w n, e.eval call w = some (some n) → n ≤ w.length) (poised : s.Poised kind)
    (patience : Nat) :
    (repeatOpen patience body (fun _ _ => pure true) s).outcome.Gives
      (Ends kind (e.eval call) ⟨0, s.noText, s⟩) ((Peg.star e).eval call s.unconsumed) := by
  have left := poised.length
  have enough : Peg.rounds (e.eval call) (s.unconsumed.length + 1) s.unconsumed =
      Peg.rounds (e.eval call) (s.remaining.toNat + 1 + patience) s.unconsumed :=
    Peg.rounds_enough bounded (by omega) (by omega)
  rw [Peg.eval, enough]
  exact rounds_recognize h poised poised.noText _

theorem Ends.answers {last : Rounds} {n : Nat}
    (h : Ends kind once ⟨0, s.noText, s⟩ last (some n)) :
    s.Answers kind { last.current with matched := last.matched, ok := true } (some n) := by
  obtain ⟨⟨⟨bound, window, poised⟩, text⟩, -⟩ := h
  exact ⟨bound, window, rfl, poised.inside, poised.source, text⟩

/-- Repetitions that need no round succeed. -/
theorem many_of_ends {ended : Run Rounds} {o : Option (Option Nat)}
    (h : ended.outcome.Gives (Ends kind once ⟨0, s.noText, s⟩) o) :
    (ended >>= fun rounds => pure { rounds.current with
      matched := rounds.matched, ok := (0 : Int) ≤ rounds.count }).outcome.Gives
        (s.Answers kind) o := by
  have answers := h.post (S := s.Answers kind) (g := id) (f := fun rounds => { rounds.current with
    matched := rounds.matched, ok := (0 : Int) ≤ rounds.count }) fun last a ends => ?_
  · rwa [Option.map_id] at answers
  · cases a with
    | none => exact ends.elim
    | some n =>
      have enough : decide ((0 : Int) ≤ last.count) = true := decide_eq_true (by omega)
      rw [enough]
      exact ends.answers

theorem star_recognizes (h : body.Recognizes kind (e.eval call))
    (bounded : ∀ w n, e.eval call w = some (some n) → n ≤ w.length) (patience : Nat) {most : Int}
    (unbounded : most < 0) :
    (many patience 0 most body).Recognizes kind ((Peg.star e).eval call) := by
  intro s poised
  simp only [many, if_pos unbounded]
  exact many_of_ends (repeatOpen_recognizes h bounded poised patience)

theorem plus_recognizes (h : body.Recognizes kind (e.eval call))
    (bounded : ∀ w n, e.eval call w = some (some n) → n ≤ w.length) (patience : Nat) {most : Int}
    (unbounded : most < 0) :
    (many patience 1 most body).Recognizes kind ((Peg.plus e).eval call) := by
  intro s poised
  simp only [many, if_pos unbounded]
  rw [Peg.eval_plus bounded]
  refine (repeatOpen_recognizes h bounded poised patience).post fun last a ends => ?_
  cases a with
  | none => exact ends.elim
  | some n =>
    have counted : last.count = 0 ↔ e.eval call s.unconsumed = some none := ends.2.2
    by_cases failed : e.eval call s.unconsumed = some none
    · rw [if_pos failed]
      have none : last.count = 0 := counted.mpr failed
      exact decide_eq_false (by omega)
    · rw [if_neg failed]
      have some : last.count ≠ 0 := fun zero => failed (counted.mp zero)
      have enough : decide ((1 : Int) ≤ last.count) = true := decide_eq_true (by omega)
      rw [enough]
      exact ends.answers

theorem option_recognizes (h : body.Recognizes kind (e.eval call)) (patience : Nat) :
    (many patience 0 1 body).Recognizes kind ((Peg.option e).eval call) := by
  intro s poised
  simp only [many, if_neg (show ¬ (1 : Int) < 0 by omega)]
  have first : (round body (fun _ _ => pure true) ⟨0, s.noText, s⟩).outcome.Gives
      (Turns kind ⟨0, s.noText, s⟩) (e.eval call s.unconsumed) :=
    round_recognizes h poised poised.noText
  have ended : (repeatRounds body (fun _ _ => pure true) pure 1 ⟨0, s.noText, s⟩).outcome.Gives
      (Ends kind (e.eval call) ⟨0, s.noText, s⟩) ((Peg.option e).eval call s.unconsumed) := by
    rw [repeatRounds, Run.loop_succ, Peg.option, Peg.eval_choice]
    refine first.bind fun turn a here turns => ?_
    cases a with
    | none =>
      obtain rfl := turns
      exact .returned ⟨⟨.still poised rfl poised.ok poised.text, poised.noText⟩, Nat.le_refl _,
        iff_of_true rfl here⟩
    | some n =>
      obtain ⟨last, rfl, more, gained⟩ := turns
      have same : Run.goOn (Run.loop (round body fun _ _ => pure true) pure 0)
          (if n = 0 then .done last else .yield last) = pure last := by
        split <;> rfl
      rw [same]
      refine .returned ⟨gained, by omega, iff_of_false (by omega) ?_⟩
      rw [here]
      exact nofun
  exact many_of_ends ended

end Action

end Catena
