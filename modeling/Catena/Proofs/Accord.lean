import Catena.Proofs.Agreement
import Catena.Proofs.Bond

/-!
# Accords between runs

What is kept between two runs side by side whose built values need not be the same and which need
not make the same calls. Some faults excuse a run: once it ends in one of them, nothing is asked of
the other. What an accord asks of the functions given to parsers is asked of each where it is
called, so that the faults which end both runs can be told to come from somewhere.
-/

namespace Catena

/-- What two runs side by side are to keep, in a family. -/
structure Accord (ι : Type) where
  /-- Between the states that the runs come to. -/
  state : ι → State → State → Prop
  /-- Of the texts that both match. -/
  text : Value → Prop
  /-- Between the values that they build. -/
  value : ι → Value → Value → Prop
  /-- Between the faults that end both. -/
  fault : Fault → Fault → Prop
  /-- Of a fault that excuses the run which ends in it. -/
  excused : Fault → Prop

variable {ι : Type} {A : Accord ι}

theorem Outcome.Agree.ends {α β : Type} {R : α → β → Prop} {E : Fault → Fault → Prop}
    {x : Outcome α} {y : Outcome β} (h : x.Agree R E y) :
    (∃ a b, x = .returned a ∧ y = .returned b ∧ R a b) ∨
    (∃ fault fault', x = .raised fault ∧ y = .raised fault' ∧ E fault fault') ∨
    x = .exhausted ∧ y = .exhausted := by
  cases x <;> cases y <;> simp only [Outcome.Agree] at h
  · exact .inl ⟨_, _, rfl, rfl, h⟩
  · exact .inr (.inl ⟨_, _, rfl, rfl, h⟩)
  · exact .inr (.inr ⟨rfl, rfl⟩)

def Accord.Allows (A : Accord ι) (fault : Fault) : Prop :=
  A.fault fault fault ∨ A.excused fault

namespace Run

variable {α β γ δ : Type}

def Excused (A : Accord ι) (x : Run α) : Prop :=
  ∃ fault, x.outcome = .raised fault ∧ A.excused fault

theorem excused_rescue {x : Run α} {handler : Fault → Option (Run α)} {fault : Fault}
    (ended : x.outcome = .raised fault) (excused : A.excused fault)
    (taken : ∀ y, handler fault = some y → y.Excused A) : (x.rescue handler).Excused A := by
  rcases x with ⟨events, _ | _ | _⟩ <;> cases ended
  cases takes : handler fault with
  | none => exact ⟨fault, by rw [rescue_none takes], excused⟩
  | some y =>
    obtain ⟨last, ends, excused⟩ := taken y takes
    exact ⟨last, by rw [rescue_some takes, ends], excused⟩

/-- One of two runs is excused, or they end alike. -/
def Accords (A : Accord ι) (R : α → β → Prop) (x : Run α) (y : Run β) : Prop :=
  x.Excused A ∨ y.Excused A ∨ x.outcome.Agree R A.fault y.outcome

namespace Accords

variable {R : α → β → Prop} {S : γ → δ → Prop}

theorem pure {a : α} {b : β} (h : R a b) : Run.Accords A R (Pure.pure a) (Pure.pure b) :=
  .inr (.inr h)

theorem raise {fault : Fault} (h : A.Allows fault) :
    Run.Accords A R (Run.raise fault) (Run.raise fault) := by
  rcases h with both | excused
  · exact .inr (.inr both)
  · exact .inl ⟨fault, rfl, excused⟩

theorem exhausted : Run.Accords A R Run.exhausted Run.exhausted :=
  .inr (.inr trivial)

theorem log {event event' : Event} : Run.Accords A Eq (Run.log event) (Run.log event') :=
  .inr (.inr rfl)

theorem self {R : α → α → Prop} {x : Run α} (result : ∀ a, x.outcome = .returned a → R a a)
    (ended : ∀ fault, x.outcome = .raised fault → A.Allows fault) : x.Accords A R x := by
  rcases x with ⟨events, a | fault | _⟩
  · exact .inr (.inr (result a rfl))
  · rcases ended fault rfl with both | excused
    · exact .inr (.inr both)
    · exact .inl ⟨fault, rfl, excused⟩
  · exact .inr (.inr trivial)

theorem mono {R' : α → β → Prop} {x : Run α} {y : Run β} (h : x.Accords A R y)
    (weaker : ∀ a b, R a b → R' a b) : x.Accords A R' y := by
  rcases h with excused | excused | h
  · exact .inl excused
  · exact .inr (.inl excused)
  · refine .inr (.inr ?_)
    rcases x with ⟨_, _ | _ | _⟩ <;> rcases y with ⟨_, _ | _ | _⟩ <;>
      simp only [Outcome.Agree] at h ⊢
    · exact weaker _ _ h
    · exact h

theorem bind {x : Run α} {y : Run β} {f : α → Run γ} {g : β → Run δ} (h : x.Accords A R y)
    (next : ∀ a b, R a b → (f a).Accords A S (g b)) : (x >>= f).Accords A S (y >>= g) := by
  rcases h with ⟨fault, ended, excused⟩ | ⟨fault, ended, excused⟩ | h
  · exact .inl ⟨fault, bind_outcome_raised ended f, excused⟩
  · exact .inr (.inl ⟨fault, bind_outcome_raised ended g, excused⟩)
  · rcases x with ⟨events, a | fault | _⟩ <;> rcases y with ⟨events', b | fault' | _⟩ <;>
      simp only [Outcome.Agree] at h
    · exact next a b h
    · exact .inr (.inr h)
    · exact .inr (.inr trivial)

theorem bind_eq {x y : Run α} {f : α → Run γ} {g : α → Run δ} (h : x.Accords A Eq y)
    (next : ∀ a, (f a).Accords A S (g a)) : (x >>= f).Accords A S (y >>= g) :=
  h.bind fun a _ same => same ▸ next a

/-- The branches may use which of them is taken. -/
theorem branch {c c' : Bool} {x y : Run α} {x' y' : Run β} (same : c = c')
    (yes : c = true → x.Accords A R x') (no : c = false → y.Accords A R y') :
    (if c then x else y).Accords A R (if c' then x' else y') := by
  subst same
  cases c with
  | true => exact yes rfl
  | false => exact no rfl

theorem need {defect : Defect} {o : Option α} {p : Option β} (h : Option.Rel R o p)
    (missing : o = none → A.Allows (.defect defect)) :
    Run.Accords A R (Run.need defect o) (Run.need defect p) := by
  cases h with
  | some h => exact pure h
  | none => exact raise (missing rfl)

/-- Handlers agree if a fault that excuses a run does so behind them too, and if they take on the
same other ones and agree on those. -/
theorem rescue {x : Run α} {y : Run β} {handler : Fault → Option (Run α)}
    {handler' : Fault → Option (Run β)} (h : x.Accords A R y)
    (left : ∀ fault, A.excused fault → ∀ y, handler fault = some y → y.Excused A)
    (right : ∀ fault, A.excused fault → ∀ y, handler' fault = some y → y.Excused A)
    (handled : ∀ fault fault', A.fault fault fault' →
      Option.Rel (Run.Accords A R) (handler fault) (handler' fault')) :
    (x.rescue handler).Accords A R (y.rescue handler') := by
  rcases h with ⟨fault, ended, excused⟩ | ⟨fault, ended, excused⟩ | h
  · exact .inl (excused_rescue ended excused (left fault excused))
  · exact .inr (.inl (excused_rescue ended excused (right fault excused)))
  · rcases x with ⟨events, a | fault | _⟩ <;> rcases y with ⟨events', b | fault' | _⟩ <;>
      simp only [Outcome.Agree] at h
    · exact .inr (.inr h)
    · have both := handled fault fault' h
      simp only [Run.rescue]
      cases first : handler fault <;> cases second : handler' fault' <;>
        rw [first, second] at both <;> cases both
      · exact .inr (.inr h)
      · assumption
    · exact .inr (.inr trivial)

theorem loop {I : Nat → α → β → Prop} {J : α → β → Prop} {step : α → Run (ForInStep α)}
    {step' : β → Run (ForInStep β)} {spent : α → Run α} {spent' : β → Run β}
    (turn : ∀ left a b, I (left + 1) a b →
      (step a).Accords A (Agree.Turn (I left) J) (step' b))
    (last : ∀ a b, I 0 a b → (spent a).Accords A J (spent' b)) {count : Nat} {a : α} {b : β}
    (start : I count a b) :
    (Run.loop step spent count a).Accords A J (Run.loop step' spent' count b) := by
  induction count generalizing a b with
  | zero => exact last a b start
  | succ left ih =>
    rw [loop_succ, loop_succ]
    refine (turn left a b start).bind fun s t h => ?_
    rcases s with a | a <;> rcases t with b | b <;> simp only [Agree.Turn] at h
    · exact pure h
    · exact ih h

theorem of_returned {x : Run α} {y : Run β} (h : x.Accords A R y) (never : ∀ f, ¬ A.excused f)
    {a : α} (left : x.outcome = .returned a) : ∃ b, y.outcome = .returned b ∧ R a b := by
  rcases h with ⟨fault, -, excused⟩ | ⟨fault, -, excused⟩ | h
  · exact absurd excused (never fault)
  · exact absurd excused (never fault)
  · rcases h.ends with ⟨a', b, first, second, related⟩ | ⟨_, _, first, -⟩ | ⟨first, -⟩
    · obtain rfl := Outcome.returned.inj (left.symm.trans first)
      exact ⟨b, second, related⟩
    · cases left.symm.trans first
    · cases left.symm.trans first

end Accords

end Run

namespace Accord

structure Lawful (A : Accord ι) : Prop where
  ok : ∀ {i s t}, A.state i s t → s.ok = t.ok
  matched : ∀ {i s t}, A.state i s t → s.matched = t.matched ∧ A.text s.matched
  value : ∀ {i s t}, A.state i s t → A.value i s.value t.value
  remaining : ∀ {i s t}, A.state i s t → s.remaining = t.remaining
  noText : ∀ {i s t}, A.state i s t → s.noText = t.noText ∧ A.text s.noText
  resumed : ∀ {i s t}, A.state i s t → A.state i (s.lastGood.getD s) (t.lastGood.getD t)
  settle : ∀ {i s t r r'}, A.state i s t → A.state i r r' → A.state i (s.settle r) (t.settle r')
  withText : ∀ {i s t v b}, A.state i s t → A.text v →
    A.state i { s with matched := v, ok := b } { t with matched := v, ok := b }
  withValue : ∀ {i s t v w}, A.state i s t → A.value i v w →
    A.state i { s with value := v } { t with value := w }
  restore : ∀ {i s t r r'}, A.state i s t → A.state i r r' →
    A.state i { r with source := s.source, pos := s.pos, limit := s.limit }
      { r' with source := t.source, pos := t.pos, limit := t.limit }
  /-- From a fresh start the same values are built. -/
  fresh : ∀ {i s t v}, A.state i s t →
    ∃ j, A.state j { s with matched := s.noText, value := v, ok := true, lastGood := none }
        { t with matched := t.noText, value := v, ok := true, lastGood := none } ∧
      ∀ r r', A.state j r r' → A.state i r r' ∧ r.value = r'.value
  cut : ∀ {i s t full full'} {length : Int}, A.state i s t → A.state i full full' →
    full.ok = true → 0 ≤ length → length ≤ s.remaining - full.remaining →
    A.state i { s with limit := s.pos + length } { t with limit := t.pos + length } ∧
      ∀ c c', A.state i c c' → A.state i
        { s with pos := s.pos + length, matched := c.matched, value := c.value, ok := true }
        { t with pos := t.pos + length, matched := c'.matched, value := c'.value, ok := true }
  plus : ∀ {a b c}, A.text a → A.text b → a.plus? b = some c → A.text c
  /-- Texts without a sum may end both runs. -/
  misfit : ∀ {a b}, A.text a → A.text b → a.plus? b = none → A.Allows (.defect (.ofSum a b))
  /-- Signals are related to signals of their kind alone, and excuse no run. -/
  signal : ∀ {fault fault'}, A.fault fault fault' →
    (∃ raised raised', fault = .signal raised ∧ fault' = .signal raised' ∧
      raised.kind = raised'.kind) ∨
    ((∀ raised, fault ≠ .signal raised) ∧ ∀ raised, fault' ≠ .signal raised)
  hard : ∀ raised, ¬ A.excused (.signal raised)

def Keeps (A : Accord ι) (act act' : Action) : Prop :=
  ∀ i s t, A.state i s t → (act s).Accords A (A.state i) (act' t)

/-! ### What is asked of functions -/

def Builds (A : Accord ι) (function : TextFunction) : Prop :=
  ∀ i v w text, A.value i v w → A.text text →
    (function.call (v, text)).Accords A (A.value i) (function.call (w, text))

def Tests (A : Accord ι) (test : RoundFunction) : Prop :=
  ∀ i v w text index, A.value i v w → A.text text →
    (test.test (v, text, index)).Accords A Eq (test.test (w, text, index))

def Merges (A : Accord ι) (merge : MergeFunction) : Prop :=
  ∀ i v w sub text, A.value i v w → A.text text →
    (merge.call (v, sub, text)).Accords A (A.value i) (merge.call (w, sub, text))

def Transforms (A : Accord ι) (transform : TransformFunction) : Prop :=
  ∀ text, A.text text → (transform.call text).Accords A
    (fun v w => v = w ∧ (v ≠ .null → A.text v)) (transform.call text)

/-- A lookahead breaks off on both sides or on none, where faults end the iteration over its
candidates. -/
structure Interrupts (A : Accord ι) : Prop where
  endsIteration : ∀ {fault fault'}, A.fault fault fault' →
    fault.endsIteration = fault'.endsIteration
  allowed : ∀ {fault fault'}, A.fault fault fault' → fault.endsIteration = true →
    A.Allows (.defect .interrupted)
  excused : ∀ {fault}, A.excused fault → fault.endsIteration = true →
    A.excused (.defect .interrupted)

def Detaches (A : Accord ι) : Prop :=
  ∀ i s t, A.state i s t →
    (Run.need .mistyped s.detach).Accords A (A.state i) (Run.need .mistyped t.detach)

namespace Lawful

open Run (Accords)

variable (lawful : A.Lawful) {act act' body body' : Action}
include lawful

theorem put {i : ι} {s t : State} {v : Value} (h : A.state i s t) (text : A.text v) :
    A.state i { s with matched := v } { t with matched := v } := by
  have same := lawful.withText (b := s.ok) h text
  have right : { t with matched := v, ok := s.ok } = { t with matched := v } := by rw [lawful.ok h]
  rw [right] at same
  exact same

theorem failed {i : ι} {s t : State} (h : A.state i s t) : A.state i s.failed t.failed := by
  obtain ⟨same, text⟩ := lawful.matched h
  have last : t.failed = { t with matched := s.matched, ok := false } := by rw [same]; rfl
  rw [last]
  exact lawful.withText h text

theorem join {a b : Value} (left : A.text a) (right : A.text b) (fold : Fold) :
    (fold.join a b).Accords A (fun c c' => c = c' ∧ A.text c) (fold.join a b) := by
  cases fold with
  | discard => exact .pure ⟨rfl, right⟩
  | append =>
    simp only [Fold.join]
    cases sum : a.plus? b with
    | none => exact .raise (lawful.misfit left right sum)
    | some c => exact .pure ⟨rfl, lawful.plus left right sum⟩

/-! ### Actions around one other -/

theorem settled (h : A.Keeps body body') : A.Keeps (.settled body) (.settled body') := by
  intro i s t before
  refine (h i s t before).bind fun r r' after => ?_
  exact .pure (lawful.settle before after)

theorem failing : A.Keeps (fun s => return s.failed) (fun s => return s.failed) :=
  fun _ _ _ before => .pure (lawful.failed before)

theorem morph {transform : TransformFunction} (texts : A.Transforms transform)
    (h : A.Keeps body body') : A.Keeps (.morph transform body) (.morph transform body') := by
  intro i s t before
  refine (h i s t before).bind fun r r' after => ?_
  refine Accords.branch (by rw [lawful.ok after]) (fun _ => .pure after) fun good => ?_
  obtain ⟨same, text⟩ := lawful.matched after
  rw [← same]
  refine (texts r.matched text).bind ?_
  rintro v _ ⟨rfl, answer⟩
  split
  · exact .pure after
  · rename_i some
    exact .pure (lawful.put after (answer some))

omit lawful in
theorem force (detaches : A.Detaches) (h : A.Keeps body body') :
    A.Keeps (.force body) (.force body') :=
  fun i s t before => (h i s t before).bind fun r r' after => detaches i r r' after

theorem noConsume (h : A.Keeps body body') : A.Keeps (.noConsume body) (.noConsume body') :=
  fun i s t before => (h i s t before).bind fun _ _ after => .pure (lawful.restore before after)

theorem noBuild (h : A.Keeps body body') : A.Keeps (.noBuild body) (.noBuild body') := by
  intro i s t before
  refine (h i s t before).bind fun r r' after => ?_
  exact .pure (lawful.withValue after (lawful.value before))

theorem absorb {merge : MergeFunction} (initial : Value) (merges : A.Merges merge)
    (h : A.Keeps body body') :
    A.Keeps (.settled (.absorb merge initial body)) (.settled (.absorb merge initial body')) := by
  intro i s t before
  have failed := lawful.settle before (lawful.failed before)
  obtain ⟨j, start, weaken⟩ := lawful.fresh (v := initial) before
  simp only [Action.settled, Action.absorb, bind_assoc]
  refine (h j _ _ start).bind fun sub sub' tight => ?_
  obtain ⟨after, built⟩ := weaken sub sub' tight
  obtain ⟨same, text⟩ := lawful.matched after
  cases good : sub.ok with
  | false =>
    have good' : sub'.ok = false := (lawful.ok after).symm.trans good
    simp only [good', Bool.not_false, if_true, pure_bind]
    exact .pure failed
  | true =>
    have good' : sub'.ok = true := (lawful.ok after).symm.trans good
    simp only [good', Bool.not_true, Bool.false_eq_true, if_false, bind_assoc, pure_bind]
    rw [← built, ← same]
    refine (merges i _ _ sub.value sub.matched (lawful.value before) text).bind ?_
    intro v w values
    -- A success takes no snapshot along, so that the one put back does not matter.
    have result := lawful.settle before (lawful.withValue after values)
    rw [← State.settle_withSnapshot (show State.ok { sub with value := v } = true from good)
        s.lastGood,
      ← State.settle_withSnapshot (show State.ok { sub' with value := w } = true from good')
        t.lastGood, ← same] at result
    exact .pure result

theorem catches (kinds : List SignalKind) (shown shown' : Thunk String) (h : A.Keeps body body')
    (handler : A.Keeps act act') :
    A.Keeps (.catches kinds shown body act) (.catches kinds shown' body' act') := by
  intro i s t before
  refine (h i s t before).rescue ?_ ?_ fun fault fault' alike => ?_
  · intro fault excused y taken
    cases fault with
    | signal raised => exact absurd excused (lawful.hard raised)
    | _ => cases taken
  · intro fault excused y taken
    cases fault with
    | signal raised => exact absurd excused (lawful.hard raised)
    | _ => cases taken
  obtain ⟨raised, raised', rfl, rfl, kind⟩ | ⟨left, right⟩ := lawful.signal alike
  · dsimp only
    rw [← kind]
    split
    · exact .some (Accords.bind_eq .log fun _ => handler i s t before)
    · exact .none
  · cases fault with
    | signal raised => exact absurd rfl (left raised)
    | _ => cases fault' with
      | signal raised => exact absurd rfl (right raised)
      | _ => exact .none

omit lawful in
theorem firstOf (ok : ∀ {i s t}, A.state i s t → s.ok = t.ok) {rest rest' : List Action}
    (first : A.Keeps act act') (h : List.Forall₂ A.Keeps rest rest') :
    A.Keeps (.firstOf act rest) (.firstOf act' rest') := by
  induction h generalizing act act' with
  | nil => exact first
  | cons next _ ih =>
    intro i s t before
    refine (first i s t before).bind fun r r' after => ?_
    exact Accords.branch (ok after) (fun _ => .pure after) fun _ => ih next i s t before

/-! ### Repetition -/

section Repetition

open Catena.Action (Rounds)

variable {proceed : State → Nat → Run Bool} {i : ι} {s t : State}

structure Level (A : Accord ι) (i : ι) (rounds rounds' : Rounds) : Prop where
  count : rounds.count = rounds'.count
  matched : rounds.matched = rounds'.matched
  text : A.text rounds.matched
  current : A.state i rounds.current rounds'.current

def Decides (A : Accord ι) (proceed : State → Nat → Run Bool) : Prop :=
  ∀ i s t index, A.state i s t → (proceed s index).Accords A Eq (proceed t index)

theorem round (h : A.Keeps body body') (decides : Decides A proceed) {rounds rounds' : Rounds}
    (level : Level A i rounds rounds') :
    (Action.round body proceed rounds).Accords A (Run.Agree.Turn (Level A i) (Level A i))
      (Action.round body' proceed rounds') := by
  refine (h i _ _ level.current).bind fun r r' after => ?_
  refine Accords.branch (by rw [lawful.ok after]) (fun _ => .pure level) fun good => ?_
  obtain ⟨same, text⟩ := lawful.matched after
  rw [← level.matched, ← same, ← level.count]
  refine (lawful.join level.text text .append).bind ?_
  rintro joined _ ⟨rfl, sum⟩
  refine (decides i r r' _ after).bind_eq fun goesOn => ?_
  have next : Level A i ⟨rounds.count + 1, joined, { r with matched := joined }⟩
      ⟨rounds.count + 1, joined, { r' with matched := joined }⟩ :=
    ⟨rfl, rfl, sum, lawful.put after sum⟩
  have left : r.remaining = r'.remaining := lawful.remaining after
  have before : rounds.current.remaining = rounds'.current.remaining :=
    lawful.remaining level.current
  exact Accords.branch (by rw [left, before]) (fun _ => .pure next) fun _ => .pure next

theorem repeatRounds {spent : Rounds → Run Rounds} (h : A.Keeps body body')
    (decides : Decides A proceed)
    (last : ∀ rounds rounds', Level A i rounds rounds' →
      (spent rounds).Accords A (Level A i) (spent rounds'))
    (count : Nat) (before : A.state i s t) :
    (Action.repeatRounds body proceed spent count ⟨0, s.noText, s⟩).Accords A (Level A i)
      (Action.repeatRounds body' proceed spent count ⟨0, t.noText, t⟩) := by
  obtain ⟨same, text⟩ := lawful.noText before
  have start : Level A i ⟨0, s.noText, s⟩ ⟨0, t.noText, t⟩ := ⟨rfl, same, text, before⟩
  exact Accords.loop (I := fun _ => Level A i) (fun _ _ _ level => lawful.round h decides level)
    last start

theorem repeatOpen (patience : Nat) (h : A.Keeps body body') (decides : Decides A proceed)
    (before : A.state i s t) :
    (Action.repeatOpen patience body proceed s).Accords A (Level A i)
      (Action.repeatOpen patience body' proceed t) := by
  unfold Action.repeatOpen
  rw [← lawful.remaining before]
  exact lawful.repeatRounds h decides (fun _ _ _ => .exhausted) _ before

theorem ended {x y : Run Rounds} (h : x.Accords A (Level A i) y) (verdict : Nat → Bool) :
    Accords A (A.state i)
      (do
        let rounds ← x
        return { rounds.current with matched := rounds.matched, ok := verdict rounds.count })
      (do
        let rounds ← y
        return { rounds.current with matched := rounds.matched, ok := verdict rounds.count }) := by
  refine h.bind fun rounds rounds' level => ?_
  rw [← level.count, ← level.matched]
  exact .pure (lawful.withText level.current level.text)

theorem many (patience : Nat) (least most : Int) (h : A.Keeps body body') :
    A.Keeps (.many patience least most body) (.many patience least most body') := by
  intro i s t before
  have decides : Decides A fun _ _ => return true := fun _ _ _ _ _ => .pure rfl
  unfold Action.many
  by_cases opened : most < 0
  · simp only [if_pos opened]
    exact lawful.ended (lawful.repeatOpen patience h decides before) fun count =>
      decide (least ≤ count)
  · simp only [if_neg opened]
    exact lawful.ended (lawful.repeatRounds h decides (fun _ _ => .pure) most.toNat before)
      fun count => decide (least ≤ count)

theorem repeated (patience : Nat) {test : RoundFunction} (stopsWhenTrue : Bool)
    (tests : A.Tests test) (h : A.Keeps body body') :
    A.Keeps (.repeated patience test stopsWhenTrue body)
      (.repeated patience test stopsWhenTrue body') := by
  intro i s t before
  refine lawful.ended (lawful.repeatOpen patience h ?_ before) fun _ => true
  intro j r r' index after
  obtain ⟨same, text⟩ := lawful.matched after
  dsimp only
  rw [← same]
  refine (tests j _ _ r.matched index (lawful.value after) text).bind_eq fun holds => ?_
  exact .pure rfl

end Repetition

end Lawful

end Accord

end Catena
