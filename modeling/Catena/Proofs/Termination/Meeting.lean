import Mathlib
import Catena.Proofs.Solution
import Catena.Proofs.Discipline

/-!
# Runs that meet

Two runs that are one and the same, and end. Whether runs meet goes through everything they are put
together from; a repetition without bounds ends because its rounds leave less and less, which the
rule for loops knows by the turns that are left.
-/

namespace Catena

/-! ### Sound states -/

/-- What a parser may leave of a live state with so much left: a live state, or a failure whose last
good state is one, with no more left. -/
inductive State.Sound (left : Int) (s : State) : Prop where
  | live (live : s.Live) (bound : s.remaining ≤ left)
  | failed {good : State} (failed : s.ok = false) (snapshot : s.lastGood = some good)
      (live : good.Live) (bound : good.remaining ≤ left)

namespace State.Sound

variable {left more : Int} {s : State}

theorem mono (h : s.Sound left) (less : left ≤ more) : s.Sound more := by
  cases h with
  | live live bound => exact .live live (bound.trans less)
  | failed failed snapshot live bound => exact .failed failed snapshot live (bound.trans less)

theorem of_ok (h : s.Sound left) (ok : s.ok = true) : s.Live ∧ s.remaining ≤ left := by
  cases h with
  | live live bound => exact ⟨live, bound⟩
  | failed failed => exact absurd ok (by simp [failed])

theorem resumed (h : s.Sound left) (failed : s.ok = false) :
    (s.lastGood.getD s).Live ∧ (s.lastGood.getD s).remaining ≤ left := by
  cases h with
  | live live => exact absurd live.ok (by simp [failed])
  | failed _ snapshot live bound =>
    rw [snapshot]
    exact ⟨live, bound⟩

theorem withText (h : s.Sound left) (text : Value) :
    State.Sound left { s with matched := text } := by
  cases h with
  | live live bound => exact .live (live.withText text) bound
  | failed failed snapshot live bound => exact .failed failed snapshot live bound

theorem withValue (h : s.Sound left) (value : Value) :
    State.Sound left { s with value } := by
  cases h with
  | live live bound => exact .live ⟨live.inside, live.clean, live.ok⟩ bound
  | failed failed snapshot live bound => exact .failed failed snapshot live bound

end State.Sound

theorem State.Live.remaining_nonneg {s : State} (h : s.Live) : 0 ≤ s.remaining :=
  Window.remaining_nonneg h.inside

/-! ### Runs -/

namespace Run

variable {α β : Type} {P P' : α → Prop} {Q : β → Prop} {x y : Run α}

/-- Two runs are one, which ends, and whose result has a property. -/
structure Meets (P : α → Prop) (x y : Run α) : Prop where
  same : x = y
  ends : y.outcome ≠ .exhausted
  result : ∀ a, y.outcome = .returned a → P a

namespace Meets

theorem pure {a : α} (h : P a) : Meets P (Pure.pure a) (Pure.pure a) :=
  ⟨rfl, nofun, fun _ run => Outcome.returned.inj run ▸ h⟩

theorem raise (fault : Fault) : Meets P (Run.raise fault) (Run.raise fault) :=
  ⟨rfl, nofun, nofun⟩

theorem mono (h : Meets P x y) (weaker : ∀ a, P a → P' a) : Meets P' x y :=
  ⟨h.same, h.ends, fun a run => weaker a (h.result a run)⟩

theorem knowing (h : Meets P x y) (known : ∀ a, y.outcome = .returned a → P' a) :
    Meets (fun a => P a ∧ P' a) x y :=
  ⟨h.same, h.ends, fun a run => ⟨h.result a run, known a run⟩⟩

theorem bind {f g : α → Run β} (h : Meets P x y) (next : ∀ a, P a → Meets Q (f a) (g a)) :
    Meets Q (x >>= f) (y >>= g) := by
  obtain ⟨rfl, ends, result⟩ := h
  rcases x with ⟨events, a | fault | _⟩
  · obtain ⟨same, ends, result⟩ := next a (result a rfl)
    exact ⟨by rw [bind_returned, bind_returned, same], ends, result⟩
  · exact ⟨rfl, nofun, nofun⟩
  · exact absurd rfl ends

theorem branch {c : Bool} {x y x' y' : Run α} (yes : c = true → Meets P x x')
    (no : c = false → Meets P y y') : Meets P (if c then x else y) (if c then x' else y') := by
  cases c with
  | true => exact yes rfl
  | false => exact no rfl

theorem need (defect : Defect) (o : Option α) :
    Meets (fun a => o = some a) (Run.need defect o) (Run.need defect o) := by
  cases o with
  | none => exact raise _
  | some a => exact pure rfl

theorem log (event : Event) : Meets (fun _ => True) (Run.log event) (Run.log event) :=
  ⟨rfl, nofun, fun _ _ => trivial⟩

theorem call {α β : Type} [Listed α] (f : Callback α β) (a : α) :
    Meets (fun _ => True) (f.call a) (f.call a) := by
  refine (log _).bind fun _ _ => ?_
  cases f.apply a with
  | ok b => exact pure trivial
  | error complaint => exact raise _

theorem test {α : Type} [Listed α] (f : Callback α Value) (a : α) :
    Meets (fun _ => True) (f.test a) (f.test a) :=
  (call f a).bind fun _ _ => pure trivial

theorem join (fold : Fold) (text addition : Value) :
    Meets (fun _ => True) (fold.join text addition) (fold.join text addition) := by
  cases fold with
  | append => exact (need _ _).mono fun _ _ => trivial
  | discard => exact pure trivial

theorem rescue {handler handler' : Fault → Option (Run α)} (h : Meets P x y)
    (handled : ∀ fault, Option.Rel (Meets P) (handler fault) (handler' fault)) :
    Meets P (x.rescue handler) (y.rescue handler') := by
  obtain ⟨rfl, ends, result⟩ := h
  rcases x with ⟨events, a | fault | _⟩
  · exact ⟨rfl, nofun, result⟩
  · have both := handled fault
    cases left : handler fault <;> cases right : handler' fault <;> rw [left, right] at both <;>
      cases both
    · rw [rescue_none left, rescue_none right]
      exact ⟨rfl, nofun, nofun⟩
    · rename_i both
      rw [rescue_some left, rescue_some right]
      exact ⟨by rw [both.same], both.ends, both.result⟩
  · exact absurd rfl ends

def Turn (I J : α → Prop) : ForInStep α → Prop
  | .yield a => I a
  | .done a => J a

/-- Two loops meet if their turns do, for as many turns as are left. -/
theorem loop {I : Nat → α → Prop} {step step' : α → Run (ForInStep α)} {spent spent' : α → Run α}
    (turn : ∀ left a, I (left + 1) a → Meets (Turn (I left) P) (step a) (step' a))
    (last : ∀ a, I 0 a → Meets P (spent a) (spent' a)) {count : Nat} {a : α} (start : I count a) :
    Meets P (Run.loop step spent count a) (Run.loop step' spent' count a) := by
  induction count generalizing a with
  | zero => exact last a start
  | succ left ih =>
    rw [loop_succ, loop_succ]
    refine (turn left a start).bind fun next holds => ?_
    cases next with
    | done b => exact pure holds
    | yield b => exact ih holds

end Meets

end Run

/-! ### Actions -/

/-- Two actions meet on live states with less than so much left, and leave sound ones. -/
def Action.Settles (limit : Int) (act act' : Action) : Prop :=
  ∀ s, s.Live → s.remaining < limit → Run.Meets (State.Sound s.remaining) (act s) (act' s)

def Action.Completes (limit : Int) (act act' : Action) : Prop :=
  ∀ s, s.Live → s.remaining < limit → Run.Meets (fun _ => True) (act s) (act' s)

namespace Action.Settles

open Run (Meets)

variable {limit : Int} {act act' body body' : Action}

theorem passed (h : Settles limit body body') : Completes limit body body' :=
  fun s live bound => (h s live bound).mono fun _ _ => trivial

theorem absorb (merge : MergeFunction) (initial : Value) (h : Settles limit body body') :
    Completes limit (.absorb merge initial body) (.absorb merge initial body') := by
  intro s live bound
  refine (h { s with matched := s.noText, value := initial, ok := true, lastGood := none }
    ⟨live.inside, rfl, rfl⟩ bound).bind fun sub _ => ?_
  exact .branch (fun _ => .pure trivial) fun _ => (Meets.call merge _).bind fun _ _ => .pure trivial

theorem morph (transform : TransformFunction) (h : Settles limit body body') :
    Completes limit (.morph transform body) (.morph transform body') := by
  intro s live bound
  refine (h s live bound).bind fun r _ => .branch (fun _ => .pure trivial) fun _ => ?_
  refine (Meets.call transform r.matched).bind fun text _ => ?_
  split <;> exact .pure trivial

theorem force (h : Settles limit body body') : Completes limit (.force body) (.force body') :=
  fun s live bound => (h s live bound).bind fun _ _ => (Meets.need _ _).mono fun _ _ => trivial

theorem noConsume (h : Settles limit body body') :
    Completes limit (.noConsume body) (.noConsume body') :=
  fun s live bound => (h s live bound).bind fun _ _ => .pure trivial

theorem noBuild (h : Settles limit body body') : Completes limit (.noBuild body) (.noBuild body') :=
  fun s live bound => (h s live bound).bind fun _ _ => .pure trivial

theorem catches (kinds : List SignalKind) (shown : Thunk String) (h : Settles limit body body')
    (handler : Completes limit act act') :
    Completes limit (.catches kinds shown body act) (.catches kinds shown body' act') := by
  intro s live bound
  refine (h.passed s live bound).rescue fun fault => ?_
  cases fault with
  | signal signal =>
    dsimp only
    split
    · exact .some ((Meets.log _).bind fun _ _ => handler s live bound)
    · exact .none
  | _ => exact .none

theorem firstOf {rest rest' : List Action} (first : Settles limit act act')
    (h : List.Forall₂ (Settles limit) rest rest') :
    Completes limit (.firstOf act rest) (.firstOf act' rest') := by
  induction h generalizing act act' with
  | nil => exact first.passed
  | cons next _ ih =>
    intro s live bound
    refine (first s live bound).bind fun r _ => ?_
    exact .branch (fun _ => .pure trivial) fun _ => ih next s live bound

/-! ### Repetition -/

section Repetition

variable {proceed : State → Nat → Run Bool}

def Within (limit : Int) (rounds : Rounds) : Prop :=
  rounds.current.Live ∧ rounds.current.remaining < limit

theorem round (h : Settles limit body body')
    (decides : ∀ r index, Meets (fun _ => True) (proceed r index) (proceed r index))
    {rounds : Rounds} (before : Within limit rounds) :
    Meets
      (Meets.Turn
        (fun next => Within limit next ∧ next.current.remaining < rounds.current.remaining)
        fun _ => True)
      (Action.round body proceed rounds) (Action.round body' proceed rounds) := by
  obtain ⟨live, bound⟩ := before
  refine (h _ live bound).bind fun r sound => .branch (fun _ => .pure trivial) fun good => ?_
  obtain ⟨after, less⟩ := sound.of_ok (by simpa using good)
  refine (Meets.need _ _).bind fun matched _ => (decides r rounds.count).bind fun goesOn _ => ?_
  refine .branch (fun further => .pure ?_) fun _ => .pure trivial
  -- A round that goes on has changed how much is left, and it can only have become less.
  have changed : r.remaining ≠ rounds.current.remaining := by simp_all
  exact ⟨⟨after.withText matched, show r.remaining < limit by omega⟩,
    show r.remaining < rounds.current.remaining by omega⟩

theorem repeatOpen (patience : Nat) (h : Settles limit body body')
    (decides : ∀ r index, Meets (fun _ => True) (proceed r index) (proceed r index)) {s : State}
    (live : s.Live) (bound : s.remaining < limit) :
    Meets (fun _ => True) (Action.repeatOpen patience body proceed s)
      (Action.repeatOpen patience body' proceed s) := by
  -- There are always more turns left than items.
  refine Meets.loop (I := fun left rounds => Within limit rounds ∧
    rounds.current.remaining < left) ?_ ?_ ⟨⟨live, bound⟩, ?_⟩
  · rintro left rounds ⟨within, fewer⟩
    refine (h.round decides within).mono fun turn holds => ?_
    cases turn with
    | done next => trivial
    | yield next => exact ⟨holds.1, by have := holds.2; omega⟩
  · rintro rounds ⟨⟨live, -⟩, none⟩
    have := live.remaining_nonneg
    omega
  · have := live.remaining_nonneg
    dsimp only
    omega

theorem repeatRounds (count : Nat) (h : Settles limit body body')
    (decides : ∀ r index, Meets (fun _ => True) (proceed r index) (proceed r index))
    {rounds : Rounds} (start : Within limit rounds) :
    Meets (fun _ => True) (Action.repeatRounds body proceed Pure.pure count rounds)
      (Action.repeatRounds body' proceed Pure.pure count rounds) := by
  refine Meets.loop (I := fun _ => Within limit) (fun left rounds within => ?_)
    (fun _ _ => .pure trivial) start
  refine (h.round decides within).mono fun turn holds => ?_
  cases turn with
  | done next => trivial
  | yield next => exact holds.1

theorem many (patience : Nat) (least most : Int) (h : Settles limit body body') :
    Completes limit (.many patience least most body) (.many patience least most body') := by
  intro s live bound
  have decides : ∀ (r : State) (index : Nat),
      Meets (fun _ => True) (Pure.pure true) (Pure.pure true) := fun _ _ => .pure trivial
  unfold Action.many
  dsimp only
  split
  · exact (h.repeatOpen patience decides live bound).bind fun _ _ => .pure trivial
  · exact (h.repeatRounds most.toNat decides ⟨live, bound⟩).bind fun _ _ => .pure trivial

theorem repeated (patience : Nat) (test : RoundFunction) (stopsWhenTrue : Bool)
    (h : Settles limit body body') :
    Completes limit (.repeated patience test stopsWhenTrue body)
      (.repeated patience test stopsWhenTrue body') := by
  intro s live bound
  refine (h.repeatOpen patience (fun r index => ?_) live bound).bind fun _ _ => .pure trivial
  exact (Meets.test test (r.value, r.matched, index)).bind (Q := fun _ => True) fun _ _ =>
    .pure trivial

end Repetition

end Action.Settles

end Catena
