import Mathlib.Data.List.Forall2
import Catena.Proofs.Agreement
import Catena.Proofs.Likeness
import Catena.Meaning

/-!
# Bonds between runs

What is kept between two runs of parsers side by side. A bond relates the states that parsers are
run on, and the results that they leave; it is lawful if every move that goes on from related states
leads to related ones. Every action around others keeps a lawful bond if the inner actions do, so
that a relation between two runs is followed through all parsers by its laws alone.
-/

namespace Catena

/-- Relations that two runs side by side are to keep, in a family. -/
structure Bond (ι : Type) where
  /-- Between the states that parsers are run on. -/
  ready : ι → State → State → Prop
  /-- Between what parsers leave. -/
  done : ι → State → State → Prop
  /-- Of the texts that both sides match. -/
  text : ι → Value → Prop
  /-- Between the faults that end both runs. -/
  fault : Fault → Fault → Prop

theorem State.settle_withSnapshot {before after : State} (good : after.ok = true)
    (snapshot : Option State) :
    before.settle { after with ok := true, lastGood := snapshot } = before.settle after := by
  rw [settle_of_ok good, settle_of_ok rfl, good]

variable {ι : Type}

structure Bond.Lawful (B : Bond ι) : Prop where
  done_of_ready : ∀ {i s t}, B.ready i s t → B.done i s t
  ready_of_ok : ∀ {i s t}, B.done i s t → s.ok = true → B.ready i s t
  resumed : ∀ {i s t}, B.done i s t → s.ok = false →
    B.ready i (s.lastGood.getD s) (t.lastGood.getD t)
  ok : ∀ {i s t}, B.done i s t → s.ok = t.ok
  matched : ∀ {i s t}, B.done i s t → s.matched = t.matched ∧ B.text i s.matched
  value : ∀ {i s t}, B.done i s t → s.value = t.value
  remaining : ∀ {i s t}, B.done i s t → s.remaining = t.remaining
  noText : ∀ {i s t}, B.done i s t → s.noText = t.noText ∧ B.text i s.noText
  settle : ∀ {i s t r r'}, B.ready i s t → B.done i r r' → B.done i (s.settle r) (t.settle r')
  withText : ∀ {i s t v}, B.done i s t → B.text i v →
    B.done i { s with matched := v } { t with matched := v }
  withValue : ∀ {i s t v}, B.done i s t → B.done i { s with value := v } { t with value := v }
  restore : ∀ {i s t r r'}, B.ready i s t → B.done i r r' →
    B.done i { r with source := s.source, pos := s.pos, limit := s.limit }
      { r' with source := t.source, pos := t.pos, limit := t.limit }
  /-- What a repetition that started on `s` leaves where it has come to `u`. -/
  close : ∀ {i s t u u' v b}, B.ready i s t → B.ready i u u' → B.text i v →
    B.done i (s.settle { u with matched := v, ok := b }) (t.settle { u' with matched := v, ok := b })
  fresh : ∀ {i s t v}, B.ready i s t →
    B.ready i { s with matched := s.noText, value := v, ok := true, lastGood := none }
      { t with matched := t.noText, value := v, ok := true, lastGood := none }
  /-- A cut window may need another member of the family; what is matched in it is taken. -/
  cut : ∀ {i s t full full'} {length : Int}, B.ready i s t → B.done i full full' →
    full.ok = true → 0 ≤ length → length ≤ s.remaining - full.remaining →
    ∃ j, B.ready j { s with limit := s.pos + length } { t with limit := t.pos + length } ∧
      ∀ c c', B.done j c c' → c.ok = true →
        B.done i
          { s with pos := s.pos + length, matched := c.matched, value := c.value, ok := true }
          { t with pos := t.pos + length, matched := c'.matched, value := c'.value, ok := true }
  plus : ∀ {i a b c}, B.text i a → B.text i b → a.plus? b = some c → B.text i c
  /-- Texts without a sum may end both runs. -/
  misfit : ∀ {i a b}, B.text i a → B.text i b → a.plus? b = none →
    B.fault (.defect (.ofSum a b)) (.defect (.ofSum a b))
  complaint : ∀ complaint : Complaint, B.fault complaint.fault complaint.fault
  /-- Signals are related to signals of their kind alone. -/
  signal : ∀ {fault fault'}, B.fault fault fault' →
    (∃ raised raised', fault = .signal raised ∧ fault' = .signal raised' ∧
      raised.kind = raised'.kind) ∨
    ((∀ raised, fault ≠ .signal raised) ∧ ∀ raised, fault' ≠ .signal raised)
  /-- Faults that end an iteration are related to such faults alone. -/
  endsIteration : ∀ {fault fault'}, B.fault fault fault' →
    fault.endsIteration = fault'.endsIteration
  interrupted : B.fault (.defect .interrupted) (.defect .interrupted)

namespace Action

/-- Two actions that leave settled results take ready states to related ends. -/
def Keeps (B : Bond ι) (act act' : Action) : Prop :=
  ∀ i s t, B.ready i s t → (act s).Agree (B.done i) B.fault (act' t)

def Yields (B : Bond ι) (body body' : Action) : Prop :=
  ∀ i s t, B.ready i s t →
    (body s).Agree (fun r r' => B.done i (s.settle r) (t.settle r')) B.fault (body' t)

end Action

namespace Bond.Lawful

open Run (Agree)
open Catena.Action

variable {B : Bond ι} (lawful : B.Lawful) {act act' body body' : Action}
include lawful

theorem failed {i : ι} {s t : State} (before : B.ready i s t) :
    B.done i (s.settle s.failed) (t.settle t.failed) := by
  obtain ⟨same, text⟩ := lawful.matched (lawful.done_of_ready before)
  have last : t.failed = { t with matched := s.matched, ok := false } := by rw [same]; rfl
  rw [last]
  exact lawful.close before before text

theorem join {i : ι} {a b : Value} (left : B.text i a) (right : B.text i b) (fold : Fold) :
    (fold.join a b).Agree (fun c c' => c = c' ∧ B.text i c) B.fault (fold.join a b) := by
  cases fold with
  | discard => exact .pure ⟨rfl, right⟩
  | append =>
    simp only [Fold.join]
    cases sum : a.plus? b with
    | none => exact .raise (lawful.misfit left right sum)
    | some c => exact .pure ⟨rfl, lawful.plus left right sum⟩

theorem call {α β : Type} [Listed α] (f : Callback α β) (a : α) :
    (f.call a).Agree (fun b b' => b = b' ∧ f.apply a = .ok b) B.fault (f.call a) := by
  refine Agree.bind_eq (.log rfl) fun _ => ?_
  cases f.apply a with
  | ok b => exact .pure ⟨rfl, rfl⟩
  | error complaint => exact .raise (lawful.complaint complaint)

/-! ### Actions around one other -/

omit lawful in
theorem settled (h : Yields B body body') : Keeps B (.settled body) (.settled body') :=
  fun i s t before => (h i s t before).bind fun _ _ after => .pure after

theorem passed (h : Keeps B body body') : Yields B body body' :=
  fun i s t before => (h i s t before).mono (fun _ _ => lawful.settle before) fun _ _ => id

theorem failing : Yields B (fun s => return s.failed) (fun s => return s.failed) :=
  fun _ _ _ before => .pure (lawful.failed before)

theorem morph {transform : TransformFunction}
    (texts : ∀ i text v, B.text i text → transform.apply text = .ok v → v ≠ .null → B.text i v)
    (h : Keeps B body body') : Yields B (.morph transform body) (.morph transform body') := by
  intro i s t before
  refine (h i s t before).bind fun r r' after => ?_
  have result := lawful.settle before after
  refine Agree.branch (by rw [lawful.ok after]) (fun _ => .pure result) fun good => ?_
  rw [Bool.not_eq_false'] at good
  obtain ⟨same, text⟩ := lawful.matched after
  rw [← same]
  refine (lawful.call transform r.matched).bind ?_
  rintro v _ ⟨rfl, answer⟩
  split
  · exact .pure result
  · rename_i some
    exact .pure (lawful.settle before (lawful.withText after (texts i _ v text answer some)))

theorem force (detach : ∀ i r r', B.done i r r' → Option.Rel (B.done i) r.detach r'.detach)
    (mistyped : B.fault (.defect .mistyped) (.defect .mistyped)) (h : Keeps B body body') :
    Yields B (.force body) (.force body') := by
  intro i s t before
  refine (h i s t before).bind fun r r' after => ?_
  refine (Agree.need (detach i r r' after) mistyped).mono (fun _ _ => lawful.settle before) ?_
  exact fun _ _ => id

theorem noConsume (h : Keeps B body body') :
    Yields B (.noConsume body) (.noConsume body') := by
  intro i s t before
  refine (h i s t before).bind fun r r' after => .pure ?_
  exact lawful.settle before (lawful.restore before after)

theorem noBuild (h : Keeps B body body') : Yields B (.noBuild body) (.noBuild body') := by
  intro i s t before
  refine (h i s t before).bind fun r r' after => .pure ?_
  rw [← lawful.value (lawful.done_of_ready before)]
  exact lawful.settle before (lawful.withValue after)

theorem absorb (merge : MergeFunction) (initial : Value) (h : Keeps B body body') :
    Yields B (.absorb merge initial body) (.absorb merge initial body') := by
  intro i s t before
  refine (h i _ _ (lawful.fresh before)).bind fun sub sub' after => ?_
  refine Agree.branch (by rw [lawful.ok after]) (fun _ => .pure (lawful.failed before)) ?_
  intro good
  rw [Bool.not_eq_false'] at good
  rw [← lawful.value after, ← (lawful.matched after).1, ← lawful.value (lawful.done_of_ready before)]
  refine (lawful.call merge _).bind ?_
  rintro value _ ⟨rfl, -⟩
  -- A success takes no snapshot along, so that the one put back does not matter.
  have result := lawful.settle before (lawful.withValue (v := value) after)
  have good' : sub'.ok = true := lawful.ok after ▸ good
  rw [← State.settle_withSnapshot (show State.ok { sub with value } = true from good) s.lastGood,
    ← State.settle_withSnapshot (show State.ok { sub' with value } = true from good') t.lastGood,
    ← (lawful.matched after).1] at result
  exact .pure result

theorem catches (kinds : List SignalKind) (shown shown' : Thunk String) (h : Keeps B body body')
    (handler : Yields B act act') :
    Yields B (.catches kinds shown body act) (.catches kinds shown' body' act') := by
  intro i s t before
  refine (lawful.passed h i s t before).rescue fun fault fault' alike => ?_
  obtain ⟨raised, raised', rfl, rfl, kind⟩ | ⟨left, right⟩ := lawful.signal alike
  · dsimp only
    rw [← kind]
    split
    · exact .some (Agree.bind_eq (.log rfl) fun _ => handler i s t before)
    · exact .none
  · cases fault with
    | signal raised => exact absurd rfl (left raised)
    | _ => cases fault' with
      | signal raised => exact absurd rfl (right raised)
      | _ => exact .none

theorem firstOf {rest rest' : List Action} (first : Keeps B act act')
    (h : List.Forall₂ (Keeps B) rest rest') :
    Yields B (.firstOf act rest) (.firstOf act' rest') := by
  induction h generalizing act act' with
  | nil => exact lawful.passed first
  | cons next _ ih =>
    intro i s t before
    refine (first i s t before).bind fun r r' after => ?_
    refine Agree.branch (lawful.ok after) (fun _ => .pure (lawful.settle before after)) fun _ => ?_
    exact ih next i s t before

/-! ### Repetition -/

section Repetition

variable {proceed proceed' : State → Nat → Run Bool} {i : ι} {s t : State}

structure Level (B : Bond ι) (i : ι) (rounds rounds' : Rounds) : Prop where
  count : rounds.count = rounds'.count
  matched : rounds.matched = rounds'.matched
  text : B.text i rounds.matched
  current : B.ready i rounds.current rounds'.current

def Decides (B : Bond ι) (proceed proceed' : State → Nat → Run Bool) : Prop :=
  ∀ i s t index, B.done i s t → (proceed s index).Agree Eq B.fault (proceed' t index)

theorem round (h : Keeps B body body') (decides : Decides B proceed proceed')
    {rounds rounds' : Rounds} (level : Level B i rounds rounds') :
    (Action.round body proceed rounds).Agree (Agree.Turn (Level B i) (Level B i)) B.fault
      (Action.round body' proceed' rounds') := by
  refine (h i _ _ level.current).bind fun r r' after => ?_
  refine Agree.branch (by rw [lawful.ok after]) (fun _ => .pure level) fun good => ?_
  rw [Bool.not_eq_false'] at good
  obtain ⟨same, text⟩ := lawful.matched after
  rw [← level.matched, ← same, ← level.count]
  refine (lawful.join level.text text .append).bind ?_
  rintro joined _ ⟨rfl, sum⟩
  refine (decides i r r' _ after).bind_eq fun goesOn => ?_
  have next : Level B i ⟨rounds.count + 1, joined, { r with matched := joined }⟩
      ⟨rounds.count + 1, joined, { r' with matched := joined }⟩ :=
    ⟨rfl, rfl, sum, lawful.ready_of_ok (lawful.withText after sum) good⟩
  refine Agree.ite ?_ (.pure next) (.pure next)
  rw [lawful.remaining after, lawful.remaining (lawful.done_of_ready level.current)]

theorem repeatRounds {spent spent' : Rounds → Run Rounds} (h : Keeps B body body')
    (decides : Decides B proceed proceed')
    (last : ∀ rounds rounds', Level B i rounds rounds' →
      (spent rounds).Agree (Level B i) B.fault (spent' rounds'))
    (count : Nat) (before : B.ready i s t) :
    (Action.repeatRounds body proceed spent count ⟨0, s.noText, s⟩).Agree (Level B i) B.fault
      (Action.repeatRounds body' proceed' spent' count ⟨0, t.noText, t⟩) := by
  obtain ⟨same, text⟩ := lawful.noText (lawful.done_of_ready before)
  exact Agree.loop (I := fun _ => Level B i) (fun _ _ _ level => lawful.round h decides level) last
    ⟨rfl, same, text, before⟩

theorem repeatOpen (patience : Nat) (h : Keeps B body body') (decides : Decides B proceed proceed')
    (before : B.ready i s t) :
    (Action.repeatOpen patience body proceed s).Agree (Level B i) B.fault
      (Action.repeatOpen patience body' proceed' t) := by
  unfold Action.repeatOpen
  rw [← lawful.remaining (lawful.done_of_ready before)]
  exact lawful.repeatRounds h decides (fun _ _ _ => .exhausted) _ before

theorem ended {x y : Run Rounds} (h : x.Agree (Level B i) B.fault y) (before : B.ready i s t)
    (verdict : Nat → Bool) :
    Agree (fun r r' => B.done i (s.settle r) (t.settle r')) B.fault
      (do
        let rounds ← x
        return { rounds.current with matched := rounds.matched, ok := verdict rounds.count })
      (do
        let rounds ← y
        return { rounds.current with matched := rounds.matched, ok := verdict rounds.count }) := by
  refine h.bind fun rounds rounds' level => ?_
  rw [← level.count, ← level.matched]
  exact .pure (lawful.close before level.current level.text)

theorem many (patience : Nat) (least most : Int) (h : Keeps B body body') :
    Yields B (.many patience least most body) (.many patience least most body') := by
  intro i s t before
  have decides : Decides B (fun _ _ => return true) (fun _ _ => return true) :=
    fun _ _ _ _ _ => .pure rfl
  have opened := lawful.repeatOpen patience h decides before
  have bounded := lawful.repeatRounds h decides (fun _ _ => .pure) most.toNat before
  exact Agree.ite Iff.rfl (lawful.ended opened before fun count => decide (least ≤ count))
    (lawful.ended bounded before fun count => decide (least ≤ count))

theorem repeated (patience : Nat) (test : RoundFunction) (stopsWhenTrue : Bool)
    (h : Keeps B body body') :
    Yields B (.repeated patience test stopsWhenTrue body)
      (.repeated patience test stopsWhenTrue body') := by
  intro i s t before
  refine lawful.ended (lawful.repeatOpen patience h ?_ before) before fun _ => true
  intro j r r' index after
  dsimp only
  rw [← lawful.value after, ← (lawful.matched after).1]
  exact Agree.bind_eq (.test test _ lawful.complaint) fun _ => .pure rfl

end Repetition

end Bond.Lawful

end Catena
