import Catena.Proofs.Accord.Parser
import Catena.Proofs.Kind

/-!
# Invariants of states

A property of states that every move of the engine keeps, on states whose texts are of one kind, is
an accord of a run with itself. What is left to show of it are the elementary parsers, and what the
functions given to parsers leave.
-/

namespace Catena

structure State.Invariant (kind : Kind) (P : State → Prop) : Prop where
  ofKind : ∀ {s}, P s → s.OfKind kind
  resumed : ∀ {s}, P s → P (s.lastGood.getD s)
  settle : ∀ {s r}, P s → P r → P (s.settle r)
  withText : ∀ {s v b}, P s → v.OfKind kind → P { s with matched := v, ok := b }
  withValue : ∀ {s v}, P s → P { s with value := v }
  forget : ∀ {s}, P s → P { s with lastGood := none }
  restore : ∀ {s r}, P s → P r → P { r with source := s.source, pos := s.pos, limit := s.limit }
  cut : ∀ {s full} {length : Int}, P s → P full → 0 ≤ length →
    length ≤ s.remaining - full.remaining →
    P { s with limit := s.pos + length } ∧ P { s with pos := s.pos + length }

def Accord.invariance (kind : Kind) (P : State → Prop) (ends : Fault → Prop) : Accord Unit where
  state _ s t := s = t ∧ P s
  text v := v.OfKind kind
  value _ := Eq
  fault fault fault' := fault = fault' ∧ ends fault
  excused _ := False

namespace State

variable {kind : Kind} {P : State → Prop}

theorem Invariant.lawful (h : Invariant kind P) (ends : Fault → Prop) :
    (Accord.invariance kind P ends).Lawful where
  ok := by
    rintro i s _ ⟨rfl, -⟩
    rfl
  matched := by
    rintro i s _ ⟨rfl, holds⟩
    exact ⟨rfl, (h.ofKind holds).matched⟩
  value := by
    rintro i s _ ⟨rfl, -⟩
    rfl
  remaining := by
    rintro i s _ ⟨rfl, -⟩
    rfl
  noText := by
    rintro i s _ ⟨rfl, holds⟩
    exact ⟨rfl, (h.ofKind holds).noText⟩
  resumed := by
    rintro i s _ ⟨rfl, holds⟩
    exact ⟨rfl, h.resumed holds⟩
  settle := by
    rintro i s _ r _ ⟨rfl, before⟩ ⟨rfl, after⟩
    exact ⟨rfl, h.settle before after⟩
  withText := by
    rintro i s _ v b ⟨rfl, holds⟩ text
    exact ⟨rfl, h.withText holds text⟩
  withValue := by
    rintro i s _ v _ ⟨rfl, holds⟩ rfl
    exact ⟨rfl, h.withValue holds⟩
  restore := by
    rintro i s _ r _ ⟨rfl, before⟩ ⟨rfl, after⟩
    exact ⟨rfl, h.restore before after⟩
  fresh := by
    rintro i s _ v ⟨rfl, holds⟩
    have cleared := h.withText (b := true) holds (h.ofKind holds).noText
    have start := h.forget (h.withValue (v := v) cleared)
    refine ⟨(), ⟨rfl, start⟩, ?_⟩
    rintro r _ ⟨rfl, after⟩
    exact ⟨⟨rfl, after⟩, rfl⟩
  cut := by
    rintro i s _ full _ length ⟨rfl, holds⟩ ⟨rfl, after⟩ - nonneg bound
    obtain ⟨clipped, skipped⟩ := h.cut holds after nonneg bound
    refine ⟨⟨rfl, clipped⟩, ?_⟩
    rintro c _ ⟨rfl, ends⟩
    have text := (h.ofKind ends).matched
    exact ⟨rfl, h.withValue (h.withText (b := true) skipped text)⟩
  plus := by
    intro a b c left right sum
    obtain ⟨c', sum', text⟩ := Value.OfKind.plus left right
    obtain rfl := Option.some.inj (sum'.symm.trans sum)
    exact text
  misfit := by
    intro a b left right missing
    obtain ⟨c, sum, -⟩ := Value.OfKind.plus left right
    cases sum.symm.trans missing
  signal := by
    rintro fault _ ⟨rfl, -⟩
    cases fault with
    | signal raised => exact .inl ⟨raised, raised, rfl, rfl, rfl⟩
    | _ => exact .inr ⟨nofun, nofun⟩
  hard := fun _ => id

theorem ofKind_invariant (kind : Kind) : Invariant kind (OfKind kind) where
  ofKind := id
  resumed := OfKind.resumed
  settle := OfKind.settle
  withText := fun of text => of.keep of.source text rfl
  withValue := fun of => of.keep of.source of.matched rfl
  forget := fun of => .clean of.source of.matched rfl
  restore := fun before after => after.keep before.source after.matched rfl
  cut := fun of _ _ _ => ⟨of.keep of.source of.matched rfl, of.keep of.source of.matched rfl⟩

end State

/-! ### What functions given to parsers leave -/

def Callback.KeepsKind (transform : TransformFunction) (kind : Kind) : Prop :=
  ∀ text v, Value.OfKind kind text → transform.apply text = .ok v → v = .null ∨ v.OfKind kind

def Callback.Raises {α β : Type} (f : Callback α β) (fault : Fault) : Prop :=
  ∃ a complaint, f.apply a = .error complaint ∧ fault = complaint.fault

namespace Parser

/-- A fault comes from a parser itself: from a function given to it, as the signal that it throws,
or because it stands for nothing. -/
def Raises (g : Grammar) : Parser → Fault → Prop
  | check test, fault => test.Raises fault
  | build function, fault => function.Raises fault
  | singleItem test, fault => test.Raises fault
  | itemRun test _ _, fault => test.Raises fault
  | repeated test _ _, fault => test.Raises fault
  | absorb merge _ _, fault => merge.Raises fault
  | morph transform _, fault => transform.Raises fault
  | chain links, fault => ∃ function, .build function ∈ links ∧ function.Raises fault
  | throws kind msg trigger, fault => ∃ s signal, Action.fires trigger s.ok = true ∧
    Signal.raised kind msg s = .ok signal ∧ fault = .signal signal
  | forward slot name, fault => g.lookup slot = none ∧ fault = .undefined name
  | _, _ => False

def isLeaf : Parser → Bool
  | base _ | step _ | throws _ _ _ => true
  | parser => parser.isElementary

open Run (Accords)
open Accord (invariance)

variable {g : Grammar} {parser : Parser} {kind : Kind} {P : State → Prop} {ends : Fault → Prop}

/-- A function called on the same arguments builds the same value or raises a fault of its own. -/
theorem call_accords {α β : Type} [Listed α] {f : Callback α β}
    (raises : ∀ fault, f.Raises fault → ends fault) (a : α) :
    (f.call a).Accords (invariance kind P ends) (fun b b' => b = b' ∧ f.apply a = .ok b)
      (f.call a) :=
  Accords.self (fun _ returned => ⟨rfl, Callback.call_returned_iff.mp returned⟩) fun fault raised =>
    .inl ⟨rfl, raises fault ⟨a, Callback.call_raised raised⟩⟩

theorem invariance_interrupts (broken : ∀ fault, ends fault → fault.endsIteration = true →
    ends (.defect .interrupted)) : (invariance kind P ends).Interrupts where
  endsIteration := fun ⟨same, _⟩ => congrArg Fault.endsIteration same
  allowed := fun ⟨_, ended⟩ ends => .inl ⟨rfl, broken _ ended ends⟩
  excused := False.elim

/-- What a parser has to show for an invariant: that a parser without parts keeps it, and that what
functions raise may end a run. -/
theorem invariance_admits (raises : ∀ fault, parser.Raises g fault → ends fault)
    (leaf : parser.isLeaf = true → ∀ setting setting',
      (invariance kind P ends).Keeps (parser.body setting) (parser.body setting'))
    (texts : ∀ transform part, parser = .morph transform part → transform.KeepsKind kind)
    (detaches : ∀ part, parser = .force part → (invariance kind P ends).Detaches)
    (ordered : ∀ part, parser = .lookahead .unordered part → ends (.defect .unimplemented))
    (broken : ∀ mode part, parser = .lookahead mode part → ∀ fault, ends fault →
      fault.endsIteration = true → ends (.defect .interrupted)) :
    (invariance kind P ends).Admits g parser := by
  cases parser with
  | base | literal | outcome | check | build | singleItem | itemRun | everything | endOfInput
  | step | throws => exact leaf rfl
  | forward slot name => exact fun absent => .inl ⟨rfl, raises _ ⟨absent, rfl⟩⟩
  | lookahead mode part =>
    refine ⟨?_, invariance_interrupts (broken mode part rfl)⟩
    rintro rfl
    exact .inl ⟨rfl, ordered part rfl⟩
  | repeated test stopsWhenTrue part =>
    rintro i v _ text index rfl -
    refine Accords.bind (call_accords raises _) ?_
    rintro answer _ ⟨rfl, -⟩
    exact .pure rfl
  | absorb merge initial part =>
    rintro i v _ sub text rfl -
    exact (call_accords raises _).mono fun _ _ => And.left
  | morph transform part =>
    intro text ofKind
    refine (call_accords raises _).mono ?_
    rintro v _ ⟨rfl, answer⟩
    exact ⟨rfl, fun some => (texts transform part rfl text v ofKind answer).resolve_left some⟩
  | force part => exact detaches part rfl
  | chain links =>
    rintro function member i v _ text rfl -
    have own : ∀ fault, function.Raises fault → ends fault :=
      fun fault raised => raises fault ⟨function, member, raised⟩
    exact (call_accords own _).mono fun _ _ => And.left
  | many | noConsume | noBuild | oblivious | catches | alternative => trivial

end Parser

namespace Grammar

variable {g : Grammar} {parser : Parser} {kind : Kind} {P : State → Prop} {ends : Fault → Prop}

/-- A parser leaves what has the property, where it starts on that, if its parts are admitted. -/
theorem act_keeps (invariant : State.Invariant kind P)
    (h : g.Throughout ((Accord.invariance kind P ends).Admits g) parser) (granted : Granted)
    {s r : State} (before : P s)
    (returned : (parser.act (g.setting granted) s).outcome = .returned r) : P r := by
  have accords := act_accords_self (invariant.lawful ends) h granted () s s ⟨rfl, before⟩
  obtain ⟨_, -, rfl, after⟩ := accords.of_returned (fun _ => id) returned
  exact after

end Grammar

end Catena
