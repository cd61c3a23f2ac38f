import Catena.Proofs.Move
import Catena.Proofs.Observation

/-!
# Texts of one kind

States whose buffers and texts are sequences of one kind, last good states included. Sequences of
one kind join, and a state whose texts are sequences can move to a fresh buffer, where it looks the
same: `State.OfKind.detach`.
-/

namespace Catena

def Value.OfKind (kind : Kind) (v : Value) : Prop :=
  ∃ text, v = .seq text ∧ text.kind = kind

theorem Value.OfKind.plus {kind : Kind} {a b : Value} (left : a.OfKind kind)
    (right : b.OfKind kind) : ∃ c, a.plus? b = some c ∧ c.OfKind kind := by
  obtain ⟨s, rfl, rfl⟩ := left
  obtain ⟨t, rfl, same⟩ := right
  cases s <;> cases t <;> cases same <;> exact ⟨_, rfl, _, rfl, rfl⟩

theorem Value.OfKind.ofSum {kind : Kind} {a : Value} (h : a.OfKind kind) (b : Value) :
    Defect.ofSum a b = .mistyped := by
  obtain ⟨s, rfl, -⟩ := h
  exact Defect.ofSum_seq s b

theorem Value.OfKind.of_plus {kind : Kind} {a b c : Value} (h : a.OfKind kind)
    (sum : a.plus? b = some c) : c.OfKind kind := by
  obtain ⟨s, rfl, rfl⟩ := h
  cases b with
  | seq t =>
    obtain ⟨u, both, rfl⟩ := Option.map_eq_some_iff.mp sum
    cases s <;> cases t <;> cases both <;> exact ⟨_, rfl, rfl⟩
  | _ => simp [plus?] at sum

/-- What can be added to a text of a kind is of that kind. -/
theorem Value.OfKind.kind_of_plus {kind kind' : Kind} {a b c : Value} (left : a.OfKind kind)
    (right : b.OfKind kind') (sum : a.plus? b = some c) : kind' = kind := by
  obtain ⟨s, rfl, rfl⟩ := left
  obtain ⟨t, rfl, rfl⟩ := right
  obtain ⟨whole, both, -⟩ := Option.map_eq_some_iff.mp sum
  exact ((Sequence.append?_isSome s t).mp (by rw [both]; rfl)).symm

namespace State

/-- A state whose buffer and matched text are of one kind, and so are those of its last good
state. -/
inductive OfKind (kind : Kind) : State → Prop where
  | clean {s : State} (source : s.source.kind = kind) (matched : s.matched.OfKind kind)
      (absent : s.lastGood = none) : OfKind kind s
  | snapshot {s good : State} (source : s.source.kind = kind) (matched : s.matched.OfKind kind)
      (present : s.lastGood = some good) (below : OfKind kind good) : OfKind kind s

namespace OfKind

variable {kind : Kind} {s r t : State}

theorem source (h : s.OfKind kind) : s.source.kind = kind := by
  cases h <;> assumption

theorem matched (h : s.OfKind kind) : s.matched.OfKind kind := by
  cases h <;> assumption

theorem noText (h : s.OfKind kind) : s.noText.OfKind kind :=
  ⟨_, rfl, by rw [Sequence.kind_empty, h.source]⟩

theorem lastGood (h : s.OfKind kind) {good : State} (present : s.lastGood = some good) :
    good.OfKind kind := by
  cases h with
  | clean _ _ absent => cases absent.symm.trans present
  | snapshot _ _ present' below =>
    obtain rfl := Option.some.inj (present'.symm.trans present)
    exact below

theorem keep (h : s.OfKind kind) (source : r.source.kind = kind) (matched : r.matched.OfKind kind)
    (snapshot : r.lastGood = s.lastGood) : r.OfKind kind := by
  cases present : s.lastGood with
  | none => exact .clean source matched (snapshot.trans present)
  | some good => exact .snapshot source matched (snapshot.trans present) (h.lastGood present)

theorem withText (h : s.OfKind kind) {v : Value} (text : v.OfKind kind) :
    OfKind kind { s with matched := v } :=
  h.keep h.source text rfl

theorem resumed (h : s.OfKind kind) : (s.lastGood.getD s).OfKind kind := by
  cases present : s.lastGood with
  | none => exact h
  | some good => exact h.lastGood present

theorem settle (before : s.OfKind kind) (after : r.OfKind kind) : (s.settle r).OfKind kind := by
  unfold State.settle
  split
  · exact .clean after.source after.matched rfl
  split
  · exact .snapshot after.source after.matched rfl before
  · exact after

theorem moves (h : s.OfKind kind) (moved : s.Moves r) : r.OfKind kind := by
  have slice : ∀ lo hi, Value.OfKind kind (.seq (s.source.slice lo hi)) :=
    fun lo hi => ⟨_, rfl, by rw [Sequence.kind_slice, h.source]⟩
  refine h.keep (by rw [moved.source, h.source]) ?_ moved.lastGood
  cases moved with
  | mismatch | pass | build => exact h.noText
  | failed => exact h.matched
  | take | skip => exact slice _ _

/-- A state whose texts are sequences moves to a fresh buffer, and still looks the same. -/
theorem detach (h : s.OfKind kind) (alike : Alike Window.Same s t) :
    ∃ d, s.detach = some d ∧ Alike Window.Same d t ∧ d.OfKind kind := by
  have fresh : ∀ {u v : State}, Agrees Window.Same u v →
      Window.Same ⟨u.unconsumed, 0, u.unconsumed.length⟩ v.window :=
    fun {u v} agrees => ⟨Window.inside_fresh u.window, agrees.window.right,
      (Window.rest_fresh u.window).trans agrees.window.rest⟩
  have unconsumed : ∀ {u : State}, u.OfKind kind → u.unconsumed.kind = kind :=
    fun of => (Sequence.kind_slice _ _ _).trans of.source
  induction alike with
  | @clean u v here left right =>
    obtain ⟨text, same, kind⟩ := h.matched
    refine ⟨_, by rw [detach_eq, left, same]; rfl, ?_, ?_⟩
    · exact .clean ⟨fresh here, same.symm.trans here.matched, here.value, here.ok⟩ rfl right
    · exact .clean (unconsumed h) ⟨_, rfl, kind⟩ rfl
  | @snapshot u v good good' here left right below ih =>
    obtain ⟨text, same, kind⟩ := h.matched
    obtain ⟨d, moved, alike, of⟩ := ih (h.lastGood left)
    refine ⟨_, by rw [detach_eq, left, same]; simp only [moved]; rfl, ?_, ?_⟩
    · exact .snapshot ⟨fresh here, same.symm.trans here.matched, here.value, here.ok⟩ rfl right alike
    · exact .snapshot (unconsumed h) ⟨_, rfl, kind⟩ rfl of

/-- A state whose texts are sequences moves to a fresh buffer. -/
theorem detached (h : s.OfKind kind) : ∃ d, s.detach = some d ∧ d.OfKind kind := by
  have unconsumed : ∀ {u : State}, u.OfKind kind → u.unconsumed.kind = kind :=
    fun of => (Sequence.kind_slice _ _ _).trans of.source
  induction h with
  | @clean s source matched absent =>
    have of : s.OfKind kind := .clean source matched absent
    obtain ⟨text, same, kind⟩ := matched
    refine ⟨_, by rw [detach_eq, absent, same]; rfl, ?_⟩
    exact .clean (unconsumed of) ⟨_, rfl, kind⟩ rfl
  | @snapshot s good source matched present below ih =>
    have of : s.OfKind kind := .snapshot source matched present below
    obtain ⟨text, same, kind⟩ := matched
    obtain ⟨d, moved, after⟩ := ih
    refine ⟨_, by rw [detach_eq, present, same]; simp only [moved]; rfl, ?_⟩
    exact .snapshot (unconsumed of) ⟨_, rfl, kind⟩ rfl after

end OfKind

end State

end Catena
