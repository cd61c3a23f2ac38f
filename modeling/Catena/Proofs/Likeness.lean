import Catena.Proofs.Agreement
import Catena.Proofs.Outcome
import Catena.Proofs.Window
import Catena.Meaning

/-!
# Alike states

Two states are alike under a relation between windows if their windows are related, all else agrees,
and their last good states are alike again. The relations of interest come in families that are
stable: related windows hold the same items, and stay related when items are consumed or windows are
cut. Every move of a state keeps likeness under a stable family.
-/

namespace Catena

variable {ι : Type} {W : ι → Window → Window → Prop} {i : ι}

/-- Reading goes along with the relations of a family. A cut window may need a weaker member of the
family, since no window that comes of it is ever put back into the whole one. -/
structure Window.Stable (W : ι → Window → Window → Prop) : Prop where
  same : ∀ {i a b}, W i a b → Window.Same a b
  skip : ∀ {i a b k}, W i a b → 0 ≤ k → k ≤ a.remaining → W i (a.skip k) (b.skip k)
  clip : ∀ {i a b k}, W i a b → 0 ≤ k → k ≤ a.remaining →
    ∃ j, (∀ c d, W i c d → W j c d) ∧ W j (a.clip k) (b.clip k)

def Window.Detachable (W : ι → Window → Window → Prop) : Prop :=
  ∀ i a b, W i a b → W i a.fresh b.fresh

namespace State

/-! ### What is left to the caller of a run -/

section Settled

variable {before after good : State}

theorem settle_of_ok (ok : after.ok = true) :
    before.settle after = { after with lastGood := none } :=
  if_pos ok

theorem settle_ok (before after : State) : (before.settle after).ok = after.ok := by
  unfold settle
  split
  · rfl
  · split <;> rfl

/-- A settled result differs in nothing but its snapshot. -/
theorem settle_eq (before after : State) :
    ∃ good, before.settle after = { after with lastGood := good } := by
  unfold settle
  split
  · exact ⟨_, rfl⟩
  split
  · exact ⟨_, rfl⟩
  · cases after
    exact ⟨_, rfl⟩

theorem settle_window (before after : State) : (before.settle after).window = after.window := by
  unfold settle
  split
  · rfl
  · split <;> rfl

theorem settle_of_clean (ok : after.ok = true) (clean : after.lastGood = none) :
    before.settle after = after := by
  rw [settle_of_ok ok]
  cases after
  exact congrArg _ clean.symm

theorem settle_of_snapshot (failed : after.ok = false) (snapshot : after.lastGood = some good) :
    before.settle after = after := by
  simp [settle, failed, snapshot]

theorem settle_of_failed (live : before.ok = true) (failed : after.ok = false)
    (absent : after.lastGood = none) :
    before.settle after = { after with lastGood := some before } := by
  simp [settle, live, failed, absent]

theorem settle_of_not_ok (dead : before.ok = false) (failed : after.ok = false) :
    before.settle after = after := by
  simp [settle, dead, failed]

theorem settled_clean {body : Action} (h : (body.settled before).outcome = .returned after)
    (ok : after.ok = true) : after.lastGood = none := by
  obtain ⟨t, -, settled⟩ := Run.bind_returned_iff.mp h
  obtain rfl := Run.pure_returned_iff.mp settled
  rw [settle_ok] at ok
  rw [settle_of_ok ok]

end Settled

/-! ### Likeness -/

/-- Two states agree in all but the source and the place of their windows, which are related. -/
structure Agrees (W : Window → Window → Prop) (s t : State) : Prop where
  window : W s.window t.window
  matched : s.matched = t.matched
  value : s.value = t.value
  ok : s.ok = t.ok

inductive Alike (W : Window → Window → Prop) : State → State → Prop where
  | clean {s t : State} (here : Agrees W s t) (left : s.lastGood = none)
      (right : t.lastGood = none) : Alike W s t
  | snapshot {s t good good' : State} (here : Agrees W s t) (left : s.lastGood = some good)
      (right : t.lastGood = some good') (below : Alike W good good') : Alike W s t

theorem alike_iff {W : Window → Window → Prop} {s t : State} :
    Alike W s t ↔ Agrees W s t ∧ Option.Rel (Alike W) s.lastGood t.lastGood := by
  constructor
  · rintro (⟨here, left, right⟩ | ⟨here, left, right, below⟩)
    · exact ⟨here, by rw [left, right]; exact .none⟩
    · exact ⟨here, by rw [left, right]; exact .some below⟩
  · rintro ⟨here, snapshots⟩
    cases left : s.lastGood <;> cases right : t.lastGood <;> rw [left, right] at snapshots <;>
      cases snapshots
    · exact .clean here left right
    · rename_i below
      exact .snapshot here left right below

theorem Alike.weaken {W V : Window → Window → Prop} (weaker : ∀ a b, W a b → V a b) {s t : State}
    (h : Alike W s t) : Alike V s t := by
  induction h with
  | clean here left right =>
    exact .clean ⟨weaker _ _ here.window, here.matched, here.value, here.ok⟩ left right
  | snapshot here left right _ ih =>
    exact .snapshot ⟨weaker _ _ here.window, here.matched, here.value, here.ok⟩ left right ih

namespace Alike

variable {s t s' t' : State}

theorem here (h : Alike (W i) s t) : Agrees (W i) s t := (alike_iff.mp h).1

theorem snapshots (h : Alike (W i) s t) : Option.Rel (Alike (W i)) s.lastGood t.lastGood :=
  (alike_iff.mp h).2

theorem window (h : Alike (W i) s t) : W i s.window t.window := h.here.window

theorem matched (h : Alike (W i) s t) : s.matched = t.matched := h.here.matched

theorem value (h : Alike (W i) s t) : s.value = t.value := h.here.value

theorem ok (h : Alike (W i) s t) : s.ok = t.ok := h.here.ok

/-- States that keep the last good states of alike ones need to agree themselves. -/
theorem keep (h : Alike (W i) s t) (here : Agrees (W i) s' t') (left : s'.lastGood = s.lastGood)
    (right : t'.lastGood = t.lastGood) : Alike (W i) s' t' :=
  alike_iff.mpr ⟨here, by rw [left, right]; exact h.snapshots⟩

theorem forget (h : Alike (W i) s t) :
    Alike (W i) { s with lastGood := none } { t with lastGood := none } :=
  .clean ⟨h.window, h.matched, h.value, h.ok⟩ rfl rfl

theorem withText (h : Alike (W i) s t) (text : Value) :
    Alike (W i) { s with matched := text } { t with matched := text } :=
  h.keep ⟨h.window, rfl, h.value, h.ok⟩ rfl rfl

theorem withValue (h : Alike (W i) s t) (value : Value) :
    Alike (W i) { s with value } { t with value } :=
  h.keep ⟨h.window, h.matched, rfl, h.ok⟩ rfl rfl

theorem failed (h : Alike (W i) s t) : Alike (W i) s.failed t.failed :=
  h.keep ⟨h.window, h.matched, h.value, rfl⟩ rfl rfl

theorem restore (h : Alike (W i) s t) (before : Alike (W i) s' t') :
    Alike (W i) { s with source := s'.source, pos := s'.pos, limit := s'.limit }
      { t with source := t'.source, pos := t'.pos, limit := t'.limit } :=
  h.keep ⟨before.window, h.matched, h.value, h.ok⟩ rfl rfl

theorem settle (before : Alike (W i) s t) (after : Alike (W i) s' t') :
    Alike (W i) (s.settle s') (t.settle t') := by
  cases good : s'.ok with
  | true =>
    rw [settle_of_ok good, settle_of_ok (after.ok ▸ good)]
    exact after.forget
  | false =>
    have good' : t'.ok = false := after.ok ▸ good
    have snapshots := after.snapshots
    cases left : s'.lastGood <;> cases right : t'.lastGood <;> rw [left, right] at snapshots <;>
      cases snapshots
    · cases live : s.ok with
      | true =>
        rw [settle_of_failed live good left, settle_of_failed (before.ok ▸ live) good' right]
        exact .snapshot ⟨after.window, after.matched, after.value, after.ok⟩ rfl rfl before
      | false =>
        rw [settle_of_not_ok live good, settle_of_not_ok (before.ok ▸ live) good']
        exact after
    · rw [settle_of_snapshot good left, settle_of_snapshot good' right]
      exact after

theorem resumed (h : Alike (W i) s t) : Alike (W i) (s.lastGood.getD s) (t.lastGood.getD t) := by
  have snapshots := h.snapshots
  cases left : s.lastGood <;> cases right : t.lastGood <;> rw [left, right] at snapshots <;>
    cases snapshots
  · exact h
  · assumption

/-! ### Moves that read the window -/

variable (stable : Window.Stable W)
include stable

theorem same (h : Alike (W i) s t) : Window.Same s.window t.window := stable.same h.window

theorem remaining (h : Alike (W i) s t) : s.remaining = t.remaining := (h.same stable).remaining

theorem atEnd (h : Alike (W i) s t) : s.atEnd = t.atEnd := by
  have left := h.remaining stable
  unfold State.remaining at left
  simp only [State.atEnd, decide_eq_decide]
  omega

theorem noText (h : Alike (W i) s t) : s.noText = t.noText :=
  congrArg Value.seq (Sequence.empty_eq_of_kind (h.same stable).kind)

theorem pass (h : Alike (W i) s t) : Alike (W i) s.pass t.pass :=
  h.keep ⟨h.window, h.noText stable, h.value, rfl⟩ rfl rfl

theorem mismatch (h : Alike (W i) s t) : Alike (W i) s.mismatch t.mismatch :=
  h.keep ⟨h.window, h.noText stable, h.value, rfl⟩ rfl rfl

theorem slice (h : Alike (W i) s t) {count : Int} (nonneg : 0 ≤ count)
    (bound : count ≤ s.remaining) :
    s.source.slice s.pos (s.pos + count) = t.source.slice t.pos (t.pos + count) := by
  have same := (h.same stable).slice (Int.le_refl 0) nonneg bound
  simpa only [State.window, Int.add_zero] using same

theorem peek (h : Alike (W i) s t) {count : Int} (nonneg : 0 ≤ count) :
    s.peek count = t.peek count := by
  have left := h.remaining stable
  unfold State.remaining at left
  simp only [State.peek, State.hasItems, decide_eq_true_eq]
  by_cases bound : s.pos + count ≤ s.limit
  · rw [if_pos bound, if_pos (by omega),
      h.slice stable nonneg (by simp only [State.remaining]; omega)]
  · rw [if_neg bound, if_neg (by omega)]

theorem item? (h : Alike (W i) s t) {k : Int} (nonneg : 0 ≤ k) (bound : k < s.remaining) :
    ∃ item, s.source.item? (s.pos + k) = some item ∧ t.source.item? (t.pos + k) = some item := by
  obtain ⟨hpos, _, hlimit⟩ := (h.same stable).left
  have same := (h.same stable).item? nonneg bound
  simp only [State.window] at hpos hlimit same
  obtain ⟨item, found⟩ := Sequence.item?_isSome s.source (i := s.pos + k) (by omega)
    (by simp only [State.remaining] at bound; omega)
  exact ⟨item, found, same ▸ found⟩

omit stable in
/-- Consuming stops at the end of the window. -/
theorem window_advanceWith (s : State) (count : Int) (text : Value) :
    (s.advanceWith count text).window = s.window.skip (min count s.remaining) := by
  simp only [State.advanceWith, State.window, Window.skip, State.remaining, Window.mk.injEq,
    true_and, and_true]
  omega

theorem advanceWith (h : Alike (W i) s t) {count : Int} (nonneg : 0 ≤ count) (text : Value) :
    Alike (W i) (s.advanceWith count text) (t.advanceWith count text) := by
  have left : 0 ≤ s.remaining := Window.remaining_nonneg (h.same stable).left
  refine h.keep ⟨?_, rfl, h.value, rfl⟩ rfl rfl
  rw [window_advanceWith, window_advanceWith, ← h.remaining stable]
  exact stable.skip h.window (by omega) (Int.min_le_right _ _)

theorem advance (h : Alike (W i) s t) {count : Int} (nonneg : 0 ≤ count) :
    Alike (W i) (s.advance count) (t.advance count) := by
  have left : 0 ≤ s.remaining := Window.remaining_nonneg (h.same stable).left
  have taken : ∀ u : State, min (u.pos + count) u.limit = u.pos + min count u.remaining := by
    intro u; simp only [State.remaining]; omega
  unfold State.advance
  rw [taken s, taken t, ← h.remaining stable,
    h.slice stable (show 0 ≤ min count s.remaining by omega) (Int.min_le_right _ _)]
  exact h.advanceWith stable nonneg _

theorem taken (h : Alike (W i) s t) {length : Int} (nonneg : 0 ≤ length)
    (bound : length ≤ s.remaining) (text value : Value) :
    Alike (W i) { s with pos := s.pos + length, matched := text, value, ok := true }
      { t with pos := t.pos + length, matched := text, value, ok := true } :=
  h.keep ⟨stable.skip h.window nonneg bound, rfl, rfl, rfl⟩ rfl rfl

end Alike

/-! ### Fresh buffers -/

theorem detach_eq (s : State) :
    s.detach = s.matched.sequence?.bind fun text =>
      match s.lastGood with
      | none => some ⟨s.unconsumed, 0, s.unconsumed.length, .seq text, s.value, s.ok, none⟩
      | some good => good.detach.map fun good =>
          ⟨s.unconsumed, 0, s.unconsumed.length, .seq text, s.value, s.ok, some good⟩ := by
  obtain ⟨source, pos, limit, matched, value, ok, _ | good⟩ := s <;>
    simp only [detach, unconsumed]
  · rfl
  · cases matched.sequence? <;> cases good.detach <;> rfl

/-- A copy on a fresh buffer holds the same items, and has the same text, value and outcome. -/
theorem detach_some {s r : State} (moved : s.detach = some r) :
    r.window = s.window.fresh ∧ r.matched = s.matched ∧ r.value = s.value ∧ r.ok = s.ok := by
  rw [detach_eq, Option.bind_eq_some_iff] at moved
  obtain ⟨text, same, moved⟩ := moved
  have matched : s.matched = .seq text := by
    cases h : s.matched <;> rw [h] at same <;> cases same
    rfl
  rw [matched]
  cases snapshot : s.lastGood with
  | none =>
    rw [snapshot] at moved
    obtain rfl := Option.some.inj moved
    exact ⟨rfl, rfl, rfl, rfl⟩
  | some good =>
    rw [snapshot] at moved
    obtain ⟨below, -, rfl⟩ := Option.map_eq_some_iff.mp moved
    exact ⟨rfl, rfl, rfl, rfl⟩

/-- Detaching is possible on both sides or on none, and leads to alike states. -/
theorem Alike.detach (detachable : Window.Detachable W) {s t : State} (h : Alike (W i) s t) :
    Option.Rel (Alike (W i)) s.detach t.detach := by
  have fresh : ∀ {u v : State}, Agrees (W i) u v →
      W i ⟨u.unconsumed, 0, u.unconsumed.length⟩ ⟨v.unconsumed, 0, v.unconsumed.length⟩ :=
    fun agrees => detachable i _ _ agrees.window
  induction h with
  | @clean s t here left right =>
    rw [detach_eq, detach_eq, left, right, here.matched]
    cases t.matched.sequence? with
    | none => exact .none
    | some text => exact .some (.clean ⟨fresh here, rfl, here.value, here.ok⟩ rfl rfl)
  | @snapshot s t good good' here left right below ih =>
    rw [detach_eq, detach_eq, left, right, here.matched]
    cases t.matched.sequence? with
    | none => exact .none
    | some text =>
      simp only [Option.bind_some]
      cases first : good.detach <;> cases second : good'.detach <;> rw [first, second] at ih <;>
        cases ih
      · exact .none
      · rename_i ih
        exact .some (.snapshot ⟨fresh here, rfl, here.value, here.ok⟩ rfl rfl ih)

end State

/-! ### Faults -/

/-- Two faults are alike if they are signals of one kind and message raised on states that are
alike, or the same fault otherwise. No parser misses an item inside its window. -/
inductive Fault.Alike (W : ι → Window → Window → Prop) : Fault → Fault → Prop where
  | signal {raised raised' : Signal} (kind : raised.kind = raised'.kind)
      (msg : raised.msg = raised'.msg)
      (state : Option.Rel (fun s t => ∃ i, State.Alike (W i) s t) raised.state raised'.state) :
      Fault.Alike W (.signal raised) (.signal raised')
  | refusal (reason : Refusal) : Fault.Alike W (.refusal reason) (.refusal reason)
  | undefined (name : String) : Fault.Alike W (.undefined name) (.undefined name)
  | defect {what : Defect} (present : what ≠ .outOfRange) :
      Fault.Alike W (.defect what) (.defect what)

theorem Fault.Alike.complaint (complaint : Complaint) :
    Fault.Alike W complaint.fault complaint.fault := by
  cases complaint with
  | signal kind msg => exact .signal rfl rfl .none
  | refusal reason => exact .refusal reason

end Catena
