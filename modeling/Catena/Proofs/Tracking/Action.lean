import Catena.Proofs.Bond

/-!
# Actions that track each other

Two actions track each other under a family of relations between windows if they take alike states
to runs that agree, with alike states or alike faults at the end. Under a stable family the
elementary actions track themselves, and likeness is a lawful bond, so that the other actions track
each other if what they are made of does.
-/

namespace Catena

variable {ι : Type} {W : ι → Window → Window → Prop}

/-- Two actions take alike states to alike ends. -/
def Action.Tracks (W : ι → Window → Window → Prop) (act act' : Action) : Prop :=
  ∀ i s t, State.Alike (W i) s t →
    (act s).Agree (State.Alike (W i)) (Fault.Alike W) (act' t)

namespace Run.Agree

variable {α β : Type}

theorem need_eq {defect : Defect} (o : Option α) (present : defect ≠ .outOfRange) :
    Run.Agree Eq (Fault.Alike W) (Run.need defect o) (Run.need defect o) := by
  refine need ?_ (.defect present)
  cases o with
  | none => exact .none
  | some a => exact .some rfl

theorem callback [Listed α] (f : Callback α β) (a : α) :
    Run.Agree Eq (Fault.Alike W) (f.call a) (f.call a) :=
  call f a Fault.Alike.complaint

theorem verdict [Listed α] (f : Callback α Value) (a : α) :
    Run.Agree Eq (Fault.Alike W) (f.test a) (f.test a) :=
  test f a Fault.Alike.complaint

end Run.Agree

namespace Action.Tracks

open Run (Agree)

/-! ### Elementary actions -/

section Elementary

variable (stable : Window.Stable W)
include stable

theorem literal (text : Plain) (caseSensitive : Bool) :
    Tracks W (.literal text caseSensitive) (.literal text caseSensitive) := by
  intro i s t h
  have mismatch := Agree.pure (E := Fault.Alike W) (h.mismatch stable)
  refine Agree.bind_eq (Agree.need_eq _ (by decide)) fun length => ?_
  have advance := Agree.pure (E := Fault.Alike W) (h.advance stable (Int.natCast_nonneg length))
  rw [← h.peek stable (Int.natCast_nonneg length)]
  cases s.peek length with
  | none => exact mismatch
  | some chunk =>
    dsimp only
    split
    · exact advance
    split
    · exact mismatch
    refine Agree.bind_eq (Agree.need_eq _ (by decide)) fun found => ?_
    refine Agree.bind_eq (Agree.need_eq _ (by decide)) fun wanted => ?_
    split
    · exact advance
    · exact mismatch

theorem outcome (ok : Bool) : Tracks W (.outcome ok) (.outcome ok) := by
  intro i s t h
  cases ok with
  | true => exact .pure (h.pass stable)
  | false => exact .pure (h.mismatch stable)

theorem check (test : TextFunction) : Tracks W (.check test) (.check test) := by
  intro i s t h
  unfold Action.check
  rw [← h.matched, ← h.value]
  refine Agree.bind_eq (Agree.verdict _ _) fun holds => ?_
  cases holds with
  | true => exact .pure (h.pass stable)
  | false => exact .pure h.failed

theorem build (function : TextFunction) : Tracks W (.build function) (.build function) := by
  intro i s t h
  unfold Action.build
  rw [← h.matched, ← h.value, ← h.noText stable]
  refine Agree.bind_eq (Agree.callback _ _) fun value => ?_
  exact .pure ((h.withText _).withValue value)

theorem singleItem (test : ItemFunction) : Tracks W (.singleItem test) (.singleItem test) := by
  intro i s t h
  unfold Action.singleItem
  rw [← h.atEnd stable]
  split
  · exact .pure (h.mismatch stable)
  rename_i more
  simp only [State.atEnd, decide_eq_true_eq] at more
  obtain ⟨item, left, right⟩ := h.item? stable (Int.le_refl 0)
    (by simp only [State.remaining]; omega)
  rw [Int.add_zero] at left right
  rw [left, right]
  refine Agree.bind_eq (Agree.pure (rfl : item = item)) fun item => ?_
  refine Agree.bind_eq (Agree.verdict _ _) fun holds => ?_
  cases holds with
  | true => exact .pure (h.advance stable (by decide))
  | false => exact .pure (h.mismatch stable)

theorem scan (test : ItemFunction) (stopsWhenTrue : Bool) {i : ι} {s t : State}
    (h : State.Alike (W i) s t) :
    (Action.scan test stopsWhenTrue s.source s.remaining.toNat s.pos).Agree
      (fun p q => ∃ k, 0 ≤ k ∧ k ≤ s.remaining ∧ p = s.pos + k ∧ q = t.pos + k) (Fault.Alike W)
      (Action.scan test stopsWhenTrue t.source t.remaining.toNat t.pos) := by
  have nonneg : 0 ≤ s.remaining := Window.remaining_nonneg (h.same stable).left
  rw [← h.remaining stable]
  -- The items not yet looked at are as many as there are turns left.
  refine Agree.loop (I := fun left p q => ∃ k : Int, 0 ≤ k ∧ k + left = s.remaining ∧
    p = s.pos + k ∧ q = t.pos + k) ?_ ?_ ⟨0, by omega, by omega, by omega, by omega⟩
  · rintro left p q ⟨k, hk, inside, rfl, rfl⟩
    obtain ⟨item, first, second⟩ := h.item? stable hk (by omega)
    unfold Action.scanItem
    rw [first, second]
    refine Agree.bind_eq (Agree.pure (rfl : item = item)) fun item => ?_
    refine Agree.bind_eq (Agree.verdict _ _) fun holds => ?_
    split
    · exact .pure ⟨k + 1, by omega, by omega, by omega, by omega⟩
    · exact .pure ⟨k, hk, by omega, rfl, rfl⟩
  · rintro p q ⟨k, hk, inside, rfl, rfl⟩
    exact .pure ⟨k, hk, by omega, rfl, rfl⟩

theorem itemRun (test : ItemFunction) (keepTerminator stopsWhenTrue : Bool) :
    Tracks W (.itemRun test keepTerminator stopsWhenTrue)
      (.itemRun test keepTerminator stopsWhenTrue) := by
  intro i s t h
  have left := h.remaining stable
  refine (scan stable test stopsWhenTrue h).bind ?_
  rintro p q ⟨k, hk, inside, rfl, rfl⟩
  simp only [State.remaining] at left inside
  -- The terminator is consumed where there is one.
  obtain ⟨n, hn, bound, first, second⟩ : ∃ n, 0 ≤ n ∧ n ≤ s.remaining ∧
      (if s.pos + k < s.limit then s.pos + k + 1 else s.pos + k) = s.pos + n ∧
      (if t.pos + k < t.limit then t.pos + k + 1 else t.pos + k) = t.pos + n := by
    simp only [State.remaining]
    by_cases more : s.pos + k < s.limit
    · exact ⟨k + 1, by omega, by omega, by rw [if_pos more]; omega, by rw [if_pos]; all_goals omega⟩
    · exact ⟨k, hk, by omega, by rw [if_neg more], by rw [if_neg]; omega⟩
  dsimp only
  rw [first, second]
  have distance : ∀ u : State, u.pos + n - u.pos = n := fun u => by omega
  rw [distance, distance]
  have text : s.source.slice s.pos (if keepTerminator then s.pos + n else s.pos + k) =
      t.source.slice t.pos (if keepTerminator then t.pos + n else t.pos + k) := by
    cases keepTerminator with
    | true => exact h.slice stable hn bound
    | false => exact h.slice stable hk (by simp only [State.remaining]; omega)
  rw [text]
  exact .pure (h.advanceWith stable hn _)

theorem everything : Tracks W .everything .everything := by
  intro i s t h
  unfold Action.everything
  rw [← h.remaining stable]
  exact .pure (h.advance stable (Window.remaining_nonneg (h.same stable).left))

theorem endOfInput : Tracks W .endOfInput .endOfInput := by
  intro i s t h
  unfold Action.endOfInput
  rw [← h.atEnd stable]
  split
  · exact .pure (h.pass stable)
  · exact .pure (h.mismatch stable)

theorem throws (kind : SignalKind) (msg : Option String) (trigger : Trigger) :
    Tracks W (.throws kind msg trigger) (.throws kind msg trigger) := by
  intro i s t h
  unfold Action.throws
  rw [← h.ok]
  split
  · simp only [Signal.raised, Signal.withNote, State.note_of_nonneg (h.same stable).left.1,
      State.note_of_nonneg (h.same stable).right.1, Except.map]
    exact .raise (.signal rfl rfl (.some ⟨i, h⟩))
  · split
    · exact .pure (h.pass stable)
    · exact .pure h

end Elementary

end Action.Tracks

/-! ### The bond of alike states -/

def Window.bond (W : ι → Window → Window → Prop) : Bond ι where
  ready i := State.Alike (W i)
  done i := State.Alike (W i)
  text _ _ := True
  fault := Fault.Alike W

theorem Window.bond_lawful (stable : Window.Stable W) : (Window.bond W).Lawful where
  done_of_ready := id
  ready_of_ok h _ := h
  resumed h _ := h.resumed
  ok h := h.ok
  matched h := ⟨h.matched, trivial⟩
  value h := h.value
  remaining h := h.remaining stable
  noText h := ⟨h.noText stable, trivial⟩
  settle before after := before.settle after
  withText h _ := h.withText _
  withValue h := h.withValue _
  restore before after := after.restore before
  close before last _ :=
    before.settle (last.keep ⟨last.window, rfl, last.value, rfl⟩ rfl rfl)
  fresh h := .clean ⟨h.window, h.noText stable, rfl, rfl⟩ rfl rfl
  cut := by
    intro i s t full full' length before unrestricted _ nonneg bound
    have left : 0 ≤ full.remaining := Window.remaining_nonneg (unrestricted.same stable).left
    obtain ⟨j, weaker, clip⟩ := stable.clip before.window nonneg
      (show length ≤ s.remaining by omega)
    refine ⟨j, (before.weaken weaker).keep ⟨clip, before.matched, before.value, before.ok⟩ rfl rfl,
      fun c c' after _ => ?_⟩
    rw [after.matched, after.value]
    exact before.taken stable nonneg (show length ≤ s.remaining by omega) _ _
  plus _ _ _ := trivial
  misfit _ _ _ := .defect (Defect.ofSum_present _ _)
  complaint := Fault.Alike.complaint
  signal h := by
    cases h with
    | @signal raised raised' kind => exact .inl ⟨raised, raised', rfl, rfl, kind⟩
    | refusal | undefined | defect => exact .inr ⟨nofun, nofun⟩
  endsIteration h := by
    cases h with
    | signal kind => simp only [Fault.endsIteration, kind]
    | refusal | undefined | defect => rfl
  interrupted := .defect (by decide)

end Catena
