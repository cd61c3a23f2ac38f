import Mathlib
import Catena.Proofs.Tracking

/-!
# The cursor of a state

Where the windows of results lie: inside their buffers, at a suffix of what was left, and in the
given buffer if nothing moves to a fresh one. Each is tracking of a state with itself, under the
equality of windows that have a property; `Grammar.act_cursor` puts them together.
-/

namespace Catena

variable {P : Window → Prop}

namespace Window

/-- One window, inside its buffer, that has a property if it is whole. The property is given up
inside a cut window. -/
def Within (P : Window → Prop) (whole : Bool) (a b : Window) : Prop :=
  a = b ∧ a.Inside ∧ (whole = true → P a)

def Kept (P : Window → Prop) : Prop :=
  ∀ w k, w.Inside → 0 ≤ k → k ≤ w.remaining → P w → P (w.skip k)

theorem within_stable (kept : Kept P) : Stable (Within P) where
  same := by
    rintro whole a _ ⟨rfl, inside, -⟩
    exact Same.refl inside
  skip := by
    rintro whole a _ k ⟨rfl, inside, has⟩ hk bound
    exact ⟨rfl, inside_skip inside hk bound, fun h => kept a k inside hk bound (has h)⟩
  clip := by
    rintro whole a _ k ⟨rfl, inside, -⟩ hk bound
    refine ⟨false, ?_, rfl, inside_clip inside hk bound, fun cut => absurd cut (by decide)⟩
    rintro c _ ⟨rfl, there, -⟩
    exact ⟨rfl, there, fun cut => absurd cut (by decide)⟩

theorem within_detachable (fresh : ∀ w, P w → P w.fresh) : Detachable (Within P) := by
  rintro whole a _ ⟨rfl, -, has⟩
  exact ⟨rfl, inside_fresh a, fun h => fresh a (has h)⟩

/-! ### Properties that consuming items keeps -/

def Ending (sequence : Buffer) (w : Window) : Prop :=
  w.rest.IsSuffix sequence

theorem ending_kept (sequence : Buffer) : Kept (Ending sequence) :=
  fun _ _ inside hk bound ending =>
    Sequence.isSuffix_trans (rest_skip_isSuffix inside hk bound) ending

theorem ending_fresh (sequence : Buffer) (w : Window) (h : w.Ending sequence) :
    w.fresh.Ending sequence := by
  unfold Ending
  rw [rest_fresh]
  exact h

def After (before w : Window) : Prop :=
  w.source = before.source ∧ w.limit = before.limit ∧ before.pos ≤ w.pos

theorem after_kept (before : Window) : Kept (After before) := by
  rintro w k - hk - ⟨source, limit, later⟩
  exact ⟨source, limit, Int.le_trans later (Int.le_add_of_nonneg_right hk)⟩

end Window

namespace State

def Holds (P : Window → Prop) (s : State) : Prop :=
  ∀ u, u = s ∨ s.lastGood = some u → u.window.Inside ∧ P u.window

theorem remaining_le_of_ending {s u : State} (inside : s.window.Inside) (there : u.window.Inside)
    (left : u.window.Ending s.unconsumed) : u.remaining ≤ s.remaining := by
  have shorter := Sequence.length_le_of_isSuffix left
  have before := Window.length_rest inside
  have after := Window.length_rest there
  show u.window.remaining ≤ s.window.remaining
  rw [← before, ← after]
  exact Int.ofNat_le.mpr shorter

theorem Alike.holds {s t : State} (h : Alike (Window.Within P true) s t) : s.Holds P := by
  rintro u (rfl | found)
  · obtain ⟨-, inside, has⟩ := h.window
    exact ⟨inside, has rfl⟩
  · have snapshots := h.snapshots
    rw [found] at snapshots
    cases right : t.lastGood <;> rw [right] at snapshots <;> cases snapshots
    rename_i below
    obtain ⟨-, inside, has⟩ := below.window
    exact ⟨inside, has rfl⟩

theorem alike_self {s : State} (inside : s.window.Inside) (has : P s.window)
    (clean : s.lastGood = none) : Alike (Window.Within P true) s s :=
  .clean ⟨⟨rfl, inside, fun _ => has⟩, rfl, rfl, rfl⟩ clean clean

end State

/-- From a window inside its buffer and without a snapshot, results lie inside their buffers, with
no more left than before; a success leaves no snapshot. -/
def Action.Advances (act : Action) : Prop :=
  ∀ s r : State, s.window.Inside → s.lastGood = none → (act s).outcome = .returned r →
    r.window.Inside ∧ r.remaining ≤ s.remaining ∧ (r.ok = true → r.lastGood = none)

namespace Action.Tracks

variable {act : Action} {s : State}

theorem returned_holds (h : Tracks (Window.Within P) act act) (inside : s.window.Inside)
    (has : P s.window) (clean : s.lastGood = none) {r : State}
    (returned : (act s).outcome = .returned r) : r.Holds P :=
  ((h true s s (State.alike_self inside has clean)).returned returned returned).holds

theorem never_outOfRange (h : Tracks (Window.Within P) act act) (inside : s.window.Inside)
    (has : P s.window) (clean : s.lastGood = none) :
    (act s).outcome ≠ .raised (.defect .outOfRange) := by
  intro raised
  cases (h true s s (State.alike_self inside has clean)).raised raised raised with
  | defect present => exact present rfl

end Action.Tracks

namespace Grammar

variable {g : Grammar} {parser : Parser}

theorem act_tracks_suffix (free : g.StepFree parser) (granted : Granted) (sequence : Buffer) :
    Action.Tracks (Window.Within (Window.Ending sequence)) (parser.act (g.setting granted))
      (parser.act (g.setting granted)) := by
  refine act_tracks (Window.within_stable (Window.ending_kept sequence)) ?_ granted
  exact fun part made =>
    ⟨free part made, fun _ => Window.within_detachable (Window.ending_fresh sequence)⟩

theorem act_tracks_place (free : g.StepFree parser) (still : g.ForceFree parser)
    (granted : Granted) (before : Window) :
    Action.Tracks (Window.Within (Window.After before)) (parser.act (g.setting granted))
      (parser.act (g.setting granted)) := by
  refine act_tracks (Window.within_stable (Window.after_kept before)) ?_ granted
  exact fun part made =>
    ⟨free part made, fun moves => absurd moves (by simp [still part made])⟩

theorem act_advances (free : g.StepFree parser) (granted : Granted) :
    (parser.act (g.setting granted)).Advances := by
  intro s r inside clean returned
  have ending : s.window.Ending s.unconsumed := Sequence.isSuffix_refl s.unconsumed
  obtain ⟨there, left⟩ := (act_tracks_suffix free granted s.unconsumed).returned_holds inside ending
    clean returned r (.inl rfl)
  exact ⟨there, State.remaining_le_of_ending inside there left, State.settled_clean returned⟩

/-- A result of a parser made without moves of the state, and the last good state it may carry, lie
in their buffers at a suffix of what was left. Without fresh buffers they lie in the given one,
where the window ends as before and does not begin earlier. No item outside a buffer is asked for.
-/
theorem act_cursor (free : g.StepFree parser) (granted : Granted) {s : State}
    (inside : s.window.Inside) (clean : s.lastGood = none) :
    (∀ r, (parser.act (g.setting granted) s).outcome = .returned r →
      ∀ u, u = r ∨ r.lastGood = some u →
        (0 ≤ u.pos ∧ u.pos ≤ u.limit ∧ u.limit ≤ u.source.length) ∧
        u.unconsumed.IsSuffix s.unconsumed ∧
        (g.ForceFree parser →
          u.source = s.source ∧ u.limit = s.limit ∧ s.pos ≤ u.pos)) ∧
    (parser.act (g.setting granted) s).outcome ≠ .raised (.defect .outOfRange) := by
  have suffix := act_tracks_suffix free granted s.unconsumed
  have ending : s.window.Ending s.unconsumed := Sequence.isSuffix_refl s.unconsumed
  refine ⟨fun r returned u member => ?_, suffix.never_outOfRange inside ending clean⟩
  obtain ⟨there, left⟩ := suffix.returned_holds inside ending clean returned u member
  refine ⟨there, left, fun still => ?_⟩
  have place := act_tracks_place free still granted s.window
  exact (place.returned_holds inside ⟨rfl, rfl, Int.le_refl _⟩ clean returned u member).2

theorem brackets_cursor :
    ∃ s r : State, s.window.Inside ∧ s.lastGood = none ∧ s.pos = 1 ∧ s.limit = 7 ∧
      (Parser.act (brackets.setting ⟨3, 0⟩) (.forward 0 "nested") s).outcome = .returned r ∧
      r.unconsumed.IsSuffix s.unconsumed ∧ r.source = s.source ∧ r.limit = 7 ∧ 1 ≤ r.pos := by
  have returned : (Parser.act (brackets.setting ⟨3, 0⟩) (.forward 0 "nested")
        ⟨.text "x[[a]]y".toList.toArray, 1, 7, .ofString "", .null, true, none⟩).outcome =
      .returned ⟨.text "x[[a]]y".toList.toArray, 6, 7, .ofString "[[a]]", .null, true, none⟩ := by
    cbv
  obtain ⟨-, suffix, place⟩ := (act_cursor brackets_stepFree ⟨3, 0⟩
    ⟨by decide, by decide, by decide⟩ rfl).1 _ returned _ (.inl rfl)
  exact ⟨_, _, ⟨by decide, by decide, by decide⟩, rfl, rfl, rfl, returned, suffix,
    place brackets_forceFree⟩

end Grammar

end Catena
