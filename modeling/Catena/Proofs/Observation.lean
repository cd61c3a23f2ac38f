import Mathlib
import Catena.Proofs.Tracking

/-!
# Observation of states

What is seen of a state leaves out its buffer but for the items still to be consumed. A parser made
without moves of the state cannot tell two states apart that look the same: its runs on them call
the same functions and end alike, which is `Grammar.act_observed`.
-/

namespace Catena

structure View where
  ok : Bool
  matched : Value
  value : Value
  unconsumed : Buffer
  /-- How many items are left. -/
  remaining : Int
  /-- What is seen of the last good state. -/
  lastGood : Option View

/-- What is seen of a state and of its last good state. -/
def State.view : State → View
  | ⟨source, pos, limit, matched, value, ok, none⟩ =>
    ⟨ok, matched, value, source.slice pos limit, limit - pos, none⟩
  | ⟨source, pos, limit, matched, value, ok, some good⟩ =>
    ⟨ok, matched, value, source.slice pos limit, limit - pos, some good.view⟩

/-- Two faults look the same: they are signals of one kind and message, raised on states that look
the same if on any, or they are the same fault. -/
def Fault.LooksLike : Fault → Fault → Prop
  | .signal raised, .signal raised' =>
    raised.kind = raised'.kind ∧ raised.msg = raised'.msg ∧
      raised.state.map State.view = raised'.state.map State.view
  | fault, fault' => fault = fault'

theorem Window.same_stable : Window.Stable fun _ : Unit => Window.Same where
  same := id
  skip := Same.skip
  clip := fun same hk bound => ⟨(), fun _ _ => id, same.clip hk bound⟩

theorem Window.same_detachable : Window.Detachable fun _ : Unit => Window.Same :=
  fun _ _ _ => Same.fresh

namespace State

theorem view_eq (s : State) :
    s.view = ⟨s.ok, s.matched, s.value, s.unconsumed, s.remaining, s.lastGood.map view⟩ := by
  obtain ⟨source, pos, limit, matched, value, ok, _ | good⟩ := s <;> rfl

theorem Alike.view_eq {s t : State} (h : Alike Window.Same s t) : s.view = t.view := by
  have looks : ∀ {u v : State}, Agrees Window.Same u v →
      u.lastGood.map view = v.lastGood.map view → u.view = v.view := by
    intro u v agrees snapshots
    have rest : u.unconsumed = v.unconsumed := agrees.window.rest
    have left : u.remaining = v.remaining := agrees.window.remaining
    rw [State.view_eq u, State.view_eq v, agrees.ok, agrees.matched, agrees.value, rest, left,
      snapshots]
  induction h with
  | clean here left right => exact looks here (by rw [left, right])
  | snapshot here left right _ ih =>
    exact looks here (by rw [left, right, Option.map_some, Option.map_some, ih])

end State

theorem Fault.Alike.looksLike {fault fault' : Fault}
    (h : Fault.Alike (fun _ : Unit => Window.Same) fault fault') : fault.LooksLike fault' := by
  cases h with
  | @signal raised raised' kind msg state =>
    refine ⟨kind, msg, ?_⟩
    cases left : raised.state <;> cases right : raised'.state <;> rw [left, right] at state <;>
      cases state
    rename_i both
    obtain ⟨_, alike⟩ := both
    rw [Option.map_some, Option.map_some, alike.view_eq]
  | refusal | undefined | defect => rfl

namespace Grammar

variable {g : Grammar} {parser : Parser}

theorem act_tracks_observed (free : g.StepFree parser) (granted : Granted) :
    Action.Tracks (fun _ : Unit => Window.Same) (parser.act (g.setting granted))
      (parser.act (g.setting granted)) := by
  refine act_tracks Window.same_stable ?_ granted
  exact fun part made => ⟨free part made, fun _ => Window.same_detachable⟩

/-- On two states with windows inside their buffers that look the same, a parser made without moves
of the state calls the same functions, and both runs are cut off, or both return states that look
the same, or both raise faults that look the same. -/
theorem act_observed (free : g.StepFree parser) (granted : Granted) {s t : State}
    (left : s.window.Inside) (right : t.window.Inside) (clean : s.lastGood = none)
    (clean' : t.lastGood = none) (ok : s.ok = t.ok) (unconsumed : s.unconsumed = t.unconsumed)
    (matched : s.matched = t.matched) (value : s.value = t.value) :
    (parser.act (g.setting granted) s).Agree (fun r r' => r.view = r'.view) Fault.LooksLike
      (parser.act (g.setting granted) t) := by
  have before : State.Alike Window.Same s t :=
    .clean ⟨⟨left, right, unconsumed⟩, matched, value, ok⟩ clean clean'
  refine (act_tracks_observed free granted () s t before).mono ?_ ?_
  · exact fun r r' after => after.view_eq
  · exact fun fault fault' alike => alike.looksLike

theorem brackets_observed :
    ∃ s t : State, s.source ≠ t.source ∧ s.pos ≠ t.pos ∧ s.limit ≠ t.limit ∧
      s.unconsumed = t.unconsumed ∧
      ∃ r r' : State,
        (Parser.act (brackets.setting ⟨3, 0⟩) (.forward 0 "nested") s).outcome = .returned r ∧
        (Parser.act (brackets.setting ⟨3, 0⟩) (.forward 0 "nested") t).outcome = .returned r' ∧
        r.view = r'.view := by
  have first : (Parser.act (brackets.setting ⟨3, 0⟩) (.forward 0 "nested")
        ⟨.text "x[[a]]y".toList.toArray, 1, 6, .ofString "", .null, true, none⟩).outcome =
      .returned ⟨.text "x[[a]]y".toList.toArray, 6, 6, .ofString "[[a]]", .null, true, none⟩ := by
    cbv
  have second : (Parser.act (brackets.setting ⟨3, 0⟩) (.forward 0 "nested")
        ⟨.text "[[a]]".toList.toArray, 0, 5, .ofString "", .null, true, none⟩).outcome =
      .returned ⟨.text "[[a]]".toList.toArray, 5, 5, .ofString "[[a]]", .null, true, none⟩ := by
    cbv
  have sources : Sequence.text "x[[a]]y".toList.toArray ≠
      (Sequence.text "[[a]]".toList.toArray : Buffer) :=
    fun same => absurd (congrArg Sequence.length same) (by decide)
  have unconsumed : (Sequence.text "x[[a]]y".toList.toArray : Buffer).slice 1 6 =
      (Sequence.text "[[a]]".toList.toArray : Buffer).slice 0 5 := by cbv
  have same := act_observed brackets_stepFree ⟨3, 0⟩
    (s := ⟨.text "x[[a]]y".toList.toArray, 1, 6, .ofString "", .null, true, none⟩)
    (t := ⟨.text "[[a]]".toList.toArray, 0, 5, .ofString "", .null, true, none⟩)
    ⟨by decide, by decide, by decide⟩ ⟨by decide, by decide, by decide⟩ rfl rfl rfl unconsumed
    rfl rfl
  have seen := same.returned first second
  refine ⟨_, _, sources, ?_, ?_, ?_, _, _, first, second, seen⟩
  · decide
  · decide
  · exact unconsumed

end Grammar

end Catena
