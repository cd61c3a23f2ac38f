import Mathlib
import Catena.Proofs.Bounds
import Catena.Proofs.Unforced

/-!
# Repetitions written out

A repetition of a fixed number of rounds may be written out as a chain that names its parser as often.
`Parser.many_unrolled`: if no lap stands still, the two make the same calls and come to the same
success, or both fail, or end in the same fault. After each lap the repetition stands where the chain
stands after as many links, with the same text.
-/

namespace Catena

def State.SameSuccess (r r' : State) : Prop :=
  r.ok = r'.ok ∧ (r.ok = true → r = r')

namespace Action

/-- Every lap of a repetition that succeeds changes how much is left. -/
def NeverStill (act : Action) (most : Int) (s : State) : Prop :=
  ∀ laps t, Laps act most s laps t → ∀ lap ∈ laps, lap.result.ok = true → lap.Moving

theorem Laps.run {act : Action} {most : Int} {s t : State} {laps : List Lap}
    (h : Laps act most s laps t) (live : s.ok = true) :
    t.ok = true ∧ ∀ lap ∈ laps, lap.start.ok = true ∧
      (act lap.start).outcome = .returned lap.result := by
  induction h with
  | start => exact ⟨live, nofun⟩
  | success _ _ run good _ ih =>
    refine ⟨good, fun lap member => ?_⟩
    obtain before | last := List.mem_append.mp member
    · exact ih.2 lap before
    · exact List.mem_singleton.mp last ▸ ⟨ih.1, run⟩
  | failure _ _ run _ ih =>
    refine ⟨ih.1, fun lap member => ?_⟩
    obtain before | last := List.mem_append.mp member
    · exact ih.2 lap before
    · exact List.mem_singleton.mp last ▸ ⟨ih.1, run⟩

theorem neverStill_of_changes {act : Action}
    (changes : ∀ t r, t.ok = true → (act t).outcome = .returned r → r.ok = true →
      r.remaining ≠ t.remaining) (most : Int) {s : State} (live : s.ok = true) :
    act.NeverStill most s := by
  intro laps t h lap member good
  obtain ⟨ok, run⟩ := (h.run live).2 lap member
  exact ⟨good, changes lap.start lap.result ok run good⟩

/-- Where a repetition of so many rounds stands after laps that have changed how much is left, and a
chain of as many links after links that did the same. -/
structure InStep (act : Action) (count : Nat) (s : State) (laps : List Lap) (rounds : Rounds) :
    Prop where
  ran : Laps act count s laps rounds.current
  moving : ∀ lap ∈ laps, lap.Moving
  text : s.lapText laps = some rounds.matched
  made : rounds.count = laps.length
  live : rounds.current.ok = true
  /-- Behind a lap the state carries the text of all laps. -/
  carried : laps ≠ [] → rounds.current.matched = rounds.matched

variable {act : Action} {count : Nat} {s r : State} {laps : List Lap} {rounds : Rounds}

theorem inStep_start (act : Action) (count : Nat) (live : s.ok = true) :
    InStep act count s [] ⟨0, s.noText, s⟩ where
  ran := .start
  moving := nofun
  text := rfl
  made := rfl
  live := live
  carried := fun some => absurd rfl some

theorem InStep.next (h : InStep act count s laps rounds) (moves : act.NeverStill count s)
    (more : laps.length < count) (run : (act rounds.current).outcome = .returned r)
    (good : r.ok = true) {matched : Value} (sum : rounds.matched.plus? r.matched = some matched) :
    r.remaining ≠ rounds.current.remaining ∧
      InStep act count s (laps ++ [⟨rounds.current, r⟩]) (rounds.next r matched) := by
  have goesOn : GoesOn count laps := ⟨fun _ => Int.ofNat_lt.mpr more, h.moving⟩
  have text : s.lapText (laps ++ [⟨rounds.current, r⟩]) = some matched :=
    State.lapText_success h.text good sum
  have ran : Laps act count s (laps ++ [⟨rounds.current, r⟩]) (rounds.next r matched).current :=
    .success h.ran goesOn run good text
  have here : Lap.Moving ⟨rounds.current, r⟩ := moves _ _ ran _ (by simp) good
  refine ⟨here.2, ran, ?_, text, ?_, good, fun _ => rfl⟩
  · intro lap member
    obtain before | last := List.mem_append.mp member
    · exact h.moving lap before
    · exact List.mem_singleton.mp last ▸ here
  · simp only [Rounds.next, h.made, List.length_append, List.length_singleton]

/-- What a repetition leaves of its last round, against the end of the links. -/
theorem rounds_unrolled (left : Nat) (h : InStep act count s laps rounds) (moves : act.NeverStill count s)
    (some : 0 < count) (place : laps.length + left = count) :
    (repeatRounds act (fun _ _ => pure true) pure left rounds >>= fun ended =>
        pure (s.settle { ended.current with
          matched := ended.matched, ok := (count : Int) ≤ ended.count })).Agree
      State.SameSuccess Eq
      (Chain.follow (List.replicate left (.item .append ⟨act, {}, none⟩)) rounds.current
          rounds.matched >>= fun t => pure (s.settle t)) := by
  induction left generalizing laps rounds with
  | zero =>
    have made := h.made
    have same : ({ rounds.current with
        matched := rounds.matched, ok := (count : Int) ≤ rounds.count } : State) =
          rounds.current := by
      rw [← h.carried (List.ne_nil_of_length_pos (by omega)), decide_eq_true (by omega), ← h.live]
      cases rounds.current
      rfl
    refine .pure ?_
    rw [same]
    exact ⟨rfl, fun _ => rfl⟩
  | succ left ih =>
    have made := h.made
    rw [repeatRounds_succ fun _ => true, List.replicate_succ, Chain.follow_ordinary h.live,
      bind_assoc, bind_assoc]
    have same := (Run.Agree.refl (E := Eq) (act rounds.current) fun _ _ => rfl).and_left
      fun r run => run
    refine same.bind ?_
    rintro r _ ⟨rfl, run⟩
    unfold Rounds.after
    by_cases good : r.ok = true
    · rw [if_pos good, if_pos good]
      unfold Chain.resume
      simp only [bind_assoc]
      have joins := (Run.Agree.refl (E := Eq)
        (Run.need (.ofSum rounds.matched r.matched) (rounds.matched.plus? r.matched))
        fun _ _ => rfl).and_left fun matched sum => Run.need_returned_iff.mp sum
      refine joins.bind ?_
      rintro matched _ ⟨rfl, sum⟩
      obtain ⟨moved, next⟩ := h.next moves (by omega) run good sum
      rw [if_pos (by simpa using moved)]
      exact ih next (by rw [List.length_append, List.length_singleton]; omega)
    · rw [Bool.not_eq_true] at good
      have quiet : ∀ link ∈ List.replicate left (Link.item Fold.append (⟨act, {}, none⟩ : Part)),
          Chain.Quiet link := by
        intro link member
        obtain rfl := List.eq_of_mem_replicate member
        exact ⟨rfl, rfl⟩
      have few : decide ((count : Int) ≤ rounds.count) = false := decide_eq_false (by omega)
      rw [if_neg (by simp [good]), if_neg (by simp [good]), Chain.follow_failed_quiet good quiet,
        pure_bind, pure_bind]
      refine .pure ⟨?_, ?_⟩
      · rw [State.settle_ok, State.settle_ok, good, few]
      · intro ok
        rw [State.settle_ok, few] at ok
        cases ok

end Action

namespace Parser

variable {setting : Setting} {parser : Parser} {s : State}

theorem part_of_ordinary (ordinary : parser.traits = {}) (plain : parser.isLookahead = false) :
    parser.part setting = ⟨parser.act setting, {}, none⟩ := by
  unfold part
  rw [ordinary, backsOff_eq_none setting plain]

/-- A repetition of just so many rounds, at least one, and the chain of as many links that hold its
parser make the same calls, and both come to the same success, or fail, or end in the same fault, or
are cut off, where every lap that succeeds changes how much is left. The parser is one that runs on
successful chains alone, adds its text and does not back off. -/
theorem many_unrolled {count : Nat} (some : 0 < count) (ordinary : parser.traits = {})
    (plain : parser.isLookahead = false) (live : s.ok = true)
    (moves : (parser.act setting).NeverStill count s) :
    ((many count count parser).act setting s).Agree State.SameSuccess Eq
      ((chain (List.replicate count (.item .append parser))).act setting s) := by
  have rounds := Action.rounds_unrolled count
    (Action.inStep_start (parser.act setting) count live) moves some (Nat.zero_add count)
  have body : (many count count parser).act setting s =
      Action.many setting.patience count count (parser.act setting) s >>= fun r =>
        pure (s.settle r) := rfl
  rw [body, Action.many_below, chain_act, parts_eq_map, List.map_replicate, Link.map,
    part_of_ordinary ordinary plain, bind_assoc]
  simpa only [pure_bind] using rounds

def nextAfterText : Parser :=
  .step ⟨some "next", none, fun t =>
    .ok (if t.hasItems 1 then { t.advance 1 with value := t.matched } else t.mismatch)⟩

theorem nextAfterText_changes (setting : Setting) (t r : State)
    (run : (nextAfterText.act setting t).outcome = .returned r) (good : r.ok = true) :
    r.remaining ≠ t.remaining := by
  obtain ⟨u, inner, settled⟩ := Run.bind_returned_iff.mp run
  obtain rfl := Run.pure_returned_iff.mp settled
  have taken := (Except.ok.inj (Callback.call_returned_iff.mp inner)).symm
  have window : (t.settle u).remaining = u.remaining :=
    congrArg Window.remaining (State.settle_window t u)
  rw [State.settle_ok] at good
  rw [window]
  by_cases fits : t.hasItems 1 = true
  · rw [if_pos fits] at taken
    simp only [State.hasItems, decide_eq_true_eq] at fits
    simp only [taken, State.remaining, State.advance, State.advanceWith]
    omega
  · rw [if_neg fits] at taken
    cases taken ▸ good

/-- The second of two laps is given the first item as text, and so is the second of two links. -/
theorem nextAfterText_unrolled :
    ∃ s r : State, s.ok = true ∧ r.matched = .ofString "ab" ∧ r.value = .ofString "a" ∧
      ((many 2 2 nextAfterText).act (Grammar.empty.setting ⟨0, 0⟩) s).outcome = .returned r ∧
      ((chain [.item .append nextAfterText, .item .append nextAfterText]).act
        (Grammar.empty.setting ⟨0, 0⟩) s).outcome = .returned r := by
  have run : ((many 2 2 nextAfterText).act (Grammar.empty.setting ⟨0, 0⟩)
        (.start (.text "abc".toList.toArray) .null)).outcome =
      .returned ⟨.text "abc".toList.toArray, 2, 3, .ofString "ab", .ofString "a", true, none⟩ := by
    cbv
  have moves := Action.neverStill_of_changes
    (fun t r _ => nextAfterText_changes (Grammar.empty.setting ⟨0, 0⟩) t r) 2
    (s := .start (.text "abc".toList.toArray) .null) rfl
  have same := many_unrolled (by decide : 0 < 2) rfl rfl rfl moves
  obtain ⟨r, returned, ok, success⟩ := same.of_returned run
  obtain rfl := success rfl
  exact ⟨_, _, rfl, rfl, rfl, run, returned⟩

end Parser

end Catena
