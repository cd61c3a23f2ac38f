import Mathlib
import Catena.Proofs.Agreement
import Catena.Proofs.Isolation
import Catena.Proofs.Rollback

/-!
# Parsers with a value of their own

Nothing passes between a parser with a value of its own and its part but the window on the way in,
and one call of the merging function on the way out: `Parser.absorb_isolates`. The part runs the
same wherever the window is the same, and where it fails, the state before it is given back.
-/

namespace Catena

/-- A call leaves its mark and the answer, or the complaint. -/
theorem Callback.call_eq {α β : Type} [Listed α] (f : Callback α β) (a : α) :
    f.call a = ⟨[.called f.label (Listed.arguments a)],
      match f.apply a with
      | .ok b => .returned b
      | .error complaint => .raised complaint.fault⟩ := by
  unfold call
  cases f.apply a <;> rfl

def State.opened (s : State) (initial : Value) : State :=
  { s with matched := s.noText, value := initial, ok := true, lastGood := none }

def State.SameMatch (s t : State) : Prop :=
  s.source = t.source ∧ s.pos = t.pos ∧ s.limit = t.limit ∧ s.matched = t.matched

/-- What a parser with a value of its own makes of the run of its part, on a state. -/
inductive Absorbs (merge : MergeFunction) (s : State) : Run State → Run State → Prop where
  | raised {events : List Event} {fault : Fault} :
    Absorbs merge s ⟨events, .raised fault⟩ ⟨events, .raised fault⟩
  | exhausted {events : List Event} :
    Absorbs merge s ⟨events, .exhausted⟩ ⟨events, .exhausted⟩
  | rolledBack {events : List Event} {r : State} (failed : r.ok = false) :
    Absorbs merge s ⟨events, .returned r⟩ ⟨events, .returned s.rolledBack⟩
  | merged {events : List Event} {r : State} {value : Value} (good : r.ok = true)
    (answer : merge.apply (s.value, r.value, r.matched) = .ok value) :
    Absorbs merge s ⟨events, .returned r⟩
      ⟨events ++ [.called merge.label [.value s.value, .value r.value, .value r.matched]],
        .returned { r with value }⟩
  | refused {events : List Event} {r : State} {complaint : Complaint} (good : r.ok = true)
    (answer : merge.apply (s.value, r.value, r.matched) = .error complaint) :
    Absorbs merge s ⟨events, .returned r⟩
      ⟨events ++ [.called merge.label [.value s.value, .value r.value, .value r.matched]],
        .raised complaint.fault⟩

namespace Absorbs

variable {merge : MergeFunction} {s t : State} {sub x y : Run State}

def Answers (merge : MergeFunction) (s : State) (sub : Run State) : Prop :=
  ∀ r, sub.outcome = .returned r → r.ok = true →
    ∃ value, merge.apply (s.value, r.value, r.matched) = .ok value

theorem eq_rolledBack (h : Absorbs merge s sub x) {r : State} (returned : sub.outcome = .returned r)
    (failed : r.ok = false) : x = ⟨sub.events, .returned s.rolledBack⟩ := by
  cases h with
  | raised | exhausted => cases returned
  | rolledBack => rfl
  | merged good | refused good =>
    obtain rfl := Outcome.returned.inj returned
    exact absurd good (by simp [failed])

theorem agree (left : Absorbs merge s sub x) (right : Absorbs merge t sub y)
    (answers : Answers merge s sub) (answers' : Answers merge t sub) :
    x.outcome.Agree (fun u v => u.ok = v.ok ∧ (u.ok = true → u.SameMatch v)) Eq y.outcome := by
  cases left with
  | raised =>
    cases right
    rfl
  | exhausted =>
    cases right
    trivial
  | rolledBack failed =>
    cases right with
    | rolledBack => exact ⟨rfl, nofun⟩
    | merged good | refused good => exact absurd good (by simp [failed])
  | merged good =>
    cases right with
    | rolledBack failed => exact absurd good (by simp [failed])
    | merged => exact ⟨rfl, fun _ => ⟨rfl, rfl, rfl, rfl⟩⟩
    | refused _ complains =>
      obtain ⟨value, answer⟩ := answers' _ rfl good
      cases complains.symm.trans answer
  | refused good complains =>
    obtain ⟨value, answer⟩ := answers _ rfl good
    cases complains.symm.trans answer

end Absorbs

namespace Parser

variable {setting : Setting} {merge : MergeFunction} {initial : Value} {parser : Parser}
  {s t : State}

theorem absorb_absorbs (live : s.ok = true) (clean : s.lastGood = none) :
    Absorbs merge s (parser.act setting (s.opened initial))
      ((absorb merge initial parser).act setting s) := by
  have unfolded : (absorb merge initial parser).act setting s =
      parser.act setting (s.opened initial) >>= fun sub =>
        (if !sub.ok then pure s.failed else do
          let value ← merge.call (s.value, sub.value, sub.matched)
          return { sub with value, ok := true, lastGood := s.lastGood }) >>= fun r =>
        pure (s.settle r) := bind_assoc _ _ _
  rw [unfolded]
  rcases run : parser.act setting (s.opened initial) with ⟨events, r | fault | _⟩
  · cases good : r.ok with
    | false =>
      simp only [Run.bind_returned, good, Bool.not_false, if_true,
        State.settle_failed live clean, Run.pure_eq, List.append_nil]
      exact .rolledBack good
    | true =>
      have left : r.lastGood = none := State.settled_clean (congrArg Run.outcome run) good
      obtain ⟨source, pos, limit, matched, sub, ok, lastGood⟩ := r
      obtain rfl : ok = true := good
      obtain rfl : lastGood = none := left
      simp only [Run.bind_returned, Bool.not_true, Bool.false_eq_true, if_false, bind_assoc,
        pure_bind, State.settle_of_ok, Callback.call_eq]
      cases answer : merge.apply (s.value, sub, matched) with
      | ok value => exact .merged rfl answer
      | error complaint => exact .refused rfl answer
  · exact .raised
  · exact .exhausted

/-- A parser with a value of its own isolates its part, on two successful states without snapshots
that have the same window. The part runs once for both, with the same calls and the same end, so
that the two runs end alike unless the merging function complains, and successes match the same.
Either run is made of that of the part by at most one call of the merging function, which is given
the value before, and the value and the text of the part. Where the part fails, the state before is
given back and is the last good one, so that an oblivious parser behind it runs on that state. -/
theorem absorb_isolates (live : s.ok = true) (clean : s.lastGood = none) (live' : t.ok = true)
    (clean' : t.lastGood = none) (source : s.source = t.source) (pos : s.pos = t.pos)
    (limit : s.limit = t.limit) :
    ∃ sub, parser.act setting (s.opened initial) = sub ∧
      parser.act setting (t.opened initial) = sub ∧
      Absorbs merge s sub ((absorb merge initial parser).act setting s) ∧
      Absorbs merge t sub ((absorb merge initial parser).act setting t) ∧
      (Absorbs.Answers merge s sub → Absorbs.Answers merge t sub →
        ((absorb merge initial parser).act setting s).outcome.Agree
          (fun u v => u.ok = v.ok ∧ (u.ok = true → u.SameMatch v)) Eq
          ((absorb merge initial parser).act setting t).outcome) ∧
      ∀ r, sub.outcome = .returned r → r.ok = false → ∀ fallback,
        (chain [.item .append (absorb merge initial parser),
          .item .append (.oblivious fallback)]).act setting s =
          ⟨sub.events ++ (fallback.act setting s).events, (fallback.act setting s).outcome⟩ := by
  have same : s.opened initial = t.opened initial := by
    simp only [State.opened, State.noText, source, pos, limit]
  have left : Absorbs merge s (parser.act setting (s.opened initial))
      ((absorb merge initial parser).act setting s) := absorb_absorbs live clean
  have right : Absorbs merge t (parser.act setting (s.opened initial))
      ((absorb merge initial parser).act setting t) := same ▸ absorb_absorbs live' clean'
  refine ⟨_, rfl, same ▸ rfl, left, right, left.agree right, fun r returned failed fallback => ?_⟩
  exact resumed_of_rolledBack rfl live (left.eq_rolledBack returned failed) fallback

def takeInner : MergeFunction :=
  ⟨none, some "take", fun (_, inner, _) => .ok inner⟩

/-- Where the second sign is missing, nothing is left of the first one and its value, nor in the
last good state: what resumes the chain finds both signs and the value from before. -/
theorem signed_absorbed :
    ∃ s t : State, s.ok = true ∧ s.lastGood = none ∧ t.ok = true ∧ t.lastGood = none ∧
      s.source = t.source ∧ s.pos = t.pos ∧ s.limit = t.limit ∧ s.value = .int 7 ∧
      t.value = .null ∧ s.matched = .ofString "x" ∧ t.matched = .ofString "" ∧
      ((absorb takeInner .null signed).act (Grammar.empty.setting ⟨0, 0⟩) s).outcome.Agree
        (fun u v => u.ok = v.ok ∧ (u.ok = true → u.SameMatch v)) Eq
        ((absorb takeInner .null signed).act (Grammar.empty.setting ⟨0, 0⟩) t).outcome ∧
      ((chain [.item .append (absorb takeInner .null signed),
          .item .append (.oblivious .everything)]).act (Grammar.empty.setting ⟨0, 0⟩) s).outcome =
        .returned ⟨.text "ac".toList.toArray, 2, 2, .ofString "ac", .int 7, true, none⟩ := by
  let s : State := ⟨.text "ac".toList.toArray, 0, 2, .ofString "x", .int 7, true, none⟩
  let t : State := .start (.text "ac".toList.toArray) .null
  obtain ⟨sub, run, -, -, -, agree, resumed⟩ := @absorb_isolates (Grammar.empty.setting ⟨0, 0⟩)
    takeInner .null signed s t rfl rfl rfl rfl rfl rfl rfl
  have inside : (signed.act (Grammar.empty.setting ⟨0, 0⟩) (s.opened .null)).outcome =
      .returned ⟨.text "ac".toList.toArray, 1, 2, .ofString "", .int 99, false,
        some ⟨.text "ac".toList.toArray, 1, 2, .ofString "a", .int 99, true, none⟩⟩ := by
    cbv
  rw [run] at inside
  refine ⟨s, t, rfl, rfl, rfl, rfl, rfl, rfl, rfl, rfl, rfl, rfl, rfl, ?_, ?_⟩
  · exact agree (fun r _ _ => ⟨r.value, rfl⟩) fun r _ _ => ⟨r.value, rfl⟩
  · rw [resumed _ inside rfl]
    cbv

end Parser

end Catena
