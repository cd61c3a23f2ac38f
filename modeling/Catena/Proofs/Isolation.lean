import Mathlib
import Catena.Proofs.Move
import Catena.Proofs.Recovery
import Catena.Proofs.Rounds

/-!
# Recovery behind isolated parsers

A parser that gives back its input or its value gives them back in its result. What resumes the chain
after its failure starts on the snapshot instead, and that is the one left inside: the state before
the parser if it leaves none of its own, but a later one if a part of it has failed.
-/

namespace Catena.Parser

/-- A parser that leaves no snapshot of its own: one without parts, a repetition, or one with a value
of its own. -/
def failsAlone : Parser → Bool
  | many _ _ _ | repeated _ _ _ | absorb _ _ _ => true
  | parser => parser.isElementary

variable {setting : Setting} {parser isolated fallback : Parser} {s r w : State}

theorem clean_lasting (body : Action) :
    Action.Lasting (.settled body) fun rounds => rounds.current.lastGood = none := by
  intro rounds result matched _ run good _
  show result.lastGood = none
  exact State.settled_clean run good

theorem body_clean (alone : parser.failsAlone = true) (clean : s.lastGood = none)
    (run : (parser.body setting s).outcome = .returned r) : r.lastGood = none := by
  cases parser with
  | many least most parser =>
    obtain ⟨rounds, last, rfl⟩ := Action.many_returned (clean_lasting _) clean run
    exact last
  | repeated test stopsWhenTrue parser =>
    obtain ⟨rounds, last, rfl⟩ := Action.repeated_returned (clean_lasting _) clean run
    exact last
  | absorb merge initial parser =>
    obtain ⟨sub, -, run⟩ := Run.bind_returned_iff.mp run
    split at run
    · obtain rfl := Run.pure_returned_iff.mp run
      exact clean
    · obtain ⟨value, -, run⟩ := Run.bind_returned_iff.mp run
      obtain rfl := Run.pure_returned_iff.mp run
      exact clean
  | literal | outcome | check | build | singleItem | itemRun | everything | endOfInput =>
    exact (body_moves rfl run).lastGood.trans clean
  | _ => cases alone

/-- A failure on a successful state comes with a snapshot, which is that state if no part of the
parser left one. -/
theorem act_snapshot (live : s.ok = true) (clean : s.lastGood = none)
    (run : (parser.act setting s).outcome = .returned r) (failed : r.ok = false) :
    ∃ good, r.lastGood = some good ∧ (parser.failsAlone = true → good = s) := by
  obtain ⟨t, inside, settled⟩ := Run.bind_returned_iff.mp run
  obtain rfl := Run.pure_returned_iff.mp settled
  rw [State.settle_ok] at failed
  cases snapshot : t.lastGood with
  | none => exact ⟨s, by rw [State.settle_of_failed live failed snapshot], fun _ => rfl⟩
  | some good =>
    refine ⟨good, by rw [State.settle_of_snapshot failed snapshot, snapshot], fun alone => ?_⟩
    exact absurd (body_clean alone clean inside) (by simp [snapshot])

/-- What an isolated parser leaves where it fails: the failure inside, with its snapshot. -/
theorem isolated_failed (isolates : isolated = .noConsume parser ∨ isolated = .noBuild parser)
    (live : s.ok = true) (clean : s.lastGood = none)
    (run : (isolated.act setting s).outcome = .returned w) (failed : w.ok = false) :
    ∃ r good, (parser.act setting s).outcome = .returned r ∧ r.ok = false ∧
      r.lastGood = some good ∧ w.lastGood = some good ∧ (parser.failsAlone = true → good = s) ∧
      (isolated = .noConsume parser → w.unconsumed = s.unconsumed) ∧
      (isolated = .noBuild parser → w.value = s.value) := by
  obtain ⟨t, body, settled⟩ := Run.bind_returned_iff.mp run
  obtain rfl := Run.pure_returned_iff.mp settled
  rw [State.settle_ok] at failed
  obtain rfl | rfl := isolates
  all_goals
    obtain ⟨r, inside, given⟩ := Run.bind_returned_iff.mp body
    obtain rfl := Run.pure_returned_iff.mp given
    obtain ⟨good, snapshot, alone⟩ := act_snapshot live clean inside failed
    rw [State.settle_of_snapshot failed snapshot]
    exact ⟨r, good, inside, failed, snapshot, snapshot, alone, by rintro ⟨⟩; try rfl,
      by rintro ⟨⟩; try rfl⟩

/-- Where a parser fails that gives back its input or its value, its result has that of the state
before. What resumes the chain starts on the last good state of the failure inside, which is the
state before if the parser leaves no snapshot of its own. -/
theorem isolated_recovery (isolates : isolated = .noConsume parser ∨ isolated = .noBuild parser)
    (live : s.ok = true) (clean : s.lastGood = none)
    (run : (isolated.act setting s).outcome = .returned w) (failed : w.ok = false) :
    (isolated = .noConsume parser → w.unconsumed = s.unconsumed) ∧
    (isolated = .noBuild parser → w.value = s.value) ∧
    ∃ r good, (parser.act setting s).outcome = .returned r ∧ r.ok = false ∧
      r.lastGood = some good ∧ (parser.failsAlone = true → good = s) ∧
      ∀ fallback, ((chain [.item .append isolated, .item .append (.oblivious fallback)]).act setting
          s).outcome =
        (fallback.act setting good >>= fun t => pure (s.settle t)).outcome := by
  obtain ⟨r, good, inside, lost, left, snapshot, alone, input, value⟩ :=
    isolated_failed isolates live clean run failed
  refine ⟨input, value, r, good, inside, lost, left, alone, fun fallback => ?_⟩
  have ordinary : ∀ rest, Chain.followed rest (.item .append (part setting isolated)) = none := by
    intro rest
    obtain rfl | rfl := isolates <;>
      simp only [Chain.followed, part, backsOff, Option.map_none, ite_self]
  have step : (Chain.step (.item .append (part setting isolated)) s s.noText).outcome =
      .returned (w, s.noText) := by
    simp only [Chain.step, if_pos live, part]
    rw [Run.bind_outcome run, if_pos (by simp [failed])]
    rfl
  rw [chain_act, parts_eq_map]
  refine Run.bind_outcome_congr ?_ fun _ _ => rfl
  simp only [List.map_cons, List.map_nil, Link.map]
  rw [Chain.follow_cons fun _ => ordinary _, Run.bind_outcome step, follow_oblivious_failed _ _ _ failed,
    snapshot, oblivious_act]
  rfl

def signed : Parser :=
  .chain [.item .append (.literal (.value (.ofString "a")) true),
    .build ⟨none, none, fun _ => .ok (.int 99)⟩,
    .item .append (.literal (.value (.ofString "b")) true)]

theorem signed_recovery :
    ∃ s w r : State, s.ok = true ∧ s.lastGood = none ∧ w.ok = false ∧
      ((noConsume signed).act (Grammar.empty.setting ⟨0, 0⟩) s).outcome = .returned w ∧
      w.unconsumed = s.unconsumed ∧
      (signed.act (Grammar.empty.setting ⟨0, 0⟩) s).outcome = .returned r ∧ r.ok = false := by
  have run : ((noConsume signed).act (Grammar.empty.setting ⟨0, 0⟩)
        (.start (.text "ac".toList.toArray) .null)).outcome =
      .returned ⟨.text "ac".toList.toArray, 0, 2, .ofString "", .int 99, false,
        some ⟨.text "ac".toList.toArray, 1, 2, .ofString "a", .int 99, true, none⟩⟩ := by
    cbv
  obtain ⟨input, -, r, good, inside, failed, -⟩ := isolated_recovery
    (s := .start (.text "ac".toList.toArray) .null) (.inl rfl) rfl rfl run rfl
  exact ⟨_, _, r, rfl, rfl, rfl, run, input rfl, inside, failed⟩

/-- Where the second sign is missing, the input and the value are given back, and yet what resumes
the chain finds itself behind the first sign, with the value that was built there. -/
theorem recovery_behind_first_sign :
    (endOn (noConsume signed) "ac" =
        .returned ⟨.text "ac".toList.toArray, 0, 2, .ofString "", .int 99, false,
          some ⟨.text "ac".toList.toArray, 1, 2, .ofString "a", .int 99, true, none⟩⟩ ∧
      endOn (chain [.item .append (.noConsume signed), .item .append (.oblivious .everything)])
          "ac" =
        .returned ⟨.text "ac".toList.toArray, 2, 2, .ofString "c", .int 99, true, none⟩) ∧
    (endOn (noBuild signed) "ac" =
        .returned ⟨.text "ac".toList.toArray, 1, 2, .ofString "", .null, false,
          some ⟨.text "ac".toList.toArray, 1, 2, .ofString "a", .int 99, true, none⟩⟩ ∧
      endOn (chain [.item .append (.noBuild signed), .item .append (.oblivious (.outcome true))])
          "ac" =
        .returned ⟨.text "ac".toList.toArray, 1, 2, .ofString "", .int 99, true, none⟩) := by
  refine ⟨⟨?_, ?_⟩, ?_, ?_⟩
  all_goals cbv

end Catena.Parser
