import Mathlib
import Catena.Proofs.Commitment.Absence
import Catena.Proofs.Course
import Catena.Proofs.Passage

/-!
# Records of searches

What a search records. It tries candidates until the rest of the chain succeeds after one, and then
records that one: `Lookahead.search_recorded`. The candidates tried before are all that come earlier
in the order of the mode, which bounds their number by the length of the unrestricted match.
-/

namespace Catena

/-! ### Attempts -/

namespace Lookahead

variable {look : Lookahead} {s t : State} {resume : Action} {trial : Nat → Run (Option State)}
  {search last : Search} {vain : List (Nat × State)} {length tried : Nat} {events : List Event}

structure Sought (resume : Action) (trial : Nat → Run (Option State)) (search : Search)
    (vain : List (Nat × State)) : Prop where
  found : ∀ index u,
    (index, u) ∈ vain ↔ index < search.index ∧ (trial index).outcome = .returned (some u)
  tries : ∀ index, index < search.index → ∃ found, (trial index).outcome = .returned found
  order : vain.Pairwise fun p q => p.1 < q.1
  dead : ∀ p ∈ vain, DeadEnd resume p.2
  tried : search.tried = vain.length
  last : ∀ r, search.last = some r → r.ok = false

namespace Sought

theorem tries_next (h : Sought resume trial search vain) {found : Option State}
    (here : (trial search.index).outcome = .returned found) (index : Nat)
    (earlier : index < search.index + 1) : ∃ found, (trial index).outcome = .returned found := by
  by_cases same : index = search.index
  · exact same ▸ ⟨found, here⟩
  · exact h.tries index (by omega)

theorem missed (h : Sought resume trial search vain)
    (missing : (trial search.index).outcome = .returned none) :
    Sought resume trial { search with index := search.index + 1 } vain where
  found := by
    intro index u
    rw [h.found]
    dsimp only
    constructor
    · rintro ⟨earlier, found⟩
      exact ⟨by omega, found⟩
    · rintro ⟨earlier, found⟩
      refine ⟨?_, found⟩
      by_contra late
      obtain rfl : index = search.index := by omega
      cases missing.symm.trans found
  tries := h.tries_next missing
  order := h.order
  dead := h.dead
  tried := h.tried
  last := h.last

theorem failed (h : Sought resume trial search vain) {r : State}
    (found : (trial search.index).outcome = .returned (some t))
    (after : (resume t).outcome = .returned r) (failed : r.ok = false) :
    Sought resume trial ⟨search.index + 1, search.tried + 1, some r⟩
      (vain ++ [(search.index, t)]) where
  found := by
    intro index u
    rw [List.mem_append, h.found, List.mem_singleton, Prod.mk.injEq]
    dsimp only
    constructor
    · rintro (⟨earlier, found⟩ | ⟨rfl, rfl⟩)
      · exact ⟨by omega, found⟩
      · exact ⟨by omega, found⟩
    · rintro ⟨earlier, found'⟩
      by_cases here : index = search.index
      · subst here
        exact .inr ⟨rfl, Option.some.inj (Outcome.returned.inj (found'.symm.trans found))⟩
      · exact .inl ⟨by omega, found'⟩
  tries := h.tries_next found
  order := by
    refine List.pairwise_append.mpr ⟨h.order, List.pairwise_singleton _ _, ?_⟩
    intro p member q there
    obtain rfl := List.mem_singleton.mp there
    exact ((h.found p.1 p.2).mp member).1
  dead := by
    intro p member
    rcases List.mem_append.mp member with earlier | here
    · exact h.dead p earlier
    · obtain rfl := List.mem_singleton.mp here
      exact ⟨r, after, failed⟩
  tried := by
    rw [List.length_append, ← h.tried]
    rfl
  last := by
    rintro r' ⟨⟩
    exact failed

end Sought

section Turns

variable {count : Nat} (quiet : ∀ index, (trial index).Uncommitted)
  (failing : ∀ index u inner r, index < count → (trial index).outcome = .returned (some u) →
    resume u = ⟨inner, .returned r⟩ → r.ok = false → commitmentsOf inner = [])
include quiet failing

theorem attempt_recorded (h : Sought resume trial search vain) (more : search.index < count)
    {turn : ForInStep Search}
    (run : look.attempt s resume trial search = ⟨events, .returned turn⟩) :
    (∃ next vain, turn = .yield next ∧ next.index = search.index + 1 ∧
      Sought resume trial next vain ∧ commitmentsOf events = []) ∨
    (∃ t r inner, (trial search.index).outcome = .returned (some t) ∧
      resume t = ⟨inner, .returned r⟩ ∧ r.ok = true ∧
      turn = .done ⟨search.index + 1, search.tried + 1, some r⟩ ∧
      commitmentsOf events = commitmentsOf inner ++
        [.committed look.mode.word look.shown (s.remaining - t.remaining) (search.tried + 1)]) := by
  obtain ⟨here, later, found, tries, next, rfl⟩ := Run.bind_eq_returned run
  have nothing := (quiet search.index).records tries
  have outcome := congrArg Run.outcome tries
  rw [commitmentsOf_append, nothing, List.nil_append]
  cases found with
  | none =>
    obtain ⟨rfl, rfl⟩ := Run.pure_eq_returned next
    exact .inl ⟨_, _, rfl, rfl, h.missed outcome, rfl⟩
  | some t =>
    obtain ⟨inner, last, r, after, ends, rfl⟩ := Run.bind_eq_returned next
    cases good : r.ok with
    | false =>
      simp only [good, Bool.not_false, if_true] at ends
      obtain ⟨rfl, rfl⟩ := Run.pure_eq_returned ends
      refine .inl ⟨_, _, rfl, rfl, h.failed outcome (congrArg Run.outcome after) good, ?_⟩
      rw [List.append_nil]
      exact failing search.index t inner r more outcome after good
    | true =>
      simp only [good, Bool.not_true, Bool.false_eq_true, if_false] at ends
      obtain ⟨rfl, same⟩ := Run.mk.inj ends
      obtain rfl := Outcome.returned.inj same
      refine .inr ⟨t, r, inner, outcome, after, good, rfl, ?_⟩
      rw [commitmentsOf_append]
      rfl

/-- Attempts at candidates leave no record but that of the one they end with. -/
theorem attempts_recorded {left : Nat} (h : Sought resume trial search vain)
    (within : search.index + left ≤ count)
    (run : Run.loop (look.attempt s resume trial) pure left search = ⟨events, .returned last⟩) :
    ((∀ r, last.last = some r → r.ok = false) ∧ commitmentsOf events = []) ∨
    (∃ (ended : Search) (vain : List (Nat × State)) (t r : State) (inner : List Event),
      Sought resume trial ended vain ∧ ended.index < count ∧
      (trial ended.index).outcome = .returned (some t) ∧ resume t = ⟨inner, .returned r⟩ ∧
      r.ok = true ∧ last.last = some r ∧ commitmentsOf events = commitmentsOf inner ++
        [.committed look.mode.word look.shown (s.remaining - t.remaining) (vain.length + 1)]) := by
  induction left generalizing search vain events with
  | zero =>
    obtain ⟨rfl, rfl⟩ := Run.pure_eq_returned run
    exact .inl ⟨h.last, rfl⟩
  | succ left ih =>
    rw [Run.loop_succ] at run
    obtain ⟨here, later, turn, first, rest, rfl⟩ := Run.bind_eq_returned run
    obtain ⟨next, vain', rfl, index, sought, nothing⟩ |
        ⟨t, r, inner, found, after, good, rfl, one⟩ :=
      attempt_recorded quiet failing h (by omega) first
    · rw [commitmentsOf_append, nothing, List.nil_append]
      exact ih sought (by omega) rest
    · obtain ⟨rfl, rfl⟩ := Run.pure_eq_returned rest
      rw [List.append_nil, one, h.tried]
      exact .inr ⟨search, vain, t, r, inner, h, by omega, found, after, good, rfl, rfl⟩

end Turns

/-! ### Settling for a candidate -/

/-- A candidate that a search commits to, with its length, after others that come earlier in the
order of the mode: all of these, and the rest of the chain fails after each. -/
structure SettlesFor (look : Lookahead) (s : State) (resume : Action) (length tried : Nat)
    (t : State) : Prop where
  candidate : look.Candidate s length t
  earlier : ∃ vain : List (Nat × State), tried = vain.length + 1 ∧
    vain.Pairwise (fun p q => look.mode.Before p.1 q.1) ∧
    (∀ k u, (k, u) ∈ vain ↔ look.Candidate s k u ∧ look.mode.Before k length) ∧
    ∀ p ∈ vain, DeadEnd resume p.2

theorem Candidate.taken (h : look.Candidate s length t) : s.remaining - t.remaining = length := by
  cases h with
  | whole run good longest => exact longest
  | cut run good shorter again matched used =>
    simp only [State.remaining]
    omega

/-- A search tries at most one more candidate than the parser matches items by itself. -/
theorem SettlesFor.bounded (h : look.SettlesFor s resume length tried t) :
    ∃ full, (look.act s).outcome = .returned full ∧ full.ok = true ∧ 1 ≤ tried ∧
      length ≤ s.remaining - full.remaining ∧ tried ≤ s.remaining - full.remaining + 1 := by
  obtain ⟨full, run, good, bound⟩ := h.candidate.full
  obtain ⟨vain, rfl, order, found, -⟩ := h.earlier
  refine ⟨full, run, good, by omega, bound, ?_⟩
  -- The lengths of the candidates tried are distinct, and none is above the longest.
  have distinct : (length :: vain.map Prod.fst).Nodup := by
    refine List.nodup_cons.mpr ⟨fun member => ?_, ?_⟩
    · obtain ⟨p, there, same⟩ := List.mem_map.mp member
      have before := ((found p.1 p.2).mp there).2
      rw [same] at before
      exact before.asymm before
    · refine List.pairwise_map.mpr (order.imp fun before same => ?_)
      rw [same] at before
      exact before.asymm before
  have within : length :: vain.map Prod.fst ⊆
      List.range (s.remaining - full.remaining + 1).toNat := by
    intro k member
    have least : (k : Int) ≤ s.remaining - full.remaining := by
      rcases List.mem_cons.mp member with rfl | member
      · exact bound
      · obtain ⟨p, there, rfl⟩ := List.mem_map.mp member
        obtain ⟨full', run', -, bound'⟩ := ((found p.1 p.2).mp there).1.full
        obtain rfl := Outcome.returned.inj (run.symm.trans run')
        exact bound'
    rw [List.mem_range]
    omega
  have few := (distinct.subperm within).length_le
  simp only [List.length_cons, List.length_map, List.length_range] at few
  omega

theorem Enumerates.settlesFor {full : State} {trials : Trials} {lengthOf : Nat → Nat}
    (all : look.Enumerates s full trials lengthOf) (run : (look.act s).outcome = .returned full)
    (good : full.ok = true) (h : Sought resume trials.trial search vain)
    (more : search.index < trials.count)
    (found : (trials.trial search.index).outcome = .returned (some t)) :
    look.SettlesFor s resume (lengthOf search.index) (vain.length + 1) t where
  candidate := (all.found_iff run good more found t).mp rfl
  earlier := by
    refine ⟨vain.map fun p => (lengthOf p.1, p.2), by rw [List.length_map], ?_, ?_, ?_⟩
    · refine List.pairwise_map.mpr (h.order.imp_of_mem fun _ later less => ?_)
      have bound := ((h.found _ _).mp later).1
      exact all.order _ _ less (by omega)
    · intro k u
      rw [List.mem_map]
      constructor
      · rintro ⟨⟨index, u⟩, member, ⟨⟩⟩
        obtain ⟨earlier, tries⟩ := (h.found index u).mp member
        exact ⟨(all.found_iff run good (by omega) tries u).mp rfl, all.order _ _ earlier more⟩
      · rintro ⟨candidate, before⟩
        obtain ⟨index, there, rfl⟩ := all.index_of_candidate run candidate
        have earlier : index < search.index := by
          by_contra late
          rcases Nat.lt_or_eq_of_le (Nat.not_lt.mp late) with later | same
          · exact before.asymm (all.order _ _ later there)
          · rw [same] at before
            exact before.asymm before
        obtain ⟨other, tries⟩ := h.tries index earlier
        obtain rfl := (all.found_iff run good there tries u).mpr candidate
        exact ⟨(index, u), (h.found index u).mpr ⟨earlier, tries⟩, rfl⟩
    · intro p member
      obtain ⟨q, there, rfl⟩ := List.mem_map.mp member
      exact h.dead q there

/-! ### Searches -/

theorem run_uncommitted (quiet : look.act.Uncommitted) : look.run.Uncommitted := by
  intro s
  rw [Run.Uncommitted, run_events]
  exact quiet s

theorem candidate_uncommitted (quiet : look.act.Uncommitted) (s full : State)
    (longest length : Int) : (look.candidate s full longest length).Uncommitted := by
  refine .branch (.pure _) ((run_uncommitted quiet _).bind fun clipped => ?_)
  exact .branch (.pure _) (.pure _)

theorem trials_uncommitted (quiet : look.act.Uncommitted) (s : State) :
    (look.trials s).Uncommitted := by
  refine (run_uncommitted quiet s).bind fun full => .branch (.pure _) ?_
  exact (Run.Uncommitted.need _ _).bind fun lengthAt => .pure _

theorem trial_uncommitted (quiet : look.act.Uncommitted) {trials : Trials}
    (run : (look.trials s).outcome = .returned trials) (index : Nat) :
    (trials.trial index).Uncommitted := by
  obtain ⟨full, -, run⟩ := Run.bind_returned_iff.mp run
  split at run
  · obtain rfl := Run.pure_returned_iff.mp run
    exact .pure _
  · obtain ⟨lengthAt, -, run⟩ := Run.bind_returned_iff.mp run
    obtain rfl := Run.pure_returned_iff.mp run
    exact candidate_uncommitted quiet s full _ _

theorem ok_of_trials {trials : Trials} (run : (look.trials s).outcome = .returned trials)
    (some : 0 < trials.count) : ∃ full, (look.act s).outcome = .returned full ∧ full.ok = true := by
  obtain ⟨full, matched, run⟩ := Run.bind_returned_iff.mp run
  refine ⟨full, run_returned_iff.mp matched, ?_⟩
  by_contra failed
  rw [Bool.not_eq_true] at failed
  simp only [failed, Bool.not_false, if_true] at run
  obtain rfl := Run.pure_returned_iff.mp run
  exact absurd some (Nat.lt_irrefl 0)

theorem Tries.live (h : look.Tries s t)
    (nothing : ∀ full, (look.act s).outcome = .returned full → full.ok = true →
      full.remaining ≤ s.remaining) : t.ok = true := by
  have shorter : ∀ r, (look.act s).outcome = .returned r → r.remaining ≤ s.remaining := by
    obtain ⟨trials, index, tries, bound, -⟩ := h
    obtain ⟨full, run, good⟩ := ok_of_trials tries (by omega)
    intro r again
    obtain rfl := Outcome.returned.inj (run.symm.trans again)
    exact nothing _ run good
  obtain ⟨length, candidate⟩ := h.candidate shorter
  cases candidate with
  | whole run good => exact good
  | cut => rfl

/-- The records of a search that ends are those of the rest of the chain after the candidate that it
commits to, and then one for the candidate. -/
theorem search_recorded (quiet : look.act.Uncommitted)
    (nothing : ∀ full, (look.act s).outcome = .returned full → full.ok = true →
      full.remaining ≤ s.remaining)
    (failing : ∀ u inner r, look.Tries s u → resume u = ⟨inner, .returned r⟩ → r.ok = false →
      commitmentsOf inner = [])
    {found : Option State} (run : look.search s resume = ⟨events, .returned found⟩) :
    ((∀ r, found = some r → r.ok = false) ∧ commitmentsOf events = []) ∨
    (∃ length tried t r inner, look.SettlesFor s resume length tried t ∧ look.Tries s t ∧
      resume t = ⟨inner, .returned r⟩ ∧ r.ok = true ∧ found = some r ∧
      commitmentsOf events = commitmentsOf inner ++
        [.committed look.mode.word look.shown length tried]) := by
  obtain ⟨here, later, trials, tries, attempts, rfl⟩ := Run.bind_eq_returned run
  obtain ⟨turns, ending, last, loops, ends, rfl⟩ := Run.bind_eq_returned attempts
  obtain ⟨rfl, rfl⟩ := Run.pure_eq_returned ends
  have before := (trials_uncommitted quiet s).records tries
  rw [commitmentsOf_append, before, List.nil_append, List.append_nil]
  have tries := congrArg Run.outcome tries
  have start : Sought resume trials.trial ⟨0, 0, none⟩ [] := by
    refine ⟨fun index u => ⟨nofun, fun earlier => ?_⟩, fun index earlier => ?_, .nil, nofun, rfl,
      nofun⟩
    · exact absurd earlier.1 (Nat.not_lt_zero index)
    · exact absurd earlier (Nat.not_lt_zero index)
  obtain failed | ⟨ended, vain, t, r, inner, sought, more, found, after, good, result, records⟩ :=
    attempts_recorded (trial_uncommitted quiet tries)
      (fun index u inner r more found => failing u inner r ⟨trials, index, tries, more, found⟩)
      start (by simp) loops
  · exact .inl failed
  · right
    obtain ⟨full, run, live⟩ := ok_of_trials tries (by omega)
    obtain ⟨full', run', ⟨failed, -⟩ | ⟨-, length, all⟩⟩ := trials_returned tries fun r again => by
      obtain rfl := Outcome.returned.inj (run.symm.trans again)
      exact nothing _ run live
    all_goals obtain rfl := Outcome.returned.inj (run.symm.trans run')
    · exact absurd live (by simp [failed])
    · have settles := all.settlesFor run live sought more found
      rw [settles.candidate.taken] at records
      exact ⟨_, _, t, r, inner, settles, ⟨trials, _, tries, more, found⟩, after, good, result,
        records⟩

end Lookahead

end Catena
