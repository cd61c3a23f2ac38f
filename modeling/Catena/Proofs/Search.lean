import Catena.Lookahead
import Catena.Proofs.Outcome

/-!
# Searches

What a lookahead settles for. `Lookahead.search_returned` tells the result of a search by the
candidates alone: it is that after the first of them, in the order of the mode, after which the rest
of the chain succeeds, or a failure if there is none.
-/

namespace Catena

/-- Of two lengths, the one a mode tries earlier. -/
def Mode.Before : Mode → Nat → Nat → Prop
  | .reluctant, k, l => k < l
  | .greedy, k, l => l < k
  | .unordered, _, _ => False

theorem Mode.Before.asymm {mode : Mode} {k l : Nat} (h : mode.Before k l) : ¬ mode.Before l k := by
  cases mode <;> simp only [Before] at h ⊢ <;> omega

namespace Lookahead

/-- The matches of a lookahead on a state, with their lengths: what the parser matches by itself,
and the shorter matches of all of the input cut to their length. -/
inductive Candidate (look : Lookahead) (s : State) : Nat → State → Prop where
  | whole {full : State} {length : Nat} (run : (look.act s).outcome = .returned full)
      (good : full.ok = true) (longest : s.remaining - full.remaining = length) :
    Candidate look s length full
  | cut {full clipped : State} {length : Nat} (run : (look.act s).outcome = .returned full)
      (good : full.ok = true) (shorter : length < s.remaining - full.remaining)
      (again : (look.act { s with limit := s.pos + length }).outcome = .returned clipped)
      (matched : clipped.ok = true) (used : clipped.remaining = 0) :
    Candidate look s length { s with
      pos := s.pos + length, matched := clipped.matched, value := clipped.value, ok := true }

variable {look : Lookahead} {s : State}

theorem Candidate.full {length : Nat} {t : State} (h : look.Candidate s length t) :
    ∃ full, (look.act s).outcome = .returned full ∧ full.ok = true ∧
      length ≤ s.remaining - full.remaining := by
  cases h with
  | whole run good longest => exact ⟨_, run, good, by omega⟩
  | cut run good shorter => exact ⟨_, run, good, by omega⟩

theorem Candidate.unique {length : Nat} {t u : State} (h : look.Candidate s length t)
    (h' : look.Candidate s length u) : t = u := by
  cases h with
  | whole run good longest =>
    cases h' with
    | whole run' => exact Outcome.returned.inj (run.symm.trans run')
    | cut run' good' shorter' =>
      obtain rfl := Outcome.returned.inj (run.symm.trans run')
      omega
  | cut run good shorter again =>
    cases h' with
    | whole run' good' longest' =>
      obtain rfl := Outcome.returned.inj (run.symm.trans run')
      omega
    | cut run' good' shorter' again' =>
      obtain rfl := Outcome.returned.inj (again.symm.trans again')
      rfl

theorem candidate_returned {full : State} (run : (look.act s).outcome = .returned full)
    (good : full.ok = true) {length : Nat} (bound : length ≤ s.remaining - full.remaining)
    {found : Option State}
    (h : (look.candidate s full (s.remaining - full.remaining) length).outcome = .returned found)
    (t : State) : found = some t ↔ look.Candidate s length t := by
  have only : ∀ u, look.Candidate s length u → found = some u →
      (found = some t ↔ look.Candidate s length t) := by
    intro u candidate same
    rw [same, Option.some_inj]
    exact ⟨fun h => h ▸ candidate, fun h => candidate.unique h⟩
  unfold candidate at h
  by_cases longest : (length : Int) = s.remaining - full.remaining
  · rw [if_pos longest, Run.pure_returned_iff] at h
    exact only full (.whole run good longest.symm) h.symm
  · rw [if_neg longest, Run.bind_returned_iff] at h
    obtain ⟨clipped, again, h⟩ := h
    rw [run_returned_iff] at again
    by_cases matched : (clipped.ok && clipped.remaining == 0) = true
    · rw [if_pos matched, Run.pure_returned_iff] at h
      simp only [Bool.and_eq_true, beq_iff_eq] at matched
      exact only _ (.cut run good (by omega) again matched.1 matched.2) h.symm
    · rw [if_neg matched, Run.pure_returned_iff] at h
      subst h
      refine ⟨nofun, fun candidate => ?_⟩
      cases candidate with
      | whole run' _ longest' =>
        obtain rfl := Outcome.returned.inj (run.symm.trans run')
        exact absurd longest'.symm longest
      | cut run' good' shorter' again' whole' used' =>
        obtain rfl := Outcome.returned.inj (again.symm.trans again')
        exact absurd (by simp [whole', used']) matched

/-! ### Turns of a search -/

section Turns

variable {resume : Action} {trial : Nat → Run (Option State)}

def Barren (resume : Action) (trial : Nat → Run (Option State)) (index : Nat) : Prop :=
  (trial index).outcome = .returned none ∨
    ∃ t r, (trial index).outcome = .returned (some t) ∧ (resume t).outcome = .returned r ∧
      r.ok = false

def Fruitful (resume : Action) (trial : Nat → Run (Option State)) (index : Nat) (r : State) :
    Prop :=
  ∃ t, (trial index).outcome = .returned (some t) ∧ (resume t).outcome = .returned r ∧ r.ok = true

/-- What a search is left with after barren trials: nothing if there was no candidate, or a failed
result. -/
def Vain (trial : Nat → Run (Option State)) (tried : Nat) : Option State → Prop
  | none => ∀ index, index < tried → (trial index).outcome = .returned none
  | some r => r.ok = false

theorem attempt_returned {search : Search} {turn : ForInStep Search}
    (h : (look.attempt s resume trial search).outcome = .returned turn)
    (vain : Vain trial search.index search.last) :
    (∃ r next, Fruitful resume trial search.index r ∧ turn = .done next ∧ next.last = some r) ∨
    (∃ next, Barren resume trial search.index ∧ turn = .yield next ∧
      next.index = search.index + 1 ∧ Vain trial next.index next.last) := by
  unfold attempt at h
  obtain ⟨found, tries, h⟩ := Run.bind_returned_iff.mp h
  cases found with
  | none =>
    obtain rfl := Run.pure_returned_iff.mp h
    refine .inr ⟨_, .inl tries, rfl, rfl, ?_⟩
    cases last : search.last with
    | none =>
      rw [last] at vain
      intro index bound
      by_cases earlier : index < search.index
      · exact vain index earlier
      · dsimp only at bound
        exact (show index = search.index by omega) ▸ tries
    | some r =>
      rw [last] at vain
      exact vain
  | some t =>
    obtain ⟨r, after, h⟩ := Run.bind_returned_iff.mp h
    by_cases good : r.ok = true
    · simp only [good, Bool.not_true, Bool.false_eq_true, if_false] at h
      obtain ⟨_, _, h⟩ := Run.bind_returned_iff.mp h
      obtain rfl := Run.pure_returned_iff.mp h
      exact .inl ⟨r, _, ⟨t, tries, after, good⟩, rfl, rfl⟩
    · rw [Bool.not_eq_true] at good
      simp only [good, Bool.not_false, if_true] at h
      obtain rfl := Run.pure_returned_iff.mp h
      exact .inr ⟨_, .inr ⟨t, r, tries, after, good⟩, rfl, rfl, good⟩

theorem attempts_returned {left : Nat} {search last : Search}
    (h : (Run.loop (look.attempt s resume trial) pure left search).outcome = .returned last)
    (vain : Vain trial search.index search.last)
    (before : ∀ index, index < search.index → Barren resume trial index) :
    (∃ index r, index < search.index + left ∧ Fruitful resume trial index r ∧ last.last = some r ∧
      ∀ earlier, earlier < index → Barren resume trial earlier) ∨
    ((∀ index, index < search.index + left → Barren resume trial index) ∧
      Vain trial (search.index + left) last.last) := by
  induction left generalizing search with
  | zero =>
    obtain rfl := Run.pure_returned_iff.mp h
    exact .inr ⟨before, vain⟩
  | succ left ih =>
    rw [Run.loop_succ] at h
    obtain ⟨turn, first, h⟩ := Run.bind_returned_iff.mp h
    obtain ⟨r, next, fruitful, rfl, result⟩ | ⟨next, barren, rfl, index, vain'⟩ :=
      attempt_returned first vain
    · obtain rfl := Run.pure_returned_iff.mp h
      exact .inl ⟨search.index, r, by omega, fruitful, result, before⟩
    · have goesOn := ih h vain' fun earlier bound => by
        by_cases same : earlier = search.index
        · exact same ▸ barren
        · exact before earlier (by omega)
      rwa [index, show search.index + 1 + left = search.index + (left + 1) by omega] at goesOn

end Turns

/-! ### Results of a search -/

/-- The trials of a lookahead run through the lengths up to the longest, in the order of its mode.
-/
structure Enumerates (look : Lookahead) (s full : State) (trials : Trials) (length : Nat → Nat) :
    Prop where
  trial : ∀ index, index < trials.count →
    trials.trial index = look.candidate s full (s.remaining - full.remaining) (length index)
  bound : ∀ index, index < trials.count → length index ≤ s.remaining - full.remaining
  covers : ∀ k : Nat, k ≤ s.remaining - full.remaining →
    ∃ index, index < trials.count ∧ length index = k
  order : ∀ i j, i < j → j < trials.count → look.mode.Before (length i) (length j)

theorem trials_matched {full : State} {lengthAt : Nat → Int}
    (run : (look.act s).outcome = .returned full) (good : full.ok = true)
    (order : Lookahead.lengthAt (s.remaining - full.remaining) look.mode = some lengthAt) :
    (look.trials s).outcome = .returned ⟨(s.remaining - full.remaining + 1).toNat, fun index =>
      look.candidate s full (s.remaining - full.remaining) (lengthAt index)⟩ := by
  refine (Run.bind_outcome (run_returned_iff.mpr run) _).trans ?_
  rw [if_neg (by simp [good])]
  exact Run.bind_outcome (Run.need_returned_iff.mpr order) _

theorem trials_returned {trials : Trials} (h : (look.trials s).outcome = .returned trials)
    (shorter : ∀ full, (look.act s).outcome = .returned full → full.remaining ≤ s.remaining) :
    ∃ full, (look.act s).outcome = .returned full ∧
      (full.ok = false ∧ trials.count = 0 ∨
        full.ok = true ∧ ∃ length, look.Enumerates s full trials length) := by
  obtain ⟨full, run, h⟩ := Run.bind_returned_iff.mp h
  rw [run_returned_iff] at run
  have nonneg := shorter full run
  refine ⟨full, run, ?_⟩
  by_cases good : full.ok = true
  · refine .inr ⟨good, ?_⟩
    simp only [good, Bool.not_true, Bool.false_eq_true, if_false] at h
    obtain ⟨lengthAt, order, h⟩ := Run.bind_returned_iff.mp h
    obtain rfl := Run.pure_returned_iff.mp h
    rw [Run.need_returned_iff] at order
    cases mode : look.mode with
    | reluctant =>
      rw [mode] at order
      obtain rfl := Option.some.inj order
      refine ⟨id, fun _ _ => rfl, ?_, ?_, ?_⟩
      · intro index more
        simp only [id] at more ⊢
        omega
      · exact fun k bound => ⟨k, by simp only; omega, rfl⟩
      · intro i j less _
        rw [mode]
        exact less
    | greedy =>
      rw [mode] at order
      obtain rfl := Option.some.inj order
      refine ⟨fun index => (s.remaining - full.remaining - index).toNat, ?_, ?_, ?_, ?_⟩
      · intro index more
        simp only at more ⊢
        rw [Int.toNat_of_nonneg (by omega)]
      · intro index more
        simp only at more ⊢
        omega
      · intro k bound
        refine ⟨(s.remaining - full.remaining - k).toNat, ?_, ?_⟩
        · simp only
          omega
        · omega
      · intro i j less more
        rw [mode]
        simp only [Mode.Before] at more ⊢
        omega
    | unordered =>
      rw [mode] at order
      cases order
  · rw [Bool.not_eq_true] at good
    simp only [good, Bool.not_false, if_true] at h
    obtain rfl := Run.pure_returned_iff.mp h
    exact .inl ⟨good, rfl⟩

def DeadEnd (resume : Action) (t : State) : Prop :=
  ∃ r, (resume t).outcome = .returned r ∧ r.ok = false

namespace Enumerates

variable {full : State} {trials : Trials} {length : Nat → Nat} {resume : Action}
  (h : look.Enumerates s full trials length) (run : (look.act s).outcome = .returned full)
  (good : full.ok = true)
include h run good

theorem found_iff {index : Nat} (more : index < trials.count) {found : Option State}
    (tries : (trials.trial index).outcome = .returned found) (t : State) :
    found = some t ↔ look.Candidate s (length index) t := by
  rw [h.trial index more] at tries
  exact candidate_returned run good (h.bound index more) tries t

omit good in
theorem index_of_candidate {k : Nat} {u : State} (candidate : look.Candidate s k u) :
    ∃ index, index < trials.count ∧ length index = k := by
  obtain ⟨full', run', -, bound⟩ := candidate.full
  obtain rfl := Outcome.returned.inj (run.symm.trans run')
  exact h.covers k bound

theorem deadEnd_of_barren {index : Nat} (more : index < trials.count)
    (barren : Barren resume trials.trial index) {u : State}
    (candidate : look.Candidate s (length index) u) : DeadEnd resume u := by
  obtain none | ⟨t, r, found, after, failed⟩ := barren
  · cases (h.found_iff run good more none u).mpr candidate
  · obtain rfl := Option.some.inj ((h.found_iff run good more found u).mpr candidate)
    exact ⟨r, after, failed⟩

end Enumerates

/-- A search gives nothing if the parser fails by itself, a failed result if the rest of the chain
fails after all candidates, and else the result after the first candidate that is no dead end. -/
theorem search_returned {resume : Action} {found : Option State}
    (h : (look.search s resume).outcome = .returned found)
    (shorter : ∀ full, (look.act s).outcome = .returned full → full.remaining ≤ s.remaining) :
    (∃ full, (look.act s).outcome = .returned full ∧ full.ok = false ∧ found = none) ∨
    (∃ r, found = some r ∧ r.ok = false ∧
      ∀ k u, look.Candidate s k u → DeadEnd resume u) ∨
    (∃ length t r, look.Candidate s length t ∧ (resume t).outcome = .returned r ∧ r.ok = true ∧
      found = some r ∧ ∀ k u, look.Candidate s k u →
        k = length ∨ look.mode.Before length k ∨ DeadEnd resume u) := by
  obtain ⟨trials, tries, h⟩ := Run.bind_returned_iff.mp h
  obtain ⟨last, attempts, h⟩ := Run.bind_returned_iff.mp h
  obtain rfl := Run.pure_returned_iff.mp h
  obtain ⟨full, run, ⟨failed, none⟩ | ⟨good, length, all⟩⟩ := trials_returned tries shorter
  · rw [none] at attempts
    obtain rfl := Run.pure_returned_iff.mp attempts
    exact .inl ⟨full, run, failed, rfl⟩
  have start : Vain trials.trial 0 none := fun index bound => absurd bound (Nat.not_lt_zero index)
  have ended := attempts_returned attempts start fun index bound => absurd bound (by simp)
  simp only [Nat.zero_add] at ended
  obtain ⟨index, r, more, ⟨t, found, after, live⟩, result, earlier⟩ | ⟨barren, vain⟩ := ended
  · refine .inr (.inr ⟨length index, t, r, (all.found_iff run good more found t).mp rfl, after,
      live, result, ?_⟩)
    intro k u candidate
    obtain ⟨other, there, rfl⟩ := all.index_of_candidate run candidate
    obtain before | same | later := Nat.lt_trichotomy other index
    · exact .inr (.inr (all.deadEnd_of_barren run good there (earlier other before) candidate))
    · exact .inl (congrArg length same)
    · exact .inr (.inl (all.order index other later there))
  · right
    left
    have dead : ∀ k u, look.Candidate s k u → DeadEnd resume u := by
      intro k u candidate
      obtain ⟨index, more, rfl⟩ := all.index_of_candidate run candidate
      exact all.deadEnd_of_barren run good more (barren index more) candidate
    cases result : last.last with
    | some r =>
      rw [result] at vain
      exact ⟨r, rfl, vain, dead⟩
    | none =>
      -- The unrestricted match is a candidate, so that one trial found something.
      rw [result] at vain
      have nonneg := shorter full run
      have whole : look.Candidate s (s.remaining - full.remaining).toNat full :=
        .whole run good (by omega)
      obtain ⟨index, more, same⟩ := all.index_of_candidate run whole
      cases (all.found_iff run good more (vain index more) full).mpr (same ▸ whole)

end Lookahead

end Catena
