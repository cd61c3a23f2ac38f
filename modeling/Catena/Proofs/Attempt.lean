import Catena.Proofs.Links
import Catena.Proofs.Search

/-!
# First attempts at chains

A chain first goes along its links with the first candidate of each lookahead. What is appended to
it sees the end of that attempt before any other candidate is tried: `Chain.Attempt.follow_append`
gives the end of the longer chain as that of the links appended, unless those fail.
-/

namespace Catena

def Outcome.Fails (outcome : Outcome State) : Prop :=
  ∃ r, outcome = .returned r ∧ r.ok = false

namespace Lookahead

variable {look : Lookahead} {s t : State}

def Tries (look : Lookahead) (s t : State) : Prop :=
  ∃ trials index, (look.trials s).outcome = .returned trials ∧ index < trials.count ∧
    (trials.trial index).outcome = .returned (some t)

/-- The first candidate that a lookahead tries. -/
def Foremost (look : Lookahead) (s t : State) : Prop :=
  ∃ trials index, (look.trials s).outcome = .returned trials ∧ index < trials.count ∧
    (trials.trial index).outcome = .returned (some t) ∧
    ∀ earlier, earlier < index → (trials.trial earlier).outcome = .returned none

theorem Foremost.tries (h : look.Foremost s t) : look.Tries s t := by
  obtain ⟨trials, index, tries, bound, found, -⟩ := h
  exact ⟨trials, index, tries, bound, found⟩

def Lacking (look : Lookahead) (s : State) : Prop :=
  ∃ trials, (look.trials s).outcome = .returned trials ∧
    ∀ index, index < trials.count → (trials.trial index).outcome = .returned none

theorem lacking_of_failed {full : State} (run : (look.act s).outcome = .returned full)
    (failed : full.ok = false) : look.Lacking s := by
  have none : (look.trials s).outcome = .returned ⟨0, fun _ => return none⟩ := by
    refine (Run.bind_outcome (run_returned_iff.mpr run) _).trans ?_
    rw [if_pos (by rw [failed]; rfl)]
    rfl
  exact ⟨_, none, fun index more => absurd more (Nat.not_lt_zero index)⟩

section Turns

variable {resume : Action} {trial : Nat → Run (Option State)} {search : Search}

theorem attempt_none (none : (trial search.index).outcome = .returned none) :
    (look.attempt s resume trial search).outcome =
      .returned (.yield { search with index := search.index + 1 }) :=
  Run.bind_outcome none _

theorem attempt_some (found : (trial search.index).outcome = .returned (some t))
    (hard : ¬ (resume t).outcome.Fails) :
    (look.attempt s resume trial search).outcome =
      (resume t >>= fun r =>
        return .done ⟨search.index + 1, search.tried + 1, some r⟩).outcome := by
  refine (Run.bind_outcome found _).trans (Run.bind_outcome_congr rfl fun r after => ?_)
  have good : r.ok = true := by
    cases ok : r.ok with
    | true => rfl
    | false => exact absurd ⟨r, after, ok⟩ hard
  simp only [good, Bool.not_true, Bool.false_eq_true, if_false]
  rfl

theorem attempts_none (left : Nat) (search : Search)
    (none : ∀ index, index < search.index + left → (trial index).outcome = .returned none) :
    (Run.loop (look.attempt s resume trial) pure left search).outcome =
      .returned { search with index := search.index + left } := by
  induction left generalizing search with
  | zero => rfl
  | succ left ih =>
    rw [Run.loop_succ, Run.bind_outcome (attempt_none (none _ (by omega)))]
    refine (ih _ fun index bound => none index (by dsimp only at bound; omega)).trans ?_
    simp only [show search.index + 1 + left = search.index + (left + 1) by omega]

theorem attempts_some (count : Nat) {left : Nat} (bound : count < left) (search : Search)
    (none : ∀ index, index < search.index + count → (trial index).outcome = .returned none)
    (found : (trial (search.index + count)).outcome = .returned (some t))
    (hard : ¬ (resume t).outcome.Fails) :
    (Run.loop (look.attempt s resume trial) pure left search).outcome =
      (resume t >>= fun r =>
        return ⟨search.index + count + 1, search.tried + 1, some r⟩).outcome := by
  obtain ⟨left, rfl⟩ : ∃ n, left = n + 1 := ⟨left - 1, by omega⟩
  rw [Run.loop_succ]
  induction count generalizing left search with
  | zero =>
    refine (Run.bind_outcome_congr (attempt_some found hard) fun _ _ => rfl).trans ?_
    rw [bind_assoc]
    exact Run.bind_outcome_congr rfl fun r _ => rfl
  | succ count ih =>
    rw [Run.bind_outcome (attempt_none (none _ (by omega)))]
    obtain ⟨left, rfl⟩ : ∃ n, left = n + 1 := ⟨left - 1, by omega⟩
    have same : search.index + 1 + count = search.index + (count + 1) := by omega
    rw [← same] at found ⊢
    show (Run.loop (look.attempt s resume trial) pure (left + 1) _).outcome = _
    rw [Run.loop_succ]
    exact ih ⟨search.index + 1, search.tried, search.last⟩
      (fun index bound => none index (by dsimp only at bound; omega)) found left (by omega)

theorem attempts_first {left : Nat} {search last : Search}
    (h : (Run.loop (look.attempt s resume trial) pure left search).outcome = .returned last) :
    (∃ index t r, index < search.index + left ∧ (trial index).outcome = .returned (some t) ∧
      (resume t).outcome = .returned r ∧
      ∀ earlier, search.index ≤ earlier → earlier < index →
        (trial earlier).outcome = .returned none) ∨
    ∀ index, search.index ≤ index → index < search.index + left →
      (trial index).outcome = .returned none := by
  induction left generalizing search with
  | zero => exact .inr fun index _ _ => by omega
  | succ left ih =>
    rw [Run.loop_succ] at h
    obtain ⟨turn, first, h⟩ := Run.bind_returned_iff.mp h
    unfold attempt at first
    obtain ⟨found, tries, first⟩ := Run.bind_returned_iff.mp first
    cases found with
    | some t =>
      obtain ⟨r, after, -⟩ := Run.bind_returned_iff.mp first
      exact .inl ⟨search.index, t, r, by omega, tries, after, fun earlier _ _ => by omega⟩
    | none =>
      obtain rfl := Run.pure_returned_iff.mp first
      have here : ∀ earlier, search.index ≤ earlier → earlier < search.index + 1 →
          (trial earlier).outcome = .returned none := by
        intro earlier _ _
        exact (show earlier = search.index by omega) ▸ tries
      obtain ⟨index, t, r, bound, found, after, none⟩ | none := ih h
      · refine .inl ⟨index, t, r, by dsimp only at bound; omega, found, after, ?_⟩
        intro earlier low high
        by_cases first : earlier < search.index + 1
        · exact here earlier low first
        · exact none earlier (by dsimp only; omega) high
      · refine .inr fun index low high => ?_
        by_cases first : index < search.index + 1
        · exact here index low first
        · exact none index (by dsimp only; omega) (by dsimp only; omega)

end Turns

theorem foremost_or_lacking {resume : Action} {found : Option State}
    (h : (look.search s resume).outcome = .returned found) :
    (∃ t r, look.Foremost s t ∧ (resume t).outcome = .returned r) ∨ look.Lacking s := by
  obtain ⟨trials, tries, h⟩ := Run.bind_returned_iff.mp h
  obtain ⟨last, attempts, -⟩ := Run.bind_returned_iff.mp h
  obtain ⟨index, t, r, bound, found, after, none⟩ | none := attempts_first attempts
  · exact .inl ⟨t, r, ⟨trials, index, tries, by simpa using bound, found,
      fun earlier less => none earlier (Nat.zero_le _) less⟩, after⟩
  · exact .inr ⟨trials, tries, fun index bound => none index (Nat.zero_le _) (by simpa using bound)⟩

/-- A search ends as the rest of the chain does after the first candidate, unless that fails. -/
theorem search_foremost {resume : Action} (first : look.Foremost s t)
    (hard : ¬ (resume t).outcome.Fails) :
    (look.search s resume).outcome = (resume t >>= fun r => return some r).outcome := by
  obtain ⟨trials, index, tries, bound, found, none⟩ := first
  refine (Run.bind_outcome tries _).trans ?_
  refine (Run.bind_outcome_congr (attempts_some index bound ⟨0, 0, Option.none⟩
    (fun earlier less => none earlier (by simpa using less)) (by simpa using found) hard)
    fun _ _ => rfl).trans ?_
  rw [bind_assoc]
  exact Run.bind_outcome_congr rfl fun r _ => rfl

theorem search_lacking {resume : Action} (lacking : look.Lacking s) :
    (look.search s resume).outcome = .returned none := by
  obtain ⟨trials, tries, none⟩ := lacking
  refine (Run.bind_outcome tries _).trans ?_
  exact Run.bind_outcome (attempts_none trials.count ⟨0, 0, Option.none⟩ fun index bound =>
    none index (by simpa using bound)) _

end Lookahead

namespace Chain

/-- The first attempt at a chain, from a state and a text to others: each lookahead that is followed
takes the first candidate it tries, if there is one. -/
inductive Attempt : List (Link Part) → State → Value → State → Value → Prop where
  | done (s : State) (text : Value) : Attempt [] s text s text
  | link {link : Link Part} {rest : List (Link Part)} {s t a : State} {text joined last : Value}
      (ordinary : s.ok = true → followed rest link = none)
      (run : (step link s text).outcome = .returned (t, joined))
      (later : Attempt rest t joined a last) : Attempt (link :: rest) s text a last
  | pick {link : Link Part} {rest : List (Link Part)} {fold : Fold} {look : Lookahead}
      {s t a : State} {text joined last : Value} (live : s.ok = true)
      (back : followed rest link = some (fold, look)) (first : look.Foremost s t)
      (join : (fold.join text t.matched).outcome = .returned joined)
      (later : Attempt rest { t with matched := joined } joined a last) :
      Attempt (link :: rest) s text a last
  | miss {link : Link Part} {rest : List (Link Part)} {fold : Fold} {look : Lookahead}
      {s full a : State} {text last : Value} (live : s.ok = true)
      (back : followed rest link = some (fold, look)) (lacking : look.Lacking s)
      (run : (look.act s).outcome = .returned full) (later : Attempt rest full text a last) :
      Attempt (link :: rest) s text a last

def Enclosed : List (Link Part) → Prop
  | [] => True
  | link :: rest => (∀ fold part, link = .item fold part → part.lookahead.isSome →
      rest.any Link.isItem = true) ∧ Enclosed rest

def Straight (links : List (Link Part)) : Prop :=
  ∀ fold part, .item fold part ∈ links → part.lookahead = none

variable {link : Link Part} {links rest tail : List (Link Part)} {s t a r : State}
  {text joined last : Value}

theorem followed_append (enclosed : Enclosed (link :: rest)) (tail : List (Link Part)) :
    followed (rest ++ tail) link = followed rest link := by
  cases link with
  | build function => rfl
  | item fold part =>
    cases look : part.lookahead with
    | none => simp only [followed, look, Option.map_none, ite_self]
    | some _ =>
      have later : rest.any Link.isItem = true :=
        enclosed.1 fold part rfl (by rw [look]; rfl)
      simp only [followed, List.any_append, later, Bool.true_or, if_true]

theorem followed_straight (straight : Straight (link :: rest)) : followed rest link = none := by
  cases link with
  | build function => rfl
  | item fold part =>
    simp only [followed, straight fold part (.head _), Option.map_none, ite_self]

/-- Links appended to a chain end it as they end after the first attempt, unless they fail there and
there is a lookahead to try further candidates of. -/
theorem Attempt.follow_append (h : Attempt links s text a last) (enclosed : Enclosed links)
    (tail : List (Link Part)) (hard : ¬ (follow tail a last).outcome.Fails ∨ Straight links) :
    (follow (links ++ tail) s text).outcome = (follow tail a last).outcome := by
  induction h with
  | done => rfl
  | @link link rest s t a text joined last ordinary run later ih =>
    rw [List.cons_append, follow_cons fun live =>
      (followed_append enclosed tail).trans (ordinary live), Run.bind_outcome run]
    refine ih enclosed.2 (hard.imp_right fun straight fold part member => ?_)
    exact straight fold part (.tail _ member)
  | @pick link rest fold look s t a text joined last live back first join later ih =>
    -- What is appended does not fail after the first candidate, so that no other one is tried.
    have hard : ¬ (follow tail a last).outcome.Fails := by
      refine hard.resolve_right fun straight => ?_
      cases (followed_straight straight).symm.trans back
    have rests := ih enclosed.2 (.inl hard)
    have resumed : (resume (rest ++ tail) fold text t).outcome = (follow tail a last).outcome :=
      (Run.bind_outcome join _).trans rests
    rw [List.cons_append, follow_searched live ((followed_append enclosed tail).trans back)]
    refine (Run.bind_outcome_congr (look.search_foremost first (by rwa [resumed]))
      fun _ _ => rfl).trans ?_
    rw [bind_assoc]
    refine Eq.trans ?_ resumed
    refine (Run.bind_outcome_congr rfl fun r _ => ?_).trans (congrArg _ (bind_pure _))
    rfl
  | @miss link rest fold look s full a text last live back lacking run later ih =>
    rw [List.cons_append, follow_searched live ((followed_append enclosed tail).trans back)]
    refine (Run.bind_outcome (look.search_lacking lacking) _).trans ?_
    refine (Run.bind_outcome run _).trans (ih enclosed.2 (.inl ?_))
    refine hard.resolve_right fun straight => ?_
    cases (followed_straight straight).symm.trans back

theorem exists_attempt (h : (follow links s text).outcome = .returned r) :
    ∃ a last, Attempt links s text a last := by
  induction links generalizing s text r with
  | nil => exact ⟨s, text, .done s text⟩
  | cons link rest ih =>
    by_cases ordinary : s.ok = true → followed rest link = none
    · rw [follow_cons ordinary] at h
      obtain ⟨⟨t, joined⟩, run, h⟩ := Run.bind_returned_iff.mp h
      obtain ⟨a, last, later⟩ := ih h
      exact ⟨a, last, .link ordinary run later⟩
    · obtain ⟨live, searched⟩ := Classical.not_imp.mp ordinary
      obtain ⟨⟨fold, look⟩, back⟩ := Option.ne_none_iff_exists'.mp searched
      rw [follow_searched live back] at h
      obtain ⟨found, sought, h⟩ := Run.bind_returned_iff.mp h
      -- A search that returns went along the rest of the chain from its first candidate.
      obtain ⟨t, r', first, resumed⟩ | lacking := look.foremost_or_lacking sought
      · obtain ⟨joined, join, ended⟩ := Run.bind_returned_iff.mp resumed
        obtain ⟨a, last, later⟩ := ih ended
        exact ⟨a, last, .pick live back first join later⟩
      · obtain rfl := Outcome.returned.inj (sought.symm.trans (look.search_lacking lacking))
        obtain ⟨full, run, h⟩ := Run.bind_returned_iff.mp h
        obtain ⟨a, last, later⟩ := ih h
        exact ⟨a, last, .miss live back lacking run later⟩

end Chain

end Catena
