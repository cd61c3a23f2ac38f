import Mathlib
import Catena.Proofs.Cursor
import Catena.Proofs.Recovery

/-!
# Candidates

What a lookahead tries, as a list. `Grammar.candidates_exact`: the candidates stand in the order of
the mode, each of another length. Below the longest, the lengths are those to which the input can be
cut so that the parser matches all of it; the longest one is always among them, with what the parser
matches by itself, for it is not run again on the input cut to that length.
-/

namespace Catena

/-- A state of which no more than so many items may be read. -/
def State.cut (s : State) (length : Nat) : State :=
  { s with limit := s.pos + length }

namespace Lookahead

variable {look : Lookahead} {s full : State} {resume : Action}

/-- If all trials return, the candidates are listed with their lengths in the order of the mode. -/
theorem candidates_returned {trials : Trials} {length : Nat → Nat}
    (all : look.Enumerates s full trials length) (run : (look.act s).outcome = .returned full)
    (good : full.ok = true) (tries : (look.trials s).outcome = .returned trials)
    (unbroken : ∀ index, index < trials.count →
      ∃ found, (trials.trial index).outcome = .returned found) :
    ∃ found : List (Nat × State), (look.candidates s).outcome = .returned (found.map Prod.snd) ∧
      found.Pairwise (fun a b => look.mode.Before a.1 b.1) ∧
      ∀ k t, (k, t) ∈ found ↔ look.Candidate s k t := by
  choose! result tried using unbroken
  refine ⟨(List.range trials.count).filterMap fun index =>
    (result index).map (length index, ·), ?_, ?_, fun k t => ?_⟩
  · have listed : ((List.range trials.count).mapM trials.trial).outcome =
        .returned ((List.range trials.count).map result) :=
      Run.mapM_returned fun index member => tried index (List.mem_range.mp member)
    refine (Run.bind_outcome tries _).trans ((Run.bind_outcome listed _).trans ?_)
    refine congrArg Outcome.returned ?_
    rw [List.filterMap_map, List.map_filterMap]
    refine List.filterMap_congr fun index _ => ?_
    cases found : result index <;> simp [found]
  · rw [List.pairwise_filterMap]
    refine List.pairwise_lt_range.imp_of_mem fun {i j} _ member less => ?_
    rintro _ there _ there'
    obtain ⟨_, -, rfl⟩ := Option.map_eq_some_iff.mp there
    obtain ⟨_, -, rfl⟩ := Option.map_eq_some_iff.mp there'
    exact all.order i j less (List.mem_range.mp member)
  · rw [List.mem_filterMap]
    constructor
    · rintro ⟨index, member, there⟩
      obtain ⟨u, found, same⟩ := Option.map_eq_some_iff.mp there
      obtain ⟨rfl, rfl⟩ := Prod.mk.inj same
      have more := List.mem_range.mp member
      exact (all.found_iff run good more (tried index more) u).mp found
    · intro candidate
      obtain ⟨index, more, rfl⟩ := all.index_of_candidate run candidate
      have found := (all.found_iff run good more (tried index more) t).mpr candidate
      exact ⟨index, List.mem_range.mpr more, by rw [found]; rfl⟩

theorem candidate_iff (run : (look.act s).outcome = .returned full) (good : full.ok = true)
    {longest k : Nat} (consumed : s.remaining - full.remaining = longest) {t : State} :
    look.Candidate s k t ↔ k = longest ∧ t = full ∨
      k < longest ∧ ∃ r, (look.act (s.cut k)).outcome = .returned r ∧ r.ok = true ∧
        r.remaining = 0 ∧
        t = { s with pos := s.pos + k, matched := r.matched, value := r.value, ok := true } := by
  constructor
  · intro candidate
    cases candidate with
    | whole run' _ whole =>
      obtain rfl := Outcome.returned.inj (run.symm.trans run')
      exact .inl ⟨by omega, rfl⟩
    | cut run' _ shorter again matched used =>
      obtain rfl := Outcome.returned.inj (run.symm.trans run')
      exact .inr ⟨by omega, _, again, matched, used, rfl⟩
  · rintro (⟨rfl, rfl⟩ | ⟨less, r, again, matched, used, rfl⟩)
    · exact .whole run good consumed
    · exact .cut run good (by omega) again matched used

theorem candidate_unbroken {longest : Int} {length : Nat} (bound : length ≤ longest)
    (unbroken : length < longest → ∃ r, (look.act (s.cut length)).outcome = .returned r) :
    ∃ found, (look.candidate s full longest length).outcome = .returned found := by
  unfold candidate
  by_cases whole : (length : Int) = longest
  · rw [if_pos whole]
    exact ⟨_, rfl⟩
  · obtain ⟨r, again⟩ := unbroken (by omega)
    rw [← run_returned_iff] at again
    rw [if_neg whole]
    by_cases fits : (r.ok && r.remaining == 0) = true
    · exact ⟨_, (Run.bind_outcome again _).trans (congrArg Run.outcome (if_pos fits))⟩
    · exact ⟨_, (Run.bind_outcome again _).trans (congrArg Run.outcome (if_neg fits))⟩

theorem trials_of_ordered (ordered : look.mode ≠ .unordered)
    (run : (look.act s).outcome = .returned full) (good : full.ok = true) :
    ∃ trials, (look.trials s).outcome = .returned trials := by
  obtain ⟨lengthAt, order⟩ : ∃ lengthAt,
      Lookahead.lengthAt (s.remaining - full.remaining) look.mode = some lengthAt := by
    cases mode : look.mode with
    | unordered => exact absurd mode ordered
    | _ => exact ⟨_, rfl⟩
  exact ⟨_, trials_matched run good order⟩

theorem attempt_resumed {trial : Nat → Run (Option State)} {search : Search} {t r : State}
    (tries : (trial search.index).outcome = .returned (some t))
    (after : (resume t).outcome = .returned r) :
    (look.attempt s resume trial search).outcome = .returned
      (if r.ok then .done ⟨search.index + 1, search.tried + 1, some r⟩
        else .yield ⟨search.index + 1, search.tried + 1, some r⟩) := by
  refine (Run.bind_outcome tries _).trans ((Run.bind_outcome after _).trans ?_)
  cases r.ok <;> rfl

theorem attempts_unbroken {trial : Nat → Run (Option State)} {count left : Nat} {search : Search}
    (tried : ∀ index, index < count → ∃ found, (trial index).outcome = .returned found)
    (resumed : ∀ index t, index < count → (trial index).outcome = .returned (some t) →
      ∃ r, (resume t).outcome = .returned r)
    (bound : search.index + left ≤ count) :
    ∃ last, (Run.loop (look.attempt s resume trial) pure left search).outcome = .returned last := by
  induction left generalizing search with
  | zero => exact ⟨search, rfl⟩
  | succ left ih =>
    -- Whatever has been tried, the other trials come to an end.
    have goesOn : ∀ tried last, ∃ ended, (Run.loop (look.attempt s resume trial) pure left
        ⟨search.index + 1, tried, last⟩).outcome = .returned ended :=
      fun tried last => @ih ⟨search.index + 1, tried, last⟩ (by dsimp only; omega)
    rw [Run.loop_succ]
    obtain ⟨found, tries⟩ := tried search.index (by omega)
    cases found with
    | none =>
      obtain ⟨ended, later⟩ := goesOn search.tried search.last
      exact ⟨ended, (Run.bind_outcome (attempt_none tries) _).trans later⟩
    | some t =>
      obtain ⟨r, after⟩ := resumed search.index t (by omega) tries
      rw [Run.bind_outcome (attempt_resumed tries after)]
      cases r.ok with
      | true => exact ⟨_, rfl⟩
      | false => exact goesOn _ _

/-! ### Lookaheads whose parser matches -/

section Match

variable (ordered : look.mode ≠ .unordered) (run : (look.act s).outcome = .returned full)
  (good : full.ok = true) {longest : Nat} (consumed : s.remaining - full.remaining = longest)
  (unbroken : ∀ k, k < longest → ∃ r, (look.act (s.cut k)).outcome = .returned r)
include ordered run good consumed unbroken

/-- A lookahead whose parser matches, and is broken off on no shorter input, tries all lengths. -/
theorem enumerates_of_match :
    ∃ trials length, (look.trials s).outcome = .returned trials ∧
      look.Enumerates s full trials length ∧
      ∀ index, index < trials.count → ∃ found, (trials.trial index).outcome = .returned found := by
  obtain ⟨trials, tries⟩ := trials_of_ordered ordered run good
  obtain ⟨_, run', ⟨failed, -⟩ | ⟨-, length, all⟩⟩ := trials_returned tries fun full' run' => by
    obtain rfl := Outcome.returned.inj (run.symm.trans run')
    omega
  · obtain rfl := Outcome.returned.inj (run.symm.trans run')
    cases good.symm.trans failed
  obtain rfl := Outcome.returned.inj (run.symm.trans run')
  refine ⟨trials, length, tries, all, fun index more => ?_⟩
  rw [all.trial index more]
  exact candidate_unbroken (all.bound index more) fun less => unbroken _ (by omega)

/-- What is tried is what the parser matches by itself, and below that each length to which the
input can be cut so that all of it is matched. -/
theorem candidates_of_match :
    ∃ found : List (Nat × State), (look.candidates s).outcome = .returned (found.map Prod.snd) ∧
      found.Pairwise (fun a b => look.mode.Before a.1 b.1) ∧
      ∀ k t, (k, t) ∈ found ↔ k = longest ∧ t = full ∨
        k < longest ∧ ∃ r, (look.act (s.cut k)).outcome = .returned r ∧ r.ok = true ∧
          r.remaining = 0 ∧
          t = { s with pos := s.pos + k, matched := r.matched, value := r.value, ok := true } := by
  obtain ⟨trials, length, tries, all, tried⟩ :=
    enumerates_of_match ordered run good consumed unbroken
  obtain ⟨found, listed, sorted, exact⟩ := candidates_returned all run good tries tried
  exact ⟨found, listed, sorted, fun k t => (exact k t).trans (candidate_iff run good consumed)⟩

/-- The search comes to an end if the rest of the chain does after each candidate. -/
theorem search_unbroken
    (resumed : ∀ k t, look.Candidate s k t → ∃ r, (resume t).outcome = .returned r) :
    ∃ found, (look.search s resume).outcome = .returned found := by
  obtain ⟨trials, length, tries, all, tried⟩ :=
    enumerates_of_match ordered run good consumed unbroken
  obtain ⟨last, attempts⟩ : ∃ last, (Run.loop (look.attempt s resume trials.trial) pure trials.count
      ⟨0, 0, none⟩).outcome = .returned last := by
    refine attempts_unbroken tried (fun index t more found => ?_) (by simp)
    exact resumed (length index) t ((all.found_iff run good more found t).mp rfl)
  exact ⟨last.last, (Run.bind_outcome tries _).trans (Run.bind_outcome attempts _)⟩

end Match

end Lookahead

/-! ### Candidates of parsers -/

namespace Grammar

variable {g : Grammar} {parser : Parser} {s full : State}

/-- Behind what a parser made without moves of the state has consumed, the rest is left. -/
theorem unconsumed_of_consumed (free : g.StepFree parser) (granted : Granted)
    (inside : s.window.Inside) (clean : s.lastGood = none)
    (run : (parser.act (g.setting granted) s).outcome = .returned full) {length : Nat}
    (consumed : s.remaining - full.remaining = length) :
    full.unconsumed = s.unconsumed.slice length s.remaining := by
  obtain ⟨there, suffix, -⟩ := (act_cursor free granted inside clean).1 full run full (.inl rfl)
  have before : (s.unconsumed.length : Int) = s.remaining := Window.length_rest inside
  have after : (full.unconsumed.length : Int) = full.remaining :=
    Window.length_rest (w := full.window) there
  rw [Sequence.eq_slice_of_isSuffix suffix, before, after, consumed]

/-- The candidates of a parser made without moves of the state, which succeeds on a state and of
which no run on a shorter input is broken off. They are listed in the order of the mode and leave
what comes behind their length. The longest length is one of them, with what the parser gives by
itself, and a shorter one is if the parser matches all of the input cut to it, with what it gives
there. -/
theorem candidates_exact (free : g.StepFree parser) (granted : Granted)
    (inside : s.window.Inside) (clean : s.lastGood = none)
    (run : (parser.act (g.setting granted) s).outcome = .returned full) (good : full.ok = true)
    (unbroken : ∀ k : Nat, k < s.remaining - full.remaining →
      ∃ r, (parser.act (g.setting granted) (s.cut k)).outcome = .returned r)
    {mode : Mode} (ordered : mode ≠ .unordered) :
    ∃ (longest : Nat) (found : List (Nat × State)), s.remaining - full.remaining = longest ∧
      (Lookahead.candidates ⟨mode, parser.shown, parser.act (g.setting granted)⟩ s).outcome =
        .returned (found.map Prod.snd) ∧
      found.Pairwise (fun a b => mode.Before a.1 b.1) ∧
      (∀ k, k ∈ found.map Prod.fst ↔ k = longest ∨ k < longest ∧
        ∃ r, (parser.act (g.setting granted) (s.cut k)).outcome = .returned r ∧ r.ok = true ∧
          r.remaining = 0) ∧
      ∀ k t, (k, t) ∈ found → t.ok = true ∧ t.unconsumed = s.unconsumed.slice k s.remaining ∧
        ∃ r, (parser.act (g.setting granted) (if k = longest then s else s.cut k)).outcome =
            .returned r ∧ t.matched = r.matched ∧ t.value = r.value := by
  have shorter := (act_advances free granted s full inside clean run).2.1
  obtain ⟨longest, consumed⟩ := Int.eq_ofNat_of_zero_le (Int.sub_nonneg_of_le shorter)
  obtain ⟨found, listed, sorted, exact⟩ := @Lookahead.candidates_of_match
    ⟨mode, parser.shown, parser.act (g.setting granted)⟩ s full ordered run good longest consumed
    fun k less => unbroken k (by omega)
  refine ⟨longest, found, consumed, listed, sorted, fun k => ?_, fun k t member => ?_⟩
  · rw [List.mem_map]
    constructor
    · rintro ⟨⟨k, t⟩, member, rfl⟩
      obtain ⟨rfl, -⟩ | ⟨less, r, again, matched, used, -⟩ := (exact k t).mp member
      · exact .inl rfl
      · exact .inr ⟨less, r, again, matched, used⟩
    · rintro (rfl | ⟨less, r, again, matched, used⟩)
      · exact ⟨_, (exact k full).mpr (.inl ⟨rfl, rfl⟩), rfl⟩
      · exact ⟨_, (exact k _).mpr (.inr ⟨less, r, again, matched, used, rfl⟩), rfl⟩
  · obtain ⟨rfl, rfl⟩ | ⟨less, r, again, -, -, rfl⟩ := (exact k t).mp member
    · rw [if_pos rfl]
      exact ⟨good, unconsumed_of_consumed free granted inside clean run consumed, _, run, rfl, rfl⟩
    · rw [if_neg (Nat.ne_of_lt less)]
      have rest : _ = s.unconsumed.slice k s.remaining :=
        Window.rest_skip (w := s.window) inside (Int.natCast_nonneg k)
      exact ⟨rfl, rest, r, again, rfl, rfl⟩

def pairs : Parser :=
  .many 0 (-1) (.literal (.value (.ofString "ab")) true)

theorem pairs_stepFree : empty.StepFree pairs := by
  refine .of_closed [pairs, .literal (.value (.ofString "ab")) true] ?_ ?_ ?_ (.head _)
  · simp [pairs, Parser.isStep]
  · simp [pairs, Parser.inner]
  · simp [pairs]

/-- Half a pair is no candidate. -/
theorem pairs_candidates :
    ∃ found : List (Nat × State),
      (Lookahead.candidates ⟨.greedy, pairs.shown, pairs.act (empty.setting ⟨0, 0⟩)⟩
        (.start (.text "ab".toList.toArray) .null)).outcome = .returned (found.map Prod.snd) ∧
      found.Pairwise (fun a b => b.1 < a.1) ∧ 2 ∈ found.map Prod.fst ∧ 0 ∈ found.map Prod.fst ∧
      1 ∉ found.map Prod.fst := by
  have whole : (pairs.act (empty.setting ⟨0, 0⟩)
      (.start (.text "ab".toList.toArray) .null)).outcome =
      .returned ⟨.text "ab".toList.toArray, 2, 2, .ofString "ab", .null, true, none⟩ := by
    cbv
  have nothing : (pairs.act (empty.setting ⟨0, 0⟩)
      (State.cut (.start (.text "ab".toList.toArray) .null) 0)).outcome =
      .returned ⟨.text "ab".toList.toArray, 0, 0, .ofString "", .null, true, none⟩ := by
    cbv
  have half : (pairs.act (empty.setting ⟨0, 0⟩)
      (State.cut (.start (.text "ab".toList.toArray) .null) 1)).outcome =
      .returned ⟨.text "ab".toList.toArray, 0, 1, .ofString "", .null, true, none⟩ := by
    cbv
  have unbroken : ∀ k : Nat, (k : Int) < 2 → ∃ r, (pairs.act (empty.setting ⟨0, 0⟩)
      (State.cut (.start (.text "ab".toList.toArray) .null) k)).outcome = .returned r := by
    intro k less
    obtain rfl | rfl : k = 0 ∨ k = 1 := by omega
    · exact ⟨_, nothing⟩
    · exact ⟨_, half⟩
  obtain ⟨longest, found, consumed, listed, sorted, lengths, -⟩ := candidates_exact pairs_stepFree
    ⟨0, 0⟩ ⟨by decide, by decide, by decide⟩ rfl whole rfl unbroken (by decide : Mode.greedy ≠ _)
  obtain rfl : longest = 2 := Int.ofNat.inj consumed.symm
  refine ⟨found, listed, sorted, (lengths 2).mpr (.inl rfl), (lengths 0).mpr (.inr ?_), ?_⟩
  · exact ⟨by decide, _, nothing, rfl, rfl⟩
  · rw [lengths 1]
    rintro (whole | ⟨-, r, again, -, used⟩)
    · cases whole
    · obtain rfl := Outcome.returned.inj (half.symm.trans again)
      cases used

end Grammar

/-! ### Where the longest candidate is no match of the input cut to it -/

namespace Parser

def beforeThird : Parser :=
  .alternative (.chain [.item .append (.literal (.value (.ofString "ab")) true),
    .item .append (.noConsume (.literal (.value (.ofString "c")) true))])
    [.literal (.value (.ofString "a")) true]

def withNext : Parser :=
  .chain [.item .append (.literal (.value (.ofString "a")) true),
    .item .append (.many 0 1 (.noConsume (.literal (.value (.ofString "b")) true)))]

/-- A parser that looks past what it consumes can match other lengths, or with another text, than
on the input cut to its match; what it matches by itself is tried all the same. -/
theorem whole_match_not_cut :
    (Lookahead.candidates
        ⟨.greedy, beforeThird.shown, beforeThird.act (Grammar.empty.setting ⟨0, 0⟩)⟩
        (.start (.text "abc".toList.toArray) .null)).outcome =
      .returned [⟨.text "abc".toList.toArray, 2, 3, .ofString "abc", .null, true, none⟩,
        ⟨.text "abc".toList.toArray, 1, 3, .ofString "a", .null, true, none⟩] ∧
    (¬ ∃ r, (beforeThird.act (Grammar.empty.setting ⟨0, 0⟩)
        (State.cut (.start (.text "abc".toList.toArray) .null) 2)).outcome = .returned r ∧
      r.ok = true ∧ r.remaining = 0) ∧
    endOn (.chain [.item .append (.lookahead .greedy beforeThird), .item .append .everything])
        "abc" =
      .returned ⟨.text "abc".toList.toArray, 3, 3, .ofString "abcc", .null, true, none⟩ ∧
    (Lookahead.candidates
        ⟨.reluctant, withNext.shown, withNext.act (Grammar.empty.setting ⟨0, 0⟩)⟩
        (.start (.text "ab".toList.toArray) .null)).outcome =
      .returned [⟨.text "ab".toList.toArray, 1, 2, .ofString "ab", .null, true, none⟩] ∧
    (withNext.act (Grammar.empty.setting ⟨0, 0⟩)
        (State.cut (.start (.text "ab".toList.toArray) .null) 1)).outcome =
      .returned ⟨.text "ab".toList.toArray, 1, 1, .ofString "a", .null, true, none⟩ ∧
    endOn (.chain [.item .append (.lookahead .reluctant withNext),
        .item .append (.literal (.value (.ofString "b")) true)]) "ab" =
      .returned ⟨.text "ab".toList.toArray, 2, 2, .ofString "abb", .null, true, none⟩ := by
  refine ⟨by cbv, ?_, by cbv, by cbv, by cbv, by cbv⟩
  have again : (beforeThird.act (Grammar.empty.setting ⟨0, 0⟩)
      (State.cut (.start (.text "abc".toList.toArray) .null) 2)).outcome =
      .returned ⟨.text "abc".toList.toArray, 1, 2, .ofString "a", .null, true, none⟩ := by
    cbv
  rintro ⟨r, run, -, used⟩
  obtain rfl := Outcome.returned.inj (again.symm.trans run)
  cases used

end Parser

end Catena
