import Mathlib
import Catena.Proofs.Candidates
import Catena.Proofs.Laps
import Catena.Proofs.Passage
import Catena.Proofs.Solution

/-!
# Backtracking

A chain whose parsers and functions break off on no state that it runs them on comes to a result
itself, unless it matches what cannot be added to its text: `Chain.follow_returnsOr`. It then
succeeds just when it has a solution, with the result of the first one:
`Grammar.chain_first_solution`.
-/

namespace Catena

namespace Run

variable {α β : Type} {P : Fault → Prop} {x : Run α}

def ReturnsOr (P : Fault → Prop) (x : Run α) : Prop :=
  (∃ a, x.outcome = .returned a) ∨ ∃ fault, P fault ∧ x.outcome = .raised fault

theorem ReturnsOr.pure (a : α) : (pure a : Run α).ReturnsOr P :=
  .inl ⟨a, rfl⟩

theorem ReturnsOr.bind {next : α → Run β} (first : x.ReturnsOr P)
    (later : ∀ a, x.outcome = .returned a → (next a).ReturnsOr P) : (x >>= next).ReturnsOr P := by
  obtain ⟨a, run⟩ | ⟨fault, of, run⟩ := first
  · unfold ReturnsOr
    rw [bind_outcome run]
    exact later a run
  · exact .inr ⟨fault, of, bind_outcome_raised run next⟩

theorem ReturnsOr.mono {Q : Fault → Prop} (h : x.ReturnsOr P) (more : ∀ fault, P fault → Q fault) :
    x.ReturnsOr Q :=
  h.imp_right fun ⟨fault, of, run⟩ => ⟨fault, more fault of, run⟩

end Run

/-! ### Searches -/

namespace Lookahead

variable {look : Lookahead} {s : State} {resume : Action} {P : Fault → Prop}

/-- The parser of a lookahead returns wherever a search runs it: on the state itself and, below the
length that is matched there, on the input cut to a length, if all candidates of lengths that come
earlier are dead ends. -/
structure Answers (look : Lookahead) (s : State) (resume : Action) : Prop where
  ordered : look.mode ≠ .unordered
  whole : ∃ full, (look.act s).outcome = .returned full
  cut : ∀ full (k : Nat), (look.act s).outcome = .returned full → full.ok = true →
    k < s.remaining - full.remaining →
    (∀ l t, look.mode.Before l k → look.Candidate s l t → DeadEnd resume t) →
    ∃ r, (look.act (s.cut k)).outcome = .returned r

theorem attempts_returnsOr {trial : Nat → Run (Option State)} {count : Nat}
    (tried : ∀ index, index < count → (∀ earlier, earlier < index → Barren resume trial earlier) →
      ∃ found, (trial index).outcome = .returned found)
    (resumed : ∀ index t, index < count → (trial index).outcome = .returned (some t) →
      (∀ earlier, earlier < index → Barren resume trial earlier) → (resume t).ReturnsOr P)
    {left : Nat} {search : Search} (within : search.index + left ≤ count)
    (before : ∀ earlier, earlier < search.index → Barren resume trial earlier) :
    (Run.loop (look.attempt s resume trial) pure left search).ReturnsOr P := by
  induction left generalizing search with
  | zero => exact .inl ⟨search, rfl⟩
  | succ left ih =>
    rw [Run.loop_succ]
    refine .bind ?_ fun turn run => ?_
    · refine .bind (.inl (tried _ (by omega) before)) fun found tries => ?_
      cases found with
      | none => exact .pure _
      | some t =>
        refine (resumed _ t (by omega) tries before).bind fun r _ => ?_
        cases good : r.ok <;> simp only [Bool.not_true, Bool.not_false, Bool.false_eq_true, if_true,
          if_false]
        · exact .pure _
        · exact .bind (.inl ⟨(), rfl⟩) fun _ _ => .pure _
    · cases turn with
      | done next => exact .pure next
      | yield next =>
        obtain ⟨index, barren⟩ := attempt_yield run
        refine ih (by omega) ?_
        rw [index]
        exact Nat.forall_lt_succ_right.mpr ⟨before, barren⟩

/-- A search returns, or breaks off where the rest of the chain does after a candidate. -/
theorem search_returnsOr (answers : look.Answers s resume)
    (shorter : ∀ full, (look.act s).outcome = .returned full → full.remaining ≤ s.remaining)
    (resumed : ∀ t, look.GetsTo s resume t → (resume t).ReturnsOr P) :
    (look.search s resume).ReturnsOr P := by
  obtain ⟨full, run⟩ := answers.whole
  cases good : full.ok with
  | false => exact .inl ⟨none, search_lacking (lacking_of_failed run good)⟩
  | true =>
    obtain ⟨trials, tries⟩ := trials_of_ordered answers.ordered run good
    obtain ⟨full', run', ⟨failed, -⟩ | ⟨-, length, all⟩⟩ := trials_returned tries shorter
    all_goals obtain rfl := Outcome.returned.inj (run.symm.trans run')
    · cases good.symm.trans failed
    have tried : ∀ index, index < trials.count →
        (∀ earlier, earlier < index → Barren resume trials.trial earlier) →
        ∃ found, (trials.trial index).outcome = .returned found := by
      intro index more before
      rw [all.trial index more]
      refine candidate_unbroken (all.bound index more) fun less => ?_
      refine answers.cut full _ run good less fun l t sooner candidate => ?_
      obtain ⟨other, there, rfl⟩ := all.index_of_candidate run candidate
      have earlier : other < index := by
        obtain less | rfl | later := Nat.lt_trichotomy other index
        · exact less
        · exact absurd sooner sooner.asymm
        · exact absurd sooner (all.order index other later there).asymm
      exact all.deadEnd_of_barren run good there (before other earlier) candidate
    refine .bind (.inl ⟨trials, tries⟩) fun trials' tries' => ?_
    obtain rfl := Outcome.returned.inj (tries.symm.trans tries')
    refine .bind (attempts_returnsOr tried ?_ (by simp) fun earlier less =>
      absurd less (Nat.not_lt_zero earlier)) fun last _ => .pure last.last
    exact fun index t more found before => resumed t ⟨trials, index, tries, more, found, before⟩

end Lookahead

/-! ### Chains -/

namespace Chain

variable {link : Link Part} {links rest : List (Link Part)} {s t : State} {text joined : Value}
  {fault : Fault}

/-- Functions answer, and parsers return, on the states with which a chain comes to them. -/
structure Unbroken (links : List (Link Part)) (s : State) (text : Value) : Prop where
  build : ∀ before function rest t joined, links = before ++ .build function :: rest →
    Arrives (.build function :: rest) before s text t joined → t.ok = true →
    ∃ value, function.apply (t.value, joined) = .ok value
  item : ∀ before fold part rest t joined, links = before ++ .item fold part :: rest →
    Arrives (.item fold part :: rest) before s text t joined → t.ok = true →
    followed rest (.item fold part) = none → ∃ r, (part.act t).outcome = .returned r
  search : ∀ before link rest fold look t joined, links = before ++ link :: rest →
    Arrives (link :: rest) before s text t joined → t.ok = true →
    followed rest link = some (fold, look) → look.Answers t (resume rest fold joined)

/-- The fault of a chain that matches a text which cannot be added to the text before it: what a
parser returns where the chain comes to it, or a candidate that a search comes to. -/
inductive Unaddable (links : List (Link Part)) (s : State) (text : Value) : Fault → Prop where
  | item {before rest : List (Link Part)} {part : Part} {t r : State} {joined : Value}
      (there : links = before ++ .item .append part :: rest)
      (arrives : Arrives (.item .append part :: rest) before s text t joined) (live : t.ok = true)
      (ordinary : followed rest (.item .append part) = none)
      (adds : part.traits.inspectsOnly = false) (run : (part.act t).outcome = .returned r)
      (good : r.ok = true) (alien : joined.plus? r.matched = none) :
      Unaddable links s text (.defect (.ofSum joined r.matched))
  | pick {before rest : List (Link Part)} {link : Link Part} {look : Lookahead} {t u : State}
      {joined : Value} (there : links = before ++ link :: rest)
      (arrives : Arrives (link :: rest) before s text t joined) (live : t.ok = true)
      (back : followed rest link = some (.append, look))
      (gets : look.GetsTo t (resume rest .append joined) u)
      (alien : joined.plus? u.matched = none) :
      Unaddable links s text (.defect (.ofSum joined u.matched))

def Leads (link : Link Part) (rest : List (Link Part)) (s : State) (text : Value) (t : State)
    (joined : Value) : Prop :=
  ∀ before tail u last, rest = before ++ tail → Arrives tail before t joined u last →
    Arrives tail (link :: before) s text u last

theorem Unbroken.behind (h : Unbroken (link :: rest) s text)
    (leads : Leads link rest s text t joined) : Unbroken rest t joined where
  build := fun before function later u last there arrives =>
    h.build (link :: before) function later u last (congrArg _ there)
      (leads _ _ u last there arrives)
  item := fun before fold part later u last there arrives =>
    h.item (link :: before) fold part later u last (congrArg _ there)
      (leads _ _ u last there arrives)
  search := fun before other later fold look u last there arrives =>
    h.search (link :: before) other later fold look u last (congrArg _ there)
      (leads _ _ u last there arrives)

theorem Unaddable.before (h : Unaddable rest t joined fault)
    (leads : Leads link rest s text t joined) : Unaddable (link :: rest) s text fault := by
  cases h with
  | item there arrives live ordinary adds run good alien =>
    exact .item (congrArg (link :: ·) there) (leads _ _ _ _ there arrives) live ordinary adds run
      good alien
  | pick there arrives live back gets alien =>
    exact .pick (congrArg (link :: ·) there) (leads _ _ _ _ there arrives) live back gets alien

theorem join_returnsOr {P : Fault → Prop} {fold : Fold} {addition : Value}
    (alien : fold = .append → text.plus? addition = none → P (.defect (.ofSum text addition))) :
    (fold.join text addition).ReturnsOr P := by
  cases fold with
  | discard => exact .pure addition
  | append =>
    unfold Fold.join
    cases sum : text.plus? addition with
    | none => exact .inr ⟨_, alien rfl sum, rfl⟩
    | some joined => exact .pure joined

theorem step_returnsOr (unbroken : Unbroken (link :: rest) s text) (live : s.ok = true)
    (ordinary : followed rest link = none) :
    (step link s text).ReturnsOr (Unaddable (link :: rest) s text) := by
  have start : Arrives (link :: rest) [] s text s text := .here s text
  cases link with
  | build function =>
    obtain ⟨value, answer⟩ := unbroken.build [] function rest s text rfl start live
    have called := Callback.call_returned_iff.mpr answer
    simp only [step, if_pos live]
    exact .bind (.inl ⟨value, called⟩) fun value _ => .pure ({ s with value }, text)
  | item fold part =>
    have returns := unbroken.item [] fold part rest s text rfl start live ordinary
    simp only [step, if_pos live]
    refine .bind (.inl returns) fun r run => ?_
    by_cases good : r.ok = true
    · simp only [good, Bool.not_true, Bool.false_eq_true, if_false]
      by_cases only : part.traits.inspectsOnly = true
      · rw [if_pos only]
        exact .bind (.pure text) fun _ _ => .pure _
      · rw [if_neg only]
        refine .bind (join_returnsOr ?_) fun _ _ => .pure _
        rintro rfl alien
        have there : Link.item .append part :: rest = [] ++ .item .append part :: rest := rfl
        exact .item there start live ordinary (Bool.not_eq_true _ ▸ only) run good alien
    · simp only [good, Bool.not_false, if_true]
      exact .pure _

/-- A chain that is unbroken returns, or raises the fault of a text that cannot be added. -/
theorem follow_returnsOr (plain : ∀ link ∈ links, link.Plain) (live : s.Live)
    (unbroken : Unbroken links s text) :
    (follow links s text).ReturnsOr (Unaddable links s text) := by
  induction links generalizing s text with
  | nil => exact .pure s
  | cons link rest ih =>
    obtain ⟨here, later⟩ := List.forall_mem_cons.mp plain
    -- What comes after this link is unbroken, and nothing runs there after a failure.
    have behind : ∀ {t joined}, (t.ok = true → t.Live) → Leads link rest s text t joined →
        (follow rest t joined).ReturnsOr (Unaddable (link :: rest) s text) := by
      intro t joined after leads
      cases good : t.ok with
      | false => exact follow_failed later good ▸ .pure t
      | true =>
        exact (ih later (after good) (unbroken.behind leads)).mono fun _ alien => alien.before leads
    cases back : followed rest link with
    | none =>
      rw [follow_cons fun _ => back]
      refine (step_returnsOr unbroken live.ok back).bind fun p run => ?_
      refine behind (step_live here live run) ?_
      rintro before tail u last rfl arrives
      exact .link (fun _ => back) run arrives
    | some both =>
      obtain ⟨fold, look⟩ := both
      have advances := followed_advances here back
      have shorter : ∀ full, (look.act s).outcome = .returned full →
          full.remaining ≤ s.remaining :=
        fun full run => (advances s full live.inside live.clean run).2.1
      have start : Arrives (link :: rest) [] s text s text := .here s text
      have answers := unbroken.search [] link rest fold look s text rfl start live.ok back
      rw [follow_searched live.ok back]
      refine .bind (Lookahead.search_returnsOr answers shorter fun t gets => ?_)
        fun found sought => ?_
      · refine .bind (join_returnsOr ?_) fun joined join => ?_
        · rintro rfl alien
          have there : link :: rest = [] ++ link :: rest := rfl
          exact .pick there start live.ok back gets alien
        · obtain ⟨length, candidate⟩ := gets.tries.candidate shorter
          have after := (candidate_live advances live candidate).withText joined
          refine behind (fun _ => after) ?_
          rintro before tail u last rfl arrives
          exact .pick live.ok back gets join arrives
      · cases found with
        | some result => exact .pure result
        | none =>
          refine .bind (.inl answers.whole) fun full run => ?_
          refine behind (advances.live live run) ?_
          rintro before tail u last rfl arrives
          exact .miss live.ok back (Lookahead.lacking_of_search sought) run arrives

end Chain

/-! ### Chains of parsers -/

/-- Where no parser and no function of a chain breaks off on a state that it is run on, a chain
without links that run after a failure succeeds just when candidates of the lookaheads can be chosen
such that all other links succeed, and then its result is that of the first choice. The exception is
a text that is matched on the way and cannot be added to the text before it: the chain then raises
the fault that adding them is. -/
theorem Grammar.chain_first_solution {g : Grammar} {links : List (Link Parser)}
    (free : g.StepFree (.chain links))
    (steady : ∀ parser ∈ links.filterMap Link.item?,
      parser.traits.oblivious = false ∧ parser.traits.inspectsFailure = false)
    (granted : Granted) {s : State} (live : s.Live)
    (unbroken : Chain.Unbroken (Parser.parts (g.setting granted) links) s s.noText) :
    (∃ r, ((Parser.chain links).act (g.setting granted) s).outcome = .returned r ∧
      (r.ok = true ↔ ∃ picks t,
        Chain.Solution (Parser.parts (g.setting granted) links) s s.noText picks t) ∧
      (r.ok = true → ∃ picks,
        Chain.First (Parser.parts (g.setting granted) links) s s.noText picks r)) ∨
    ∃ fault, Chain.Unaddable (Parser.parts (g.setting granted) links) s s.noText fault ∧
      ((Parser.chain links).act (g.setting granted) s).outcome = .raised fault := by
  have plain := Parser.parts_plain free granted steady
  obtain ⟨t, followed⟩ | ⟨fault, alien, raised⟩ := Chain.follow_returnsOr plain live unbroken
  · left
    obtain ⟨first, none⟩ := Chain.follow_decides plain live followed
    -- A success carries no snapshot that settling could take away.
    have same : t.ok = true → s.settle t = t := by
      intro ok
      obtain ⟨picks, solution, -⟩ := first ok
      exact State.settle_of_clean ok (solution.live plain live).clean
    refine ⟨s.settle t, Run.bind_outcome followed _, ?_, ?_⟩
    · rw [State.settle_ok]
      refine ⟨fun ok => ?_, fun ⟨picks, u, solution⟩ => ?_⟩
      · obtain ⟨picks, solution, -⟩ := first ok
        exact ⟨picks, t, solution⟩
      · by_contra failed
        exact none (Bool.not_eq_true _ ▸ failed) picks u solution
    · rw [State.settle_ok]
      intro ok
      rw [same ok]
      exact first ok
  · exact .inr ⟨fault, alien, Run.bind_outcome_raised raised _⟩

namespace Parser

/-- Parsers that return everywhere and functions that answer everything make an unbroken chain. -/
theorem unbroken_of_returns {setting : Setting} {links : List (Link Parser)}
    (returns : ∀ parser ∈ links.filterMap Link.item?, ∀ t,
      ∃ r, (parser.act setting t).outcome = .returned r)
    (ordered : ∀ mode parser, .lookahead mode parser ∈ links.filterMap Link.item? →
      mode ≠ .unordered)
    (answers : ∀ function, .build function ∈ links → ∀ p, ∃ value, function.apply p = .ok value)
    (s : State) (text : Value) : Chain.Unbroken (parts setting links) s text := by
  have made : ∀ {before link rest}, parts setting links = before ++ link :: rest →
      ∃ source ∈ links, source.map (part setting) = link := by
    intro before link rest there
    rw [parts_eq_map] at there
    exact List.mem_map.mp (there ▸ by simp)
  have item : ∀ {fold parser}, .item fold parser ∈ links → parser ∈ links.filterMap Link.item? :=
    fun member => List.mem_filterMap.mpr ⟨_, member, rfl⟩
  constructor
  · intro before function rest t joined there _ _
    obtain ⟨source, member, same⟩ := made there
    cases source <;> cases same
    exact answers function member _
  · intro before fold made' rest t joined there _ _ _
    obtain ⟨source, member, same⟩ := made there
    cases source <;> cases same
    exact returns _ (item member) t
  · intro before link rest fold look t joined there _ _ back
    obtain ⟨made', rfl, -, found⟩ := Chain.eq_item_of_followed back
    obtain ⟨source, member, same⟩ := made there
    cases source with
    | build function => cases same
    | item fold parser =>
      cases same
      obtain ⟨mode, parser, rfl⟩ : ∃ mode looked, parser = .lookahead mode looked := by
        cases parser with
        | lookahead mode parser => exact ⟨mode, parser, rfl⟩
        | _ => cases found
      obtain rfl := Option.some.inj found
      have returns := returns _ (item member)
      rw [lookahead_act] at returns
      exact ⟨ordered mode parser (item member), returns t, fun _ k _ _ _ _ => returns (t.cut k)⟩

def twoSigns : List (Link Parser) :=
  [.item .append (.lookahead .reluctant .everything),
    .item .discard (.literal (.value (.ofString "b")) true),
    .item .append (.lookahead .greedy .everything),
    .item .append (.literal (.value (.ofString "c")) true)]

theorem twoSigns_stepFree : Grammar.empty.StepFree (.chain twoSigns) := by
  refine .of_closed [.chain twoSigns, .lookahead .reluctant .everything,
    .literal (.value (.ofString "b")) true, .lookahead .greedy .everything,
    .literal (.value (.ofString "c")) true, .everything] ?_ ?_ ?_ (.head _)
  · simp [isStep]
  · simp [inner, twoSigns, Link.item?]
  · simp

theorem everything_returns (setting : Setting) (s : State) :
    ∃ r, (everything.act setting s).outcome = .returned r :=
  ⟨_, Action.settled_of_pure rfl⟩

theorem twoSigns_unbroken (s : State) (text : Value) :
    Chain.Unbroken (parts (Grammar.empty.setting ⟨0, 0⟩) twoSigns) s text := by
  refine unbroken_of_returns ?_ ?_ ?_ s text
  · simp only [twoSigns, Link.item?, List.filterMap_cons, List.filterMap_nil, List.forall_mem_cons,
      lookahead_act]
    exact ⟨everything_returns _, literal_returns _ _, everything_returns _, literal_returns _ _,
      List.forall_mem_nil _⟩
  · rintro mode parser member rfl
    simp [twoSigns, Link.item?] at member
  · simp [twoSigns]

/-- There are two places for each sign. The first one is matched where it stands first, and the
second one where it stands last. -/
theorem twoSigns_first_solution :
    ∃ s r : State, s.Live ∧
      ((chain twoSigns).act (Grammar.empty.setting ⟨0, 0⟩) s).outcome = .returned r ∧
      r.matched = .ofString "bcbc" ∧ ∃ picks,
        Chain.First (parts (Grammar.empty.setting ⟨0, 0⟩) twoSigns) s s.noText picks r := by
  have run : ((chain twoSigns).act (Grammar.empty.setting ⟨0, 0⟩)
        ⟨.text "abcbc".toList.toArray, 0, 5, .ofString "", .null, true, none⟩).outcome =
      .returned ⟨.text "abcbc".toList.toArray, 5, 5, .ofString "bcbc", .null, true, none⟩ := by
    cbv
  have live : State.Live ⟨.text "abcbc".toList.toArray, 0, 5, .ofString "", .null, true, none⟩ :=
    ⟨⟨by decide, by decide, by decide⟩, rfl, rfl⟩
  obtain ⟨r, returned, -, first⟩ | ⟨fault, -, raised⟩ :=
    Grammar.chain_first_solution twoSigns_stepFree
      (by simp [twoSigns, Link.item?, traits]) ⟨0, 0⟩ live (twoSigns_unbroken _ _)
  · obtain rfl := Outcome.returned.inj (run.symm.trans returned)
    exact ⟨_, _, live, run, rfl, first rfl⟩
  · cases run.symm.trans raised

def listedBetween : List (Link Parser) :=
  [.item .append sign, .item .append listedSign, .item .discard sign]

theorem listedBetween_unbroken (s : State) (text : Value) :
    Chain.Unbroken (parts (Grammar.empty.setting ⟨0, 0⟩) listedBetween) s text := by
  refine unbroken_of_returns ?_ ?_ ?_ s text
  · simp only [listedBetween, Link.item?, List.filterMap_cons, List.filterMap_nil,
      List.forall_mem_cons]
    exact ⟨sign_returns _, listedSign_returns _, sign_returns _, List.forall_mem_nil _⟩
  · simp [listedBetween, Link.item?, sign, listedSign]
  · simp [listedBetween]

theorem listedBetween_stepFree : Grammar.empty.StepFree (.chain listedBetween) := by
  refine .of_closed [.chain listedBetween, sign, listedSign] ?_ ?_ ?_ (.head _)
  · simp [isStep, sign, listedSign]
  · simp [inner, listedBetween, Link.item?, sign, listedSign]
  · simp [sign, listedSign]

/-- All parsers that a chain runs may return, and the chain itself break off between them. -/
theorem listed_text_unaddable :
    endOn (chain listedBetween) "aaa" = .raised (.defect .mistyped) ∧
      ¬ ∀ (g : Grammar) (links : List (Link Parser)) (granted : Granted) (s : State),
        g.StepFree (.chain links) → (∀ parser ∈ links.filterMap Link.item?,
          parser.traits.oblivious = false ∧ parser.traits.inspectsFailure = false) →
        s.Live → Chain.Unbroken (parts (g.setting granted) links) s s.noText →
          ∃ r, ((chain links).act (g.setting granted) s).outcome = .returned r := by
  have raised : endOn (chain listedBetween) "aaa" = .raised (.defect .mistyped) := by cbv
  refine ⟨raised, fun claim => ?_⟩
  obtain ⟨r, returned⟩ := claim Grammar.empty listedBetween ⟨0, 0⟩
    (.start (.text "aaa".toList.toArray) .null) listedBetween_stepFree
    (by simp [listedBetween, Link.item?, traits, sign, listedSign])
    ⟨⟨by decide, by decide, by decide⟩, rfl, rfl⟩ (listedBetween_unbroken _ _)
  cases raised.symm.trans returned

end Parser

end Catena
