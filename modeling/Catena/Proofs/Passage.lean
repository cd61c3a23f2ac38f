import Catena.Proofs.Recovery

/-!
# Where chains come

The states that a chain comes to before each of its links, with the text so far, in every trial of
its lookaheads. Links may be exchanged for others at the end of a chain if those do the same on the
states that it comes to: `Parser.follow_append_congr`. Its lookaheads are to give nothing back, so
that one which succeeds has a candidate, and the text of the chain is that of its state.
-/

namespace Catena

namespace Lookahead

variable {look : Lookahead} {s t full : State}

/-- A candidate that a search comes to: nothing has come of what it has tried before. -/
def GetsTo (look : Lookahead) (s : State) (resume : Action) (t : State) : Prop :=
  ∃ trials index, (look.trials s).outcome = .returned trials ∧ index < trials.count ∧
    (trials.trial index).outcome = .returned (some t) ∧
    ∀ earlier, earlier < index → Barren resume trials.trial earlier

theorem GetsTo.tries {resume : Action} (h : look.GetsTo s resume t) : look.Tries s t := by
  obtain ⟨trials, index, tries, bound, found, -⟩ := h
  exact ⟨trials, index, tries, bound, found⟩

/-- A search goes on where nothing has come of a trial. -/
theorem attempt_yield {resume : Action} {trial : Nat → Run (Option State)} {search next : Search}
    (h : (look.attempt s resume trial search).outcome = .returned (.yield next)) :
    next.index = search.index + 1 ∧ Barren resume trial search.index := by
  obtain ⟨found, tries, h⟩ := Run.bind_returned_iff.mp h
  cases found with
  | none =>
    obtain rfl := ForInStep.yield.inj (Run.pure_returned_iff.mp h)
    exact ⟨rfl, .inl tries⟩
  | some t =>
    obtain ⟨r, after, h⟩ := Run.bind_returned_iff.mp h
    split at h
    · rename_i failed
      obtain rfl := ForInStep.yield.inj (Run.pure_returned_iff.mp h)
      exact ⟨rfl, .inr ⟨t, r, tries, after, by simpa using failed⟩⟩
    · obtain ⟨-, -, h⟩ := Run.bind_returned_iff.mp h
      cases Run.pure_returned_iff.mp h

theorem attempts_congr {resume resume' : Action} {trial : Nat → Run (Option State)} {count : Nat}
    (same : ∀ index t, index < count → (trial index).outcome = .returned (some t) →
      (∀ earlier, earlier < index → Barren resume trial earlier) → resume t = resume' t)
    {left : Nat} {search : Search} (within : search.index + left ≤ count)
    (before : ∀ earlier, earlier < search.index → Barren resume trial earlier) :
    Run.loop (look.attempt s resume trial) pure left search =
      Run.loop (look.attempt s resume' trial) pure left search := by
  induction left generalizing search with
  | zero => rfl
  | succ left ih =>
    have here : look.attempt s resume trial search = look.attempt s resume' trial search := by
      refine Run.bind_congr_returned fun found run => ?_
      cases found with
      | none => rfl
      | some t =>
        dsimp only
        rw [same search.index t (by omega) run before]
    rw [Run.loop_succ, Run.loop_succ, here]
    refine Run.bind_congr_returned fun turn run => ?_
    cases turn with
    | done next => rfl
    | yield next =>
      rw [← here] at run
      obtain ⟨index, barren⟩ := attempt_yield run
      refine ih (by omega) fun earlier less => ?_
      by_cases last : earlier = search.index
      · exact last ▸ barren
      · exact before earlier (by omega)

/-- A search depends on what comes after the candidates that it comes to alone. -/
theorem search_congr {resume resume' : Action}
    (same : ∀ t, look.GetsTo s resume t → resume t = resume' t) :
    look.search s resume = look.search s resume' := by
  refine Run.bind_congr_returned fun trials run => ?_
  have tried : ∀ index t, index < trials.count → (trials.trial index).outcome = .returned (some t) →
      (∀ earlier, earlier < index → Barren resume trials.trial earlier) → resume t = resume' t :=
    fun index t more found before => same t ⟨trials, index, run, more, found, before⟩
  rw [attempts_congr tried (by simp) fun earlier less => absurd less (Nat.not_lt_zero earlier)]

theorem lacking_of_search {resume : Action}
    (h : (look.search s resume).outcome = .returned none) : look.Lacking s := by
  obtain ⟨trials, tries, h⟩ := Run.bind_returned_iff.mp h
  obtain ⟨last, attempts, h⟩ := Run.bind_returned_iff.mp h
  have nothing : last.last = none := Run.pure_returned_iff.mp h
  have start : Vain trials.trial 0 none := fun index bound => absurd bound (Nat.not_lt_zero index)
  obtain ⟨index, r, -, -, result, -⟩ | ⟨-, vain⟩ :=
    attempts_returned attempts start fun index bound => absurd bound (Nat.not_lt_zero index)
  · cases nothing.symm.trans result
  · rw [nothing, Nat.zero_add] at vain
    exact ⟨trials, tries, vain⟩

/-- A lookahead that succeeds without giving anything back has its whole match for a candidate. -/
theorem Lacking.failed (h : look.Lacking s) (run : (look.act s).outcome = .returned full)
    (nothing : full.ok = true → full.remaining ≤ s.remaining) : full.ok = false := by
  by_contra good
  rw [Bool.not_eq_false] at good
  obtain ⟨trials, tries, none⟩ := h
  have shorter : ∀ r, (look.act s).outcome = .returned r → r.remaining ≤ s.remaining :=
    fun r again => Outcome.returned.inj (run.symm.trans again) ▸ nothing good
  obtain ⟨full', run', ⟨failed, -⟩ | ⟨-, length, all⟩⟩ := trials_returned tries shorter
  all_goals obtain rfl := Outcome.returned.inj (run.symm.trans run')
  · exact absurd good (by simp [failed])
  · have bound := nothing good
    have whole : look.Candidate s (s.remaining - full.remaining).toNat full :=
      .whole run good (by omega)
    obtain ⟨index, more, same⟩ := all.index_of_candidate run whole
    cases (all.found_iff run good more (none index more) full).mpr (same ▸ whole)

theorem Tries.candidate (h : look.Tries s t)
    (shorter : ∀ r, (look.act s).outcome = .returned r → r.remaining ≤ s.remaining) :
    ∃ length, look.Candidate s length t := by
  obtain ⟨trials, index, tries, bound, found⟩ := h
  obtain ⟨full, run, ⟨-, empty⟩ | ⟨good, length, all⟩⟩ := trials_returned tries shorter
  · omega
  · exact ⟨length index, (all.found_iff run good bound found t).mp rfl⟩

end Lookahead

/-! ### What a chain comes to -/

namespace Chain

variable {link : Link Part} {links rest : List (Link Part)} {s t full : State}
  {text joined : Value} {fold : Fold} {look : Lookahead}

/-- What is left of a chain, and the state and the text that it is left for, at some point of a run
of the chain from the first state and text. Each candidate of a lookahead may be gone on from. -/
inductive Comes : List (Link Part) → State → Value → List (Link Part) → State → Value → Prop where
  | here (links : List (Link Part)) (s : State) (text : Value) : Comes links s text links s text
  | link {link : Link Part} {rest left : List (Link Part)} {s t u : State}
      {text joined last : Value} (ordinary : s.ok = true → followed rest link = none)
      (run : (step link s text).outcome = .returned (t, joined))
      (later : Comes rest t joined left u last) : Comes (link :: rest) s text left u last
  | pick {link : Link Part} {rest left : List (Link Part)} {fold : Fold} {look : Lookahead}
      {s t u : State} {text joined last : Value} (live : s.ok = true)
      (back : followed rest link = some (fold, look)) (tries : look.Tries s t)
      (join : (fold.join text t.matched).outcome = .returned joined)
      (later : Comes rest { t with matched := joined } joined left u last) :
      Comes (link :: rest) s text left u last
  | miss {link : Link Part} {rest left : List (Link Part)} {fold : Fold} {look : Lookahead}
      {s full u : State} {text last : Value} (live : s.ok = true)
      (back : followed rest link = some (fold, look)) (lacking : look.Lacking s)
      (run : (look.act s).outcome = .returned full) (later : Comes rest full text left u last) :
      Comes (link :: rest) s text left u last

def GivesNothingBack (links : List (Link Part)) (s : State) (text : Value) : Prop :=
  ∀ link rest t joined fold look full, Comes links s text (link :: rest) t joined →
    t.ok = true → followed rest link = some (fold, look) →
    (look.act t).outcome = .returned full → full.ok = true → full.remaining ≤ t.remaining

theorem GivesNothingBack.after (h : GivesNothingBack links s text)
    (comes : ∀ left u last, Comes rest t joined left u last → Comes links s text left u last) :
    GivesNothingBack rest t joined :=
  fun link later u last fold look full further =>
    h link later u last fold look full (comes _ u last further)

variable {tail tail' : List (Link Part)} {u : State} {last : Value}

/-- The states, with the texts so far, in which a run along links comes to those behind them. A
lookahead is gone on from with each candidate that the search for it comes to. -/
inductive Arrives (tail : List (Link Part)) :
    List (Link Part) → State → Value → State → Value → Prop where
  | here (s : State) (text : Value) : Arrives tail [] s text s text
  | link {link : Link Part} {rest : List (Link Part)} {s t u : State} {text joined last : Value}
      (ordinary : s.ok = true → followed (rest ++ tail) link = none)
      (run : (step link s text).outcome = .returned (t, joined))
      (later : Arrives tail rest t joined u last) : Arrives tail (link :: rest) s text u last
  | pick {link : Link Part} {rest : List (Link Part)} {fold : Fold} {look : Lookahead}
      {s t u : State} {text joined last : Value} (live : s.ok = true)
      (back : followed (rest ++ tail) link = some (fold, look))
      (gets : look.GetsTo s (resume (rest ++ tail) fold text) t)
      (join : (fold.join text t.matched).outcome = .returned joined)
      (later : Arrives tail rest { t with matched := joined } joined u last) :
      Arrives tail (link :: rest) s text u last
  | miss {link : Link Part} {rest : List (Link Part)} {fold : Fold} {look : Lookahead}
      {s full u : State} {text last : Value} (live : s.ok = true)
      (back : followed (rest ++ tail) link = some (fold, look)) (lacking : look.Lacking s)
      (run : (look.act s).outcome = .returned full) (later : Arrives tail rest full text u last) :
      Arrives tail (link :: rest) s text u last

theorem Arrives.of_ordinary (h : Arrives tail [link] s text u last)
    (ordinary : followed tail link = none)
    (run : (step link s text).outcome = .returned (t, joined)) : u = t ∧ last = joined := by
  cases h with
  | link _ run' later =>
    obtain ⟨rfl, rfl⟩ := Prod.mk.inj (Outcome.returned.inj (run.symm.trans run'))
    cases later
    exact ⟨rfl, rfl⟩
  | pick _ back => cases ordinary.symm.trans back
  | miss _ back => cases ordinary.symm.trans back

/-- The links at the end of a chain may be exchanged for others that do the same on the states in
which the chain comes to them. -/
theorem follow_append_arrives (kinds : tail.any Link.isItem = tail'.any Link.isItem)
    (same : ∀ t joined, Arrives tail links s text t joined →
      follow tail t joined = follow tail' t joined) :
    follow (links ++ tail) s text = follow (links ++ tail') s text := by
  induction links generalizing s text with
  | nil => exact same s text (.here s text)
  | cons link rest ih =>
    have kept : followed (rest ++ tail) link = followed (rest ++ tail') link := by
      cases link <;> simp only [followed, List.any_append, kinds]
    rw [List.cons_append, List.cons_append]
    by_cases ordinary : s.ok = true → followed (rest ++ tail) link = none
    · rw [follow_cons ordinary, follow_cons (kept ▸ ordinary)]
      refine Run.bind_congr_returned fun p run => ?_
      exact ih fun u last arrives => same u last (.link ordinary run arrives)
    · obtain ⟨live, searched⟩ := Classical.not_imp.mp ordinary
      obtain ⟨⟨fold, look⟩, back⟩ := Option.ne_none_iff_exists'.mp searched
      have resumed : ∀ t, look.GetsTo s (resume (rest ++ tail) fold text) t →
          resume (rest ++ tail) fold text t = resume (rest ++ tail') fold text t := by
        intro t gets
        refine Run.bind_congr_returned fun joined join => ?_
        exact ih fun u last arrives => same u last (.pick live back gets join arrives)
      rw [follow_searched live back, follow_searched live (kept ▸ back),
        Lookahead.search_congr resumed]
      refine Run.bind_congr_returned fun found sought => ?_
      cases found with
      | some result => rfl
      | none =>
        have lacking := Lookahead.lacking_of_search sought
        refine Run.bind_congr_returned fun full run => ?_
        exact ih fun u last arrives => same u last (.miss live back lacking run arrives)

end Chain

namespace Parser

variable {link : Link Parser} {links tail tail' : List (Link Parser)} {setting : Setting}
  {s t : State} {text joined : Value}

def LooksFollowed (links tail : List (Link Parser)) : Prop :=
  ∀ front fold mode parser rest, links = front ++ .item fold (.lookahead mode parser) :: rest →
    (rest ++ tail).any Link.isItem = true

namespace LooksFollowed

theorem rest (h : LooksFollowed (link :: links) tail) : LooksFollowed links tail :=
  fun front fold mode parser rest same =>
    h (link :: front) fold mode parser rest (congrArg (link :: ·) same)

theorem mono (h : LooksFollowed links tail)
    (more : tail.any Link.isItem = true → tail'.any Link.isItem = true) :
    LooksFollowed links tail' := by
  intro front fold mode parser rest same
  have followed := h front fold mode parser rest same
  rw [List.any_append, Bool.or_eq_true] at followed ⊢
  exact followed.imp_right more

theorem followed_eq (h : LooksFollowed (link :: links) tail)
    (h' : LooksFollowed (link :: links) tail') (setting : Setting) :
    Chain.followed (parts setting (links ++ tail)) (link.map (part setting)) =
      Chain.followed (parts setting (links ++ tail')) (link.map (part setting)) := by
  cases link with
  | build function => rfl
  | item fold parser =>
    cases parser with
    | lookahead mode parser =>
      simp only [Link.map, Chain.followed, parts_any_isItem, h [] fold mode parser links rfl,
        h' [] fold mode parser links rfl]
    | _ => simp only [Link.map, Chain.followed, part, backsOff, Option.map_none, ite_self]

end LooksFollowed

/-- The links at the end of a chain may be exchanged for others that do the same on every state that
has the text of the chain and no snapshot, or has failed. The states that a chain comes to behind a
parser are such. -/
theorem follow_append_congr (looks : LooksFollowed links tail) (looks' : LooksFollowed links tail')
    (same : ∀ t joined, (t.ok = true → t.lastGood = none ∧ t.matched = joined) →
      Chain.follow (parts setting tail) t joined = Chain.follow (parts setting tail') t joined)
    (kept : Chain.GivesNothingBack (parts setting (links ++ tail)) s text)
    (clean : s.ok = true → s.lastGood = none)
    (before : links.any Link.isItem = true ∨ (s.ok = true → s.matched = text)) :
    Chain.follow (parts setting (links ++ tail)) s text =
      Chain.follow (parts setting (links ++ tail')) s text := by
  induction links generalizing s text with
  | nil =>
    have matched := before.resolve_left (by simp)
    exact same s text fun live => ⟨clean live, matched live⟩
  | cons link links ih =>
    have split : ∀ tail, parts setting (link :: links ++ tail) =
        link.map (part setting) :: parts setting (links ++ tail) := by
      intro tail
      rw [parts_eq_map, parts_eq_map, List.cons_append, List.map_cons]
    have followed := looks.followed_eq looks' setting
    have lawful : (link.map (part setting)).Lawful := by
      refine parts_lawful setting [link] _ ?_
      rw [parts_eq_map]
      exact .head _
    have rest := fun t joined => @ih t joined looks.rest looks'.rest
    rw [split] at kept
    rw [split, split]
    by_cases ordinary : s.ok = true →
        Chain.followed (parts setting (links ++ tail)) (link.map (part setting)) = none
    · rw [Chain.follow_cons ordinary, Chain.follow_cons (followed ▸ ordinary)]
      refine Run.bind_congr_returned fun p run => ?_
      rw [List.any_cons, Bool.or_eq_true, or_right_comm] at before
      refine rest p.1 p.2 (kept.after fun _ _ _ => .link ordinary run)
        (Chain.step_clean lawful clean run) (before.symm.imp_right fun before => ?_)
      refine Chain.step_matched lawful (before.imp_left fun item => ?_) run
      cases link <;> exact item
    · obtain ⟨live, searched⟩ := Classical.not_imp.mp ordinary
      obtain ⟨⟨fold, look⟩, back⟩ := Option.ne_none_iff_exists'.mp searched
      have clean := clean live
      rw [Chain.follow_searched live back, Chain.follow_searched live (followed ▸ back)]
      have resumed : ∀ t, look.Tries s t →
          Chain.resume (parts setting (links ++ tail)) fold text t =
            Chain.resume (parts setting (links ++ tail')) fold text t := by
        intro t tries
        refine Run.bind_congr_returned fun joined join => ?_
        have after := Lookahead.tries_clean (fun _ => Chain.followed_lawful lawful back) clean tries
        exact rest _ joined (kept.after fun _ _ _ => .pick live back tries join) (fun _ => after)
          (.inr fun _ => rfl)
      rw [Lookahead.search_congr fun t gets => resumed t gets.tries]
      refine Run.bind_congr_returned fun found sought => ?_
      cases found with
      | some result => rfl
      | none =>
        have lacking := Lookahead.lacking_of_search sought
        refine Run.bind_congr_returned fun full run => ?_
        -- The text lags behind a success here, but a lookahead that gives nothing back has failed.
        have failed := lacking.failed run
          (kept _ _ s text fold look full (.here _ s text) live back run)
        have lost : ∀ {P : Prop}, full.ok = true → P := fun good => absurd good (by simp [failed])
        exact rest full text (kept.after fun _ _ _ => .miss live back lacking run) lost (.inr lost)

end Parser

end Catena
