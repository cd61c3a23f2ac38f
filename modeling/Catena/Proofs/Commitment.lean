import Mathlib
import Catena.Proofs.Backtracking
import Catena.Proofs.Commitment.Search
import Catena.Proofs.Neutrality
import Catena.Proofs.Resumption

/-!
# Commitments of chains

What a chain records of its lookaheads. `Grammar.chain_commitments`: a chain that fails records
nothing, whatever it has tried, and one that succeeds records each lookahead that it has searched
just once, the last one first, with the items that it took and the candidates that were tried for it
in the search that came to the result. A record is made behind the rest of the chain, so that the
induction is on the links and the records of a search are those of its last attempt.
-/

namespace Catena

/-- What a chain commits to where it searches a lookahead from a state. -/
structure Commitment where
  look : Lookahead
  start : State
  length : Nat
  /-- How many candidates were tried, with the last one. -/
  tried : Nat

namespace Commitment

def event (c : Commitment) : Event :=
  .committed c.look.mode.word c.look.shown c.length c.tried

def Bounded (c : Commitment) : Prop :=
  ∃ full, (c.look.act c.start).outcome = .returned full ∧ full.ok = true ∧ 1 ≤ c.tried ∧
    c.length ≤ c.start.remaining - full.remaining ∧
    c.tried ≤ c.start.remaining - full.remaining + 1

end Commitment

namespace Chain

variable {link : Link Part} {links rest : List (Link Part)} {s t r : State}
  {text joined : Value} {events : List Event} {commitments : List Commitment}

/-- A run of a chain to its success, with what it commits to: all links succeed, and of each
lookahead that is searched the first candidate after which the rest of the chain succeeds. -/
inductive Commits : List (Link Part) → State → Value → List Commitment → State → Prop where
  | done (s : State) (text : Value) : Commits [] s text [] s
  | link {link : Link Part} {rest : List (Link Part)} {s t r : State} {text joined : Value}
      {commitments : List Commitment} (ordinary : followed rest link = none)
      (run : (step link s text).outcome = .returned (t, joined)) (good : t.ok = true)
      (later : Commits rest t joined commitments r) : Commits (link :: rest) s text commitments r
  | pick {link : Link Part} {rest : List (Link Part)} {fold : Fold} {look : Lookahead}
      {s t r : State} {text joined : Value} {length tried : Nat} {commitments : List Commitment}
      (back : followed rest link = some (fold, look))
      (settles : look.SettlesFor s (resume rest fold text) length tried t)
      (join : (fold.join text t.matched).outcome = .returned joined)
      (later : Commits rest { t with matched := joined } joined commitments r) :
      Commits (link :: rest) s text (⟨look, s, length, tried⟩ :: commitments) r

namespace Commits

theorem looks (h : Commits links s text commitments r) :
    commitments.map Commitment.look = lookaheads links := by
  induction h with
  | done => rfl
  | link ordinary _ _ _ ih =>
    unfold lookaheads
    rw [ordinary, ih]
    rfl
  | pick back _ _ _ ih =>
    unfold lookaheads
    rw [back, List.map_cons, ih]
    rfl

theorem bounded (h : Commits links s text commitments r) : ∀ c ∈ commitments, c.Bounded := by
  induction h with
  | done => exact nofun
  | link _ _ _ _ ih => exact ih
  | pick _ settles _ _ ih => exact List.forall_mem_cons.mpr ⟨settles.bounded, ih⟩

theorem clean (h : Commits links s text commitments r) (lawful : ∀ link ∈ links, link.Lawful)
    (start : s.lastGood = none) : r.lastGood = none := by
  induction h with
  | done => exact start
  | link _ run good _ ih =>
    obtain ⟨here, later⟩ := List.forall_mem_cons.mp lawful
    exact ih later (step_clean here (fun _ => start) run good)
  | pick back settles _ _ ih =>
    obtain ⟨here, later⟩ := List.forall_mem_cons.mp lawful
    refine ih later ?_
    cases settles.candidate with
    | whole run good =>
      have unmarked := followed_lawful here back run good
      exact unmarked
    | cut => exact start

end Commits

/-- The records of links that end: none if they fail, and else those of what they commit to, the
last one first. -/
def Records (links : List (Link Part)) (s : State) (text : Value) (events : List Event)
    (r : State) : Prop :=
  (r.ok = false → commitmentsOf events = []) ∧
    (r.ok = true → ∃ commitments, Commits links s text commitments r ∧
      commitmentsOf events = (commitments.map Commitment.event).reverse)

theorem records_of_failed (failed : r.ok = false) (none : commitmentsOf events = []) :
    Records links s text events r :=
  ⟨fun _ => none, fun ok => absurd ok (by simp [failed])⟩

theorem records_link {first last : List Event} (here : link.Uncommitted)
    (ordinary : followed rest link = none)
    (run : step link s text = ⟨first, .returned (t, joined)⟩) (good : t.ok = true)
    (h : Records rest t joined last r) : Records (link :: rest) s text (first ++ last) r := by
  have nothing := (step_uncommitted here).records run
  unfold Records
  rw [commitmentsOf_append, nothing, List.nil_append]
  refine ⟨h.1, fun ok => ?_⟩
  obtain ⟨commitments, commits, records⟩ := h.2 ok
  exact ⟨commitments, .link ordinary (congrArg Run.outcome run) good commits, records⟩

/-- The record of a candidate comes behind those of the links after it. -/
theorem records_pick {fold : Fold} {look : Lookahead} {length tried : Nat} {inner : List Event}
    (back : followed rest link = some (fold, look))
    (settles : look.SettlesFor s (resume rest fold text) length tried t)
    (join : (fold.join text t.matched).outcome = .returned joined) (good : r.ok = true)
    (one : commitmentsOf events = commitmentsOf inner ++
      [.committed look.mode.word look.shown length tried])
    (h : Records rest { t with matched := joined } joined inner r) :
    Records (link :: rest) s text events r := by
  refine ⟨fun failed => absurd good (by simp [failed]), fun ok => ?_⟩
  obtain ⟨commitments, commits, records⟩ := h.2 ok
  refine ⟨_, .pick back settles join commits, ?_⟩
  rw [one, records, List.map_cons, List.reverse_cons]
  rfl

theorem records_of_ordinary (here : link.Uncommitted) (still : ∀ link ∈ rest, Quiet link)
    (ordinary : followed rest link = none)
    (behind : ∀ t joined events, (step link s text).outcome = .returned (t, joined) →
      t.ok = true → follow rest t joined = ⟨events, .returned r⟩ → Records rest t joined events r)
    (run : follow (link :: rest) s text = ⟨events, .returned r⟩) :
    Records (link :: rest) s text events r := by
  rw [follow_cons fun _ => ordinary] at run
  obtain ⟨first, last, ⟨t, joined⟩, ran, goes, rfl⟩ := Run.bind_eq_returned run
  cases good : t.ok with
  | false =>
    rw [follow_failed_quiet good still] at goes
    obtain ⟨rfl, rfl⟩ := Run.pure_eq_returned goes
    rw [List.append_nil]
    exact records_of_failed good ((step_uncommitted here).records ran)
  | true =>
    have later := behind t joined last (congrArg Run.outcome ran) good goes
    exact records_link here ordinary ran good later

theorem records_of_searched {fold : Fold} {look : Lookahead} (acts : look.act.Uncommitted)
    (still : ∀ link ∈ rest, Quiet link) (live : s.ok = true)
    (back : followed rest link = some (fold, look))
    (nothing : ∀ full, (look.act s).outcome = .returned full → full.ok = true →
      full.remaining ≤ s.remaining)
    (behind : ∀ t joined inner r, look.Tries s t →
      (fold.join text t.matched).outcome = .returned joined →
      follow rest { t with matched := joined } joined = ⟨inner, .returned r⟩ →
      Records rest { t with matched := joined } joined inner r)
    (run : follow (link :: rest) s text = ⟨events, .returned r⟩) :
    Records (link :: rest) s text events r := by
  have resumed : ∀ t inner r, look.Tries s t → resume rest fold text t = ⟨inner, .returned r⟩ →
      ∃ joined, (fold.join text t.matched).outcome = .returned joined ∧
        Records rest { t with matched := joined } joined inner r := by
    intro t inner r tries run
    obtain ⟨joins, last, joined, join, goes, rfl⟩ := Run.bind_eq_returned run
    obtain rfl := join_events join
    have join := congrArg Run.outcome join
    exact ⟨joined, join, behind t joined last r tries join goes⟩
  have failing : ∀ t inner r, look.Tries s t → resume rest fold text t = ⟨inner, .returned r⟩ →
      r.ok = false → commitmentsOf inner = [] := by
    intro t inner r tries run failed
    obtain ⟨joined, -, records⟩ := resumed t inner r tries run
    exact records.1 failed
  rw [follow_searched live back] at run
  obtain ⟨first, last, found, sought, goes, rfl⟩ := Run.bind_eq_returned run
  obtain ⟨failed, none⟩ | ⟨length, tried, t, v, inner, settles, tries, after, good, rfl, one⟩ :=
    Lookahead.search_recorded acts nothing failing sought
  · cases found with
    | some v =>
      obtain ⟨rfl, rfl⟩ := Run.pure_eq_returned goes
      rw [List.append_nil]
      exact records_of_failed (failed v rfl) none
    | none =>
      -- There was no candidate, so that the parser itself has failed, and all links behind it.
      obtain ⟨matched, past, full, ran, ends, rfl⟩ := Run.bind_eq_returned goes
      have lacking := Lookahead.lacking_of_search (congrArg Run.outcome sought)
      have acted := congrArg Run.outcome ran
      have missed := lacking.failed acted (nothing full acted)
      rw [follow_failed_quiet missed still] at ends
      obtain ⟨rfl, rfl⟩ := Run.pure_eq_returned ends
      refine records_of_failed missed ?_
      rw [commitmentsOf_append, none, List.append_nil, List.nil_append]
      exact (acts s).records ran
  · obtain ⟨rfl, rfl⟩ := Run.pure_eq_returned goes
    obtain ⟨joined, join, records⟩ := resumed t inner v tries after
    rw [List.append_nil]
    exact records_pick back settles join good one records

theorem follow_recorded (quiet : ∀ link ∈ links, Quiet link)
    (silent : ∀ link ∈ links, link.Uncommitted)
    (looks : ∀ look ∈ lookaheads links, look.act.Uncommitted)
    (kept : GivesNothingBack links s text) (live : s.ok = true)
    (run : follow links s text = ⟨events, .returned r⟩) : Records links s text events r := by
  induction links generalizing s text events r with
  | nil =>
    obtain ⟨rfl, rfl⟩ := Run.pure_eq_returned run
    exact ⟨fun _ => rfl, fun _ => ⟨[], .done s text, rfl⟩⟩
  | cons link rest ih =>
    obtain ⟨-, still⟩ := List.forall_mem_cons.mp quiet
    obtain ⟨here, later⟩ := List.forall_mem_cons.mp silent
    have looksLater : ∀ look ∈ lookaheads rest, look.act.Uncommitted :=
      fun look member => looks look (List.mem_append_right _ member)
    cases back : followed rest link with
    | none =>
      refine records_of_ordinary here still back (fun t joined last ran good goes => ?_) run
      exact ih still later looksLater (kept.after fun _ _ _ => .link (fun _ => back) ran) good goes
    | some both =>
      obtain ⟨fold, look⟩ := both
      have nothing : ∀ full, (look.act s).outcome = .returned full → full.ok = true →
          full.remaining ≤ s.remaining :=
        fun full matched => kept _ _ s text fold look full (.here _ s text) live back matched
      have acts : look.act.Uncommitted := by
        apply looks
        simp [lookaheads, back]
      refine records_of_searched acts still live back nothing ?_ run
      intro t joined inner r tries join goes
      have after := kept.after fun _ _ _ => .pick live back tries join
      exact ih still later looksLater after (tries.live nothing) goes

end Chain

namespace Grammar

variable {g : Grammar} {links : List (Link Parser)} {granted : Granted} {s r : State}
  {events : List Event}

/-- Where a chain without links that run after a failure ends, and its parsers do not search by
themselves: if it fails, it has recorded no commitment, and if it succeeds, the records are those of
the commitments that have led there, the last one first, one for each lookahead with a parser behind
it. -/
theorem chain_commitments (steady : ∀ parser ∈ links.filterMap Link.item?,
      parser.traits.oblivious = false ∧ parser.traits.inspectsFailure = false)
    (single : ∀ parser ∈ links.filterMap Link.item?, g.Throughout (·.searches = false) parser)
    (kept : Chain.GivesNothingBack (Parser.parts (g.setting granted) links) s s.noText)
    (live : s.ok = true) (clean : s.lastGood = none)
    (run : (Parser.chain links).act (g.setting granted) s = ⟨events, .returned r⟩) :
    (r.ok = false → commitmentsOf events = []) ∧
    (r.ok = true → ∃ commitments,
      Chain.Commits (Parser.parts (g.setting granted) links) s s.noText commitments r ∧
      commitmentsOf events = (commitments.map Commitment.event).reverse ∧
      commitments.map Commitment.look =
        (Parser.searched links).map (Parser.lookaheadOf (g.setting granted)) ∧
      ∀ c ∈ commitments, c.Bounded) := by
  have acts : ∀ parser ∈ links.filterMap Link.item?,
      Action.Uncommitted (parser.act (g.setting granted)) :=
    fun parser member => act_uncommitted (single parser member) granted
  have looks : ∀ look ∈ Chain.lookaheads (Parser.parts (g.setting granted) links),
      look.act.Uncommitted := by
    rw [Parser.lookaheads_parts]
    intro look member
    obtain ⟨⟨mode, parser⟩, there, rfl⟩ := List.mem_map.mp member
    have act := acts _ (Parser.mem_searched there)
    rwa [Parser.lookahead_act] at act
  rw [Parser.chain_act] at run
  obtain ⟨here, later, t, follows, settled, rfl⟩ := Run.bind_eq_returned run
  obtain ⟨rfl, rfl⟩ := Run.pure_eq_returned settled
  obtain ⟨fails, succeeds⟩ := Chain.follow_recorded (Parser.parts_quiet _ steady)
    (Parser.parts_uncommitted acts) looks kept live follows
  rw [List.append_nil, State.settle_ok]
  refine ⟨fails, fun good => ?_⟩
  obtain ⟨commitments, commits, records⟩ := succeeds good
  have unmarked := commits.clean (Parser.parts_lawful _ links) clean
  rw [State.settle_of_clean good unmarked]
  refine ⟨commitments, commits, records, ?_, commits.bounded⟩
  rw [commits.looks, Parser.lookaheads_parts]

/-- Two candidates were tried for each lookahead. -/
theorem twoSigns_commitments :
    ∃ (s r : State) (events : List Event) (commitments : List Commitment),
      (Parser.chain Parser.twoSigns).act (empty.setting ⟨0, 0⟩) s = ⟨events, .returned r⟩ ∧
      r.matched = .ofString "bcbc" ∧
      Chain.Commits (Parser.parts (empty.setting ⟨0, 0⟩) Parser.twoSigns) s s.noText commitments
        r ∧
      commitmentsOf events = (commitments.map Commitment.event).reverse ∧
      recordsOf events = [
        "chainparse.main: greedy lookahead <Everything everything> committed to 2 item(s) " ++
          "after 2 trial(s)",
        "chainparse.main: reluctant lookahead <Everything everything> committed to 1 item(s) " ++
          "after 2 trial(s)"] := by
  have run : ((Parser.chain Parser.twoSigns).act (empty.setting ⟨0, 0⟩)
        ⟨.text "abcbc".toList.toArray, 0, 5, .ofString "", .null, true, none⟩).outcome =
      .returned ⟨.text "abcbc".toList.toArray, 5, 5, .ofString "bcbc", .null, true, none⟩ := by
    cbv
  have live : State.Live ⟨.text "abcbc".toList.toArray, 0, 5, .ofString "", .null, true, none⟩ :=
    ⟨⟨by decide, by decide, by decide⟩, rfl, rfl⟩
  have single : ∀ parser ∈ Parser.twoSigns.filterMap Link.item?,
      empty.Throughout (·.searches = false) parser := by
    intro parser member
    refine .of_closed [.lookahead .reluctant .everything, .literal (.value (.ofString "b")) true,
      .lookahead .greedy .everything, .literal (.value (.ofString "c")) true, .everything]
      ?_ ?_ ?_ ?_
    · simp [Parser.searches]
    · simp [Parser.inner]
    · simp
    · exact List.mem_append_left [.everything] member
  have whole := Run.eq_of_returned run
  obtain ⟨-, succeeds⟩ := chain_commitments
    (by simp [Parser.twoSigns, Link.item?, Parser.traits]) single
    (chain_givesNothingBack Parser.twoSigns_stepFree ⟨0, 0⟩ live _) rfl rfl whole
  obtain ⟨commitments, commits, records, -⟩ := succeeds rfl
  exact ⟨_, _, _, commitments, whole, rfl, commits, records, by cbv⟩

end Grammar

end Catena
