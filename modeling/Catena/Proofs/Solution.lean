import Catena.Proofs.Cursor
import Catena.Proofs.Search

/-!
# Solutions of chains

A solution of a chain picks a candidate for each lookahead that is followed, so that every other
link succeeds. `Chain.follow_decides`: links that do not run after a failure end, where they return,
with the result of their first solution, or with a failure if they have none. The induction is on
the links; what is searched at one lookahead is the same statement about the links after it.
-/

namespace Catena

/-- A successful state in its buffer, without a snapshot. -/
structure State.Live (s : State) : Prop where
  inside : s.window.Inside
  clean : s.lastGood = none
  ok : s.ok = true

theorem State.Live.withText {s : State} (h : s.Live) (text : Value) :
    State.Live { s with matched := text } :=
  ⟨h.inside, h.clean, h.ok⟩

theorem Action.Advances.live {act : Action} (advances : act.Advances) {s r : State} (h : s.Live)
    (run : (act s).outcome = .returned r) (good : r.ok = true) : r.Live := by
  obtain ⟨inside, -, clean⟩ := advances s r h.inside h.clean run
  exact ⟨inside, clean good, good⟩

/-- A part that does not run on a failed chain, and advances. -/
structure Part.Plain (part : Part) : Prop where
  act : part.act.Advances
  lookahead : ∀ look, part.lookahead = some look → look.act.Advances
  oblivious : part.traits.oblivious = false
  inspectsFailure : part.traits.inspectsFailure = false

def Link.Plain : Link Part → Prop
  | .item _ part => part.Plain
  | .build _ => True

theorem Link.Plain.quiet {link : Link Part} (h : link.Plain) : Chain.Quiet link := by
  cases link with
  | build function => trivial
  | item fold part => exact ⟨h.oblivious, h.inspectsFailure⟩

namespace Chain

/-- A choice of candidates, given by their lengths in the order of their links, that leads along a
chain: what a followed lookahead matches is one of its candidates, and every other link succeeds on
the state it receives. -/
inductive Solution : List (Link Part) → State → Value → List Nat → State → Prop where
  | done (s : State) (text : Value) : Solution [] s text [] s
  | link {link : Link Part} {rest : List (Link Part)} {s t r : State} {text joined : Value}
      {picks : List Nat} (ordinary : followed rest link = none)
      (run : (step link s text).outcome = .returned (t, joined)) (good : t.ok = true)
      (later : Solution rest t joined picks r) : Solution (link :: rest) s text picks r
  | pick {link : Link Part} {rest : List (Link Part)} {fold : Fold} {look : Lookahead}
      {s t r : State} {text joined : Value} {length : Nat} {picks : List Nat}
      (back : followed rest link = some (fold, look)) (candidate : look.Candidate s length t)
      (join : (fold.join text t.matched).outcome = .returned joined)
      (later : Solution rest { t with matched := joined } joined picks r) :
      Solution (link :: rest) s text (length :: picks) r

def modes : List (Link Part) → List Mode
  | [] => []
  | link :: rest =>
    match followed rest link with
    | some (_, look) => look.mode :: modes rest
    | none => modes rest

/-- One choice of lengths is tried earlier than another: where they first differ, its length comes
earlier in the order of the mode. -/
inductive Earlier : List Mode → List Nat → List Nat → Prop where
  | here {mode : Mode} {modes : List Mode} {k l : Nat} {picks others : List Nat}
      (before : mode.Before k l) : Earlier (mode :: modes) (k :: picks) (l :: others)
  | later {modes : List Mode} {picks others : List Nat} (mode : Mode) (k : Nat)
      (h : Earlier modes picks others) : Earlier (mode :: modes) (k :: picks) (k :: others)

def First (links : List (Link Part)) (s : State) (text : Value) (picks : List Nat) (r : State) :
    Prop :=
  Solution links s text picks r ∧ ∀ others t, Solution links s text others t →
    others = picks ∧ t = r ∨ Earlier (modes links) picks others

/-- A result tells about solutions: a success is where the first one leads, and a failure says that
there is none. -/
def Decides (links : List (Link Part)) (s : State) (text : Value) (r : State) : Prop :=
  (r.ok = true → ∃ picks, First links s text picks r) ∧
    (r.ok = false → ∀ picks t, ¬ Solution links s text picks t)

variable {link : Link Part} {links rest : List (Link Part)} {s t r u : State}
  {text joined : Value} {picks : List Nat}

/-! ### Live states along a chain -/

theorem followed_advances (plain : link.Plain) {fold : Fold} {look : Lookahead}
    (back : followed rest link = some (fold, look)) : look.act.Advances := by
  obtain ⟨part, rfl, -, found⟩ := eq_item_of_followed back
  exact plain.lookahead look found

theorem step_live (plain : link.Plain) (live : s.Live)
    (run : (step link s text).outcome = .returned (t, joined)) (good : t.ok = true) : t.Live := by
  cases link with
  | build function =>
    obtain ⟨-, -, value, rfl⟩ := step_build_ok run good
    exact ⟨live.inside, live.clean, live.ok⟩
  | item fold part =>
    obtain ⟨result, after, ok, rfl⟩ | ⟨failed, -⟩ := step_item_ok run good
    · rw [if_pos live.ok] at after
      exact (plain.act.live live after ok).withText joined
    · exact absurd live.ok (by simp [failed])

theorem candidate_live {look : Lookahead} (advances : look.act.Advances) (live : s.Live)
    {length : Nat} (h : look.Candidate s length t) : t.Live := by
  cases h with
  | whole run good => exact advances.live live run good
  | @cut full clipped length run good shorter =>
    obtain ⟨there, -, -⟩ := advances s full live.inside live.clean run
    have left : 0 ≤ full.remaining := Window.remaining_nonneg there
    exact ⟨Window.inside_skip live.inside (k := length) (by omega)
      (show (length : Int) ≤ s.remaining by omega), live.clean, rfl⟩

theorem Solution.live (h : Solution links s text picks r) (plain : ∀ link ∈ links, link.Plain)
    (live : s.Live) : r.Live := by
  induction h with
  | done => exact live
  | link _ run good _ ih =>
    obtain ⟨here, later⟩ := List.forall_mem_cons.mp plain
    exact ih later (step_live here live run good)
  | pick back candidate _ _ ih =>
    obtain ⟨here, later⟩ := List.forall_mem_cons.mp plain
    have after := candidate_live (followed_advances here back) live candidate
    exact ih later (after.withText _)

theorem follow_failed (plain : ∀ link ∈ links, link.Plain) (failed : s.ok = false) :
    follow links s text = pure s :=
  follow_failed_quiet failed fun link member => (plain link member).quiet

/-! ### Solutions link by link -/

theorem Solution.of_link (h : Solution (link :: rest) s text picks u)
    (ordinary : followed rest link = none)
    (run : (step link s text).outcome = .returned (t, joined)) :
    t.ok = true ∧ Solution rest t joined picks u := by
  cases h with
  | link _ run' good later =>
    obtain ⟨rfl, rfl⟩ := Prod.mk.inj (Outcome.returned.inj (run.symm.trans run'))
    exact ⟨good, later⟩
  | pick back => cases ordinary.symm.trans back

theorem Solution.of_pick (h : Solution (link :: rest) s text picks u) {fold : Fold}
    {look : Lookahead} (back : followed rest link = some (fold, look)) :
    ∃ length others t joined, picks = length :: others ∧ look.Candidate s length t ∧
      (fold.join text t.matched).outcome = .returned joined ∧
      Solution rest { t with matched := joined } joined others u := by
  cases h with
  | link ordinary => cases back.symm.trans ordinary
  | pick back' candidate join later =>
    obtain ⟨rfl, rfl⟩ := Prod.mk.inj (Option.some.inj (back.symm.trans back'))
    exact ⟨_, _, _, _, rfl, candidate, join, later⟩

theorem modes_of_none (back : followed rest link = none) : modes (link :: rest) = modes rest := by
  simp only [modes, back]

theorem modes_of_some {fold : Fold} {look : Lookahead}
    (back : followed rest link = some (fold, look)) :
    modes (link :: rest) = look.mode :: modes rest := by
  simp only [modes, back]

/-! ### The first solution -/

theorem decides_of_failed (failed : r.ok = false)
    (none : ∀ picks t, ¬ Solution links s text picks t) : Decides links s text r :=
  ⟨fun ok => absurd ok (by simp [failed]), fun _ => none⟩

theorem decides_link (ordinary : followed rest link = none)
    (run : (step link s text).outcome = .returned (t, joined)) (good : t.ok = true)
    (h : Decides rest t joined r) : Decides (link :: rest) s text r := by
  refine ⟨fun ok => ?_, fun failed picks u solution => ?_⟩
  · obtain ⟨picks, solution, earliest⟩ := h.1 ok
    refine ⟨picks, .link ordinary run good solution, fun others u other => ?_⟩
    rw [modes_of_none ordinary]
    exact earliest others u (other.of_link ordinary run).2
  · exact h.2 failed picks u (solution.of_link ordinary run).2

/-- What the first candidate that is no dead end leads to: every other candidate comes later, or
nothing can be chosen after it. -/
theorem decides_pick {fold : Fold} {look : Lookahead} {length : Nat}
    (back : followed rest link = some (fold, look)) (candidate : look.Candidate s length t)
    (join : (fold.join text t.matched).outcome = .returned joined) (ok : r.ok = true)
    (h : Decides rest { t with matched := joined } joined r)
    (others : ∀ k u, look.Candidate s k u → k = length ∨ look.mode.Before length k ∨
      ∀ joined picks v, (fold.join text u.matched).outcome = .returned joined →
        ¬ Solution rest { u with matched := joined } joined picks v) :
    Decides (link :: rest) s text r := by
  refine ⟨fun _ => ?_, fun failed => absurd ok (by simp [failed])⟩
  obtain ⟨picks, solution, earliest⟩ := h.1 ok
  refine ⟨length :: picks, .pick back candidate join solution, fun choice v other => ?_⟩
  rw [modes_of_some back]
  obtain ⟨k, picks', u, joined', rfl, candidate', join', other⟩ := other.of_pick back
  obtain same | before | blocked := others k u candidate'
  -- There is one candidate of this length, so that the choices for the rest decide.
  · subst same
    obtain rfl := candidate.unique candidate'
    obtain rfl := Outcome.returned.inj (join.symm.trans join')
    obtain ⟨rfl, rfl⟩ | less := earliest picks' v other
    · exact .inl ⟨rfl, rfl⟩
    · exact .inr (.later look.mode k less)
  · exact .inr (.here before)
  · exact absurd other (blocked joined' picks' v join')

theorem resume_returned_iff {fold : Fold} :
    (resume rest fold text t).outcome = .returned r ↔
      ∃ joined, (fold.join text t.matched).outcome = .returned joined ∧
        (follow rest { t with matched := joined } joined).outcome = .returned r :=
  Run.bind_returned_iff

theorem follow_decides (plain : ∀ link ∈ links, link.Plain) (live : s.Live)
    (h : (follow links s text).outcome = .returned r) : Decides links s text r := by
  induction links generalizing s text r with
  | nil =>
    obtain rfl := Run.pure_returned_iff.mp h
    refine ⟨fun _ => ⟨[], .done s text, ?_⟩, fun failed => absurd live.ok (by simp [failed])⟩
    rintro others t ⟨⟩
    exact .inl ⟨rfl, rfl⟩
  | cons link rest ih =>
    obtain ⟨here, later⟩ := List.forall_mem_cons.mp plain
    cases back : followed rest link with
    | none =>
      rw [follow_cons fun _ => back] at h
      obtain ⟨⟨t, joined⟩, run, h⟩ := Run.bind_returned_iff.mp h
      by_cases good : t.ok = true
      · exact decides_link back run good (ih later (step_live here live run good) h)
      · rw [follow_failed later (Bool.not_eq_true _ ▸ good)] at h
        obtain rfl := Run.pure_returned_iff.mp h
        exact decides_of_failed (Bool.not_eq_true _ ▸ good) fun picks u solution =>
          good (solution.of_link back run).1
    | some both =>
      obtain ⟨fold, look⟩ := both
      have advances := followed_advances here back
      rw [follow_searched live.ok back] at h
      obtain ⟨found, sought, h⟩ := Run.bind_returned_iff.mp h
      -- A dead end has no solution behind it, by induction.
      have blocked : ∀ {length u}, look.Candidate s length u →
          Lookahead.DeadEnd (resume rest fold text) u → ∀ joined picks v,
          (fold.join text u.matched).outcome = .returned joined →
          ¬ Solution rest { u with matched := joined } joined picks v := by
        rintro length u candidate ⟨r', ended, failed⟩ joined picks v join
        obtain ⟨joined', join', ended⟩ := resume_returned_iff.mp ended
        obtain rfl := Outcome.returned.inj (join.symm.trans join')
        have after := (candidate_live advances live candidate).withText joined
        exact (ih later after ended).2 failed picks v
      -- There is no candidate, or all are dead ends, or the first that is none gives the result.
      obtain ⟨full, run, failed, rfl⟩ | ⟨r', rfl, failed, dead⟩ |
          ⟨length, t, r', candidate, ended, ok, rfl, others⟩ :=
        Lookahead.search_returned sought fun full run =>
          (advances s full live.inside live.clean run).2.1
      · obtain ⟨full', run', h⟩ := Run.bind_returned_iff.mp h
        obtain rfl := Outcome.returned.inj (run.symm.trans run')
        rw [follow_failed later failed] at h
        obtain rfl := Run.pure_returned_iff.mp h
        refine decides_of_failed failed fun picks u solution => ?_
        obtain ⟨_, _, _, _, -, candidate, -, -⟩ := solution.of_pick back
        obtain ⟨full', run', good, -⟩ := candidate.full
        obtain rfl := Outcome.returned.inj (run.symm.trans run')
        exact absurd good (by simp [failed])
      · obtain rfl := Run.pure_returned_iff.mp h
        refine decides_of_failed failed fun picks u solution => ?_
        obtain ⟨length, others, t, joined, -, candidate, join, solution⟩ := solution.of_pick back
        exact blocked candidate (dead length t candidate) joined others u join solution
      · obtain rfl := Run.pure_returned_iff.mp h
        obtain ⟨joined, join, ended⟩ := resume_returned_iff.mp ended
        have after := (candidate_live advances live candidate).withText joined
        refine decides_pick back candidate join ok (ih later after ended) fun k u candidate' => ?_
        exact (others k u candidate').imp_right (Or.imp_right fun dead => blocked candidate' dead)

end Chain

/-! ### Chains of parsers -/

section Parsers

variable {g : Grammar}

theorem Parser.part_plain {parser : Parser} (free : g.StepFree parser) (granted : Granted)
    (oblivious : parser.traits.oblivious = false)
    (inspectsFailure : parser.traits.inspectsFailure = false) :
    (parser.part (g.setting granted)).Plain where
  act := g.act_advances free granted
  lookahead := by
    intro look found
    unfold part at found
    cases parser with
    | lookahead mode parser =>
      obtain rfl := Option.some.inj found
      exact g.act_advances (free.part (.head _)) granted
    | _ => cases found
  oblivious := oblivious
  inspectsFailure := inspectsFailure

theorem Parser.parts_plain {links : List (Link Parser)} (free : g.StepFree (.chain links))
    (granted : Granted) (steady : ∀ parser ∈ links.filterMap Link.item?,
      parser.traits.oblivious = false ∧ parser.traits.inspectsFailure = false) :
    ∀ link ∈ parts (g.setting granted) links, link.Plain := by
  rw [parts_eq_map]
  intro link member
  obtain ⟨link, there, rfl⟩ := List.mem_map.mp member
  cases link with
  | build function => trivial
  | item fold parser =>
    have inside : parser ∈ links.filterMap Link.item? := List.mem_filterMap.mpr ⟨_, there, rfl⟩
    obtain ⟨oblivious, inspectsFailure⟩ := steady parser inside
    exact part_plain (free.part inside) granted oblivious inspectsFailure

end Parsers

end Catena
