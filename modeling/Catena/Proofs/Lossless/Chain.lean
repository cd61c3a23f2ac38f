import Mathlib
import Catena.Proofs.Lossless.Action

/-!
# Chains that lose nothing

Along a chain whose links lose nothing, the text so far and what is left make up what was left at
its start; a search only takes over what is so of a candidate.
-/

namespace Catena

variable {whole : Buffer} {text joined : Value}

structure Part.Lossless (part : Part) : Prop where
  advances : part.act.Advances
  lossless : part.act.Lossless
  lookahead : ∀ look, part.lookahead = some look → look.act.Advances ∧ look.act.Lossless
  inspects : part.traits.inspectsOnly = true →
    ∀ s r, (part.act s).outcome = .returned r → r.window = s.window
  oblivious : part.traits.oblivious = false
  fails : part.traits.inspectsFailure = true →
    ∀ s r, s.ok = false → (part.act s).outcome = .returned r → r.ok = false

def Link.Lossless : Link Part → Prop
  | .item fold part => fold = .append ∧ part.Lossless
  | .build _ => True

theorem Lookahead.Candidate.leads {look : Lookahead} {s t : State} {length : Nat}
    (advances : look.act.Advances) (lossless : look.act.Lossless) (live : s.Live)
    (h : look.Candidate s length t) : t.matched.Leads t.unconsumed s.unconsumed := by
  cases h with
  | whole run good => exact lossless s t live run good
  | @cut full clipped length run good shorter again matched used =>
    obtain ⟨there, -, -⟩ := advances s full live.inside live.clean run
    have left : 0 ≤ full.remaining := Window.remaining_nonneg there
    have bound : (length : Int) ≤ s.remaining := by omega
    have cut : State.Live { s with limit := s.pos + length } :=
      ⟨Window.inside_clip live.inside (k := length) (by omega) bound, live.clean, live.ok⟩
    obtain ⟨inside, -, -⟩ := advances _ clipped cut.inside cut.clean again
    -- Nothing is left of the cut input, so that all of it is matched.
    have nothing : clipped.unconsumed.length = 0 := by
      have count := Window.length_rest inside
      rw [show clipped.window.remaining = 0 from used] at count
      exact_mod_cast count
    have all := (lossless _ clipped cut again matched).eq_whole nothing
    simp only [State.remaining] at bound
    have front := State.slice_leads live.inside (show s.pos ≤ s.pos + length by omega) (by omega)
    rw [all]
    exact front

namespace Chain

variable {link : Link Part} {links : List (Link Part)} {later : List (Link Part)} {s t r : State}

theorem step_fails (lossless : link.Lossless) (failed : s.ok = false)
    (run : (step link s text).outcome = .returned (t, joined)) : t.ok = false := by
  cases link with
  | build function =>
    simp only [step, failed, Bool.false_eq_true, if_false] at run
    obtain ⟨rfl, -⟩ := Prod.mk.inj (Run.pure_returned_iff.mp run)
    exact failed
  | item fold part =>
    obtain ⟨-, keeps⟩ := lossless
    simp only [step, failed, keeps.oblivious, Bool.false_eq_true, if_false] at run
    split at run
    · obtain ⟨result, after, run⟩ := Run.bind_returned_iff.mp run
      obtain ⟨rfl, -⟩ := Prod.mk.inj (Run.pure_returned_iff.mp run)
      exact keeps.fails ‹_› s result failed after
    · obtain ⟨rfl, -⟩ := Prod.mk.inj (Run.pure_returned_iff.mp run)
      exact failed

theorem follow_fails (lossless : ∀ link ∈ links, link.Lossless) (failed : s.ok = false)
    (run : (follow links s text).outcome = .returned r) : r.ok = false := by
  induction links generalizing s text with
  | nil =>
    obtain rfl := Run.pure_returned_iff.mp run
    exact failed
  | cons link links ih =>
    obtain ⟨here, later⟩ := List.forall_mem_cons.mp lossless
    rw [follow_cons fun live => absurd live (by simp [failed])] at run
    obtain ⟨⟨t, joined⟩, first, run⟩ := Run.bind_returned_iff.mp run
    exact ih later (step_fails here failed first) run

/-- A link that succeeds adds to the text what it takes from the rest. -/
theorem step_leads (lossless : link.Lossless) (live : s.Live) (here : text.Leads s.unconsumed whole)
    (run : (step link s text).outcome = .returned (t, joined)) (good : t.ok = true) :
    t.Live ∧ joined.Leads t.unconsumed whole ∧
      (t.matched = joined ∨ link.isItem = false ∧ t.matched = s.matched ∧ joined = text) := by
  cases link with
  | build function =>
    obtain ⟨-, rfl, value, rfl⟩ := step_build_ok run good
    exact ⟨⟨live.inside, live.clean, live.ok⟩, here, .inr ⟨rfl, rfl, rfl⟩⟩
  | item fold part =>
    obtain ⟨rfl, keeps⟩ := lossless
    simp only [step, if_pos live.ok] at run
    obtain ⟨result, after, run⟩ := Run.bind_returned_iff.mp run
    by_cases ok : result.ok = true
    · rw [if_neg (by simp [ok])] at run
      have next : result.Live := keeps.advances.live live after ok
      by_cases only : part.traits.inspectsOnly = true
      · rw [if_pos only] at run
        obtain ⟨_, join, run⟩ := Run.bind_returned_iff.mp run
        obtain ⟨rfl, rfl⟩ := Prod.mk.inj (Run.pure_returned_iff.mp run)
        obtain rfl := Run.pure_returned_iff.mp join
        have same : result.unconsumed = s.unconsumed :=
          congrArg Window.rest (keeps.inspects only s result after)
        exact ⟨next.withText _, same.symm ▸ here, .inl rfl⟩
      · rw [if_neg only] at run
        obtain ⟨_, join, run⟩ := Run.bind_returned_iff.mp run
        obtain ⟨rfl, rfl⟩ := Prod.mk.inj (Run.pure_returned_iff.mp run)
        refine ⟨next.withText _, ?_, .inl rfl⟩
        exact here.trans (keeps.lossless s result live after ok) (Run.need_returned_iff.mp join)
    · rw [if_pos (by simpa using ok)] at run
      obtain ⟨rfl, -⟩ := Prod.mk.inj (Run.pure_returned_iff.mp run)
      exact absurd good ok

/-- The text of the links so far leads what is left, until the end of the chain. -/
theorem follow_leads (lossless : ∀ link ∈ links, link.Lossless) (live : s.Live)
    (here : text.Leads s.unconsumed whole)
    (matched : s.matched = text ∨ links.any Link.isItem = true)
    (run : (follow links s text).outcome = .returned r) (good : r.ok = true) :
    r.matched.Leads r.unconsumed whole := by
  induction links generalizing s text with
  | nil =>
    obtain rfl := Run.pure_returned_iff.mp run
    obtain rfl := matched.resolve_right (by simp)
    exact here
  | cons link links ih =>
    obtain ⟨first, later⟩ := List.forall_mem_cons.mp lossless
    cases back : followed links link with
    | none =>
      rw [follow_cons fun _ => back] at run
      obtain ⟨⟨t, joined⟩, step, run⟩ := Run.bind_returned_iff.mp run
      by_cases ok : t.ok = true
      · obtain ⟨next, leads, text⟩ := step_leads first live here step ok
        -- Before the first parser the matched text may be any; it is replaced there.
        refine ih later next leads ?_ run
        obtain same | ⟨build, same, rfl⟩ := text
        · exact .inl same
        · simpa only [same, List.any_cons, build, Bool.false_or] using matched
      · rw [Bool.not_eq_true] at ok
        exact absurd good (by simp [follow_fails later ok run])
    | some both =>
      obtain ⟨fold, look⟩ := both
      obtain ⟨part, rfl, -, found⟩ := eq_item_of_followed back
      obtain ⟨rfl, keeps⟩ := first
      obtain ⟨advances, lossless⟩ := keeps.lookahead look found
      rw [follow_searched live.ok back] at run
      obtain ⟨found, sought, run⟩ := Run.bind_returned_iff.mp run
      have shorter := fun full ran => (advances s full live.inside live.clean ran).2.1
      -- Only a candidate after which the rest of the chain succeeds can give a success.
      obtain ⟨full, ran, failed, rfl⟩ | ⟨_, rfl, failed, -⟩ |
          ⟨length, t, _, candidate, resumed, -, rfl, -⟩ :=
        Lookahead.search_returned sought shorter
      · obtain ⟨full', ran', run⟩ := Run.bind_returned_iff.mp run
        obtain rfl := Outcome.returned.inj (ran.symm.trans ran')
        exact absurd good (by simp [follow_fails later failed run])
      · obtain rfl := Run.pure_returned_iff.mp run
        exact absurd good (by simp [failed])
      · obtain rfl := Run.pure_returned_iff.mp run
        obtain ⟨joined, join, resumed⟩ := resume_returned_iff.mp resumed
        have next := (candidate_live advances live candidate).withText joined
        have leads := here.trans (candidate.leads advances lossless live)
          (Run.need_returned_iff.mp join)
        exact ih later next leads (.inl rfl) resumed

end Chain

end Catena
