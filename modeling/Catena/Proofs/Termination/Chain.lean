import Mathlib
import Catena.Proofs.Termination.Meeting

/-!
# Chains that meet

Two chains whose parsers meet do so themselves. A search starts the rest of its chain again and
again, but only on candidates, which have no more left than the state it began with, and there are
no more of those than items.
-/

namespace Catena

open Run (Meets)

variable {limit left : Int}

inductive Lookahead.Settles (limit : Int) : Lookahead → Lookahead → Prop where
  | of_act (mode : Mode) (shown : Thunk String) {act act' : Action} (h : act.Settles limit act') :
    Lookahead.Settles limit ⟨mode, shown, act⟩ ⟨mode, shown, act'⟩

namespace Lookahead

theorem search_eq (look : Lookahead) (s : State) (resume : Action) :
    look.search s resume = look.run s >>= fun full =>
      if !full.ok then pure none
      else Run.need .unimplemented (lengthAt (s.remaining - full.remaining) look.mode) >>= fun length =>
        Run.loop (look.attempt s resume fun index =>
            look.candidate s full (s.remaining - full.remaining) (length index)) pure
          (s.remaining - full.remaining + 1).toNat ⟨0, 0, none⟩ >>= fun search =>
        pure search.last := by
  unfold search trials
  simp only [bind_assoc]
  refine congrArg _ (funext fun full => ?_)
  cases full.ok with
  | true => simp only [Bool.not_true, Bool.false_eq_true, if_false, bind_assoc, pure_bind]
  | false => simp only [Bool.not_false, if_true, pure_bind, Run.loop_zero]

theorem lengthAt_bounds {longest : Int} {mode : Mode} {length : Nat → Int}
    (order : lengthAt longest mode = some length) {index : Nat}
    (more : index < (longest + 1).toNat) : 0 ≤ length index ∧ length index ≤ longest := by
  cases mode with
  | unordered => cases order
  | reluctant | greedy =>
    obtain rfl := Option.some.inj order
    dsimp only
    omega

namespace Settles

variable {look look' : Lookahead} {s full : State}

theorem act (h : look.Settles limit look') : look.act.Settles limit look'.act := by
  cases h with
  | of_act mode shown h => exact h

theorem run (h : look.Settles limit look') : look.run.Settles limit look'.run := by
  intro s live bound
  refine (h.act s live bound).rescue fun fault => ?_
  split
  · exact .some (.raise _)
  · exact .none

/-- A candidate is a live state with no more left than there was. -/
theorem candidate (h : look.Settles limit look') (live : s.Live) (bound : s.remaining < limit)
    (after : full.Live) {length : Int} (nonneg : 0 ≤ length)
    (shorter : length ≤ s.remaining - full.remaining) :
    Meets (fun found => ∀ t, found = some t → t.Live ∧ t.remaining ≤ s.remaining)
      (look.candidate s full (s.remaining - full.remaining) length)
      (look'.candidate s full (s.remaining - full.remaining) length) := by
  have left := after.remaining_nonneg
  have within : length ≤ s.remaining := by omega
  unfold Lookahead.candidate
  split
  · refine .pure ?_
    rintro _ ⟨⟩
    exact ⟨after, by omega⟩
  · have clipped : State.Live { s with limit := s.pos + length } :=
      ⟨Window.inside_clip live.inside nonneg within, live.clean, live.ok⟩
    refine (h.run _ clipped ?_).bind fun r _ => .branch (fun _ => .pure ?_) fun _ => .pure nofun
    · simp only [State.remaining] at within bound ⊢
      omega
    · rintro _ ⟨⟩
      refine ⟨⟨Window.inside_skip live.inside nonneg within, live.clean, rfl⟩, ?_⟩
      simp only [State.remaining]
      omega

theorem attempt {resume resume' : Action} {trial trial' : Nat → Run (Option State)}
    (resumed : ∀ t, t.Live → t.remaining ≤ s.remaining →
      Meets (fun _ => True) (resume t) (resume' t)) (look : Lookahead) {search : Search}
    (tries : Meets (fun found => ∀ t, found = some t → t.Live ∧ t.remaining ≤ s.remaining)
      (trial search.index) (trial' search.index)) :
    Meets (Meets.Turn (fun next => next.index = search.index + 1) fun _ => True)
      (look.attempt s resume trial search) (look.attempt s resume' trial' search) := by
  refine tries.bind fun found candidate => ?_
  cases found with
  | none => exact .pure rfl
  | some t =>
    obtain ⟨live, bound⟩ := candidate t rfl
    refine (resumed t live bound).bind fun r _ => .branch (fun _ => .pure rfl) fun _ => ?_
    exact (Meets.log _).bind fun _ _ => .pure trivial

/-- Two searches meet if the rests of their chains do on states with no more left. -/
theorem search (h : look.Settles limit look') (live : s.Live) (bound : s.remaining < limit)
    {resume resume' : Action}
    (resumed : ∀ t, t.Live → t.remaining ≤ s.remaining →
      Meets (fun _ => True) (resume t) (resume' t)) :
    Meets (fun _ => True) (look.search s resume) (look'.search s resume') := by
  rw [search_eq, search_eq]
  refine (h.run s live bound).bind fun full sound => .branch (fun _ => .pure trivial) fun good => ?_
  obtain ⟨after, -⟩ := sound.of_ok (by simpa using good)
  have modes : look'.mode = look.mode := by
    cases h
    rfl
  rw [modes]
  refine (Meets.need _ _).bind fun length order => ?_
  refine Meets.bind (P := fun _ => True) ?_ fun _ _ => .pure trivial
  -- The turns left are the lengths not tried yet.
  refine Meets.loop (I := fun left search =>
    search.index + left = (s.remaining - full.remaining + 1).toNat) ?_ (fun _ _ => .pure trivial)
    (Nat.zero_add _)
  intro left search more
  have further : search.index < (s.remaining - full.remaining + 1).toNat := by omega
  obtain ⟨nonneg, shorter⟩ := lengthAt_bounds order further
  have tries := h.candidate live bound after nonneg shorter
  have same : ∀ trial, look'.attempt s resume' trial = look.attempt s resume' trial := by
    cases h
    exact fun _ => rfl
  rw [same]
  refine (attempt resumed look tries).mono fun turn holds => ?_
  cases turn with
  | done next => trivial
  | yield next =>
    have next : next.index = search.index + 1 := holds
    show _ = _
    omega

end Settles

end Lookahead

/-! ### Links -/

structure Part.Settles (limit : Int) (part part' : Part) : Prop where
  act : part.act.Settles limit part'.act
  traits : part.traits = part'.traits
  lookahead : Option.Rel (Lookahead.Settles limit) part.lookahead part'.lookahead
  inspects : part.traits.inspectsFailure = true → ∀ s left, s.ok = false → s.Sound left →
    Meets (fun r => r.ok = false ∧ r.Sound left) (part.act s) (part'.act s)

inductive Link.Settles (limit : Int) : Link Part → Link Part → Prop where
  | item (fold : Fold) {part part' : Part} (h : part.Settles limit part') :
    Link.Settles limit (.item fold part) (.item fold part')
  | build (function : TextFunction) : Link.Settles limit (.build function) (.build function)

theorem Link.map_settles {f g : Parser → Part} {links : List (Link Parser)}
    (h : ∀ parser ∈ links.filterMap Link.item?, (f parser).Settles limit (g parser)) :
    List.Forall₂ (Link.Settles limit) (links.map (Link.map f)) (links.map (Link.map g)) :=
  Link.forall₂_map (fun fold parser member => .item fold (h parser member))
    fun function _ => .build function

namespace Chain

variable {link link' : Link Part} {links links' : List (Link Part)} {s : State} {text : Value}

theorem followed_settles (here : link.Settles limit link')
    (later : List.Forall₂ (Link.Settles limit) links links') :
    Option.Rel (fun back back' => back.1 = back'.1 ∧ Lookahead.Settles limit back.2 back'.2)
      (followed links link) (followed links' link') := by
  cases here with
  | build function => exact .none
  | item fold same =>
    exact followed_item fold same.lookahead
      (any_isItem (fun _ _ same => by cases same <;> rfl) later)

theorem step_meets (h : link.Settles limit link') (sound : s.Sound left) (bound : left < limit) :
    Meets (fun p => p.1.Sound left) (step link s text) (step link' s text) := by
  cases h with
  | build function =>
    refine .branch (fun _ => ?_) fun _ => .pure sound
    exact (Meets.call function _).bind fun value _ => .pure (sound.withValue value)
  | @item fold part part' same =>
    simp only [step, ← same.traits]
    refine .branch (fun good => ?_) fun failed => .branch (fun _ => ?_) fun _ =>
      .branch (fun inspects => ?_) fun _ => .pure sound
    · obtain ⟨live, less⟩ := sound.of_ok good
      refine (same.act s live (by omega)).bind fun r after => ?_
      refine .branch (fun _ => .pure (after.mono less)) fun _ => .branch (fun _ => ?_) fun _ => ?_
      · exact .pure ((after.mono less).withText text)
      · exact (Meets.join fold _ _).bind fun joined _ => .pure ((after.mono less).withText joined)
    · obtain ⟨live, less⟩ := sound.resumed failed
      exact (same.act _ live (by omega)).bind fun r after => .pure (after.mono less)
    · exact (same.inspects inspects s left failed sound).bind fun r after => .pure after.2

theorem follow_meets (h : List.Forall₂ (Link.Settles limit) links links') (sound : s.Sound left)
    (bound : left < limit) :
    Meets (fun _ => True) (follow links s text) (follow links' s text) := by
  induction h generalizing s text left with
  | nil => exact .pure trivial
  | @cons link link' rest rest' here later ih =>
    have go : ∀ p : State × Value, p.1.Sound left →
        Meets (fun _ => True) (follow rest p.1 p.2) (follow rest' p.1 p.2) :=
      fun p sound => ih sound bound
    have backs := followed_settles here later
    by_cases good : s.ok = true
    · cases first : followed rest link <;> cases second : followed rest' link' <;>
        rw [first, second] at backs <;> cases backs
      · rw [follow_cons fun _ => first, follow_cons fun _ => second]
        exact (step_meets here sound bound).bind go
      · rename_i back back' both
        obtain ⟨folds, looks⟩ := both
        obtain ⟨live, less⟩ := sound.of_ok good
        rw [follow_searched good first, follow_searched good second, ← folds]
        refine (looks.search live (by omega) fun t candidate fewer => ?_).bind fun found _ => ?_
        · refine (Meets.join back.1 text t.matched).bind fun joined _ => ?_
          exact ih (.live (candidate.withText joined) (fewer.trans less)) bound
        · cases found with
          | some result => exact .pure trivial
          | none =>
            exact (looks.act s live (by omega)).bind fun r after => ih (after.mono less) bound
    · rw [follow_cons fun live => absurd live good, follow_cons fun live => absurd live good]
      exact (step_meets here sound bound).bind go

/-- Without links that resume, a failed chain meets whatever is left. -/
theorem follow_failed_meets (h : List.Forall₂ (Link.Settles limit) links links')
    (stays : ∀ fold part, .item fold part ∈ links → part.traits.oblivious = false)
    (failed : s.ok = false) (sound : s.Sound left) :
    Meets (fun _ => True) (follow links s text) (follow links' s text) := by
  induction h generalizing s text with
  | nil => exact .pure trivial
  | @cons link link' rest rest' here later ih =>
    have ih : ∀ {s : State}, s.ok = false → s.Sound left →
        Meets (fun _ => True) (follow rest s text) (follow rest' s text) :=
      ih fun fold part member => stays fold part (.tail _ member)
    cases here with
    | build function =>
      simp only [follow, failed, Bool.false_eq_true, if_false]
      exact ih failed sound
    | @item fold part part' same =>
      simp only [follow, failed, ← same.traits, stays fold part (.head _), Bool.false_eq_true,
        if_false]
      refine .branch (fun inspects => ?_) fun _ => ih failed sound
      exact (same.inspects inspects s left failed sound).bind fun r after => ih after.1 after.2

/-- Behind a parser that consumes something, the rest of a chain is followed with one item less to
go, or on a failure that nothing resumes. -/
theorem follow_consuming {fold : Fold} {part part' : Part} (first : part.Settles (limit + 1) part')
    (whole : part.lookahead = none) (later : List.Forall₂ (Link.Settles limit) links links')
    (stays : ∀ fold part, .item fold part ∈ links → part.traits.oblivious = false)
    (consumes : ∀ r, (part'.act s).outcome = .returned r → r.ok = true →
      r.remaining < s.remaining)
    (live : s.Live) (bound : s.remaining < limit + 1) :
    Meets (fun _ => True) (follow (.item fold part :: links) s text)
      (follow (.item fold part' :: links') s text) := by
  have whole' : part'.lookahead = none := by
    have looks := first.lookahead
    rw [whole] at looks
    cases found : part'.lookahead with
    | none => rfl
    | some look =>
      rw [found] at looks
      cases looks
  have ordinary : ∀ {rest : List (Link Part)} {part : Part}, part.lookahead = none →
      followed rest (.item fold part) = none := by
    intro rest part none
    simp only [followed, none, Option.map_none, ite_self]
  have begins : Meets (fun p => p.1.Sound s.remaining) (step (.item fold part) s text)
      (step (.item fold part') s text) :=
    step_meets (.item fold first) (.live live (Int.le_refl _)) bound
  have less : ∀ p, (step (.item fold part') s text).outcome = .returned p → p.1.ok = true →
      p.1.remaining < s.remaining := by
    rintro ⟨t, joined⟩ run good
    obtain ⟨result, after, ok, rfl⟩ | ⟨failed, -⟩ := step_item_ok run good
    · rw [if_pos live.ok] at after
      exact consumes result after ok
    · exact absurd live.ok (by simp [failed])
  rw [follow_cons fun _ => ordinary whole, follow_cons fun _ => ordinary whole']
  refine (begins.knowing less).bind ?_
  rintro ⟨t, joined⟩ ⟨sound, less⟩
  cases good : t.ok with
  | true =>
    obtain ⟨next, -⟩ := sound.of_ok good
    have fewer : t.remaining < s.remaining := less good
    exact follow_meets later (.live next (Int.le_refl _)) (show t.remaining < limit by omega)
  | false => exact follow_failed_meets later stays good sound

end Chain

end Catena
