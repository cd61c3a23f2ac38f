import Catena.Proofs.Bond
import Catena.Proofs.Links
import Catena.Proofs.Parts

/-!
# Bonds along chains

Two lookaheads that keep a bond try as many lengths and find related candidates, so that their
searches take related turns; and two chains whose links keep it pass related states along.
-/

namespace Catena

open Run (Agree)

variable {ι : Type} {B : Bond ι}

structure Lookahead.Keeps (B : Bond ι) (look look' : Lookahead) : Prop where
  mode : look.mode = look'.mode
  act : Action.Keeps B look.act look'.act
  ordered : look.mode = .unordered → B.fault (.defect .unimplemented) (.defect .unimplemented)

namespace Lookahead.Keeps

structure Trials (B : Bond ι) (i : ι) (trials trials' : Lookahead.Trials) : Prop where
  count : trials.count = trials'.count
  trial : ∀ index, index < trials.count → (trials.trial index).Agree
    (Option.Rel (B.ready i)) B.fault (trials'.trial index)

structure Level (B : Bond ι) (i : ι) (search search' : Search) : Prop where
  index : search.index = search'.index
  tried : search.tried = search'.tried
  last : Option.Rel (B.done i) search.last search'.last

variable {look look' : Lookahead} {i : ι} {s t : State} (lawful : B.Lawful)
include lawful

theorem run (h : look.Keeps B look') : Action.Keeps B look.run look'.run := by
  intro i s t before
  refine (h.act i s t before).rescue fun fault fault' alike => ?_
  rw [lawful.endsIteration alike]
  split
  · exact .some (.raise lawful.interrupted)
  · exact .none

theorem candidate (h : look.Keeps B look') (before : B.ready i s t) {full full' : State}
    (unrestricted : B.done i full full') (good : full.ok = true) {length : Int}
    (nonneg : 0 ≤ length) (bound : length ≤ s.remaining - full.remaining) :
    (look.candidate s full (s.remaining - full.remaining) length).Agree
      (Option.Rel (B.ready i)) B.fault
      (look'.candidate t full' (s.remaining - full.remaining) length) := by
  refine Agree.ite Iff.rfl (.pure (.some (lawful.ready_of_ok unrestricted good))) ?_
  obtain ⟨j, clipped, taken⟩ := lawful.cut before unrestricted good nonneg bound
  refine (h.run lawful j _ _ clipped).bind fun c c' after => ?_
  refine Agree.branch (by rw [lawful.ok after, lawful.remaining after]) (fun whole => ?_)
    fun _ => .pure .none
  rw [Bool.and_eq_true] at whole
  exact .pure (.some (lawful.ready_of_ok (taken c c' after whole.1) rfl))

theorem trials (h : look.Keeps B look') (before : B.ready i s t) :
    (look.trials s).Agree (Trials B i) B.fault (look'.trials t) := by
  refine (h.run lawful i s t before).bind fun full full' after => ?_
  refine Agree.branch (by rw [lawful.ok after])
    (fun _ => .pure ⟨rfl, fun index none => absurd none (by simp)⟩) fun good => ?_
  rw [Bool.not_eq_false'] at good
  rw [← h.mode, ← lawful.remaining (lawful.done_of_ready before), ← lawful.remaining after]
  have candidate : ∀ length : Int, 0 ≤ length → length ≤ s.remaining - full.remaining →
      Agree (Option.Rel (B.ready i)) B.fault _ _ :=
    fun length => h.candidate lawful before after good
  cases mode : look.mode with
  | reluctant =>
    refine Agree.pure ⟨rfl, fun index more => candidate _ ?_ ?_⟩ <;> dsimp only at more ⊢ <;> omega
  | greedy =>
    refine Agree.pure ⟨rfl, fun index more => candidate _ ?_ ?_⟩ <;> dsimp only at more ⊢ <;> omega
  | unordered => exact .raise (h.ordered mode)

theorem attempt {resume resume' : Action}
    (resumed : ∀ u v, B.ready i u v → (resume u).Agree (B.done i) B.fault (resume' v))
    {trial trial' : Nat → Run (Option State)} {search search' : Search}
    (level : Level B i search search')
    (tries : (trial search.index).Agree (Option.Rel (B.ready i)) B.fault (trial' search.index)) :
    (look.attempt s resume trial search).Agree
      (Agree.Turn (fun next next' => Level B i next next' ∧ next.index = search.index + 1)
        (Level B i))
      B.fault (look'.attempt t resume' trial' search') := by
  unfold Lookahead.attempt
  rw [← level.index]
  refine tries.bind fun found found' candidates => ?_
  cases candidates with
  | none => exact .pure ⟨⟨rfl, level.tried, level.last⟩, rfl⟩
  | @some u v alike =>
    refine (resumed u v alike).bind fun r r' after => ?_
    have next : Level B i ⟨search.index + 1, search.tried + 1, some r⟩
        ⟨search.index + 1, search'.tried + 1, some r'⟩ :=
      ⟨rfl, congrArg (· + 1) level.tried, .some after⟩
    refine Agree.ite (by rw [lawful.ok after]) (.pure ⟨next, rfl⟩) ?_
    exact Agree.bind_eq (.log rfl) fun _ => .pure next

theorem search (h : look.Keeps B look') {resume resume' : Action}
    (resumed : ∀ u v, B.ready i u v → (resume u).Agree (B.done i) B.fault (resume' v))
    (before : B.ready i s t) :
    (look.search s resume).Agree (Option.Rel (B.done i)) B.fault (look'.search t resume') := by
  refine (h.trials lawful before).bind fun trials trials' same => ?_
  rw [← same.count]
  -- The turns left are the lengths not tried yet.
  refine (Agree.loop (I := fun left search search' => Level B i search search' ∧
    search.index + left = trials.count) (J := Level B i) ?_ ?_
    ⟨⟨rfl, rfl, .none⟩, Nat.zero_add _⟩).bind fun last last' level => .pure level.last
  · rintro left search search' ⟨level, more⟩
    refine (attempt lawful resumed level (same.trial _ (by omega))).mono ?_ fun _ _ => id
    rintro (a | a) (b | b) turn
    · exact turn
    · exact turn
    · exact turn
    · exact ⟨turn.1, by have := turn.2; omega⟩
  · exact fun _ _ level => .pure level.1

end Lookahead.Keeps

/-! ### Links -/

structure Part.Keeps (B : Bond ι) (part part' : Part) : Prop where
  act : Action.Keeps B part.act part'.act
  traits : part.traits = part'.traits
  lookahead : Option.Rel (Lookahead.Keeps B) part.lookahead part'.lookahead
  inspects : part.traits.inspectsFailure = true → ∀ i s t, B.done i s t → s.ok = false →
    (part.act s).Agree (B.done i) B.fault (part'.act t)

inductive Link.Keeps (B : Bond ι) : Link Part → Link Part → Prop where
  | item (fold : Fold) {part part' : Part} (h : part.Keeps B part') :
    Link.Keeps B (.item fold part) (.item fold part')
  | build (function : TextFunction) : Link.Keeps B (.build function) (.build function)

theorem Link.map_keeps {f g : Parser → Part} {links : List (Link Parser)}
    (h : ∀ parser ∈ links.filterMap Link.item?, (f parser).Keeps B (g parser)) :
    List.Forall₂ (Link.Keeps B) (links.map (Link.map f)) (links.map (Link.map g)) :=
  Link.forall₂_map (fun fold parser member => .item fold (h parser member))
    fun function _ => .build function

namespace Chain

variable {links links' : List (Link Part)} {i : ι} {s t : State} {text : Value}

theorem followed_keeps {link link' : Link Part} (here : link.Keeps B link')
    (later : List.Forall₂ (Link.Keeps B) links links') :
    Option.Rel (fun back back' => back.1 = back'.1 ∧ Lookahead.Keeps B back.2 back'.2)
      (followed links link) (followed links' link') := by
  cases here with
  | build function => exact .none
  | item fold same =>
    exact followed_item fold same.lookahead
      (any_isItem (fun _ _ same => by cases same <;> rfl) later)

variable (lawful : B.Lawful)
include lawful

theorem step_keeps {link link' : Link Part} (h : link.Keeps B link') (before : B.done i s t)
    (texts : B.text i text) :
    (step link s text).Agree
      (fun after after' => B.done i after.1 after'.1 ∧ after.2 = after'.2 ∧ B.text i after.2)
      B.fault (step link' t text) := by
  cases h with
  | build function =>
    refine Agree.ite (by rw [lawful.ok before]) ?_ (.pure ⟨before, rfl, texts⟩)
    rw [← lawful.value before]
    refine (lawful.call function _).bind ?_
    rintro value _ ⟨rfl, -⟩
    exact .pure ⟨lawful.withValue before, rfl, texts⟩
  | @item fold part part' same =>
    simp only [step, ← same.traits]
    refine Agree.branch (lawful.ok before) (fun live => ?_) fun dead =>
      Agree.ite Iff.rfl ?_ (Agree.branch rfl (fun inspects => ?_) fun _ => ?_)
    · refine (same.act i s t (lawful.ready_of_ok before live)).bind fun r r' after => ?_
      refine Agree.branch (by rw [lawful.ok after]) (fun _ => .pure ⟨after, rfl, texts⟩) ?_
      intro good
      rw [Bool.not_eq_false'] at good
      have put : ∀ joined, B.text i joined →
          B.done i { r with matched := joined } { r' with matched := joined } :=
        fun joined => lawful.withText after
      obtain ⟨alike, addition⟩ := lawful.matched after
      rw [← alike]
      refine Agree.ite Iff.rfl (.pure ⟨put text texts, rfl, texts⟩) ?_
      refine (lawful.join texts addition fold).bind ?_
      rintro joined _ ⟨rfl, sum⟩
      exact .pure ⟨put joined sum, rfl, sum⟩
    · refine (same.act i _ _ (lawful.resumed before dead)).bind fun r r' after => .pure ?_
      exact ⟨after, lawful.matched after⟩
    · exact (same.inspects inspects i s t before dead).bind fun r r' after =>
        .pure ⟨after, rfl, texts⟩
    · exact .pure ⟨before, rfl, texts⟩

theorem follow_keeps (h : List.Forall₂ (Link.Keeps B) links links') (before : B.done i s t)
    (texts : B.text i text) :
    (follow links s text).Agree (B.done i) B.fault (follow links' t text) := by
  induction h generalizing s t text with
  | nil => exact .pure before
  | @cons link link' rest rest' here later ih =>
    have go : ∀ p q : State × Value, (B.done i p.1 q.1 ∧ p.2 = q.2 ∧ B.text i p.2) →
        (follow rest p.1 p.2).Agree (B.done i) B.fault (follow rest' q.1 q.2) :=
      fun p q ⟨states, same, texts⟩ => same ▸ ih states texts
    have backs := followed_keeps here later
    by_cases live : s.ok = true
    · cases left : followed rest link <;> cases right : followed rest' link' <;>
        rw [left, right] at backs <;> cases backs
      · rw [follow_cons fun _ => left, follow_cons fun _ => right]
        exact (step_keeps lawful here before texts).bind go
      · rename_i back back' both
        obtain ⟨folds, looks⟩ := both
        have ready := lawful.ready_of_ok before live
        rw [follow_searched live left, follow_searched (lawful.ok before ▸ live) right]
        have resumed : ∀ u v, B.ready i u v → (resume rest back.1 text u).Agree (B.done i) B.fault
            (resume rest' back'.1 text v) := by
          intro u v candidates
          have found := lawful.done_of_ready candidates
          obtain ⟨same, addition⟩ := lawful.matched found
          unfold resume
          rw [← folds, ← same]
          refine (lawful.join texts addition back.1).bind ?_
          rintro joined _ ⟨rfl, sum⟩
          exact ih (lawful.withText found sum) sum
        refine (looks.search lawful resumed ready).bind fun found found' results => ?_
        cases results with
        | some alike => exact .pure alike
        | none => exact (looks.act i s t ready).bind fun r r' after => ih after texts
    · rw [follow_cons fun h => absurd h live,
        follow_cons fun h => absurd h (lawful.ok before ▸ live)]
      exact (step_keeps lawful here before texts).bind go

/-- The links of a chain start on the state the chain is run on, with no text. -/
theorem act_keeps (h : List.Forall₂ (Link.Keeps B) links links') (before : B.ready i s t) :
    (act links s).Agree (fun r r' => B.done i (s.settle r) (t.settle r')) B.fault
      (act links' t) := by
  obtain ⟨same, text⟩ := lawful.noText (lawful.done_of_ready before)
  unfold act
  rw [← same]
  exact (follow_keeps lawful h (lawful.done_of_ready before) text).mono
    (fun _ _ => lawful.settle before) fun _ _ => id

end Chain

end Catena
