import Catena.Proofs.Accord
import Catena.Proofs.Links

/-!
# Accords along chains

Searches of two lookaheads take related turns if their parsers keep an accord, and two chains whose
links keep it pass related states along.
-/

namespace Catena

open Run (Accords)

variable {ι : Type} {A : Accord ι}

structure Lookahead.Accords (A : Accord ι) (look look' : Lookahead) : Prop where
  mode : look.mode = look'.mode
  act : A.Keeps look.act look'.act
  ordered : look.mode = .unordered → A.Allows (.defect .unimplemented)
  interrupts : A.Interrupts

namespace Lookahead.Accords

structure Trials (A : Accord ι) (i : ι) (trials trials' : Lookahead.Trials) : Prop where
  count : trials.count = trials'.count
  trial : ∀ index, index < trials.count →
    (trials.trial index).Accords A (Option.Rel (A.state i)) (trials'.trial index)

structure Level (A : Accord ι) (i : ι) (search search' : Search) : Prop where
  index : search.index = search'.index
  tried : search.tried = search'.tried
  last : Option.Rel (A.state i) search.last search'.last

variable {look look' : Lookahead} {i : ι} {s t : State}

theorem run (h : look.Accords A look') : A.Keeps look.run look'.run := by
  have excused : ∀ fault, A.excused fault → ∀ y : Run State, (if fault.endsIteration then
      some (Run.raise (.defect .interrupted)) else none) = some y → y.Excused A := by
    intro fault excused y taken
    split at taken
    · rename_i ends
      obtain rfl := Option.some.inj taken
      exact ⟨_, rfl, h.interrupts.excused excused ends⟩
    · cases taken
  intro i s t before
  refine (h.act i s t before).rescue excused excused fun fault fault' alike => ?_
  rw [← h.interrupts.endsIteration alike]
  split
  · rename_i ends
    exact .some (.raise (h.interrupts.allowed alike ends))
  · exact .none

variable (lawful : A.Lawful)
include lawful

theorem candidate (h : look.Accords A look') (before : A.state i s t) {full full' : State}
    (unrestricted : A.state i full full') (good : full.ok = true) {length : Int}
    (nonneg : 0 ≤ length) (bound : length ≤ s.remaining - full.remaining) :
    (look.candidate s full (s.remaining - full.remaining) length).Accords A
      (Option.Rel (A.state i))
      (look'.candidate t full' (s.remaining - full.remaining) length) := by
  unfold Lookahead.candidate
  by_cases longest : length = s.remaining - full.remaining
  · rw [if_pos longest, if_pos longest]
    exact .pure (.some unrestricted)
  · rw [if_neg longest, if_neg longest]
    obtain ⟨clipped, taken⟩ := lawful.cut before unrestricted good nonneg bound
    refine (h.run i _ _ clipped).bind fun c c' after => ?_
    refine Accords.branch (by rw [lawful.ok after, lawful.remaining after]) (fun _ => ?_)
      fun _ => .pure .none
    exact .pure (.some (taken c c' after))

theorem trials (h : look.Accords A look') (before : A.state i s t) :
    (look.trials s).Accords A (Trials A i) (look'.trials t) := by
  refine (h.run i s t before).bind fun full full' after => ?_
  refine Accords.branch (by rw [lawful.ok after])
    (fun _ => .pure ⟨rfl, fun index none => absurd none (by simp)⟩) fun good => ?_
  rw [Bool.not_eq_false'] at good
  rw [← h.mode, ← lawful.remaining before, ← lawful.remaining after]
  have candidate : ∀ length : Int, 0 ≤ length → length ≤ s.remaining - full.remaining →
      Run.Accords A (Option.Rel (A.state i)) _ _ :=
    fun length => h.candidate lawful before after good
  cases mode : look.mode with
  | reluctant =>
    refine Accords.pure ⟨rfl, fun index more => candidate _ ?_ ?_⟩ <;>
      dsimp only at more ⊢ <;> omega
  | greedy =>
    refine Accords.pure ⟨rfl, fun index more => candidate _ ?_ ?_⟩ <;>
      dsimp only at more ⊢ <;> omega
  | unordered => exact .raise (h.ordered mode)

theorem attempt {resume resume' : Action} (resumed : A.Keeps resume resume')
    {trial trial' : Nat → Run (Option State)} {search search' : Search}
    (level : Level A i search search')
    (tries : (trial search.index).Accords A (Option.Rel (A.state i)) (trial' search.index)) :
    (look.attempt s resume trial search).Accords A
      (Run.Agree.Turn (fun next next' => Level A i next next' ∧ next.index = search.index + 1)
        (Level A i))
      (look'.attempt t resume' trial' search') := by
  unfold Lookahead.attempt
  rw [← level.index]
  refine tries.bind fun found found' candidates => ?_
  cases candidates with
  | none => exact .pure ⟨⟨rfl, level.tried, level.last⟩, rfl⟩
  | @some u v alike =>
    refine (resumed i u v alike).bind fun r r' after => ?_
    have next : Level A i ⟨search.index + 1, search.tried + 1, some r⟩
        ⟨search.index + 1, search'.tried + 1, some r'⟩ :=
      ⟨rfl, congrArg (· + 1) level.tried, .some after⟩
    refine Accords.branch (by rw [lawful.ok after]) (fun _ => .pure ⟨next, rfl⟩) fun _ => ?_
    exact Accords.bind_eq .log fun _ => .pure next

theorem search (h : look.Accords A look') {resume resume' : Action}
    (resumed : A.Keeps resume resume') (before : A.state i s t) :
    (look.search s resume).Accords A (Option.Rel (A.state i)) (look'.search t resume') := by
  refine (h.trials lawful before).bind fun trials trials' same => ?_
  rw [← same.count]
  -- The turns left are the lengths not tried yet.
  refine (Accords.loop (I := fun left search search' => Level A i search search' ∧
    search.index + left = trials.count) (J := Level A i) ?_ ?_
    ⟨⟨rfl, rfl, .none⟩, Nat.zero_add _⟩).bind fun last last' level => .pure level.last
  · rintro left search search' ⟨level, more⟩
    refine (attempt lawful resumed level (same.trial _ (by omega))).mono ?_
    rintro (a | a) (b | b) turn
    · exact turn
    · exact turn
    · exact turn
    · exact ⟨turn.1, by have := turn.2; omega⟩
  · exact fun _ _ level => .pure level.1

end Lookahead.Accords

/-! ### Links -/

structure Part.Accords (A : Accord ι) (part part' : Part) : Prop where
  act : A.Keeps part.act part'.act
  traits : part.traits = part'.traits
  lookahead : Option.Rel (Lookahead.Accords A) part.lookahead part'.lookahead

inductive Link.Accords (A : Accord ι) : Link Part → Link Part → Prop where
  | item (fold : Fold) {part part' : Part} (h : part.Accords A part') :
    Link.Accords A (.item fold part) (.item fold part')
  | build {function : TextFunction} (h : A.Builds function) :
    Link.Accords A (.build function) (.build function)

namespace Chain

variable {links links' : List (Link Part)} {i : ι} {s t : State} {text : Value}

theorem followed_accords {link link' : Link Part} (here : link.Accords A link')
    (later : List.Forall₂ (Link.Accords A) links links') :
    Option.Rel (fun back back' => back.1 = back'.1 ∧ Lookahead.Accords A back.2 back'.2)
      (followed links link) (followed links' link') := by
  cases here with
  | build => exact .none
  | item fold same =>
    exact followed_item fold same.lookahead
      (any_isItem (fun _ _ same => by cases same <;> rfl) later)

variable (lawful : A.Lawful)
include lawful

theorem step_accords {link link' : Link Part} (h : link.Accords A link') (before : A.state i s t)
    (texts : A.text text) :
    (step link s text).Accords A
      (fun after after' => A.state i after.1 after'.1 ∧ after.2 = after'.2 ∧ A.text after.2)
      (step link' t text) := by
  have same := lawful.ok before
  cases h with
  | @build function builds =>
    refine Accords.branch same (fun _ => ?_) fun _ => .pure ⟨before, rfl, texts⟩
    refine (builds i _ _ text (lawful.value before) texts).bind fun v w values => ?_
    exact .pure ⟨lawful.withValue before values, rfl, texts⟩
  | @item fold part part' alike =>
    simp only [step, ← alike.traits]
    refine Accords.branch same (fun _ => ?_) fun _ => Accords.branch rfl (fun _ => ?_) fun _ =>
      Accords.branch rfl (fun _ => ?_) fun _ => .pure ⟨before, rfl, texts⟩
    · refine (alike.act i s t before).bind fun r r' after => ?_
      refine Accords.branch (by rw [lawful.ok after]) (fun _ => .pure ⟨after, rfl, texts⟩) ?_
      intro _
      obtain ⟨equal, addition⟩ := lawful.matched after
      have joins : (if part.traits.inspectsOnly then pure text else fold.join text r.matched :
          Run Value).Accords A (fun c c' => c = c' ∧ A.text c)
          (if part.traits.inspectsOnly then pure text else fold.join text r.matched) :=
        Accords.branch rfl (fun _ => .pure ⟨rfl, texts⟩) fun _ => lawful.join texts addition fold
      have go : ∀ c, A.text c → Accords A (fun after after' : State × Value =>
          A.state i after.1 after'.1 ∧ after.2 = after'.2 ∧ A.text after.2)
          (pure ({ r with matched := c }, c)) (pure ({ r' with matched := c }, c)) :=
        fun c sum => .pure ⟨lawful.put after sum, rfl, sum⟩
      rw [← equal]
      cases only : part.traits.inspectsOnly with
      | true => exact go text texts
      | false =>
        rw [only] at joins
        refine joins.bind ?_
        rintro c _ ⟨rfl, sum⟩
        exact go c sum
    · refine (alike.act i _ _ (lawful.resumed before)).bind fun r r' after => .pure ?_
      exact ⟨after, lawful.matched after⟩
    · exact (alike.act i s t before).bind fun r r' after => .pure ⟨after, rfl, texts⟩

theorem follow_accords (h : List.Forall₂ (Link.Accords A) links links') (before : A.state i s t)
    (texts : A.text text) :
    (follow links s text).Accords A (A.state i) (follow links' t text) := by
  induction h generalizing i s t text with
  | nil => exact .pure before
  | @cons link link' rest rest' here later ih =>
    have go : ∀ p q : State × Value, (A.state i p.1 q.1 ∧ p.2 = q.2 ∧ A.text p.2) →
        (follow rest p.1 p.2).Accords A (A.state i) (follow rest' q.1 q.2) := by
      rintro ⟨u, text⟩ ⟨v, _⟩ ⟨states, rfl, texts⟩
      exact ih states texts
    have backs := followed_accords here later
    by_cases live : s.ok = true
    · have live' : t.ok = true := lawful.ok before ▸ live
      cases left : followed rest link <;> cases right : followed rest' link' <;>
        rw [left, right] at backs <;> cases backs
      · rw [follow_cons fun _ => left, follow_cons fun _ => right]
        exact (step_accords lawful here before texts).bind go
      · rename_i back back' both
        obtain ⟨folds, looks⟩ := both
        rw [follow_searched live left, follow_searched live' right]
        have resumed : A.Keeps (resume rest back.1 text) (resume rest' back'.1 text) := by
          intro j u v candidates
          obtain ⟨same, addition⟩ := lawful.matched candidates
          unfold resume
          rw [← folds, ← same]
          refine (lawful.join texts addition back.1).bind ?_
          rintro joined _ ⟨rfl, sum⟩
          exact ih (lawful.put candidates sum) sum
        refine (looks.search lawful resumed before).bind fun found found' results => ?_
        cases results with
        | some alike => exact .pure alike
        | none =>
          refine (looks.act i s t before).bind fun r r' after => ?_
          exact ih after texts
    · have dead : t.ok ≠ true := lawful.ok before ▸ live
      rw [follow_cons fun h => absurd h live, follow_cons fun h => absurd h dead]
      exact (step_accords lawful here before texts).bind go

/-- The links of a chain start on the state the chain is run on, with no text. -/
theorem act_accords (h : List.Forall₂ (Link.Accords A) links links') :
    A.Keeps (act links) (act links') := by
  intro i s t before
  obtain ⟨same, text⟩ := lawful.noText before
  unfold act
  rw [← same]
  exact follow_accords lawful h before text

end Chain

end Catena
