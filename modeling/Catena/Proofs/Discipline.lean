import Mathlib
import Catena.Proofs.Bond.Chain
import Catena.Proofs.Move
import Catena.Proofs.Watched

/-!
# Snapshots in a run

Successful states carry no snapshot, and failed ones carry a successful state without one, throughout
a run: `Grammar.act_disciplined` has it of every state that a parser in the run starts on or leaves,
by a watch whose alarm is never raised. The bond behind it is equality of disciplined states.
-/

namespace Catena

namespace State

def isLive (s : State) : Bool :=
  s.ok && s.lastGood.isNone

/-- A success without a snapshot, or a failure with a live one. -/
def isSettled (s : State) : Bool :=
  if s.ok then s.lastGood.isNone else s.lastGood.any isLive

variable {s r : State}

theorem isLive_iff : s.isLive = true ↔ s.ok = true ∧ s.lastGood = none := by
  simp only [isLive, Bool.and_eq_true, Option.isNone_iff_eq_none]

theorem isSettled_of_ok (ok : s.ok = true) : s.isSettled = s.isLive := by
  simp only [isSettled, isLive, ok, if_true, Bool.true_and]

theorem isSettled_of_failed (failed : s.ok = false) :
    s.isSettled = true ↔ ∃ good, s.lastGood = some good ∧ good.isLive = true := by
  simp only [isSettled, failed, Bool.false_eq_true, if_false, Option.any_eq_true]

theorem isSettled_of_isLive (live : s.isLive = true) : s.isSettled = true := by
  rwa [isSettled_of_ok (isLive_iff.mp live).1]

theorem settle_isSettled (live : s.isLive = true) (kept : r.lastGood = none) :
    (s.settle r).isSettled = true := by
  cases ok : r.ok with
  | true => rw [settle_of_clean ok kept, isSettled_of_ok ok, isLive_iff]; exact ⟨ok, kept⟩
  | false =>
    rw [settle_of_failed (isLive_iff.mp live).1 ok kept]
    exact (isSettled_of_failed (s := { r with lastGood := some s }) ok).mpr ⟨s, rfl, live⟩

theorem settle_of_isSettled (settled : r.isSettled = true) : s.settle r = r := by
  cases ok : r.ok with
  | true =>
    rw [isSettled_of_ok ok, isLive_iff] at settled
    exact settle_of_clean ok settled.2
  | false =>
    obtain ⟨good, snapshot, -⟩ := (isSettled_of_failed ok).mp settled
    exact settle_of_snapshot ok snapshot

theorem detach_isLive (live : s.isLive = true) (moved : s.detach = some r) : r.isLive = true := by
  obtain ⟨ok, clean⟩ := isLive_iff.mp live
  rw [detach_eq, clean, Option.bind_eq_some_iff] at moved
  obtain ⟨text, -, same⟩ := moved
  obtain rfl := Option.some.inj same
  exact isLive_iff.mpr ⟨ok, rfl⟩

theorem detach_isSettled (settled : s.isSettled = true) (moved : s.detach = some r) :
    r.isSettled = true := by
  cases ok : s.ok with
  | true =>
    rw [isSettled_of_ok ok] at settled
    exact isSettled_of_isLive (detach_isLive settled moved)
  | false =>
    obtain ⟨good, snapshot, live⟩ := (isSettled_of_failed ok).mp settled
    rw [detach_eq, snapshot, Option.bind_eq_some_iff] at moved
    obtain ⟨text, -, moved⟩ := moved
    obtain ⟨good', below, rfl⟩ := Option.map_eq_some_iff.mp moved
    simp only [isSettled, ok, Bool.false_eq_true, if_false, Option.any_some]
    exact detach_isLive live below

end State

/-! ### The bond of disciplined states -/

def State.discipline : Bond Unit where
  ready _ s t := s = t ∧ s.isLive = true
  done _ s t := s = t ∧ s.isSettled = true
  text _ _ := True
  fault := Eq

theorem State.discipline_lawful : discipline.Lawful where
  done_of_ready := fun ⟨same, live⟩ => ⟨same, isSettled_of_isLive live⟩
  ready_of_ok := fun ⟨same, settled⟩ ok => ⟨same, by rwa [← isSettled_of_ok ok]⟩
  resumed := by
    rintro _ s _ ⟨rfl, settled⟩ failed
    obtain ⟨good, snapshot, live⟩ := (isSettled_of_failed failed).mp settled
    rw [snapshot]
    exact ⟨rfl, live⟩
  ok := fun ⟨same, _⟩ => congrArg State.ok same
  matched := fun ⟨same, _⟩ => ⟨congrArg State.matched same, trivial⟩
  value := fun ⟨same, _⟩ => congrArg State.value same
  remaining := fun ⟨same, _⟩ => congrArg State.remaining same
  noText := fun ⟨same, _⟩ => ⟨congrArg State.noText same, trivial⟩
  settle := by
    rintro _ s _ r _ ⟨rfl, -⟩ ⟨rfl, settled⟩
    exact ⟨rfl, by rwa [settle_of_isSettled settled]⟩
  withText := by
    rintro _ s _ v ⟨rfl, settled⟩ -
    exact ⟨rfl, settled⟩
  withValue := by
    rintro _ s _ v ⟨rfl, settled⟩
    exact ⟨rfl, settled⟩
  restore := by
    rintro _ s _ r _ ⟨rfl, -⟩ ⟨rfl, settled⟩
    exact ⟨rfl, settled⟩
  close := by
    rintro _ s _ u _ v b ⟨rfl, live⟩ ⟨rfl, last⟩ -
    exact ⟨rfl, settle_isSettled live (isLive_iff.mp last).2⟩
  fresh := by
    rintro _ s _ v ⟨rfl, -⟩
    exact ⟨rfl, rfl⟩
  cut := by
    rintro _ s _ full _ length ⟨rfl, live⟩ - - - -
    refine ⟨(), ⟨rfl, live⟩, ?_⟩
    rintro c _ ⟨rfl, -⟩ -
    exact ⟨rfl, isSettled_of_isLive (isLive_iff.mpr ⟨rfl, (isLive_iff.mp live).2⟩)⟩
  plus := fun _ _ _ => trivial
  misfit := fun _ _ _ => rfl
  complaint := fun _ => rfl
  signal := by
    rintro fault _ rfl
    cases fault with
    | signal raised => exact .inl ⟨raised, raised, rfl, rfl, rfl⟩
    | _ => exact .inr ⟨nofun, nofun⟩
  endsIteration := congrArg Fault.endsIteration
  interrupted := rfl

/-! ### The watch -/

namespace Parser

def isThrow : Parser → Bool
  | throws _ _ _ => true
  | _ => false

/-- Parsers are run on live states, or throw steps on settled ones, and leave settled states; an
alarm takes over where this is broken. -/
def disciplined (alarm : Action) : Watch := fun parser act s =>
  if s.isLive || (parser.isThrow && s.isSettled) then do
    let r ← act s
    if r.isSettled then return r else alarm r
  else alarm s

def KeepsSnapshot : Parser → Prop
  | step function => ∀ s t, function.apply s = .ok t → t.lastGood = s.lastGood
  | _ => True

variable {alarm : Action} {parser : Parser} {act act' : Action}

theorem disciplined_agrees {s : State}
    (allowed : (s.isLive || (parser.isThrow && s.isSettled)) = true)
    (h : (act s).Agree (State.discipline.done ()) Eq (act' s)) :
    (act s).Agree (State.discipline.done ()) Eq (disciplined alarm parser act' s) := by
  unfold disciplined
  rw [if_pos allowed, ← bind_pure (act s)]
  refine h.bind ?_
  rintro r _ ⟨rfl, settled⟩
  rw [if_pos settled]
  exact .pure ⟨rfl, settled⟩

theorem disciplined_keeps (h : Action.Keeps State.discipline act act') :
    Action.Keeps State.discipline act (disciplined alarm parser act') := by
  rintro i s _ ⟨rfl, live⟩
  exact disciplined_agrees (by rw [live, Bool.true_or]) (h i s s ⟨rfl, live⟩)

theorem yields_of_kept {body : Action}
    (kept : ∀ s r, s.isLive = true → (body s).outcome = .returned r → r.lastGood = s.lastGood) :
    Action.Yields State.discipline body body := by
  rintro i s _ ⟨rfl, live⟩
  refine Run.Agree.self (fun r run => ⟨rfl, ?_⟩) fun _ _ => rfl
  exact State.settle_isSettled live ((kept s r live run).trans (State.isLive_iff.mp live).2)

theorem throws_kept {kind : SignalKind} {msg : Option String} {trigger : Trigger} (s r : State)
    (run : (Action.throws kind msg trigger s).outcome = .returned r) :
    r.lastGood = s.lastGood := by
  rw [Action.throws_returned run]
  split <;> rfl

theorem step_kept {function : StepFunction}
    (keeps : ∀ s t, function.apply s = .ok t → t.lastGood = s.lastGood) (s r : State)
    (run : (function.call s).outcome = .returned r) : r.lastGood = s.lastGood :=
  keeps s r (Callback.call_returned_iff.mp run)

/-- A throw step on a settled failure raises its signal or leaves the state alone. -/
theorem throws_inspects {setting setting' : Setting} (throws : parser.isThrow = true) {s : State}
    (settled : s.isSettled = true) (failed : s.ok = false) :
    (parser.act setting s).Agree (State.discipline.done ()) Eq
      (parser.actUnder (disciplined alarm) setting' s) := by
  cases parser with
  | throws kind msg trigger =>
    refine disciplined_agrees (by rw [settled]; exact Bool.or_true _) ?_
    refine Run.Agree.self (fun r ran => ⟨rfl, ?_⟩) fun _ _ => rfl
    obtain ⟨t, run, same⟩ := Run.bind_returned_iff.mp ran
    rw [Action.throws_returned run, failed] at same
    obtain rfl := Run.pure_returned_iff.mp same
    show (s.settle s).isSettled = true
    rwa [State.settle_of_isSettled settled]
  | _ => cases throws

def Forwarding (g : Grammar) (forward forward' : Nat → String → Action) : Prop :=
  ∀ slot name, g.Throughout KeepsSnapshot (.forward slot name) →
    Action.Keeps State.discipline (forward slot name) (forward' slot name)

theorem part_disciplined {setting setting' : Setting}
    (h : Action.Keeps State.discipline (parser.act setting)
      (parser.actUnder (disciplined alarm) setting'))
    (inner : ∀ part ∈ parser.inner, Action.Keeps State.discipline (part.act setting)
      (part.actUnder (disciplined alarm) setting')) :
    Part.Keeps State.discipline (parser.part setting)
      (parser.partUnder (disciplined alarm) setting') where
  act := h
  traits := rfl
  lookahead := by
    unfold part partUnder
    cases parser with
    | lookahead mode parser => exact .some ⟨rfl, inner parser (.head _), fun _ => rfl⟩
    | _ => exact .none
  inspects := by
    rintro inspects i s _ ⟨rfl, settled⟩ failed
    refine throws_inspects ?_ settled failed
    cases parser with
    | throws => rfl
    | _ => cases inspects

/-- A parser and its parts are run on live states and leave settled ones. The parts are in the
statement since a lookahead runs its own part in the search of a chain. -/
theorem act_keeps_discipline {g : Grammar} {forward forward' : Nat → String → Action} (patience : Nat)
    (forwards : Forwarding g forward forward') (h : g.Throughout KeepsSnapshot parser) :
    Action.Keeps State.discipline (parser.act ⟨forward, patience⟩)
        (parser.actUnder (disciplined alarm) ⟨forward', patience⟩) ∧
      ∀ part ∈ parser.inner, Action.Keeps State.discipline (part.act ⟨forward, patience⟩)
        (part.actUnder (disciplined alarm) ⟨forward', patience⟩) := by
  have lawful := State.discipline_lawful
  induction parser using inner_induction with
  | step parser below =>
    have ih := fun part member => below part member (h.part member)
    have inner := fun part member => (ih part member).1
    refine ⟨?_, inner⟩
    have elementary : parser.isElementary = true →
        Action.Yields State.discipline (parser.body ⟨forward, patience⟩)
          (parser.body ⟨forward, patience⟩) :=
      fun elementary => yields_of_kept fun _ _ _ run => (body_moves elementary run).lastGood
    apply disciplined_keeps
    apply Bond.Lawful.settled
    cases parser with
    | base => exact fun _ _ _ _ => .raise rfl
    | literal | outcome | check | build | singleItem | itemRun | everything | endOfInput =>
      exact elementary rfl
    | throws kind msg trigger => exact yields_of_kept fun s r _ => throws_kept s r
    | step function => exact yields_of_kept fun s r _ => step_kept h.here s r
    | forward slot name => exact lawful.passed (forwards slot name h)
    | many least most parser => exact lawful.many _ least most (inner parser (.head _))
    | repeated test stopsWhenTrue parser =>
      exact lawful.repeated _ test stopsWhenTrue (inner parser (.head _))
    | absorb merge initial parser => exact lawful.absorb merge initial (inner parser (.head _))
    | morph transform parser =>
      exact lawful.morph (fun _ _ _ _ _ _ => trivial) (inner parser (.head _))
    | force parser =>
      refine lawful.force ?_ rfl (inner parser (.head _))
      rintro i r _ ⟨rfl, settled⟩
      cases moved : r.detach with
      | none => exact .none
      | some d => exact .some ⟨rfl, State.detach_isSettled settled moved⟩
    | noConsume parser => exact lawful.noConsume (inner parser (.head _))
    | noBuild parser => exact lawful.noBuild (inner parser (.head _))
    | oblivious parser | lookahead mode parser => exact lawful.passed (inner parser (.head _))
    | catches kinds main handler =>
      have first := inner main (.head _)
      cases handler with
      | none => exact lawful.catches kinds _ _ first lawful.failing
      | some handler =>
        exact lawful.catches kinds _ _ first (lawful.passed (inner handler (.tail _ (.head _))))
    | chain links =>
      intro i s t before
      unfold body bodyUnder
      rw [parts_eq_map, partsUnder_eq_map]
      refine Chain.act_keeps lawful (Link.map_keeps fun part member => ?_) before
      exact part_disciplined (ih part member).1 (ih part member).2
    | alternative first rest =>
      refine lawful.firstOf (inner first (.head _)) ?_
      rw [acts_eq_map, actsUnder_eq_map, List.forall₂_map_left_iff, List.forall₂_map_right_iff,
        List.forall₂_same]
      exact fun part member => inner part (.tail _ member)

end Parser

namespace Grammar

variable {g : Grammar} {parser : Parser} {alarm : Action}

theorem forward_disciplined (patience depth : Nat) :
    Parser.Forwarding g (g.forward patience depth)
      (g.forwardUnder (Parser.disciplined alarm) patience depth) := by
  -- Induction on how deep placeholders are still followed: a definition runs one level less deep.
  induction depth with
  | zero =>
    rintro slot name h i s _ ⟨rfl, -⟩
    unfold forwardUnder forward
    cases g.lookup slot with
    | none => exact .raise rfl
    | some parser => exact .exhausted
  | succ depth ih =>
    intro slot name h i s t before
    unfold forwardUnder forward
    cases found : g.lookup slot with
    | none => exact .raise rfl
    | some parser => exact (Parser.act_keeps_discipline patience ih (h.definition found)).1 i s t before

theorem act_settled (keeps : g.Throughout Parser.KeepsSnapshot parser) (granted : Granted)
    {s r : State} (live : s.isLive = true)
    (returned : (parser.act (g.setting granted) s).outcome = .returned r) : r.isSettled = true := by
  have same : (parser.act (g.setting granted) s).Agree (State.discipline.done ()) Eq
      (parser.actUnder (Parser.disciplined fun _ => Run.exhausted)
        (g.settingUnder (Parser.disciplined fun _ => Run.exhausted) granted) s) :=
    (Parser.act_keeps_discipline granted.patience (forward_disciplined _ _) keeps).1 () s s
      ⟨rfl, live⟩
  obtain ⟨_, -, -, settled⟩ := same.of_returned returned
  exact settled

/-- On a successful state without a snapshot, a parser whose own moves of the state leave snapshots
alone leaves a success without a snapshot, or a failure with a successful snapshot that carries none.
The same holds of all that runs in it: watched for a run that starts on anything but a successful
state without a snapshot, unless it is that of a throw step, and for one that leaves anything else
than just said, it makes the same calls and ends in the same way whatever the alarm. -/
theorem act_disciplined (keeps : g.Throughout Parser.KeepsSnapshot parser) (granted : Granted)
    {s : State} (ok : s.ok = true) (clean : s.lastGood = none) :
    (∀ r, (parser.act (g.setting granted) s).outcome = .returned r →
      (r.ok = true → r.lastGood = none) ∧
      (r.ok = false → ∃ good, r.lastGood = some good ∧ good.ok = true ∧ good.lastGood = none)) ∧
    ∀ alarm, (parser.act (g.setting granted) s).Agree Eq Eq
      (parser.actUnder (Parser.disciplined alarm)
        (g.settingUnder (Parser.disciplined alarm) granted) s) := by
  have same : ∀ alarm, (parser.act (g.setting granted) s).Agree (State.discipline.done ()) Eq
      (parser.actUnder (Parser.disciplined alarm)
        (g.settingUnder (Parser.disciplined alarm) granted) s) :=
    fun alarm => (Parser.act_keeps_discipline granted.patience (forward_disciplined _ _) keeps).1
      () s s ⟨rfl, State.isLive_iff.mpr ⟨ok, clean⟩⟩
  refine ⟨fun r returned => ?_, fun alarm => (same alarm).mono (fun _ _ => And.left) fun _ _ => id⟩
  obtain ⟨_, -, -, settled⟩ := (same fun _ => Run.exhausted).of_returned returned
  refine ⟨fun good => ?_, fun failed => ?_⟩
  · rw [State.isSettled_of_ok good] at settled
    exact (State.isLive_iff.mp settled).2
  · obtain ⟨snapshot, carried, live⟩ := (State.isSettled_of_failed failed).mp settled
    exact ⟨snapshot, carried, State.isLive_iff.mp live⟩

def skipping : Parser :=
  .chain [.item .append (.step ⟨none, none, fun s => .ok (s.advance 1)⟩),
    .item .append (.literal (.value (.ofString "b")) true),
    .item .append (.throws (.root "Found") none .onSuccess),
    .item .append (.oblivious .everything)]

theorem skipping_keepsSnapshot : empty.Throughout Parser.KeepsSnapshot skipping := by
  refine .of_closed [skipping, .step ⟨none, none, fun s => .ok (s.advance 1)⟩,
    .literal (.value (.ofString "b")) true, .throws (.root "Found") none .onSuccess,
    .oblivious .everything, .everything] ?_ ?_ ?_ (.head _)
  · have keeps : ∀ s t : State, (Except.ok (s.advance 1) : Except Complaint State) = .ok t →
        t.lastGood = s.lastGood := by
      rintro s _ ⟨⟩
      rfl
    simpa [Parser.KeepsSnapshot, skipping] using keeps
  · simp [Parser.inner, skipping, Link.item?]
  · simp [skipping]

theorem skipping_disciplined :
    ∃ s r : State, s.ok = true ∧ s.lastGood = none ∧ r.matched = .ofString "c" ∧
      (skipping.act (empty.setting ⟨0, 0⟩) s).outcome = .returned r ∧
      (r.ok = true → r.lastGood = none) ∧
      ∀ alarm, (skipping.act (empty.setting ⟨0, 0⟩) s).Agree Eq Eq
        (skipping.actUnder (Parser.disciplined alarm)
          (empty.settingUnder (Parser.disciplined alarm) ⟨0, 0⟩) s) := by
  have run : (skipping.act (empty.setting ⟨0, 0⟩)
        (.start (.text "ac".toList.toArray) .null)).outcome =
      .returned ⟨.text "ac".toList.toArray, 2, 2, .ofString "c", .null, true, none⟩ := by
    cbv
  obtain ⟨left, watched⟩ := act_disciplined (s := .start (.text "ac".toList.toArray) .null)
    skipping_keepsSnapshot ⟨0, 0⟩ rfl rfl
  exact ⟨_, _, rfl, rfl, rfl, run, (left _ run).1, watched⟩

end Grammar

end Catena
