import Mathlib
import Catena.Vocabulary
import Catena.Proofs.Agreement
import Catena.Proofs.Rollback

/-!
# Stopped signals

A parser that stops signals gives everything back where it stops one, and is as good as several
parsers that stop one kind each: `Parser.catches_atomic`. All that decides is whether the parser
inside ends in a signal of the kinds, `Outcome.stopped?`.
-/

namespace Catena

/-! ### Signals of some kinds -/

namespace Outcome

def stopped? (kinds : List SignalKind) : Outcome State → Option Signal
  | .raised (.signal signal) => if kinds.any signal.kind.isA then some signal else none
  | _ => none

/-- The end of a run, or another one if it is a signal of one of the kinds. -/
def stopping (outcome : Outcome State) (kinds : List SignalKind) (instead : Outcome State) :
    Outcome State :=
  match outcome.stopped? kinds with
  | some _ => instead
  | none => outcome

variable {kinds order : List SignalKind} {outcome : Outcome State} {signal : Signal}

theorem stopped?_eq_some_iff : outcome.stopped? kinds = some signal ↔
    outcome = .raised (.signal signal) ∧ ∃ kind ∈ kinds, signal.kind.isA kind = true := by
  rcases outcome with r | (raised | _ | _ | _) | _
  case raised.signal =>
    simp only [stopped?, Option.ite_none_right_eq_some, List.any_eq_true, Option.some.injEq,
      Outcome.raised.injEq, Fault.signal.injEq]
    constructor
    · rintro ⟨stops, rfl⟩
      exact ⟨rfl, stops⟩
    · rintro ⟨rfl, stops⟩
      exact ⟨stops, rfl⟩
  all_goals exact ⟨nofun, nofun⟩

/-- Which kinds are stopped does not depend on their order, nor on how often they are given. -/
theorem stopped?_congr (same : ∀ kind, kind ∈ order ↔ kind ∈ kinds) :
    outcome.stopped? order = outcome.stopped? kinds := by
  refine Option.ext fun signal => ?_
  rw [stopped?_eq_some_iff, stopped?_eq_some_iff]
  simp only [same]

theorem stopped?_cons (kind : SignalKind) (kinds : List SignalKind) :
    outcome.stopped? (kind :: kinds) = (outcome.stopped? [kind]).or (outcome.stopped? kinds) := by
  rcases outcome with r | (raised | _ | _ | _) | _
  case raised.signal =>
    by_cases here : raised.kind.isA kind = true <;>
      by_cases later : kinds.any raised.kind.isA = true <;> simp [stopped?, here, later]
  all_goals rfl

theorem stopping_nil (instead : Outcome State) : outcome.stopping [] instead = outcome := by
  have none : outcome.stopped? [] = none := by
    rw [Option.eq_none_iff_forall_ne_some]
    rintro signal some
    obtain ⟨-, kind, member, -⟩ := stopped?_eq_some_iff.mp some
    cases member
  simp only [stopping, none]

/-- Where the ends put in place are the same and no signals, the kinds add up. -/
theorem stopping_stopping (kind : SignalKind) (kinds : List SignalKind) (r : State) :
    (outcome.stopping kinds (.returned r)).stopping [kind] (.returned r) =
      outcome.stopping (kind :: kinds) (.returned r) := by
  unfold stopping
  rw [stopped?_cons kind kinds]
  cases outcome.stopped? kinds with
  | some signal => cases outcome.stopped? [kind] <;> rfl
  | none => rw [Option.or_none]

theorem stopped?_eq_none_iff : outcome.stopped? kinds = none ↔
    ∀ signal, outcome = .raised (.signal signal) →
      ∀ kind ∈ kinds, signal.kind.isA kind = false := by
  rw [Option.eq_none_iff_forall_ne_some]
  refine forall_congr' fun signal => ?_
  rw [ne_eq, stopped?_eq_some_iff, not_and]
  refine imp_congr_right fun _ => ?_
  simp only [not_exists, not_and, Bool.not_eq_true]

theorem stopping_stopped (instead : Outcome State) {kind : SignalKind} (member : kind ∈ kinds)
    (isA : signal.kind.isA kind = true) :
    (raised (.signal signal)).stopping kinds instead = instead := by
  have some : (raised (.signal signal)).stopped? kinds = some signal :=
    stopped?_eq_some_iff.mpr ⟨rfl, kind, member, isA⟩
  simp only [stopping, some]

theorem stopping_raised_iff (r : State) :
    outcome.stopping kinds (.returned r) = .raised (.signal signal) ↔
      outcome = .raised (.signal signal) ∧ ∀ kind ∈ kinds, signal.kind.isA kind = false := by
  unfold stopping
  cases stops : outcome.stopped? kinds with
  | some other =>
    obtain ⟨rfl, kind, member, isA⟩ := stopped?_eq_some_iff.mp stops
    refine ⟨nofun, ?_⟩
    rintro ⟨same, passes⟩
    obtain rfl := Fault.signal.inj (raised.inj same)
    exact absurd isA (by simp [passes kind member])
  | none =>
    exact ⟨fun ends => ⟨ends, stopped?_eq_none_iff.mp stops signal ends⟩, fun ends => ends.1⟩

theorem stopping_raised_other (r : State) {fault : Fault}
    (other : ∀ signal, fault ≠ .signal signal) :
    outcome.stopping kinds (.returned r) = .raised fault ↔ outcome = .raised fault := by
  unfold stopping
  cases stops : outcome.stopped? kinds with
  | some signal =>
    obtain ⟨rfl, -⟩ := stopped?_eq_some_iff.mp stops
    exact ⟨nofun, fun same => absurd (raised.inj same).symm (other signal)⟩
  | none => exact Iff.rfl

end Outcome

/-! ### Actions that stop signals -/

namespace Action

variable {kinds : List SignalKind} {shown : Thunk String} {body handler : Action} {s : State}

theorem catches_of_some {signal : Signal}
    (stops : (body s).outcome.stopped? kinds = some signal) :
    catches kinds shown body handler s =
      ⟨(body s).events ++ .intercepted signal.kind.name shown s.pos :: (handler s).events,
        (handler s).outcome⟩ := by
  obtain ⟨raised, taken⟩ := Outcome.stopped?_eq_some_iff.mp stops
  unfold catches
  rcases run : body s with ⟨events, outcome⟩
  rw [run] at raised
  obtain rfl := raised
  simp only [Run.rescue, if_pos (List.any_eq_true.mpr taken)]
  rfl

theorem catches_of_none (passes : (body s).outcome.stopped? kinds = none) :
    catches kinds shown body handler s = body s := by
  unfold catches
  rcases run : body s with ⟨events, r | (signal | _ | _ | _) | _⟩
  case raised.signal =>
    rw [run] at passes
    have other : ¬ kinds.any signal.kind.isA = true := by
      rintro taken
      simp only [Outcome.stopped?, if_pos taken] at passes
      cases passes
    exact Run.rescue_none (if_neg other)
  all_goals rfl

theorem catches_outcome : (catches kinds shown body handler s).outcome =
    (body s).outcome.stopping kinds (handler s).outcome := by
  unfold Outcome.stopping
  cases stops : (body s).outcome.stopped? kinds with
  | some signal => rw [catches_of_some stops]
  | none => rw [catches_of_none stops]

def rollBack : Action :=
  .settled fun s => return s.failed

theorem catches_calls : callsOf (catches kinds shown body rollBack s).events =
    callsOf (body s).events := by
  cases stops : (body s).outcome.stopped? kinds with
  | some signal =>
    rw [catches_of_some stops, callsOf_append]
    exact List.append_nil _
  | none => rw [catches_of_none stops]

theorem settled_catches (here : settled body = body) :
    settled (catches kinds shown body handler) = catches kinds shown body (settled handler) := by
  funext s
  cases stops : (body s).outcome.stopped? kinds with
  | some signal =>
    rw [catches_of_some stops, settled, catches_of_some stops]
    rcases run : handler s with ⟨later, r | fault | _⟩ <;>
      simp only [settled, run, Run.bind_returned, Run.bind_raised, Run.bind_exhausted, Run.pure_eq,
        List.append_nil]
  | none =>
    have same := congrFun here s
    simp only [settled] at same ⊢
    rw [catches_of_none stops, catches_of_none stops, same]

end Action

/-! ### Parsers that stop signals -/

namespace Parser

/-- Stops each kind by a parser of its own, the first kind outermost. -/
def catchesEach (kinds : List SignalKind) (parser : Parser) : Parser :=
  kinds.foldr (fun kind inner => catches [kind] inner none) parser

variable {setting : Setting} {parser : Parser} {kinds order : List SignalKind} {s : State}

theorem catches_act (kinds : List SignalKind) (parser : Parser) :
    (catches kinds parser none).act setting =
      .catches kinds parser.shown (parser.act setting) .rollBack :=
  Action.settled_catches (settled_act setting parser)

theorem catches_handler_act (kinds : List SignalKind) (parser handler : Parser) :
    (catches kinds parser (some handler)).act setting =
      .catches kinds parser.shown (parser.act setting) (handler.act setting) := by
  have outer : (catches kinds parser (some handler)).act setting =
      .catches kinds parser.shown (parser.act setting) (.settled (handler.act setting)) :=
    Action.settled_catches (settled_act setting parser)
  rw [outer, settled_act]

theorem catchesEach_outcome (kinds : List SignalKind) :
    ((catchesEach kinds parser).act setting s).outcome =
      (parser.act setting s).outcome.stopping kinds (Action.rollBack s).outcome := by
  induction kinds with
  | nil => exact (Outcome.stopping_nil _).symm
  | cons kind kinds ih =>
    rw [catchesEach, List.foldr_cons, catches_act, Action.catches_outcome]
    exact (congrArg (Outcome.stopping · _ _) ih).trans (Outcome.stopping_stopping _ _ _)

theorem catchesEach_calls (kinds : List SignalKind) :
    callsOf ((catchesEach kinds parser).act setting s).events =
      callsOf (parser.act setting s).events := by
  induction kinds with
  | nil => rfl
  | cons kind kinds ih =>
    rw [catchesEach, List.foldr_cons, catches_act, Action.catches_calls]
    exact ih

/-- A parser that stops signals of some kinds does so atomically, on a successful state without a
snapshot. It ends like parsers that stop one of the kinds each, nested in any order, and with the
same calls. It raises the signals that the parser inside raises if they are of none of the kinds,
raises all its other faults and returns its results; for any other signal it gives everything back,
with the state itself for the last good one, or does what a handler does on that state. -/
theorem catches_atomic (live : s.ok = true) (clean : s.lastGood = none)
    (same : ∀ kind, kind ∈ order ↔ kind ∈ kinds) :
    (((catches kinds parser none).act setting s).outcome =
        ((catchesEach order parser).act setting s).outcome ∧
      callsOf ((catches kinds parser none).act setting s).events =
        callsOf ((catchesEach order parser).act setting s).events) ∧
    (∀ signal, ((catches kinds parser none).act setting s).outcome = .raised (.signal signal) ↔
      (parser.act setting s).outcome = .raised (.signal signal) ∧
        ∀ kind ∈ kinds, signal.kind.isA kind = false) ∧
    (∀ fault, (∀ signal, fault ≠ .signal signal) →
      (((catches kinds parser none).act setting s).outcome = .raised fault ↔
        (parser.act setting s).outcome = .raised fault)) ∧
    (∀ r, (parser.act setting s).outcome = .returned r →
      ((catches kinds parser none).act setting s).outcome = .returned r) ∧
    ((parser.act setting s).outcome = .exhausted →
      ((catches kinds parser none).act setting s).outcome = .exhausted) ∧
    ∀ signal kind, (parser.act setting s).outcome = .raised (.signal signal) → kind ∈ kinds →
      signal.kind.isA kind = true →
      ((catches kinds parser none).act setting s).outcome = .returned s.rolledBack ∧
      ∀ handler,
        ((catches kinds parser (some handler)).act setting s).outcome =
          (handler.act setting s).outcome ∧
        callsOf ((catches kinds parser (some handler)).act setting s).events =
          callsOf (parser.act setting s).events ++ callsOf (handler.act setting s).events := by
  have back : (Action.rollBack s).outcome = .returned s.rolledBack :=
    congrArg Outcome.returned (State.settle_failed live clean)
  have ends : ((catches kinds parser none).act setting s).outcome =
      (parser.act setting s).outcome.stopping kinds (.returned s.rolledBack) := by
    rw [catches_act, Action.catches_outcome, back]
  rw [ends]
  refine ⟨⟨?_, ?_⟩, fun signal => Outcome.stopping_raised_iff _,
    fun fault other => Outcome.stopping_raised_other _ other, ?_, ?_, ?_⟩
  · rw [catchesEach_outcome, back]
    unfold Outcome.stopping
    rw [Outcome.stopped?_congr same]
  · rw [catchesEach_calls, catches_act, Action.catches_calls]
  · intro r returned
    rw [returned]
    rfl
  · intro cut
    rw [cut]
    rfl
  · intro signal kind raised member isA
    have stops : (parser.act setting s).outcome.stopped? kinds = some signal :=
      Outcome.stopped?_eq_some_iff.mpr ⟨raised, kind, member, isA⟩
    rw [raised, Outcome.stopping_stopped _ member isA]
    refine ⟨rfl, fun handler => ?_⟩
    rw [catches_handler_act, Action.catches_of_some stops]
    exact ⟨rfl, callsOf_append _ _⟩

open Vocabulary (invalid subInvalid other)

def objected : Parser :=
  .chain [.item .append (.literal (.value (.ofString "a")) true),
    .build ⟨none, some "count", fun _ => .ok (.int 99)⟩,
    .item .append (.throws subInvalid none .always)]

/-- The objection is stopped by the kind above its own, whichever parser stops that, and neither the
sign nor its value is left. -/
theorem objected_stopped :
    ∃ s : State, s.ok = true ∧ s.lastGood = none ∧
      (∃ signal, (objected.act (Grammar.empty.setting ⟨0, 0⟩) s).outcome =
        .raised (.signal signal) ∧ signal.kind = subInvalid) ∧
      (∀ kind, kind ∈ [invalid, other] ↔ kind ∈ [other, invalid]) ∧
      ((catchesEach [invalid, other] objected).act (Grammar.empty.setting ⟨0, 0⟩) s).outcome =
        .returned s.rolledBack := by
  let s : State := .start (.text "ab".toList.toArray) .null
  have same : ∀ kind, kind ∈ [invalid, other] ↔ kind ∈ [other, invalid] := by
    intro kind
    simp only [List.mem_cons, List.not_mem_nil, or_false]
    exact Or.comm
  obtain ⟨⟨nested, -⟩, -, -, -, -, stopped⟩ := @catches_atomic
    (Grammar.empty.setting ⟨0, 0⟩) objected [other, invalid] [invalid, other] s rfl rfl same
  have raised : (objected.act (Grammar.empty.setting ⟨0, 0⟩) s).outcome =
      .raised (.signal ⟨subInvalid, none,
        some ⟨.text "ab".toList.toArray, 1, 2, .ofString "a", .int 99, true, none⟩,
        ["At position 1 (line 1, column 2)\nab\n ^"]⟩) := by
    cbv
  refine ⟨s, rfl, rfl, ⟨_, raised, rfl⟩, same, nested.symm.trans ?_⟩
  exact (stopped _ invalid raised (.tail _ (.head _)) (by decide)).1

end Parser

end Catena
