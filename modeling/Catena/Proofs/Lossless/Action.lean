import Mathlib
import Catena.Proofs.Move
import Catena.Proofs.Rounds
import Catena.Proofs.Solution

/-!
# Actions that lose nothing

An action loses nothing if what a success has matched, before what it leaves, is what was left to
start with. Repetitions keep this up as an invariant of the text of their rounds.
-/

namespace Catena

variable {rest middle whole : Buffer} {text addition joined : Value}

/-! ### A text before a rest -/

def Value.Leads (text : Value) (rest whole : Buffer) : Prop :=
  text.plus? (.seq rest) = some (.seq whole)

theorem Value.leads_iff :
    text.Leads rest whole ↔ ∃ front, text = .seq front ∧ front.append? rest = some whole := by
  constructor
  · intro h
    cases text with
    | seq front =>
      obtain ⟨_, sum, same⟩ := Option.map_eq_some_iff.mp h
      cases same
      exact ⟨front, rfl, sum⟩
    | _ => simp [Leads, plus?] at h
  · rintro ⟨front, rfl, sum⟩
    exact Option.map_eq_some_iff.mpr ⟨whole, sum, rfl⟩

theorem Value.Leads.trans (first : text.Leads middle whole) (next : addition.Leads rest middle)
    (sum : text.plus? addition = some joined) : joined.Leads rest whole := by
  obtain ⟨a, rfl, before⟩ := leads_iff.mp first
  obtain ⟨b, rfl, behind⟩ := leads_iff.mp next
  obtain ⟨c, both, all⟩ := Sequence.append?_assoc before behind
  obtain ⟨d, same, rfl⟩ := Option.map_eq_some_iff.mp sum
  obtain rfl := Option.some.inj (both.symm.trans same)
  exact leads_iff.mpr ⟨c, rfl, all⟩

/-- A text before nothing is the whole. -/
theorem Value.Leads.eq_whole (h : text.Leads rest whole) (nothing : rest.length = 0) :
    text = .seq whole := by
  obtain ⟨front, rfl, sum⟩ := leads_iff.mp h
  cases front <;> cases rest <;>
    simp only [Sequence.append?, Option.some.injEq, reduceCtorEq] at sum <;> subst sum <;>
    simp [Array.eq_empty_of_size_eq_zero nothing]

namespace State

variable {s r : State}

theorem noText_leads (s : State) : s.noText.Leads s.unconsumed s.unconsumed :=
  Value.leads_iff.mpr
    ⟨_, rfl, Sequence.empty_append? (Sequence.kind_slice s.source s.pos s.limit).symm⟩

theorem slice_leads (inside : s.window.Inside) {stop : Int} (first : s.pos ≤ stop)
    (last : stop ≤ s.limit) :
    (Value.seq (s.source.slice s.pos stop)).Leads (s.source.slice stop s.limit) s.unconsumed :=
  Value.leads_iff.mpr ⟨_, rfl, Sequence.slice_append?_slice s.source inside.1 first last⟩

theorem advance_leads (inside : s.window.Inside) {count : Int} (nonneg : 0 ≤ count) :
    (s.advance count).matched.Leads (s.advance count).unconsumed s.unconsumed := by
  have order : s.pos ≤ s.limit := inside.2.1
  exact slice_leads inside (by omega) (Int.min_le_right _ _)

end State

/-! ### Actions that lose nothing -/

namespace Action

/-- What a success has matched, before what it leaves, is what was left. -/
def Lossless (act : Action) : Prop :=
  ∀ s r, s.Live → (act s).outcome = .returned r → r.ok = true →
    r.matched.Leads r.unconsumed s.unconsumed

variable {body act : Action} {s r : State}

theorem settled_lossless (h : Lossless body) : Lossless (.settled body) := by
  intro s r live run good
  obtain ⟨t, inner, settled⟩ := Run.bind_returned_iff.mp run
  obtain rfl := Run.pure_returned_iff.mp settled
  rw [State.settle_ok] at good
  rw [State.settle_of_ok good]
  exact h s t live inner good

theorem itemRun_lossless (test : ItemFunction) (stopsWhenTrue : Bool) :
    Lossless (.itemRun test true stopsWhenTrue) := by
  intro s r live run good
  obtain ⟨stop, next, later, bound, rfl⟩ :=
    itemRun_returned run (Window.remaining_nonneg live.inside)
  have taken : s.advance (next - s.pos) =
      s.advanceWith (next - s.pos) (.seq (s.source.slice s.pos next)) := by
    rw [State.advance, show min (s.pos + (next - s.pos)) s.limit = next by omega]
  rw [if_pos rfl, ← taken]
  exact State.advance_leads live.inside (by omega)

/-! ### Repetitions -/

theorem lossless_lasting (advances : body.Advances) (h : Lossless body) (whole : Buffer) :
    Lasting body fun rounds =>
      rounds.current.Live ∧ rounds.matched.Leads rounds.current.unconsumed whole := by
  rintro rounds result matched ⟨live, leads⟩ run good sum
  have next : result.Live := advances.live live run good
  exact ⟨next.withText matched, leads.trans (h _ result live run good) sum⟩

theorem many_lossless (patience : Nat) (least most : Int) (advances : body.Advances)
    (h : Lossless body) : Lossless (.many patience least most body) := by
  intro s r live run good
  obtain ⟨rounds, ⟨-, leads⟩, rfl⟩ :=
    many_returned (lossless_lasting advances h s.unconsumed) ⟨live, s.noText_leads⟩ run
  exact leads

theorem repeated_lossless (patience : Nat) (test : RoundFunction) (stopsWhenTrue : Bool)
    (advances : body.Advances) (h : Lossless body) :
    Lossless (.repeated patience test stopsWhenTrue body) := by
  intro s r live run good
  obtain ⟨rounds, ⟨-, leads⟩, rfl⟩ :=
    repeated_returned (lossless_lasting advances h s.unconsumed) ⟨live, s.noText_leads⟩ run
  exact leads

/-! ### Wrappers -/

theorem absorb_lossless (merge : MergeFunction) (initial : Value) (h : Lossless body) :
    Lossless (.absorb merge initial body) := by
  intro s r live run good
  obtain ⟨sub, inner, run⟩ := Run.bind_returned_iff.mp run
  by_cases ok : sub.ok = true
  · rw [if_neg (by simp [ok])] at run
    obtain ⟨value, -, run⟩ := Run.bind_returned_iff.mp run
    obtain rfl := Run.pure_returned_iff.mp run
    have fresh : State.Live { s with
        matched := s.noText, value := initial, ok := true, lastGood := none } :=
      ⟨live.inside, rfl, rfl⟩
    have leads := h _ sub fresh inner ok
    exact leads
  · rw [if_pos (by simpa using ok)] at run
    obtain rfl := Run.pure_returned_iff.mp run
    cases good

theorem force_lossless (h : Lossless body) : Lossless (.force body) := by
  intro s r live run good
  obtain ⟨t, inner, run⟩ := Run.bind_returned_iff.mp run
  obtain ⟨window, matched, -, ok⟩ := State.detach_some (Run.need_returned_iff.mp run)
  have unconsumed : r.unconsumed = t.unconsumed :=
    (congrArg Window.rest window).trans (Window.rest_fresh t.window)
  rw [matched, unconsumed]
  exact h s t live inner (ok ▸ good)

theorem noBuild_lossless (h : Lossless body) : Lossless (.noBuild body) := by
  intro s r live run good
  obtain ⟨t, inner, run⟩ := Run.bind_returned_iff.mp run
  obtain rfl := Run.pure_returned_iff.mp run
  exact h s t live inner good

theorem catches_lossless (kinds : List SignalKind) (shown : Thunk String) (h : Lossless body)
    (handler : Lossless act) : Lossless (.catches kinds shown body act) := by
  intro s r live run good
  obtain run | ⟨fault, y, -, taken, run⟩ := Run.rescue_returned run
  · exact h s r live run good
  · cases fault with
    | signal signal =>
      dsimp only at taken
      split at taken
      · obtain rfl := Option.some.inj taken
        rw [Run.bind_outcome rfl] at run
        exact handler s r live run good
      · cases taken
    | _ => cases taken

theorem firstOf_lossless {first : Action} {rest : List Action} (here : Lossless first)
    (later : ∀ act ∈ rest, Lossless act) : Lossless (.firstOf first rest) := by
  induction rest generalizing first with
  | nil => exact here
  | cons next rest ih =>
    obtain ⟨second, others⟩ := List.forall_mem_cons.mp later
    intro s r live run good
    obtain ⟨t, tries, run⟩ := Run.bind_returned_iff.mp run
    split at run
    · obtain rfl := Run.pure_returned_iff.mp run
      exact here s t live tries good
    · exact ih second others s r live run good

end Action

end Catena
