import Mathlib
import Catena.Proofs.Kind
import Catena.Proofs.Recovery
import Catena.Proofs.Rounds

/-!
# The laps of a repetition

A repetition between two bounds runs its parser in laps, each on what the one before has left, with
the text of all laps so far. `Parser.repetition_maximal`: if laps leave no more than they are given
and none is broken off, there is at most one lap more than there are items, the last one is the
first that fails, or that leaves as much as before, or that is the last one allowed, and what the
last success has left is the result. The exception is a lap whose text is of another kind than the
source, which no text can be joined with.
-/

namespace Catena

structure Lap where
  start : State
  result : State

def Lap.successes (laps : List Lap) : List Lap :=
  laps.filter (·.result.ok)

def Lap.Moving (lap : Lap) : Prop :=
  lap.result.ok = true ∧ lap.result.remaining ≠ lap.start.remaining

def State.lapText (s : State) (laps : List Lap) : Option Value :=
  ((Lap.successes laps).map (·.result.matched)).foldlM Value.plus? s.noText

theorem Lap.successes_of_moving {laps : List Lap} (moving : ∀ lap ∈ laps, lap.Moving) :
    successes laps = laps :=
  List.filter_eq_self.mpr fun lap member => (moving lap member).1

theorem State.lapText_success {s : State} {laps : List Lap} {lap : Lap} {text joined : Value}
    (before : s.lapText laps = some text) (good : lap.result.ok = true)
    (sum : text.plus? lap.result.matched = some joined) :
    s.lapText (laps ++ [lap]) = some joined := by
  unfold lapText Lap.successes at before ⊢
  rw [List.filter_append, List.map_append, List.foldlM_append, before]
  simpa [good] using sum

theorem State.lapText_failure {s : State} {laps : List Lap} {lap : Lap}
    (failed : lap.result.ok = false) : s.lapText (laps ++ [lap]) = s.lapText laps := by
  simp [lapText, Lap.successes, failed]

namespace Action

/-- A repetition goes on after some laps: there are fewer than the most allowed, if that is a bound,
and each of them has succeeded and changed how much is left. -/
def GoesOn (most : Int) (laps : List Lap) : Prop :=
  (0 ≤ most → laps.length < most) ∧ ∀ lap ∈ laps, lap.Moving

/-- Laps of a repetition that starts on a state, each made where the repetition goes on after those
before it. They lead to what the last success has left, with the text of all. -/
inductive Laps (act : Action) (most : Int) (s : State) : List Lap → State → Prop where
  | start : Laps act most s [] s
  | success {laps : List Lap} {t r : State} {text : Value} (before : Laps act most s laps t)
      (goesOn : GoesOn most laps) (run : (act t).outcome = .returned r) (good : r.ok = true)
      (joined : s.lapText (laps ++ [⟨t, r⟩]) = some text) :
      Laps act most s (laps ++ [⟨t, r⟩]) { r with matched := text }
  /-- A lap that fails leaves no trace. -/
  | failure {laps : List Lap} {t r : State} (before : Laps act most s laps t)
      (goesOn : GoesOn most laps) (run : (act t).outcome = .returned r) (failed : r.ok = false) :
      Laps act most s (laps ++ [⟨t, r⟩]) t

/-- From a successful state with its window inside its buffer, results lie inside their buffers, and
successes have no more left. -/
def Shrinks (act : Action) : Prop :=
  ∀ s r : State, s.ok = true → s.window.Inside → (act s).outcome = .returned r →
    r.window.Inside ∧ (r.ok = true → r.remaining ≤ s.remaining)

/-- Every lap of a repetition returns. -/
def Unbroken (act : Action) (most : Int) (s : State) : Prop :=
  ∀ laps t, Laps act most s laps t → GoesOn most laps → ∃ r, (act t).outcome = .returned r

def lapEvents (act : Action) (laps : List Lap) : List Event :=
  laps.flatMap fun lap => (act lap.start).events

/-! ### One lap -/

section Round

variable {body : Action} {proceed : State → Nat → Run Bool} {rounds : Rounds} {events : List Event}
  {r : State}

theorem round_failed (run : body rounds.current = ⟨events, .returned r⟩) (failed : r.ok = false) :
    round body proceed rounds = ⟨events, .returned (.done rounds)⟩ := by
  simp only [round, run, Run.bind_returned, failed, Bool.not_false, if_true, Run.pure_eq,
    List.append_nil]

theorem round_mistyped {kind : Kind} (text : rounds.matched.OfKind kind)
    (run : body rounds.current = ⟨events, .returned r⟩) (good : r.ok = true)
    (alien : rounds.matched.plus? r.matched = none) :
    round body proceed rounds = ⟨events, .raised (.defect .mistyped)⟩ := by
  obtain ⟨t, matched, -⟩ := text
  rw [matched] at alien
  simp only [round, run, Run.bind_returned, good, Bool.not_true, Bool.false_eq_true, if_false,
    matched, alien, Defect.ofSum_seq, Run.need, Run.raise, Run.bind_raised, List.append_nil]

theorem round_success {matched : Value} (run : body rounds.current = ⟨events, .returned r⟩)
    (good : r.ok = true) (sum : rounds.matched.plus? r.matched = some matched) :
    round body (fun _ _ => pure true) rounds = ⟨events, .returned
      (if r.remaining ≠ rounds.current.remaining then .yield (rounds.next r matched)
        else .done (rounds.next r matched))⟩ := by
  simp only [round, run, Run.bind_returned, good, Bool.not_true, Bool.false_eq_true, if_false,
    sum, Run.need, pure_bind, Bool.true_and, bne_iff_ne, Rounds.next]
  split <;> simp only [Run.pure_eq, List.append_nil]

end Round

/-! ### All laps -/

variable {act : Action} {most : Int} {s : State} {laps : List Lap} {rounds : Rounds}

structure Stands (act : Action) (most : Int) (s : State) (laps : List Lap) (rounds : Rounds) :
    Prop where
  ran : Laps act most s laps rounds.current
  moving : ∀ lap ∈ laps, lap.Moving
  text : s.lapText laps = some rounds.matched
  kind : rounds.matched.OfKind s.source.kind
  count : rounds.count = laps.length
  inside : rounds.current.window.Inside
  live : rounds.current.ok = true

inductive Ended (act : Action) (most : Int) (s : State) : List Lap → Outcome Rounds → Prop where
  | complete {laps : List Lap} {rounds : Rounds} (ran : Laps act most s laps rounds.current)
      (stops : ¬ GoesOn most laps) (text : s.lapText laps = some rounds.matched)
      (count : rounds.count = (Lap.successes laps).length) :
      Ended act most s laps (.returned rounds)
  | mistyped {laps : List Lap} {t r : State} (before : Laps act most s laps t)
      (goesOn : GoesOn most laps) (run : (act t).outcome = .returned r) (good : r.ok = true)
      (alien : ¬ r.matched.OfKind s.source.kind) :
      Ended act most s (laps ++ [⟨t, r⟩]) (.raised (.defect .mistyped))

theorem not_goesOn_append {lap : Lap} (still : ¬ lap.Moving) :
    ¬ GoesOn most (laps ++ [lap]) :=
  fun goesOn => still (goesOn.2 lap (by simp))

namespace Stands

variable (stands : Stands act most s laps rounds)
include stands

theorem failure (goesOn : GoesOn most laps) {r : State}
    (run : (act rounds.current).outcome = .returned r) (failed : r.ok = false) :
    Ended act most s (laps ++ [⟨rounds.current, r⟩]) (.returned rounds) := by
  refine .complete (.failure stands.ran goesOn run failed) (not_goesOn_append ?_) ?_ ?_
  · exact fun moving => absurd moving.1 (by simp [failed])
  · rw [State.lapText_failure failed, stands.text]
  · have before := Lap.successes_of_moving stands.moving
    unfold Lap.successes at before ⊢
    simp [before, failed, stands.count]

theorem success (goesOn : GoesOn most laps) {r : State}
    (run : (act rounds.current).outcome = .returned r) (good : r.ok = true) {matched : Value}
    (sum : rounds.matched.plus? r.matched = some matched) :
    Laps act most s (laps ++ [⟨rounds.current, r⟩]) (rounds.next r matched).current ∧
      s.lapText (laps ++ [⟨rounds.current, r⟩]) = some matched ∧
      (rounds.next r matched).count =
        (Lap.successes (laps ++ [⟨rounds.current, r⟩])).length := by
  have text : s.lapText (laps ++ [⟨rounds.current, r⟩]) = some matched :=
    State.lapText_success stands.text good sum
  refine ⟨.success stands.ran goesOn run good text, text, ?_⟩
  have before := Lap.successes_of_moving stands.moving
  unfold Lap.successes at before ⊢
  simp [before, good, Rounds.next, stands.count]

theorem next (shrinks : act.Shrinks) (goesOn : GoesOn most laps) {r : State}
    (run : (act rounds.current).outcome = .returned r) (good : r.ok = true) {matched : Value}
    (sum : rounds.matched.plus? r.matched = some matched)
    (moves : r.remaining ≠ rounds.current.remaining) :
    Stands act most s (laps ++ [⟨rounds.current, r⟩]) (rounds.next r matched) := by
  obtain ⟨ran, text, count⟩ := stands.success goesOn run good sum
  have moving : ∀ lap ∈ laps ++ [⟨rounds.current, r⟩], lap.Moving := by
    intro lap member
    obtain before | here := List.mem_append.mp member
    · exact stands.moving lap before
    · exact List.mem_singleton.mp here ▸ ⟨good, moves⟩
  exact {
    ran, moving, text, kind := stands.kind.of_plus sum
    count := by rw [count, Lap.successes_of_moving moving]
    inside := (shrinks _ r stands.live stands.inside run).1
    live := good }

/-- A lap that returns either leads on, with less left, or is the last one. -/
theorem lap (shrinks : act.Shrinks) (goesOn : GoesOn most laps) {r : State}
    (run : (act rounds.current).outcome = .returned r) :
    (∃ next, Stands act most s (laps ++ [⟨rounds.current, r⟩]) next ∧
      next.current.remaining < rounds.current.remaining ∧
      round act (fun _ _ => pure true) rounds =
        ⟨(act rounds.current).events, .returned (.yield next)⟩) ∨
    ∃ ended, Ended act most s (laps ++ [⟨rounds.current, r⟩]) ended ∧
      ∀ next, round act (fun _ _ => pure true) rounds >>= Run.goOn next =
        ⟨(act rounds.current).events, ended⟩ := by
  have whole : act rounds.current = ⟨(act rounds.current).events, .returned r⟩ := by rw [← run]
  have done : ∀ last, round act (fun _ _ => pure true) rounds =
      ⟨(act rounds.current).events, .returned (.done last)⟩ → ∀ next,
      round act (fun _ _ => pure true) rounds >>= Run.goOn next =
        ⟨(act rounds.current).events, .returned last⟩ := by
    intro last turn next
    rw [turn]
    simp only [Run.bind_returned, Run.goOn, Run.pure_eq, List.append_nil]
  cases good : r.ok with
  | false => exact .inr ⟨_, stands.failure goesOn run good, done _ (round_failed whole good)⟩
  | true =>
    cases sum : rounds.matched.plus? r.matched with
    | none =>
      refine .inr ⟨_, .mistyped stands.ran goesOn run good fun same => ?_, fun next => ?_⟩
      · obtain ⟨_, joined, -⟩ := stands.kind.plus same
        cases sum.symm.trans joined
      · rw [round_mistyped stands.kind whole good sum]
        rfl
    | some matched =>
      have turn := round_success whole good sum
      by_cases moves : r.remaining ≠ rounds.current.remaining
      · rw [if_pos moves] at turn
        have less : r.remaining ≤ rounds.current.remaining :=
          (shrinks _ r stands.live stands.inside run).2 good
        exact .inl ⟨_, stands.next shrinks goesOn run good sum moves,
          Int.lt_iff_le_and_ne.mpr ⟨less, moves⟩, turn⟩
      · rw [if_neg moves] at turn
        obtain ⟨ran, text, count⟩ := stands.success goesOn run good sum
        exact .inr ⟨_, .complete ran (not_goesOn_append fun moving => moves moving.2) text count,
          done _ turn⟩

end Stands

/-- The laps from where a repetition stands: they are at most one more than there are items, since
each but the last leaves less than the one before. -/
theorem loop_laps (shrinks : act.Shrinks) (unbroken : act.Unbroken most s)
    (spent : Rounds → Run Rounds) (left : Nat) (stands : Stands act most s laps rounds)
    (isOpen : most < 0 → rounds.current.remaining < left)
    (bounded : 0 ≤ most → (laps.length + left : Int) = most ∧ spent = pure) :
    ∃ later : List Lap,
      (repeatRounds act (fun _ _ => pure true) spent left rounds).events = lapEvents act later ∧
      (later.length : Int) ≤ rounds.current.remaining + 1 ∧
      Ended act most s (laps ++ later)
        (repeatRounds act (fun _ _ => pure true) spent left rounds).outcome := by
  unfold repeatRounds
  induction left generalizing laps rounds with
  | zero =>
    have some := Window.remaining_nonneg stands.inside
    have bound : 0 ≤ most := by
      by_contra none
      exact absurd (isOpen (by omega)) (Int.not_lt.mpr some)
    obtain ⟨full, rfl⟩ := bounded bound
    refine ⟨[], rfl, Int.add_nonneg some (by decide), ?_⟩
    rw [List.append_nil]
    refine .complete stands.ran (fun goesOn => ?_) stands.text ?_
    · have fewer := goesOn.1 bound
      simp only [Nat.cast_zero, add_zero] at full
      omega
    · rw [Lap.successes_of_moving stands.moving, stands.count]
  | succ left ih =>
    have goesOn : GoesOn most laps := by
      refine ⟨fun bound => ?_, stands.moving⟩
      have full := (bounded bound).1
      push_cast at full
      omega
    have some : 0 ≤ rounds.current.remaining := Window.remaining_nonneg stands.inside
    obtain ⟨r, run⟩ := unbroken laps rounds.current stands.ran goesOn
    rw [Run.loop_succ]
    obtain ⟨next, stands', less, turn⟩ | ⟨ended, ends, turn⟩ := stands.lap shrinks goesOn run
    · obtain ⟨later, events, few, ended⟩ := ih stands'
        (fun none => by
          have more := isOpen none
          push_cast at more
          omega)
        (fun bound => by
          obtain ⟨full, pure⟩ := bounded bound
          refine ⟨?_, pure⟩
          simp only [List.length_append, List.length_singleton]
          push_cast at full ⊢
          omega)
      rw [turn]
      refine ⟨⟨rounds.current, r⟩ :: later, ?_, ?_, ?_⟩
      · exact congrArg ((act rounds.current).events ++ ·) events
      · simp only [List.length_cons]
        push_cast
        omega
      · rw [List.append_cons]
        exact ended
    · rw [turn]
      refine ⟨[⟨rounds.current, r⟩], (List.append_nil _).symm, ?_, ends⟩
      simp only [List.length_singleton, Nat.cast_one]
      omega

theorem many_laps (least : Int) (shrinks : act.Shrinks) (unbroken : act.Unbroken most s)
    (live : s.ok = true) (inside : s.window.Inside) (patience : Nat) :
    ∃ (laps : List Lap) (ended : Outcome Rounds), (laps.length : Int) ≤ s.remaining + 1 ∧
      Ended act most s laps ended ∧
      many patience least most act s = ⟨lapEvents act laps, ended⟩ >>= fun rounds =>
        pure { rounds.current with matched := rounds.matched, ok := least ≤ rounds.count } := by
  have start : Stands act most s [] ⟨0, s.noText, s⟩ := {
    ran := .start, moving := nofun, text := rfl, count := rfl, inside, live
    kind := ⟨_, rfl, Sequence.kind_empty _⟩ }
  have some : 0 ≤ s.remaining := Window.remaining_nonneg inside
  unfold many
  by_cases isOpen : most < 0
  · obtain ⟨laps, events, few, ended⟩ := loop_laps shrinks unbroken
      (fun _ => Run.exhausted) (s.remaining.toNat + 1 + patience) start
      (fun _ => by dsimp only; omega) (fun bound => absurd isOpen (Int.not_lt.mpr bound))
    refine ⟨laps, _, few, ended, ?_⟩
    rw [if_pos isOpen, ← events]
    rfl
  · obtain ⟨laps, events, few, ended⟩ := loop_laps shrinks unbroken
      pure most.toNat start (fun none => absurd none isOpen)
      (fun bound => ⟨by simp [bound], rfl⟩)
    refine ⟨laps, _, few, ended, ?_⟩
    rw [if_neg isOpen, ← events]

/-! ### Actions that shrink -/

theorem literal_shrinks (text : Plain) (caseSensitive : Bool) :
    Shrinks (literal text caseSensitive) := by
  rintro s r - inside run
  obtain rfl | ⟨length, rfl⟩ := literal_returned run
  · exact ⟨inside, fun good => by cases good⟩
  · have some : 0 ≤ s.remaining := Window.remaining_nonneg inside
    have count : (0 : Int) ≤ min (length : Int) s.remaining := by omega
    rw [State.advance, State.Alike.window_advanceWith]
    refine ⟨Window.inside_skip inside count (Int.min_le_right _ _), fun _ => ?_⟩
    simp only [State.advanceWith, State.remaining] at some ⊢
    omega

theorem Shrinks.settled {body : Action} (h : Shrinks body) : Shrinks (settled body) := by
  intro s r live inside run
  obtain ⟨t, inner, settled⟩ := Run.bind_returned_iff.mp run
  obtain rfl := Run.pure_returned_iff.mp settled
  obtain ⟨within, less⟩ := h s t live inside inner
  have same := State.settle_window s t
  rw [same, State.settle_ok]
  exact ⟨within, fun good => (congrArg Window.remaining same).trans_le (less good)⟩

theorem Shrinks.morph {body : Action} (transform : TransformFunction) (h : Shrinks body) :
    Shrinks (morph transform body) := by
  intro s r live inside run
  obtain ⟨t, run, rest⟩ := Run.bind_returned_iff.mp run
  obtain ⟨within, less⟩ := h s t live inside run
  split at rest
  · obtain rfl := Run.pure_returned_iff.mp rest
    exact ⟨within, less⟩
  · obtain ⟨text, -, rest⟩ := Run.bind_returned_iff.mp rest
    split at rest <;> obtain rfl := Run.pure_returned_iff.mp rest
    · exact ⟨within, less⟩
    · exact ⟨within, less⟩

end Action

/-! ### Repetitions as parsers -/

namespace Parser

/-- A repetition of a parser that leaves no more than it is given, and is broken off in no lap, makes
at most one lap more than there are items. It makes a lap wherever all laps so far have
succeeded and changed how much is left, and are fewer than the most allowed; and there it ends, with
what the last success has left and the text of all, successful if they are no fewer than the least
asked for. Only a lap whose text is of another kind than the source ends it before, in a defect. -/
theorem repetition_maximal {setting : Setting} {parser : Parser} {s : State} (least most : Int)
    (shrinks : (parser.act setting).Shrinks) (live : s.ok = true) (inside : s.window.Inside)
    (unbroken : (parser.act setting).Unbroken most s) :
    ∃ laps : List Lap, (laps.length : Int) ≤ s.remaining + 1 ∧
      ((many least most parser).act setting s).events = (parser.act setting).lapEvents laps ∧
      ((∃ t text r, Action.Laps (parser.act setting) most s laps t ∧
          ¬ Action.GoesOn most laps ∧ s.lapText laps = some text ∧
          ((many least most parser).act setting s).outcome = .returned r ∧
          (r.ok = true ↔ least ≤ (Lap.successes laps).length) ∧ r.source = t.source ∧
          r.pos = t.pos ∧ r.limit = t.limit ∧ r.value = t.value ∧ r.matched = text) ∨
        ∃ before t r, laps = before ++ [⟨t, r⟩] ∧ Action.Laps (parser.act setting) most s before t ∧
          Action.GoesOn most before ∧ (parser.act setting t).outcome = .returned r ∧ r.ok = true ∧
          ¬ r.matched.OfKind s.source.kind ∧
          ((many least most parser).act setting s).outcome = .raised (.defect .mistyped)) := by
  obtain ⟨laps, ended, few, ends, same⟩ :=
    Action.many_laps least shrinks unbroken live inside setting.patience
  have whole : (many least most parser).act setting s =
      (⟨(parser.act setting).lapEvents laps, ended⟩ >>= fun rounds =>
        pure { rounds.current with matched := rounds.matched, ok := least ≤ rounds.count }) >>=
        fun t => pure (s.settle t) := congrArg (· >>= fun t => pure (s.settle t)) same
  rw [whole]
  refine ⟨laps, few, ?_⟩
  cases ends with
  | @complete _ rounds ran stops text count =>
    refine ⟨?_, .inl ⟨_, _, _, ran, stops, text, rfl, ?_⟩⟩
    · exact (List.append_nil _).trans (List.append_nil _)
    · obtain ⟨good, same⟩ := State.settle_eq s
        { rounds.current with matched := rounds.matched, ok := least ≤ rounds.count }
      rw [same, ← count]
      exact ⟨decide_eq_true_iff, rfl, rfl, rfl, rfl, rfl⟩
  | mistyped before goesOn run good alien =>
    exact ⟨rfl, .inr ⟨_, _, _, rfl, before, goesOn, run, good, alien, rfl⟩⟩

theorem literal_returns (setting : Setting) (text : Buffer) (s : State) :
    ∃ r, ((literal (.value (.seq text)) true).act setting s).outcome = .returned r :=
  ⟨_, Action.settled_of_pure (Action.literal_seq text s)⟩

def sign : Parser :=
  .literal (.value (.ofString "a")) true

theorem sign_returns (setting : Setting) (s : State) :
    ∃ r, (sign.act setting s).outcome = .returned r :=
  literal_returns setting _ s

theorem sign_shrinks (setting : Setting) : (sign.act setting).Shrinks :=
  (Action.literal_shrinks _ _).settled

/-- Two signs are matched in three laps, the last of which fails on what is no sign. -/
theorem signs_repetition :
    ∃ (s r : State) (laps : List Lap) (t : State), s.remaining = 3 ∧ (laps.length : Int) ≤ 4 ∧
      ((many 1 (-1) sign).act (Grammar.empty.setting ⟨0, 0⟩) s).outcome = .returned r ∧
      r.ok = true ∧ r.matched = .ofString "aa" ∧ r.pos = 2 ∧
      Action.Laps (sign.act (Grammar.empty.setting ⟨0, 0⟩)) (-1) s laps t ∧ r.pos = t.pos ∧
      s.lapText laps = some r.matched ∧ 1 ≤ (Lap.successes laps).length := by
  have run : ((many 1 (-1) sign).act (Grammar.empty.setting ⟨0, 0⟩)
        (.start (.text "aab".toList.toArray) .null)).outcome =
      .returned ⟨.text "aab".toList.toArray, 2, 3, .ofString "aa", .null, true, none⟩ := by
    cbv
  obtain ⟨laps, few, -, ⟨t, text, r, ran, -, joined, returned, least, -, pos, -, -, matched⟩ |
      ⟨_, _, _, -, -, -, -, -, -, raised⟩⟩ :=
    repetition_maximal (s := .start (.text "aab".toList.toArray) .null) 1 (-1) (sign_shrinks _)
      rfl ⟨by decide, by decide, by decide⟩
      fun _ t _ _ => sign_returns (Grammar.empty.setting ⟨0, 0⟩) t
  · obtain rfl := Outcome.returned.inj (run.symm.trans returned)
    refine ⟨_, _, laps, t, rfl, few, run, rfl, rfl, rfl, ran, pos, ?_, ?_⟩
    · rw [joined, matched]
    · exact_mod_cast least.mp rfl
  · cases run.symm.trans raised

def listedSign : Parser :=
  .morph ⟨none, none, fun _ => .ok (.ofList [.int 1])⟩ sign

theorem listedSign_returns (setting : Setting) (s : State) :
    ∃ r, (listedSign.act setting s).outcome = .returned r := by
  obtain ⟨t, run⟩ := sign_returns setting s
  have inner : ∃ r, (listedSign.body setting s).outcome = .returned r := by
    cases good : t.ok with
    | true =>
      refine ⟨{ t with matched := .ofList [.int 1] }, (Run.bind_outcome run _).trans ?_⟩
      rw [if_neg (by simp [good])]
      rfl
    | false =>
      refine ⟨t, (Run.bind_outcome run _).trans ?_⟩
      rw [if_pos (by simp [good])]
      rfl
  obtain ⟨r, inner⟩ := inner
  exact ⟨_, Run.bind_outcome inner _⟩

/-- A lap that succeeds may have matched what no text of the source's kind can be joined with, and
then the repetition comes to no result, though its parser returns wherever it is run. -/
theorem listed_laps_break_off :
    endOn listedSign "a" =
        .returned ⟨.text "a".toList.toArray, 1, 1, .ofList [.int 1], .null, true, none⟩ ∧
      endOn (many 0 1 listedSign) "a" = .raised (.defect .mistyped) ∧
      ¬ ∀ (setting : Setting) (parser : Parser) (least most : Int) (s : State),
        (parser.act setting).Shrinks → s.ok = true → s.window.Inside →
        (parser.act setting).Unbroken most s →
          ∃ r, ((many least most parser).act setting s).outcome = .returned r := by
  refine ⟨by cbv, by cbv, fun claim => ?_⟩
  obtain ⟨r, returned⟩ := claim (Grammar.empty.setting ⟨0, 0⟩) listedSign 0 1
    (.start (.text "a".toList.toArray) .null)
    ((Action.literal_shrinks _ _).settled.morph _).settled rfl ⟨by decide, by decide, by decide⟩
    fun _ t _ _ => listedSign_returns _ t
  have raised : ((many 0 1 listedSign).act (Grammar.empty.setting ⟨0, 0⟩)
      (.start (.text "a".toList.toArray) .null)).outcome = .raised (.defect .mistyped) := by cbv
  cases raised.symm.trans returned

end Parser

end Catena
