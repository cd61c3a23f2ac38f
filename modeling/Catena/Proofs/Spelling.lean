import Mathlib
import Catena.Proofs.Detachment
import Catena.Proofs.ItemRuns

/-!
# Texts in a row

A parser of a text looks whether what is left begins with it. One text and then another are looked
for as the text that joins them is, and so is a text a number of times over: `Parser.texts_join`.
-/

namespace Catena

namespace Value

theorem sameItems_append {as bs cs ds : List Value} (lengths : as.length = bs.length) :
    sameItems (as ++ cs) (bs ++ ds) = (sameItems as bs && sameItems cs ds) := by
  induction as generalizing bs with
  | nil =>
    obtain rfl := List.length_eq_zero_iff.mp lengths.symm
    simp [sameItems]
  | cons a as ih =>
    cases bs with
    | nil => cases lengths
    | cons b bs =>
      simp only [List.cons_append, sameItems, ih (Nat.succ.inj lengths), Bool.and_assoc]

theorem sameSequence_append {front back whole a b ab : Buffer}
    (joined : front.append? back = some whole) (sum : a.append? b = some ab)
    (lengths : front.length = a.length) :
    sameSequence whole ab = (sameSequence front a && sameSequence back b) := by
  have parts : ∀ {β : Type} [BEq β] [LawfulBEq β] (xs ys us vs : Array β), xs.size = us.size →
      (xs ++ ys == us ++ vs) = (xs == us && ys == vs) := by
    intro β _ _ xs ys us vs size
    rw [Bool.eq_iff_iff, Bool.and_eq_true, beq_iff_eq, beq_iff_eq, beq_iff_eq]
    exact ⟨fun same => ⟨Array.append_inj_left same size, Array.append_inj_right same size⟩,
      fun ⟨left, right⟩ => by rw [left, right]⟩
  cases front <;> cases back <;> cases joined <;> cases a <;> cases b <;> cases sum <;>
    simp only [sameSequence, Bool.false_and]
  · exact parts _ _ _ _ lengths
  · exact parts _ _ _ _ lengths
  next xs ys us vs =>
    have apart : sameItems (xs.toList ++ ys.toList) (us.toList ++ vs.toList) =
        (sameItems xs.toList us.toList && sameItems ys.toList vs.toList) := sameItems_append lengths
    rwa [← Array.toList_append, ← Array.toList_append] at apart

end Value

namespace Sequence

def BeginsWith (whole text : Buffer) : Prop :=
  ∃ front back : Buffer, front.append? back = some whole ∧ Value.sameSequence front text = true

variable {α : Type}

theorem replicate_succ (s : Sequence α) (n : Nat) :
    (s.replicate n).append? s = some (s.replicate (n + 1)) := by
  cases s <;> rfl

theorem length_replicate (s : Sequence α) (n : Nat) : (s.replicate n).length = n * s.length := by
  induction n with
  | zero =>
    rw [Nat.zero_mul]
    cases s <;> rfl
  | succ n ih => rw [length_of_append? (s.replicate_succ n), ih, Nat.succ_mul]

end Sequence

namespace State

variable {s t r : State} {a b ab text kept : Buffer}

def behind (s : State) (text : Buffer) : State :=
  s.upTo (s.pos + text.length)

theorem startsWith_congr (window : s.window = t.window) :
    s.StartsWith text ↔ t.StartsWith text := by
  obtain ⟨source, pos, limit⟩ := Window.mk.inj window
  unfold StartsWith hasItems
  rw [source, pos, limit]

theorem StartsWith.fits (h : s.StartsWith text) : s.pos + text.length ≤ s.limit := by
  simpa [hasItems] using h.1

theorem startsWith_iff (inside : s.window.Inside) :
    s.StartsWith text ↔ s.unconsumed.BeginsWith text := by
  have first : 0 ≤ s.pos := inside.1
  constructor
  · intro starts
    have fits := starts.fits
    exact ⟨_, _, Sequence.slice_append?_slice s.source first (by omega) fits, starts.2⟩
  · rintro ⟨front, back, joined, same⟩
    have whole : (s.unconsumed.length : Int) = s.limit - s.pos := Window.length_rest inside
    have length := Value.length_of_sameSequence same
    have parts := Sequence.length_of_append? joined
    have bound : s.pos + text.length ≤ s.limit := by omega
    have here : front = s.source.slice s.pos (s.pos + text.length) := by
      rw [(Sequence.eq_slice_of_append? joined).1, length, unconsumed,
        Sequence.slice_slice s.source first (Int.le_refl 0) (Int.natCast_nonneg _) bound,
        Int.add_zero]
    exact ⟨by rwa [hasItems, decide_eq_true_iff], here ▸ same⟩

/-! ### Two texts in a row -/

/-- What begins with two texts in a row begins with the first, and what is behind it with the
other. -/
theorem startsWith_append (inside : s.window.Inside) (sum : a.append? b = some ab) :
    s.StartsWith ab ↔ s.StartsWith a ∧ (s.behind a).StartsWith b := by
  have first : 0 ≤ s.pos := inside.1
  have last : s.limit ≤ s.source.length := inside.2.2
  have lengths := Sequence.length_of_append? sum
  have stop : s.pos + a.length + b.length = s.pos + ab.length := by omega
  unfold StartsWith hasItems
  simp only [behind, upTo, decide_eq_true_iff, stop]
  by_cases fits : s.pos + ab.length ≤ s.limit
  · have fits' : s.pos + a.length ≤ s.limit := by omega
    have parts : (s.source.slice s.pos (s.pos + a.length)).append?
        (s.source.slice (s.pos + a.length) (s.pos + ab.length)) =
          some (s.source.slice s.pos (s.pos + ab.length)) :=
      Sequence.slice_append?_slice s.source first (by omega) (by omega)
    have size : ((s.source.slice s.pos (s.pos + a.length)).length : Int) =
        s.pos + a.length - s.pos := Sequence.length_slice s.source first (by omega) (by omega)
    rw [Value.sameSequence_append parts sum (by omega), Bool.and_eq_true]
    simp only [fits, fits', true_and]
  · simp only [fits, false_and, and_false]

theorem startsWith_replicate_of_le (inside : s.window.Inside) {m n : Nat} (less : m ≤ n)
    (starts : s.StartsWith (a.replicate n)) : s.StartsWith (a.replicate m) := by
  induction n, less using Nat.le_induction with
  | base => exact starts
  | succ n less ih => exact ih ((startsWith_append inside (a.replicate_succ n)).mp starts).1

theorem behind_wellFormed (formed : s.WellFormed) (starts : s.StartsWith text) :
    (s.behind text).WellFormed :=
  upTo_wellFormed formed (by omega) starts.fits

/-- Behind the second of two texts, with the items of both as text. -/
theorem behind_behind (formed : s.WellFormed) (sum : a.append? b = some ab) :
    (s.behind a).matched.plus? ((s.behind a).behind b).matched = some (s.behind ab).matched ∧
      { (s.behind a).behind b with matched := (s.behind ab).matched } = s.behind ab := by
  have lengths := Sequence.length_of_append? sum
  have stop : s.pos + a.length + b.length = s.pos + ab.length := by omega
  have first : s.pos ≤ s.pos + a.length := by omega
  have last : s.pos + a.length ≤ s.pos + a.length + b.length := by omega
  constructor
  · unfold behind
    rw [← stop]
    exact upTo_plus formed.1 first last
  · simp only [behind, upTo, stop]

/-! ### Ends of a parser of texts -/

def Misses (s r : State) : Prop :=
  r.ok = false ∧ r.limit = s.limit ∧ r.pos ≤ s.limit ∧
    ∃ stop, s.pos ≤ stop ∧ stop ≤ s.limit ∧ r.matched = (s.upTo stop).matched

/-- How a parser ends on a state that looks for one text and keeps another one of it. It succeeds
just if what is left begins with the first, which it then consumes. However it ends, its own text
lies before the end of what may be read. -/
structure Spelled (s : State) (whole kept : Buffer) (r : State) : Prop where
  found : r.ok = true ↔ s.unconsumed.BeginsWith whole
  taken : r.ok = true → ∃ text, r = { s with pos := s.pos + whole.length, matched := .seq text } ∧
    Value.sameSequence text kept = true
  within : r.limit = s.limit ∧ r.pos ≤ s.limit ∧ ∃ lo hi : Int, s.pos ≤ lo ∧ lo ≤ hi ∧
    hi ≤ s.limit ∧ r.matched = .seq (s.source.slice lo hi)

theorem misses_settle (formed : s.WellFormed) (failed : r.ok = false) (limit : r.limit = s.limit)
    (bound : r.pos ≤ s.limit) (text : r.matched = s.noText) : s.Misses (t.settle r) := by
  obtain ⟨snapshot, left⟩ := settle_eq t r
  rw [left]
  refine ⟨failed, limit, bound, s.pos, Int.le_refl _, formed.2.1, text.trans ?_⟩
  exact congrArg Value.seq (s.source.slice_self s.pos).symm

theorem Misses.spelled (h : s.Misses r) (formed : s.WellFormed) (other : ¬ s.StartsWith text)
    (kept : Buffer) : s.Spelled text kept r := by
  obtain ⟨failed, limit, bound, stop, first, last, matched⟩ := h
  have none : ¬ r.ok = true := by simp [failed]
  rw [startsWith_iff formed.inside] at other
  exact ⟨iff_of_false none other, fun good => absurd good none, limit, bound, s.pos, stop,
    Int.le_refl _, first, last, matched⟩

theorem spelled_behind (formed : s.WellFormed) (ok : s.ok = true) (starts : s.StartsWith text) :
    s.Spelled text text (s.behind text) := by
  have found := (startsWith_iff formed.inside).mp starts
  have fits := starts.fits
  exact ⟨iff_of_true ok found, fun _ => ⟨_, rfl, starts.2⟩, rfl, fits, s.pos, _, Int.le_refl _,
    by omega, fits, rfl⟩

/-- Where only the second of two texts is kept. -/
theorem spelled_behind_behind (formed : s.WellFormed) (ok : s.ok = true)
    (sum : a.append? b = some ab) (starts : s.StartsWith ab) :
    s.Spelled ab b ((s.behind a).behind b) := by
  have lengths := Sequence.length_of_append? sum
  have stop : s.pos + a.length + b.length = s.pos + ab.length := by omega
  obtain ⟨-, second⟩ := (startsWith_append formed.inside sum).mp starts
  have fits : s.pos + a.length + b.length ≤ s.limit := second.fits
  have found := (startsWith_iff formed.inside).mp starts
  refine ⟨iff_of_true ok found, fun _ => ⟨_, ?_, second.2⟩, rfl, fits, s.pos + a.length, _,
    by omega, by omega, fits, rfl⟩
  simp only [behind, upTo, stop]

end State

namespace Parser

variable {setting : Setting} {s : State} {a b ab text : Buffer}

def exactly (text : Buffer) : Parser :=
  .literal (.value (.seq text)) true

def both (fold : Fold) (a b : Buffer) : Parser :=
  .chain [.item .append (exactly a), .item fold (exactly b)]

section Texts

variable (formed : s.WellFormed) (ok : s.ok = true)
include formed ok

/-! ### One text and two texts -/

theorem exactly_of_startsWith (starts : s.StartsWith text) :
    ((exactly text).act setting s).outcome = .returned (s.behind text) := by
  have fits := starts.fits
  have bound : (text.length : Int) ≤ s.remaining := by
    unfold State.remaining
    omega
  have taken : s.advance text.length = s.behind text := by
    rw [State.advance_eq bound, ← ok]
    rfl
  rw [← taken]
  exact literal_of_startsWith formed.2.2.2.2 starts

omit formed ok in
theorem exactly_of_other (other : ¬ s.StartsWith text) :
    ((exactly text).act setting s).outcome = .returned (s.settle s.mismatch) :=
  literal_of_not_startsWith other

omit formed in
theorem both_act (fold : Fold) :
    (both fold a b).act setting s = (exactly a).act setting s >>= fun t =>
      (if t.ok then Chain.resume [.item fold ⟨(exactly b).act setting, {}, none⟩] .append s.noText t
        else Chain.follow [.item fold ⟨(exactly b).act setting, {}, none⟩] t s.noText) >>= fun r =>
          pure (s.settle r) := by
  have links : parts setting [.item .append (exactly a), .item fold (exactly b)] =
      [.item .append ⟨(exactly a).act setting, {}, none⟩,
        .item fold ⟨(exactly b).act setting, {}, none⟩] := rfl
  rw [both, chain_act, links, Chain.follow_ordinary ok, bind_assoc]

/-- Behind the first text, the chain goes on with the second. -/
theorem both_of_first (fold : Fold) (first : s.StartsWith a) :
    ((both fold a b).act setting s).outcome =
      ((exactly b).act setting (s.behind a) >>= fun r =>
        (if r.ok then fold.join (s.behind a).matched r.matched >>= fun joined =>
          pure { r with matched := joined }
        else pure r) >>= fun r => pure (s.settle r)).outcome := by
  have kind : (s.behind a).matched.OfKind s.source.kind := ⟨_, rfl, Sequence.kind_slice _ _ _⟩
  have here : (s.behind a).ok = true := ok
  rw [both_act ok, Run.bind_outcome (exactly_of_startsWith formed ok first), if_pos here,
    Chain.resume, Fold.join, s.noText_plus kind, Run.need, pure_bind, State.sameText rfl,
    Chain.follow_ordinary here, bind_assoc]
  rfl

theorem both_of_startsWith (setting : Setting) (sum : a.append? b = some ab)
    (starts : s.StartsWith ab) :
    ((both .append a b).act setting s).outcome = .returned (s.behind ab) ∧
      ((both .discard a b).act setting s).outcome = .returned ((s.behind a).behind b) := by
  obtain ⟨first, second⟩ := (State.startsWith_append formed.inside sum).mp starts
  have formed' := State.behind_wellFormed formed first
  have run : ((exactly b).act setting (s.behind a)).outcome = .returned ((s.behind a).behind b) :=
    exactly_of_startsWith formed' ok second
  have good : ((s.behind a).behind b).ok = true := ok
  have clean := formed.2.2.2.2
  obtain ⟨joined, whole⟩ := State.behind_behind formed sum
  constructor
  · rw [both_of_first formed ok .append first, Run.bind_outcome run, if_pos good, Fold.join, joined,
      Run.need, pure_bind, pure_bind, whole]
    exact congrArg Outcome.returned (State.settle_of_clean ok clean)
  · rw [both_of_first formed ok .discard first, Run.bind_outcome run, if_pos good, Fold.join,
      pure_bind, pure_bind]
    exact congrArg Outcome.returned (State.settle_of_clean ok clean)

theorem both_of_other (setting : Setting) (fold : Fold) (sum : a.append? b = some ab)
    (other : ¬ s.StartsWith ab) :
    ∃ r, ((both fold a b).act setting s).outcome = .returned r ∧ s.Misses r := by
  rw [State.startsWith_append formed.inside sum] at other
  by_cases first : s.StartsWith a
  · have second := fun second => other ⟨first, second⟩
    have failed : ((s.behind a).settle (s.behind a).mismatch).ok = false := State.settle_ok _ _
    obtain ⟨snapshot, left⟩ := State.settle_eq (s.behind a) (s.behind a).mismatch
    rw [both_of_first formed ok fold first, Run.bind_outcome (exactly_of_other second), failed,
      if_neg Bool.false_ne_true, pure_bind, left]
    exact ⟨_, rfl, State.misses_settle formed rfl rfl first.fits rfl⟩
  · have quiet : ∀ link ∈ [Link.item fold (⟨(exactly b).act setting, {}, none⟩ : Part)],
        Chain.Quiet link := by
      intro link member
      obtain rfl := List.mem_singleton.mp member
      exact ⟨rfl, rfl⟩
    have failed : (s.settle s.mismatch).ok = false := State.settle_ok _ _
    obtain ⟨snapshot, left⟩ := State.settle_eq s s.mismatch
    rw [both_act ok, Run.bind_outcome (exactly_of_other first), failed, if_neg Bool.false_ne_true,
      Chain.follow_failed_quiet failed quiet, pure_bind, left]
    exact ⟨_, rfl, State.misses_settle formed rfl rfl formed.2.1 rfl⟩

end Texts

/-! ### A text a number of times -/

structure Laid (s : State) (a : Buffer) (rounds : Action.Rounds) : Prop where
  stands : Standing s (s.pos + (a.replicate rounds.count).length) rounds
  starts : s.StartsWith (a.replicate rounds.count)

theorem exactly_shortens (setting : Setting) (some : a.length ≠ 0) :
    ((exactly a).act setting).Shortens := by
  obtain ⟨length, more⟩ := Nat.exists_eq_succ_of_ne_zero some
  have length? : (Plain.value (.seq a)).length? = .some (length + 1) := congrArg Option.some more
  exact shortens_of_consumes (Grammar.literal_consumes length? true setting)

section Rounds

variable {rounds : Action.Rounds} (formed : s.WellFormed) (ok : s.ok = true)
include formed

theorem Laid.start (kind : a.kind = s.source.kind) : Laid s a ⟨0, s.noText, s⟩ := by
  have order := formed.2.1
  have none : (a.replicate 0).length = 0 := by simp [Sequence.length_replicate]
  have empty : s.source.slice s.pos s.pos = a.replicate 0 := by
    rw [Sequence.slice_self, ← Sequence.empty_eq_of_kind kind]
    cases a <;> rfl
  constructor
  · rw [none]
    simpa using Standing.start formed
  · rw [State.StartsWith, State.hasItems, none, Int.natCast_zero, Int.add_zero, empty]
    exact ⟨decide_eq_true order, Value.sameSequence_refl _⟩

theorem Laid.startsWith_iff (laid : Laid s a rounds) :
    rounds.current.StartsWith a ↔ s.StartsWith (a.replicate (rounds.count + 1)) := by
  obtain ⟨pos, limit, source, -⟩ := laid.stands.place
  have window : rounds.current.window = (s.behind (a.replicate rounds.count)).window := by
    rw [State.window, pos, limit, source]
    rfl
  rw [State.startsWith_append formed.inside (a.replicate_succ rounds.count),
    State.startsWith_congr window]
  exact (and_iff_right laid.starts).symm

theorem Laid.next (laid : Laid s a rounds)
    (starts : s.StartsWith (a.replicate (rounds.count + 1))) :
    ∃ matched, rounds.matched.plus? (rounds.current.behind a).matched = some matched ∧
      Laid s a (rounds.next (rounds.current.behind a) matched) := by
  have pos := laid.stands.place.1
  have lengths := Sequence.length_of_append? (a.replicate_succ rounds.count)
  have stop : rounds.current.pos + a.length = s.pos + (a.replicate (rounds.count + 1)).length := by
    omega
  have further : s.pos + ((a.replicate rounds.count).length : Int) ≤
      s.pos + (a.replicate (rounds.count + 1)).length := by omega
  unfold State.behind
  rw [stop]
  exact ⟨_, laid.stands.sum formed further, laid.stands.next further starts.fits, starts⟩

/-- A repetition of a text finds it as often as it may, or as often as it is there. -/
theorem roundsUpTo_exactly (setting : Setting) (ok : s.ok = true) (some : a.length ≠ 0)
    (laid : Laid s a rounds) (left : Nat) :
    ∃ ended, (Action.roundsUpTo ((exactly a).act setting) left rounds).outcome = .returned ended ∧
      Laid s a ended ∧ (ended.count = rounds.count + left ∨
        ended.count < rounds.count + left ∧ ¬ s.StartsWith (a.replicate (ended.count + 1))) := by
  induction left generalizing rounds with
  | zero => exact ⟨rounds, rfl, laid, .inl rfl⟩
  | succ left ih =>
    have formed' := laid.stands.formed formed
    have ok' : rounds.current.ok = true := laid.stands.place.2.2.2.trans ok
    have again := laid.startsWith_iff formed
    rw [Action.roundsUpTo_succ (exactly_shortens setting some) formed' ok']
    by_cases starts : rounds.current.StartsWith a
    · obtain ⟨matched, sum, next⟩ := laid.next formed (again.mp starts)
      have good : (rounds.current.behind a).ok = true := ok'
      rw [Run.bind_outcome (exactly_of_startsWith formed' ok' starts), if_pos good, sum, Run.need,
        pure_bind, Nat.add_comm left 1, ← Nat.add_assoc]
      exact ih next
    · have failed : (rounds.current.settle rounds.current.mismatch).ok = false :=
        State.settle_ok _ _
      rw [Run.bind_outcome (exactly_of_other starts), failed, if_neg Bool.false_ne_true]
      exact ⟨rounds, rfl, laid, .inr ⟨by omega, fun more => starts (again.mpr more)⟩⟩

end Rounds

/-- A repetition of just so many rounds ends behind the text as many times over, or misses. -/
theorem many_exactly (setting : Setting) (formed : s.WellFormed) (ok : s.ok = true)
    (kind : a.kind = s.source.kind) (some : a.length ≠ 0) (n : Nat) :
    ∃ r, ((many n n (exactly a)).act setting s).outcome = .returned r ∧
      (s.StartsWith (a.replicate n) → r = s.behind (a.replicate n)) ∧
      (¬ s.StartsWith (a.replicate n) → s.Misses r) := by
  obtain ⟨ended, run, ⟨stands, found⟩, count⟩ :=
    roundsUpTo_exactly formed setting ok some (.start formed kind) n
  obtain ⟨text, -, current⟩ := stands.current
  have body : (many n n (exactly a)).act setting s =
      Action.many setting.patience n n ((exactly a).act setting) s >>= fun r =>
        pure (s.settle r) := rfl
  have ends : ((many n n (exactly a)).act setting s).outcome = .returned (s.settle
      { s.behind (a.replicate ended.count) with ok := decide ((n : Int) ≤ ended.count) }) := by
    unfold Action.roundsUpTo at run
    rw [body, Action.many_below, bind_assoc, Run.bind_outcome run, pure_bind, current, stands.text]
    rfl
  rw [Nat.zero_add] at count
  rcases count with rfl | ⟨less, missing⟩
  · refine ⟨_, ends, fun _ => ?_, fun other => absurd found other⟩
    have whole : { s.behind (a.replicate ended.count) with
        ok := decide ((ended.count : Int) ≤ ended.count) } =
          s.behind (a.replicate ended.count) := by
      rw [decide_eq_true (Int.le_refl _), ← ok]
      rfl
    rw [whole]
    exact State.settle_of_clean ok formed.2.2.2.2
  · refine ⟨_, ends, fun starts => ?_, fun _ => ?_⟩
    · exact absurd (State.startsWith_replicate_of_le formed.inside less starts) missing
    · obtain ⟨snapshot, left⟩ := State.settle_eq s
        { s.behind (a.replicate ended.count) with ok := decide ((n : Int) ≤ ended.count) }
      rw [left, decide_eq_false (by omega)]
      exact ⟨rfl, rfl, found.fits, _, by omega, found.fits, rfl⟩

/-! ### Texts in a row -/

section Spelled

variable (setting : Setting) (formed : s.WellFormed) (ok : s.ok = true)
include formed ok

theorem exactly_spelled (text : Buffer) :
    ∃ r, ((exactly text).act setting s).outcome = .returned r ∧ s.Spelled text text r ∧
      (r.ok = false →
        r.pos = s.pos ∧ r.limit = s.limit ∧ r.source = s.source ∧ r.value = s.value) := by
  by_cases starts : s.StartsWith text
  · have good : (s.behind text).ok = true := ok
    refine ⟨_, exactly_of_startsWith formed ok starts, State.spelled_behind formed ok starts, ?_⟩
    simp [good]
  · have misses : s.Misses (s.settle s.mismatch) :=
      State.misses_settle formed rfl rfl formed.2.1 rfl
    obtain ⟨snapshot, left⟩ := State.settle_eq s s.mismatch
    refine ⟨_, exactly_of_other starts, misses.spelled formed starts text, fun _ => ?_⟩
    rw [left]
    exact ⟨rfl, rfl, rfl, rfl⟩

theorem both_spelled (sum : a.append? b = some ab) :
    ∃ r r' d, ((exactly ab).act setting s).outcome = .returned r ∧
      ((both .append a b).act setting s).outcome = .returned r' ∧ r.SameSuccess r' ∧
      s.Spelled ab ab r' ∧
      ((both .discard a b).act setting s).outcome = .returned d ∧ s.Spelled ab b d := by
  by_cases starts : s.StartsWith ab
  · obtain ⟨append, discard⟩ := both_of_startsWith formed ok setting sum starts
    exact ⟨_, _, _, exactly_of_startsWith formed ok starts, append, ⟨rfl, fun _ => rfl⟩,
      State.spelled_behind formed ok starts, discard,
      State.spelled_behind_behind formed ok sum starts⟩
  · obtain ⟨r', append, misses⟩ := both_of_other formed ok setting .append sum starts
    obtain ⟨d, discard, misses'⟩ := both_of_other formed ok setting .discard sum starts
    have failed : (s.settle s.mismatch).ok = false := State.settle_ok _ _
    refine ⟨_, _, _, exactly_of_other starts, append, ⟨failed.trans misses.1.symm, ?_⟩,
      misses.spelled formed starts ab, discard, misses'.spelled formed starts b⟩
    simp [failed]

theorem many_spelled (kind : a.kind = s.source.kind) (some : a.length ≠ 0) (n : Nat) :
    ∃ r, ((many n n (exactly a)).act setting s).outcome = .returned r ∧
      s.Spelled (a.replicate n) (a.replicate n) r := by
  obtain ⟨r, run, found, missing⟩ := many_exactly setting formed ok kind some n
  refine ⟨r, run, ?_⟩
  by_cases starts : s.StartsWith (a.replicate n)
  · rw [found starts]
    exact State.spelled_behind formed ok starts
  · exact (missing starts).spelled formed starts _

end Spelled

/-- A parser of a text succeeds just if what is left begins with it, with these items as text, and
otherwise only fails. Two of them in a chain do what the parser of the joined text does; where the
first text is discarded they succeed on the same states. And a repetition does what the parser of
the text as many times over does, unless the text is empty. -/
theorem texts_join (setting : Setting) (formed : s.WellFormed) (ok : s.ok = true)
    (first : a.kind = s.source.kind) (second : b.kind = s.source.kind) :
    (∃ r, ((exactly a).act setting s).outcome = .returned r ∧ s.Spelled a a r ∧
      (r.ok = false →
        r.pos = s.pos ∧ r.limit = s.limit ∧ r.source = s.source ∧ r.value = s.value)) ∧
    (∃ ab r r' d, a.append? b = some ab ∧ ((exactly ab).act setting s).outcome = .returned r ∧
      ((both .append a b).act setting s).outcome = .returned r' ∧ r.SameSuccess r' ∧
      s.Spelled ab ab r' ∧
      ((both .discard a b).act setting s).outcome = .returned d ∧ s.Spelled ab b d) ∧
    (a.length ≠ 0 → ∀ n : Nat, ∃ r,
      ((many n n (exactly a)).act setting s).outcome = .returned r ∧
      s.Spelled (a.replicate n) (a.replicate n) r) := by
  obtain ⟨ab, sum⟩ := Option.isSome_iff_exists.mp
    ((Sequence.append?_isSome a b).mpr (first.trans second.symm))
  obtain ⟨r, r', d, both⟩ := both_spelled setting formed ok sum
  exact ⟨exactly_spelled setting formed ok a, ⟨ab, r, r', d, sum, both⟩,
    many_spelled setting formed ok first⟩

/-- Two pairs of signs in a row are found, and the third is not, part of which is behind the end of
what may be read. -/
theorem texts_before_end :
    ∃ s r f : State, s.WellFormed ∧ s.ok = true ∧ s.source = .text "xababab".toList.toArray ∧
      s.pos = 1 ∧ s.limit = 6 ∧ r.matched = .ofString "abab" ∧ r.pos = 5 ∧ f.ok = false ∧
      ((both .append (.text #['a', 'b']) (.text #['a', 'b'])).act
        (Grammar.empty.setting ⟨0, 0⟩) s).outcome = .returned r ∧
      s.Spelled (.text #['a', 'b', 'a', 'b']) (.text #['a', 'b', 'a', 'b']) r ∧
      ((many 3 3 (exactly (.text #['a', 'b']))).act
        (Grammar.empty.setting ⟨0, 0⟩) s).outcome = .returned f ∧
      s.Spelled (.text #['a', 'b', 'a', 'b', 'a', 'b'])
        (.text #['a', 'b', 'a', 'b', 'a', 'b']) f := by
  have formed : State.WellFormed
      ⟨.text "xababab".toList.toArray, 1, 6, .ofString "", .null, true, none⟩ :=
    ⟨by decide, by decide, by decide, ⟨_, rfl, rfl⟩, rfl⟩
  have kind : Sequence.kind (.text #['a', 'b'] : Buffer) = .text := rfl
  obtain ⟨-, ⟨ab, -, r, -, sum, -, pairs, -, spelled, -⟩, times⟩ :=
    texts_join (Grammar.empty.setting ⟨0, 0⟩) formed rfl kind kind
  obtain ⟨f, run, spelled'⟩ := times (by decide) 3
  obtain rfl := Option.some.inj sum
  have found : ((both .append (.text #['a', 'b']) (.text #['a', 'b'])).act
        (Grammar.empty.setting ⟨0, 0⟩)
        ⟨.text "xababab".toList.toArray, 1, 6, .ofString "", .null, true, none⟩).outcome =
      .returned ⟨.text "xababab".toList.toArray, 5, 6, .ofString "abab", .null, true, none⟩ := by
    cbv
  obtain rfl := Outcome.returned.inj (found.symm.trans pairs)
  have missed : ((many 3 3 (exactly (.text #['a', 'b']))).act (Grammar.empty.setting ⟨0, 0⟩)
        ⟨.text "xababab".toList.toArray, 1, 6, .ofString "", .null, true, none⟩).outcome =
      .returned ⟨.text "xababab".toList.toArray, 5, 6, .ofString "abab", .null, false,
        some ⟨.text "xababab".toList.toArray, 1, 6, .ofString "", .null, true, none⟩⟩ := by
    cbv
  obtain rfl := Outcome.returned.inj (missed.symm.trans run)
  exact ⟨_, _, _, formed, rfl, rfl, rfl, rfl, rfl, rfl, rfl, pairs, spelled, run, spelled'⟩

end Parser

end Catena
