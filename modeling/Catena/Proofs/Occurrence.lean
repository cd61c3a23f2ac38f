import Mathlib
import Catena.Proofs.Candidates
import Catena.Proofs.Flattening
import Catena.Proofs.Solution

/-!
# Occurrences of a text

All up to a text and the text itself, with as little or as much before it as possible.
`Parser.everything_up_to`: such a chain succeeds just where the text occurs in what is left, and its
match ends with the first or the last occurrence. Every length is a candidate of a lookahead over
everything, and the rest of the chain succeeds behind those candidates where the text stands.
-/

namespace Catena

namespace Value

theorem length_of_sameItems {as bs : List Value} (h : sameItems as bs = true) :
    as.length = bs.length := by
  induction as generalizing bs with
  | nil =>
    cases bs with
    | nil => rfl
    | cons b bs => simp [sameItems] at h
  | cons a as ih =>
    cases bs with
    | nil => simp [sameItems] at h
    | cons b bs =>
      simp only [sameItems, Bool.and_eq_true] at h
      exact congrArg (· + 1) (ih h.2)

theorem length_of_sameSequence {s t : Buffer} (h : sameSequence s t = true) :
    s.length = t.length := by
  cases s with
  | text a => cases t <;> simp_all [sameSequence, Sequence.length]
  | bytes a => cases t <;> simp_all [sameSequence, Sequence.length]
  | list a =>
    cases t with
    | list b => exact length_of_sameItems (by simpa [sameSequence] using h)
    | _ => simp [sameSequence] at h

end Value

/-- An occurrence of a text in a sequence, which parts it into what comes before, the items that are
the same as those of the text, and what comes after. -/
structure Occurrence (text whole : Buffer) where
  front : Buffer
  here : Buffer
  /-- All up to the occurrence and the occurrence itself. -/
  through : Buffer
  back : Buffer
  same : Value.sameSequence here text = true
  before : front.append? here = some through
  after : through.append? back = some whole

namespace Occurrence

variable {text whole : Buffer}

theorem fits (o : Occurrence text whole) : o.front.length + text.length ≤ whole.length := by
  have first := Sequence.length_of_append? o.before
  have last := Sequence.length_of_append? o.after
  have same := Value.length_of_sameSequence o.same
  omega

theorem here_eq (o : Occurrence text whole) :
    o.here = whole.slice o.front.length (o.front.length + text.length) := by
  have length : (o.through.length : Int) = o.front.length + text.length := by
    have first := Sequence.length_of_append? o.before
    have same := Value.length_of_sameSequence o.same
    omega
  have through := (Sequence.eq_slice_of_append? o.after).1
  calc o.here = o.through.slice o.front.length o.through.length :=
        (Sequence.eq_slice_of_append? o.before).2
    _ = (whole.slice 0 o.through.length).slice o.front.length o.through.length :=
        congrArg (Sequence.slice · o.front.length o.through.length) through
    _ = whole.slice (0 + o.front.length) (0 + o.through.length) :=
        Sequence.slice_slice whole (Int.le_refl 0) (by omega) (by omega) (by omega)
    _ = whole.slice o.front.length (o.front.length + text.length) := by
        rw [Int.zero_add, Int.zero_add, length]

end Occurrence

/-! ### Where a text stands in a window -/

namespace State

variable {s : State} {text : Buffer} {k : Int}

def StartsWith (s : State) (text : Buffer) : Prop :=
  s.hasItems text.length = true ∧
    Value.sameSequence (s.source.slice s.pos (s.pos + text.length)) text = true

theorem advance_eq (bound : k ≤ s.remaining) : s.advance k =
    { s with
      pos := s.pos + k, matched := .seq (s.source.slice s.pos (s.pos + k)), ok := true } := by
  unfold remaining at bound
  rw [advance, advanceWith, Int.min_eq_left (by omega)]

theorem startsWith_advance (bound : k ≤ s.remaining) : (s.advance k).StartsWith text ↔
    k + text.length ≤ s.remaining ∧ Value.sameSequence
      (s.source.slice (s.pos + k) (s.pos + (k + text.length))) text = true := by
  rw [advance_eq bound, StartsWith, hasItems, decide_eq_true_iff, remaining, Int.add_assoc]
  dsimp only
  refine and_congr_left fun _ => ?_
  omega

/-- Where a text stands behind some of the items left, it occurs in them. -/
theorem exists_occurrence (inside : s.window.Inside) (nonneg : 0 ≤ k) (bound : k ≤ s.remaining)
    (starts : (s.advance k).StartsWith text) :
    ∃ o : Occurrence text s.unconsumed, o.front.length = k ∧
      (s.advance (k + text.length)).matched = .seq o.through ∧
      (s.advance (k + text.length)).unconsumed = o.back := by
  obtain ⟨fits, same⟩ := (startsWith_advance bound).mp starts
  have first : 0 ≤ s.pos := inside.1
  have last : s.limit ≤ s.source.length := inside.2.2
  have order : s.pos + (k + text.length) ≤ s.limit := by
    unfold remaining at fits
    omega
  rw [advance_eq fits]
  refine ⟨⟨s.source.slice s.pos (s.pos + k), _, _, _, same,
    Sequence.slice_append?_slice s.source first (by omega) (by omega),
    Sequence.slice_append?_slice s.source first (by omega) order⟩, ?_, rfl, rfl⟩
  rw [Sequence.length_slice _ first (by omega) (by omega)]
  omega

theorem startsWith_of_occurrence (inside : s.window.Inside) (o : Occurrence text s.unconsumed) :
    o.front.length + text.length ≤ s.remaining ∧ (s.advance o.front.length).StartsWith text := by
  have length : (s.unconsumed.length : Int) = s.remaining := Window.length_rest inside
  have fits : (o.front.length + text.length : Int) ≤ s.remaining := by
    have fits := o.fits
    omega
  refine ⟨fits, (startsWith_advance (by omega)).mpr ⟨fits, ?_⟩⟩
  have within : s.pos + (o.front.length + text.length) ≤ s.limit := by
    unfold remaining at fits
    omega
  have here := o.here_eq.trans
    (Sequence.slice_slice s.source inside.1 (by omega) (by omega) within)
  exact here ▸ o.same

end State

/-! ### All that is left as a candidate -/

namespace Parser

variable {setting : Setting} {s t : State} {text : Buffer} {k : Nat}

theorem everything_returned (setting : Setting) (clean : s.lastGood = none) :
    (everything.act setting s).outcome = .returned (s.advance s.remaining) :=
  congrArg Outcome.returned (State.settle_of_clean rfl clean)

theorem consumed_everything (inside : s.window.Inside) :
    s.remaining - (s.advance s.remaining).remaining = s.remaining.toNat := by
  have order : 0 ≤ s.remaining := Window.remaining_nonneg inside
  rw [State.advance_eq (Int.le_refl _)]
  simp only [State.remaining] at order ⊢
  omega

def allOf (setting : Setting) (mode : Mode) : Lookahead :=
  ⟨mode, everything.shown, everything.act setting⟩

theorem cut_everything (live : s.Live) (k : Nat) :
    (everything.act setting (s.cut k)).outcome = .returned
      { s with pos := s.pos + k, limit := s.pos + k, ok := true
               matched := .seq (s.source.slice s.pos (s.pos + k)) } := by
  have clean : (s.cut k).lastGood = none := live.clean
  rw [everything_returned setting clean, State.advance_eq (Int.le_refl _)]
  simp only [State.cut, State.remaining, add_sub_cancel_left]

/-- Every length is a candidate. -/
theorem allOf_candidate {mode : Mode} (live : s.Live) :
    (allOf setting mode).Candidate s k t ↔ k ≤ s.remaining ∧ t = s.advance k := by
  have order : 0 ≤ s.remaining := Window.remaining_nonneg live.inside
  rw [Lookahead.candidate_iff (everything_returned setting live.clean) rfl
    (consumed_everything live.inside)]
  constructor
  · rintro (⟨rfl, rfl⟩ | ⟨less, r, run, -, -, rfl⟩)
    · rw [Int.toNat_of_nonneg order]
      exact ⟨Int.le_refl _, rfl⟩
    · obtain rfl := Outcome.returned.inj ((cut_everything live k).symm.trans run)
      have bound : (k : Int) ≤ s.remaining := by omega
      exact ⟨bound, (State.advance_eq bound).symm⟩
  · rintro ⟨bound, rfl⟩
    by_cases whole : (k : Int) = s.remaining
    · exact .inl ⟨by omega, by rw [whole]⟩
    · refine .inr ⟨by omega, _, cut_everything live k, rfl, ?_, ?_⟩
      · simp only [State.remaining, sub_self]
      · rw [State.advance_eq bound]

/-! ### Up to a text -/

theorem literal_of_startsWith (clean : s.lastGood = none) (starts : s.StartsWith text) :
    ((literal (.value (.seq text)) true).act setting s).outcome =
      .returned (s.advance text.length) := by
  have peeked : s.peek text.length =
      some (s.source.slice s.pos (s.pos + text.length)) := if_pos starts.1
  have body : Action.literal (.value (.seq text)) true s = pure (s.advance text.length) := by
    rw [Action.literal_seq, peeked]
    dsimp only
    rw [if_pos starts.2]
  exact (Action.settled_of_pure body).trans
    (congrArg Outcome.returned (State.settle_of_clean rfl clean))

theorem literal_of_not_startsWith (other : ¬ s.StartsWith text) :
    ((literal (.value (.seq text)) true).act setting s).outcome =
      .returned (s.settle s.mismatch) := by
  have body : Action.literal (.value (.seq text)) true s = pure s.mismatch := by
    rw [Action.literal_seq]
    by_cases has : s.hasItems text.length = true
    · rw [State.peek, if_pos has]
      dsimp only
      rw [if_neg fun same => other ⟨has, same⟩]
    · rw [State.peek, if_neg has]
  exact Action.settled_of_pure body

def everythingTo (mode : Mode) (text : Buffer) : Parser :=
  .chain [.item .append (.lookahead mode .everything),
    .item .append (.literal (.value (.seq text)) true)]

def goOnTo (setting : Setting) (text : Buffer) (s : State) : Action :=
  Chain.resume (parts setting [.item .append (.literal (.value (.seq text)) true)]) .append s.noText

theorem goOnTo_outcome (setting : Setting) (text : Buffer) (s : State) (k : Nat) :
    (goOnTo setting text s (s.advance k)).outcome =
      ((literal (.value (.seq text)) true).act setting (s.advance k) >>= fun full =>
        if full.ok then Chain.resume [] .append (s.advance k).matched full
        else pure full).outcome := by
  have kind : (s.advance k).matched.OfKind s.source.kind := ⟨_, rfl, Sequence.kind_slice _ _ _⟩
  have joined : (Fold.append.join s.noText (s.advance k).matched).outcome =
      .returned (s.advance k).matched := Run.need_returned_iff.mpr (s.noText_plus kind)
  refine (Run.bind_outcome joined _).trans ?_
  exact congrArg Run.outcome (Chain.follow_ordinary rfl)

/-- Where the text stands behind a candidate, the chain ends behind the text. -/
theorem goOnTo_of_startsWith (live : s.Live) (bound : k ≤ s.remaining)
    (starts : (s.advance k).StartsWith text) :
    (goOnTo setting text s (s.advance k)).outcome = .returned (s.advance (k + text.length)) := by
  obtain ⟨fits, -⟩ := (State.startsWith_advance bound).mp starts
  have first : 0 ≤ s.pos := live.inside.1
  have clean : (s.advance k).lastGood = none := live.clean
  have step : ((s.advance k).advance text.length) =
      { s with pos := s.pos + (k + text.length), ok := true
               matched := .seq (s.source.slice (s.pos + k) (s.pos + (k + text.length))) } := by
    have left : (text.length : Int) ≤ (s.advance k).remaining := by
      rw [State.advance_eq bound]
      simp only [State.remaining] at fits ⊢
      omega
    rw [State.advance_eq left, State.advance_eq bound]
    simp only [Int.add_assoc]
  have joined : (s.advance k).matched.plus? ((s.advance k).advance text.length).matched =
      some (.seq (s.source.slice s.pos (s.pos + (k + text.length)))) := by
    rw [step, State.advance_eq bound]
    exact congrArg (Option.map Value.seq)
      (Sequence.slice_append?_slice s.source first (by omega) (by omega))
  have append : (Fold.append.join (s.advance k).matched
      ((s.advance k).advance text.length).matched).outcome = .returned _ :=
    Run.need_returned_iff.mpr joined
  rw [goOnTo_outcome, Run.bind_outcome (literal_of_startsWith clean starts)]
  refine (Run.bind_outcome append _).trans ?_
  rw [step, State.advance_eq fits]
  rfl

theorem goOnTo_of_not_startsWith (setting : Setting) (other : ¬ (s.advance k).StartsWith text) :
    (goOnTo setting text s (s.advance k)).outcome.Fails := by
  rw [goOnTo_outcome, Run.bind_outcome (literal_of_not_startsWith other),
    State.settle_ok]
  exact ⟨_, rfl, State.settle_ok _ _⟩

theorem goOnTo_returns (live : s.Live) (bound : k ≤ s.remaining) :
    ∃ r, (goOnTo setting text s (s.advance k)).outcome = .returned r := by
  by_cases starts : (s.advance k).StartsWith text
  · exact ⟨_, goOnTo_of_startsWith live bound starts⟩
  · obtain ⟨r, run, -⟩ := goOnTo_of_not_startsWith setting starts
    exact ⟨r, run⟩

theorem startsWith_of_goOnTo (live : s.Live) (bound : k ≤ s.remaining)
    (run : (goOnTo setting text s (s.advance k)).outcome = .returned t) (good : t.ok = true) :
    (s.advance k).StartsWith text ∧ t = s.advance (k + text.length) := by
  by_cases starts : (s.advance k).StartsWith text
  · exact ⟨starts, Outcome.returned.inj (run.symm.trans (goOnTo_of_startsWith live bound starts))⟩
  · obtain ⟨r, run', failed⟩ := goOnTo_of_not_startsWith setting starts
    obtain rfl := Outcome.returned.inj (run.symm.trans run')
    cases good.symm.trans failed

/-- An occurrence of the text is behind a candidate that is no dead end. -/
theorem candidate_of_occurrence (setting : Setting) (mode : Mode) (live : s.Live)
    (o : Occurrence text s.unconsumed) :
    ∃ u, (allOf setting mode).Candidate s o.front.length u ∧
      ¬ Lookahead.DeadEnd (goOnTo setting text s) u := by
  obtain ⟨fits, starts⟩ := State.startsWith_of_occurrence live.inside o
  have bound : (o.front.length : Int) ≤ s.remaining := by omega
  refine ⟨_, (allOf_candidate live).mpr ⟨bound, rfl⟩, ?_⟩
  rintro ⟨r, run, failed⟩
  obtain rfl := Outcome.returned.inj ((goOnTo_of_startsWith live bound starts).symm.trans run)
  cases failed

theorem search_to_returns (setting : Setting) (text : Buffer) {mode : Mode}
    (ordered : mode ≠ .unordered) (live : s.Live) :
    ∃ found, ((allOf setting mode).search s (goOnTo setting text s)).outcome = .returned found := by
  refine Lookahead.search_unbroken ordered (everything_returned setting live.clean) rfl
    (consumed_everything live.inside) (fun k _ => ⟨_, cut_everything live k⟩)
    fun k t candidate => ?_
  obtain ⟨bound, rfl⟩ := (allOf_candidate live).mp candidate
  exact goOnTo_returns live bound

/-- What a search up to a text comes to: a failure where the text does not occur, or else the end of
the occurrence that comes first in the order of the mode. -/
theorem search_to (setting : Setting) (text : Buffer) {mode : Mode}
    (ordered : mode ≠ .unordered) (live : s.Live) :
    (∃ r, ((allOf setting mode).search s (goOnTo setting text s)).outcome = .returned (some r) ∧
      r.ok = false ∧ IsEmpty (Occurrence text s.unconsumed)) ∨
    ∃ (o : Occurrence text s.unconsumed) (r : State),
      ((allOf setting mode).search s (goOnTo setting text s)).outcome = .returned (some r) ∧
      r.ok = true ∧ r.lastGood = none ∧ r.matched = .seq o.through ∧ r.unconsumed = o.back ∧
      ∀ o' : Occurrence text s.unconsumed, o'.front.length = o.front.length ∨
        mode.Before o.front.length o'.front.length := by
  have whole := everything_returned setting live.clean
  have shorter : ∀ full, ((allOf setting mode).act s).outcome = .returned full →
      full.remaining ≤ s.remaining := by
    intro full run
    obtain rfl := Outcome.returned.inj (whole.symm.trans run)
    have consumed := consumed_everything live.inside
    omega
  obtain ⟨found, search⟩ := search_to_returns setting text ordered live
  rw [search]
  obtain ⟨full, run, failed, -⟩ | ⟨r, rfl, failed, dead⟩ |
    ⟨k, t, r, candidate, run, good, rfl, first⟩ := Lookahead.search_returned search shorter
  · obtain rfl := Outcome.returned.inj (whole.symm.trans run)
    cases failed
  · refine .inl ⟨r, rfl, failed, ⟨fun o => ?_⟩⟩
    obtain ⟨u, candidate, alive⟩ := candidate_of_occurrence setting mode live o
    exact alive (dead _ u candidate)
  · obtain ⟨bound, rfl⟩ := (allOf_candidate live).mp candidate
    obtain ⟨starts, rfl⟩ := startsWith_of_goOnTo live bound run good
    obtain ⟨o, place, matched, rest⟩ :=
      State.exists_occurrence live.inside (Int.natCast_nonneg k) bound starts
    obtain rfl : o.front.length = k := by omega
    refine .inr ⟨o, _, rfl, rfl, live.clean, matched, rest, fun o' => ?_⟩
    obtain ⟨u, candidate', alive⟩ := candidate_of_occurrence setting mode live o'
    exact (first _ u candidate').imp_right fun later => later.resolve_right alive

theorem everythingTo_act {mode : Mode} (live : s.Live) :
    (everythingTo mode text).act setting s =
      ((allOf setting mode).search s (goOnTo setting text s) >>= fun
        | some result => pure result
        | none => (allOf setting mode).act s >>= fun result => Chain.follow
            (parts setting [.item .append (.literal (.value (.seq text)) true)]) result s.noText) >>=
        fun t => pure (s.settle t) := by
  have whole : (lookahead mode everything).part setting =
      ⟨everything.act setting, {}, some (allOf setting mode)⟩ := by
    rw [Parser.part, lookahead_act]
    rfl
  have links : parts setting [.item .append (.lookahead mode .everything),
      .item .append (.literal (.value (.seq text)) true)] =
      .item .append ((lookahead mode everything).part setting) ::
        parts setting [.item .append (.literal (.value (.seq text)) true)] := rfl
  rw [everythingTo, chain_act, links, whole, Chain.follow_searched live.ok rfl]
  rfl

theorem everythingTo_returned (setting : Setting) (text : Buffer) {mode : Mode}
    (ordered : mode ≠ .unordered) (live : s.Live) :
    ∃ r, ((everythingTo mode text).act setting s).outcome = .returned r ∧
      (r.ok = true ↔ Nonempty (Occurrence text s.unconsumed)) ∧
      (r.ok = true → ∃ o : Occurrence text s.unconsumed, r.matched = .seq o.through ∧
        r.unconsumed = o.back ∧ ∀ o' : Occurrence text s.unconsumed,
          o'.front.length = o.front.length ∨ mode.Before o.front.length o'.front.length) := by
  rw [everythingTo_act live]
  obtain ⟨r, search, failed, nowhere⟩ | ⟨o, r, search, good, clean, matched, rest, first⟩ :=
    search_to setting text ordered live
  · refine ⟨s.settle r, Run.bind_outcome (Run.bind_outcome search _) _, ?_, ?_⟩
    · rw [State.settle_ok, failed, ← not_isEmpty_iff]
      exact ⟨nofun, fun somewhere => absurd nowhere somewhere⟩
    · rw [State.settle_ok, failed]
      exact nofun
  · refine ⟨r, ?_, ⟨fun _ => ⟨o⟩, fun _ => good⟩, fun _ => ⟨o, matched, rest, first⟩⟩
    refine (Run.bind_outcome (Run.bind_outcome search _) _).trans ?_
    rw [State.settle_of_clean good clean]
    rfl

/-- With as little as possible before it, a chain up to a text matches all up to its first
occurrence in what is left, and with as much as possible up to the last; the rest stays. Both
succeed just where the text occurs at all, and otherwise fail. -/
theorem everything_up_to (setting : Setting) (text : Buffer) (live : s.Live) :
    (∃ r, ((everythingTo .reluctant text).act setting s).outcome = .returned r ∧
      (r.ok = true ↔ Nonempty (Occurrence text s.unconsumed)) ∧
      (r.ok = true → ∃ first : Occurrence text s.unconsumed, r.matched = .seq first.through ∧
        r.unconsumed = first.back ∧
        ∀ o : Occurrence text s.unconsumed, first.front.length ≤ o.front.length)) ∧
    ∃ r, ((everythingTo .greedy text).act setting s).outcome = .returned r ∧
      (r.ok = true ↔ Nonempty (Occurrence text s.unconsumed)) ∧
      (r.ok = true → ∃ last : Occurrence text s.unconsumed, r.matched = .seq last.through ∧
        r.unconsumed = last.back ∧
        ∀ o : Occurrence text s.unconsumed, o.front.length ≤ last.front.length) := by
  constructor
  · obtain ⟨r, run, occurs, ends⟩ :=
      everythingTo_returned setting text (by decide : Mode.reluctant ≠ _) live
    refine ⟨r, run, occurs, fun good => ?_⟩
    obtain ⟨first, matched, rest, earliest⟩ := ends good
    refine ⟨first, matched, rest, fun o => ?_⟩
    obtain same | later := earliest o
    · exact Nat.le_of_eq same.symm
    · exact Nat.le_of_lt later
  · obtain ⟨r, run, occurs, ends⟩ :=
      everythingTo_returned setting text (by decide : Mode.greedy ≠ _) live
    refine ⟨r, run, occurs, fun good => ?_⟩
    obtain ⟨last, matched, rest, latest⟩ := ends good
    refine ⟨last, matched, rest, fun o => ?_⟩
    obtain same | earlier := latest o
    · exact Nat.le_of_eq same
    · exact Nat.le_of_lt earlier

/-- Two signs in a row occur twice among three; the window ends before the last item. -/
theorem signs_up_to :
    ∃ s : State, s.Live ∧ s.unconsumed = .text "baaab".toList.toArray ∧
      (∃ (r : State) (first : Occurrence (.text "aa".toList.toArray) s.unconsumed),
        ((everythingTo .reluctant (.text "aa".toList.toArray)).act
          (Grammar.empty.setting ⟨0, 0⟩) s).outcome = .returned r ∧ r.ok = true ∧
        r.matched = .ofString "baa" ∧ r.matched = .seq first.through ∧
        ∀ o : Occurrence (.text "aa".toList.toArray) s.unconsumed,
          first.front.length ≤ o.front.length) ∧
      ∃ (r : State) (last : Occurrence (.text "aa".toList.toArray) s.unconsumed),
        ((everythingTo .greedy (.text "aa".toList.toArray)).act
          (Grammar.empty.setting ⟨0, 0⟩) s).outcome = .returned r ∧ r.ok = true ∧
        r.matched = .ofString "baaa" ∧ r.matched = .seq last.through ∧
        ∀ o : Occurrence (.text "aa".toList.toArray) s.unconsumed,
          o.front.length ≤ last.front.length := by
  have live : State.Live ⟨.text "xbaaaby".toList.toArray, 1, 6, .ofString "x", .null, true, none⟩ :=
    ⟨⟨by decide, by decide, by decide⟩, rfl, rfl⟩
  have early : ((everythingTo .reluctant (.text "aa".toList.toArray)).act
      (Grammar.empty.setting ⟨0, 0⟩)
      ⟨.text "xbaaaby".toList.toArray, 1, 6, .ofString "x", .null, true, none⟩).outcome =
      .returned ⟨.text "xbaaaby".toList.toArray, 4, 6, .ofString "baa", .null, true, none⟩ := by
    cbv
  have late : ((everythingTo .greedy (.text "aa".toList.toArray)).act
      (Grammar.empty.setting ⟨0, 0⟩)
      ⟨.text "xbaaaby".toList.toArray, 1, 6, .ofString "x", .null, true, none⟩).outcome =
      .returned ⟨.text "xbaaaby".toList.toArray, 5, 6, .ofString "baaa", .null, true, none⟩ := by
    cbv
  obtain ⟨⟨r, run, -, ends⟩, r', run', -, ends'⟩ :=
    everything_up_to (Grammar.empty.setting ⟨0, 0⟩) (.text "aa".toList.toArray) live
  obtain rfl := Outcome.returned.inj (early.symm.trans run)
  obtain rfl := Outcome.returned.inj (late.symm.trans run')
  obtain ⟨first, matched, -, earliest⟩ := ends rfl
  obtain ⟨last, matched', -, latest⟩ := ends' rfl
  exact ⟨_, live, by rfl, ⟨_, first, early, rfl, rfl, matched, earliest⟩,
    _, last, late, rfl, rfl, matched', latest⟩

end Parser

end Catena
