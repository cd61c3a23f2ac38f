import Mathlib
import Catena.Proofs.Accord.Parser
import Catena.Proofs.Move

/-!
# Built values and recognition

What a parser recognizes does not depend on the values that it builds, as long as no function given
to it looks at a value to decide about more than the next one. On two states that differ only in
values, a run ends in a fault that is no signal or the two end alike but for values, which is
`Grammar.act_blind`. Inside a parser with a value of its own the two runs are one.
-/

namespace Catena

/-! ### States without their values -/

def State.bare : State → State
  | ⟨source, pos, limit, matched, _, ok, none⟩ =>
    ⟨source, pos, limit, matched, .null, ok, none⟩
  | ⟨source, pos, limit, matched, _, ok, some good⟩ =>
    ⟨source, pos, limit, matched, .null, ok, some good.bare⟩

def Fault.isHard : Fault → Bool
  | .signal _ => false
  | _ => true

/-- Two faults are signals of one kind and message, raised on states that differ only in values if
on any. -/
def Fault.SameBare (fault fault' : Fault) : Prop :=
  ∃ raised raised', fault = .signal raised ∧ fault' = .signal raised' ∧
    raised.kind = raised'.kind ∧ raised.msg = raised'.msg ∧
    raised.state.map State.bare = raised'.state.map State.bare

namespace State

structure Twins (s t : State) : Prop where
  source : s.source = t.source
  pos : s.pos = t.pos
  limit : s.limit = t.limit
  matched : s.matched = t.matched
  ok : s.ok = t.ok
  lastGood : s.lastGood.map bare = t.lastGood.map bare

theorem bare_eq (s : State) :
    s.bare = { s with value := .null, lastGood := s.lastGood.map bare } := by
  obtain ⟨source, pos, limit, matched, value, ok, _ | good⟩ := s <;> rfl

theorem bare_eq_iff {s t : State} : s.bare = t.bare ↔ s.Twins t := by
  rw [bare_eq s, bare_eq t]
  constructor
  · intro same
    simp only [mk.injEq, true_and] at same
    obtain ⟨source, pos, limit, matched, ok, lastGood⟩ := same
    exact ⟨source, pos, limit, matched, ok, lastGood⟩
  · rintro ⟨source, pos, limit, matched, ok, lastGood⟩
    simp only [source, pos, limit, matched, ok, lastGood]

theorem detach_bare : (s : State) → s.detach.map bare = s.bare.detach
  | ⟨source, pos, limit, matched, value, ok, none⟩ => by
    simp only [detach, bare]
    cases matched.sequence? <;> rfl
  | ⟨source, pos, limit, matched, value, ok, some good⟩ => by
    have below := detach_bare good
    simp only [detach, bare]
    rw [← below]
    cases matched.sequence? <;> cases good.detach <;> rfl

namespace Twins

variable {s t r r' : State}

theorem bare (h : s.Twins t) : s.bare = t.bare := bare_eq_iff.mpr h

theorem noText (h : s.Twins t) : s.noText = t.noText := by
  unfold State.noText
  rw [h.source]

theorem remaining (h : s.Twins t) : s.remaining = t.remaining := by
  unfold State.remaining
  rw [h.limit, h.pos]

theorem peek (h : s.Twins t) (count : Int) : s.peek count = t.peek count := by
  unfold State.peek hasItems
  rw [h.source, h.pos, h.limit]

theorem pass (h : s.Twins t) : s.pass.Twins t.pass :=
  ⟨h.source, h.pos, h.limit, h.noText, rfl, h.lastGood⟩

theorem mismatch (h : s.Twins t) : s.mismatch.Twins t.mismatch :=
  ⟨h.source, h.pos, h.limit, h.noText, rfl, h.lastGood⟩

theorem advanceWith (h : s.Twins t) (count : Int) (text : Value) :
    (s.advanceWith count text).Twins (t.advanceWith count text) := by
  refine ⟨h.source, ?_, h.limit, rfl, rfl, h.lastGood⟩
  show min (s.pos + count) s.limit = min (t.pos + count) t.limit
  rw [h.pos, h.limit]

theorem advance (h : s.Twins t) (count : Int) : (s.advance count).Twins (t.advance count) := by
  unfold State.advance
  rw [h.source, h.pos, h.limit]
  exact h.advanceWith count _

theorem withText (h : s.Twins t) (text : Value) (ok : Bool) :
    Twins { s with matched := text, ok } { t with matched := text, ok } :=
  ⟨h.source, h.pos, h.limit, rfl, rfl, h.lastGood⟩

theorem withValue (h : s.Twins t) (v w : Value) :
    Twins { s with value := v } { t with value := w } :=
  ⟨h.source, h.pos, h.limit, h.matched, h.ok, h.lastGood⟩

theorem resumed (h : s.Twins t) : (s.lastGood.getD s).Twins (t.lastGood.getD t) := by
  have snapshots := h.lastGood
  cases left : s.lastGood <;> cases right : t.lastGood <;> rw [left, right] at snapshots
  · exact h
  · cases snapshots
  · cases snapshots
  · exact bare_eq_iff.mp (Option.some.inj snapshots)

theorem settle (before : s.Twins t) (after : r.Twins r') :
    (s.settle r).Twins (t.settle r') := by
  have absent : r.lastGood.isNone = r'.lastGood.isNone := by
    have same := congrArg Option.isNone after.lastGood
    simpa only [Option.isNone_map] using same
  unfold State.settle
  rw [← after.ok, ← before.ok, ← absent]
  split
  · exact ⟨after.source, after.pos, after.limit, after.matched, rfl, rfl⟩
  split
  · have snapshot : (some s).map State.bare = (some t).map State.bare :=
      congrArg some before.bare
    exact ⟨after.source, after.pos, after.limit, after.matched, rfl, snapshot⟩
  · exact after

theorem detach (h : s.Twins t) : Option.Rel Twins s.detach t.detach := by
  have same : s.detach.map State.bare = t.detach.map State.bare := by
    rw [detach_bare, detach_bare, h.bare]
  cases left : s.detach <;> cases right : t.detach <;> rw [left, right] at same
  · exact .none
  · cases same
  · cases same
  · exact .some (bare_eq_iff.mp (Option.some.inj same))

theorem note (h : s.Twins t) (msg : Option String) : s.note msg = t.note msg := by
  obtain ⟨source, pos, limit, matched, value, ok, good⟩ := s
  obtain ⟨source', pos', limit', matched', value', ok', good'⟩ := t
  obtain rfl : source = source' := h.source
  obtain rfl : pos = pos' := h.pos
  rfl

end Twins

/-! ### The accord of states that differ in values -/

def blindness : Accord Bool where
  state
    | true => Eq
    | false => Twins
  text _ := True
  value
    | true => Eq
    | false => fun _ _ => True
  fault := Fault.SameBare
  excused fault := fault.isHard = true

theorem blindness_allows (fault : Fault) : blindness.Allows fault := by
  cases fault with
  | signal raised => exact .inl ⟨raised, raised, rfl, rfl, rfl, rfl, rfl⟩
  | _ => exact .inr rfl

theorem blindness_lawful : blindness.Lawful where
  ok := by
    rintro (_ | _) s t h
    · exact Twins.ok h
    · exact congrArg State.ok h
  matched := by
    rintro (_ | _) s t h
    · exact ⟨Twins.matched h, trivial⟩
    · exact ⟨congrArg State.matched h, trivial⟩
  value := by
    rintro (_ | _) s t h
    · exact trivial
    · exact congrArg State.value h
  remaining := by
    rintro (_ | _) s t h
    · exact Twins.remaining h
    · exact congrArg State.remaining h
  noText := by
    rintro (_ | _) s t h
    · exact ⟨Twins.noText h, trivial⟩
    · exact ⟨congrArg State.noText h, trivial⟩
  resumed := by
    rintro (_ | _) s t h
    · exact Twins.resumed h
    · cases h; rfl
  settle := by
    rintro (_ | _) s t r r' before after
    · exact Twins.settle before after
    · cases before; cases after; rfl
  withText := by
    rintro (_ | _) s t v b h -
    · exact Twins.withText h v b
    · cases h; rfl
  withValue := by
    rintro (_ | _) s t v w h values
    · exact Twins.withValue h v w
    · cases h; cases values; rfl
  restore := by
    rintro (_ | _) s t r r' before after
    · have before : s.Twins t := before
      have after : r.Twins r' := after
      exact ⟨before.source, before.pos, before.limit, after.matched, after.ok, after.lastGood⟩
    · cases before; cases after; rfl
  fresh := by
    rintro (_ | _) s t v h
    · refine ⟨true, ?_, ?_⟩
      · have h : s.Twins t := h
        show State.mk s.source s.pos s.limit s.noText v true none =
          State.mk t.source t.pos t.limit t.noText v true none
        rw [h.source, h.pos, h.limit, h.noText]
      · rintro r _ rfl
        exact ⟨bare_eq_iff.mp rfl, rfl⟩
    · cases h
      refine ⟨true, rfl, ?_⟩
      rintro r _ rfl
      exact ⟨rfl, rfl⟩
  cut := by
    rintro (_ | _) s t full full' length h - - - -
    · have h : s.Twins t := h
      have pos : s.pos + length = t.pos + length := by rw [h.pos]
      refine ⟨⟨h.source, h.pos, pos, h.matched, h.ok, h.lastGood⟩, fun c c' after => ?_⟩
      have after : c.Twins c' := after
      exact ⟨h.source, pos, h.limit, after.matched, rfl, h.lastGood⟩
    · cases h
      refine ⟨rfl, fun c c' after => ?_⟩
      cases after
      rfl
  plus := fun _ _ _ => trivial
  misfit := fun _ _ _ => blindness_allows _
  signal := by
    rintro fault fault' ⟨raised, raised', left, right, kind, -, -⟩
    exact .inl ⟨raised, raised', left, right, kind⟩
  hard := nofun

end State

/-! ### What is asked of parsers -/

/-- Two answers of a function are values or one signal, unless one of them is a refusal. -/
def Complaint.SameSignal : Except Complaint Value → Except Complaint Value → Prop
  | .error (.refusal _), _ | _, .error (.refusal _) => True
  | .error (.signal kind msg), .error (.signal kind' msg') => kind = kind' ∧ msg = msg'
  | .ok _, .ok _ => True
  | _, _ => False

def Callback.SignalsAlike (function : TextFunction) : Prop :=
  ∀ v w text, Complaint.SameSignal (function.apply (v, text)) (function.apply (w, text))

/-- What is asked of all that a parser is made of: no tests and no moves of the state, rounds that
are not tested by their value, and functions that raise no signal because of the value that they
replace. -/
def Parser.Blind : Parser → Prop
  | check _ | step _ => False
  | build function => function.SignalsAlike
  | chain links => ∀ function, .build function ∈ links → function.SignalsAlike
  | repeated test _ _ => ∀ v w text index, test.apply (v, text, index) = test.apply (w, text, index)
  | absorb merge _ _ => ∀ v w sub text,
    Complaint.SameSignal (merge.apply (v, sub, text)) (merge.apply (w, sub, text))
  | _ => True

open Run (Accords)
open State (blindness blindness_lawful blindness_allows)

theorem Run.accords_refl {α : Type} (x : Run α) : x.Accords blindness Eq x :=
  Accords.self (fun _ _ => rfl) fun fault _ => blindness_allows fault

namespace Callback

variable {α : Type} [Listed α] {f : Callback α Value} {a b : α}

theorem call_accords (alike : Complaint.SameSignal (f.apply a) (f.apply b)) :
    (f.call a).Accords blindness (fun _ _ => True) (f.call b) := by
  have hard : ∀ reason, blindness.excused (.refusal reason) := fun _ => rfl
  unfold call
  refine Accords.bind_eq .log fun _ => ?_
  cases left : f.apply a with
  | ok v =>
    cases right : f.apply b with
    | ok w => exact .pure trivial
    | error complaint =>
      rw [left, right] at alike
      cases complaint with
      | signal kind msg => exact alike.elim
      | refusal reason => exact .inr (.inl ⟨_, rfl, hard reason⟩)
  | error complaint =>
    cases complaint with
    | refusal reason => exact .inl ⟨_, rfl, hard reason⟩
    | signal kind msg =>
      cases right : f.apply b with
      | ok w =>
        rw [left, right] at alike
        exact alike.elim
      | error complaint =>
        rw [left, right] at alike
        cases complaint with
        | refusal reason => exact .inr (.inl ⟨_, rfl, hard reason⟩)
        | signal kind' msg' =>
          obtain ⟨rfl, rfl⟩ := alike
          exact .raise (blindness_allows _)

end Callback

theorem Callback.SignalsAlike.builds {function : TextFunction} (h : function.SignalsAlike) :
    blindness.Builds function := by
  rintro (_ | _) v w text values -
  · exact Callback.call_accords (h v w text)
  · cases values
    exact Run.accords_refl _

namespace Parser

variable {parser : Parser} {setting setting' : Setting}

theorem elementary_blind (elementary : parser.isElementary = true) (blind : parser.Blind)
    {s t : State} (twins : s.Twins t) :
    (parser.body setting s).Accords blindness State.Twins (parser.body setting' t) := by
  have mismatch := twins.mismatch
  have pass := twins.pass
  have atEnd : s.atEnd = t.atEnd := by
    unfold State.atEnd
    rw [twins.limit, twins.pos]
  have take : ∀ count, Accords blindness State.Twins (pure (s.advance count))
      (pure (t.advance count)) := fun count => .pure (twins.advance count)
  cases parser with
  | literal text caseSensitive =>
    unfold body Action.literal
    refine (Run.accords_refl _).bind_eq fun length => ?_
    rw [← twins.peek]
    cases s.peek length with
    | none => exact .pure mismatch
    | some chunk =>
      refine Accords.branch rfl (fun _ => take _) fun _ => ?_
      refine Accords.branch rfl (fun _ => .pure mismatch) fun _ => ?_
      refine (Run.accords_refl _).bind_eq fun found => ?_
      refine (Run.accords_refl _).bind_eq fun wanted => ?_
      split
      · exact take _
      · exact .pure mismatch
  | outcome ok =>
    cases ok with
    | true => exact .pure pass
    | false => exact .pure mismatch
  | check => exact blind.elim
  | build function =>
    have called := Callback.call_accords (blind s.value t.value t.matched)
    unfold body Action.build
    rw [twins.matched]
    refine called.bind fun v w _ => .pure ?_
    exact ⟨twins.source, twins.pos, twins.limit, twins.noText, twins.ok, twins.lastGood⟩
  | singleItem test =>
    unfold body Action.singleItem
    refine Accords.branch atEnd (fun _ => .pure mismatch) fun _ => ?_
    rw [twins.source, twins.pos]
    refine (Run.accords_refl _).bind_eq fun item => ?_
    refine (Run.accords_refl _).bind_eq fun holds => ?_
    cases holds with
    | true => exact take 1
    | false => exact .pure mismatch
  | itemRun test keepTerminator stopsWhenTrue =>
    unfold body Action.itemRun
    rw [twins.source, twins.pos, twins.limit, twins.remaining]
    refine (Run.accords_refl _).bind_eq fun stop => ?_
    exact .pure (twins.advanceWith _ _)
  | everything =>
    unfold body Action.everything
    rw [twins.remaining]
    exact take _
  | endOfInput =>
    unfold body Action.endOfInput
    rw [atEnd]
    split
    · exact .pure pass
    · exact .pure mismatch
  | _ => cases elementary

theorem throws_blind (kind : SignalKind) (msg : Option String) (trigger : Trigger) {s t : State}
    (twins : s.Twins t) :
    (Action.throws kind msg trigger s).Accords blindness State.Twins
      (Action.throws kind msg trigger t) := by
  unfold Action.throws
  refine Accords.branch (by rw [twins.ok]) (fun _ => ?_) fun _ => ?_
  · unfold Signal.raised Signal.withNote
    dsimp only
    rw [twins.note]
    cases t.note none with
    | error e => exact .raise (blindness_allows _)
    | ok note => exact .inr (.inr ⟨_, _, rfl, rfl, rfl, rfl, congrArg some twins.bare⟩)
  · rw [twins.ok]
    split
    · exact .pure twins.pass
    · exact .pure twins

theorem blindness_interrupts : blindness.Interrupts where
  endsIteration := by
    rintro _ _ ⟨raised, raised', rfl, rfl, kind, -, -⟩
    simp only [Fault.endsIteration, kind]
  allowed := fun _ _ => blindness_allows _
  excused := fun _ _ => rfl

theorem blind_admits {g : Grammar} (blind : parser.Blind) : blindness.Admits g parser := by
  -- What does not look at values is asked only about states that differ in them.
  have plainly : (∀ setting setting', parser.body setting = parser.body setting') →
      (∀ setting s t, s.Twins t →
        (parser.body setting s).Accords blindness State.Twins (parser.body setting t)) →
      ∀ setting setting', blindness.Keeps (parser.body setting) (parser.body setting') := by
    rintro same keeps setting setting' (_ | _) s t before
    · rw [same setting' setting]
      exact keeps setting s t before
    · cases before
      rw [same setting' setting]
      exact Run.accords_refl _
  cases parser with
  | base => exact plainly (fun _ _ => rfl) fun _ _ _ _ => .raise (blindness_allows _)
  | literal | outcome | build | singleItem | itemRun | everything | endOfInput =>
    exact plainly (fun _ _ => rfl) fun _ _ _ twins => elementary_blind rfl blind twins
  | check | step => exact blind.elim
  | throws kind msg trigger =>
    exact plainly (fun _ _ => rfl) fun _ _ _ twins => throws_blind kind msg trigger twins
  | forward => exact fun _ => blindness_allows _
  | lookahead => exact ⟨fun _ => blindness_allows _, blindness_interrupts⟩
  | repeated test stopsWhenTrue parser =>
    intro i v w text index _ _
    unfold Callback.test Callback.call
    rw [blind v w text index]
    refine Accords.bind (Accords.bind_eq .log fun _ => Run.accords_refl _) ?_
    rintro answer _ rfl
    exact .pure rfl
  | absorb merge initial parser =>
    rintro (_ | _) v w sub text values -
    · exact Callback.call_accords (blind v w sub text)
    · cases values
      exact Run.accords_refl _
  | morph transform parser =>
    intro text _
    exact (Run.accords_refl _).mono fun _ _ same => ⟨same, fun _ => trivial⟩
  | force parser =>
    rintro (_ | _) s t before
    · exact Accords.need (State.Twins.detach before) fun _ => blindness_allows _
    · cases before
      exact Run.accords_refl _
  | chain links => exact fun function member => (blind function member).builds
  | many | noConsume | noBuild | oblivious | catches | alternative => trivial

end Parser

namespace Grammar

variable {g : Grammar} {parser : Parser}

/-- Two runs, on states that differ only in values, of a parser whose functions do not decide by
values: unless one of them ends in a fault that is no signal, both return such states, or both raise
signals of one kind and message that carry such states if any, or both are cut off. -/
theorem act_blind (blind : g.Throughout Parser.Blind parser) (granted : Granted) {s t : State}
    (same : s.bare = t.bare)
    (soft : ∀ fault, (parser.act (g.setting granted) s).outcome = .raised fault →
      fault.isHard = false)
    (soft' : ∀ fault, (parser.act (g.setting granted) t).outcome = .raised fault →
      fault.isHard = false) :
    (∃ r r', (parser.act (g.setting granted) s).outcome = .returned r ∧
      (parser.act (g.setting granted) t).outcome = .returned r' ∧ r.bare = r'.bare) ∨
    (∃ raised raised', (parser.act (g.setting granted) s).outcome = .raised (.signal raised) ∧
      (parser.act (g.setting granted) t).outcome = .raised (.signal raised') ∧
      raised.kind = raised'.kind ∧ raised.msg = raised'.msg ∧
      raised.state.map State.bare = raised'.state.map State.bare) ∨
    (parser.act (g.setting granted) s).outcome = .exhausted ∧
      (parser.act (g.setting granted) t).outcome = .exhausted := by
  have admitted : g.Throughout (blindness.Admits g) parser :=
    fun below reaches => Parser.blind_admits (blind below reaches)
  have twins : s.Twins t := State.bare_eq_iff.mp same
  rcases act_accords_self blindness_lawful admitted granted false s t twins with
    ⟨fault, ended, hard⟩ | ⟨fault, ended, hard⟩ | both
  · have hard : fault.isHard = true := hard
    rw [soft fault ended] at hard
    cases hard
  · have hard : fault.isHard = true := hard
    rw [soft' fault ended] at hard
    cases hard
  · rcases both.ends with ⟨r, r', left, right, twins⟩ | ⟨_, _, left, right, alike⟩ | ended
    · exact .inl ⟨r, r', left, right, State.Twins.bare twins⟩
    · obtain ⟨raised, raised', rfl, rfl, alike⟩ := alike
      exact .inr (.inl ⟨raised, raised', left, right, alike⟩)
    · exact .inr (.inr ended)

def successor : TextFunction where
  name := some "successor"
  label := some "successor"
  apply := fun (value, _) => .ok (.int (value.number?.getD 0 + 1))

def counted : Parser :=
  .chain [.item .append (.many 0 (-1)
      (.chain [.item .append (.literal (.value (.ofString "a")) true), .build successor])),
    .item .append (.literal (.value (.ofString ".")) true)]

theorem counted_blind : empty.Throughout Parser.Blind counted := by
  refine .of_closed [counted, .many 0 (-1)
      (.chain [.item .append (.literal (.value (.ofString "a")) true), .build successor]),
    .chain [.item .append (.literal (.value (.ofString "a")) true), .build successor],
    .literal (.value (.ofString "a")) true, .literal (.value (.ofString ".")) true]
    ?_ ?_ ?_ (.head _)
  · simp [counted, Parser.Blind, Callback.SignalsAlike, successor, Complaint.SameSignal]
  · simp [counted, Parser.inner, Link.item?]
  · simp [counted]

/-- Where the mark is missing, the count stands in the result and in its last good state. -/
theorem counted_on_other_values :
    ∃ r r' : State,
      (counted.act (empty.setting ⟨0, 0⟩) (.start (.text "aa".toList.toArray) .null)).outcome =
        .returned r ∧
      (counted.act (empty.setting ⟨0, 0⟩) (.start (.text "aa".toList.toArray) (.int 7))).outcome =
        .returned r' ∧
      r.value = .int 2 ∧ r'.value = .int 9 ∧ r.bare = r'.bare := by
  have run : (counted.act (empty.setting ⟨0, 0⟩)
        (.start (.text "aa".toList.toArray) .null)).outcome =
      .returned ⟨.text "aa".toList.toArray, 2, 2, .ofString "", .int 2, false,
        some ⟨.text "aa".toList.toArray, 2, 2, .ofString "aa", .int 2, true, none⟩⟩ := by
    cbv
  have run' : (counted.act (empty.setting ⟨0, 0⟩)
        (.start (.text "aa".toList.toArray) (.int 7))).outcome =
      .returned ⟨.text "aa".toList.toArray, 2, 2, .ofString "", .int 9, false,
        some ⟨.text "aa".toList.toArray, 2, 2, .ofString "aa", .int 9, true, none⟩⟩ := by
    cbv
  have same : (State.start (.text "aa".toList.toArray) .null).bare =
      (State.start (.text "aa".toList.toArray) (.int 7)).bare := by
    simp only [State.start, State.bare]
  have soft : ∀ fault, (counted.act (empty.setting ⟨0, 0⟩)
      (.start (.text "aa".toList.toArray) .null)).outcome = .raised fault →
      fault.isHard = false := by
    intro fault ended
    rw [run] at ended
    cases ended
  have soft' : ∀ fault, (counted.act (empty.setting ⟨0, 0⟩)
      (.start (.text "aa".toList.toArray) (.int 7))).outcome = .raised fault →
      fault.isHard = false := by
    intro fault ended
    rw [run'] at ended
    cases ended
  rcases act_blind counted_blind ⟨0, 0⟩ same soft soft' with
    ⟨r, r', left, right, alike⟩ | ⟨_, _, left, -⟩ | ⟨left, -⟩
  · rw [run] at left
    rw [run'] at right
    cases left
    cases right
    exact ⟨_, _, run, run', rfl, rfl, alike⟩
  · rw [run] at left
    cases left
  · rw [run] at left
    cases left

end Grammar

end Catena
