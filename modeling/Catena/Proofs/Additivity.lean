import Mathlib
import Catena.Proofs.Course
import Catena.Proofs.Flattening
import Catena.Proofs.Safety
import Catena.Proofs.Termination
import Catena.Proofs.Unrolling

/-!
# Repetitions one after the other

Two repetitions of one parser in a row are one repetition with the sum of their bounds, if the parser
looks at no text and consumes something wherever it succeeds: `Parser.many_additive`. Where the first
ends short of its bound the parser fails, and then the second makes no round, since the parser fails
again. Where it reaches its bound the second goes on with the rounds, but for a text of its own, which
the chain puts behind that of the first.
-/

namespace Catena

/-- Two results agree in all but the text that failures are left with. -/
structure State.SameButFailedText (r r' : State) : Prop where
  ok : r.ok = r'.ok
  source : r.source = r'.source
  pos : r.pos = r'.pos
  limit : r.limit = r'.limit
  value : r.value = r'.value
  matched : r.ok = true → r.matched = r'.matched

theorem State.SameButFailedText.eq_of_clean {r r' : State} (alike : r.SameButFailedText r')
    (good : r.ok = true) (clean : r.lastGood = none) (clean' : r'.lastGood = none) : r = r' := by
  have matched := alike.matched good
  obtain ⟨ok, source, pos, limit, value, -⟩ := alike
  cases r
  cases r'
  simp only at clean clean' matched ok source pos limit value
  rw [clean, clean', matched, ok, source, pos, limit, value]

/-! ### Texts -/

namespace Value

variable {kind : Kind} {a b c ab : Value}

theorem plus_assoc (left : a.OfKind kind) (mid : b.OfKind kind) (sum : a.plus? b = some ab) :
    ab.plus? c = (b.plus? c).bind a.plus? := by
  obtain ⟨s, rfl, rfl⟩ := left
  obtain ⟨t, rfl, same⟩ := mid
  cases s <;> cases t <;> cases same <;> cases sum <;> cases c with
  | seq u => cases u <;> simp [plus?, Sequence.append?]
  | _ => simp [plus?]

theorem plus_empty {s : Buffer} (of : a.OfKind s.kind) : a.plus? (.seq s.empty) = some a := by
  obtain ⟨t, rfl, same⟩ := of
  cases s <;> cases t <;> cases same <;> simp [plus?, Sequence.append?, Sequence.empty]

end Value

namespace Action

/-- An action looks at no text: on states that differ in the text alone it ends alike but for the text
of failures, where `same` compares faults. Here and below the states that count are successful and
well-formed. -/
def TextBlind (same : Fault → Fault → Prop) (act : Action) : Prop :=
  ∀ s text, s.WellFormed → s.ok = true → text.OfKind s.source.kind →
    (act s).outcome.Agree State.SameButFailedText same (act { s with matched := text }).outcome

def KeepsForm (act : Action) : Prop :=
  ∀ s r, s.WellFormed → s.ok = true → (act s).outcome = .returned r → r.ok = true →
    r.window.Inside ∧ r.matched.OfKind r.source.kind

def Shortens (act : Action) : Prop :=
  ∀ s r, s.WellFormed → s.ok = true → (act s).outcome = .returned r → r.ok = true →
    r.remaining < s.remaining

end Action

theorem State.sameText {s : State} {text : Value} (same : s.matched = text) :
    { s with matched := text } = s := by
  subst same
  cases s
  rfl

namespace State.WellFormed

variable {s : State}

theorem inside (h : s.WellFormed) : s.window.Inside :=
  ⟨h.1, h.2.1, h.2.2.1⟩

theorem live (h : s.WellFormed) (ok : s.ok = true) : s.Live :=
  ⟨h.inside, h.2.2.2.2, ok⟩

theorem withText (h : s.WellFormed) {text : Value} (of : text.OfKind s.source.kind) :
    State.WellFormed { s with matched := text } :=
  ⟨h.1, h.2.1, h.2.2.1, of, h.2.2.2.2⟩

end State.WellFormed

namespace Action

structure Rounds.Fit (kind : Kind) (rounds : Rounds) : Prop where
  formed : rounds.current.WellFormed
  ok : rounds.current.ok = true
  source : rounds.current.source.kind = kind
  text : rounds.matched.OfKind kind

def Rounds.whole (rounds : Rounds) : State :=
  { rounds.current with matched := rounds.matched }

/-- How many rounds a repetition from a state is granted by its bound; one that is open needs no more
than one for each item, and one to fail. -/
def allowance (most : Int) (s : State) : Nat :=
  if most < 0 then s.remaining.toNat + 1 else most.toNat

def roundsUpTo (act : Action) (left : Nat) (rounds : Rounds) : Run Rounds :=
  repeatRounds act (fun _ _ => pure true) pure left rounds

structure Regular (same : Fault → Fault → Prop) (act : Action) : Prop where
  blind : act.TextBlind same
  form : act.KeepsForm
  shortens : act.Shortens
  clean : ∀ s r, (act s).outcome = .returned r → r.ok = true → r.lastGood = none

variable {same : Fault → Fault → Prop} {act : Action} {kind : Kind} {rounds rounds' : Rounds}
  {s t r r' : State}

theorem Regular.eq_of_alike (regular : Regular same act)
    (run : (act s).outcome = .returned r) (run' : (act t).outcome = .returned r')
    (alike : r.SameButFailedText r') (good : r.ok = true) : r = r' :=
  alike.eq_of_clean good (regular.clean s r run good) (regular.clean t r' run' (alike.ok ▸ good))

namespace Rounds.Fit

theorem live (h : rounds.Fit kind) : rounds.current.Live :=
  h.formed.live h.ok

theorem whole_eq (h : rounds.Fit kind) :
    { rounds.current with matched := rounds.matched, ok := true } = rounds.whole := by
  rw [Rounds.whole, h.ok]

theorem whole_ok (h : rounds.Fit kind) : rounds.whole.ok = true :=
  h.ok

theorem whole_formed (h : rounds.Fit kind) : rounds.whole.WellFormed := by
  obtain ⟨first, order, last, -, clean⟩ := h.formed
  obtain ⟨text, same, of⟩ := h.text
  exact ⟨first, order, last, ⟨text, same, of.trans h.source.symm⟩, clean⟩

theorem start (formed : s.WellFormed) (ok : s.ok = true) :
    Rounds.Fit s.source.kind ⟨0, s.noText, s⟩ :=
  ⟨formed, ok, rfl, _, rfl, Sequence.kind_empty _⟩

theorem next (regular : Regular same act) (h : rounds.Fit kind)
    (run : (act rounds.current).outcome = .returned r) (good : r.ok = true) {matched : Value}
    (sum : rounds.matched.plus? r.matched = some matched) : (rounds.next r matched).Fit kind := by
  obtain ⟨inside, text⟩ := regular.form _ r h.formed h.ok run good
  have joined : matched.OfKind kind := h.text.of_plus sum
  have source : r.source.kind = kind := h.text.kind_of_plus text sum
  refine ⟨⟨inside.1, inside.2.1, inside.2.2, ?_, regular.clean _ r run good⟩, good, source, joined⟩
  obtain ⟨whole, same, ofKind⟩ := joined
  exact ⟨whole, same, ofKind.trans source.symm⟩

theorem lasting (regular : Regular same act) (kind : Kind) (bound : Int) :
    Lasting act fun rounds => rounds.Fit kind ∧ rounds.current.remaining ≤ bound := by
  rintro rounds r matched ⟨fit, less⟩ run good sum
  have consumed : r.remaining < rounds.current.remaining :=
    regular.shortens _ r fit.formed fit.ok run good
  exact ⟨fit.next regular run good sum, Int.le_trans (Int.le_of_lt consumed) less⟩

end Rounds.Fit

/-! ### Rounds that shorten -/

theorem repeatRounds_shortening (shortens : act.Shortens) (formed : rounds.current.WellFormed)
    (ok : rounds.current.ok = true) (spent : Rounds → Run Rounds) (left : Nat) :
    repeatRounds act (fun _ _ => pure true) spent (left + 1) rounds =
      act rounds.current >>= fun r =>
        if r.ok then
          Run.need (.ofSum rounds.matched r.matched) (rounds.matched.plus? r.matched) >>=
            fun matched => repeatRounds act (fun _ _ => pure true) spent left (rounds.next r matched)
        else pure rounds := by
  rw [repeatRounds_succ fun _ => true]
  refine Run.bind_congr_returned fun r run => ?_
  unfold Rounds.after
  by_cases good : r.ok = true
  · have moved : r.remaining ≠ rounds.current.remaining :=
      Int.ne_of_lt (shortens _ r formed ok run good)
    rw [if_pos good, if_pos good]
    refine congrArg _ (funext fun matched => ?_)
    rw [if_pos (by simpa using moved)]
  · rw [if_neg good, if_neg good]

theorem roundsUpTo_succ (shortens : act.Shortens) (formed : rounds.current.WellFormed)
    (ok : rounds.current.ok = true) (left : Nat) :
    roundsUpTo act (left + 1) rounds = act rounds.current >>= fun r =>
      if r.ok then
        Run.need (.ofSum rounds.matched r.matched) (rounds.matched.plus? r.matched) >>=
          fun matched => roundsUpTo act left (rounds.next r matched)
      else pure rounds :=
  repeatRounds_shortening shortens formed ok pure left

/-- With more rounds granted than there are items, it does not matter how many more. -/
theorem repeatRounds_enough (regular : Regular same act) (fit : rounds.Fit kind)
    {spent : Rounds → Run Rounds} {left left' : Nat} (enough : rounds.current.remaining < left)
    (enough' : rounds.current.remaining < left') :
    repeatRounds act (fun _ _ => pure true) spent left rounds = roundsUpTo act left' rounds := by
  have nonneg := fit.live.remaining_nonneg
  induction left generalizing left' rounds with
  | zero => omega
  | succ left ih =>
    obtain ⟨left', rfl⟩ : ∃ less, left' = less + 1 := ⟨left' - 1, by omega⟩
    rw [repeatRounds_shortening regular.shortens fit.formed fit.ok,
      roundsUpTo_succ regular.shortens fit.formed fit.ok]
    refine Run.bind_congr_returned fun r run => ?_
    by_cases good : r.ok = true
    · rw [if_pos good, if_pos good]
      refine Run.bind_congr_returned fun matched sum => ?_
      have next := fit.next regular run good (Run.need_returned_iff.mp sum)
      have consumed : (rounds.next r matched).current.remaining < rounds.current.remaining :=
        regular.shortens _ r fit.formed fit.ok run good
      exact ih next (by omega) (by omega) next.live.remaining_nonneg
    · rw [if_neg good, if_neg good]

/-- So many rounds and then some more: where the first ones end short the action fails, and fails
once more. -/
theorem roundsUpTo_add (regular : Regular same act) (fit : rounds.Fit kind) (count more : Nat) :
    (roundsUpTo act (count + more) rounds).outcome =
      (roundsUpTo act count rounds >>= roundsUpTo act more).outcome := by
  induction count generalizing rounds with
  | zero =>
    rw [Nat.zero_add]
    rfl
  | succ count ih =>
    rw [Nat.add_right_comm, roundsUpTo_succ regular.shortens fit.formed fit.ok,
      roundsUpTo_succ regular.shortens fit.formed fit.ok, bind_assoc]
    refine Run.bind_outcome_congr rfl fun r run => ?_
    by_cases good : r.ok = true
    · rw [if_pos good, if_pos good, bind_assoc]
      refine Run.bind_outcome_congr rfl fun matched sum => ?_
      exact ih (fit.next regular run good (Run.need_returned_iff.mp sum))
    · rw [if_neg good, if_neg good, pure_bind]
      cases more with
      | zero => rfl
      | succ more =>
        rw [roundsUpTo_succ regular.shortens fit.formed fit.ok, Run.bind_outcome run, if_neg good]

/-! ### Rounds on another text -/

/-- Of two repetitions the second stands where the first does but for the text: with that of the
first behind some other one. -/
structure Trails (kind : Kind) (front : Value) (rounds rounds' : Rounds) : Prop where
  current : ∃ text, text.OfKind kind ∧ rounds'.current = { rounds.current with matched := text }
  text : rounds'.matched.OfKind kind
  joined : front.plus? rounds'.matched = some rounds.matched

theorem Trails.start (fit : rounds.Fit kind) :
    Trails kind rounds.matched rounds ⟨0, rounds.whole.noText, rounds.whole⟩ := by
  have empty := fit.source ▸ Sequence.kind_empty rounds.current.source
  have text := fit.source ▸ fit.text
  exact ⟨⟨rounds.matched, fit.text, rfl⟩, ⟨_, rfl, empty⟩, Value.plus_empty text⟩

theorem Trails.next {front : Value} (h : Trails kind front rounds rounds')
    (of : front.OfKind kind) {addition matched : Value}
    (sum : rounds.matched.plus? addition = some matched) :
    ∃ matched', rounds'.matched.plus? addition = some matched' ∧ matched'.OfKind kind ∧
      front.plus? matched' = some matched := by
  rw [Value.plus_assoc of h.text h.joined, Option.bind_eq_some_iff] at sum
  obtain ⟨matched', added, joined⟩ := sum
  exact ⟨matched', added, h.text.of_plus added, joined⟩

theorem Trails.next_none {front : Value} (h : Trails kind front rounds rounds')
    (of : front.OfKind kind) {addition : Value} (alien : rounds.matched.plus? addition = none) :
    rounds'.matched.plus? addition = none := by
  cases added : rounds'.matched.plus? addition with
  | none => rfl
  | some matched' =>
    obtain ⟨matched, joined, -⟩ := of.plus (h.text.of_plus added)
    rw [Value.plus_assoc of h.text h.joined, added, Option.bind_some, joined] at alien
    cases alien

theorem roundsUpTo_trails (regular : Regular same act) (reflexive : ∀ fault, same fault fault)
    {front : Value} (of : front.OfKind kind) (fit : rounds.Fit kind)
    (trails : Trails kind front rounds rounds') (left : Nat) :
    (roundsUpTo act left rounds).outcome.Agree (Trails kind front) same
      (roundsUpTo act left rounds').outcome := by
  induction left generalizing rounds rounds' with
  | zero => exact trails
  | succ left ih =>
    obtain ⟨text, given, current⟩ := trails.current
    have formed' : rounds'.current.WellFormed := current ▸ fit.formed.withText (fit.source ▸ given)
    have ok' : rounds'.current.ok = true := current ▸ fit.ok
    rw [roundsUpTo_succ regular.shortens fit.formed fit.ok,
      roundsUpTo_succ regular.shortens formed' ok', current]
    refine (regular.blind rounds.current text fit.formed fit.ok (fit.source ▸ given)).bind
      fun r r' run run' alike => ?_
    cases good : r.ok with
    | true =>
      obtain rfl : r = r' := regular.eq_of_alike run run' alike good
      rw [if_pos rfl, if_pos good]
      cases sum : rounds.matched.plus? r.matched with
      | some matched =>
        obtain ⟨matched', added, text, joined⟩ := trails.next of sum
        rw [added]
        exact ih (fit.next regular run good sum) ⟨⟨matched', text, rfl⟩, text, joined⟩
      | none =>
        rw [trails.next_none of sum, fit.text.ofSum, trails.text.ofSum]
        exact reflexive _
    | false =>
      rw [if_neg (by simp), if_neg (by simp [← alike.ok, good])]
      exact trails

/-! ### Bounds put together -/

def sumOfBounds (m n : Int) : Int :=
  if m < 0 ∨ n < 0 then -1 else m + n

theorem allowance_of_neg {most : Int} (isOpen : most < 0) (s : State) :
    allowance most s = s.remaining.toNat + 1 :=
  if_pos isOpen

theorem allowance_of_nonneg {most : Int} (bounded : 0 ≤ most) (s : State) :
    allowance most s = most.toNat :=
  if_neg (Int.not_lt.mpr bounded)

theorem lt_allowance {most : Int} (isOpen : most < 0) (s : State) :
    s.remaining < allowance most s := by
  rw [allowance_of_neg isOpen]
  omega

theorem sumOfBounds_neg {m n : Int} (isOpen : m < 0 ∨ n < 0) : sumOfBounds m n < 0 := by
  rw [sumOfBounds, if_pos isOpen]
  decide

theorem lt_add_allowance {m n : Int} (isOpen : m < 0 ∨ n < 0) (s : State) :
    s.remaining < (allowance m s + allowance n s : Nat) := by
  obtain first | second := isOpen
  · have here := lt_allowance first s
    omega
  · have here := lt_allowance second s
    omega

theorem allowance_sumOfBounds {m n : Int} (first : 0 ≤ m) (second : 0 ≤ n) (s : State) :
    allowance (sumOfBounds m n) s = allowance m s + allowance n s := by
  rw [sumOfBounds, if_neg (by omega), allowance_of_nonneg (by omega), allowance_of_nonneg first,
    allowance_of_nonneg second, Int.toNat_add first second]

theorem roundsUpTo_returned (regular : Regular same act) (fit : rounds.Fit kind) {left : Nat}
    {ended : Rounds} (run : (roundsUpTo act left rounds).outcome = .returned ended) :
    ended.Fit kind ∧ ended.current.remaining ≤ rounds.current.remaining := by
  refine repeatRounds_returned (Rounds.Fit.lasting regular kind _)
    (fun rounds ended holds last => ?_)
    ⟨fit, Int.le_refl _⟩ run
  exact Run.pure_returned_iff.mp last ▸ holds

theorem roundsUpTo_sumOfBounds (regular : Regular same act) (fit : rounds.Fit kind) (m n : Int) :
    (roundsUpTo act (allowance (sumOfBounds m n) rounds.current) rounds).outcome =
      (roundsUpTo act (allowance m rounds.current) rounds >>= fun middle =>
        roundsUpTo act (allowance n middle.current) middle).outcome := by
  calc (roundsUpTo act (allowance (sumOfBounds m n) rounds.current) rounds).outcome
      = (roundsUpTo act (allowance m rounds.current + allowance n rounds.current)
        rounds).outcome := by
        by_cases bounded : 0 ≤ m ∧ 0 ≤ n
        · rw [allowance_sumOfBounds bounded.1 bounded.2]
        · have isOpen : m < 0 ∨ n < 0 := by omega
          exact congrArg Run.outcome (repeatRounds_enough regular fit
            (lt_allowance (sumOfBounds_neg isOpen) _) (lt_add_allowance isOpen _))
    _ = (roundsUpTo act (allowance m rounds.current) rounds >>=
          roundsUpTo act (allowance n rounds.current)).outcome := roundsUpTo_add regular fit _ _
    _ = (roundsUpTo act (allowance m rounds.current) rounds >>= fun middle =>
          roundsUpTo act (allowance n middle.current) middle).outcome := by
        refine Run.bind_outcome_congr rfl fun middle run => ?_
        obtain ⟨fit', less⟩ := roundsUpTo_returned regular fit run
        by_cases isOpen : n < 0
        · have here : middle.current.remaining < allowance n rounds.current := by
            rw [allowance_of_neg isOpen]
            omega
          exact congrArg Run.outcome
            (repeatRounds_enough regular fit' here (lt_allowance isOpen middle.current))
        · rw [allowance_of_nonneg (Int.not_lt.mp isOpen), allowance_of_nonneg (Int.not_lt.mp isOpen)]

end Action

/-! ### Repetitions as parsers -/

namespace Parser

variable {setting : Setting} {parser : Parser} {s : State} {same : Fault → Fault → Prop}

theorem many_act (regular : Action.Regular same (parser.act setting)) (formed : s.WellFormed)
    (ok : s.ok = true) (most : Int) :
    (many 0 most parser).act setting s =
      Action.roundsUpTo (parser.act setting) (Action.allowance most s)
        ⟨0, s.noText, s⟩ >>= fun rounds =>
          pure rounds.whole := by
  have fit := Action.Rounds.Fit.start formed ok
  have nonneg := fit.live.remaining_nonneg
  have body : (many 0 most parser).act setting s =
      Action.many setting.patience 0 most (parser.act setting) s >>= fun r =>
        pure (s.settle r) := rfl
  have loops : Action.many setting.patience 0 most (parser.act setting) s =
      Action.roundsUpTo (parser.act setting) (Action.allowance most s)
        ⟨0, s.noText, s⟩ >>= fun rounds =>
          pure { rounds.current with
            matched := rounds.matched, ok := (0 : Int) ≤ rounds.count } := by
    by_cases isOpen : most < 0
    · rw [Action.many_open _ 0 isOpen, Action.repeatRounds_enough regular fit
        (by dsimp only; omega) (Action.lt_allowance isOpen s)]
    · obtain ⟨bound, rfl⟩ := Int.eq_ofNat_of_zero_le (Int.not_lt.mp isOpen)
      rw [Action.many_below, Action.allowance_of_nonneg (Int.natCast_nonneg bound)]
      rfl
  rw [body, loops, bind_assoc]
  refine Run.bind_congr_returned fun rounds run => ?_
  obtain ⟨fit', -⟩ := Action.roundsUpTo_returned regular fit run
  rw [pure_bind, Action.ok_of_no_least, fit'.whole_eq,
    State.settle_of_clean fit'.whole_ok fit'.whole_formed.2.2.2.2]

theorem many_formed (regular : Action.Regular same (parser.act setting)) (formed : s.WellFormed)
    (ok : s.ok = true) {most : Int} {r : State}
    (run : ((many 0 most parser).act setting s).outcome = .returned r) :
    r.WellFormed ∧ r.ok = true ∧ r.source.kind = s.source.kind := by
  rw [many_act regular formed ok] at run
  obtain ⟨rounds, made, last⟩ := Run.bind_returned_iff.mp run
  obtain rfl := Run.pure_returned_iff.mp last
  obtain ⟨fit, -⟩ := Action.roundsUpTo_returned regular (.start formed ok) made
  exact ⟨fit.whole_formed, fit.whole_ok, fit.source⟩

/-- The second of two repetitions in a row starts on what the first leaves, and the text of the first
goes before its own. -/
theorem repetitions_act {first second : Parser} (regular : Action.Regular same (first.act setting))
    (regular' : Action.Regular same (second.act setting)) (formed : s.WellFormed)
    (ok : s.ok = true) (m n : Int) :
    (chain [.item .append (many 0 m first), .item .append (many 0 n second)]).act setting s =
      (many 0 m first).act setting s >>= fun middle =>
        (many 0 n second).act setting middle >>= fun last =>
          Run.need (.ofSum middle.matched last.matched) (middle.matched.plus? last.matched) >>=
            fun joined => pure { last with matched := joined } := by
  have links : parts setting [.item .append (many 0 m first), .item .append (many 0 n second)] =
      [.item .append ⟨(many 0 m first).act setting, {}, none⟩,
        .item .append ⟨(many 0 n second).act setting, {}, none⟩] := rfl
  rw [chain_act, links, Chain.follow_ordinary ok, bind_assoc]
  refine Run.bind_congr_returned fun middle run => ?_
  obtain ⟨formed', ok', kind⟩ := many_formed regular formed ok run
  have text : s.noText.plus? middle.matched = some middle.matched :=
    s.noText_plus (kind ▸ formed'.2.2.2.1)
  rw [if_pos ok', Chain.resume, Fold.join, text, Run.need, pure_bind, State.sameText rfl,
    Chain.follow_ordinary ok', bind_assoc]
  refine Run.bind_congr_returned fun last run => ?_
  obtain ⟨formed'', ok'', -⟩ := many_formed regular' formed' ok' run
  rw [if_pos ok'', Chain.resume, Fold.join, bind_assoc]
  refine congrArg _ (funext fun joined => ?_)
  rw [Chain.follow, pure_bind]
  exact congrArg pure (State.settle_of_clean ok'' formed''.2.2.2.2)

/-- One repetition with the sum of two bounds ends as two in a row do, in a chain, with all that a
result has, where failures of the parser may differ for a text in faults that count as the same. A
negative bound is none. The parser looks at no text, keeps the form of states, and leaves less wherever
it succeeds. -/
theorem many_additive (reflexive : ∀ fault, same fault fault)
    (blind : (parser.act setting).TextBlind same) (form : (parser.act setting).KeepsForm)
    (shortens : (parser.act setting).Shortens) (formed : s.WellFormed) (ok : s.ok = true)
    (m n : Int) :
    ((many 0 (Action.sumOfBounds m n) parser).act setting s).outcome.Agree Eq same
      ((chain [.item .append (many 0 m parser), .item .append (many 0 n parser)]).act
        setting s).outcome := by
  have regular : Action.Regular same (parser.act setting) :=
    ⟨blind, form, shortens, fun _ _ => State.settled_clean⟩
  have fit := Action.Rounds.Fit.start formed ok
  rw [repetitions_act regular regular formed ok, many_act regular formed ok,
    many_act regular formed ok,
    Run.bind_outcome_congr (Action.roundsUpTo_sumOfBounds regular fit m n) fun _ _ => rfl, bind_assoc,
    bind_assoc]
  refine (Outcome.Agree.refl reflexive (Action.roundsUpTo (parser.act setting)
    (Action.allowance m s) ⟨0, s.noText, s⟩).outcome).bind ?_
  rintro middle _ run - rfl
  obtain ⟨fit', -⟩ := Action.roundsUpTo_returned regular fit run
  rw [pure_bind, many_act regular fit'.whole_formed fit'.whole_ok, bind_assoc]
  refine (Action.roundsUpTo_trails regular reflexive fit'.text fit' (.start fit') _).bind ?_
  rintro rounds last - - ⟨⟨text, -, current⟩, -, joined⟩
  have sum : middle.whole.matched.plus? last.whole.matched = some rounds.matched := joined
  rw [pure_bind, sum, Run.need, pure_bind, Action.Rounds.whole, Action.Rounds.whole, current]
  rfl

/-! ### Elementary parsers -/

theorem settled_agree {body : Action} {text : Value}
    (same : body { s with matched := text } = body s) :
    (body.settled s).outcome.Agree State.SameButFailedText Eq
      (body.settled { s with matched := text }).outcome := by
  unfold Action.settled
  rw [same]
  refine (Outcome.Agree.refl (fun _ => rfl) (body s).outcome).bind ?_
  rintro r _ - - rfl
  obtain ⟨good, left⟩ := State.settle_eq s r
  obtain ⟨good', right⟩ := State.settle_eq { s with matched := text } r
  rw [left, right]
  exact ⟨rfl, rfl, rfl, rfl, rfl, fun _ => rfl⟩

/-- A parser whose action never reads the text looks at none. -/
theorem textBlind_of_same {body : Action}
    (same : ∀ (s : State) text, body { s with matched := text } = body s) :
    body.settled.TextBlind Eq :=
  fun s text _ _ _ => settled_agree (same s text)

theorem sign_textBlind (setting : Setting) : (sign.act setting).TextBlind Eq :=
  textBlind_of_same fun s text =>
    (Action.literal_seq _ { s with matched := text }).trans (Action.literal_seq _ s).symm

theorem keepsForm_of_elementary (elementary : parser.isElementary = true)
    (shrinks : (parser.act setting).Shrinks) : (parser.act setting).KeepsForm := by
  intro s r formed live run good
  obtain ⟨source, matched⟩ := elementary_takes elementary run
  exact ⟨(shrinks s r live (formed.live live).inside run).1, source ▸ matched good⟩

theorem shortens_of_consumes {act : Action} (consumes : act.Consumes) : act.Shortens :=
  fun s r formed ok => consumes s r (formed.live ok)

/-- Two signs are taken at once, or one and then the other. -/
theorem signs_additive :
    ∃ s r : State, s.WellFormed ∧ s.ok = true ∧ r.matched = .ofString "aa" ∧ r.pos = 2 ∧
      ((many 0 (-1) sign).act (Grammar.empty.setting ⟨0, 0⟩) s).outcome = .returned r ∧
      ((chain [.item .append (many 0 1 sign), .item .append (many 0 (-1) sign)]).act
        (Grammar.empty.setting ⟨0, 0⟩) s).outcome = .returned r := by
  have run : ((many 0 (-1) sign).act (Grammar.empty.setting ⟨0, 0⟩)
        (.start (.text "aab".toList.toArray) .null)).outcome =
      .returned ⟨.text "aab".toList.toArray, 2, 3, .ofString "aa", .null, true, none⟩ := by
    cbv
  have form := keepsForm_of_elementary rfl (sign_shrinks (Grammar.empty.setting ⟨0, 0⟩))
  have one : (Plain.value (.ofString "a")).length? = some (0 + 1) := rfl
  have formed := State.start_wellFormed (.text "aab".toList.toArray) .null
  have same := Outcome.Agree.eq (many_additive (fun _ => rfl) (sign_textBlind _) form
    (shortens_of_consumes (Grammar.literal_consumes one true _)) formed rfl 1 (-1)) (fun _ _ => id)
    fun _ _ => id
  exact ⟨_, _, formed, rfl, rfl, rfl, run, same.symm.trans run⟩

end Parser

end Catena
