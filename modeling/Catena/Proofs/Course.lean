import Mathlib
import Catena.Proofs.Flattening

/-!
# The course of a chain

What an ordinary chain does, said without the text that it keeps on the side: parsers run in turn,
each on the state that the one before has left, and the text there is put together from all that
they have matched since the last one that discards. `Parser.chain_runs_course`: a chain returns just
what a course over all of its links leads to, or the result of the first parser that fails, and
there is one of them unless something on the way raises a fault or is cut off.
-/

namespace Catena

theorem Run.bind_eq_returned {α β : Type} {x : Run α} {next : α → Run β} {events : List Event}
    {b : β} (h : x >>= next = ⟨events, .returned b⟩) :
    ∃ here later a, x = ⟨here, .returned a⟩ ∧ next a = ⟨later, .returned b⟩ ∧
      events = here ++ later := by
  rcases x with ⟨here, a | fault | _⟩
  · obtain ⟨rfl, last⟩ := Run.mk.inj h
    exact ⟨here, (next a).events, a, rfl, by rw [← last], rfl⟩
  · cases (Run.mk.inj h).2
  · cases (Run.mk.inj h).2

theorem Run.pure_eq_returned {α : Type} {a b : α} {events : List Event}
    (h : (pure a : Run α) = ⟨events, .returned b⟩) : events = [] ∧ a = b := by
  obtain ⟨rfl, same⟩ := Run.mk.inj h
  exact ⟨rfl, Outcome.returned.inj same⟩

theorem Run.eq_of_returned {α : Type} {x : Run α} {a : α} (h : x.outcome = .returned a) :
    x = ⟨x.events, .returned a⟩ := by
  rw [← h]

/-! ### The text of a chain -/

namespace Chain

/-- What is kept of texts that are added or discard those before: all from the last discarding one
on. -/
def kept : List (Fold × Value) → List Value
  | [] => []
  | (_, text) :: later =>
    if later.any fun piece => piece.1 = .discard then kept later
    else text :: later.map Prod.snd

variable {pieces : List (Fold × Value)} {text : Value}

theorem kept_append : kept (pieces ++ [(.append, text)]) = kept pieces ++ [text] := by
  induction pieces with
  | nil => rfl
  | cons piece later ih =>
    have same : (later ++ [(Fold.append, text)]).any (fun piece => piece.1 = .discard) =
        later.any fun piece => piece.1 = .discard := by
      simp
    simp only [List.cons_append, kept, same, ih, List.map_append, List.map_cons, List.map_nil]
    split <;> rfl

theorem kept_discard : kept (pieces ++ [(.discard, text)]) = [text] := by
  induction pieces with
  | nil => rfl
  | cons piece later ih => simp [kept, ih]

theorem join_events {fold : Fold} {text addition joined : Value} {events : List Event}
    (h : fold.join text addition = ⟨events, .returned joined⟩) : events = [] := by
  cases fold with
  | append =>
    simp only [Fold.join] at h
    cases sum : text.plus? addition <;> rw [sum] at h
    · cases (Run.mk.inj h).2
    · exact (Run.mk.inj h).1.symm
  | discard => exact (Run.pure_eq_returned h).1

/-- What a parser does to a successful chain, in the events that it leaves. -/
theorem step_item_live {fold : Fold} {part : Part} {s t : State} {joined : Value}
    {events : List Event} (live : s.ok = true) :
    step (.item fold part) s text = ⟨events, .returned (t, joined)⟩ ↔
    ∃ result, part.act s = ⟨events, .returned result⟩ ∧
      (result.ok = false ∧ t = result ∧ joined = text ∨
        result.ok = true ∧ t = { result with matched := joined } ∧
          if part.traits.inspectsOnly then joined = text
          else (fold.join text result.matched).outcome = .returned joined) := by
  simp only [step, if_pos live]
  constructor
  · intro run
    obtain ⟨here, later, result, acted, rest, rfl⟩ := Run.bind_eq_returned run
    refine ⟨result, ?_⟩
    cases good : result.ok with
    | false =>
      simp only [good, Bool.not_false, if_true] at rest
      obtain ⟨rfl, same⟩ := Run.pure_eq_returned rest
      obtain ⟨rfl, rfl⟩ := Prod.mk.inj same
      exact ⟨by rw [List.append_nil]; exact acted, .inl ⟨rfl, rfl, rfl⟩⟩
    | true =>
      simp only [good, Bool.not_true, Bool.false_eq_true, if_false] at rest
      split at rest <;> obtain ⟨joins, ends, added, join, put, rfl⟩ := Run.bind_eq_returned rest <;>
        obtain ⟨rfl, same⟩ := Run.pure_eq_returned put <;> obtain ⟨rfl, rfl⟩ := Prod.mk.inj same
      · obtain ⟨rfl, rfl⟩ := Run.pure_eq_returned join
        rw [if_pos ‹_›]
        exact ⟨by simpa using acted, .inr ⟨rfl, rfl, rfl⟩⟩
      · obtain rfl := join_events join
        rw [if_neg ‹_›, join]
        exact ⟨by simpa using acted, .inr ⟨rfl, rfl, rfl⟩⟩
  · rintro ⟨result, acted, ⟨failed, rfl, rfl⟩ | ⟨good, rfl, join⟩⟩
    · simp [acted, failed, Run.pure_eq]
    · split at join
      · simp [*, Run.pure_eq]
      · have quiet := Run.eq_of_returned join
        rw [join_events quiet] at quiet
        simp [*, Run.pure_eq]

end Chain

def State.gather (s : State) (pieces : List (Fold × Value)) : Option Value :=
  (Chain.kept pieces).foldlM Value.plus? s.noText

theorem State.plus_noText {s : State} {v sum : Value} (h : s.noText.plus? v = some sum) :
    sum = v := by
  have none : s.noText.OfKind s.source.kind := ⟨_, rfl, Sequence.kind_empty _⟩
  cases v with
  | seq text =>
    have same : text.kind = s.source.kind := none.kind_of_plus ⟨text, rfl, rfl⟩ h
    exact Option.some.inj (h.symm.trans (s.noText_plus ⟨text, rfl, same⟩))
  | _ => simp [noText, Value.plus?] at h

theorem State.gather_ofKind {s : State} {pieces : List (Fold × Value)} {text : Value}
    (gathered : s.gather pieces = some text) : text.OfKind s.source.kind := by
  have sums : ∀ {texts : List Value} {before : Value}, before.OfKind s.source.kind →
      texts.foldlM Value.plus? before = some text → text.OfKind s.source.kind := by
    intro texts
    induction texts with
    | nil =>
      intro before of same
      exact Option.some.inj same ▸ of
    | cons addition later ih =>
      intro before of sum
      obtain ⟨joined, first, sum⟩ := Option.bind_eq_some_iff.mp sum
      exact ih (of.of_plus first) sum
  exact sums ⟨_, rfl, Sequence.kind_empty _⟩ gathered

theorem State.gather_piece {s : State} {pieces : List (Fold × Value)} {text addition : Value}
    (gathered : s.gather pieces = some text) (of : addition.OfKind s.source.kind) (fold : Fold) :
    ∃ joined, s.gather (pieces ++ [(fold, addition)]) = some joined := by
  have before := gather_ofKind gathered
  unfold gather at gathered ⊢
  cases fold with
  | append =>
    obtain ⟨joined, sum, -⟩ := before.plus of
    rw [Chain.kept_append, List.foldlM_append, gathered]
    exact ⟨joined, by simpa using sum⟩
  | discard =>
    rw [Chain.kept_discard]
    exact ⟨addition, by simpa using s.noText_plus of⟩

/-- The text of a chain with one more piece is what its link makes of the one before. -/
theorem State.join_of_gather {s : State} {pieces : List (Fold × Value)} {fold : Fold}
    {text addition joined : Value} (gathered : s.gather pieces = some text)
    (after : s.gather (pieces ++ [(fold, addition)]) = some joined) :
    (fold.join text addition).outcome = .returned joined := by
  unfold gather at gathered after
  cases fold with
  | append =>
    rw [Chain.kept_append, List.foldlM_append, gathered] at after
    exact Run.need_returned_iff.mpr (by simpa using after)
  | discard =>
    rw [Chain.kept_discard] at after
    exact Run.pure_returned_iff.mpr (State.plus_noText (by simpa using after)).symm

theorem State.settle_settle_of_ok {before : State} (live : before.ok = true) (other after : State) :
    other.settle (before.settle after) = before.settle after := by
  cases ok : after.ok with
  | true =>
    rw [settle_of_ok ok]
    exact settle_of_clean ok rfl
  | false =>
    cases snapshot : after.lastGood with
    | some good =>
      rw [settle_of_snapshot ok snapshot]
      exact settle_of_snapshot ok snapshot
    | none =>
      rw [settle_of_failed live ok snapshot]
      exact settle_of_snapshot ok rfl

/-! ### Courses -/

namespace Parser

/-- Links of which none runs on a failed chain, and none is a lookahead with parsers behind it. -/
def Ordinary : List (Link Parser) → Prop
  | [] => True
  | .build _ :: rest => Ordinary rest
  | .item _ parser :: rest =>
    parser.traits.oblivious = false ∧ parser.traits.inspectsFailure = false ∧
      (parser.isLookahead = true → rest.any Link.isItem = false) ∧ Ordinary rest

/-- A run along links from a state on which all parsers succeed: the links, the events, what the
parsers have matched that do not just inspect, and where it leads. -/
inductive Course (setting : Setting) (s : State) :
    List (Link Parser) → List Event → List (Fold × Value) → State → Prop where
  | start : Course setting s [] [] [] s
  /-- A function makes the value from that before it and the text so far. -/
  | build {done : List (Link Parser)} {events here : List Event} {pieces : List (Fold × Value)}
      {t : State} {function : TextFunction} {text value : Value}
      (before : Course setting s done events pieces t) (gathered : s.gather pieces = some text)
      (run : function.call (t.value, text) = ⟨here, .returned value⟩) :
    Course setting s (done ++ [.build function]) (events ++ here) pieces { t with value }
  /-- A parser that inspects leaves the text as it was, whatever it has matched. -/
  | inspect {done : List (Link Parser)} {events here : List Event} {pieces : List (Fold × Value)}
      {t result : State} {parser : Parser} {text : Value} (fold : Fold)
      (before : Course setting s done events pieces t) (gathered : s.gather pieces = some text)
      (only : parser.traits.inspectsOnly = true)
      (run : parser.act setting t = ⟨here, .returned result⟩) (good : result.ok = true) :
    Course setting s (done ++ [.item fold parser]) (events ++ here) pieces
      { result with matched := text }
  | take {done : List (Link Parser)} {events here : List Event} {pieces : List (Fold × Value)}
      {t result : State} {parser : Parser} {text : Value} {fold : Fold}
      (before : Course setting s done events pieces t)
      (adds : parser.traits.inspectsOnly = false)
      (run : parser.act setting t = ⟨here, .returned result⟩) (good : result.ok = true)
      (gathered : s.gather (pieces ++ [(fold, result.matched)]) = some text) :
    Course setting s (done ++ [.item fold parser]) (events ++ here)
      (pieces ++ [(fold, result.matched)]) { result with matched := text }

/-- On the way along links a parser is run, where all before it have succeeded: the links behind it,
the events up to its end, and its result. -/
inductive Visit (setting : Setting) (s : State) :
    List (Link Parser) → List (Link Parser) → List Event → State → Prop where
  | visit {done : List (Link Parser)} {events here : List Event} {pieces : List (Fold × Value)}
      {t result : State} {parser : Parser} (fold : Fold) (rest : List (Link Parser))
      (before : Course setting s done events pieces t)
      (run : parser.act setting t = ⟨here, .returned result⟩) :
    Visit setting s (done ++ .item fold parser :: rest) rest (events ++ here) result

/-- Every function on the way answers, and every parser on the way returns. -/
structure Unbroken (setting : Setting) (s : State) (links : List (Link Parser)) : Prop where
  build : ∀ done function rest events pieces t text, links = done ++ .build function :: rest →
    Course setting s done events pieces t → s.gather pieces = some text →
    ∃ value, function.apply (t.value, text) = .ok value
  item : ∀ done fold parser rest events pieces t, links = done ++ .item fold parser :: rest →
    Course setting s done events pieces t →
    ∃ result, (parser.act setting t).outcome = .returned result

/-- What the parsers on the way match is of the kind of the text that is read. -/
def TakesKind (setting : Setting) (s : State) (links : List (Link Parser)) : Prop :=
  ∀ done fold parser rest events pieces t result, links = done ++ .item fold parser :: rest →
    parser.traits.inspectsOnly = false → Course setting s done events pieces t →
    (parser.act setting t).outcome = .returned result → result.ok = true →
    result.matched.OfKind s.source.kind

variable {setting : Setting} {s t r : State} {links done : List (Link Parser)}
  {events before : List Event} {pieces : List (Fold × Value)} {text : Value}

namespace Course

theorem ok (h : Course setting s links events pieces t) (live : s.ok = true) : t.ok = true := by
  induction h with
  | start => exact live
  | build _ _ _ ih => exact ih
  | inspect _ _ _ _ _ good => exact good
  | take _ _ _ good => exact good

theorem clean (h : Course setting s links events pieces t) (item : links.any Link.isItem = true) :
    t.lastGood = none := by
  induction h with
  | start => cases item
  | build _ _ _ ih => exact ih (by simpa [Link.isItem] using item)
  | inspect _ _ _ _ run good => exact (State.settled_clean (congrArg Run.outcome run) good :)
  | take _ _ run good => exact (State.settled_clean (congrArg Run.outcome run) good :)

theorem matched (h : Course setting s links events pieces t)
    (item : links.any Link.isItem = true) : s.gather pieces = some t.matched := by
  induction h with
  | start => cases item
  | build _ _ _ ih => exact ih (by simpa [Link.isItem] using item)
  | inspect _ _ gathered => exact gathered
  | take _ _ _ _ gathered => exact gathered

theorem gathered (h : Course setting s links events pieces t) :
    ∃ text, s.gather pieces = some text := by
  cases h with
  | start => exact ⟨_, rfl⟩
  | build _ gathered | inspect _ _ gathered | take _ _ _ _ gathered => exact ⟨_, gathered⟩

/-- The source, the place and the end are those that the last parser has left. -/
theorem last (h : Course setting s links events pieces t) (item : links.any Link.isItem = true) :
    ∃ rest here result, Visit setting s links rest here result ∧ rest.any Link.isItem = false ∧
      t.source = result.source ∧ t.pos = result.pos ∧ t.limit = result.limit := by
  induction h with
  | start => cases item
  | @build _ _ _ _ _ function _ _ _ _ _ ih =>
    obtain ⟨rest, here, result, visit, last, source, pos, limit⟩ :=
      ih (by simpa [Link.isItem] using item)
    refine ⟨rest ++ [.build function], here, result, ?_, ?_, source, pos, limit⟩
    · cases visit with
      | visit fold _ before run =>
        rw [List.append_assoc, List.cons_append]
        exact .visit fold _ before run
    · simpa [Link.isItem] using last
  | inspect fold before _ _ run => exact ⟨[], _, _, .visit fold [] before run, rfl, rfl, rfl, rfl⟩
  | take before _ run => exact ⟨[], _, _, .visit _ [] before run, rfl, rfl, rfl, rfl⟩

end Course

/-- The result of a visit is settled against every state. -/
theorem Visit.settle {rest : List (Link Parser)} (h : Visit setting s links rest events r)
    (live : s.ok = true) (u : State) : u.settle r = r := by
  cases h with
  | visit fold rest before run =>
    obtain ⟨t, -, settled⟩ := Run.bind_returned_iff.mp (congrArg Run.outcome run)
    obtain rfl := Run.pure_returned_iff.mp settled
    exact State.settle_settle_of_ok (before.ok live) u t

theorem unfollowed {parser : Parser} {rest : List (Link Parser)} {fold : Fold}
    (last : parser.isLookahead = true → rest.any Link.isItem = false) :
    Chain.followed (parts setting rest) (.item fold (parser.part setting)) = none := by
  cases looks : parser.isLookahead with
  | true =>
    simp only [Chain.followed, parts_any_isItem, last looks, Bool.false_eq_true, if_false]
  | false =>
    have absent : (parser.part setting).lookahead = none := backsOff_eq_none setting looks
    simp only [Chain.followed, absent, Option.map_none, ite_self]

theorem ordinary_quiet {rest : List (Link Parser)} (ordinary : Ordinary rest) :
    ∀ link ∈ parts setting rest, Chain.Quiet link := by
  induction rest with
  | nil => nofun
  | cons link rest ih =>
    cases link with
    | build function => exact List.forall_mem_cons.mpr ⟨trivial, ih ordinary⟩
    | item fold parser =>
      obtain ⟨oblivious, inspects, -, ordinary⟩ := ordinary
      exact List.forall_mem_cons.mpr ⟨⟨oblivious, inspects⟩, ih ordinary⟩

theorem Ordinary.behind (ordinary : Ordinary (done ++ rest)) : Ordinary rest := by
  induction done with
  | nil => exact ordinary
  | cons link done ih =>
    cases link with
    | build function => exact ih ordinary
    | item fold parser => exact ih ordinary.2.2.2

theorem Ordinary.unfollowed {link : Link Parser} (ordinary : Ordinary (link :: rest)) :
    Chain.followed (parts setting rest) (link.map (part setting)) = none := by
  cases link with
  | build function => rfl
  | item fold parser => exact Parser.unfollowed ordinary.2.2.1

/-- Past one link more, a chain is followed from what this link leads to. -/
theorem follow_past {link : Link Parser} {here : List Event} {u : State} {joined : Value}
    (ordinary : Ordinary (link :: rest))
    (run : Chain.step (link.map (part setting)) t text = ⟨here, .returned (u, joined)⟩)
    (upto : Chain.follow (parts setting (done ++ link :: rest)) s s.noText =
      ⟨before, .returned (t, text)⟩ >>= fun p =>
        Chain.follow (parts setting (link :: rest)) p.1 p.2) :
    Chain.follow (parts setting ((done ++ [link]) ++ rest)) s s.noText =
      ⟨before ++ here, .returned (u, joined)⟩ >>= fun p =>
        Chain.follow (parts setting rest) p.1 p.2 := by
  have whole : parts setting (link :: rest) = link.map (part setting) :: parts setting rest := by
    rw [parts_eq_map, parts_eq_map, List.map_cons]
  rw [List.append_assoc, List.singleton_append, upto, whole, Run.bind_returned,
    Chain.follow_cons fun _ => ordinary.unfollowed, run, Run.bind_returned, Run.bind_returned,
    List.append_assoc]

/-- A chain whose course has come so far is followed from there on. -/
theorem Course.follow (course : Course setting s done before pieces t) (live : s.ok = true)
    (ordinary : Ordinary (done ++ rest)) (gathered : s.gather pieces = some text) :
    Chain.follow (parts setting (done ++ rest)) s s.noText =
      ⟨before, .returned (t, text)⟩ >>= fun p => Chain.follow (parts setting rest) p.1 p.2 := by
  induction course generalizing rest text with
  | start =>
    obtain rfl := Option.some.inj gathered
    rfl
  | @build done _ _ _ t function _ value course known run ih =>
    obtain rfl := Option.some.inj (known.symm.trans gathered)
    have here : Ordinary (done ++ .build function :: rest) := by simpa using ordinary
    refine follow_past here.behind ?_ (ih here known)
    simp [Link.map, Chain.step, course.ok live, run, Run.pure_eq]
  | @inspect done _ _ _ t result parser _ fold course known only run good ih =>
    obtain rfl := Option.some.inj (known.symm.trans gathered)
    have here : Ordinary (done ++ .item fold parser :: rest) := by simpa using ordinary
    have alive := course.ok live
    refine follow_past here.behind ((Chain.step_item_live alive).mpr ?_) (ih here known)
    exact ⟨result, run, .inr ⟨good, rfl, by simp [part, only]⟩⟩
  | @take done _ _ _ t result parser _ fold course adds run good known ih =>
    obtain rfl := Option.some.inj (known.symm.trans gathered)
    obtain ⟨text, earlier⟩ := course.gathered
    have here : Ordinary (done ++ .item fold parser :: rest) := by simpa using ordinary
    have alive := course.ok live
    refine follow_past here.behind ((Chain.step_item_live alive).mpr ?_) (ih here earlier)
    refine ⟨result, run, .inr ⟨good, rfl, ?_⟩⟩
    simpa [part, adds] using State.join_of_gather earlier known

/-- A chain ends with the first parser that fails. -/
theorem Visit.follow (visit : Visit setting s links rest events r) (live : s.ok = true)
    (ordinary : Ordinary links) (failed : r.ok = false) :
    Chain.follow (parts setting links) s s.noText = ⟨events, .returned r⟩ := by
  cases visit with
  | @visit done _ _ _ t _ parser fold rest course run =>
    obtain ⟨text, gathered⟩ := course.gathered
    have step : Chain.step (.item fold (parser.part setting)) t text = ⟨_, .returned (r, text)⟩ :=
      (Chain.step_item_live (course.ok live)).mpr ⟨r, run, .inl ⟨failed, rfl, rfl⟩⟩
    have behind := ordinary.behind
    have past := follow_past behind step (course.follow live ordinary gathered)
    rw [List.append_assoc, List.singleton_append] at past
    -- Nothing behind a parser that fails is run.
    rw [past, Run.bind_returned,
      Chain.follow_failed_quiet failed (ordinary_quiet behind.2.2.2), Run.pure_eq, List.append_nil]

/-- Where a chain returns, all on the way have done so. -/
theorem unbroken_of_follow (live : s.ok = true) (ordinary : Ordinary links)
    (run : (Chain.follow (parts setting links) s s.noText).outcome = .returned r) :
    Unbroken setting s links := by
  -- The link that a course has come to is left with some state and text.
  have left : ∀ {done link rest before pieces t text}, links = done ++ link :: rest →
      Course setting s done before pieces t → s.gather pieces = some text →
      ∃ p, (Chain.step (link.map (part setting)) t text).outcome = .returned p := by
    rintro done link rest before pieces t text rfl course gathered
    have whole : parts setting (link :: rest) = link.map (part setting) :: parts setting rest := by
      rw [parts_eq_map, parts_eq_map, List.map_cons]
    rw [course.follow live ordinary gathered, whole] at run
    obtain ⟨_, same, run⟩ := Run.bind_returned_iff.mp run
    obtain rfl := Outcome.returned.inj same
    rw [Chain.follow_cons fun _ => ordinary.behind.unfollowed] at run
    obtain ⟨p, stepped, -⟩ := Run.bind_returned_iff.mp run
    exact ⟨p, stepped⟩
  constructor
  · rintro done function rest events pieces t text whole course gathered
    obtain ⟨p, stepped⟩ := left whole course gathered
    simp only [Link.map, Chain.step, if_pos (course.ok live)] at stepped
    obtain ⟨value, called, -⟩ := Run.bind_returned_iff.mp stepped
    exact ⟨value, Callback.call_returned_iff.mp called⟩
  · rintro done fold parser rest events pieces t whole course
    obtain ⟨text, gathered⟩ := course.gathered
    obtain ⟨p, stepped⟩ := left whole course gathered
    simp only [Link.map, Chain.step, if_pos (course.ok live)] at stepped
    obtain ⟨result, acted, -⟩ := Run.bind_returned_iff.mp stepped
    exact ⟨result, acted⟩

/-- A course goes on along all links behind it, or up to a parser that fails. -/
theorem Unbroken.onward (unbroken : Unbroken setting s (done ++ rest))
    (kinds : TakesKind setting s (done ++ rest))
    (course : Course setting s done before pieces t) :
    (∃ events pieces r, Course setting s (done ++ rest) events pieces r) ∨
    (∃ last events r, r.ok = false ∧ Visit setting s (done ++ rest) last events r) := by
  induction rest generalizing done before pieces t with
  | nil =>
    rw [List.append_nil]
    exact .inl ⟨_, _, _, course⟩
  | cons link rest ih =>
    have shift : done ++ link :: rest = (done ++ [link]) ++ rest := by simp
    obtain ⟨text, gathered⟩ := course.gathered
    cases link with
    | build function =>
      obtain ⟨value, answer⟩ := unbroken.build _ _ _ _ _ _ _ rfl course gathered
      have run := Run.eq_of_returned (Callback.call_returned_iff.mpr answer)
      rw [shift] at unbroken kinds ⊢
      exact ih unbroken kinds (.build course gathered run)
    | item fold parser =>
      obtain ⟨result, run⟩ := unbroken.item _ _ _ _ _ _ _ rfl course
      cases good : result.ok with
      | false => exact .inr ⟨_, _, _, good, .visit fold rest course (Run.eq_of_returned run)⟩
      | true =>
        cases only : parser.traits.inspectsOnly with
        | true =>
          rw [shift] at unbroken kinds ⊢
          exact ih unbroken kinds (.inspect fold course gathered only (Run.eq_of_returned run) good)
        | false =>
          have of := kinds _ _ _ _ _ _ _ _ rfl only course run good
          obtain ⟨joined, taken⟩ := State.gather_piece gathered of fold
          rw [shift] at unbroken kinds ⊢
          exact ih unbroken kinds (.take course only (Run.eq_of_returned run) good taken)

theorem Course.act (course : Course setting s links events pieces r) (live : s.ok = true)
    (ordinary : Ordinary links) (item : links.any Link.isItem = true) :
    (chain links).act setting s = ⟨events, .returned r⟩ := by
  have whole : links ++ [] = links := List.append_nil links
  have followed := course.follow live (whole.symm ▸ ordinary) (course.matched item)
  rw [whole] at followed
  rw [chain_act, followed]
  simp only [parts, Chain.follow, Run.pure_eq, Run.bind_returned, List.append_nil,
    State.settle_of_clean (course.ok live) (course.clean item)]

theorem Visit.act (visit : Visit setting s links rest events r) (live : s.ok = true)
    (ordinary : Ordinary links) (failed : r.ok = false) :
    (chain links).act setting s = ⟨events, .returned r⟩ := by
  rw [chain_act, visit.follow live ordinary failed, Run.bind_returned, visit.settle live]
  simp only [Run.pure_eq, List.append_nil]

/-- An ordinary chain returns just what a course over all of its links leads to, or the result of
the first parser that fails, after which nothing was run. A course leads to the text put together
from all that its parsers have matched since the last one that discards, and to the source, the
place and the end that the last of them has left. All this is so if every function on the way
answers and every parser on the way returns, and otherwise the chain does not return. -/
theorem chain_runs_course (ordinary : Ordinary links) (item : links.any Link.isItem = true)
    (live : s.ok = true) (kinds : TakesKind setting s links) :
    (∀ events r, (chain links).act setting s = ⟨events, .returned r⟩ ↔
      (r.ok = true ∧ ∃ pieces, Course setting s links events pieces r) ∨
      (r.ok = false ∧ ∃ rest, Visit setting s links rest events r)) ∧
    (∀ events pieces r, Course setting s links events pieces r →
      s.gather pieces = some r.matched ∧
      ∃ rest here result, Visit setting s links rest here result ∧ rest.any Link.isItem = false ∧
        r.source = result.source ∧ r.pos = result.pos ∧ r.limit = result.limit) ∧
    (Unbroken setting s links ↔
      ∃ events r, (chain links).act setting s = ⟨events, .returned r⟩) := by
  have unbroken : ∀ {events r}, (chain links).act setting s = ⟨events, .returned r⟩ →
      Unbroken setting s links := by
    intro events r run
    rw [chain_act] at run
    obtain ⟨t, followed, -⟩ := Run.bind_returned_iff.mp (congrArg Run.outcome run)
    exact unbroken_of_follow live ordinary followed
  have onward : Unbroken setting s links →
      (∃ events pieces r, Course setting s links events pieces r) ∨
      (∃ rest events r, r.ok = false ∧ Visit setting s links rest events r) := by
    intro unbroken
    rw [← List.nil_append links] at unbroken kinds
    exact unbroken.onward kinds .start
  refine ⟨fun events r => ⟨fun run => ?_, ?_⟩, fun events pieces r course => ?_, ?_, ?_⟩
  · obtain ⟨events', pieces, r', course⟩ | ⟨rest, events', r', failed, visit⟩ :=
      onward (unbroken run)
    · obtain ⟨rfl, same⟩ := Run.mk.inj (run.symm.trans (course.act live ordinary item))
      obtain rfl := Outcome.returned.inj same
      exact .inl ⟨course.ok live, pieces, course⟩
    · obtain ⟨rfl, same⟩ := Run.mk.inj (run.symm.trans (visit.act live ordinary failed))
      obtain rfl := Outcome.returned.inj same
      exact .inr ⟨failed, rest, visit⟩
  · rintro (⟨-, pieces, course⟩ | ⟨failed, rest, visit⟩)
    · exact course.act live ordinary item
    · exact visit.act live ordinary failed
  · exact ⟨course.matched item, course.last item⟩
  · intro unbroken
    obtain ⟨events, pieces, r, course⟩ | ⟨rest, events, r, failed, visit⟩ := onward unbroken
    · exact ⟨events, r, course.act live ordinary item⟩
    · exact ⟨events, r, visit.act live ordinary failed⟩
  · rintro ⟨events, r, run⟩
    exact unbroken run

/-! ### Chains of elementary parsers -/

/-- An elementary parser that succeeds has matched a part of its source, or nothing. -/
theorem elementary_takes {parser : Parser} {result : State}
    (elementary : parser.isElementary = true)
    (run : (parser.act setting t).outcome = .returned result) :
    result.source = t.source ∧ (result.ok = true → result.matched.OfKind t.source.kind) := by
  obtain ⟨u, inner, settled⟩ := Run.bind_returned_iff.mp run
  obtain rfl := Run.pure_returned_iff.mp settled
  have moved := body_moves elementary inner
  refine ⟨(congrArg Window.source (State.settle_window t u)).trans moved.source, fun good => ?_⟩
  rw [State.settle_ok] at good
  rw [State.settle_of_ok good]
  have nothing : t.noText.OfKind t.source.kind := ⟨_, rfl, Sequence.kind_empty _⟩
  cases moved with
  | mismatch | failed => cases good
  | pass | build => exact nothing
  | take | skip => exact ⟨_, rfl, Sequence.kind_slice _ _ _⟩

theorem Course.source (h : Course setting s links events pieces t)
    (elementary : ∀ part ∈ (chain links).inner, part.isElementary = true) :
    t.source = s.source := by
  have split : ∀ {done : List (Link Parser)} {link : Link Parser},
      (chain (done ++ [link])).inner = (chain done).inner ++ link.item?.toList := by
    intro done link
    cases link <;> simp [inner, Link.item?]
  induction h with
  | start => rfl
  | build _ _ _ ih => exact ih fun part member => elementary part (by simp [split, member])
  | @inspect _ _ _ _ _ _ parser _ _ _ _ _ run _ ih
  | @take _ _ _ _ _ _ parser _ _ _ _ run _ _ ih =>
    have moved := elementary_takes (elementary parser (by simp [split, Link.item?]))
      (congrArg Run.outcome run)
    exact moved.1.trans (ih fun part member => elementary part (by simp [split, member]))

theorem takesKind_of_elementary
    (elementary : ∀ part ∈ (chain links).inner, part.isElementary = true) :
    TakesKind setting s links := by
  rintro done fold parser rest events pieces t result rfl - course run good
  have here := elementary parser (by simp [inner, Link.item?])
  have same := course.source fun part member => elementary part (by simp_all [inner])
  exact same ▸ (elementary_takes here run).2 good

def keptSigns : List (Link Parser) :=
  [.item .append (.literal (.value (.ofString "a")) true),
    .item .discard (.literal (.value (.ofString "b")) true),
    .item .discard (.check ⟨none, none, fun (_, matched) => .ok matched⟩),
    .build ⟨none, none, fun (_, matched) => .ok matched⟩,
    .item .append (.literal (.value (.ofString "c")) true)]

/-- With all signs there, the two that are kept are matched and the first of them is built; without
the last one, the chain stops there. -/
theorem keptSigns_run_course :
    ∃ (s t : State) (events : List Event) (r f : State) (events' : List Event),
      (chain keptSigns).act (Grammar.empty.setting ⟨0, 0⟩) s = ⟨events, .returned r⟩ ∧
      r.matched = .ofString "bc" ∧ r.value = .ofString "b" ∧
      Unbroken (Grammar.empty.setting ⟨0, 0⟩) s keptSigns ∧
      (∃ pieces, Course (Grammar.empty.setting ⟨0, 0⟩) s keptSigns events pieces r ∧
        s.gather pieces = some r.matched) ∧
      (chain keptSigns).act (Grammar.empty.setting ⟨0, 0⟩) t = ⟨events', .returned f⟩ ∧
      f.ok = false ∧ ∃ rest, Visit (Grammar.empty.setting ⟨0, 0⟩) t keptSigns rest events' f := by
  have elementary : ∀ part ∈ (chain keptSigns).inner, part.isElementary = true := by
    simp [inner, keptSigns, Link.item?, isElementary]
  have ordinary : Ordinary keptSigns := by
    simp [Ordinary, keptSigns, traits, isLookahead]
  have run := Run.eq_of_returned (x := (chain keptSigns).act (Grammar.empty.setting ⟨0, 0⟩)
      (.start (.text "abc".toList.toArray) .null))
    (a := ⟨.text "abc".toList.toArray, 3, 3, .ofString "bc", .ofString "b", true, none⟩) (by cbv)
  have stop := Run.eq_of_returned (x := (chain keptSigns).act (Grammar.empty.setting ⟨0, 0⟩)
      (.start (.text "abd".toList.toArray) .null))
    (a := ⟨.text "abd".toList.toArray, 2, 3, .ofString "", .ofString "b", false,
      some ⟨.text "abd".toList.toArray, 2, 3, .ofString "b", .ofString "b", true, none⟩⟩) (by cbv)
  obtain ⟨results, texts, returns⟩ :=
    chain_runs_course ordinary rfl rfl (takesKind_of_elementary elementary)
      (s := .start (.text "abc".toList.toArray) .null)
  obtain ⟨-, pieces, course⟩ | ⟨failed, -⟩ := (results _ _).mp run
  · obtain ⟨good, -⟩ | ⟨failed, visit⟩ :=
      ((chain_runs_course ordinary rfl rfl (takesKind_of_elementary elementary)).1 _ _).mp stop
    · cases good
    · exact ⟨_, _, _, _, _, _, run, rfl, rfl, returns.mpr ⟨_, _, run⟩,
        ⟨pieces, course, (texts _ _ _ course).1⟩, stop, rfl, visit⟩
  · cases failed

end Parser

end Catena
