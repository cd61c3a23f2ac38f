import Mathlib
import Catena.Proofs.Additivity

/-!
# Chains in chains

Sequencing is associative for parsers that look at no text. A chain at the end of another one keeps
a text of its own, which goes behind that of the links before it as a whole; its parsers meet other
texts than they would meet in the outer chain, but the same input: `Parser.chain_grouped`.
-/

namespace Catena

structure State.Textual (s : State) : Prop where
  ok : s.ok = true
  clean : s.lastGood = none
  matched : s.matched.OfKind s.source.kind

/-- An action looks at no text, wherever its window lies: on states that differ in the text alone it
ends alike but for the text of failures, where `same` compares faults, and the text of a success is
of the kind of its buffer. -/
structure Action.TextFree (same : Fault → Fault → Prop) (act : Action) : Prop where
  blind : ∀ s text, s.Textual → text.OfKind s.source.kind →
    (act s).outcome.Agree State.SameButFailedText same (act { s with matched := text }).outcome
  kind : ∀ s r, s.Textual → (act s).outcome = .returned r → r.ok = true →
    r.matched.OfKind r.source.kind

structure State.SameBehind (lead : Value) (r r' : State) : Prop where
  ok : r.ok = r'.ok
  source : r.source = r'.source
  pos : r.pos = r'.pos
  limit : r.limit = r'.limit
  value : r.value = r'.value
  matched : r.ok = true → lead.plus? r'.matched = some r.matched

namespace Parser

/-- A parser that does not run on a failed chain and is no lookahead. -/
structure Simple (parser : Parser) : Prop where
  oblivious : parser.traits.oblivious = false
  inspectsFailure : parser.traits.inspectsFailure = false
  lookahead : parser.isLookahead = false

def appended (parsers : List Parser) : List (Link Parser) :=
  parsers.map (.item .append)

def joins (parser : Parser) (text : Value) (r : State) : Run Value :=
  if parser.traits.inspectsOnly then pure text else Fold.join .append text r.matched

variable {setting : Setting} {same : Fault → Fault → Prop} {parser : Parser}
  {parsers front back : List Parser} {s r : State} {lead text text' joined before : Value}

/-! ### One parser -/

theorem follow_simple (simple : parser.Simple) (live : s.ok = true) (rest : List (Link Part)) :
    Chain.follow (.item .append (part setting parser) :: rest) s text =
      parser.act setting s >>= fun r =>
        if r.ok then parser.joins text r >>= fun joined =>
          Chain.follow rest { r with matched := joined } joined
        else Chain.follow rest r text := by
  simp only [Chain.follow, live, part, backsOff_eq_none setting simple.lookahead, if_true, ite_self]
  refine congrArg _ (funext fun r => ?_)
  by_cases good : r.ok = true
  · by_cases only : parser.traits.inspectsOnly = true <;>
      simp only [good, joins, only, Bool.not_true, Bool.false_eq_true, if_true, if_false]
  · simp only [good, Bool.not_false, if_true, if_false, Bool.false_eq_true]

theorem appended_quiet (simple : ∀ parser ∈ parsers, parser.Simple) :
    ∀ link ∈ parts setting (appended parsers), Chain.Quiet link := by
  rw [parts_eq_map, appended, List.map_map]
  intro link member
  obtain ⟨parser, there, rfl⟩ := List.mem_map.mp member
  exact ⟨(simple parser there).oblivious, (simple parser there).inspectsFailure⟩

/-- Only a parser that keeps the buffer adds no text. -/
theorem Simple.source_of_inspectsOnly (simple : parser.Simple)
    (only : parser.traits.inspectsOnly = true)
    (run : (parser.act setting s).outcome = .returned r) : r.source = s.source := by
  have elementary : parser.isElementary = true := by
    cases parser with
    | throws => cases simple.inspectsFailure
    | outcome | check | build | endOfInput => rfl
    | _ => cases only
  exact (elementary_takes elementary run).1

/-- Behind a parser whose text joins that of its chain, the buffer is of the same kind as before. -/
theorem joins_textual (simple : parser.Simple) (free : (parser.act setting).TextFree same)
    (textual : s.Textual) (run : (parser.act setting s).outcome = .returned r) (good : r.ok = true)
    (of : text.OfKind s.source.kind) (join : (parser.joins text r).outcome = .returned joined) :
    r.source.kind = s.source.kind ∧ joined.OfKind s.source.kind ∧
      State.Textual { r with matched := joined } := by
  have kinds : r.source.kind = s.source.kind ∧ joined.OfKind s.source.kind := by
    unfold joins at join
    split at join
    case isTrue only =>
      obtain rfl := Run.pure_returned_iff.mp join
      exact ⟨congrArg _ (simple.source_of_inspectsOnly only run), of⟩
    case isFalse =>
      have sum : text.plus? r.matched = some joined := Run.need_returned_iff.mp join
      exact ⟨of.kind_of_plus (free.kind s r textual run good) sum, of.of_plus sum⟩
  obtain ⟨source, joined⟩ := kinds
  have clean : r.lastGood = none := State.settled_clean run good
  exact ⟨source, joined, good, clean, source ▸ joined⟩

/-- A text that goes behind another one goes behind it with what is added. -/
theorem joins_behind {kind : Kind} (reflexive : ∀ fault, same fault fault)
    (first : lead.OfKind kind) (second : text'.OfKind kind) (sum : lead.plus? text' = some text) :
    (parser.joins text r).outcome.Agree (fun joined joined' => lead.plus? joined' = some joined)
      same (parser.joins text' r).outcome := by
  unfold joins
  split
  · exact sum
  · have whole : text.plus? r.matched = (text'.plus? r.matched).bind lead.plus? :=
      Value.plus_assoc first second sum
    rw [Fold.join, Fold.join, whole]
    cases added : text'.plus? r.matched with
    | none =>
      rw [second.ofSum, (first.of_plus sum).ofSum]
      exact reflexive _
    | some joined' =>
      obtain ⟨joined, sum, -⟩ := first.plus (second.of_plus added)
      rw [Option.bind_some, sum]
      exact sum

/-! ### The end of a chain -/

/-- Parsers that look at no text do the same on another text and behind another text of the chain.
If that is the end of the first one, the text of a success is the end of that of the other. -/
theorem follow_trails (reflexive : ∀ fault, same fault fault)
    (simple : ∀ parser ∈ parsers, parser.Simple)
    (free : ∀ parser ∈ parsers, (parser.act setting).TextFree same) (textual : s.Textual)
    (other : before.OfKind s.source.kind) (first : lead.OfKind s.source.kind)
    (second : text'.OfKind s.source.kind) (sum : lead.plus? text' = some text)
    (aligned : parsers = [] → s.matched = text ∧ before = text') :
    (Chain.follow (parts setting (appended parsers)) s text).outcome.Agree (State.SameBehind lead)
      same (Chain.follow (parts setting (appended parsers)) { s with matched := before }
        text').outcome := by
  induction parsers generalizing s text text' before with
  | nil =>
    obtain ⟨rfl, rfl⟩ := aligned rfl
    exact ⟨rfl, rfl, rfl, rfl, rfl, fun _ => sum⟩
  | cons parser parsers ih =>
    obtain ⟨here, later⟩ := List.forall_mem_cons.mp simple
    obtain ⟨blind, frees⟩ := List.forall_mem_cons.mp free
    have split : parts setting (appended (parser :: parsers)) =
      .item .append (part setting parser) :: parts setting (appended parsers) := rfl
    have textual' : State.Textual { s with matched := before } :=
      ⟨textual.ok, textual.clean, other⟩
    rw [split, follow_simple here textual.ok, follow_simple here textual'.ok]
    refine (blind.blind s before textual other).bind fun r r' run run' alike => ?_
    by_cases good : r.ok = true
    · -- Successes are the same state; only the texts of the two chains differ from here on.
      obtain rfl : r = r' := alike.eq_of_clean good (State.settled_clean run good)
        (State.settled_clean run' (alike.ok ▸ good))
      rw [if_pos good, if_pos good]
      refine (joins_behind reflexive first second sum).bind ?_
      intro joined joined' join join' added
      obtain ⟨kind, -, after⟩ :=
        joins_textual here blind textual run good (first.of_plus sum) join
      obtain ⟨-, of', -⟩ := joins_textual here blind textual run good second join'
      refine ih later frees after ?_ ?_ ?_ added fun _ => ⟨rfl, rfl⟩
      all_goals
        show Value.OfKind r.source.kind _
        rw [kind]
        assumption
    · have failed : ¬ r'.ok = true := alike.ok ▸ good
      rw [if_neg good, if_neg failed,
        Chain.follow_failed_quiet (Bool.not_eq_true _ ▸ good) (appended_quiet later),
        Chain.follow_failed_quiet (Bool.not_eq_true _ ▸ failed) (appended_quiet later)]
      obtain ⟨ok, source, pos, limit, value, -⟩ := alike
      exact ⟨ok, source, pos, limit, value, fun ok => absurd ok good⟩

/-! ### Chains in chains -/

/-- The last link of a chain may be a chain in the place of its links. -/
theorem follow_nested (reflexive : ∀ fault, same fault fault)
    (simple : ∀ parser ∈ back, parser.Simple)
    (free : ∀ parser ∈ back, (parser.act setting).TextFree same) (some : back ≠ [])
    (textual : s.Textual) (of : text.OfKind s.source.kind) :
    (Chain.follow (parts setting (appended back)) s text).outcome.Agree State.SameButFailedText same
      (Chain.follow (parts setting (appended [chain (appended back)])) s text).outcome := by
  have inner : (chain (appended back)).Simple := ⟨rfl, rfl, rfl⟩
  have split : parts setting (appended [chain (appended back)]) =
    [.item .append (part setting (chain (appended back)))] := rfl
  have nothing : s.noText.OfKind s.source.kind := ⟨_, rfl, Sequence.kind_empty _⟩
  -- The inner chain runs on the same state with nothing for its text, which goes behind the outer.
  have trails := follow_trails reflexive simple free textual textual.matched of nothing
    (Value.plus_empty of) fun none => absurd none some
  rw [State.sameText rfl] at trails
  rw [split, follow_simple inner textual.ok, chain_act, bind_assoc,
    ← bind_pure (Chain.follow _ s text)]
  refine trails.bind fun r r' _ _ alike => ?_
  obtain ⟨good, settled⟩ := State.settle_eq s r'
  obtain ⟨ok, source, pos, limit, value, matched⟩ := alike
  rw [pure_bind, settled]
  by_cases live : r.ok = true
  · rw [if_pos (ok ▸ live), joins, if_neg (by simp [traits]), Fold.join, matched live, Run.need,
      pure_bind]
    exact ⟨ok, source, pos, limit, value, fun _ => rfl⟩
  · rw [if_neg (ok ▸ live)]
    exact ⟨ok, source, pos, limit, value, fun ok => absurd ok live⟩

theorem follow_grouped (reflexive : ∀ fault, same fault fault)
    (simple : ∀ parser ∈ front ++ back, parser.Simple)
    (free : ∀ parser ∈ front ++ back, (parser.act setting).TextFree same) (some : back ≠ [])
    (textual : s.Textual) (of : text.OfKind s.source.kind) :
    (Chain.follow (parts setting (appended (front ++ back))) s text).outcome.Agree
      State.SameButFailedText same
      (Chain.follow (parts setting (appended (front ++ [chain (appended back)]))) s
        text).outcome := by
  induction front generalizing s text with
  | nil => exact follow_nested reflexive simple free some textual of
  | cons parser front ih =>
    rw [List.cons_append] at simple free
    obtain ⟨here, later⟩ := List.forall_mem_cons.mp simple
    obtain ⟨blind, frees⟩ := List.forall_mem_cons.mp free
    have split : ∀ parsers, parts setting (appended (parser :: parsers)) =
      .item .append (part setting parser) :: parts setting (appended parsers) := fun _ => rfl
    rw [List.cons_append, List.cons_append, split, split, follow_simple here textual.ok,
      follow_simple here textual.ok]
    refine (Outcome.Agree.refl reflexive (parser.act setting s).outcome).bind ?_
    rintro r _ run - rfl
    by_cases good : r.ok = true
    · rw [if_pos good, if_pos good]
      refine (Outcome.Agree.refl reflexive (parser.joins text r).outcome).bind ?_
      rintro joined _ join - rfl
      obtain ⟨kind, of, after⟩ := joins_textual here blind textual run good of join
      exact ih later frees after (show joined.OfKind r.source.kind from kind ▸ of)
    · -- What is left of either chain does nothing behind a failure.
      have failed := Bool.not_eq_true _ ▸ good
      have single : ∀ last ∈ front ++ [chain (appended back)], last.Simple := by
        intro last member
        obtain there | only := List.mem_append.mp member
        · exact later last (List.mem_append_left _ there)
        · exact List.mem_singleton.mp only ▸ ⟨rfl, rfl, rfl⟩
      rw [if_neg good, if_neg good, Chain.follow_failed_quiet failed (appended_quiet later),
        Chain.follow_failed_quiet failed (appended_quiet single)]
      exact ⟨rfl, rfl, rfl, rfl, rfl, fun _ => rfl⟩

/-- A chain at the end of a chain, whose parsers look at no text, ends as if its links were those of
the outer chain. -/
theorem chain_grouped (reflexive : ∀ fault, same fault fault)
    (simple : ∀ parser ∈ front ++ back, parser.Simple)
    (free : ∀ parser ∈ front ++ back, (parser.act setting).TextFree same) (some : back ≠ [])
    (formed : s.WellFormed) (live : s.ok = true) :
    ((chain (appended (front ++ back))).act setting s).outcome.Agree State.SameButFailedText same
      ((chain (appended (front ++ [chain (appended back)]))).act setting s).outcome := by
  have textual : s.Textual := ⟨live, formed.2.2.2.2, formed.2.2.2.1⟩
  have nothing : s.noText.OfKind s.source.kind := ⟨_, rfl, Sequence.kind_empty _⟩
  rw [chain_act, chain_act]
  refine (follow_grouped reflexive simple free some textual nothing).bind fun r r' _ _ alike => ?_
  obtain ⟨good, left⟩ := State.settle_eq s r
  obtain ⟨good', right⟩ := State.settle_eq s r'
  rw [left, right]
  exact ⟨alike.ok, alike.source, alike.pos, alike.limit, alike.value, alike.matched⟩

/-- Sequencing is associative: three parsers in a row that look at no text, in one chain or the last
two of them in a chain of their own, end alike but for the text and the snapshot of failures. -/
theorem sequencing_associative (setting : Setting) {a b c : Parser}
    (reflexive : ∀ fault, same fault fault) (simple : ∀ parser ∈ [a, b, c], parser.Simple)
    (free : ∀ parser ∈ [a, b, c], (parser.act setting).TextFree same) (formed : s.WellFormed)
    (live : s.ok = true) :
    ((chain [.item .append a, .item .append b, .item .append c]).act setting s).outcome.Agree
      State.SameButFailedText same
      ((chain [.item .append a, .item .append (chain [.item .append b, .item .append c])]).act
        setting s).outcome := by
  have simple : ∀ parser ∈ [a] ++ [b, c], parser.Simple := simple
  have free : ∀ parser ∈ [a] ++ [b, c], (parser.act setting).TextFree same := free
  exact chain_grouped reflexive simple free (List.cons_ne_nil b [c]) formed live

/-- A parser without parts whose action never reads the text looks at none. -/
theorem textFree_of_same (elementary : parser.isElementary = true)
    (same : ∀ (s : State) text,
      parser.body setting { s with matched := text } = parser.body setting s) :
    (parser.act setting).TextFree Eq where
  blind s text _ _ := settled_agree (same s text)
  kind s r _ run good := by
    obtain ⟨source, matched⟩ := elementary_takes elementary run
    exact source ▸ matched good

theorem literal_textFree (setting : Setting) (text : String) :
    ((literal (.value (.ofString text)) true).act setting).TextFree Eq :=
  textFree_of_same rfl fun s before =>
    (Action.literal_seq _ { s with matched := before }).trans (Action.literal_seq _ s).symm

def spelled (text : String) : Parser :=
  .literal (.value (.ofString text)) true

/-- Three signs, of which the last two may be in a chain of their own, are taken if they are there;
where the third is missing both ways stop before it. -/
theorem signs_associative :
    ∃ r r' f f' : State, r.matched = .ofString "abc" ∧ r.SameButFailedText r' ∧ f.ok = false ∧
      f.pos = 2 ∧ f.SameButFailedText f' ∧
      endOn (chain (appended [spelled "a", spelled "b", spelled "c"])) "abc" = .returned r ∧
      endOn (chain (appended [spelled "a", chain (appended [spelled "b", spelled "c"])])) "abc" =
        .returned r' ∧
      endOn (chain (appended [spelled "a", spelled "b", spelled "c"])) "abd" = .returned f ∧
      endOn (chain (appended [spelled "a", chain (appended [spelled "b", spelled "c"])])) "abd" =
        .returned f' := by
  have simple : ∀ parser ∈ [spelled "a", spelled "b", spelled "c"], parser.Simple := by
    simp only [List.forall_mem_cons]
    exact ⟨⟨rfl, rfl, rfl⟩, ⟨rfl, rfl, rfl⟩, ⟨rfl, rfl, rfl⟩, nofun⟩
  have free : ∀ parser ∈ [spelled "a", spelled "b", spelled "c"],
      (parser.act (Grammar.empty.setting ⟨0, 0⟩)).TextFree Eq := by
    simp only [List.forall_mem_cons]
    exact ⟨literal_textFree _ "a", literal_textFree _ "b", literal_textFree _ "c", nofun⟩
  have run : endOn (chain (appended [spelled "a", spelled "b", spelled "c"])) "abc" =
      .returned ⟨.text "abc".toList.toArray, 3, 3, .ofString "abc", .null, true, none⟩ := by
    cbv
  have stop : endOn (chain (appended [spelled "a", spelled "b", spelled "c"])) "abd" =
      .returned ⟨.text "abd".toList.toArray, 2, 3, .ofString "", .null, false,
        some ⟨.text "abd".toList.toArray, 2, 3, .ofString "ab", .null, true, none⟩⟩ := by
    cbv
  have grouped := fun text : String => sequencing_associative (Grammar.empty.setting ⟨0, 0⟩)
    (fun _ => rfl) simple free (State.start_wellFormed (.text text.toList.toArray) .null) rfl
  obtain ⟨r', run', alike⟩ := (grouped "abc").of_returned run
  obtain ⟨f', stop', alike'⟩ := (grouped "abd").of_returned stop
  exact ⟨_, r', _, f', rfl, alike, rfl, rfl, alike', run, run', stop, stop'⟩

end Parser

end Catena
