import Mathlib
import Catena.Proofs.Cursor
import Catena.Proofs.Recovery

/-!
# The text that links see

A chain keeps the text of its links besides the state it passes along, which has a text of its own.
An onlooker is shown both wherever a successful chain hands a state to one of its parsers, and may
stop the run. `Parser.chain_accumulates` tells one for which the texts are the same: that is so
behind every parser of the chain, but not before the first, which is handed the text that the chain
was started with.
-/

namespace Catena

/-- How a chain has come by the text of a state that it hands to a parser. -/
inductive Provenance where
  /-- It started with the text: no parser of the chain has run. -/
  | given
  /-- A parser of the chain has left the text behind. -/
  | joined
  /-- A lookahead has succeeded without having a candidate. -/
  | missed
deriving DecidableEq, Repr

/-- What is shown the states that a successful chain hands to its parsers, each with the text of the
links before it. -/
abbrev Onlooker := Provenance → State → Value → Run Unit

namespace Chain

def shown (onlooker : Onlooker) (provenance : Provenance) (link : Link Part) (s : State)
    (text : Value) : Run Unit :=
  if s.ok && link.isItem then onlooker provenance s text else pure ()

def followBefore (onlooker : Onlooker) : Provenance → List (Link Part) → State → Value → Run State
  | _, [], s, _ => return s
  | provenance, link :: rest, s, text => do
    shown onlooker provenance link s text
    match if s.ok then followed rest link else none with
    | none =>
      let (t, joined) ← step link s text
      followBefore onlooker (if link.isItem then .joined else provenance) rest t joined
    | some (fold, look) =>
      let resume : Action := fun t => do
        let joined ← fold.join text t.matched
        followBefore onlooker .joined rest { t with matched := joined } joined
      match ← look.search s resume with
      | some result => return result
      | none => followBefore onlooker .missed rest (← look.act s) text

/-- What a chain that starts on a state keeps of the text, where it is successful. -/
def Accumulated (start : State) : Provenance → State → Value → Prop
  | .given, s, text => s.matched = start.matched ∧ text = start.noText
  | .joined, s, text => s.matched = text
  | .missed, _, _ => True

variable {start s t : State} {link : Link Part} {links : List (Link Part)} {text joined : Value}
  {provenance : Provenance}

theorem step_accumulated (lawful : link.Lawful)
    (before : s.ok = true → Accumulated start provenance s text)
    (run : (step link s text).outcome = .returned (t, joined)) (good : t.ok = true) :
    Accumulated start (if link.isItem then .joined else provenance) t joined := by
  cases link with
  | build function =>
    obtain ⟨live, rfl, value, rfl⟩ := step_build_ok run good
    have kept := before live
    cases provenance with
    | given => exact kept
    | joined => exact kept
    | missed => trivial
  | item fold part => exact step_matched lawful (.inl rfl) run good

/-- A chain runs before an onlooker as it runs by itself, if the onlooker lets it go on wherever the
text is what it should be. -/
theorem followBefore_eq {onlooker : Onlooker} (lawful : ∀ link ∈ links, link.Lawful)
    (silent : ∀ provenance t text, Accumulated start provenance t text →
      onlooker provenance t text = pure ())
    (before : s.ok = true → Accumulated start provenance s text) :
    followBefore onlooker provenance links s text = follow links s text := by
  induction links generalizing provenance s text with
  | nil => rfl
  | cons link rest ih =>
    obtain ⟨here, later⟩ := List.forall_mem_cons.mp lawful
    have lets : shown onlooker provenance link s text = pure () := by
      unfold shown
      split
      · exact silent _ _ _ (before (Bool.and_eq_true_iff.mp ‹_›).1)
      · rfl
    rw [followBefore, lets, pure_bind]
    cases back : if s.ok = true then followed rest link else none with
    | none =>
      rw [follow_cons fun live => by rwa [if_pos live] at back]
      refine Run.bind_congr_returned fun p run => ?_
      obtain ⟨t, joined⟩ := p
      exact ih later fun good => step_accumulated here before run good
    | some found =>
      obtain ⟨fold, look⟩ := found
      obtain ⟨live, back⟩ : s.ok = true ∧ followed rest link = some (fold, look) := by
        split at back
        · exact ⟨‹_›, back⟩
        · cases back
      have resumes : (fun t => do
            let joined ← fold.join text t.matched
            followBefore onlooker .joined rest { t with matched := joined } joined) =
          resume rest fold text :=
        funext fun t => congrArg _ (funext fun joined => ih later fun _ => rfl)
      rw [follow_searched live back]
      simp only [resumes]
      refine congrArg _ (funext fun found => ?_)
      cases found with
      | some result => rfl
      | none =>
        refine congrArg (look.act s >>= ·) (funext fun full => ?_)
        have missed : full.ok = true → Accumulated start .missed full text := fun _ => trivial
        exact ih later missed

def demand (seen wanted : Value) : Run Unit :=
  if seen.shown = wanted.shown then pure () else Run.raise (.defect .mistyped)

theorem demand_self (text : Value) : demand text text = pure () :=
  if_pos rfl

/-- Demands that each parser is handed the text of the links before it, and the first one that of
the state the chain starts on. -/
def strict (start : State) : Onlooker
  | .given, t, _ => demand t.matched start.matched
  | .joined, t, text => demand t.matched text
  | .missed, _, _ => pure ()

theorem strict_silent (provenance : Provenance) (t : State) (text : Value)
    (accumulated : Accumulated start provenance t text) :
    strict start provenance t text = pure () := by
  cases provenance with
  | given =>
    rw [strict, accumulated.1]
    exact demand_self _
  | joined =>
    rw [strict, show t.matched = text from accumulated]
    exact demand_self _
  | missed => rfl

end Chain

namespace Parser

/-- A chain runs before an onlooker as it runs by itself, if the onlooker lets it go on wherever a
successful chain hands to its first parser a state with the text that the chain was started with,
and to a later parser one with the text of the links before it. That leaves out parsers directly
behind a lookahead that has succeeded without a candidate, which one that gives nothing back does
not. -/
theorem chain_accumulates (setting : Setting) (links : List (Link Parser)) (s : State)
    {onlooker : Onlooker}
    (silent : ∀ provenance t text, Chain.Accumulated s provenance t text →
      onlooker provenance t text = pure ()) :
    (Chain.followBefore onlooker .given (parts setting links) s s.noText >>= fun t =>
        pure (s.settle t)) = (chain links).act setting s ∧
      ∀ mode (parser : Parser), (parser.act setting).Advances →
        ∀ (t full : State) (resume : Action), t.window.Inside → t.lastGood = none →
          ((⟨mode, parser.shown, parser.act setting⟩ : Lookahead).search t resume).outcome =
            .returned none →
          (parser.act setting t).outcome = .returned full → full.ok = false := by
  constructor
  · have given : Chain.Accumulated s .given s s.noText := ⟨rfl, rfl⟩
    rw [Chain.followBefore_eq (parts_lawful setting links) silent fun _ => given, chain_act]
  · intro mode parser advances t full resume inside clean sought run
    obtain ⟨full', run', failed, -⟩ | ⟨r, found, -⟩ | ⟨_, _, r, -, -, -, found, -⟩ :=
      Lookahead.search_returned sought fun full run => (advances t full inside clean run).2.1
    · obtain rfl := Outcome.returned.inj (run.symm.trans run')
      exact failed
    · cases found
    · cases found

def wants (text : String) : Parser :=
  .check ⟨none, none, fun (_, matched) => .ok (.bool (matched.same (.ofString text)))⟩

def testedSign (before : String) : List (Link Parser) :=
  [.item .append (wants before), .item .append (.literal (.value (.ofString "b")) true),
    .item .append (wants "b")]

/-- The first test is handed the text that the chain was started with, the second one the sign. -/
theorem testedSign_accumulates :
    ∃ s r : State, s.matched = .ofString "a" ∧
      ((chain (testedSign "a")).act (Grammar.empty.setting ⟨0, 0⟩) s).outcome = .returned r ∧
      r.ok = true ∧
      (Chain.followBefore (Chain.strict s) .given
          (parts (Grammar.empty.setting ⟨0, 0⟩) (testedSign "a")) s s.noText >>= fun t =>
        pure (s.settle t)) = (chain (testedSign "a")).act (Grammar.empty.setting ⟨0, 0⟩) s := by
  have run : ((chain (testedSign "a")).act (Grammar.empty.setting ⟨0, 0⟩)
        ⟨.text "ab".toList.toArray, 1, 2, .ofString "a", .null, true, none⟩).outcome =
      .returned ⟨.text "ab".toList.toArray, 2, 2, .ofString "b", .null, true, none⟩ := by
    cbv
  exact ⟨_, _, rfl, run, rfl, (chain_accumulates _ _ _ Chain.strict_silent).1⟩

/-- A test at the beginning of a chain is not handed the text of the chain: behind another sign it
fails if it wants none, also in each round of a repetition but the first. An onlooker that lets a
chain go on only where the texts are the same stops it. -/
theorem nested_sees_given_text :
    endOn (chain [.item .append (.literal (.value (.ofString "a")) true),
          .item .append (chain (testedSign ""))]) "ab" =
        .returned ⟨.text "ab".toList.toArray, 1, 2, .ofString "a", .null, false,
          some ⟨.text "ab".toList.toArray, 1, 2, .ofString "a", .null, true, none⟩⟩ ∧
      endOn (.many 0 2 (chain (testedSign ""))) "bb" =
        .returned ⟨.text "bb".toList.toArray, 1, 2, .ofString "b", .null, true, none⟩ ∧
      ¬ ∀ (setting : Setting) (links : List (Link Parser)) (s : State) (onlooker : Onlooker),
        (∀ provenance t text, t.matched = text → onlooker provenance t text = pure ()) →
          (Chain.followBefore onlooker .given (parts setting links) s s.noText >>= fun t =>
            pure (s.settle t)) = (chain links).act setting s := by
  refine ⟨by cbv, by cbv, fun claim => ?_⟩
  have same := claim (Grammar.empty.setting ⟨0, 0⟩) (testedSign "a")
    ⟨.text "ab".toList.toArray, 1, 2, .ofString "a", .null, true, none⟩
    (fun _ t text => Chain.demand t.matched text) fun _ t _ same => same ▸ Chain.demand_self t.matched
  have stopped : (Chain.followBefore (fun _ t text => Chain.demand t.matched text) .given
        (parts (Grammar.empty.setting ⟨0, 0⟩) (testedSign "a"))
        ⟨.text "ab".toList.toArray, 1, 2, .ofString "a", .null, true, none⟩ (.ofString "")).outcome =
      .raised (.defect .mistyped) := by
    cbv
  have run : ((chain (testedSign "a")).act (Grammar.empty.setting ⟨0, 0⟩)
        ⟨.text "ab".toList.toArray, 1, 2, .ofString "a", .null, true, none⟩).outcome =
      .returned ⟨.text "ab".toList.toArray, 2, 2, .ofString "b", .null, true, none⟩ := by
    cbv
  rw [← same] at run
  obtain ⟨t, ended, -⟩ := Run.bind_returned_iff.mp run
  cases stopped.symm.trans ended

end Parser

end Catena
