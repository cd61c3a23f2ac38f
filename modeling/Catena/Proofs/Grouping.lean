import Mathlib.Data.List.Basic
import Catena.Construction
import Catena.Proofs.Attempt

/-!
# Grouped alternatives

However alternatives are grouped, the operators make one alternative of all their options, and it
does what the tree of them does: `Choice.either_flattened`. An option leaves its result settled
already, so that nothing is lost with the alternative that an option is taken out of.
-/

namespace Catena

/-! ### Actions in turn -/

namespace Action

variable {act other first second : Action} {acts others rest more : List Action}

theorem firstOf_append (first second : Action) (rest more : List Action) :
    firstOf first (rest ++ second :: more) =
      firstOf (firstOf first rest) [firstOf second more] := by
  funext s
  induction rest generalizing first with
  | nil => rfl
  | cons next rest ih =>
    rw [List.cons_append]
    have grouped := ih next
    simp only [firstOf, bind_assoc] at grouped ⊢
    refine congrArg _ (funext fun result => ?_)
    cases good : result.ok with
    | true => simp only [if_true, pure_bind, good]
    | false => simp only [Bool.false_eq_true, if_false, grouped]

def TriesInTurn (act : Action) (acts : List Action) : Prop :=
  ∃ first rest, acts = first :: rest ∧ act = firstOf first rest

namespace TriesInTurn

theorem single (act : Action) : act.TriesInTurn [act] :=
  ⟨act, [], rfl, rfl⟩

theorem unique (h : act.TriesInTurn acts) (h' : other.TriesInTurn acts) : act = other := by
  obtain ⟨first, rest, rfl, rfl⟩ := h
  obtain ⟨first', rest', same, rfl⟩ := h'
  obtain ⟨rfl, rfl⟩ := List.cons.inj same
  rfl

theorem append (h : act.TriesInTurn acts) (h' : other.TriesInTurn others) :
    (firstOf act [other]).TriesInTurn (acts ++ others) := by
  obtain ⟨first, rest, rfl, rfl⟩ := h
  obtain ⟨second, more, rfl, rfl⟩ := h'
  exact ⟨first, rest ++ second :: more, rfl, (firstOf_append first second rest more).symm⟩

/-- The run of one of the actions, behind the runs of those before it, which fail. -/
theorem chosen (h : act.TriesInTurn acts) (s : State) :
    ∃ earlier chosen later, acts = earlier ++ chosen :: later ∧
      (∀ before ∈ earlier, (before s).outcome.Fails) ∧
      (later ≠ [] → ¬ (chosen s).outcome.Fails) ∧
      act s = ⟨earlier.flatMap (fun before => (before s).events) ++ (chosen s).events,
        (chosen s).outcome⟩ := by
  obtain ⟨first, rest, rfl, rfl⟩ := h
  induction rest generalizing first with
  | nil => exact ⟨[], first, [], rfl, nofun, fun some => absurd rfl some, rfl⟩
  | cons next rest ih =>
    by_cases fails : (first s).outcome.Fails
    · obtain ⟨earlier, chosen, later, split, failing, last, run⟩ := ih next
      refine ⟨first :: earlier, chosen, later, congrArg _ split, ?_, last, ?_⟩
      · exact List.forall_mem_cons.mpr ⟨fails, failing⟩
      · obtain ⟨r, ended, failed⟩ := fails
        rcases here : first s with ⟨events, outcome⟩
        rw [here] at ended
        obtain rfl := ended
        simp only [firstOf, here, Run.bind_returned, failed, Bool.false_eq_true, if_false, run,
          List.flatMap_cons, List.append_assoc]
    · refine ⟨[], first, next :: rest, rfl, nofun, fun _ => fails, ?_⟩
      rcases here : first s with ⟨events, r | fault | _⟩
      · have good : r.ok = true := by
          cases ok : r.ok with
          | true => rfl
          | false => exact absurd ⟨r, by rw [here], ok⟩ fails
        simp only [firstOf, here, Run.bind_returned, good, if_true, Run.pure_eq, List.append_nil,
          List.flatMap_nil, List.nil_append]
      · simp only [firstOf, here, Run.bind_raised, List.flatMap_nil, List.nil_append]
      · simp only [firstOf, here, Run.bind_exhausted, List.flatMap_nil, List.nil_append]

end TriesInTurn

theorem settled_firstOf (here : settled first = first) (later : ∀ act ∈ rest, settled act = act) :
    settled (firstOf first rest) = firstOf first rest := by
  induction rest generalizing first with
  | nil => exact here
  | cons next rest ih =>
    obtain ⟨second, others⟩ := List.forall_mem_cons.mp later
    have alone := fun s => congrFun (ih second others) s
    funext s
    rw [← here]
    simp only [settled, firstOf, bind_assoc, pure_bind] at alone ⊢
    refine congrArg _ (funext fun result => ?_)
    cases good : (s.settle result).ok with
    | true => simp only [if_true, pure_bind, State.settle_settle]
    | false => simp only [Bool.false_eq_true, if_false, alone]

end Action

/-! ### Alternatives of parsers -/

namespace Parser

variable (setting : Setting)

theorem alternative_act (first : Parser) (rest : List Parser) :
    (alternative first rest).act setting =
      .firstOf (first.act setting) (rest.map (act setting)) := by
  rw [← Action.settled_firstOf (settled_act setting first), ← acts_eq_map]
  · rfl
  · intro act member
    obtain ⟨parser, -, rfl⟩ := List.mem_map.mp member
    exact settled_act setting parser

theorem alternative_tries (first : Parser) (rest : List Parser) :
    ((alternative first rest).act setting).TriesInTurn ((first :: rest).map (act setting)) :=
  ⟨_, _, rfl, alternative_act setting first rest⟩

theorem options_tries (parser : Parser) :
    (parser.act setting).TriesInTurn (parser.options.map (act setting)) := by
  cases parser with
  | alternative first rest => exact alternative_tries setting first rest
  | _ => exact .single _

theorem pair_tries {left right : Parser} {acts others : List Action}
    (first : (left.act setting).TriesInTurn acts)
    (second : (right.act setting).TriesInTurn others) :
    ((alternative left [right]).act setting).TriesInTurn (acts ++ others) := by
  rw [alternative_act]
  exact first.append second

theorem options_eq_cons (parser : Parser) : ∃ first rest, parser.options = first :: rest := by
  cases parser with
  | alternative first rest => exact ⟨first, rest, rfl⟩
  | _ => exact ⟨_, [], rfl⟩

theorem either_eq (left right : Parser) :
    ∃ first second rest, left.either right = alternative first (second :: rest) ∧
      first :: second :: rest = left.options ++ right.options := by
  obtain ⟨second, more, others⟩ := right.options_eq_cons
  cases left with
  | alternative first rest =>
    have whole : rest ++ right.options = rest ++ second :: more := congrArg _ others
    cases rest with
    | nil => exact ⟨first, second, more, congrArg _ whole, congrArg _ whole.symm⟩
    | cons next rest =>
      exact ⟨first, next, rest ++ second :: more, congrArg _ whole, congrArg _ whole.symm⟩
  | _ => exact ⟨_, second, more, congrArg _ others, congrArg _ others.symm⟩

theorem options_either (left right : Parser) :
    (left.either right).options = left.options ++ right.options := by
  obtain ⟨first, second, rest, same, options⟩ := either_eq left right
  rw [same, ← options]
  rfl

/-- The options of two parsers are tried as the two parsers are. -/
theorem either_act (left right : Parser) :
    (left.either right).act setting = (alternative left [right]).act setting := by
  have flat := options_tries setting (left.either right)
  rw [options_either, List.map_append] at flat
  exact flat.unique (pair_tries setting (options_tries setting left) (options_tries setting right))

/-- A run on a state is that of one parser of a list, behind the runs of those before it, all of
which fail; it does not fail itself unless it is the last one. -/
def FirstToSucceed (s : State) (parsers : List Parser) (run : Run State) : Prop :=
  ∃ earlier chosen later, parsers = earlier ++ chosen :: later ∧
    (∀ parser ∈ earlier, (parser.act setting s).outcome.Fails) ∧
    (later ≠ [] → ¬ (chosen.act setting s).outcome.Fails) ∧
    run = ⟨earlier.flatMap (fun parser => (parser.act setting s).events) ++
      (chosen.act setting s).events, (chosen.act setting s).outcome⟩

theorem firstToSucceed {act : Action} {parsers : List Parser}
    (h : act.TriesInTurn (parsers.map (Parser.act setting))) (s : State) :
    FirstToSucceed setting s parsers (act s) := by
  obtain ⟨earlier, chosen, later, split, failing, last, run⟩ := h.chosen s
  obtain ⟨before, after, rfl, rfl, others⟩ := List.map_eq_append_iff.mp split
  obtain ⟨parser, behind, rfl, rfl, rfl⟩ := List.map_eq_cons_iff.mp others
  refine ⟨before, parser, behind, rfl, fun parser member => ?_, fun some => ?_, ?_⟩
  · exact failing _ (List.mem_map_of_mem member)
  · exact last (by simpa using some)
  · rw [run, List.flatMap_map]

end Parser

/-! ### Operands -/

def textsNotUnited : ConstructionError :=
  .arithmetic (.unsupported "|" "str" "str")

namespace Operand

def isPlain : Operand → Bool
  | parser _ => false
  | plain _ => true

theorem text_of_toParser {x : Plain} {p : Parser} (h : (plain x).toParser = .ok p) :
    (∃ cs, x = .value (.seq (.text cs))) ∨ ∃ t, x = .script false t := by
  unfold toParser at h
  split at h
  · rename_i same
    cases same
  · rename_i cs same
    exact .inl ⟨cs, plain.inj same⟩
  · rename_i t same
    exact .inr ⟨t, plain.inj same⟩
  · cases h

/-- Operands that stand for parsers give the alternative of those, unless both are texts. -/
theorem either_stands {left right : Operand} {p q : Parser} (first : left.toParser = .ok p)
    (second : right.toParser = .ok q) :
    left.either right =
      if left.isPlain && right.isPlain then .error textsNotUnited
      else .ok (parser (p.either q)) := by
  cases left with
  | parser left =>
    obtain rfl := Except.ok.inj first
    simp only [either, second, isPlain, Bool.false_and, Bool.false_eq_true, if_false]
    rfl
  | plain x =>
    cases right with
    | parser right =>
      obtain rfl := Except.ok.inj second
      simp only [either, first, isPlain, Bool.and_false, Bool.false_eq_true, if_false]
      rfl
    | plain y =>
      obtain ⟨cs, rfl⟩ | ⟨t, rfl⟩ := text_of_toParser first <;>
        obtain ⟨cs', rfl⟩ | ⟨t', rfl⟩ := text_of_toParser second <;> rfl

end Operand

/-! ### Trees of alternatives -/

/-- An operand that stands for a parser, as a parser itself or as the text of a literal. -/
structure ParserOperand where
  operand : Operand
  parser : Parser
  stands : operand.toParser = .ok parser

/-- Operands put together two by two. -/
inductive Choice where
  | leaf (given : ParserOperand)
  | either (left right : Choice)

namespace Choice

def build : Choice → Except ConstructionError Operand
  | leaf given => .ok given.operand
  | either left right => do (← left.build).either (← right.build)

def leaves : Choice → List Parser
  | leaf given => [given.parser]
  | either left right => left.leaves ++ right.leaves

def paired : Choice → Parser
  | leaf given => given.parser
  | either left right => .alternative left.paired [right.paired]

def flat : Choice → Parser
  | leaf given => given.parser
  | either left right => left.flat.either right.flat

def operand : Choice → Operand
  | leaf given => given.operand
  | either left right => .parser (left.flat.either right.flat)

/-- Whether wherever two operands are put together one of them is a parser: no operator of parsers
takes two texts. -/
def joined : Choice → Bool
  | leaf _ => true
  | either left right =>
    !(left.operand.isPlain && right.operand.isPlain) && left.joined && right.joined

theorem operand_stands (c : Choice) : c.operand.toParser = .ok c.flat := by
  cases c with
  | leaf given => exact given.stands
  | either left right => rfl

theorem build_eq (c : Choice) :
    c.build = if c.joined then .ok c.operand else .error textsNotUnited := by
  induction c with
  | leaf given => rfl
  | either left right first second =>
    have together := Operand.either_stands left.operand_stands right.operand_stands
    rw [build, first, second, joined]
    cases left.joined with
    | false => simp only [Bool.and_false, Bool.false_and, Bool.false_eq_true, if_false]; rfl
    | true =>
      cases right.joined with
      | false => simp only [Bool.and_false, Bool.false_eq_true, if_true, if_false]; rfl
      | true =>
        have whole : (either left right).operand = .parser (left.flat.either right.flat) := rfl
        rw [whole]
        simp only [if_true, Bool.and_true]
        refine together.trans ?_
        cases left.operand.isPlain && right.operand.isPlain <;> rfl

theorem flat_options (c : Choice) : c.flat.options = c.leaves.flatMap Parser.options := by
  induction c with
  | leaf given => exact (List.append_nil _).symm
  | either left right first second =>
    rw [flat, Parser.options_either, first, second, leaves, List.flatMap_append]

theorem flat_act (setting : Setting) (c : Choice) :
    c.flat.act setting = c.paired.act setting := by
  induction c with
  | leaf given => rfl
  | either left right first second =>
    rw [flat, Parser.either_act, paired, Parser.alternative_act, Parser.alternative_act, first]
    exact congrArg (fun act => Action.firstOf _ [act]) second

theorem paired_tries (setting : Setting) (c : Choice) :
    (c.paired.act setting).TriesInTurn (c.leaves.map (Parser.act setting)) := by
  induction c with
  | leaf given => exact .single _
  | either left right first second =>
    rw [leaves, List.map_append]
    exact Parser.pair_tries setting first second

/-- The operators make one alternative of a tree, of the options of all its leaves from left to
right, except where they find two texts. Its run on any state is that of the tree as it is, namely
that of the first leaf that does not fail there, or of the last leaf, behind the runs of the leaves
before it. -/
theorem either_flattened (left right : Choice) :
    (either left right).build =
      (if (either left right).joined then .ok (.parser (either left right).flat)
        else .error textsNotUnited) ∧
    (∃ first second rest, (either left right).flat = .alternative first (second :: rest) ∧
      first :: second :: rest = (either left right).leaves.flatMap Parser.options) ∧
    ∀ setting s,
      (either left right).flat.act setting s = (either left right).paired.act setting s ∧
      Parser.FirstToSucceed setting s (either left right).leaves
        ((either left right).flat.act setting s) := by
  refine ⟨build_eq _, ?_, fun setting s => ?_⟩
  · obtain ⟨first, second, rest, same, options⟩ := Parser.either_eq left.flat right.flat
    refine ⟨first, second, rest, same, ?_⟩
    rw [options, flat_options, flat_options, leaves, List.flatMap_append]
  · rw [flat_act]
    exact ⟨rfl, Parser.firstToSucceed setting (paired_tries setting _) s⟩

end Choice

end Catena
