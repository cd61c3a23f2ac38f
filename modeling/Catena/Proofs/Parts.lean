import Mathlib.Data.List.Forall2
import Catena.Grammar

/-!
# Parts of parsers

What a parser is directly put together from, and what a run of it can come to under a grammar, also
through placeholders. Parts are smaller than what they are parts of, which gives induction over
them; definitions need not be.
-/

namespace Catena

def Link.item? {π : Type} : Link π → Option π
  | .item _ parser => some parser
  | .build _ => none

theorem Link.forall₂_map {α β γ : Type} {R : Link β → Link γ → Prop} {f : α → β} {g : α → γ}
    {links : List (Link α)}
    (item : ∀ fold, ∀ parser ∈ links.filterMap Link.item?,
      R (.item fold (f parser)) (.item fold (g parser)))
    (build : ∀ function, .build function ∈ links → R (.build function) (.build function)) :
    List.Forall₂ R (links.map (Link.map f)) (links.map (Link.map g)) := by
  rw [List.forall₂_map_left_iff, List.forall₂_map_right_iff, List.forall₂_same]
  intro link member
  cases link with
  | build function => exact build function member
  | item fold parser => exact item fold parser (List.mem_filterMap.mpr ⟨_, member, rfl⟩)

namespace Parser

/-- The parsers that a parser is directly put together from. -/
def inner : Parser → List Parser
  | many _ _ parser | repeated _ _ parser | absorb _ _ parser | morph _ parser | force parser
  | noConsume parser | noBuild parser | oblivious parser | lookahead _ parser => [parser]
  | catches _ main handler => main :: handler.toList
  | chain links => links.filterMap Link.item?
  | alternative first rest => first :: rest
  | _ => []

theorem sizeOf_lt_of_mem_inner {parser part : Parser} (member : part ∈ parser.inner) :
    sizeOf part < sizeOf parser := by
  cases parser with
  | catches kinds main handler =>
    cases handler with
    | none =>
      obtain rfl := List.mem_singleton.mp member
      simp only [catches.sizeOf_spec]
      omega
    | some handler =>
      simp only [inner, Option.toList_some, List.mem_cons, List.not_mem_nil, or_false] at member
      simp only [catches.sizeOf_spec, Option.some.sizeOf_spec]
      rcases member with rfl | rfl <;> omega
  | chain links =>
    obtain ⟨link, there, found⟩ := List.mem_filterMap.mp member
    have below := List.sizeOf_lt_of_mem there
    cases link with
    | build function => cases found
    | item fold parser =>
      obtain rfl := Option.some.inj found
      simp only [Link.item.sizeOf_spec] at below
      simp only [chain.sizeOf_spec]
      omega
  | alternative first rest =>
    rcases List.mem_cons.mp member with rfl | there
    · simp only [alternative.sizeOf_spec]
      omega
    · have below := List.sizeOf_lt_of_mem there
      simp only [alternative.sizeOf_spec]
      omega
  | many | repeated | absorb | morph | force | noConsume | noBuild | oblivious | lookahead =>
    obtain rfl := List.mem_singleton.mp member
    simp +arith
  | _ => cases member

theorem inner_induction {P : Parser → Prop}
    (step : ∀ parser : Parser, (∀ part ∈ parser.inner, P part) → P parser) (parser : Parser) :
    P parser :=
  step parser fun part _ => inner_induction step part
termination_by sizeOf parser
decreasing_by exact sizeOf_lt_of_mem_inner ‹_›

theorem parts_any_isItem (setting : Setting) (links : List (Link Parser)) :
    (parts setting links).any Link.isItem = links.any Link.isItem := by
  rw [parts_eq_map, List.any_map]
  congr 1
  funext link
  cases link <;> rfl

def isStep : Parser → Bool
  | step _ => true
  | _ => false

def isForce : Parser → Bool
  | force _ => true
  | _ => false

end Parser

namespace Grammar

/-- What a parser is made of under a grammar: itself, its parts, what its placeholders stand for,
and what all of these are made of. -/
inductive Reaches (g : Grammar) : Parser → Parser → Prop where
  | here (parser : Parser) : Reaches g parser parser
  | part {parser part below : Parser} (member : part ∈ parser.inner) (h : Reaches g part below) :
    Reaches g parser below
  | definition {slot : Nat} {parser below : Parser} (name : String)
    (found : g.lookup slot = some parser) (h : Reaches g parser below) :
    Reaches g (.forward slot name) below

theorem Reaches.trans {g : Grammar} {parser between below : Parser}
    (first : g.Reaches parser between) (second : g.Reaches between below) :
    g.Reaches parser below := by
  induction first with
  | here => exact second
  | part member _ ih => exact .part member (ih second)
  | definition name found _ ih => exact .definition name found (ih second)

def Throughout (g : Grammar) (P : Parser → Prop) (parser : Parser) : Prop :=
  ∀ below, g.Reaches parser below → P below

def StepFree (g : Grammar) : Parser → Prop :=
  g.Throughout (·.isStep = false)

def ForceFree (g : Grammar) : Parser → Prop :=
  g.Throughout (·.isForce = false)

namespace Throughout

variable {g : Grammar} {P : Parser → Prop} {parser : Parser}

theorem here (h : g.Throughout P parser) : P parser :=
  h parser (.here parser)

theorem part (h : g.Throughout P parser) {part : Parser} (member : part ∈ parser.inner) :
    g.Throughout P part :=
  fun below reaches => h below (.part member reaches)

theorem below (h : g.Throughout P parser) {below : Parser} (reaches : g.Reaches parser below) :
    g.Throughout P below :=
  fun part further => h part (reaches.trans further)

theorem definition {slot : Nat} {name : String} (h : g.Throughout P (.forward slot name))
    (found : g.lookup slot = some parser) : g.Throughout P parser :=
  fun below reaches => h below (.definition name found reaches)

/-- A property holds throughout a parser if it holds of parsers that are closed under parts and
definitions. -/
theorem of_closed (members : List Parser) (holds : ∀ member ∈ members, P member)
    (parts : ∀ member ∈ members, ∀ part ∈ member.inner, part ∈ members)
    (definitions : ∀ slot name parser, .forward slot name ∈ members →
      g.lookup slot = some parser → parser ∈ members)
    (start : parser ∈ members) : g.Throughout P parser := by
  intro below reaches
  induction reaches with
  | here parser => exact holds parser start
  | part member _ ih => exact ih (parts _ start _ member)
  | definition name found _ ih => exact ih (definitions _ name _ start found)

end Throughout

/-! ### Nested brackets -/

def bracketed : Parser :=
  .chain [.item .append (.literal (.value (.ofString "[")) true),
    .item .append (.lookahead .greedy (.alternative (.forward 0 "nested") [.everything])),
    .item .append (.literal (.value (.ofString "]")) true)]

def brackets : Grammar :=
  ⟨[some bracketed]⟩

theorem brackets_throughout {P : Parser → Prop}
    (holds : ∀ member ∈ [.forward 0 "nested", bracketed, .literal (.value (.ofString "[")) true,
      .lookahead .greedy (.alternative (.forward 0 "nested") [.everything]),
      .alternative (.forward 0 "nested") [.everything], .everything,
      .literal (.value (.ofString "]")) true], P member) :
    brackets.Throughout P (.forward 0 "nested") := by
  refine .of_closed _ holds ?_ ?_ (.head _)
  · simp [Parser.inner, bracketed, Link.item?]
  · intro slot name parser member found
    simp [bracketed] at member
    obtain ⟨rfl, -⟩ := member
    obtain rfl := Option.some.inj found
    simp

theorem brackets_stepFree : brackets.StepFree (.forward 0 "nested") :=
  brackets_throughout (by simp [bracketed, Parser.isStep])

theorem brackets_forceFree : brackets.ForceFree (.forward 0 "nested") :=
  brackets_throughout (by simp [bracketed, Parser.isForce])

end Grammar

end Catena
