import Mathlib
import Catena.Proofs.Recovery
import Catena.Proofs.Unforced

/-!
# Failures that give everything back

A parser rolls back where it fails if its result is the state before it but for the failure, and
that state is also the last good one. Behind such a failure a chain is resumed as if the parser had
not been there: `Parser.resumed_of_rolledBack`.
-/

namespace Catena

namespace State

variable {s : State}

/-- A failure that gives back a state, with that state for its last good one. -/
def rolledBack (s : State) : State :=
  { s with ok := false, lastGood := some s }

theorem settle_failed (live : s.ok = true) (clean : s.lastGood = none) :
    s.settle s.failed = s.rolledBack :=
  settle_of_failed live rfl clean

end State

namespace Parser

variable {setting : Setting} {parser : Parser} {s : State} {events : List Event}

/-- Behind a parser that rolls back, an oblivious one runs on the state before both. -/
theorem resumed_of_rolledBack (plain : parser.isLookahead = false) (live : s.ok = true)
    (run : parser.act setting s = ⟨events, .returned s.rolledBack⟩) (fallback : Parser) :
    (chain [.item .append parser, .item .append (.oblivious fallback)]).act setting s =
      ⟨events ++ (fallback.act setting s).events, (fallback.act setting s).outcome⟩ := by
  have ordinary : ∀ rest, Chain.followed rest (.item .append (part setting parser)) = none := by
    intro rest
    simp only [Chain.followed, part, backsOff_eq_none setting plain, Option.map_none, ite_self]
  have failed : s.rolledBack.ok = false := rfl
  have step : Chain.step (.item .append (part setting parser)) s s.noText =
      ⟨events, .returned (s.rolledBack, s.noText)⟩ := by
    simp only [Chain.step, if_pos live, part, run, Run.bind_returned, failed, Bool.not_false,
      if_true, Run.pure_eq, List.append_nil]
  have resumed : (Chain.follow [.item .append (part setting (.oblivious fallback))] s.rolledBack
      s.noText >>= fun t => pure (s.settle t)) = fallback.act setting s := by
    rw [follow_oblivious_failed _ _ _ failed, oblivious_act]
    exact congrFun (settled_act setting fallback) s
  rw [chain_act, parts_eq_map]
  simp only [List.map_cons, List.map_nil, Link.map]
  rw [Chain.follow_cons fun _ => ordinary _, bind_assoc, step, Run.bind_returned, resumed]

end Parser

end Catena
