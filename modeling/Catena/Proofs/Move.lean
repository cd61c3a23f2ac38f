import Catena.Meaning
import Catena.Proofs.Outcome
import Catena.Proofs.Window

/-!
# Elementary moves

What a parser without parts can leave of a state: `Parser.body_moves` is the one place where the
elementary actions are opened, and what all of them keep is read off the kinds of moves.
-/

namespace Catena

/-- What an elementary parser leaves of a state. -/
inductive State.Moves (s : State) : State → Prop where
  | mismatch : s.Moves s.mismatch
  | pass : s.Moves s.pass
  | failed : s.Moves s.failed
  | build (value : Value) : s.Moves { s with value, matched := s.noText }
  | take (count : Int) : s.Moves (s.advance count)
  | skip (count stop : Int) : s.Moves (s.advanceWith count (.seq (s.source.slice s.pos stop)))

/-- Parsers without parts, but for placeholders, throw steps and moves of the state. -/
def Parser.isElementary : Parser → Bool
  | literal _ _ | outcome _ | check _ | build _ | singleItem _ | itemRun _ _ _ | everything
  | endOfInput => true
  | _ => false

namespace Action

variable {s r : State}

theorem literal_returned {text : Plain} {caseSensitive : Bool}
    (run : (literal text caseSensitive s).outcome = .returned r) :
    r = s.mismatch ∨ ∃ length : Nat, r = s.advance length := by
  unfold literal at run
  obtain ⟨length, -, run⟩ := Run.bind_returned_iff.mp run
  split at run
  · exact .inl (Run.pure_returned_iff.mp run).symm
  split at run
  · exact .inr ⟨length, (Run.pure_returned_iff.mp run).symm⟩
  split at run
  · exact .inl (Run.pure_returned_iff.mp run).symm
  obtain ⟨found, -, run⟩ := Run.bind_returned_iff.mp run
  obtain ⟨wanted, -, run⟩ := Run.bind_returned_iff.mp run
  obtain rfl := Run.pure_returned_iff.mp run
  split
  · exact .inr ⟨length, rfl⟩
  · exact .inl rfl

/-- A sequence, in its very case, is found where the next items are the same. -/
theorem literal_seq (text : Buffer) (s : State) :
    literal (.value (.seq text)) true s = pure
      (match s.peek text.length with
        | some chunk => if Value.sameSequence chunk text then s.advance text.length else s.mismatch
        | none => s.mismatch) := by
  have length : (Plain.value (.seq text)).length? = some text.length := rfl
  have same : ∀ chunk, (Plain.value (.seq text)).isSame chunk = Value.sameSequence chunk text :=
    fun chunk => by rw [Plain.isSame, Value.same]
  simp only [literal, length, Run.need, pure_bind]
  cases s.peek text.length with
  | none => rfl
  | some chunk =>
    simp only [same, if_true]
    split <;> rfl

theorem settled_of_pure {body : Action} (run : body s = pure r) :
    (settled body s).outcome = .returned (s.settle r) :=
  congrArg (fun x => (x >>= fun t => pure (s.settle t)).outcome) run

theorem singleItem_returned {test : ItemFunction}
    (run : (singleItem test s).outcome = .returned r) : r = s.mismatch ∨ r = s.advance 1 := by
  unfold singleItem at run
  split at run
  · exact .inl (Run.pure_returned_iff.mp run).symm
  obtain ⟨item, -, run⟩ := Run.bind_returned_iff.mp run
  obtain ⟨holds, -, run⟩ := Run.bind_returned_iff.mp run
  obtain rfl := Run.pure_returned_iff.mp run
  split
  · exact .inr rfl
  · exact .inl rfl

theorem scan_returned {test : ItemFunction} {stopsWhenTrue : Bool} {source : Buffer} {count : Nat}
    {pos stop : Int} (run : (scan test stopsWhenTrue source count pos).outcome = .returned stop) :
    pos ≤ stop ∧ stop ≤ pos + count := by
  induction count generalizing pos with
  | zero =>
    obtain rfl := Run.pure_returned_iff.mp run
    omega
  | succ count ih =>
    rw [scan, Run.loop_succ] at run
    obtain ⟨turn, first, run⟩ := Run.bind_returned_iff.mp run
    obtain ⟨item, -, first⟩ := Run.bind_returned_iff.mp first
    obtain ⟨holds, -, first⟩ := Run.bind_returned_iff.mp first
    obtain rfl := Run.pure_returned_iff.mp first
    split at run
    · have further := ih run
      omega
    · obtain rfl := Run.pure_returned_iff.mp run
      omega

theorem itemRun_returned {test : ItemFunction} {keepTerminator stopsWhenTrue : Bool}
    (run : (itemRun test keepTerminator stopsWhenTrue s).outcome = .returned r)
    (ordered : 0 ≤ s.remaining) :
    ∃ stop next, s.pos ≤ next ∧ next ≤ s.limit ∧ r = s.advanceWith (next - s.pos)
      (.seq (s.source.slice s.pos (if keepTerminator then next else stop))) := by
  obtain ⟨stop, found, run⟩ := Run.bind_returned_iff.mp run
  obtain rfl := Run.pure_returned_iff.mp run
  obtain ⟨later, bound⟩ := scan_returned found
  simp only [State.remaining] at ordered bound
  refine ⟨stop, if stop < s.limit then stop + 1 else stop, ?_, ?_, rfl⟩
  · split <;> omega
  · split <;> omega

theorem throws_returned {kind : SignalKind} {msg : Option String} {trigger : Trigger}
    (run : (throws kind msg trigger s).outcome = .returned r) :
    r = if s.ok then s.pass else s := by
  unfold throws at run
  split at run
  · split at run <;> cases run
  · exact (Run.pure_returned_iff.mp run).symm

end Action

/-- Whatever is left, an elementary parser makes one of the elementary moves. -/
theorem Parser.body_moves {setting : Setting} {parser : Parser} {s r : State}
    (elementary : parser.isElementary = true)
    (run : (parser.body setting s).outcome = .returned r) : s.Moves r := by
  cases parser with
  | literal text caseSensitive =>
    obtain rfl | ⟨length, rfl⟩ := Action.literal_returned run
    · exact .mismatch
    · exact .take length
  | outcome ok =>
    obtain rfl := Run.pure_returned_iff.mp run
    cases ok with
    | true => exact .pass
    | false => exact .mismatch
  | check test =>
    obtain ⟨holds, -, run⟩ := Run.bind_returned_iff.mp run
    obtain rfl := Run.pure_returned_iff.mp run
    cases holds with
    | true => exact .pass
    | false => exact .failed
  | build function =>
    obtain ⟨value, -, run⟩ := Run.bind_returned_iff.mp run
    obtain rfl := Run.pure_returned_iff.mp run
    exact .build value
  | singleItem test =>
    obtain rfl | rfl := Action.singleItem_returned run
    · exact .mismatch
    · exact .take 1
  | itemRun test keepTerminator stopsWhenTrue =>
    obtain ⟨stop, -, run⟩ := Run.bind_returned_iff.mp run
    obtain rfl := Run.pure_returned_iff.mp run
    exact .skip _ _
  | everything =>
    obtain rfl := Run.pure_returned_iff.mp run
    exact .take _
  | endOfInput =>
    obtain rfl := Run.pure_returned_iff.mp run
    split
    · exact .pass
    · exact .mismatch
  | _ => cases elementary

namespace State.Moves

variable {s r : State}

theorem lastGood (h : s.Moves r) : r.lastGood = s.lastGood := by
  cases h <;> rfl

theorem source (h : s.Moves r) : r.source = s.source := by
  cases h <;> rfl

end State.Moves

/-- A parser that adds no text leaves the window where it is, and has the empty text where it
succeeds. -/
theorem Parser.inspects_leaves {setting : Setting} {parser : Parser} {s r : State}
    (only : parser.traits.inspectsOnly = true)
    (run : (parser.body setting s).outcome = .returned r) :
    r.window = s.window ∧ (r.ok = true → r.matched = s.noText) := by
  cases parser with
  | outcome ok =>
    obtain rfl := Run.pure_returned_iff.mp run
    cases ok <;> exact ⟨rfl, fun _ => rfl⟩
  | check test =>
    obtain ⟨holds, -, run⟩ := Run.bind_returned_iff.mp run
    obtain rfl := Run.pure_returned_iff.mp run
    cases holds with
    | true => exact ⟨rfl, fun _ => rfl⟩
    | false => exact ⟨rfl, nofun⟩
  | build function =>
    obtain ⟨value, -, run⟩ := Run.bind_returned_iff.mp run
    obtain rfl := Run.pure_returned_iff.mp run
    exact ⟨rfl, fun _ => rfl⟩
  | endOfInput =>
    obtain rfl := Run.pure_returned_iff.mp run
    split <;> exact ⟨rfl, fun _ => rfl⟩
  | throws kind msg trigger =>
    obtain rfl := Action.throws_returned run
    by_cases live : s.ok = true
    · rw [if_pos live]
      exact ⟨rfl, fun _ => rfl⟩
    · rw [if_neg live]
      exact ⟨rfl, fun good => absurd good live⟩
  | _ => cases only

end Catena
