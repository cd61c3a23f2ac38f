import Catena.Value.Shown

/-!
# Parse states

A snapshot of a parse: a buffer with a window of it still to read, the text matched so far, the
value built so far, and whether the parse is still successful. A failed state may carry the last
good one.
-/

namespace Catena

/-- A snapshot of a parse in progress. -/
structure State where
  source : Buffer
  /-- Offset of the first item not yet consumed. -/
  pos : Int
  /-- Offset after the last item that may be read. -/
  limit : Int
  /-- The text matched so far; a function that transforms it may leave any value here. -/
  matched : Value
  value : Value
  ok : Bool
  /-- Where a failed parse was last successful. -/
  lastGood : Option State

namespace State

/-- The state before anything of the source is consumed. -/
def start (source : Buffer) (value : Value) : State where
  source := source
  pos := 0
  limit := source.length
  matched := .seq source.empty
  value := value
  ok := true
  lastGood := none

/-! ### Views -/

def unconsumed (s : State) : Buffer :=
  s.source.slice s.pos s.limit

def remaining (s : State) : Int :=
  s.limit - s.pos

/-- The matched text of a step that matches nothing. -/
def noText (s : State) : Value :=
  .seq s.source.empty

def atEnd (s : State) : Bool :=
  s.limit ≤ s.pos

/-- Whether that many items are left. -/
def hasItems (s : State) (count : Int) : Bool :=
  s.pos + count ≤ s.limit

/-- The next items, if that many are left. -/
def peek (s : State) (count : Int) : Option Buffer :=
  if s.hasItems count then some (s.source.slice s.pos (s.pos + count)) else none

/-- Whether two states agree in everything but where their windows lie in their buffers. -/
def same (s t : State) : Bool :=
  s.ok == t.ok && Value.sameSequence s.unconsumed t.unconsumed && s.matched.same t.matched &&
    s.value.same t.value

def shown (s : State) : String :=
  "<" ++ (if s.ok then "ok" else "failed") ++ " matched=" ++ s.matched.shown ++ " unconsumed=" ++
    Value.shownSequence s.unconsumed ++ " value=" ++ s.value.shown ++ ">"

/-! ### Moves -/

/-- Consumes that many items, or all that are left, with the given matched text. -/
def advanceWith (s : State) (count : Int) (matched : Value) : State :=
  { s with pos := min (s.pos + count) s.limit, matched, ok := true }

/-- Consumes that many items, or all that are left, as matched text. -/
def advance (s : State) (count : Int) : State :=
  s.advanceWith count (.seq (s.source.slice s.pos (min (s.pos + count) s.limit)))

/-- Succeeds without consuming or matching anything. -/
def pass (s : State) : State :=
  { s with matched := s.noText, ok := true }

/-- Fails without a matched text. -/
def mismatch (s : State) : State :=
  { s with matched := s.noText, ok := false }

def failed (s : State) : State :=
  { s with ok := false }

/-- A copy over a fresh buffer that holds the unconsumed items alone, and likewise for the last good
state. There is none if some matched text is no sequence. -/
def detach : State → Option State
  | ⟨source, pos, limit, matched, value, ok, none⟩ => do
    let text ← matched.sequence?
    let rest := source.slice pos limit
    return ⟨rest, 0, rest.length, .seq text, value, ok, none⟩
  | ⟨source, pos, limit, matched, value, ok, some good⟩ => do
    let text ← matched.sequence?
    let rest := source.slice pos limit
    let good ← good.detach
    return ⟨rest, 0, rest.length, .seq text, value, ok, some good⟩

/-- What every run leaves to its caller: a successful result carries no snapshot, and a result that
failed on a successful state carries that state unless a deeper step left one. -/
def settle (before after : State) : State :=
  if after.ok then { after with lastGood := none }
  else if before.ok && after.lastGood.isNone then { after with lastGood := some before }
  else after

/-- The window lies in the buffer, the matched text is of the buffer's kind, and there is no
snapshot. -/
def WellFormed (s : State) : Prop :=
  0 ≤ s.pos ∧ s.pos ≤ s.limit ∧ s.limit ≤ s.source.length ∧
    (∃ text, s.matched = .seq text ∧ text.kind = s.source.kind) ∧ s.lastGood = none

theorem start_wellFormed (source : Buffer) (value : Value) : (start source value).WellFormed :=
  ⟨Int.le_refl 0, Int.natCast_nonneg _, Int.le_refl _, ⟨_, rfl, Sequence.kind_empty _⟩, rfl⟩

@[simp] theorem settle_settle (before after : State) :
    before.settle (before.settle after) = before.settle after := by
  unfold settle; grind

end State

end Catena
