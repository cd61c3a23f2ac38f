import Catena.State
import Catena.Text.Lines

/-!
# Positions in a text

The line and column of a state, and the note that points at it: a headline, and below it an excerpt
of the line with a caret under the position.
-/

namespace Catena

/-- A part of a line, and how many characters of it stand before the caret. -/
structure Excerpt where
  text : List Char
  caret : Nat
deriving DecidableEq, Repr

/-- The part of a line shown for a column: its first forty characters, or the twenty on either side
of a column beyond the twentieth. There is none for a column behind the line. -/
def Excerpt.ofLine (line : List Char) (column : Int) : Option Excerpt :=
  if line.length < column then none
  else if column ≤ 20 then some ⟨line.take 40, (column - 1).toNat⟩
  else some ⟨(line.drop (column - 20).toNat).take 40, 20⟩

namespace State

/-- The line and column of a position in a text, both counted from one. -/
def lineColOf (cs : Array Char) (pos : Int) : Int × Int :=
  let before := (cut 0 pos cs).toList
  (Text.newlines before + 1, pos - before.length + Text.afterNewline before + 1)

/-- The line and column of the position; a buffer that is no text is all one line. -/
def lineCol (s : State) : Int × Int :=
  match s.source with
  | .text cs => lineColOf cs s.pos
  | _ => (1, s.pos + 1)

def excerpt (s : State) : Option Excerpt :=
  match s.source with
  | .text cs => do
    let (line, column) := lineColOf cs s.pos
    let quoted ← (Text.lines cs.toList)[(line - 1).toNat]?
    Excerpt.ofLine quoted column
  | _ => none

def headline (s : State) : String :=
  let position := "At position " ++ toString s.pos
  match s.source with
  | .text _ =>
    let (line, column) := s.lineCol
    position ++ " (line " ++ toString line ++ ", column " ++ toString column ++ ")"
  | _ => position

/-- The lines of a position note, after a message if there is one. -/
def noteLines (s : State) (msg : Option String) : List String :=
  let quoted := match s.excerpt with
    | some e => [String.ofList e.text, String.ofList (List.replicate e.caret ' ' ++ ['^'])]
    | none => []
  msg.toList ++ s.headline :: quoted

/-- A note that says where the state is. A caret so far in front of a line that the distance is no
word cannot be put there. -/
def note (s : State) (msg : Option String) : Except Excess String :=
  if s.pos < -wordLimit ∧ s.excerpt.isSome then .error .count
  else .ok ("\n".intercalate (s.noteLines msg))

theorem note_of_nonneg {s : State} (h : 0 ≤ s.pos) (msg : Option String) :
    s.note msg = .ok ("\n".intercalate (s.noteLines msg)) := by
  have : ¬ s.pos < -wordLimit := by unfold wordLimit; omega
  simp [note, this]

end State

end Catena
