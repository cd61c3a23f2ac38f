/-!
# Lines

Newlines number the lines of a position; a wider set of breaks cuts a text into the lines that a
position note quotes.
-/

namespace Catena.Text

def newlines (cs : List Char) : Nat :=
  cs.count '\n'

/-- How many characters stand after the last newline. -/
def afterNewline (cs : List Char) : Nat :=
  (cs.reverse.takeWhile (· != '\n')).length

/-- Characters that end a line; a carriage return joins with a newline right after it. -/
def isBreak (c : Char) : Bool :=
  c == '\n' || c == '\r' || c == '\x0b' || c == '\x0c' || c == '\x1c' || c == '\x1d' ||
    c == '\x1e' || c == '\x85' || c == '\u2028' || c == '\u2029'

/-- The lines of a text without their breaks; `line` holds the line begun, last character first. -/
def linesFrom (line : List Char) : List Char → List (List Char)
  | [] => if line.isEmpty then [] else [line.reverse]
  | '\r' :: '\n' :: rest => line.reverse :: linesFrom [] rest
  | c :: rest =>
    if isBreak c then line.reverse :: linesFrom [] rest else linesFrom (c :: line) rest

/-- The lines of a text; a break at the very end begins no further line. -/
def lines (cs : List Char) : List (List Char) :=
  linesFrom [] cs

end Catena.Text
