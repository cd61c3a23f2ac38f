/-!
# Character sets

Small sets of ASCII characters, to be used as tests of items.
-/

namespace Catena

/-- A set of ASCII characters. -/
inductive CharSet where
  | whitespace
  | decimal
  | alphabetic
  | alphanumeric
deriving DecidableEq, Repr

namespace CharSet

/-- The characters from one to another. -/
def between (first last : Char) : List Char :=
  (List.range' first.toNat (last.toNat + 1 - first.toNat)).map Char.ofNat

/-- The members of a set, in increasing order. -/
def members : CharSet → List Char
  | whitespace => ['\t', '\n', '\x0c', '\r', ' ']
  | decimal => between '0' '9'
  | alphabetic => between 'A' 'Z' ++ between 'a' 'z'
  | alphanumeric => between '0' '9' ++ between 'A' 'Z' ++ between 'a' 'z'

end CharSet

end Catena
