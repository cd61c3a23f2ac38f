import Catena.Sequence
import Catena.Text.Case

/-!
# Lower case of sequences

Texts and octets have a lower case; lists of arbitrary items have none.
-/

namespace Catena.Sequence

/-- The lower case of a sequence. -/
def lower? {α : Type} : Sequence α → Option (Sequence α)
  | text cs => some (text (Text.lower cs.toList).toArray)
  | bytes bs => some (bytes (bs.map Text.lowerOctet))
  | list _ => none

end Catena.Sequence
