import Catena.Number.Decimal
import Catena.Text.Quoted
import Catena.Value

/-!
# Values as shown

The text of a value in parser names, state descriptions and messages, and the word for its type.
-/

namespace Catena.Value

def typeName : Value → String
  | null => "NoneType"
  | bool _ => "bool"
  | int _ => "int"
  | double _ => "float"
  | seq (.text _) => "str"
  | seq (.bytes _) => "bytes"
  | seq (.list _) => "list"

mutual

def shown : Value → String
  | null => "None"
  | bool b => if b then "True" else "False"
  | int n => toString n
  | double x => x.shown
  | seq s => shownSequence s

/-- The text of a sequence: quoted, or its items between brackets. -/
def shownSequence : Buffer → String
  | .text cs => String.ofList (Text.quoted cs.toList)
  | .bytes bs => String.ofList (Text.quotedOctets bs.toList)
  | .list ⟨xs⟩ => "[" ++ ", ".intercalate (shownItems xs) ++ "]"

def shownItems : List Value → List String
  | [] => []
  | v :: vs => shown v :: shownItems vs

end

end Catena.Value
