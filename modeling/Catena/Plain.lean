import Catena.Text.Script
import Catena.Value.Shown

/-!
# Plain things

What may stand where a parser, a function or a signal kind is expected without being one: a value,
or a script that fits into no buffer.
-/

namespace Catena

/-- Something that is neither a parser nor a function. -/
inductive Plain where
  | value (v : Value)
  /-- A text, or a run of octets, that is too long or holds code points that are no characters. -/
  | script (octets : Bool) (t : Script)

/-- How long a script may be that is written out. -/
def writtenLimit : Nat := 1048576

namespace Plain

/-- A script, written out if that is possible. -/
def ofScript (octets : Bool) (t : Script) : Plain :=
  if writtenLimit < t.length then script octets t
  else
    let codes := t.codes
    if octets then value (.seq (.bytes (codes.map UInt8.ofNat).toArray))
    else
      match Script.characters? codes with
      | some cs => value (.seq (.text cs.toArray))
      | none => script octets [{ codes }]

def typeName : Plain → String
  | value v => v.typeName
  | script octets _ => if octets then "bytes" else "str"

def shown : Plain → String
  | value v => v.shown
  | script octets t => t.shown octets

/-- The sequence a plain thing is, if it fits into a buffer. -/
def sequence? : Plain → Option Buffer
  | value v => v.sequence?
  | _ => none

/-- The script a plain thing is, and whether its code points are octets. -/
def script? : Plain → Option (Bool × Script)
  | value (.seq (.text cs)) => some (false, .ofChars cs.toList)
  | value (.seq (.bytes bs)) => some (true, .ofOctets bs.toList)
  | script octets t => some (octets, t)
  | _ => none

/-- The whole number a plain thing stands for. -/
def number? : Plain → Option Int
  | value v => v.number?
  | _ => none

def numeric? : Plain → Option Number
  | value v => v.numeric?
  | _ => none

def length? : Plain → Option Nat
  | value v => v.sequence?.map Sequence.length
  | script _ t => some t.length

def isSame (s : Buffer) : Plain → Bool
  | value v => Value.same (.seq s) v
  | script octets t =>
    match octets, s with
    | false, .text cs => cs.size == t.length && cs.toList.map Char.toNat == t.codes
    | true, .bytes bs => bs.size == t.length && bs.toList.map UInt8.toNat == t.codes
    | _, _ => false

end Plain

end Catena
