import Catena.Text.Quoted

/-!
# Scripts

Texts and runs of octets that need not fit into a buffer: stretches of code points, each written a
number of times over. A script may be too long to be written out, and its code points need not be
characters.
-/

namespace Catena

/-- Code points, written a number of times over. -/
structure Stretch where
  codes : List Nat
  count : Nat := 1
deriving DecidableEq, Repr

/-- A text or a run of octets, stretch by stretch. -/
abbrev Script := List Stretch

/-- How long a script may be. -/
def scriptLimit : Nat := 68719476736

namespace Script

def ofChars (cs : List Char) : Script :=
  [{ codes := cs.map Char.toNat }]

def ofOctets (bs : List UInt8) : Script :=
  [{ codes := bs.map UInt8.toNat }]

def length (t : Script) : Nat :=
  t.foldr (fun s rest => s.count * s.codes.length + rest) 0

def codes (t : Script) : List Nat :=
  t.flatMap fun s => (List.replicate s.count s.codes).flatten

def replicate (n : Nat) : Script → Script
  | [s] => [{ s with count := n * s.count }]
  | t => (List.replicate n t).flatten

def isCharacter (code : Nat) : Bool :=
  decide code.isValidChar

/-- The characters of code points, if all of them are characters. -/
def characters? (codes : List Nat) : Option (List Char) :=
  if codes.all isCharacter then some (codes.map Char.ofNat) else none

/-- A code point between quotes; `plain` tells which characters need no escape. -/
def escaped (plain : Char → Bool) (quote : Char) (code : Nat) : List Char :=
  if isCharacter code then Text.escaped plain quote (Char.ofNat code) else Text.numberEscape code

/-- A script between quotes, marked by a leading `b` if its code points are octets. -/
def shown (octets : Bool) (t : Script) : String :=
  let holds (c : Char) : Bool := t.any fun s => s.count != 0 && s.codes.contains c.toNat
  let quote := Text.quoteFor (holds '\'') (holds '"')
  let plain := if octets then Text.isShownOctet else Text.isPrintable
  let inner := t.foldl (fun before s =>
    let stretch := String.ofList (s.codes.flatMap (escaped plain quote))
    Nat.repeat (· ++ stretch) s.count before) ""
  (if octets then "b" else "") ++ String.singleton quote ++ inner ++ String.singleton quote

end Script

end Catena
