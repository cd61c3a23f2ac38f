import Catena.Text.Printable

/-!
# Quoted texts

A text or a run of octets between quotes, with what could not be read back escaped. Single quotes
are used unless the content holds a single quote and no double one.
-/

namespace Catena.Text

/-- The quote put around content that holds the given quotes. -/
def quoteFor (hasSingle hasDouble : Bool) : Char :=
  if hasSingle && !hasDouble then '"' else '\''

/-- The last `width` hexadecimal digits of a number, leading zeros included. -/
def hexadecimal : Nat → Nat → List Char
  | 0, _ => []
  | width + 1, n => hexadecimal width (n / 16) ++ [Nat.digitChar (n % 16)]

/-- The escape of a code point by its number, as short as it allows. -/
def numberEscape (code : Nat) : List Char :=
  if code < 0x100 then '\\' :: 'x' :: hexadecimal 2 code
  else if code < 0x10000 then '\\' :: 'u' :: hexadecimal 4 code
  else '\\' :: 'U' :: hexadecimal 8 code

/-- A character between quotes; `shown` tells which characters need no escape. -/
def escaped (shown : Char → Bool) (quote c : Char) : List Char :=
  if c == quote || c == '\\' then ['\\', c]
  else if c == '\n' then ['\\', 'n']
  else if c == '\r' then ['\\', 'r']
  else if c == '\t' then ['\\', 't']
  else if shown c then [c]
  else numberEscape c.toNat

def enclosed (shown : Char → Bool) (cs : List Char) : List Char :=
  let quote := quoteFor (cs.contains '\'') (cs.contains '"')
  quote :: cs.flatMap (escaped shown quote) ++ [quote]

def quoted (cs : List Char) : List Char :=
  enclosed isPrintable cs

/-- Whether an octet needs no escape as a character; only ASCII characters do not. -/
def isShownOctet (c : Char) : Bool :=
  0x20 ≤ c.toNat && c.toNat < 0x7f

/-- A quoted run of octets, marked by a leading `b`. -/
def quotedOctets (bs : List UInt8) : List Char :=
  'b' :: enclosed isShownOctet (bs.map fun b => Char.ofNat b.toNat)

end Catena.Text
