/-!
# Sequences

Buffers of characters, octets or arbitrary items, with the same operations on all three. An offset
is an integer: a negative one counts from the end, and one outside the buffer is clipped.
-/

namespace Catena

/-- What the items of a sequence are. -/
inductive Kind where
  | text
  | bytes
  | list
deriving DecidableEq, Repr

/-- A sequence of characters, of octets or of arbitrary items. -/
inductive Sequence (α : Type) where
  | text (chars : Array Char)
  | bytes (octets : Array UInt8)
  | list (items : Array α)

/-- Where an offset points in a buffer of the given length, counted from its start. -/
def offset (length : Nat) (i : Int) : Nat :=
  if i < 0 then (i + length).toNat else i.toNat

/-- The items between two offsets; none if they are crossed. -/
def cut {β : Type} (lo hi : Int) (items : Array β) : Array β :=
  items.extract (offset items.size lo) (offset items.size hi)

/-- Why something is too long to be made. -/
inductive Excess where
  /-- The number of times is no word. -/
  | count
  | length (kind : Kind)
  | room
  /-- A whole number is out of the reach of double precision. -/
  | double
deriving DecidableEq, Repr

/-- The message of an excess; nothing is said where there is no room. -/
def Excess.message : Excess → String
  | count => "cannot fit 'int' into an index-sized integer"
  | length .bytes => "repeated bytes are too long"
  | length _ => "repeated string is too long"
  | room => ""
  | double => "int too large to convert to float"

/-- The least number above all words of 64 bits with a sign. -/
def wordLimit : Int := 9223372036854775808

/-- How many items there is room for in a buffer. -/
def roomLimit : Nat := 268435456

/-- Why something of the given kind and length cannot be written so many times over, where there is
room for `room` items: the number of times and the length are to be words. -/
def excess? (kind : Kind) (length room : Nat) (n : Int) : Option Excess :=
  if n < -wordLimit ∨ wordLimit ≤ n then some .count
  else if wordLimit ≤ n.toNat * length ∧ kind ≠ .list then some (.length kind)
  else if room < n.toNat * length then some .room
  else none

namespace Sequence

variable {α : Type}

def kind : Sequence α → Kind
  | text _ => .text
  | bytes _ => .bytes
  | list _ => .list

def length : Sequence α → Nat
  | text cs => cs.size
  | bytes bs => bs.size
  | list xs => xs.size

def slice (s : Sequence α) (lo hi : Int) : Sequence α :=
  match s with
  | text cs => text (cut lo hi cs)
  | bytes bs => bytes (cut lo hi bs)
  | list xs => list (cut lo hi xs)

def empty : Sequence α → Sequence α
  | text _ => text #[]
  | bytes _ => bytes #[]
  | list _ => list #[]

/-- One sequence after the other; only sequences of one kind join. -/
def append? : Sequence α → Sequence α → Option (Sequence α)
  | text a, text b => some (text (a ++ b))
  | bytes a, bytes b => some (bytes (a ++ b))
  | list a, list b => some (list (a ++ b))
  | _, _ => none

def reverse : Sequence α → Sequence α
  | text cs => text cs.reverse
  | bytes bs => bytes bs.reverse
  | list xs => list xs.reverse

def replicate (n : Nat) : Sequence α → Sequence α
  | text cs => text (Nat.repeat (· ++ cs) n #[])
  | bytes bs => bytes (Nat.repeat (· ++ bs) n #[])
  | list xs => list (Nat.repeat (· ++ xs) n #[])

/-- The sequence a number of times over, none if that is negative, if it fits into a buffer. -/
def times (s : Sequence α) (n : Int) : Except Excess (Sequence α) :=
  match excess? s.kind s.length roomLimit n with
  | some e => .error e
  | none => .ok (if s.length = 0 then s else s.replicate n.toNat)

@[simp] theorem kind_slice (s : Sequence α) (lo hi : Int) : (s.slice lo hi).kind = s.kind := by
  cases s <;> rfl

@[simp] theorem kind_empty (s : Sequence α) : s.empty.kind = s.kind := by
  cases s <;> rfl

@[simp] theorem length_empty (s : Sequence α) : s.empty.length = 0 := by
  cases s <;> rfl

theorem append?_isSome (s t : Sequence α) : (s.append? t).isSome = true ↔ s.kind = t.kind := by
  cases s <;> cases t <;> simp [append?, kind]

end Sequence

end Catena
