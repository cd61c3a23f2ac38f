import Catena.Run

/-!
# Callbacks

The functions given to parsers: predicates, builders and the like. A callback answers or complains,
and every call of one is an event.
-/

namespace Catena

/-- A function given to a parser. -/
structure Callback (α β : Type) where
  /-- The name it shows in the names of parsers. -/
  name : Option String
  /-- The name its calls are listed under. -/
  label : Option String
  apply : α → Except Complaint β

/-- Arguments of callbacks, as they are listed. -/
class Listed (α : Type) where
  arguments : α → List Argument

instance : Listed Value := ⟨fun v => [.value v]⟩
instance : Listed State := ⟨fun s => [.state s]⟩
instance : Listed (Value × Value) := ⟨fun (v, m) => [.value v, .value m]⟩
instance : Listed (Value × Value × Value) := ⟨fun (v, w, m) => [.value v, .value w, .value m]⟩
instance : Listed (Value × Value × Nat) := ⟨fun (v, m, i) => [.value v, .value m, .value (.int i)]⟩

/-- Computes from the built value and the matched text. -/
abbrev TextFunction := Callback (Value × Value) Value

abbrev ItemFunction := Callback Value Value

/-- Looks at the built value, the matched text and the index of one round of a repetition. -/
abbrev RoundFunction := Callback (Value × Value × Nat) Value

/-- Merges the value built by a sub-parser, and its matched text, into the built value. -/
abbrev MergeFunction := Callback (Value × Value × Value) Value

abbrev TransformFunction := Callback Value Value

abbrev StepFunction := Callback State State

def Callback.call {α β : Type} [Listed α] (f : Callback α β) (a : α) : Run β := do
  Run.log (.called f.label (Listed.arguments a))
  match f.apply a with
  | .ok b => return b
  | .error complaint => Run.raise complaint.fault

/-- Calls a callback for a truth value. -/
def Callback.test {α : Type} [Listed α] (f : Callback α Value) (a : α) : Run Bool := do
  return (← f.call a).isTrue

end Catena
