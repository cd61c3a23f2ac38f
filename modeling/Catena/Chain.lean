import Catena.Lookahead

/-!
# Chains

How a chain passes a state along its links. It keeps the text of its links besides the state; while
it is failed, only links that resume or inspect a failure run.
-/

namespace Catena

/-- What a chain knows of a parser. -/
structure Part where
  act : Action
  traits : Traits
  /-- How the parser backs off, if it is a lookahead. -/
  lookahead : Option Lookahead

/-- Whether a link is a parser. -/
def Link.isItem {π : Type} : Link π → Bool
  | .item _ _ => true
  | .build _ => false

/-- The same link with something else for its parser. -/
def Link.map {π ρ : Type} (f : π → ρ) : Link π → Link ρ
  | .item fold parser => .item fold (f parser)
  | .build function => .build function

/-- The text of a chain after a link that matched `addition`. -/
def Fold.join (fold : Fold) (text addition : Value) : Run Value :=
  match fold with
  | append => Run.need (.ofSum text addition) (text.plus? addition)
  | discard => return addition

namespace Chain

/-- Passes a state along links, where `text` is the text of the links before them. -/
def follow : List (Link Part) → State → Value → Run State
  | [], s, _ => return s
  | .build function :: rest, s, text => do
    if s.ok then
      let value ← function.call (s.value, text)
      follow rest { s with value } text
    else follow rest s text
  | .item fold part :: rest, s, text => do
    if s.ok then
      match if rest.any Link.isItem then part.lookahead else none with
      | some look =>
        let resume : Action := fun t => do
          let joined ← fold.join text t.matched
          follow rest { t with matched := joined } joined
        match ← look.search s resume with
        | some result => return result
        | none => follow rest (← look.act s) text
      | none =>
        let result ← part.act s
        if !result.ok then follow rest result text
        else
          let text ←
            if part.traits.inspectsOnly then pure text else fold.join text result.matched
          follow rest { result with matched := text } text
    else if part.traits.oblivious then
      let result ← part.act (s.lastGood.getD s)
      follow rest result result.matched
    else if part.traits.inspectsFailure then
      follow rest (← part.act s) text
    else follow rest s text

/-- Passes a state along all links, with no text before the first. -/
def act (links : List (Link Part)) : Action := fun s =>
  follow links s s.noText

end Chain

end Catena
