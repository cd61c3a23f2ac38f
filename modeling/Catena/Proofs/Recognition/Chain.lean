import Mathlib
import Catena.Proofs.Links
import Catena.Proofs.Recognition.Action

/-!
# Chains that recognize

A chain that appends what its links recognize is the sequence of their expressions. It does not stop
at a link that fails, but no link after that one does anything.
-/

namespace Catena

inductive Link.Recognizes (kind : Kind) (call : Nat → Buffer → Option (Option Nat)) :
    Link Part → Peg → Prop where
  | item {part : Part} {e : Peg} (act : part.act.Recognizes kind (e.eval call))
    (stays : part.traits.oblivious = false) (blind : part.traits.inspectsFailure = false)
    (whole : part.lookahead = none) : Link.Recognizes kind call (.item .append part) e

namespace Chain

variable {kind : Kind} {call : Nat → Buffer → Option (Option Nat)} {link : Link Part}
  {links : List (Link Part)} {e : Peg} {es : List Peg} {s : State} {text : Value}

theorem step_recognizes (h : link.Recognizes kind call e) (poised : s.Poised kind)
    (ofKind : text.OfKind kind) :
    (step link s text).outcome.Gives (fun p a => s.Answers kind p.1 a ∧ p.2.OfKind kind)
      (e.eval call s.unconsumed) := by
  cases h with | @item part e act stays blind whole => ?_
  rw [← Option.bind_fun_some (e.eval call s.unconsumed)]
  simp only [step, if_pos poised.ok]
  refine (act s poised).bind fun r a _ answers => ?_
  cases a with
  | none =>
    have failed : (!r.ok) = true := congrArg not answers
    simp only [failed, if_true]
    exact .returned ⟨answers, ofKind⟩
  | some n =>
    obtain ⟨bound, window, after⟩ := answers
    have live : (!r.ok) = false := congrArg not after.ok
    simp only [live, Bool.false_eq_true, if_false]
    by_cases only : part.traits.inspectsOnly = true
    · simp only [only, if_true, pure_bind]
      exact .returned ⟨⟨bound, window, after.put ofKind⟩, ofKind⟩
    · obtain ⟨joined, sum, ofKind'⟩ := ofKind.plus after.text
      simp only [only, Bool.false_eq_true, if_false, Fold.join, sum, Run.need, pure_bind]
      exact .returned ⟨⟨bound, window, after.put ofKind'⟩, ofKind'⟩

theorem follow_recognizes_cons (h : link.Recognizes kind call e) :
    follow (link :: links) s text = step link s text >>= fun p => follow links p.1 p.2 := by
  refine follow_cons fun _ => ?_
  obtain ⟨act, stays, blind, whole⟩ := h
  simp only [followed, whole, Option.map_none, ite_self]

theorem recognizes_quiet (h : List.Forall₂ (Link.Recognizes kind call) links es) :
    ∀ link ∈ links, Quiet link := by
  induction h with
  | nil => nofun
  | cons here _ ih =>
    obtain ⟨act, stays, blind, whole⟩ := here
    exact List.forall_mem_cons.mpr ⟨⟨stays, blind⟩, ih⟩

/-- A chain goes on behind what its links recognize as long as they do, and then it only leads the
failed state to its end. -/
theorem follow_recognizes (h : List.Forall₂ (Link.Recognizes kind call) links es)
    (poised : s.Poised kind) (ofKind : text.OfKind kind) :
    (follow links s text).outcome.Gives (s.Answers kind)
      ((Peg.seqs es).eval call s.unconsumed) := by
  induction h generalizing s text with
  | nil => exact .returned (.still poised rfl poised.ok poised.text)
  | cons here later ih =>
    rw [follow_recognizes_cons here, Peg.seqs, Peg.eval_seq]
    refine (step_recognizes here poised ofKind).bind fun p a _ after => ?_
    obtain ⟨answers, ofKind'⟩ := after
    cases a with
    | none =>
      rw [follow_failed_quiet answers (recognizes_quiet later)]
      exact .returned answers
    | some n =>
      dsimp only
      rw [← State.unconsumed_of_skip poised answers.2.1]
      exact (ih answers.2.2 ofKind').map fun r a rest => rest.after answers.2.1

theorem act_recognizes (h : List.Forall₂ (Link.Recognizes kind call) links es) :
    Action.Recognizes kind (Chain.act links) ((Peg.seqs es).eval call) :=
  fun _ poised => follow_recognizes h poised poised.noText

end Chain

end Catena
