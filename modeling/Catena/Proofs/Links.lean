import Mathlib.Data.List.Forall2
import Catena.Chain
import Catena.Proofs.Outcome

/-!
# Links of chains

What one link does to a state and to the text of its chain. A chain is followed link by link, except
at a lookahead with parsers behind it: the rest of the chain then decides about its candidates.
-/

namespace Catena.Chain

/-- The lookahead of a link, if a parser follows it in the chain, and how its text is joined. -/
def followed (rest : List (Link Part)) : Link Part → Option (Fold × Lookahead)
  | .item fold part =>
    if rest.any Link.isItem then part.lookahead.map fun look => (fold, look) else none
  | .build _ => none

/-- What a link does to a state and the text before it where nothing is searched. -/
def step : Link Part → State → Value → Run (State × Value)
  | .build function, s, text => do
    if s.ok then
      let value ← function.call (s.value, text)
      return ({ s with value }, text)
    else return (s, text)
  | .item fold part, s, text => do
    if s.ok then
      let result ← part.act s
      if !result.ok then return (result, text)
      else
        let text ←
          if part.traits.inspectsOnly then pure text else fold.join text result.matched
        return ({ result with matched := text }, text)
    else if part.traits.oblivious then
      let result ← part.act (s.lastGood.getD s)
      return (result, result.matched)
    else if part.traits.inspectsFailure then
      let result ← part.act s
      return (result, text)
    else return (s, text)

def resume (rest : List (Link Part)) (fold : Fold) (text : Value) : Action := fun t => do
  let joined ← fold.join text t.matched
  follow rest { t with matched := joined } joined

def Quiet : Link Part → Prop
  | .item _ part => part.traits.oblivious = false ∧ part.traits.inspectsFailure = false
  | .build _ => True

variable {link : Link Part} {links rest : List (Link Part)} {s t : State} {text joined : Value}

/-! ### Links that succeed -/

theorem step_build_ok {function : TextFunction}
    (run : (step (.build function) s text).outcome = .returned (t, joined)) (good : t.ok = true) :
    s.ok = true ∧ joined = text ∧ ∃ value, t = { s with value } := by
  by_cases live : s.ok = true
  · simp only [step, if_pos live] at run
    obtain ⟨value, -, run⟩ := Run.bind_returned_iff.mp run
    obtain ⟨rfl, rfl⟩ := Prod.mk.inj (Run.pure_returned_iff.mp run)
    exact ⟨live, rfl, value, rfl⟩
  · simp only [step, if_neg live] at run
    obtain ⟨rfl, rfl⟩ := Prod.mk.inj (Run.pure_returned_iff.mp run)
    exact absurd good live

/-- A parser that succeeds in a chain ran on the state it met or, to resume a failed chain, on the
last good one; only one that inspects failures may have run on a failed state itself. -/
theorem step_item_ok {fold : Fold} {part : Part}
    (run : (step (.item fold part) s text).outcome = .returned (t, joined)) (good : t.ok = true) :
    (∃ result, (part.act (if s.ok then s else s.lastGood.getD s)).outcome = .returned result ∧
      result.ok = true ∧ t = { result with matched := joined }) ∨
    (s.ok = false ∧ part.traits.inspectsFailure = true ∧ (part.act s).outcome = .returned t) := by
  by_cases live : s.ok = true
  · simp only [step, if_pos live] at run
    obtain ⟨result, after, run⟩ := Run.bind_returned_iff.mp run
    left
    rw [if_pos live]
    by_cases ok : result.ok = true
    · simp only [ok, Bool.not_true, Bool.false_eq_true, if_false] at run
      refine ⟨result, after, ok, ?_⟩
      split at run <;> obtain ⟨text, -, run⟩ := Run.bind_returned_iff.mp run <;>
        obtain ⟨rfl, rfl⟩ := Prod.mk.inj (Run.pure_returned_iff.mp run) <;> rw [ok]
    · rw [Bool.not_eq_true] at ok
      simp only [ok, Bool.not_false, if_true] at run
      obtain ⟨rfl, -⟩ := Prod.mk.inj (Run.pure_returned_iff.mp run)
      exact absurd good (by simp [ok])
  · by_cases resumes : part.traits.oblivious = true
    · simp only [step, if_neg live, if_pos resumes] at run
      obtain ⟨result, after, run⟩ := Run.bind_returned_iff.mp run
      obtain ⟨rfl, rfl⟩ := Prod.mk.inj (Run.pure_returned_iff.mp run)
      rw [if_neg live]
      exact .inl ⟨result, after, good, by cases result; rfl⟩
    · by_cases looks : part.traits.inspectsFailure = true
      · simp only [step, if_neg live, if_neg resumes, if_pos looks] at run
        obtain ⟨result, after, run⟩ := Run.bind_returned_iff.mp run
        obtain ⟨rfl, rfl⟩ := Prod.mk.inj (Run.pure_returned_iff.mp run)
        exact .inr ⟨Bool.not_eq_true _ ▸ live, looks, after⟩
      · simp only [step, if_neg live, if_neg resumes, if_neg looks] at run
        obtain ⟨rfl, rfl⟩ := Prod.mk.inj (Run.pure_returned_iff.mp run)
        exact absurd good live

/-! ### Following links -/

theorem eq_item_of_followed {fold : Fold} {look : Lookahead}
    (back : followed rest link = some (fold, look)) :
    ∃ part, link = .item fold part ∧ rest.any Link.isItem = true ∧ part.lookahead = some look := by
  cases link with
  | build function => cases back
  | item fold' part =>
    by_cases later : rest.any Link.isItem = true
    · rw [followed, if_pos later, Option.map_eq_some_iff] at back
      obtain ⟨look', found, same⟩ := back
      obtain ⟨rfl, rfl⟩ := Prod.mk.inj same
      exact ⟨part, rfl, later, found⟩
    · rw [followed, if_neg later] at back
      cases back

theorem follow_cons (ordinary : s.ok = true → followed rest link = none) :
    follow (link :: rest) s text = step link s text >>= fun p => follow rest p.1 p.2 := by
  cases link with
  | build function =>
    by_cases live : s.ok = true
    · simp only [follow, step, if_pos live, bind_assoc, pure_bind]
    · simp only [follow, step, if_neg live, pure_bind]
  | item fold part =>
    by_cases live : s.ok = true
    · have none : (if rest.any Link.isItem then part.lookahead else none) = none := by
        by_cases later : rest.any Link.isItem = true
        · simpa only [followed, later, if_true, Option.map_eq_none_iff] using ordinary live
        · rw [if_neg later]
      simp only [follow, step, if_pos live, none, bind_assoc]
      refine congrArg _ (funext fun result => ?_)
      by_cases good : result.ok = true
      · by_cases only : part.traits.inspectsOnly = true <;>
          simp only [good, only, Bool.not_true, Bool.false_eq_true, if_true, if_false, pure_bind,
            bind_assoc]
      · simp only [good, Bool.not_false, if_true, pure_bind]
    · by_cases resumes : part.traits.oblivious = true
      · simp only [follow, step, if_neg live, if_pos resumes, bind_assoc, pure_bind]
      · by_cases looks : part.traits.inspectsFailure = true
        · simp only [follow, step, if_neg live, if_neg resumes, if_pos looks, bind_assoc, pure_bind]
        · simp only [follow, step, if_neg live, if_neg resumes, if_neg looks, pure_bind]

theorem follow_quiet (failed : s.ok = false) (quiet : ∀ link ∈ links, Quiet link)
    (tail : List (Link Part)) : follow (links ++ tail) s text = follow tail s text := by
  induction links with
  | nil => rfl
  | cons link rest ih =>
    obtain ⟨here, later⟩ := List.forall_mem_cons.mp quiet
    rw [List.cons_append, follow_cons fun live => absurd live (by simp [failed])]
    cases link with
    | build function =>
      simp only [step, failed, Bool.false_eq_true, if_false, pure_bind]
      exact ih later
    | item fold part =>
      simp only [step, failed, here.1, here.2, Bool.false_eq_true, if_false, pure_bind]
      exact ih later

/-- Nothing happens to a failed chain if no link of it runs on failures. -/
theorem follow_failed_quiet (failed : s.ok = false) (quiet : ∀ link ∈ links, Quiet link) :
    follow links s text = pure s := by
  have h : follow (links ++ []) s text = pure s := follow_quiet failed quiet []
  rwa [List.append_nil] at h

theorem follow_searched {fold : Fold} {look : Lookahead} (live : s.ok = true)
    (back : followed rest link = some (fold, look)) :
    follow (link :: rest) s text = look.search s (resume rest fold text) >>= fun
      | some result => pure result
      | none => look.act s >>= fun result => follow rest result text := by
  obtain ⟨part, rfl, later, found⟩ := eq_item_of_followed back
  simp only [follow, if_pos live, if_pos later, found]
  rfl

theorem follow_ordinary {fold : Fold} {act : Action} (live : s.ok = true) :
    follow (.item fold ⟨act, {}, none⟩ :: rest) s text = act s >>= fun full =>
      if full.ok then resume rest fold text full else follow rest full text := by
  simp only [follow, live, if_true, ite_self, Bool.false_eq_true, if_false]
  refine congrArg _ (funext fun full => ?_)
  cases good : full.ok with
  | true => simp only [Bool.not_true, Bool.false_eq_true, if_false, if_true, resume, good]
  | false => simp only [Bool.not_false, Bool.false_eq_true, if_false, if_true]

/-! ### Related links -/

variable {R : Link Part → Link Part → Prop} {L : Lookahead → Lookahead → Prop}
  {links' rest' : List (Link Part)}

theorem any_isItem (kinds : ∀ link link', R link link' → link.isItem = link'.isItem)
    (h : List.Forall₂ R links links') : links.any Link.isItem = links'.any Link.isItem := by
  induction h with
  | nil => rfl
  | cons here _ ih => rw [List.any_cons, List.any_cons, kinds _ _ here, ih]

/-- Where parsers follow on both sides or on neither, related lookaheads are followed. -/
theorem followed_item (fold : Fold) {part part' : Part}
    (looks : Option.Rel L part.lookahead part'.lookahead)
    (later : rest.any Link.isItem = rest'.any Link.isItem) :
    Option.Rel (fun back back' => back.1 = back'.1 ∧ L back.2 back'.2)
      (followed rest (.item fold part)) (followed rest' (.item fold part')) := by
  simp only [followed, later]
  by_cases backs : rest'.any Link.isItem = true
  · rw [if_pos backs, if_pos backs]
    cases left : part.lookahead <;> cases right : part'.lookahead <;>
      rw [left, right] at looks <;> cases looks
    · exact .none
    · rename_i both
      exact .some ⟨rfl, both⟩
  · rw [if_neg backs, if_neg backs]
    exact .none

end Catena.Chain
