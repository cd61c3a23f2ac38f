import Mathlib
import Catena.Plain
import Catena.Proofs.Window

/-!
# Parsing expressions

Parsing expressions, and what they derive on a buffer: how many of its first items they recognize,
or that they fail. Beside the derivations stands an evaluation that enters rules only so deep.
Derived is what is evaluated at some depth: `Peg.derives_iff`. So an answer is derived at most once,
and none where rules lead back to themselves at every depth.
-/

namespace Catena

namespace Sequence

variable {α : Type} {s : Sequence α} {m n : Nat}

def behind (s : Sequence α) (n : Nat) : Sequence α :=
  s.slice n s.length

theorem behind_zero (s : Sequence α) : s.behind 0 = s :=
  s.slice_zero_length

theorem length_behind (bound : n ≤ s.length) : (s.behind n).length = s.length - n := by
  have length := s.length_slice (Int.natCast_nonneg n) (by omega) (Int.le_refl s.length)
  unfold behind
  omega

theorem length_pos_of_item? {s : Buffer} {v : Value} (first : s.item? 0 = some v) :
    0 < s.length := by
  rw [item?_of_nonneg s (Int.le_refl 0)] at first
  cases s with
  | text cs =>
    obtain ⟨c, found, -⟩ := Option.map_eq_some_iff.mp first
    exact (Array.getElem?_eq_some_iff.mp found).1
  | bytes bs =>
    obtain ⟨b, found, -⟩ := Option.map_eq_some_iff.mp first
    exact (Array.getElem?_eq_some_iff.mp found).1
  | list xs => exact (Array.getElem?_eq_some_iff.mp first).1

end Sequence

def Plain.opens (text : Plain) (w : Buffer) : Bool :=
  match text.length? with
  | some n => decide (n ≤ w.length) && text.isSame (w.slice 0 n)
  | none => false

/-- A parsing expression over rules in slots. -/
inductive Peg where
  | literal (text : Plain)
  | item (accepts : Value → Bool)
  | empty
  | fail
  | everything
  | ending
  | seq (first second : Peg)
  /-- The second one only where the first one fails. -/
  | choice (first second : Peg)
  /-- Success without what is recognized. -/
  | ahead (inner : Peg)
  /-- As often as it succeeds, up to one time that recognizes nothing. -/
  | star (inner : Peg)
  | rule (slot : Nat)

namespace Peg

def option (e : Peg) : Peg :=
  choice e empty

def plus (e : Peg) : Peg :=
  seq e (star e)

def seqs : List Peg → Peg
  | [] => empty
  | e :: es => seq e (seqs es)

def choices (e : Peg) : List Peg → Peg
  | [] => e
  | f :: es => choice e (choices f es)

/-! ### Derivations -/

/-- What an expression derives on a buffer: the number of items it recognizes, or none if it
fails. -/
inductive Derives (rules : Nat → Option Peg) : Peg → Buffer → Option Nat → Prop where
  | literal {text : Plain} {n : Nat} {w : Buffer} (length : text.length? = some n)
    (opens : text.opens w = true) : Derives rules (literal text) w (some n)
  | literal_fail {text : Plain} {n : Nat} {w : Buffer} (length : text.length? = some n)
    (opens : text.opens w = false) : Derives rules (literal text) w none
  | item {accepts : Value → Bool} {w : Buffer} {v : Value} (first : w.item? 0 = some v)
    (accepted : accepts v = true) : Derives rules (item accepts) w (some 1)
  | item_fail {accepts : Value → Bool} {w : Buffer}
    (refused : ∀ v, w.item? 0 = some v → accepts v = false) : Derives rules (item accepts) w none
  | empty {w : Buffer} : Derives rules empty w (some 0)
  | fail {w : Buffer} : Derives rules fail w none
  | everything {w : Buffer} : Derives rules everything w (some w.length)
  | ending {w : Buffer} (bare : w.length = 0) : Derives rules ending w (some 0)
  | ending_fail {w : Buffer} (more : w.length ≠ 0) : Derives rules ending w none
  | seq {e f : Peg} {w : Buffer} {m n : Nat} (first : Derives rules e w (some m))
    (second : Derives rules f (w.behind m) (some n)) : Derives rules (seq e f) w (some (m + n))
  | seq_first {e f : Peg} {w : Buffer} (first : Derives rules e w none) :
    Derives rules (seq e f) w none
  | seq_second {e f : Peg} {w : Buffer} {m : Nat} (first : Derives rules e w (some m))
    (second : Derives rules f (w.behind m) none) : Derives rules (seq e f) w none
  | choice_first {e f : Peg} {w : Buffer} {n : Nat} (first : Derives rules e w (some n)) :
    Derives rules (choice e f) w (some n)
  | choice_second {e f : Peg} {w : Buffer} {a : Option Nat} (first : Derives rules e w none)
    (second : Derives rules f w a) : Derives rules (choice e f) w a
  | ahead {e : Peg} {w : Buffer} {n : Nat} (inner : Derives rules e w (some n)) :
    Derives rules (ahead e) w (some 0)
  | ahead_fail {e : Peg} {w : Buffer} (inner : Derives rules e w none) :
    Derives rules (ahead e) w none
  | star_end {e : Peg} {w : Buffer} (inner : Derives rules e w none) :
    Derives rules (star e) w (some 0)
  | star_stall {e : Peg} {w : Buffer} (inner : Derives rules e w (some 0)) :
    Derives rules (star e) w (some 0)
  | star_more {e : Peg} {w : Buffer} {m n : Nat} (inner : Derives rules e w (some (m + 1)))
    (more : Derives rules (star e) (w.behind (m + 1)) (some n)) :
    Derives rules (star e) w (some (m + 1 + n))
  | rule {slot : Nat} {e : Peg} {w : Buffer} {a : Option Nat} (found : rules slot = some e)
    (inner : Derives rules e w a) : Derives rules (rule slot) w a

variable {rules : Nat → Option Peg} {e : Peg} {w : Buffer} {a b : Option Nat} {m n : Nat}

theorem Derives.le_length (h : Derives rules e w (some n)) : n ≤ w.length := by
  generalize answer : some n = a at h
  induction h generalizing n with
  | @literal text n' w length opens =>
    obtain rfl := Option.some.inj answer
    simp only [Plain.opens, length, Bool.and_eq_true, decide_eq_true_eq] at opens
    exact opens.1
  | item first accepted =>
    obtain rfl := Option.some.inj answer
    exact Sequence.length_pos_of_item? first
  | empty | ending | ahead | star_end | star_stall =>
    obtain rfl := Option.some.inj answer
    exact Nat.zero_le _
  | everything =>
    obtain rfl := Option.some.inj answer
    exact Nat.le_refl _
  | seq first second ih ih' =>
    obtain rfl := Option.some.inj answer
    have left := ih rfl
    have right := ih' rfl
    rw [Sequence.length_behind left] at right
    omega
  | star_more inner more ih ih' =>
    obtain rfl := Option.some.inj answer
    have left := ih rfl
    have right := ih' rfl
    rw [Sequence.length_behind left] at right
    omega
  | choice_first first ih => exact ih answer
  | choice_second first second ih ih' => exact ih' answer
  | rule found inner ih => exact ih answer
  | _ => cases answer

/-! ### Evaluation -/

def rounds (once : Buffer → Option (Option Nat)) : Nat → Buffer → Option (Option Nat)
  | 0, _ => none
  | left + 1, w =>
    match once w with
    | none => none
    | some none | some (some 0) => some (some 0)
    | some (some (n + 1)) => (rounds once left (w.behind (n + 1))).map (Option.map (n + 1 + ·))

/-- Evaluates an expression, where `call` evaluates rules. -/
def eval (call : Nat → Buffer → Option (Option Nat)) : Peg → Buffer → Option (Option Nat)
  | literal text, w => text.length?.map fun n => if text.opens w then some n else none
  | item accepts, w => some (if (w.item? 0).any accepts then some 1 else none)
  | empty, _ => some (some 0)
  | fail, _ => some none
  | everything, w => some (some w.length)
  | ending, w => some (if w.length = 0 then some 0 else none)
  | seq e f, w =>
    match e.eval call w with
    | none => none
    | some none => some none
    | some (some m) => (f.eval call (w.behind m)).map (Option.map (m + ·))
  | choice e f, w =>
    match e.eval call w with
    | some none => f.eval call w
    | answer => answer
  | ahead e, w => (e.eval call w).map (Option.map fun _ => 0)
  | star e, w => rounds (e.eval call) (w.length + 1) w
  | rule slot, w => call slot w

def callIn (rules : Nat → Option Peg) : Nat → Nat → Buffer → Option (Option Nat)
  | 0, _, _ => none
  | depth + 1, slot, w => (rules slot).bind fun e => e.eval (callIn rules depth) w

variable {call call' : Nat → Buffer → Option (Option Nat)}
  {once once' : Buffer → Option (Option Nat)}

theorem rounds_succ (once : Buffer → Option (Option Nat)) (left : Nat) (w : Buffer) :
    rounds once (left + 1) w = (once w).bind fun
      | none | some 0 => some (some 0)
      | some (n + 1) => (rounds once left (w.behind (n + 1))).map (Option.map (n + 1 + ·)) := by
  rw [rounds]
  rcases once w with _ | _ | _ | n <;> rfl

theorem eval_seq (e f : Peg) (w : Buffer) :
    (seq e f).eval call w = (e.eval call w).bind fun
      | none => some none
      | some m => (f.eval call (w.behind m)).map (Option.map (m + ·)) := by
  rw [eval]
  rcases e.eval call w with _ | _ | m <;> rfl

theorem eval_choice (e f : Peg) (w : Buffer) :
    (choice e f).eval call w = (e.eval call w).bind fun
      | none => f.eval call w
      | some n => some (some n) := by
  rw [eval]
  rcases e.eval call w with _ | _ | n <;> rfl

/-! ### What is evaluated is derived -/

theorem rounds_sound (sound : ∀ w a, once w = some a → Derives rules e w a) {left : Nat}
    (h : rounds once left w = some a) : Derives rules (star e) w a := by
  induction left generalizing w a with
  | zero => cases h
  | succ left ih =>
    unfold rounds at h
    split at h
    · cases h
    · rename_i ended
      obtain rfl := Option.some.inj h
      exact .star_end (sound w _ ended)
    · rename_i stalled
      obtain rfl := Option.some.inj h
      exact .star_stall (sound w _ stalled)
    · rename_i m consumed
      obtain ⟨b, later, rfl⟩ := Option.map_eq_some_iff.mp h
      have more := ih later
      cases b with
      | none => cases more
      | some n => exact .star_more (sound w _ consumed) more

theorem eval_sound (sound : ∀ slot w a, call slot w = some a → Derives rules (rule slot) w a)
    (h : e.eval call w = some a) : Derives rules e w a := by
  induction e generalizing w a with
  | literal text =>
    obtain ⟨n, length, rfl⟩ := Option.map_eq_some_iff.mp h
    cases opens : text.opens w with
    | true => exact .literal length opens
    | false => exact .literal_fail length opens
  | item accepts =>
    obtain rfl := Option.some.inj h
    by_cases accepted : (w.item? 0).any accepts = true
    · obtain ⟨v, first, accepted'⟩ := Option.any_eq_true _ _ |>.mp accepted
      rw [if_pos accepted]
      exact .item first accepted'
    · rw [if_neg accepted]
      refine .item_fail fun v first => ?_
      rwa [first, Option.any_some, Bool.not_eq_true] at accepted
  | empty =>
    obtain rfl := Option.some.inj h
    exact .empty
  | fail =>
    obtain rfl := Option.some.inj h
    exact .fail
  | everything =>
    obtain rfl := Option.some.inj h
    exact .everything
  | ending =>
    obtain rfl := Option.some.inj h
    by_cases bare : w.length = 0
    · rw [if_pos bare]
      exact .ending bare
    · rw [if_neg bare]
      exact .ending_fail bare
  | seq e f ih ih' =>
    unfold eval at h
    split at h
    · cases h
    · rename_i first
      obtain rfl := Option.some.inj h
      exact .seq_first (ih first)
    · rename_i m first
      obtain ⟨b, second, rfl⟩ := Option.map_eq_some_iff.mp h
      cases b with
      | none => exact .seq_second (ih first) (ih' second)
      | some n => exact .seq (ih first) (ih' second)
  | choice e f ih ih' =>
    unfold eval at h
    split at h
    · rename_i first
      exact .choice_second (ih first) (ih' h)
    · rename_i answer
      cases a with
      | none => exact absurd h answer
      | some n => exact .choice_first (ih h)
  | ahead e ih =>
    obtain ⟨b, inner, rfl⟩ := Option.map_eq_some_iff.mp h
    cases b with
    | none => exact .ahead_fail (ih inner)
    | some n => exact .ahead (ih inner)
  | star e ih => exact rounds_sound (fun w a => ih) h
  | rule slot => exact sound slot w a h

theorem callIn_sound {depth slot : Nat} (h : callIn rules depth slot w = some a) :
    Derives rules (rule slot) w a := by
  induction depth generalizing slot w a with
  | zero => cases h
  | succ depth ih =>
    obtain ⟨e, found, inner⟩ := Option.bind_eq_some_iff.mp h
    exact .rule found (eval_sound (fun _ _ _ => ih) inner)

/-! ### What is evaluated deeper -/

theorem rounds_mono (more : ∀ w a, once w = some a → once' w = some a) {left : Nat}
    (h : rounds once left w = some a) : rounds once' left w = some a := by
  induction left generalizing w a with
  | zero => cases h
  | succ left ih =>
    unfold rounds at h ⊢
    cases here : once w with
    | none =>
      rw [here] at h
      cases h
    | some b =>
      rw [here] at h
      rw [more w b here]
      rcases b with _ | _ | n
      · exact h
      · exact h
      · obtain ⟨c, later, rfl⟩ := Option.map_eq_some_iff.mp h
        exact Option.map_eq_some_iff.mpr ⟨c, ih later, rfl⟩

theorem eval_mono (more : ∀ slot w a, call slot w = some a → call' slot w = some a)
    (h : e.eval call w = some a) : e.eval call' w = some a := by
  induction e generalizing w a with
  | seq e f ih ih' =>
    unfold eval at h ⊢
    cases first : e.eval call w with
    | none =>
      rw [first] at h
      cases h
    | some b =>
      rw [first] at h
      rw [ih first]
      cases b with
      | none => exact h
      | some m =>
        obtain ⟨c, second, rfl⟩ := Option.map_eq_some_iff.mp h
        exact Option.map_eq_some_iff.mpr ⟨c, ih' second, rfl⟩
  | choice e f ih ih' =>
    unfold eval at h ⊢
    cases first : e.eval call w with
    | none =>
      rw [first] at h
      cases h
    | some b =>
      rw [first] at h
      rw [ih first]
      cases b with
      | none => exact ih' h
      | some n => exact h
  | ahead e ih =>
    obtain ⟨b, inner, rfl⟩ := Option.map_eq_some_iff.mp h
    exact Option.map_eq_some_iff.mpr ⟨b, ih inner, rfl⟩
  | star e ih => exact rounds_mono (fun w a => ih) h
  | rule slot => exact more slot w a h
  | _ => exact h

theorem callIn_mono {depth depth' : Nat} (deeper : depth ≤ depth') {slot : Nat}
    (h : callIn rules depth slot w = some a) : callIn rules depth' slot w = some a := by
  induction depth generalizing depth' slot w a with
  | zero => cases h
  | succ depth ih =>
    obtain ⟨depth', rfl⟩ := Nat.exists_eq_add_of_le' (Nat.le_trans (Nat.le_add_left 1 depth) deeper)
    obtain ⟨e, found, inner⟩ := Option.bind_eq_some_iff.mp h
    refine Option.bind_eq_some_iff.mpr ⟨e, found, ?_⟩
    exact eval_mono (fun _ _ _ => ih (Nat.le_of_succ_le_succ deeper)) inner

theorem eval_deeper {depth depth' : Nat} (deeper : depth ≤ depth')
    (h : e.eval (callIn rules depth) w = some a) : e.eval (callIn rules depth') w = some a :=
  eval_mono (fun _ _ _ => callIn_mono deeper) h

/-! ### What is derived is evaluated -/

/-- Rounds that go on recognize something, so that there are no more of them than items. -/
theorem rounds_enough (bounded : ∀ w n, once w = some (some n) → n ≤ w.length) {left left' : Nat}
    (enough : w.length < left) (enough' : w.length < left') :
    rounds once left w = rounds once left' w := by
  induction left generalizing left' w with
  | zero => cases enough
  | succ left ih =>
    obtain ⟨left', rfl⟩ := Nat.exists_eq_add_of_lt (Nat.zero_lt_of_lt enough')
    rw [Nat.zero_add] at enough' ⊢
    unfold rounds
    cases here : once w with
    | none => rfl
    | some b =>
      rcases b with _ | _ | n
      · rfl
      · rfl
      · have consumed := bounded w _ here
        have length := Sequence.length_behind consumed
        have later : rounds once left (w.behind (n + 1)) = rounds once left' (w.behind (n + 1)) :=
          ih (by omega) (by omega)
        dsimp only
        rw [later]

/-- A repetition of once at least is any repetition, but fails where its expression does. -/
theorem eval_plus (bounded : ∀ w n, e.eval call w = some (some n) → n ≤ w.length) (w : Buffer) :
    (plus e).eval call w =
      ((star e).eval call w).map fun a => if e.eval call w = some none then none else a := by
  rw [plus, eval_seq, eval, rounds_succ]
  cases here : e.eval call w with
  | none => rfl
  | some b =>
    rcases b with _ | _ | n
    · rfl
    · simp only [Option.bind_some, eval, Sequence.behind_zero, rounds_succ, here, Option.map_some,
        Option.some.injEq, reduceCtorEq, if_false, Nat.add_zero]
    · have consumed := bounded w _ here
      have length := Sequence.length_behind consumed
      have later : rounds (e.eval call) w.length (w.behind (n + 1)) =
          rounds (e.eval call) ((w.behind (n + 1)).length + 1) (w.behind (n + 1)) :=
        rounds_enough bounded (by omega) (by omega)
      simp only [Option.bind_some, eval, later, Option.map_map, Option.some.injEq, reduceCtorEq,
        if_false]
      rfl

theorem eval_bounded {depth : Nat} (w : Buffer) (n : Nat)
    (h : e.eval (callIn rules depth) w = some (some n)) : n ≤ w.length :=
  (eval_sound (fun _ _ _ => callIn_sound) h).le_length

/-- What is evaluated at some depths is evaluated at one. -/
theorem eval_together {f : Peg} {w' : Buffer}
    (first : ∃ depth, e.eval (callIn rules depth) w = some a)
    (second : ∃ depth, f.eval (callIn rules depth) w' = some b) :
    ∃ depth, e.eval (callIn rules depth) w = some a ∧ f.eval (callIn rules depth) w' = some b := by
  obtain ⟨d, here⟩ := first
  obtain ⟨d', there⟩ := second
  exact ⟨max d d', eval_deeper (Nat.le_max_left d d') here,
    eval_deeper (Nat.le_max_right d d') there⟩

theorem exists_eval (h : Derives rules e w a) :
    ∃ depth, e.eval (callIn rules depth) w = some a := by
  induction h with
  | literal length opens => exact ⟨0, by simp only [eval, length, opens, Option.map_some, if_true]⟩
  | literal_fail length opens =>
    exact ⟨0, by simp only [eval, length, opens, Option.map_some, Bool.false_eq_true, if_false]⟩
  | item first accepted =>
    exact ⟨0, by simp only [eval, first, accepted, Option.any_some, if_true]⟩
  | @item_fail accepts w refused =>
    have none : (w.item? 0).any accepts = false := by
      cases first : w.item? 0 with
      | none => rfl
      | some v => exact refused v first
    exact ⟨0, by simp only [eval, none, Bool.false_eq_true, if_false]⟩
  | empty | fail | everything => exact ⟨0, rfl⟩
  | ending bare => exact ⟨0, by simp only [eval, if_pos bare]⟩
  | ending_fail more => exact ⟨0, by simp only [eval, if_neg more]⟩
  | seq first second ih ih' =>
    obtain ⟨d, here, later⟩ := eval_together ih ih'
    exact ⟨d, by simp only [eval, here, later, Option.map_some]⟩
  | seq_first first ih =>
    obtain ⟨d, here⟩ := ih
    exact ⟨d, by simp only [eval, here]⟩
  | seq_second first second ih ih' =>
    obtain ⟨d, here, later⟩ := eval_together ih ih'
    exact ⟨d, by simp only [eval, here, later, Option.map_some, Option.map_none]⟩
  | choice_first first ih =>
    obtain ⟨d, here⟩ := ih
    exact ⟨d, by simp only [eval, here]⟩
  | choice_second first second ih ih' =>
    obtain ⟨d, here, later⟩ := eval_together ih ih'
    exact ⟨d, by simp only [eval, here, later]⟩
  | ahead inner ih | ahead_fail inner ih =>
    obtain ⟨d, here⟩ := ih
    exact ⟨d, by simp only [eval, here, Option.map_some, Option.map_none]⟩
  | star_end inner ih | star_stall inner ih =>
    obtain ⟨d, here⟩ := ih
    exact ⟨d, by simp only [eval, rounds, here]⟩
  | @star_more e w m n inner more ih ih' =>
    obtain ⟨d, here, later⟩ := eval_together ih ih'
    have consumed := eval_bounded w _ here
    have length := Sequence.length_behind consumed
    have same : (star e).eval (callIn rules d) (w.behind (m + 1)) =
        rounds (e.eval (callIn rules d)) w.length (w.behind (m + 1)) :=
      rounds_enough eval_bounded (by omega) (by omega)
    rw [same] at later
    exact ⟨d, by simp only [eval, rounds, here, later, Option.map_some]⟩
  | @rule slot e w a found inner ih =>
    obtain ⟨d, here⟩ := ih
    exact ⟨d + 1, Option.bind_eq_some_iff.mpr ⟨e, found, here⟩⟩

/-- An expression derives what it is evaluated to where rules may be entered deep enough. -/
theorem derives_iff :
    Derives rules e w a ↔ ∃ depth, e.eval (callIn rules depth) w = some a := by
  constructor
  · exact exists_eval
  · rintro ⟨depth, h⟩
    exact eval_sound (fun _ _ _ => callIn_sound) h

/-- An expression derives at most one answer. -/
theorem Derives.unique (first : Derives rules e w a) (second : Derives rules e w b) : a = b := by
  obtain ⟨d, here, there⟩ := eval_together (exists_eval first) (exists_eval second)
  exact Option.some.inj (here.symm.trans there)

end Peg

end Catena
