import Mathlib
import Catena.Proofs.Kind

/-!
# Copies on fresh buffers

A state whose texts are sequences can be detached from its buffer, wherever its window lies in it,
and then nothing that can be seen of it is different, down the last good states it carries:
`State.detach_faithful`. The copy is the same as the state unless the value is not the same as
itself. Detaching once more changes nothing.
-/

namespace Catena

namespace Value

mutual

/-- All values but undefined numbers are the same as themselves. -/
theorem same_self : (v : Value) → v.same v = !v.isUndefined
  | .null => by rw [same]; rfl
  | .bool b => by simp [same, numeric?, number?, Number.same_self, isUndefined]
  | .int n => by simp [same, numeric?, number?, Number.same_self, isUndefined]
  | .double x => by cases x <;> simp [same, numeric?, Number.same_self, isUndefined]
  | .seq s => by
    rw [same]
    exact sameSequence_refl s

theorem sameSequence_refl : (s : Buffer) → sameSequence s s = true
  | .text a => by simp [sameSequence]
  | .bytes a => by simp [sameSequence]
  | .list ⟨a⟩ => by
    rw [sameSequence]
    exact sameItems_refl a

theorem sameItems_refl : (as : List Value) → sameItems as as = true
  | [] => by rw [sameItems]
  | a :: as => by
    rw [sameItems, same_self a, sameItems_refl as]
    cases a.isUndefined <;> rfl

end

end Value

namespace State

def history (s : State) : List State :=
  s :: match s with
    | ⟨_, _, _, _, _, _, none⟩ => []
    | ⟨_, _, _, _, _, _, some good⟩ => good.history

/-- A state has just the unconsumed items of another one in its buffer and is the same, if the value
of that is the same as itself. Where the window of the other one lies in its buffer, there is as
much to be read, and it reads the same. -/
structure Copies (d s : State) : Prop where
  same : d.same s = s.value.same s.value
  source : d.source = s.unconsumed
  pos : d.pos = 0
  limit : d.limit = d.source.length
  reads : s.window.Inside → d.remaining = s.remaining ∧ d.atEnd = s.atEnd ∧
    ∀ n : Int, 0 ≤ n → d.hasItems n = s.hasItems n ∧ d.peek n = s.peek n

variable {s d good : State}

theorem history_of_clean (clean : s.lastGood = none) : s.history = [s] := by
  obtain ⟨_, _, _, _, _, _, snapshot⟩ := s
  obtain rfl : snapshot = none := clean
  rfl

theorem history_of_snapshot (snapshot : s.lastGood = some good) :
    s.history = s :: good.history := by
  obtain ⟨_, _, _, _, _, _, carried⟩ := s
  obtain rfl : carried = some good := snapshot
  rfl

/-- The last good states of a state are finitely many. -/
theorem history_induction {P : State → Prop} (clean : ∀ s : State, s.lastGood = none → P s)
    (snapshot : ∀ s good : State, s.lastGood = some good → P good → P s) : (s : State) → P s
  | ⟨_, _, _, _, _, _, none⟩ => clean _ rfl
  | ⟨_, _, _, _, _, _, some good⟩ =>
    snapshot _ good rfl (history_induction clean snapshot good)

theorem fresh_reads (window : d.window = s.window.fresh) (inside : s.window.Inside) :
    d.remaining = s.remaining ∧ d.atEnd = s.atEnd ∧
      ∀ n : Int, 0 ≤ n → d.hasItems n = s.hasItems n ∧ d.peek n = s.peek n := by
  have same : Window.Same d.window s.window := by
    rw [window]
    exact ⟨Window.inside_fresh _, inside, Window.rest_fresh _⟩
  have remaining : d.limit - d.pos = s.limit - s.pos := same.remaining
  have has : ∀ n : Int, d.hasItems n = s.hasItems n := by
    intro n
    unfold hasItems
    rw [decide_eq_decide]
    omega
  refine ⟨remaining, ?_, fun n nonneg => ⟨has n, ?_⟩⟩
  · unfold atEnd
    rw [decide_eq_decide]
    omega
  · unfold peek
    rw [has n]
    by_cases enough : s.hasItems n = true
    · rw [if_pos enough, if_pos enough]
      rw [hasItems, decide_eq_true_iff] at enough
      have bound : n ≤ d.window.remaining := by
        show n ≤ d.limit - d.pos
        omega
      have slices := same.slice (Int.le_refl 0) nonneg bound
      rw [Int.add_zero, Int.add_zero] at slices
      exact congrArg some slices
    · rw [if_neg enough, if_neg enough]

theorem matched_of_detach (moved : s.detach = some d) : ∃ text, s.matched = .seq text := by
  rw [detach_eq, Option.bind_eq_some_iff] at moved
  obtain ⟨text, same, -⟩ := moved
  cases matched : s.matched <;> rw [matched] at same <;> cases same
  exact ⟨text, rfl⟩

theorem detach_copies (moved : s.detach = some d) : d.Copies s := by
  obtain ⟨window, matched, value, ok⟩ := detach_some moved
  have unconsumed : d.unconsumed = s.unconsumed :=
    (congrArg Window.rest window).trans (Window.rest_fresh s.window)
  refine ⟨?_, congrArg Window.source window, congrArg Window.pos window, ?_, fresh_reads window⟩
  · unfold same
    have text : s.matched.same s.matched = true := by
      obtain ⟨text, sequence⟩ := matched_of_detach moved
      rw [sequence, Value.same]
      exact Value.sameSequence_refl text
    rw [unconsumed, matched, value, ok, Value.sameSequence_refl, text]
    simp
  · have limit : d.limit = s.window.rest.length := congrArg Window.limit window
    have source : d.source = s.window.rest := congrArg Window.source window
    rw [limit, source]

section Steps

variable {text : Buffer} (matched : s.matched = .seq text)
include matched

theorem detach_of_clean (clean : s.lastGood = none) :
    s.detach = some ⟨s.unconsumed, 0, s.unconsumed.length, .seq text, s.value, s.ok, none⟩ := by
  rw [detach_eq, clean, matched]
  rfl

theorem detach_of_snapshot (snapshot : s.lastGood = some good) (below : good.detach = some d) :
    s.detach = some ⟨s.unconsumed, 0, s.unconsumed.length, .seq text, s.value, s.ok, some d⟩ := by
  rw [detach_eq, snapshot, matched]
  simp only [Value.sequence?, Option.bind_some, below, Option.map_some]

end Steps

/-- A state whose texts are sequences has a copy on a fresh buffer, which is the same as it unless
its value is not the same as itself, and so are the snapshots. The copy is a copy of itself. -/
theorem detach_faithful (texts : ∀ t ∈ s.history, ∃ text, t.matched = .seq text) :
    ∃ d, s.detach = some d ∧ List.Forall₂ Copies d.history s.history ∧ d.detach = some d := by
  have whole : ∀ source : Buffer, source.slice 0 source.length = source :=
    Sequence.slice_zero_length
  induction s using history_induction with
  | clean s clean =>
    rw [history_of_clean clean] at texts ⊢
    obtain ⟨text, matched⟩ := texts s List.mem_cons_self
    have moved := detach_of_clean matched clean
    refine ⟨_, moved, ?_, ?_⟩
    · rw [history_of_clean rfl]
      exact .cons (detach_copies moved) .nil
    · rw [detach_of_clean rfl rfl, unconsumed, whole]
  | snapshot s good snapshot ih =>
    rw [history_of_snapshot snapshot] at texts ⊢
    obtain ⟨text, matched⟩ := texts s List.mem_cons_self
    obtain ⟨d, below, copies, again⟩ := ih fun t member => texts t (List.mem_cons_of_mem s member)
    have moved := detach_of_snapshot matched snapshot below
    refine ⟨_, moved, ?_, ?_⟩
    · rw [history_of_snapshot rfl]
      exact .cons (detach_copies moved) copies
    · rw [detach_of_snapshot rfl rfl again, unconsumed, whole]

/-- A window that begins before its buffer's end and ends behind it, and a crossed one below. -/
theorem detached_stray_windows :
    ∃ s good d below : State, s.pos = -3 ∧ s.limit = 9 ∧ good.pos = 2 ∧ good.limit = 1 ∧
      s.history = [s, good] ∧ d.history = [d, below] ∧ s.detach = some d ∧ d.Copies s ∧
      below.Copies good ∧ d.detach = some d ∧ d.source = .text "bcd".toList.toArray ∧
      below.source = .bytes #[] := by
  have moved : detach ⟨.text "abcd".toList.toArray, -3, 9, .seq (.list #[.int 1]), .int 5, false,
        some ⟨.bytes #[1, 2, 3], 2, 1, .seq (.bytes #[7]), .null, true, none⟩⟩ =
      some ⟨.text "bcd".toList.toArray, 0, 3, .seq (.list #[.int 1]), .int 5, false,
        some ⟨.bytes #[], 0, 0, .seq (.bytes #[7]), .null, true, none⟩⟩ := by
    cbv
  have texts : ∀ t ∈ history ⟨.text "abcd".toList.toArray, -3, 9, .seq (.list #[.int 1]), .int 5,
      false, some ⟨.bytes #[1, 2, 3], 2, 1, .seq (.bytes #[7]), .null, true, none⟩⟩,
      ∃ text, t.matched = .seq text := by
    simp [history]
  obtain ⟨d, same, copies, again⟩ := detach_faithful texts
  obtain rfl := Option.some.inj (moved.symm.trans same)
  obtain ⟨copy, rest⟩ := List.forall₂_cons.mp copies
  obtain ⟨copy', -⟩ := List.forall₂_cons.mp rest
  exact ⟨_, _, _, _, rfl, rfl, rfl, rfl, rfl, rfl, moved, copy, copy', again, rfl, rfl⟩

/-- A state with an undefined value has a copy, but is not the same as that. -/
theorem detached_undefined_value :
    detach (.start (.text "ab".toList.toArray) (.double .undefined)) =
        some (.start (.text "ab".toList.toArray) (.double .undefined)) ∧
      same (.start (.text "ab".toList.toArray) (.double .undefined))
        (.start (.text "ab".toList.toArray) (.double .undefined)) = false := by
  constructor <;> cbv

end State

end Catena
