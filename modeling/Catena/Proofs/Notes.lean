import Mathlib
import Catena.Signal
import Catena.Proofs.Lines
import Catena.Proofs.Window

/-!
# Position notes

What a note quotes of the line of its position, and where the caret stands. Up to the twentieth
column the caret is under the position; beyond it, one place to the right. The line is the one the
note names if newlines are the only breaks above it.
-/

namespace Catena

namespace Excerpt

variable {row : List Char} {n : Nat} {e : Excerpt}

theorem ofLine_eq_some (h : ofLine row (n + 1) = some e) :
    n < row.length ∧
      (n < 20 ∧ e = ⟨row.take 40, n⟩ ∨ 20 ≤ n ∧ e = ⟨(row.drop (n - 19)).take 40, 20⟩) := by
  unfold ofLine at h
  split at h
  · cases h
  · refine ⟨by omega, ?_⟩
    split at h
    · left
      obtain rfl := Option.some.inj h
      exact ⟨by omega, by simp⟩
    · right
      obtain rfl := Option.some.inj h
      have start : ((n : Int) + 1 - 20).toNat = n - 19 := by omega
      exact ⟨by omega, by rw [start]⟩

theorem ofLine_isSome : (ofLine row (n + 1)).isSome = true ↔ n < row.length := by
  unfold ofLine
  split
  · simp
    omega
  · split <;> simp <;> omega

theorem ofLine_infix (h : ofLine row (n + 1) = some e) : e.text <:+: row := by
  obtain ⟨-, ⟨-, rfl⟩ | ⟨-, rfl⟩⟩ := ofLine_eq_some h
  · exact (List.take_prefix _ _).isInfix
  · exact (List.take_prefix _ _).isInfix.trans (List.drop_suffix _ _).isInfix

/-- The caret is under the column up to the twentieth, and behind it from there on. -/
theorem ofLine_caret (h : ofLine row (n + 1) = some e) :
    (n < 20 → e.text[e.caret]? = row[n]?) ∧
      (20 ≤ n → e.text[e.caret - 1]? = row[n]? ∧ e.text[e.caret]? = row[n + 1]?) := by
  obtain ⟨-, ⟨near, rfl⟩ | ⟨far, rfl⟩⟩ := ofLine_eq_some h
  · refine ⟨fun _ => ?_, fun far => absurd near (by omega)⟩
    dsimp only
    rw [List.getElem?_take_of_lt (by omega)]
  · refine ⟨fun near => absurd far (by omega), fun _ => ⟨?_, ?_⟩⟩
    all_goals
      dsimp only
      rw [List.getElem?_take_of_lt (by omega), List.getElem?_drop]
      congr 1
      omega

end Excerpt

namespace State

variable {s : State} {cs : Array Char}

section Inside

variable (source : s.source = .text cs) (low : 0 ≤ s.pos) (high : s.pos ≤ cs.size)
include source low high

theorem lineCol_eq : s.lineCol =
    ((Text.newlines (cs.toList.take s.pos.toNat) : Int) + 1,
      (Text.afterNewline (cs.toList.take s.pos.toNat) : Int) + 1) := by
  have before : (cut 0 s.pos cs).toList = cs.toList.take s.pos.toNat := by
    rw [Sequence.cut_of_nonneg _ (Int.le_refl 0) low]
    simp
  have length : ((cs.toList.take s.pos.toNat).length : Int) = s.pos := by
    rw [List.length_take, Array.length_toList]
    omega
  unfold lineCol
  rw [source]
  simp only [lineColOf, before, length, sub_self, zero_add]

theorem excerpt_eq : s.excerpt =
    (Text.lines cs.toList)[Text.newlines (cs.toList.take s.pos.toNat)]?.bind fun line =>
      Excerpt.ofLine line (Text.afterNewline (cs.toList.take s.pos.toNat) + 1) := by
  have here := lineCol_eq source low high
  unfold lineCol at here
  unfold excerpt
  rw [source] at here ⊢
  simp only [here, add_sub_cancel_right, Int.toNat_natCast]
  rfl

/-- Where newlines are the only breaks, the line of the position is quoted. -/
theorem excerpt_of_breaks (breaks : ∀ c ∈ cs.toList, Text.isBreak c = true → c = '\n') :
    s.excerpt = Excerpt.ofLine (Text.lineAt cs.toList s.pos.toNat)
      (Text.afterNewline (cs.toList.take s.pos.toNat) + 1) := by
  have plain : Text.newlined (Text.above cs.toList s.pos.toNat) = true := by
    apply Text.newlined_of_breaks
    intro c member
    exact breaks c (List.mem_of_mem_take ((List.rdropWhile_prefix _ _).subset member))
  rw [excerpt_eq source low high]
  obtain same | ⟨missing, empty⟩ := Text.quoted_eq plain
  · rw [same, Text.takeWhile_of_breaks breaks]
    rfl
  · have nothing : Excerpt.ofLine [] (Text.afterNewline (cs.toList.take s.pos.toNat) + 1) = none :=
      if_pos (by rw [List.length_nil]; omega)
    rw [missing, empty, nothing]
    rfl

/-- The excerpt is a part of the line that the note names if newlines, alone or behind carriage
returns, are the only breaks above that line. Otherwise it is a part of a line above. -/
theorem excerpt_of_line {e : Excerpt} (quoted : s.excerpt = some e) :
    (Text.newlined (Text.above cs.toList s.pos.toNat) = true →
      e.text <:+: Text.lineAt cs.toList s.pos.toNat) ∧
    (Text.newlined (Text.above cs.toList s.pos.toNat) = false →
      ∃ line ∈ Text.lines (Text.above cs.toList s.pos.toNat), e.text <:+: line) := by
  rw [excerpt_eq source low high] at quoted
  obtain ⟨line, found, shown⟩ := Option.bind_eq_some_iff.mp quoted
  have part := Excerpt.ofLine_infix shown
  constructor
  · intro plain
    obtain same | ⟨none, -⟩ := Text.quoted_eq plain
    · obtain rfl := Option.some.inj (found.symm.trans same)
      exact part.trans (List.takeWhile_prefix _).isInfix
    · cases found.symm.trans none
  · intro other
    obtain ⟨line', member, same⟩ := Text.quoted_above other
    obtain rfl := Option.some.inj (found.symm.trans same)
    exact ⟨line, member, part⟩

end Inside

/-- A carriage return before a newline, and one alone, above the line of a position. -/
theorem excerpt_below_returns :
    ['b', 'c'] <:+: Text.lineAt "a\r\nbc".toList 3 ∧
      ∃ row ∈ Text.lines (Text.above "a\rb\nc".toList 4), ['b'] <:+: row := by
  have joined : excerpt { start (.text "a\r\nbc".toList.toArray) .null with pos := 3 } =
      some ⟨['b', 'c'], 0⟩ := by decide
  have alone : excerpt { start (.text "a\rb\nc".toList.toArray) .null with pos := 4 } =
      some ⟨['b'], 0⟩ := by decide
  exact ⟨(excerpt_of_line rfl (by decide) (by decide) joined).1 (by decide),
    (excerpt_of_line rfl (by decide) (by decide) alone).2 (by decide)⟩

/-- The lines of a note are those of its message, a headline, and the excerpt with the caret below
it if there is one. -/
theorem noteLines_eq (s : State) (msg : Option String) : s.noteLines msg =
    msg.toList ++ s.headline :: s.excerpt.toList.flatMap fun e =>
      [String.ofList e.text, String.ofList (List.replicate e.caret ' ' ++ ['^'])] := by
  unfold noteLines
  cases s.excerpt <;> simp

/-! ### Lines that other breaks cut -/

/-- Behind a carriage return, the line above is quoted under the number of a line. -/
theorem excerpt_of_other_line :
    State.excerpt { start (.text "a\rb\nc".toList.toArray) .null with pos := 4 } =
        some ⟨['b'], 0⟩ ∧
      State.lineCol { start (.text "a\rb\nc".toList.toArray) .null with pos := 4 } = (2, 1) ∧
      Text.lineAt "a\rb\nc".toList 4 = ['c'] ∧ ¬ ['b'] <:+: Text.lineAt "a\rb\nc".toList 4 := by
  refine ⟨by decide, by decide, by decide, by decide⟩

end State

/-! ### Notes that are added -/

namespace Signal

/-- A note adds nothing but itself to a signal. Where newlines are the only breaks of a text, it has
an excerpt if and only if the position is that of a character other than a newline, the excerpt is
taken from the line of the position, and up to the twentieth column the caret is under that
character. From there on it is under the next one. -/
theorem noted_position {s : State} {cs : Array Char} (source : s.source = .text cs)
    (breaks : ∀ c ∈ cs.toList, Text.isBreak c = true → c = '\n') (low : 0 ≤ s.pos)
    (high : s.pos ≤ cs.size) (signal : Signal) (msg : Option String) :
    signal.withNote s msg = .ok { signal with
        notes := signal.notes ++ ["\n".intercalate (msg.toList ++ s.headline ::
          s.excerpt.toList.flatMap fun e =>
            [String.ofList e.text, String.ofList (List.replicate e.caret ' ' ++ ['^'])])] } ∧
      (s.excerpt.isSome = true ↔ ∃ c, cs[s.pos.toNat]? = some c ∧ c ≠ '\n') ∧
      ∀ e, s.excerpt = some e →
        e.text <:+: Text.lineAt cs.toList s.pos.toNat ∧
        (s.lineCol.2 ≤ 20 → e.text[e.caret]? = cs[s.pos.toNat]?) ∧
        (20 < s.lineCol.2 → e.text[e.caret - 1]? = cs[s.pos.toNat]?) := by
  have quoted := State.excerpt_of_breaks source low high breaks
  have column := State.lineCol_eq source low high
  have here : ∀ c, (Text.lineAt cs.toList s.pos.toNat)[Text.afterNewline
      (cs.toList.take s.pos.toNat)]? = some c ↔ cs[s.pos.toNat]? = some c ∧ c ≠ '\n' := by
    intro c
    rw [Text.lineAt_getElem?, Array.getElem?_toList]
  refine ⟨?_, ?_, fun e shown => ?_⟩
  · rw [withNote, State.note_of_nonneg low, State.noteLines_eq]
    rfl
  · rw [quoted, Excerpt.ofLine_isSome, ← exists_congr here]
    exact ⟨fun inside => ⟨_, List.getElem?_eq_getElem inside⟩,
      fun ⟨_, found⟩ => (List.getElem?_eq_some_iff.mp found).1⟩
  · rw [quoted] at shown
    obtain ⟨inside, -⟩ := Excerpt.ofLine_eq_some shown
    obtain ⟨near, far⟩ := Excerpt.ofLine_caret shown
    have same := (here _).mp (List.getElem?_eq_getElem inside)
    rw [same.1, ← List.getElem?_eq_getElem inside, column]
    dsimp only
    exact ⟨Excerpt.ofLine_infix shown, fun left => near (by omega), fun right => (far (by omega)).1⟩

/-- A position in the twenty-third column of a second line. -/
theorem noted_in_second_line :
    ∃ (s : State) (signal : Signal), s.lineCol = (2, 23) ∧
      (Signal.bare (.root "Missing") none).withNote s (some "here") = .ok signal ∧
      signal.notes = ["here\nAt position 24 (line 2, column 23)\ndefghijklmnopqrstuvwxyz\n" ++
        "                    ^"] ∧
      ∃ e, s.excerpt = some e ∧ e.text <:+: "abcdefghijklmnopqrstuvwxyz".toList ∧
        e.text[e.caret - 1]? = some 'w' := by
  have breaks : ∀ c ∈ "x\nabcdefghijklmnopqrstuvwxyz".toList.toArray.toList,
      Text.isBreak c = true → c = '\n' := by simp [Text.isBreak]
  have source : State.source { State.start (.text "x\nabcdefghijklmnopqrstuvwxyz".toList.toArray)
      .null with pos := 24 } = .text "x\nabcdefghijklmnopqrstuvwxyz".toList.toArray := rfl
  obtain ⟨noted, -, points⟩ := noted_position source breaks (by decide) (by decide)
    (.bare (.root "Missing") none) (some "here")
  have quoted : State.excerpt { State.start (.text "x\nabcdefghijklmnopqrstuvwxyz".toList.toArray)
      .null with pos := 24 } = some ⟨"defghijklmnopqrstuvwxyz".toList, 20⟩ := by decide
  have row : Text.lineAt "x\nabcdefghijklmnopqrstuvwxyz".toList.toArray.toList 24 =
      "abcdefghijklmnopqrstuvwxyz".toList := by decide
  obtain ⟨part, -, far⟩ := points _ quoted
  rw [show Int.toNat _ = 24 from rfl, row] at part
  exact ⟨_, _, by decide, noted, by rfl, _, quoted, part, far (by decide)⟩

/-- The caret is under `c`, and at the end of a line under nothing, where the position is that of
`b` in the twenty-first column. -/
theorem caret_behind_position :
    State.excerpt { State.start (.text "aaaaaaaaaaaaaaaaaaaabc".toList.toArray) .null with
        pos := 20 } = some ⟨"aaaaaaaaaaaaaaaaaaabc".toList, 20⟩ ∧
      "aaaaaaaaaaaaaaaaaaabc".toList[20]? = some 'c' ∧
      "aaaaaaaaaaaaaaaaaaaabc".toList[20]? = some 'b' ∧
      State.excerpt { State.start (.text "aaaaaaaaaaaaaaaaaaaab".toList.toArray) .null with
        pos := 20 } = some ⟨"aaaaaaaaaaaaaaaaaaab".toList, 20⟩ ∧
      "aaaaaaaaaaaaaaaaaaab".toList[20]? = none := by
  refine ⟨by decide, by decide, by decide, by decide, by decide⟩

end Signal

end Catena
