import Mathlib
import Catena.Proofs.Notes

/-!
# Lines and columns as coordinates

The line and the column of a position in a text grow with it, the line first, and the position can
be read off them: it is behind all that the rows above take up, newlines included, and as many
characters of its own row as the column says. `State.lineCol_embedding` has both, and what one
character more does to the two.
-/

namespace Catena

namespace Text

variable {cs front back : List Char} {pos line column : Nat}

/-- What a line and a column counted from zero say of a position. -/
structure Located (cs : List Char) (pos line column : Nat) : Prop where
  above : line = (cs.take pos).count '\n'
  /-- The column is what stands before the position in its row, which begins behind a newline or
  with the text. -/
  before : ∃ row, '\n' ∉ row ∧ row.length = column ∧
    (cs.take pos = row ∨ ∃ begun, cs.take pos = begun ++ '\n' :: row)
  sum : pos = (((cs.splitOn '\n').take line).map fun row => row.length + 1).sum + column

theorem newlines_append (front back : List Char) :
    newlines (front ++ back) = newlines front + newlines back :=
  List.count_append

theorem afterNewline_append (none : '\n' ∉ back) :
    afterNewline (front ++ back) = afterNewline front + back.length := by
  have other : ∀ c ∈ back.reverse, (c != '\n') = true := by
    intro c member
    rw [bne_iff_ne]
    rintro rfl
    exact none (List.mem_reverse.mp member)
  unfold afterNewline
  rw [List.reverse_append, List.takeWhile_append_of_pos other, List.length_append,
    List.length_reverse, Nat.add_comm]

theorem afterNewline_newline (front : List Char) : afterNewline (front ++ ['\n']) = 0 := by
  simp [afterNewline]

/-- More of a text has more newlines, or as many and more behind the last one. -/
theorem coordinates_append (front : List Char) (some : back ≠ []) :
    newlines front < newlines (front ++ back) ∨
      newlines front = newlines (front ++ back) ∧
        afterNewline front < afterNewline (front ++ back) := by
  rw [newlines_append]
  by_cases none : '\n' ∈ back
  · have more : 0 < newlines back := List.count_pos_iff.mpr none
    omega
  · have same : newlines back = 0 := List.count_eq_zero.mpr none
    have longer : 0 < back.length := List.length_pos_iff.mpr some
    rw [afterNewline_append none]
    omega

/-! ### Rows -/

theorem length_splitOn (cs : List Char) : (cs.splitOn '\n').length = newlines cs + 1 := by
  unfold newlines
  rw [List.splitOn_eq_splitOnP]
  induction cs with
  | nil => rfl
  | cons c cs ih =>
    rw [List.splitOnP_cons_eq_if_modifyHead, List.count_cons]
    split
    · rw [List.length_cons, ih]
    · rw [List.length_modifyHead, ih, Nat.add_zero]

theorem sum_splitOn (cs : List Char) :
    ((cs.splitOn '\n').map fun row => row.length + 1).sum = cs.length + 1 := by
  rw [List.splitOn_eq_splitOnP]
  induction cs with
  | nil => rfl
  | cons c cs ih =>
    rw [List.splitOnP_cons_eq_if_modifyHead]
    split
    · simp [ih, Nat.add_comm]
    · obtain ⟨row, rows, same⟩ := List.exists_cons_of_ne_nil (List.splitOnP_ne_nil (· == '\n') cs)
      rw [same] at ih ⊢
      simp only [List.modifyHead_cons, List.map_cons, List.sum_cons, List.length_cons] at ih ⊢
      omega

/-- The rows above that of a position take up all that is above it. -/
theorem sum_rows_above (cs : List Char) (pos : Nat) :
    (((cs.splitOn '\n').take (newlines (cs.take pos))).map fun row => row.length + 1).sum =
      (above cs pos).length := by
  rw [← newlines_above]
  rcases List.eq_nil_or_concat (above cs pos) with none | ⟨begun, c, same⟩
  · rw [none]
    rfl
  · obtain rfl : c = '\n' := above_ended cs pos c (by simp [same])
    have whole := above_append cs pos
    rw [same] at whole ⊢
    have rows : cs.splitOn '\n' = begun.splitOn '\n' ++
        ((cs.take pos).rtakeWhile (· != '\n') ++ cs.drop pos).splitOn '\n' := by
      conv_lhs => rw [← whole]
      simp only [List.splitOn_eq_splitOnP, List.concat_eq_append, List.append_assoc,
        List.singleton_append]
      exact List.splitOnP_append_cons _ _ rfl
    have count : newlines (begun.concat '\n') = (begun.splitOn '\n').length := by
      rw [length_splitOn, List.concat_eq_append, newlines_append]
      rfl
    rw [rows, count, List.take_left, sum_splitOn, List.length_concat]

theorem located (bound : pos ≤ cs.length) :
    Located cs pos (newlines (cs.take pos)) (afterNewline (cs.take pos)) := by
  have parted : above cs pos ++ (cs.take pos).rtakeWhile (· != '\n') = cs.take pos :=
    List.rdropWhile_append_rtakeWhile
  refine ⟨rfl, ⟨(cs.take pos).rtakeWhile (· != '\n'), ?_, (afterNewline_eq _).symm, ?_⟩, ?_⟩
  · intro member
    simpa using List.mem_rtakeWhile_imp member
  · rcases List.eq_nil_or_concat (above cs pos) with none | ⟨begun, c, same⟩
    · rw [none, List.nil_append] at parted
      exact .inl parted.symm
    · obtain rfl : c = '\n' := above_ended cs pos c (by simp [same])
      right
      refine ⟨begun, ?_⟩
      conv_lhs => rw [← parted, same]
      simp
  · rw [sum_rows_above, afterNewline_eq, ← List.length_append, parted, List.length_take]
    omega

end Text

namespace State

def lineColAt (s : State) (pos : Nat) : Int × Int :=
  lineCol { s with pos }

variable {s : State} {cs : Array Char} {p q : Nat} {c : Char}

theorem lineColAt_eq (source : s.source = .text cs) (bound : p ≤ cs.size) :
    s.lineColAt p = ((Text.newlines (cs.toList.take p) : Int) + 1,
      (Text.afterNewline (cs.toList.take p) : Int) + 1) :=
  lineCol_eq (s := { s with pos := p }) source (Int.natCast_nonneg p) (Int.ofNat_le.mpr bound)

theorem lineColAt_lt (source : s.source = .text cs) (order : p < q) (bound : q ≤ cs.size) :
    toLex (s.lineColAt p) < toLex (s.lineColAt q) := by
  have more : (cs.toList.take q).drop p ≠ [] := by
    apply List.ne_nil_of_length_pos
    rw [List.length_drop, List.length_take, Array.length_toList]
    omega
  have parted : cs.toList.take p ++ (cs.toList.take q).drop p = cs.toList.take q := by
    have whole := List.take_append_drop p (cs.toList.take q)
    rwa [List.take_take, Nat.min_eq_left (Nat.le_of_lt order)] at whole
  have grows := Text.coordinates_append (cs.toList.take p) more
  rw [parted] at grows
  rw [lineColAt_eq source (by omega), lineColAt_eq source bound, Prod.Lex.toLex_lt_toLex]
  dsimp only
  omega

theorem lineColAt_succ (source : s.source = .text cs) (here : cs[p]? = some c) :
    s.lineColAt (p + 1) =
      if c = '\n' then ((s.lineColAt p).1 + 1, 1)
      else ((s.lineColAt p).1, (s.lineColAt p).2 + 1) := by
  obtain ⟨bound, -⟩ := Array.getElem?_eq_some_iff.mp here
  have next : cs.toList.take (p + 1) = cs.toList.take p ++ [c] := by
    rw [List.take_add_one, Array.getElem?_toList, here]
    rfl
  rw [lineColAt_eq source (Nat.le_of_lt bound), lineColAt_eq source bound, next,
    Text.newlines_append]
  split
  case isTrue newline =>
    subst newline
    rw [Text.afterNewline_newline]
    rfl
  case isFalse other =>
    have none : '\n' ∉ [c] := fun member => other (List.mem_singleton.mp member).symm
    have same : Text.newlines [c] = 0 := List.count_eq_zero.mpr none
    rw [Text.afterNewline_append none, same]
    simp

/-- The line and the column of a position in a text grow with it in lexicographic order, so that no
other position has both. They count the newlines before it and what stands before it in its row, and
it lies behind the rows above and that much of its own. One character more adds one to the column,
or one to the line if it is a newline, with the column back at one. -/
theorem lineCol_embedding (source : s.source = .text cs) :
    (∀ p q : Nat, p < q → q ≤ cs.size → toLex (s.lineColAt p) < toLex (s.lineColAt q)) ∧
    (∀ p : Nat, p ≤ cs.size → ∃ line column : Nat,
      s.lineColAt p = ((line : Int) + 1, (column : Int) + 1) ∧
      Text.Located cs.toList p line column) ∧
    (∀ (p : Nat) (c : Char), cs[p]? = some c → s.lineColAt (p + 1) =
      if c = '\n' then ((s.lineColAt p).1 + 1, 1)
      else ((s.lineColAt p).1, (s.lineColAt p).2 + 1)) := by
  refine ⟨fun p q => lineColAt_lt source, fun p bound => ?_, fun p c => lineColAt_succ source⟩
  refine ⟨_, _, lineColAt_eq source bound, Text.located ?_⟩
  rwa [Array.length_toList]

/-- The newline ends its row, and the character behind it begins the next one. -/
theorem lineCol_across_newline :
    ∃ s : State, s.source = .text "ab\ncd".toList.toArray ∧ s.lineColAt 2 = (1, 3) ∧
      s.lineColAt 3 = (2, 1) ∧ toLex (s.lineColAt 2) < toLex (s.lineColAt 3) ∧
      Text.Located "ab\ncd".toList 5 1 2 := by
  have source : (start (.text "ab\ncd".toList.toArray) .null).source =
      .text "ab\ncd".toList.toArray := rfl
  obtain ⟨grows, places, steps⟩ := lineCol_embedding source
  have first : (start (.text "ab\ncd".toList.toArray) .null).lineColAt 2 = (1, 3) := by decide
  have second := steps 2 '\n' (by decide)
  rw [first, if_pos rfl] at second
  obtain ⟨line, column, coordinates, located⟩ := places 5 (by decide)
  have last : (start (.text "ab\ncd".toList.toArray) .null).lineColAt 5 = (2, 3) := by decide
  rw [last, Prod.mk.injEq] at coordinates
  obtain rfl : line = 1 := by omega
  obtain rfl : column = 2 := by omega
  exact ⟨_, source, first, second, grows 2 3 (by decide) (by decide), located⟩

end State

end Catena
