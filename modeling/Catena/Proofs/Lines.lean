import Mathlib
import Catena.Text.Lines

/-!
# Lines of a text

Two notions of a line against each other: newlines number the lines of a position, and a wider set
of breaks cuts the text into the lines that are quoted. The line quoted under the number of a
position begins with the line of the position if newlines are the only breaks above it, and lies
above that line otherwise.
-/

namespace Catena.Text

variable {line cs front rest : List Char} {c : Char} {pos : Nat}

/-- Whether every break of a text is a newline, alone or behind a carriage return. -/
def newlined : List Char → Bool
  | [] => true
  | c :: rest =>
    (if c = '\r' then rest.head? == some '\n' else !isBreak c || c == '\n') && newlined rest

def above (cs : List Char) (pos : Nat) : List Char :=
  (cs.take pos).rdropWhile (· != '\n')

/-- The line of a position: from behind the last newline before it up to the next one. -/
def lineAt (cs : List Char) (pos : Nat) : List Char :=
  (cs.take pos).rtakeWhile (· != '\n') ++ (cs.drop pos).takeWhile (· != '\n')

/-! ### Cutting a text -/

theorem linesFrom_newline (rest : List Char) :
    linesFrom line ('\n' :: rest) = line.reverse :: lines rest := rfl

theorem linesFrom_cons (single : c = '\r' → rest.head? ≠ some '\n') :
    linesFrom line (c :: rest) =
      if isBreak c then line.reverse :: lines rest else linesFrom (c :: line) rest := by
  rw [linesFrom.eq_3]
  · rfl
  · rintro tail rfl rfl
    exact single rfl rfl

theorem newlined_cons (single : c = '\r' → rest.head? ≠ some '\n') :
    newlined (c :: rest) = true ↔ (isBreak c = true → c = '\n') ∧ newlined rest = true := by
  rw [newlined, Bool.and_eq_true]
  by_cases carriage : c = '\r'
  · have alone : rest.head? ≠ some '\n' := single carriage
    subst carriage
    simp [alone, isBreak]
  · cases isBreak c <;> simp [carriage]

theorem newlined_return (rest : List Char) :
    newlined ('\r' :: '\n' :: rest) = newlined rest := by
  simp [newlined]

theorem head_ne_newline (other : ∀ tail, c = '\r' → rest = '\n' :: tail → False) :
    c = '\r' → rest.head? ≠ some '\n' := by
  intro carriage next
  obtain ⟨tail, same⟩ := List.head?_eq_some_iff.mp next
  exact other tail carriage same

theorem linesFrom_append (tail : List Char) :
    linesFrom line (front ++ '\n' :: tail) = linesFrom line (front ++ ['\n']) ++ lines tail := by
  fun_induction linesFrom line front with
  | case1 | case2 => simp [linesFrom_newline, lines, linesFrom]
  | case3 line rest ih => simp [linesFrom, ih]
  | case4 line c rest other cut ih | case5 line c rest other cut ih =>
    by_cases joins : c = '\r' ∧ rest = []
    · obtain ⟨rfl, rfl⟩ := joins
      simp [linesFrom, lines]
    · have single : ∀ more, c = '\r' → (rest ++ '\n' :: more).head? ≠ some '\n' := by
        intro more carriage
        cases rest with
        | nil => exact absurd ⟨carriage, rfl⟩ joins
        | cons d rest => simpa using head_ne_newline other carriage
      rw [List.cons_append, List.cons_append, linesFrom_cons (single tail),
        linesFrom_cons (single [])]
      simp [cut, lines, ih]

/-- A newline starts the lines anew. -/
theorem lines_append (ended : ∀ c ∈ front.getLast?, c = '\n') (tail : List Char) :
    lines (front ++ tail) = lines front ++ lines tail := by
  rcases List.eq_nil_or_concat front with rfl | ⟨begun, c, rfl⟩
  · rfl
  · obtain rfl : c = '\n' := ended c (by simp)
    have divided : linesFrom [] (begun ++ '\n' :: tail) =
        linesFrom [] (begun ++ ['\n']) ++ lines tail := linesFrom_append tail
    simpa [lines] using divided

theorem head?_linesFrom :
    (linesFrom line cs).head? =
      if line = [] ∧ cs = [] then none else some (line.reverse ++ cs.takeWhile (!isBreak ·)) := by
  fun_induction linesFrom line cs with
  | case1 line empty => simp_all
  | case2 line more => simp_all
  | case3 line rest => simp [isBreak]
  | case4 line c rest other cut => simp [cut]
  | case5 line c rest other cut ih => simp [cut, ih]

/-- A text that ends with a newline has as many lines as newlines if those are its only breaks, and
more if not. -/
theorem length_linesFrom (ended : cs.getLast? = some '\n') :
    newlines cs ≤ (linesFrom line cs).length ∧
      ((linesFrom line cs).length = newlines cs ↔ newlined cs = true) := by
  unfold newlines
  fun_induction linesFrom line cs with
  | case1 | case2 => simp at ended
  | case3 line rest ih =>
    cases rest with
    | nil => simp [newlined, linesFrom]
    | cons d rest =>
      obtain ⟨enough, exact⟩ := ih (by simpa using ended)
      rw [newlined_return, ← exact]
      simp [enough]
  | case4 line c rest other cut ih =>
    rw [newlined_cons (head_ne_newline other)]
    cases rest with
    | nil =>
      obtain rfl : c = '\n' := by simpa using ended
      simp [newlined, linesFrom]
    | cons d rest =>
      obtain ⟨enough, exact⟩ := ih (by simpa using ended)
      rw [List.length_cons, List.count_cons, ← exact]
      by_cases newline : c = '\n'
      · simp [newline, enough]
      · simp only [beq_iff_eq, newline, if_false, cut, true_implies, false_and, iff_false]
        omega
  | case5 line c rest other cut ih =>
    rw [newlined_cons (head_ne_newline other)]
    have ordinary : c ≠ '\n' := by
      rintro rfl
      exact cut rfl
    cases rest with
    | nil => exact absurd (by simpa using ended) ordinary
    | cons d rest =>
      obtain ⟨enough, exact⟩ := ih (by simpa using ended)
      simp [ordinary, cut, ← exact, enough]

theorem newlined_of_breaks (breaks : ∀ c ∈ cs, isBreak c = true → c = '\n') :
    newlined cs = true := by
  induction cs with
  | nil => rfl
  | cons c rest ih =>
    have ordinary : c ≠ '\r' := by
      rintro rfl
      exact absurd (breaks '\r' (by simp) rfl) (by decide)
    rw [newlined_cons fun carriage => absurd carriage ordinary]
    exact ⟨breaks c (by simp), ih fun c member => breaks c (by simp [member])⟩

/-! ### The line of a position -/

/-- The rest of a text from the start of the line of a position. -/
theorem above_append (cs : List Char) (pos : Nat) :
    above cs pos ++ ((cs.take pos).rtakeWhile (· != '\n') ++ cs.drop pos) = cs := by
  rw [above, ← List.append_assoc, List.rdropWhile_append_rtakeWhile, List.take_append_drop]

theorem above_ended (cs : List Char) (pos : Nat) : ∀ c ∈ (above cs pos).getLast?, c = '\n' := by
  intro c last
  have some : above cs pos ≠ [] := by
    intro empty
    simp [empty] at last
  rw [List.getLast?_eq_some_getLast some, Option.mem_some_iff] at last
  have stops := List.rdropWhile_last_not (· != '\n') (cs.take pos) some
  simpa [above, ← last] using stops

theorem afterNewline_eq (cs : List Char) :
    afterNewline cs = (cs.rtakeWhile (· != '\n')).length := by
  simp [afterNewline, List.rtakeWhile]

theorem newlines_above (cs : List Char) (pos : Nat) :
    newlines (above cs pos) = newlines (cs.take pos) := by
  have none : newlines ((cs.take pos).rtakeWhile (· != '\n')) = 0 := by
    refine List.count_eq_zero.mpr fun member => ?_
    simpa using List.mem_rtakeWhile_imp member
  have whole : above cs pos ++ (cs.take pos).rtakeWhile (· != '\n') = cs.take pos :=
    List.rdropWhile_append_rtakeWhile
  rw [← whole, newlines, newlines, List.count_append, ← newlines, ← newlines, none, Nat.add_zero]

theorem lineAt_eq_takeWhile (cs : List Char) (pos : Nat) :
    lineAt cs pos =
      ((cs.take pos).rtakeWhile (· != '\n') ++ cs.drop pos).takeWhile (· != '\n') := by
  rw [List.takeWhile_append_of_pos fun c => List.mem_rtakeWhile_imp, lineAt]

/-- The column of a position is where its character stands in the line, if it does. -/
theorem lineAt_getElem? :
    (lineAt cs pos)[afterNewline (cs.take pos)]? = some c ↔ cs[pos]? = some c ∧ c ≠ '\n' := by
  rw [lineAt, afterNewline_eq, List.getElem?_append_right (Nat.le_refl _), Nat.sub_self,
    ← List.head?_eq_getElem?, ← List.head?_drop]
  cases cs.drop pos with
  | nil => simp
  | cons d rest =>
    by_cases newline : d = '\n'
    · subst newline
      simp only [List.takeWhile_cons, bne_self_eq_false, Bool.false_eq_true, if_false,
        List.head?_nil, reduceCtorEq, List.head?_cons, Option.some.injEq, false_iff, not_and,
        not_not]
      exact Eq.symm
    · simp only [List.takeWhile_cons, bne_iff_ne, ne_eq, newline, not_false_eq_true, if_true,
        List.head?_cons, Option.some.injEq, iff_self_and]
      rintro rfl
      exact newline

/-! ### The line that is quoted -/

theorem length_lines (ended : ∀ c ∈ cs.getLast?, c = '\n') :
    newlines cs ≤ (lines cs).length ∧ ((lines cs).length = newlines cs ↔ newlined cs = true) := by
  cases last : cs.getLast? with
  | none =>
    obtain rfl := List.getLast?_eq_none_iff.mp last
    simp [lines, linesFrom, newlines, newlined]
  | some c =>
    obtain rfl := ended c last
    exact length_linesFrom last

theorem lines_eq (cs : List Char) (pos : Nat) :
    lines cs = lines (above cs pos) ++
      lines ((cs.take pos).rtakeWhile (· != '\n') ++ cs.drop pos) := by
  rw [← lines_append (above_ended cs pos), above_append]

theorem takeWhile_lineAt (cs : List Char) (pos : Nat) :
    (lineAt cs pos).takeWhile (!isBreak ·) =
      ((cs.take pos).rtakeWhile (· != '\n') ++ cs.drop pos).takeWhile (!isBreak ·) := by
  rw [lineAt_eq_takeWhile, List.takeWhile_takeWhile]
  congr 1
  funext c
  cases cut : isBreak c with
  | true => rfl
  | false =>
    have ordinary : c ≠ '\n' := by
      rintro rfl
      cases cut
    simp [ordinary]

/-- With newlines alone above it, the line of a position is quoted up to its first break; there may
be no line to quote if there is nothing in it. -/
theorem quoted_eq (plain : newlined (above cs pos) = true) :
    (lines cs)[newlines (cs.take pos)]? = some ((lineAt cs pos).takeWhile (!isBreak ·)) ∨
      (lines cs)[newlines (cs.take pos)]? = none ∧ lineAt cs pos = [] := by
  have count := (length_lines (above_ended cs pos)).2.mpr plain
  rw [newlines_above] at count
  rw [lines_eq cs pos, List.getElem?_append_right (by omega), count, Nat.sub_self,
    ← List.head?_eq_getElem?, lines, head?_linesFrom, takeWhile_lineAt]
  split
  · refine .inr ⟨rfl, ?_⟩
    simp_all [lineAt_eq_takeWhile]
  · exact .inl rfl

theorem takeWhile_of_breaks (breaks : ∀ c ∈ cs, isBreak c = true → c = '\n') (pos : Nat) :
    (lineAt cs pos).takeWhile (!isBreak ·) = lineAt cs pos := by
  rw [List.takeWhile_eq_self_iff]
  intro c member
  rw [lineAt_eq_takeWhile] at member
  have inside : c ∈ cs := by
    have suffix := List.mem_append_right (above cs pos) (List.takeWhile_subset _ member)
    rwa [above_append] at suffix
  have newline : c ≠ '\n' := by simpa using List.mem_takeWhile_imp member
  by_contra cut
  exact newline (breaks c inside (by simpa using cut))

/-- With other breaks above it, a line above that of the position is quoted. -/
theorem quoted_above (other : newlined (above cs pos) = false) :
    ∃ line ∈ lines (above cs pos), (lines cs)[newlines (cs.take pos)]? = some line := by
  obtain ⟨enough, exact⟩ := length_lines (above_ended cs pos)
  have more : newlines (cs.take pos) < (lines (above cs pos)).length := by
    rw [← Bool.not_eq_true, ← exact] at other
    rw [newlines_above] at enough other
    omega
  refine ⟨_, List.getElem_mem more, ?_⟩
  rw [lines_eq cs pos, List.getElem?_append_left more, List.getElem?_eq_getElem more]

end Catena.Text
