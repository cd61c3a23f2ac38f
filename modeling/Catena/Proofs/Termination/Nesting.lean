import Catena.Proofs.Parts

/-!
# Runs nested so deep

Parsers run their parts, and placeholders what they stand for, one inside the other.
`Grammar.within` is the meaning of parsers where they may be nested no deeper than so many levels:
a run that needs more is cut off, whatever else it would do.
-/

namespace Catena

namespace Parser

def partCalling (call : Parser → Action) (parser : Parser) : Part where
  act := call parser
  traits := parser.traits
  lookahead :=
    match parser with
    | lookahead mode parser => some ⟨mode, parser.shown, call parser⟩
    | _ => none

/-- What a parser itself does to a state, where calls of its parts and of definitions are given. -/
def bodyCalling (lookup : Nat → Option Parser) (patience : Nat) (call : Parser → Action) :
    Parser → Action
  | many least most parser => .many patience least most (call parser)
  | repeated test stopsWhenTrue parser => .repeated patience test stopsWhenTrue (call parser)
  | absorb merge initial parser => .absorb merge initial (call parser)
  | morph transform parser => .morph transform (call parser)
  | force parser => .force (call parser)
  | forward slot name => fun s =>
    match lookup slot with
    | none => Run.raise (.undefined name)
    | some parser => call parser s
  | noConsume parser => .noConsume (call parser)
  | noBuild parser => .noBuild (call parser)
  | oblivious parser => call parser
  | lookahead _ parser => call parser
  | catches kinds main none => .catches kinds main.shown (call main) fun s => return s.failed
  | catches kinds main (some handler) => .catches kinds main.shown (call main) (call handler)
  | chain links => Chain.act (links.map (Link.map (partCalling call)))
  | alternative first rest => .firstOf (call first) (rest.map call)
  | parser => parser.body ⟨fun _ _ _ => Run.exhausted, patience⟩

/-- How many levels a parser takes up where it runs its parts. The rest of a chain may run inside a
search at each of its links, so that a chain takes one more for each. -/
def levels : Parser → Nat
  | chain links => links.length + 1
  | _ => 1

theorem levels_pos (parser : Parser) : 0 < parser.levels := by
  cases parser <;> simp [levels]

theorem length_le_sizeOf (links : List (Link Parser)) : links.length ≤ sizeOf links := by
  induction links with
  | nil => simp
  | cons link links ih =>
    simp only [List.length_cons, List.cons.sizeOf_spec]
    omega

theorem length_add_sizeOf_le {links : List (Link Parser)} {part : Parser}
    (member : part ∈ (chain links).inner) : links.length + sizeOf part ≤ sizeOf links := by
  induction links with
  | nil => cases member
  | cons link links ih =>
    have later := length_le_sizeOf links
    cases link with
    | build function =>
      have below := ih (by simpa [inner, Link.item?] using member)
      simp only [List.length_cons, List.cons.sizeOf_spec]
      omega
    | item fold parser =>
      simp only [List.length_cons, List.cons.sizeOf_spec, Link.item.sizeOf_spec]
      obtain rfl | there : part = parser ∨ part ∈ (chain links).inner := by
        simpa [inner, Link.item?] using member
      · omega
      · have below := ih there
        omega

/-- A parser is as deep as it is long: its size makes room for its levels and for any part. -/
theorem levels_add_sizeOf_le {parser part : Parser} (member : part ∈ parser.inner) :
    parser.levels + sizeOf part ≤ sizeOf parser := by
  have below := sizeOf_lt_of_mem_inner member
  cases parser with
  | chain links =>
    have room := length_add_sizeOf_le member
    simp only [levels, chain.sizeOf_spec]
    omega
  | _ =>
    simp only [levels]
    omega

theorem levels_le_sizeOf (parser : Parser) : parser.levels ≤ sizeOf parser := by
  cases parser with
  | chain links =>
    have := length_le_sizeOf links
    simp only [levels, chain.sizeOf_spec]
    omega
  | _ => simp +arith [levels]

end Parser

namespace Grammar

/-- What a parser does to a state, where parsers may be nested so deep. -/
def within (g : Grammar) (patience depth : Nat) (parser : Parser) : Action :=
  if _h : parser.levels ≤ depth then
    .settled (parser.bodyCalling g.lookup patience fun part =>
      g.within patience (depth - parser.levels) part)
  else fun _ => Run.exhausted
termination_by depth
decreasing_by
  have := parser.levels_pos
  omega

end Grammar

end Catena
