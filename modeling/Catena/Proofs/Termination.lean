import Mathlib
import Catena.Proofs.Termination.Chain
import Catena.Proofs.Termination.Nesting
import Catena.Proofs.Unforced

/-!
# Termination

Every run of a guarded grammar ends: a definition takes something of the input before it comes to a
placeholder, so that placeholders are entered one inside the other no more often than there are
items. Within one definition, parsers are nested no deeper than it is long. `Grammar.act_ends` has
runs that may nest parsers so deep do the same as runs without that limit, and none of them is cut
off.
-/

namespace Catena

open Run (Meets)

/-- Every success on a live state leaves less than before. -/
def Action.Consumes (act : Action) : Prop :=
  ∀ s r : State, s.Live → (act s).outcome = .returned r → r.ok = true → r.remaining < s.remaining

namespace Parser

def isForward : Parser → Bool
  | forward _ _ => true
  | _ => false

/-- A definition that takes something of the input first: a chain that begins with a parser without
placeholders, which is no lookahead and consumes something wherever it succeeds, and in which no
parser resumes a failure. -/
inductive Guarded (g : Grammar) : Parser → Prop where
  | chain {fold : Fold} {first : Parser} {rest : List (Link Parser)}
      (closed : g.Throughout (·.isForward = false) first)
      (single : first.isLookahead = false)
      (consumes : ∀ granted, (first.act (g.setting granted)).Consumes)
      (stays : ∀ part ∈ (Parser.chain (.item fold first :: rest)).inner,
        part.traits.oblivious = false) :
    Guarded g (.chain (.item fold first :: rest))

end Parser

namespace Grammar

variable {g : Grammar} {parser : Parser} {s r : State}

def Guards (g : Grammar) (parser : Parser) : Prop :=
  ∀ slot name definition, g.Reaches parser (.forward slot name) →
    g.lookup slot = some definition → definition.Guarded g

noncomputable def size (g : Grammar) (parser : Parser) : Nat :=
  sizeOf parser + sizeOf g.slots

theorem sizeOf_lookup_le {slot : Nat} {definition : Parser}
    (found : g.lookup slot = some definition) : sizeOf definition ≤ sizeOf g.slots := by
  have there := Option.join_eq_some_iff.mp found
  have := List.sizeOf_lt_of_mem (List.mem_of_getElem? there)
  simp only [Option.some.sizeOf_spec] at this
  omega

/-! ### What parsers leave -/

theorem keepsSnapshot_of_stepFree (free : g.StepFree parser) :
    g.Throughout Parser.KeepsSnapshot parser := by
  intro below reaches
  have moves := free below reaches
  cases below with
  | step function => cases moves
  | _ => trivial

theorem act_leaves_sound (free : g.StepFree parser) (granted : Granted) (live : s.Live)
    (returned : (parser.act (g.setting granted) s).outcome = .returned r) :
    r.Sound s.remaining := by
  have ending : s.window.Ending s.unconsumed := Sequence.isSuffix_refl s.unconsumed
  have holds := (act_tracks_suffix free granted s.unconsumed).returned_holds live.inside ending
    live.clean returned
  have bound : ∀ u, u = r ∨ r.lastGood = some u → u.window.Inside ∧ u.remaining ≤ s.remaining :=
    fun u member => ⟨(holds u member).1,
      State.remaining_le_of_ending live.inside (holds u member).1 (holds u member).2⟩
  have settled := act_settled (keepsSnapshot_of_stepFree free) granted
    (State.isLive_iff.mpr ⟨live.ok, live.clean⟩) returned
  cases ok : r.ok with
  | true =>
    rw [State.isSettled_of_ok ok, State.isLive_iff] at settled
    obtain ⟨inside, less⟩ := bound r (.inl rfl)
    exact .live ⟨inside, settled.2, ok⟩ less
  | false =>
    obtain ⟨good, snapshot, lively⟩ := (State.isSettled_of_failed ok).mp settled
    obtain ⟨inside, less⟩ := bound good (.inr snapshot)
    obtain ⟨good, clean⟩ := State.isLive_iff.mp lively
    exact .failed ok snapshot ⟨inside, clean, good⟩ less

end Grammar

/-! ### Parsers without parts -/

namespace Action

theorem literal_ends (text : Plain) (caseSensitive : Bool) (s : State) :
    Meets (fun _ => True) (literal text caseSensitive s) (literal text caseSensitive s) := by
  refine (Meets.need _ _).bind fun length _ => ?_
  cases s.peek length with
  | none => exact .pure trivial
  | some chunk =>
    refine .branch (fun _ => .pure trivial) fun _ => .branch (fun _ => .pure trivial) fun _ => ?_
    exact (Meets.need _ _).bind fun _ _ => (Meets.need _ _).bind fun _ _ => .pure trivial

theorem singleItem_ends (test : ItemFunction) (s : State) :
    Meets (fun _ => True) (singleItem test s) (singleItem test s) := by
  refine .branch (fun _ => .pure trivial) fun _ => ?_
  exact (Meets.need _ _).bind fun item _ => (Meets.test test item).bind fun _ _ => .pure trivial

theorem itemRun_ends (test : ItemFunction) (keepTerminator stopsWhenTrue : Bool) (s : State) :
    Meets (fun _ => True) (itemRun test keepTerminator stopsWhenTrue s)
      (itemRun test keepTerminator stopsWhenTrue s) := by
  refine Meets.bind (P := fun _ => True) ?_ fun _ _ => .pure trivial
  refine Meets.loop (I := fun _ _ => True) (fun _ pos _ => ?_) (fun _ _ => .pure trivial) trivial
  refine (Meets.need _ _).bind fun item _ => (Meets.test test item).bind fun _ _ => .pure ?_
  split <;> trivial

theorem throws_ends (kind : SignalKind) (msg : Option String) (trigger : Trigger) (s : State) :
    Meets (fun _ => True) (throws kind msg trigger s) (throws kind msg trigger s) := by
  refine .branch (fun _ => ?_) fun _ => .pure trivial
  cases Signal.raised kind msg s with
  | ok signal => exact .raise _
  | error e => exact .raise _

end Action

theorem Parser.elementary_ends {setting : Setting} {parser : Parser}
    (elementary : parser.isElementary = true) (s : State) :
    Meets (fun _ => True) (parser.body setting s) (parser.body setting s) := by
  cases parser with
  | literal text caseSensitive => exact Action.literal_ends text caseSensitive s
  | outcome | everything | endOfInput => exact .pure trivial
  | check test => exact (Meets.test test _).bind fun _ _ => .pure trivial
  | build function => exact (Meets.call function _).bind fun _ _ => .pure trivial
  | singleItem test => exact Action.singleItem_ends test s
  | itemRun test keepTerminator stopsWhenTrue =>
    exact Action.itemRun_ends test keepTerminator stopsWhenTrue s
  | _ => cases elementary

theorem Parser.calling_ends {setting : Setting} {parser : Parser} {lookup : Nat → Option Parser}
    {patience : Nat} {call : Parser → Action} (elementary : parser.isElementary = true) (s : State) :
    Meets (fun _ => True) (parser.bodyCalling lookup patience call s) (parser.body setting s) := by
  have same : parser.bodyCalling lookup patience call = parser.body setting := by
    cases parser <;> first | rfl | cases elementary
  rw [same]
  exact elementary_ends elementary s

/-! ### Parsers within one definition -/

namespace Grammar

variable {g : Grammar} {parser : Parser} {granted : Granted} {limit : Int} {depth : Nat}

/-- All placeholders that a parser may come to meet what they stand for, nested so deep or deeper,
on states with less than so much left. -/
def Follows (g : Grammar) (granted : Granted) (limit : Int) (depth : Nat) (parser : Parser) : Prop :=
  ∀ slot name, g.Reaches parser (.forward slot name) → ∀ deeper, depth ≤ deeper →
    Action.Completes limit
      ((Parser.forward slot name).bodyCalling g.lookup granted.patience
        (g.within granted.patience deeper))
      ((g.setting granted).forward slot name)

theorem Follows.part {part : Parser} (h : g.Follows granted limit depth parser)
    (member : part ∈ parser.inner) : g.Follows granted limit depth part :=
  fun slot name reaches => h slot name (.part member reaches)

theorem Follows.below {below : Parser} (h : g.Follows granted limit depth parser)
    (reaches : g.Reaches parser below) : g.Follows granted limit depth below :=
  fun slot name further => h slot name (reaches.trans further)

/-- A throw step on a failure raises its signal or leaves the failure as it is. -/
theorem throws_inspects {act : Action} {kind : SignalKind} {msg : Option String} {trigger : Trigger}
    {left : Int} (same : act = .settled (.throws kind msg trigger)) (failed : s.ok = false)
    (sound : s.Sound left) :
    Meets (fun r => r.ok = false ∧ r.Sound left) (act s)
      (Action.settled (.throws kind msg trigger) s) := by
  subst same
  have ends : Meets (fun _ => True) (Action.settled (.throws kind msg trigger) s)
      (Action.settled (.throws kind msg trigger) s) :=
    (Action.throws_ends kind msg trigger s).bind fun _ _ => .pure trivial
  refine (ends.knowing fun r run => ?_).mono fun _ => And.right
  obtain ⟨t, inner, settled⟩ := Run.bind_returned_iff.mp run
  obtain rfl := Run.pure_returned_iff.mp settled
  obtain rfl : t = s := by simpa [failed] using Action.throws_returned inner
  cases sound with
  | live live => exact absurd live.ok (by simp [failed])
  | failed _ snapshot live bound =>
    rw [State.settle_of_snapshot failed snapshot]
    exact ⟨failed, .failed failed snapshot live bound⟩

theorem settled_ends {body body' : Action} (h : Action.Completes limit body body') :
    Action.Completes limit (.settled body) (.settled body') :=
  fun s live bound => (h s live bound).bind fun _ _ => .pure trivial

theorem within_of_le {patience : Nat} (room : parser.levels ≤ depth) :
    g.within patience depth parser = .settled (parser.bodyCalling g.lookup patience
      (g.within patience (depth - parser.levels))) := by
  rw [within, dif_pos room]

theorem part_settles {patience : Nat} {setting : Setting} (room : 0 < depth)
    (act : Action.Settles limit (g.within patience depth parser) (parser.act setting))
    (inner : ∀ part ∈ parser.inner,
      Action.Settles limit (g.within patience depth part) (part.act setting)) :
    Part.Settles limit (parser.partCalling (g.within patience depth)) (parser.part setting) where
  act := act
  traits := rfl
  lookahead := by
    cases parser with
    | lookahead mode parser => exact .some (.of_act mode parser.shown (inner parser (.head _)))
    | _ => exact .none
  inspects := by
    intro inspects s left failed sound
    cases parser with
    | throws kind msg trigger => exact throws_inspects (within_of_le room) failed sound
    | _ => cases inspects

/-- Nested as deep as it is long, and as deep as its placeholders need, a parser meets itself. The
parts are in the statement since a lookahead runs its own part in the search of a chain. -/
theorem within_settles (free : g.StepFree parser) (forwards : g.Follows granted limit depth parser) :
    (∀ deeper, sizeOf parser + depth ≤ deeper →
      Action.Settles limit (g.within granted.patience deeper parser)
        (parser.act (g.setting granted))) ∧
      ∀ part ∈ parser.inner, ∀ deeper, sizeOf part + depth ≤ deeper →
        Action.Settles limit (g.within granted.patience deeper part)
          (part.act (g.setting granted)) := by
  induction parser using Parser.inner_induction with
  | step parser below =>
    have ih := fun part member => below part member (free.part member) (forwards.part member)
    refine ⟨fun deeper room => ?_, fun part member => (ih part member).1⟩
    have fits : parser.levels ≤ deeper := by
      have := parser.levels_le_sizeOf
      omega
    have there : ∀ part ∈ parser.inner, sizeOf part + depth ≤ deeper - parser.levels := by
      intro part member
      have := Parser.levels_add_sizeOf_le member
      omega
    have inner := fun part member => (ih part member).1 _ (there part member)
    suffices body : Action.Completes limit
        (parser.bodyCalling g.lookup granted.patience
          (g.within granted.patience (deeper - parser.levels)))
        (parser.body (g.setting granted)) by
      rw [within_of_le fits]
      intro s live bound
      exact ((settled_ends body s live bound).knowing fun r run =>
        act_leaves_sound free granted live run).mono fun _ => And.right
    cases parser with
    | base name => exact fun _ _ _ => .raise _
    | literal | outcome | check | build | singleItem | itemRun | everything | endOfInput =>
      exact fun s _ _ => Parser.calling_ends rfl s
    | throws kind msg trigger => exact fun s _ _ => Action.throws_ends kind msg trigger s
    | step function => cases free.here
    | forward slot name => exact forwards slot name (.here _) _ (by simp [Parser.levels] at *; omega)
    | many least most parser => exact (inner parser (.head _)).many _ least most
    | repeated test stopsWhenTrue parser =>
      exact (inner parser (.head _)).repeated _ test stopsWhenTrue
    | absorb merge initial parser => exact (inner parser (.head _)).absorb merge initial
    | morph transform parser => exact (inner parser (.head _)).morph transform
    | force parser => exact (inner parser (.head _)).force
    | noConsume parser => exact (inner parser (.head _)).noConsume
    | noBuild parser => exact (inner parser (.head _)).noBuild
    | oblivious parser | lookahead mode parser => exact (inner parser (.head _)).passed
    | catches kinds main handler =>
      have first := inner main (.head _)
      cases handler with
      | none => exact first.catches kinds _ fun _ _ _ => .pure trivial
      | some handler => exact first.catches kinds _ (inner handler (.tail _ (.head _))).passed
    | chain links =>
      intro s live bound
      unfold Parser.body Parser.bodyCalling
      rw [Parser.parts_eq_map]
      refine Chain.follow_meets (Link.map_settles fun part member => ?_)
        (.live live (Int.le_refl _)) bound
      have room := there part member
      have some : 0 < sizeOf part := by
        have := part.levels_pos.trans_le part.levels_le_sizeOf
        omega
      refine part_settles (by omega) (inner part member) fun deep below => ?_
      refine (ih part member).2 deep below _ ?_
      have := Parser.sizeOf_lt_of_mem_inner below
      omega
    | alternative first rest =>
      refine (inner first (.head _)).firstOf ?_
      rw [Parser.acts_eq_map, List.forall₂_map_left_iff, List.forall₂_map_right_iff,
        List.forall₂_same]
      exact fun part member => inner part (.tail _ member)

theorem part_within {deeper : Nat} (free : g.StepFree parser)
    (forwards : g.Follows granted limit depth parser) (room : sizeOf parser + depth ≤ deeper) :
    Part.Settles limit (parser.partCalling (g.within granted.patience deeper))
      (parser.part (g.setting granted)) := by
  obtain ⟨act, inner⟩ := within_settles free forwards
  have some := parser.levels_pos.trans_le parser.levels_le_sizeOf
  refine part_settles (by omega) (act deeper room) fun part member => inner part member deeper ?_
  have := Parser.sizeOf_lt_of_mem_inner member
  omega

/-! ### From one definition to the next -/

theorem follows_of_closed (closed : g.Throughout (·.isForward = false) parser) :
    g.Follows granted limit depth parser := by
  intro slot name reaches
  cases closed _ reaches

/-- A definition that takes something of the input first meets itself with one more item left than
its placeholders do. -/
theorem guarded_ends {left deeper : Nat} (guarded : parser.Guarded g) (free : g.StepFree parser)
    (forwards : g.Follows granted left depth parser) (room : sizeOf parser + depth ≤ deeper) :
    Action.Completes (left + 1) (g.within granted.patience deeper parser)
      (parser.act (g.setting granted)) := by
  have fits := parser.levels_le_sizeOf
  rw [within_of_le (by omega)]
  have there : ∀ part ∈ parser.inner, sizeOf part + depth ≤ deeper - parser.levels := by
    intro part member
    have := Parser.levels_add_sizeOf_le member
    omega
  cases guarded with
  | @chain fold first rest closed single consumes stays =>
    have head : first ∈ (Parser.chain (.item fold first :: rest)).inner := .head _
    have tail : ∀ part ∈ (Parser.chain rest).inner,
        part ∈ (Parser.chain (.item fold first :: rest)).inner := fun _ => .tail _
    have begins : Part.Settles (left + 1) (first.partCalling _) (first.part (g.setting granted)) :=
      part_within (free.part head) (follows_of_closed closed) (there first head)
    have goes : List.Forall₂ (Link.Settles left) (rest.map (Link.map (Parser.partCalling _)))
        (rest.map (Link.map (Parser.part (g.setting granted)))) :=
      Link.map_settles fun part member => part_within (free.part (tail part member))
        (forwards.part (tail part member)) (there part (tail part member))
    refine settled_ends fun s live bound => ?_
    unfold Parser.body Parser.bodyCalling
    rw [Parser.parts_eq_map]
    refine Chain.follow_consuming begins ?_ goes ?_ (consumes granted s · live) live bound
    · cases first <;> first | rfl | cases single
    · intro fold part member
      obtain ⟨link, there, same⟩ := List.mem_map.mp member
      cases link with
      | build function => cases same
      | item fold' parser =>
        obtain ⟨-, rfl⟩ := Link.item.inj same
        exact stays parser (tail parser (List.mem_filterMap.mpr ⟨_, there, rfl⟩))

/-- Placeholders meet what they stand for, nested so deep for each item that is left. A run enters
one definition less, with one item less. -/
theorem follows_of_guards (free : g.StepFree parser) (guards : g.Guards parser) (left : Nat) :
    ∀ granted : Granted, left ≤ granted.depth →
      g.Follows granted left (sizeOf g.slots * left) parser := by
  induction left with
  | zero =>
    intro granted _ slot name _ deeper _ s live none
    have := live.remaining_nonneg
    omega
  | succ left ih =>
    rintro ⟨depth, patience⟩ more slot name reaches deeper room s live bound
    obtain ⟨depth, rfl⟩ : ∃ less, depth = less + 1 := ⟨depth - 1, by dsimp only at more; omega⟩
    cases found : g.lookup slot with
    | none =>
      have raises : (g.setting ⟨depth + 1, patience⟩).forward slot name s =
          Run.raise (.undefined name) := by
        simp only [setting, forward, found]
      rw [raises]
      simp only [Parser.bodyCalling, found]
      exact .raise _
    | some definition =>
      have enters : (g.setting ⟨depth + 1, patience⟩).forward slot name s =
          definition.act (g.setting ⟨depth, patience⟩) s := by
        simp only [setting, forward, found]
      have below : g.Reaches parser definition :=
        reaches.trans (.definition name found (.here definition))
      have within : sizeOf definition ≤ sizeOf g.slots := sizeOf_lookup_le found
      have enough : sizeOf definition + sizeOf g.slots * left ≤ deeper := by
        rw [Nat.mul_succ] at room
        omega
      have guarded := guards slot name definition reaches found
      have forwards := (ih ⟨depth, patience⟩ (Nat.le_of_succ_le_succ more)).below below
      rw [enters]
      simp only [Parser.bodyCalling, found]
      exact guarded_ends guarded (free.below below) forwards enough s live (by exact_mod_cast bound)

/-- Runs of a parser whose placeholders are guarded end: on a live state, with parsers nested no
deeper than the size of the grammar for each item left and once more, a run returns or raises, and
it is the run that enters as many definitions as it likes, more than there are items left. -/
theorem act_ends (free : g.StepFree parser) (guards : g.Guards parser) (live : s.Live)
    (patience : Nat) {levels : Nat} (room : g.size parser * (s.remaining.toNat + 1) ≤ levels) :
    ((∃ r, (g.within patience levels parser s).outcome = .returned r) ∨
      ∃ fault, (g.within patience levels parser s).outcome = .raised fault) ∧
    ∀ depth : Nat, s.remaining < depth →
      parser.act (g.setting ⟨depth, patience⟩) s = g.within patience levels parser s := by
  have nonneg := live.remaining_nonneg
  have deep : sizeOf parser + sizeOf g.slots * (s.remaining.toNat + 1) ≤ levels := by
    have own : sizeOf parser ≤ sizeOf parser * (s.remaining.toNat + 1) :=
      Nat.le_mul_of_pos_right _ (Nat.succ_pos _)
    rw [size, Nat.add_mul] at room
    omega
  have meets : ∀ depth : Nat, s.remaining < depth →
      Meets (State.Sound s.remaining) (g.within patience levels parser s)
        (parser.act (g.setting ⟨depth, patience⟩) s) := by
    intro depth more
    have forwards := follows_of_guards free guards (s.remaining.toNat + 1) ⟨depth, patience⟩
      (show s.remaining.toNat + 1 ≤ depth by omega)
    exact (within_settles free forwards).1 levels deep s live (by omega)
  refine ⟨?_, fun depth more => (meets depth more).same.symm⟩
  obtain ⟨same, ends, -⟩ := meets (s.remaining.toNat + 1) (by omega)
  rw [same]
  cases outcome : (parser.act (g.setting ⟨s.remaining.toNat + 1, patience⟩) s).outcome with
  | returned r => exact .inl ⟨r, rfl⟩
  | raised fault => exact .inr ⟨fault, rfl⟩
  | exhausted => exact absurd outcome ends

/-- A literal that is not empty consumes its items. -/
theorem literal_consumes {text : Plain} {length : Nat} (some : text.length? = some (length + 1))
    (caseSensitive : Bool) (setting : Setting) :
    ((Parser.literal text caseSensitive).act setting).Consumes := by
  intro s r live run good
  obtain ⟨t, inner, settled⟩ := Run.bind_returned_iff.mp run
  obtain rfl := Run.pure_returned_iff.mp settled
  have window : (s.settle t).remaining = t.remaining :=
    congrArg Window.remaining (State.settle_window s t)
  rw [State.settle_ok] at good
  rw [window]
  obtain ⟨count, counted, inner⟩ := Run.bind_returned_iff.mp inner
  obtain rfl := Option.some.inj (some.symm.trans (Run.need_returned_iff.mp counted))
  split at inner
  · obtain rfl := Run.pure_returned_iff.mp inner
    cases good
  · rename_i chunk found
    have fits : s.pos + ((length + 1 : Nat) : Int) ≤ s.limit := by
      unfold State.peek State.hasItems at found
      split at found
      · rename_i more
        exact of_decide_eq_true more
      · cases found
    have taken : (s.advance ((length + 1 : Nat) : Int)).remaining < s.remaining := by
      simp only [State.advance, State.advanceWith, State.remaining]
      omega
    split at inner
    · obtain rfl := Run.pure_returned_iff.mp inner
      exact taken
    split at inner
    · obtain rfl := Run.pure_returned_iff.mp inner
      cases good
    obtain ⟨items, -, inner⟩ := Run.bind_returned_iff.mp inner
    obtain ⟨wanted, -, inner⟩ := Run.bind_returned_iff.mp inner
    obtain rfl := Run.pure_returned_iff.mp inner
    split at good
    · rw [if_pos ‹_›]
      exact taken
    · cases good

/-- Every definition that brackets come to is that of the brackets themselves. -/
theorem brackets_guards : brackets.Guards (.forward 0 "nested") := by
  intro slot name definition reaches found
  have only : ∀ slot definition, brackets.lookup slot = some definition → definition = bracketed := by
    intro slot definition found
    cases slot with
    | zero => exact (Option.some.inj found).symm
    | succ slot => cases found
  rw [only slot definition found]
  have closed : brackets.Throughout (·.isForward = false)
      (.literal (.value (.ofString "[")) true) := by
    refine .of_closed [.literal (.value (.ofString "[")) true] ?_ ?_ ?_ (.head _)
    · simp [Parser.isForward]
    · simp [Parser.inner]
    · simp
  have one : (Plain.value (.ofString "[")).length? = some (0 + 1) := rfl
  refine .chain closed rfl (fun granted => literal_consumes one true _) ?_
  simp [Parser.inner, Link.item?, Parser.traits]

/-- Two brackets around a sign end, nested no deeper than is granted for six items. -/
theorem brackets_ends :
    ∃ (s r : State) (levels : Nat), s.Live ∧ s.remaining = 6 ∧
      levels = brackets.size (.forward 0 "nested") * 7 ∧
      (brackets.within 0 levels (.forward 0 "nested") s).outcome = .returned r ∧
      r.matched = .ofString "[[a]]" := by
  have run : (Parser.act (brackets.setting ⟨7, 0⟩) (.forward 0 "nested")
        ⟨.text "x[[a]]y".toList.toArray, 1, 7, .ofString "", .null, true, none⟩).outcome =
      .returned ⟨.text "x[[a]]y".toList.toArray, 6, 7, .ofString "[[a]]", .null, true, none⟩ := by
    cbv
  have live : State.Live ⟨.text "x[[a]]y".toList.toArray, 1, 7, .ofString "", .null, true, none⟩ :=
    ⟨⟨by decide, by decide, by decide⟩, rfl, rfl⟩
  obtain ⟨-, same⟩ := act_ends brackets_stepFree brackets_guards live 0 (Nat.le_refl _)
  rw [same 7 (by decide)] at run
  exact ⟨_, _, _, live, rfl, rfl, run, rfl⟩

end Grammar

end Catena
