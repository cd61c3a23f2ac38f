import Mathlib
import Catena.Proofs.Termination.Chain

/-!
# Runs that are granted more

What is granted to a run cuts it off or plays no part: with more granted, a run that has ended does
the same, `Grammar.act_granted`. A run refines another one if it is cut off or is that run itself;
this goes through everything that runs are put together from. Besides placeholders, repetitions
without bounds are the one place where a run is cut off.
-/

namespace Catena

/-- A run that is cut off, or the same one. -/
def Run.Refines {α : Type} (x y : Run α) : Prop :=
  x.outcome = .exhausted ∨ x = y

namespace Run.Refines

variable {α β : Type} {x y x' y' : Run α}

theorem refl (x : Run α) : x.Refines x :=
  .inr rfl

theorem trans {z : Run α} (h : x.Refines y) (h' : y.Refines z) : x.Refines z := by
  obtain cut | rfl := h
  · exact .inl cut
  · exact h'

theorem eq (h : x.Refines y) (ends : x.outcome ≠ .exhausted) : x = y :=
  h.resolve_left ends

theorem bind {f g : α → Run β} (h : x.Refines y) (next : ∀ a, (f a).Refines (g a)) :
    (x >>= f).Refines (y >>= g) := by
  obtain cut | rfl := h
  · exact .inl (bind_outcome_exhausted cut f)
  · rcases x with ⟨events, a | fault | _⟩
    · obtain cut | same := next a
      · exact .inl cut
      · exact .inr (by rw [bind_returned, bind_returned, same])
    · exact .inr rfl
    · exact .inl rfl

theorem branch {c : Bool} (yes : x.Refines x') (no : y.Refines y') :
    Run.Refines (if c then x else y) (if c then x' else y') := by
  cases c with
  | true => exact yes
  | false => exact no

theorem rescue {handler handler' : Fault → Option (Run α)} (h : x.Refines y)
    (handled : ∀ fault, Option.Rel Refines (handler fault) (handler' fault)) :
    (x.rescue handler).Refines (y.rescue handler') := by
  rcases x with ⟨events, a | fault | _⟩
  · obtain rfl := h.eq nofun
    exact .refl _
  · obtain rfl := h.eq nofun
    have both := handled fault
    cases left : handler fault <;> cases right : handler' fault <;> rw [left, right] at both <;>
      cases both
    · rw [rescue_none left, rescue_none right]
      exact .refl _
    · rename_i both
      rw [rescue_some left, rescue_some right]
      obtain cut | rfl := both
      · exact .inl cut
      · exact .refl _
  · exact .inl rfl

section Loops

variable {step step' : α → Run (ForInStep α)} {spent spent' : α → Run α}
  (turn : ∀ a, (step a).Refines (step' a))
include turn

theorem loop (last : ∀ a, (spent a).Refines (spent' a)) (count : Nat) (a : α) :
    (Run.loop step spent count a).Refines (Run.loop step' spent' count a) := by
  induction count generalizing a with
  | zero => exact last a
  | succ count ih =>
    rw [loop_succ, loop_succ]
    refine (turn a).bind fun next => ?_
    cases next with
    | yield b => exact ih b
    | done b => exact .refl _

/-- A loop that is cut off when its turns are spent refines one with more turns. -/
theorem loop_more {count more : Nat} (enough : count ≤ more) (a : α) :
    (Run.loop step (fun _ => Run.exhausted) count a).Refines (Run.loop step' spent' more a) := by
  induction count generalizing more a with
  | zero => exact .inl rfl
  | succ count ih =>
    obtain ⟨more, rfl⟩ : ∃ less, more = less + 1 := ⟨more - 1, by omega⟩
    rw [loop_succ, loop_succ]
    refine (turn a).bind fun next => ?_
    cases next with
    | yield b => exact ih (by omega) b
    | done b => exact .refl _

end Loops

end Run.Refines

/-! ### Actions -/

def Action.Refines (act act' : Action) : Prop :=
  ∀ s, (act s).Refines (act' s)

namespace Action.Refines

variable {act act' body body' : Action}

theorem refl (act : Action) : act.Refines act :=
  fun s => .refl (act s)

theorem settled (h : body.Refines body') : (Action.settled body).Refines (.settled body') :=
  fun s => (h s).bind fun _ => .refl _

theorem absorb (merge : MergeFunction) (initial : Value) (h : body.Refines body') :
    (Action.absorb merge initial body).Refines (.absorb merge initial body') :=
  fun _ => (h _).bind fun _ => .refl _

theorem morph (transform : TransformFunction) (h : body.Refines body') :
    (Action.morph transform body).Refines (.morph transform body') :=
  fun s => (h s).bind fun _ => .refl _

theorem force (h : body.Refines body') : (Action.force body).Refines (.force body') :=
  fun s => (h s).bind fun _ => .refl _

theorem noConsume (h : body.Refines body') : (Action.noConsume body).Refines (.noConsume body') :=
  fun s => (h s).bind fun _ => .refl _

theorem noBuild (h : body.Refines body') : (Action.noBuild body).Refines (.noBuild body') :=
  fun s => (h s).bind fun _ => .refl _

theorem catches (kinds : List SignalKind) (shown : Thunk String) (h : body.Refines body')
    (handler : act.Refines act') :
    (Action.catches kinds shown body act).Refines (.catches kinds shown body' act') := by
  intro s
  refine (h s).rescue fun fault => ?_
  cases fault with
  | signal signal =>
    dsimp only
    split
    · exact .some ((Run.Refines.refl _).bind fun _ => handler s)
    · exact .none
  | _ => exact .none

theorem firstOf {rest rest' : List Action} (first : act.Refines act')
    (h : List.Forall₂ Refines rest rest') :
    (Action.firstOf act rest).Refines (.firstOf act' rest') := by
  induction h generalizing act act' with
  | nil => exact first
  | cons next _ ih => exact fun s => (first s).bind fun r => .branch (.refl _) (ih next s)

section Repetition

variable {proceed : State → Nat → Run Bool} {patience patience' : Nat}

theorem round (h : body.Refines body') (rounds : Rounds) :
    (Action.round body proceed rounds).Refines (Action.round body' proceed rounds) :=
  (h _).bind fun _ => .refl _

theorem repeatOpen (h : body.Refines body') (more : patience ≤ patience') (s : State) :
    (Action.repeatOpen patience body proceed s).Refines
      (Action.repeatOpen patience' body' proceed s) :=
  .loop_more h.round (by omega) _

theorem many (least most : Int) (h : body.Refines body') (more : patience ≤ patience') :
    (Action.many patience least most body).Refines (.many patience' least most body') := by
  intro s
  unfold Action.many
  dsimp only
  split
  · exact (h.repeatOpen more s).bind fun _ => .refl _
  · exact (Run.Refines.loop h.round (fun _ => .refl _) _ _).bind fun _ => .refl _

theorem repeated (test : RoundFunction) (stopsWhenTrue : Bool) (h : body.Refines body')
    (more : patience ≤ patience') :
    (Action.repeated patience test stopsWhenTrue body).Refines
      (.repeated patience' test stopsWhenTrue body') :=
  fun s => (h.repeatOpen more s).bind fun _ => .refl _

end Repetition

end Action.Refines

/-! ### Chains -/

inductive Lookahead.Refines : Lookahead → Lookahead → Prop where
  | of_act (mode : Mode) (shown : Thunk String) {act act' : Action} (h : act.Refines act') :
    Lookahead.Refines ⟨mode, shown, act⟩ ⟨mode, shown, act'⟩

namespace Lookahead.Refines

variable {look look' : Lookahead}

theorem act (h : look.Refines look') : look.act.Refines look'.act := by
  cases h with
  | of_act mode shown h => exact h

theorem run (h : look.Refines look') : look.run.Refines look'.run := by
  refine fun s => (h.act s).rescue fun fault => ?_
  split
  · exact .some (.refl _)
  · exact .none

theorem candidate (h : look.Refines look') (s full : State) (longest length : Int) :
    (look.candidate s full longest length).Refines (look'.candidate s full longest length) := by
  unfold Lookahead.candidate
  split
  · exact .refl _
  · exact (h.run _).bind fun _ => .refl _

/-- A search refines another one if what is tried does, and what comes after it. -/
theorem search {resume resume' : Action} (h : look.Refines look')
    (resumed : resume.Refines resume') (s : State) :
    (look.search s resume).Refines (look'.search s resume') := by
  have candidates := h.candidate s
  have runs := h.run s
  cases h with
  | of_act mode shown h =>
    rw [search_eq, search_eq]
    refine runs.bind fun full => .branch (.refl _) ((Run.Refines.refl _).bind fun length => ?_)
    refine (Run.Refines.loop (fun search => ?_) (fun _ => .refl _) _ _).bind fun _ => .refl _
    refine (candidates full _ _).bind fun found => ?_
    cases found with
    | none => exact .refl _
    | some t => exact (resumed t).bind fun _ => .refl _

end Lookahead.Refines

structure Part.Refines (part part' : Part) : Prop where
  act : part.act.Refines part'.act
  traits : part.traits = part'.traits
  lookahead : Option.Rel Lookahead.Refines part.lookahead part'.lookahead

inductive Link.Refines : Link Part → Link Part → Prop where
  | item (fold : Fold) {part part' : Part} (h : part.Refines part') :
    Link.Refines (.item fold part) (.item fold part')
  | build (function : TextFunction) : Link.Refines (.build function) (.build function)

namespace Chain

variable {link link' : Link Part} {links links' : List (Link Part)} {s : State} {text : Value}

theorem step_item_refines {fold : Fold} {part part' : Part} (act : part.act.Refines part'.act)
    (traits : part.traits = part'.traits) :
    (step (.item fold part) s text).Refines (step (.item fold part') s text) := by
  simp only [step, ← traits]
  refine .branch ((act s).bind fun _ => .refl _) (.branch ?_ (.branch ?_ (.refl _)))
  · exact (act _).bind fun _ => .refl _
  · exact (act s).bind fun _ => .refl _

theorem step_refines (h : link.Refines link') : (step link s text).Refines (step link' s text) := by
  cases h with
  | build function => exact .refl _
  | item fold same => exact step_item_refines same.act same.traits

theorem follow_refines (h : List.Forall₂ Link.Refines links links') :
    (follow links s text).Refines (follow links' s text) := by
  induction h generalizing s text with
  | nil => exact .refl _
  | @cons link link' rest rest' here later ih =>
    have kinds := any_isItem (fun _ _ same => by cases same <;> rfl) later
    have backs : Option.Rel (fun back back' => back.1 = back'.1 ∧ back.2.Refines back'.2)
        (followed rest link) (followed rest' link') := by
      cases here with
      | build function => exact .none
      | item fold same => exact followed_item fold same.lookahead kinds
    have go : (step link s text >>= fun p => follow rest p.1 p.2).Refines
        (step link' s text >>= fun p => follow rest' p.1 p.2) :=
      (step_refines here).bind fun _ => ih
    by_cases live : s.ok = true
    · cases first : followed rest link <;> cases second : followed rest' link' <;>
        rw [first, second] at backs <;> cases backs
      · rwa [follow_cons fun _ => first, follow_cons fun _ => second]
      · rename_i both
        obtain ⟨folds, looks⟩ := both
        rw [follow_searched live first, follow_searched live second, ← folds]
        have resumed : ∀ fold, (resume rest fold text).Refines (resume rest' fold text) :=
          fun fold t => (Run.Refines.refl _).bind fun _ => ih
        refine (looks.search (resumed _) s).bind fun found => ?_
        cases found with
        | some result => exact .refl _
        | none => exact (looks.act s).bind fun _ => ih
    · rwa [follow_cons fun good => absurd good live, follow_cons fun good => absurd good live]

end Chain

/-! ### Parsers -/

namespace Parser

variable {setting setting' : Setting} {parser : Parser}

theorem part_refines (h : (parser.act setting).Refines (parser.act setting')) :
    (parser.part setting).Refines (parser.part setting') where
  act := h
  traits := rfl
  lookahead := by
    cases parser with
    | lookahead mode parser =>
      rw [lookahead_act, lookahead_act] at h
      exact .some (.of_act mode parser.shown h)
    | _ => exact .none

theorem parts_refines {links : List (Link Parser)}
    (h : ∀ part ∈ links.filterMap Link.item?, (part.act setting).Refines (part.act setting')) :
    List.Forall₂ Link.Refines (parts setting links) (parts setting' links) := by
  rw [parts_eq_map, parts_eq_map]
  refine Link.forall₂_map (fun fold part member => ?_) fun function _ => .build function
  exact .item fold (part_refines (h part member))

/-- With more patience, and placeholders that are granted more, a parser is refined. -/
theorem act_refines
    (forwards : ∀ slot name, (setting.forward slot name).Refines (setting'.forward slot name))
    (more : setting.patience ≤ setting'.patience) (parser : Parser) :
    (parser.act setting).Refines (parser.act setting') := by
  induction parser using inner_induction with
  | step parser ih =>
    refine Action.Refines.settled ?_
    cases parser with
    | base | literal | outcome | check | build | singleItem | itemRun | everything | endOfInput
    | step | throws => exact .refl _
    | forward slot name => exact forwards slot name
    | many least most parser => exact (ih parser (.head _)).many least most more
    | repeated test stopsWhenTrue parser =>
      exact (ih parser (.head _)).repeated test stopsWhenTrue more
    | absorb merge initial parser => exact (ih parser (.head _)).absorb merge initial
    | morph transform parser => exact (ih parser (.head _)).morph transform
    | force parser => exact (ih parser (.head _)).force
    | noConsume parser => exact (ih parser (.head _)).noConsume
    | noBuild parser => exact (ih parser (.head _)).noBuild
    | oblivious parser | lookahead mode parser => exact ih parser (.head _)
    | catches kinds main handler =>
      have inner := ih main (.head _)
      cases handler with
      | none => exact inner.catches kinds _ (.refl _)
      | some handler => exact inner.catches kinds _ (ih handler (.tail _ (.head _)))
    | chain links => exact fun s => Chain.follow_refines (parts_refines ih)
    | alternative first rest =>
      refine (ih first (.head _)).firstOf ?_
      rw [acts_eq_map, acts_eq_map, List.forall₂_map_left_iff, List.forall₂_map_right_iff,
        List.forall₂_same]
      exact fun part member => ih part (.tail _ member)

end Parser

namespace Grammar

variable {g : Grammar} {granted granted' : Granted}

theorem forward_refines (g : Grammar) {patience patience' depth depth' : Nat}
    (more : patience ≤ patience') (deeper : depth ≤ depth') (slot : Nat) (name : String) :
    (g.forward patience depth slot name).Refines (g.forward patience' depth' slot name) := by
  -- Where no definition may be entered the run is cut off; each one entered leaves one less of both.
  induction depth generalizing depth' slot name with
  | zero =>
    intro s
    cases found : g.lookup slot with
    | none => cases depth' <;> simp only [forward, found] <;> exact .refl _
    | some parser =>
      simp only [forward, found]
      exact .inl rfl
  | succ depth ih =>
    obtain ⟨depth', rfl⟩ : ∃ less, depth' = less + 1 := ⟨depth' - 1, by omega⟩
    intro s
    cases found : g.lookup slot with
    | none =>
      simp only [forward, found]
      exact .refl _
    | some parser =>
      simp only [forward, found]
      exact Parser.act_refines (ih (by omega)) more parser s

theorem act_refines (g : Grammar) (deeper : granted.depth ≤ granted'.depth)
    (more : granted.patience ≤ granted'.patience) (parser : Parser) :
    (parser.act (g.setting granted)).Refines (parser.act (g.setting granted')) :=
  Parser.act_refines (forward_refines g more deeper) more parser

/-- A run that has ended does the same if more is granted to it. -/
theorem act_granted (g : Grammar) {parser : Parser} {s : State}
    (deeper : granted.depth ≤ granted'.depth) (more : granted.patience ≤ granted'.patience)
    (ends : (parser.act (g.setting granted) s).outcome ≠ .exhausted) :
    parser.act (g.setting granted) s = parser.act (g.setting granted') s :=
  (g.act_refines deeper more parser s).eq ends

end Grammar

end Catena
