import Catena.Proofs.Links
import Catena.Proofs.Move
import Catena.Proofs.Parts

/-!
# Runs without commitments

A lookahead commits to a candidate in a chain that searches it, and nowhere else. A run leaves no
record of a commitment if no run within it does; that it goes through everything runs are put
together from gives it for all parsers without such chains: `Grammar.act_uncommitted`.
-/

namespace Catena

def Event.isCommitment : Event → Bool
  | committed _ _ _ _ => true
  | _ => false

def commitmentsOf (events : List Event) : List Event :=
  events.filter Event.isCommitment

theorem commitmentsOf_append (events later : List Event) :
    commitmentsOf (events ++ later) = commitmentsOf events ++ commitmentsOf later :=
  List.filter_append ..

/-! ### Runs -/

namespace Run

variable {α β : Type} {x y : Run α}

def Uncommitted (x : Run α) : Prop :=
  commitmentsOf x.events = []

namespace Uncommitted

theorem records {events : List Event} {outcome : Outcome α} (h : x.Uncommitted)
    (run : x = ⟨events, outcome⟩) : commitmentsOf events = [] := by
  subst run
  exact h

theorem pure (a : α) : Uncommitted (Pure.pure a) := rfl

theorem raise (fault : Fault) : Uncommitted (Run.raise fault : Run α) := rfl

theorem exhausted : Uncommitted (Run.exhausted : Run α) := rfl

theorem bind {next : α → Run β} (h : x.Uncommitted) (later : ∀ a, (next a).Uncommitted) :
    (x >>= next).Uncommitted := by
  rcases x with ⟨events, a | fault | _⟩
  · unfold Uncommitted at h ⊢
    rw [bind_returned]
    simp only [commitmentsOf_append, h, List.nil_append]
    exact later a
  · exact h
  · exact h

theorem branch {c : Prop} [Decidable c] (yes : x.Uncommitted) (no : y.Uncommitted) :
    (if c then x else y).Uncommitted := by
  split
  · exact yes
  · exact no

theorem need (defect : Defect) (o : Option α) : (Run.need defect o).Uncommitted := by
  cases o <;> rfl

theorem rescue {handler : Fault → Option (Run α)} (h : x.Uncommitted)
    (handled : ∀ fault y, handler fault = some y → y.Uncommitted) :
    (x.rescue handler).Uncommitted := by
  rcases x with ⟨events, a | fault | _⟩
  · exact h
  · cases taken : handler fault with
    | none =>
      rw [rescue_none taken]
      exact h
    | some y =>
      unfold Uncommitted at h ⊢
      rw [rescue_some taken]
      simp only [commitmentsOf_append, h, List.nil_append]
      exact handled fault y taken
  · exact h

theorem loop {step : α → Run (ForInStep α)} {spent : α → Run α}
    (turn : ∀ a, (step a).Uncommitted) (last : ∀ a, (spent a).Uncommitted) (count : Nat) (a : α) :
    (Run.loop step spent count a).Uncommitted := by
  induction count generalizing a with
  | zero => exact last a
  | succ count ih =>
    rw [loop_succ]
    refine (turn a).bind fun result => ?_
    cases result with
    | yield b => exact ih b
    | done b => exact .pure b

theorem call [Listed α] (f : Callback α β) (a : α) : (f.call a).Uncommitted := by
  unfold Callback.call
  cases f.apply a <;> rfl

theorem test [Listed α] (f : Callback α Value) (a : α) : (f.test a).Uncommitted :=
  (call f a).bind fun _ => .pure _

end Uncommitted

end Run

/-! ### Actions -/

def Action.Uncommitted (act : Action) : Prop :=
  ∀ s, (act s).Uncommitted

namespace Action.Uncommitted

variable {body handler : Action}

theorem settled (h : body.Uncommitted) : (Action.settled body).Uncommitted :=
  fun s => (h s).bind fun _ => .pure _

theorem absorb (merge : MergeFunction) (initial : Value) (h : body.Uncommitted) :
    (Action.absorb merge initial body).Uncommitted :=
  fun _ => (h _).bind fun _ => .branch (.pure _) ((Run.Uncommitted.call _ _).bind fun _ => .pure _)

theorem morph (transform : TransformFunction) (h : body.Uncommitted) :
    (Action.morph transform body).Uncommitted := by
  intro s
  refine (h s).bind fun result => .branch (.pure _) ?_
  refine (Run.Uncommitted.call _ _).bind fun text => ?_
  split <;> exact .pure _

theorem force (h : body.Uncommitted) : (Action.force body).Uncommitted :=
  fun s => (h s).bind fun _ => .need _ _

theorem noConsume (h : body.Uncommitted) : (Action.noConsume body).Uncommitted :=
  fun s => (h s).bind fun _ => .pure _

theorem noBuild (h : body.Uncommitted) : (Action.noBuild body).Uncommitted :=
  fun s => (h s).bind fun _ => .pure _

theorem catches (kinds : List SignalKind) (shown : Thunk String) (h : body.Uncommitted)
    (h' : handler.Uncommitted) : (Action.catches kinds shown body handler).Uncommitted := by
  intro s
  refine (h s).rescue fun fault y taken => ?_
  cases fault with
  | signal signal =>
    dsimp only at taken
    split at taken
    · obtain rfl := Option.some.inj taken
      have recorded : (Run.log (.intercepted signal.kind.name shown s.pos)).Uncommitted := rfl
      exact recorded.bind fun _ => h' s
    · cases taken
  | _ => cases taken

theorem firstOf {rest : List Action} (h : body.Uncommitted)
    (later : ∀ next ∈ rest, Uncommitted next) : (Action.firstOf body rest).Uncommitted := by
  induction rest generalizing body with
  | nil => exact h
  | cons next rest ih =>
    obtain ⟨here, later⟩ := List.forall_mem_cons.mp later
    intro s
    exact (h s).bind fun _ => .branch (.pure _) (ih here later s)

theorem round {proceed : State → Nat → Run Bool} (h : body.Uncommitted)
    (asks : ∀ r index, (proceed r index).Uncommitted) (rounds : Rounds) :
    (Action.round body proceed rounds).Uncommitted := by
  unfold Action.round
  refine (h _).bind fun result => .branch (.pure _) ?_
  refine (Run.Uncommitted.need _ _).bind fun text => ?_
  exact (asks _ _).bind fun goesOn => .branch (.pure _) (.pure _)

theorem repeatOpen (patience : Nat) {proceed : State → Nat → Run Bool} (h : body.Uncommitted)
    (asks : ∀ r index, (proceed r index).Uncommitted) (s : State) :
    (Action.repeatOpen patience body proceed s).Uncommitted :=
  .loop (round h asks) (fun _ => .exhausted) _ _

theorem many (patience : Nat) (least most : Int) (h : body.Uncommitted) :
    (Action.many patience least most body).Uncommitted := by
  intro s
  have asks : ∀ (_ : State) (_ : Nat), (Pure.pure true : Run Bool).Uncommitted :=
    fun _ _ => .pure _
  have bounded := Run.Uncommitted.loop (round h asks) .pure most.toNat ⟨0, s.noText, s⟩
  unfold Action.many
  refine .branch ?_ ?_
  · exact (repeatOpen patience h asks s).bind fun _ => .pure _
  · exact bounded.bind fun _ => .pure _

theorem repeated (patience : Nat) (test : RoundFunction) (stopsWhenTrue : Bool)
    (h : body.Uncommitted) : (Action.repeated patience test stopsWhenTrue body).Uncommitted :=
  fun s => (repeatOpen patience h (fun _ _ => (Run.Uncommitted.test _ _).bind fun _ => .pure _)
    s).bind fun _ => .pure _

end Action.Uncommitted

theorem Parser.elementary_uncommitted {parser : Parser} {setting : Setting}
    (elementary : parser.isElementary = true) :
    Action.Uncommitted (parser.body setting) := by
  intro s
  cases parser with
  | literal text caseSensitive =>
    unfold body Action.literal
    refine (Run.Uncommitted.need _ _).bind fun length => ?_
    split
    · exact .pure _
    refine .branch (.pure _) (.branch (.pure _) ?_)
    refine (Run.Uncommitted.need _ _).bind fun found => ?_
    exact (Run.Uncommitted.need _ _).bind fun wanted => .pure _
  | outcome | everything | endOfInput => exact .pure _
  | check test => exact (Run.Uncommitted.test _ _).bind fun _ => .pure _
  | build function => exact (Run.Uncommitted.call _ _).bind fun _ => .pure _
  | singleItem test =>
    unfold body Action.singleItem
    refine .branch (.pure _) ((Run.Uncommitted.need _ _).bind fun item => ?_)
    exact (Run.Uncommitted.test _ _).bind fun _ => .pure _
  | itemRun test keepTerminator stopsWhenTrue =>
    have scans : ∀ pos, (Action.scanItem test stopsWhenTrue s.source pos).Uncommitted :=
      fun pos => (Run.Uncommitted.need _ _).bind fun item =>
        (Run.Uncommitted.test _ _).bind fun _ => .pure _
    exact (Run.Uncommitted.loop scans .pure _ _).bind fun _ => .pure _
  | _ => cases elementary

theorem Action.throws_uncommitted (kind : SignalKind) (msg : Option String) (trigger : Trigger) :
    (Action.throws kind msg trigger).Uncommitted := by
  intro s
  refine .branch ?_ (.pure _)
  split <;> exact .raise _

/-! ### Chains -/

def Link.Uncommitted : Link Part → Prop
  | .item _ part => part.act.Uncommitted
  | .build _ => True

namespace Chain

variable {link : Link Part} {links rest : List (Link Part)} {s : State} {text : Value}

def lookaheads : List (Link Part) → List Lookahead
  | [] => []
  | link :: rest => ((followed rest link).map Prod.snd).toList ++ lookaheads rest

theorem join_uncommitted (fold : Fold) (text addition : Value) :
    (fold.join text addition).Uncommitted := by
  cases fold with
  | append => exact .need _ _
  | discard => exact .pure _

theorem step_uncommitted (h : link.Uncommitted) : (step link s text).Uncommitted := by
  cases link with
  | build function =>
    exact .branch ((Run.Uncommitted.call _ _).bind fun _ => .pure _) (.pure _)
  | item fold part =>
    refine .branch ?_ (.branch ?_ (.branch ?_ (.pure _)))
    · refine (h s).bind fun result => .branch (.pure _) ?_
      refine .branch ((Run.Uncommitted.pure _).bind fun _ => .pure _) ?_
      exact (join_uncommitted fold _ _).bind fun _ => .pure _
    · exact (h _).bind fun _ => .pure _
    · exact (h _).bind fun _ => .pure _

theorem follow_uncommitted (h : ∀ link ∈ links, link.Uncommitted) (plain : lookaheads links = []) :
    (follow links s text).Uncommitted := by
  induction links generalizing s text with
  | nil => exact .pure s
  | cons link rest ih =>
    obtain ⟨here, later⟩ := List.forall_mem_cons.mp h
    obtain ⟨single, plain⟩ := List.append_eq_nil_iff.mp plain
    have ordinary : followed rest link = none := by simpa using single
    rw [follow_cons fun _ => ordinary]
    exact (step_uncommitted here).bind fun _ => ih later plain

end Chain

/-! ### Parsers -/

namespace Parser

/-- The lookaheads of a chain that parsers follow, with their modes. -/
def searched : List (Link Parser) → List (Mode × Parser)
  | [] => []
  | .item _ (.lookahead mode parser) :: rest =>
    if rest.any Link.isItem then (mode, parser) :: searched rest else searched rest
  | _ :: rest => searched rest

def searches : Parser → Bool
  | chain links => !(searched links).isEmpty
  | _ => false

variable {g : Grammar} {setting : Setting} {parser : Parser} {links : List (Link Parser)}

def lookaheadOf (setting : Setting) (searched : Mode × Parser) : Lookahead :=
  ⟨searched.1, searched.2.shown, searched.2.act setting⟩

theorem lookaheads_parts (setting : Setting) (links : List (Link Parser)) :
    Chain.lookaheads (parts setting links) = (searched links).map (lookaheadOf setting) := by
  induction links with
  | nil => rfl
  | cons link rest ih =>
    have ending : Chain.lookaheads (parts setting (link :: rest)) =
        ((Chain.followed (parts setting rest) (link.map (part setting))).map Prod.snd).toList ++
          (searched rest).map (lookaheadOf setting) := by
      rw [← ih, parts_eq_map, parts_eq_map]
      rfl
    rw [ending]
    cases link with
    | build function => rfl
    | item fold parser =>
      simp only [Link.map, Chain.followed, parts_any_isItem]
      cases parser with
      | lookahead mode parser =>
        by_cases behind : rest.any Link.isItem = true
        · simp only [searched, if_pos behind]
          rfl
        · simp only [searched, if_neg behind]
          rfl
      | _ =>
        simp only [searched, part, backsOff, Option.map_none, ite_self]
        rfl

theorem mem_searched {mode : Mode} (member : (mode, parser) ∈ searched links) :
    .lookahead mode parser ∈ links.filterMap Link.item? := by
  fun_induction searched links with
  | case1 => cases member
  | case2 fold mode' parser' rest behind ih =>
    rcases List.mem_cons.mp member with same | later
    · obtain ⟨rfl, rfl⟩ := Prod.mk.inj same
      exact .head _
    · exact .tail _ (ih later)
  | case3 fold mode' parser' rest behind ih => exact .tail _ (ih member)
  | case4 link rest other ih =>
    cases link with
    | build function => exact ih member
    | item fold parser => exact .tail _ (ih member)

theorem parts_uncommitted
    (h : ∀ part ∈ links.filterMap Link.item?, Action.Uncommitted (part.act setting)) :
    ∀ link ∈ parts setting links, link.Uncommitted := by
  rw [parts_eq_map]
  intro link member
  obtain ⟨link, there, rfl⟩ := List.mem_map.mp member
  cases link with
  | build function => trivial
  | item fold parser => exact h parser (List.mem_filterMap.mpr ⟨_, there, rfl⟩)

theorem act_uncommitted
    (forwards : ∀ slot name, g.Throughout (·.searches = false) (.forward slot name) →
      Action.Uncommitted (setting.forward slot name))
    (h : g.Throughout (·.searches = false) parser) : Action.Uncommitted (parser.act setting) := by
  induction parser using inner_induction with
  | step parser below =>
    have ih := fun part member => below part member (h.part member)
    apply Action.Uncommitted.settled
    cases parser with
    | base name => exact fun _ => .raise _
    | literal | outcome | check | build | singleItem | itemRun | everything | endOfInput =>
      exact elementary_uncommitted rfl
    | step function => exact fun _ => .call _ _
    | throws kind msg trigger => exact Action.throws_uncommitted kind msg trigger
    | forward slot name => exact forwards slot name h
    | many least most parser => exact (ih parser (.head _)).many _ least most
    | repeated test stopsWhenTrue parser =>
      exact (ih parser (.head _)).repeated _ test stopsWhenTrue
    | absorb merge initial parser => exact (ih parser (.head _)).absorb merge initial
    | morph transform parser => exact (ih parser (.head _)).morph transform
    | force parser => exact (ih parser (.head _)).force
    | noConsume parser => exact (ih parser (.head _)).noConsume
    | noBuild parser => exact (ih parser (.head _)).noBuild
    | oblivious parser | lookahead mode parser => exact ih parser (.head _)
    | catches kinds main handler =>
      have inner := ih main (.head _)
      cases handler with
      | none => exact inner.catches kinds _ fun _ => .pure _
      | some handler => exact inner.catches kinds _ (ih handler (.tail _ (.head _)))
    | chain links =>
      have plain : searched links = [] := by simpa [searches] using h.here
      intro s
      refine Chain.follow_uncommitted (parts_uncommitted ih) ?_
      rw [lookaheads_parts, plain, List.map_nil]
    | alternative first rest =>
      refine (ih first (.head _)).firstOf ?_
      rw [acts_eq_map]
      exact List.forall_mem_map.mpr fun part member => ih part (.tail _ member)

end Parser

namespace Grammar

variable {g : Grammar} {parser : Parser}

theorem forward_uncommitted (patience depth : Nat) {slot : Nat} {name : String}
    (h : g.Throughout (·.searches = false) (.forward slot name)) :
    Action.Uncommitted (g.forward patience depth slot name) := by
  -- A definition is entered with one level less for the placeholders in it.
  induction depth generalizing slot name with
  | zero =>
    intro s
    unfold forward
    split
    · exact .raise _
    · exact .exhausted
  | succ depth ih =>
    intro s
    unfold forward
    cases found : g.lookup slot with
    | none => exact .raise _
    | some parser => exact Parser.act_uncommitted (fun _ _ => ih) (h.definition found) s

/-- A parser without a chain that searches leaves no record of a commitment, however it ends. -/
theorem act_uncommitted (h : g.Throughout (·.searches = false) parser) (granted : Granted) :
    Action.Uncommitted (parser.act (g.setting granted)) :=
  Parser.act_uncommitted (fun _ _ => forward_uncommitted granted.patience granted.depth) h

end Grammar

end Catena
