import PegTemplate.Parser
import PegTemplate.Proofs.Block.Alongside
import PegTemplate.Proofs.Match.Output
import PegTemplate.Proofs.Match.Projection
import PegTemplate.Proofs.Parser.Cache

/-!
# The journal of a parse

* `Host.logging` : a host with a list of the calls of its actions;
* `Parser.journal` : the calls that the actions of a parse make, in order, each with the location of its match;
* `Parser.journaling_erased`, `Parser.journal_calls` : the parse with a journal does what the parse does, and the calls
  in the journal are those that the host sees;
* `Host.Pure` : what an action of the host comes to hangs on its arguments alone;
* `Parser.journal_thinned` : **with a cache the journal is the one without a cache, less some repetitions.**
-/

namespace PegTemplate

/-! ## Calls -/

/-- A call of an action of the host. -/
structure HostCall where
  id : Nat
  arguments : List Value
  keywords : List (String × Value)

/-- A call, and the location of the match whose action made it. -/
structure JournalEntry where
  call : HostCall
  location : Location

section
variable {σ : Type}

/-- The host, with a list of the calls so far. A call that raises an error is one of them. -/
def Host.logging (host : Host σ) : Host (σ × List HostCall) where
  run id args kws w :=
    let x := host.run id args kws w.1
    outcome (answer x) (endState x, w.2 ++ [⟨id, args, kws⟩])

/-- The action, with its calls put into a journal. -/
def Action.journaled (a : Action (σ × List HostCall) Fault) : Action (σ × List JournalEntry) Fault where
  arity := a.arity
  run text start stop labels w :=
    let x := a.run text start stop labels (w.1, [])
    outcome (answer x) ((endState x).1, w.2 ++ (endState x).2.map (⟨·, locationOf text start stop⟩))

/-- The matcher for a text, with a journal. -/
def Parser.journaling (p : Parser) (host : Host σ) (options : List (Value × Value)) (cached : Bool)
    (text : List Char) : Matcher (σ × List JournalEntry) Fault where
  grammar := p.grammar
  actions := p.actions.map fun a => (a.action host.logging p.globals (.dict options)).journaled
  cached := cached
  text := text

/-- The calls that the actions make when a text is parsed, in order, whatever the parse comes to. -/
def Parser.journal (p : Parser) (host : Host σ) (text : String) (options : List (Value × Value))
    (start : Option String) (w : σ) : List JournalEntry :=
  if p.allowed.contains (p.startRule start) then
    (endState ((p.journaling host options p.cached text.toList).parse (p.startRule start) 0
      (State.initial (w, [])))).world.2
  else []

/-! ## The parse without its journal -/

theorem reportingNames_alongside {σ τ α : Type} {R : σ → τ → Prop} (b : Block) {x : Running σ α} {y : Running τ α}
    (h : Alongside R x y) : Alongside R (reportingNames b x) (reportingNames b y) := by
  intro v w hvw
  obtain ⟨ha, hend⟩ := h v w hvw
  unfold reportingNames
  cases hx : x v with
  | ok a v' =>
    cases hy : y w <;> rw [hx, hy] at ha hend <;> cases ha
    exact ⟨rfl, hend⟩
  | error e v' =>
    cases hy : y w <;> rw [hx, hy] at ha hend <;> cases ha
    cases e <;> exact ⟨rfl, hend⟩

/-- An action does the same on two hosts whose actions run alongside. -/
theorem BlockAction.run_alongside {σ τ : Type} {R : σ → τ → Prop} {h : Host σ} {h' : Host τ} (hh : h.Alongside R h')
    (a : BlockAction) (globals : List (String × Value)) (options : Value) (text : List Char) (start stop : Nat)
    (labels : List Value) : Alongside R ((a.action h globals options).run text start stop labels)
      ((a.action h' globals options).run text start stop labels) := by
  unfold BlockAction.action
  cases a.missing with
  | nil => exact reportingNames_alongside a.block (Code.run_alongside hh a.code globals _)
  | cons n ns => exact .throw _

theorem Host.logging_alongside (host : Host σ) : host.logging.Alongside (fun v w => v.1 = w) host := by
  rintro id args kws v w rfl
  unfold logging
  rw [answer_outcome, endState_outcome]
  exact ⟨rfl, rfl⟩

/-- What was called before makes no difference. -/
theorem Host.logging_alongside_after (host : Host σ) (before : List HostCall) :
    host.logging.Alongside (fun v w => w = (v.1, before ++ v.2)) host.logging := by
  rintro id args kws v w rfl
  unfold logging
  rw [answer_outcome, answer_outcome, endState_outcome, endState_outcome]
  exact ⟨rfl, by rw [List.append_assoc]⟩

/-- A matcher with a journal does what one without it does, if its actions do. -/
theorem Parser.journaling_projects {τ : Type} {f : σ × List JournalEntry → τ} {p : Parser} {host : Host σ}
    {host' : Host τ} {options : List (Value × Value)} (cached : Bool) (text : List Char)
    (hact : ∀ (a : BlockAction) i j ls w, ∃ v w',
      (a.action host.logging p.globals (.dict options)).journaled.run text i j ls w = outcome v w' ∧
        (a.action host' p.globals (.dict options)).run text i j ls (f w) = outcome v (f w')) :
    Matcher.Projects f (p.journaling host options cached text) (p.matcher host' options cached text) where
  grammar := rfl
  cached := rfl
  text := rfl
  act b i j ls s := by
    unfold Matcher.act Parser.journaling Parser.matcher
    rw [List.getElem?_map, List.getElem?_map]
    cases p.actions[b.index]? with
    | none => exact ⟨.error (.missingAction b.index), s.world, rfl, rfl⟩
    | some a =>
      rw [Option.map_some, Option.map_some]
      dsimp only
      have harity : (a.action host.logging p.globals (.dict options)).journaled.arity =
          (a.action host' p.globals (.dict options)).arity := rfl
      rw [harity]
      by_cases hlen : (a.action host' p.globals (.dict options)).arity = ls.length
      · rw [if_pos hlen, if_pos hlen]
        obtain ⟨v, w, hleft, hright⟩ := hact a i j ls s.world
        refine ⟨v.mapError .raised, w, ?_, ?_⟩
        · rw [inWorld_eq, hleft, answer_outcome, endState_outcome]
        · rw [inWorld_eq, show (s.project f).world = f s.world from rfl, hright, answer_outcome, endState_outcome]
      · rw [if_neg hlen, if_neg hlen]
        exact ⟨.error (.wrongArity b.index), s.world, rfl, rfl⟩

theorem eq_outcome {ε α : Type} (x : EStateM.Result ε σ α) : x = outcome (answer x) (endState x) := by
  cases x <;> rfl

/-- **The parse with a journal does what the parse does.** -/
theorem Parser.journaling_erased (p : Parser) (host : Host σ) (options : List (Value × Value)) (cached : Bool)
    (text : List Char) :
    Matcher.Projects Prod.fst (p.journaling host options cached text) (p.matcher host options cached text) := by
  refine journaling_projects cached text fun a i j ls w => ⟨_, _, rfl, ?_⟩
  obtain ⟨hanswer, hend⟩ := a.run_alongside host.logging_alongside p.globals (.dict options) text i j ls
    (w.1, []) w.1 rfl
  rw [eq_outcome ((a.action host p.globals (.dict options)).run text i j ls w.1), ← hanswer, ← hend]

/-- The journal without its locations. -/
def withoutLocations (w : σ × List JournalEntry) : σ × List HostCall := (w.1, w.2.map (·.call))

theorem Parser.journaling_calls (p : Parser) (host : Host σ) (options : List (Value × Value)) (cached : Bool)
    (text : List Char) :
    Matcher.Projects withoutLocations (p.journaling host options cached text)
      (p.matcher host.logging options cached text) := by
  refine journaling_projects cached text fun a i j ls w => ⟨_, _, rfl, ?_⟩
  obtain ⟨hanswer, hend⟩ := a.run_alongside (host.logging_alongside_after (w.2.map (·.call))) p.globals (.dict options)
    text i j ls (w.1, []) (withoutLocations w) (by rw [List.append_nil]; rfl)
  rw [eq_outcome ((a.action host.logging p.globals (.dict options)).run text i j ls (withoutLocations w)), ← hanswer,
    hend]
  unfold withoutLocations
  rw [List.map_append, List.map_map]
  have hcall : (JournalEntry.call ∘ fun c => ⟨c, locationOf text i j⟩ : HostCall → HostCall) = id := rfl
  rw [hcall, List.map_id]

/-! ## Pure hosts -/

/-- What an action of the host comes to hangs on its arguments alone. -/
def Host.Pure (host : Host σ) : Prop := ∀ id args kws, ∃ r, ∀ w, answer (host.run id args kws w) = r

theorem Host.Pure.logging_alongside {host : Host σ} (h : host.Pure) :
    host.logging.Alongside (fun v w => v.2 = w.2) host.logging := by
  intro id args kws v w hvw
  obtain ⟨r, hr⟩ := h id args kws
  unfold logging
  rw [answer_outcome, answer_outcome, endState_outcome, endState_outcome, hr, hr, hvw]
  exact ⟨rfl, rfl⟩

theorem Host.Pure.writes {host : Host σ} (h : host.Pure) (p : Parser) (options : List (Value × Value)) (cached : Bool)
    (text : List Char) : (p.journaling host options cached text).Writes Prod.snd := by
  intro a ha text start stop labels
  obtain ⟨a, -, rfl⟩ := List.mem_map.mp ha
  by_cases hσ : Nonempty σ
  · obtain ⟨w₀⟩ := hσ
    let x := (a.action host.logging p.globals (.dict options)).run text start stop labels (w₀, [])
    refine ⟨answer x, (endState x).2.map (⟨·, locationOf text start stop⟩), fun w => ?_⟩
    obtain ⟨hanswer, hend⟩ := a.run_alongside h.logging_alongside p.globals (.dict options) text start stop labels
      (w₀, []) (w.1, []) rfl
    unfold Action.journaled
    rw [answer_outcome, endState_outcome, ← hanswer, ← hend]
    exact ⟨rfl, rfl⟩
  · exact ⟨.ok .none, [], fun w => absurd ⟨w.1⟩ hσ⟩

/-- The world that a parse ends in is the one that the matcher leaves behind. -/
theorem Parser.endState_parse (p : Parser) (host : Host σ) (text : String) (options : List (Value × Value))
    (start : Option String) (w : σ) : endState (p.parse host text options start w) =
      if p.allowed.contains (p.startRule start) then
        (endState ((p.matcher host options p.cached text.toList).parse (p.startRule start) 0 (State.initial w))).world
      else w := by
  split_ifs with hallowed
  · rw [show p.parse host text options start w = (p.withCache p.cached).parse host text options start w from rfl,
      Parser.parse_eq p p.cached host text options start w hallowed]
    cases (p.matcher host options p.cached text.toList).parse (p.startRule start) 0 (State.initial w) with
    | error e s => rfl
    | ok r s =>
      cases r with
      | failed => rfl
      | matched stop v =>
        dsimp only
        split_ifs
        · rfl
        · exact s.world_note stop "end of input"
  · exact congrArg endState (if_neg hallowed)

/-- **The journal has the calls that the host sees when the text is parsed.** -/
theorem Parser.journal_calls (p : Parser) (host : Host σ) (text : String) (options : List (Value × Value))
    (start : Option String) (w : σ) : (p.journal host text options start w).map (·.call) =
      (endState (p.parse host.logging text options start (w, []))).2 := by
  rw [endState_parse, journal]
  split_ifs
  · have hend := ((p.journaling_calls host options p.cached text.toList).parse_projected (p.startRule start) 0
      (State.initial (w, []))).2
    exact (congrArg (·.world.2) hend).symm
  · rfl

theorem Parser.journal_eq (p : Parser) (cached : Bool) (host : Host σ) (text : String) (options : List (Value × Value))
    (start : Option String) (w : σ) : (p.withCache cached).journal host text options start w =
      if p.allowed.contains (p.startRule start) then
        (endState ((p.journaling host options cached text.toList).parse (p.startRule start) 0
          (State.initial (w, [])))).world.2
      else [] := rfl

/-- **With a cache the journal of a parse is the one without a cache, less some repetitions**, if the actions of the
host are pure and the parse without a cache meets no application in progress. It does not matter how the parse ends. -/
theorem Parser.journal_thinned {p : Parser} {host : Host σ} (hhost : host.Pure) {text : String}
    {options : List (Value × Value)} {start : Option String} {w : σ}
    (hc : Clean ((p.matcher host options false text.toList).trace (p.startRule start) 0 (State.initial w))) :
    Thinned ((p.withCache true).journal host text options start w)
      ((p.withCache false).journal host text options start w) := by
  have hclean : Clean (((p.journaling host options true text.toList).withCache false).trace (p.startRule start) 0
      (State.initial (w, []))) := by
    have htrace := (p.journaling_erased host options false text.toList).trace_projected (p.startRule start) 0
      (State.initial (w, []))
    exact htrace ▸ hc
  rw [journal_eq p true, journal_eq p false]
  split_ifs with hallowed
  · exact Matcher.parse_thinned (hhost.writes p options true text.toList) hclean
  · exact .refl

end

/-- The block of an action that passes on the text of its match. -/
def passingBlock : Block := ⟨" return f(text()) ", [], 0⟩

/-- Two alternatives begin with the same rule, whose action calls the host. -/
def backtracking : Parser where
  source := "start = x 'b' / x 'c'\nx = 'a' { return f(text()) }\n"
  grammar := ⟨[⟨"start", none, .choice [.sequence [.ref "x", .literal [0x62] false],
      .sequence [.ref "x", .literal [0x63] false]]⟩,
    ⟨"x", none, .action (.literal [0x61] false) passingBlock⟩], "start", [passingBlock]⟩
  actions := [⟨passingBlock,
    ⟨contextParameters, [.result (some (.call (.name "f") [.call (.name "text") [] []] []))]⟩, []⟩]
  context := [("f", .callable 0 "f")]
  allowed := ["start"]
  cached := true

/-- A host whose actions return their arguments. -/
def tupling : Host Unit where
  run _ args _ := pure (.tuple args)

/-- Without a cache the action is called for each of the two alternatives, and with one it is called once. -/
theorem backtracking_journal : tupling.Pure ∧
    ((backtracking.withCache false).journal tupling "ac" [] none ()).length = 2 ∧
    ((backtracking.withCache true).journal tupling "ac" [] none ()).length = 1 ∧
    Thinned ((backtracking.withCache true).journal tupling "ac" [] none ())
      ((backtracking.withCache false).journal tupling "ac" [] none ()) := by
  have hpure : tupling.Pure := fun id args kws => ⟨.ok (.tuple args), fun _ => rfl⟩
  exact ⟨hpure, by rfl, by rfl, Parser.journal_thinned hpure (by decide)⟩

end PegTemplate
