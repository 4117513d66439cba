import PegTemplate.Proofs.Block.Raised
import PegTemplate.Proofs.Match.LastRun
import PegTemplate.Proofs.Parser.Cache
import PegTemplate.Proofs.Template.Called

/-!
# Exceptions of actions

* `Parser.runs` : the runs of actions when a text is parsed, in order;
* `Interrupt.reported` : how what interrupts the code of a block is reported;
* `BlockAction.Raises` : the first exception that occurs while an action runs, as it is reported;
* `Parser.parse_raised` : **the first exception that an action raises ends the parse, as it is.** Only names of a block's
  own that have no value are reported as such.
-/

namespace PegTemplate

/-- How what interrupts the code of a block is reported. What was raised is passed on as it is. -/
def Interrupt.reported (b : Block) : Interrupt → Fault
  | .raised f => f
  | .name n => .unresolved b n

section
variable {σ : Type}

/-- The first exception that occurs while an action runs, as it is reported. -/
inductive BlockAction.Raises (a : BlockAction) (host : Host σ) (globals : List (String × Value)) (arguments : List Value) :
    σ → Fault → σ → Prop
  /-- The block would pass on a name that it does not bind, and its code does not run. -/
  | forwarding {n : String} {ns : List String} (h : a.missing = n :: ns) (w : σ) :
    Raises a host globals arguments w (.forwarded a.block n) w
  /-- The code is interrupted. -/
  | code {i : Interrupt} {w w' : σ} (h : a.missing = []) (hi : a.code.Raises host globals arguments w i w') :
    Raises a host globals arguments w (i.reported a.block) w'

/-- The runs of actions when a text is parsed, in order, whatever the parse comes to. -/
def Parser.runs (p : Parser) (host : Host σ) (text : String) (options : List (Value × Value)) (start : Option String)
    (w : σ) : List (ActionRun σ) :=
  if p.allowed.contains (p.startRule start) then
    (p.matcher host options p.cached text.toList).runs (p.startRule start) 0 (State.initial w)
  else []

/-- What the action of a run is called on: what it can know of the match, and the values of the labels. -/
def ActionRun.arguments (text : String) (options : List (Value × Value)) (c : ActionRun σ) : List Value :=
  contextArguments text.toList c.start c.stop (.dict options) ++ c.labels

/-! ## Actions -/

theorem reportingNames_eq_error_iff {α : Type} {b : Block} {x : Running σ α} {f : Fault} {w w' : σ} :
    reportingNames b x w = .error f w' ↔ ∃ i : Interrupt, x w = .error i w' ∧ f = i.reported b := by
  unfold reportingNames
  cases x w with
  | ok a u => exact ⟨nofun, nofun⟩
  | error i u =>
    cases i <;> exact ⟨fun h => by cases h; exact ⟨_, rfl, rfl⟩, fun ⟨_, h, hf⟩ => by cases h; cases hf; rfl⟩

/-- **An action ends with the first exception that occurs while it runs, and with nothing else.** -/
theorem BlockAction.raises_iff {a : BlockAction} {host : Host σ} {globals : List (String × Value)} {options : Value}
    {text : List Char} {start stop : Nat} {labels : List Value} {w w' : σ} {f : Fault} :
    a.Raises host globals (contextArguments text start stop options ++ labels) w f w' ↔
      (a.action host globals options).run text start stop labels w = .error f w' := by
  unfold BlockAction.action
  dsimp only
  constructor
  · intro h
    cases h with
    | forwarding h w =>
      rw [h]
      rfl
    | code h hi =>
      rw [h]
      exact reportingNames_eq_error_iff.mpr ⟨_, Code.raises_iff.mp hi, rfl⟩
  · intro h
    cases hm : a.missing with
    | nil =>
      rw [hm] at h
      obtain ⟨i, hi, rfl⟩ := reportingNames_eq_error_iff.mp h
      exact .code hm (Code.raises_iff.mpr hi)
    | cons n ns =>
      rw [hm] at h
      cases h
      exact .forwarding hm _

section
variable {p : Parser} {host : Host σ} {text : String} {options : List (Value × Value)} {start : Option String}
  {cached : Bool} {w w' : σ} {c : ActionRun σ} {f : Fault}

/-- The action of a run in a parser. -/
theorem ActionRun.raises_iff : c.Raises (p.matcher host options cached text.toList) f w' ↔
    ∃ a, p.actions[c.index]? = some a ∧ a.Raises host p.globals (c.arguments text options) c.world f w' := by
  unfold Raises result Parser.matcher arguments
  dsimp only
  rw [List.getElem?_map]
  constructor
  · rintro ⟨action, haction, hrun⟩
    obtain ⟨a, ha, rfl⟩ := Option.map_eq_some_iff.mp haction
    exact ⟨a, ha, BlockAction.raises_iff.mpr hrun⟩
  · rintro ⟨a, ha, hraises⟩
    exact ⟨_, by rw [ha, Option.map_some], BlockAction.raises_iff.mp hraises⟩

/-! ## Parses -/

/-- A parse stops as the matcher does. -/
theorem Parser.parse_eq_raised_iff : p.parse host text options start w = .error (.halted (.raised f)) w' ↔
    p.allowed.contains (p.startRule start) = true ∧ ∃ s,
      (p.matcher host options p.cached text.toList).parse (p.startRule start) 0 (State.initial w) =
        .error (.raised f) s ∧ s.world = w' := by
  by_cases hallowed : p.allowed.contains (p.startRule start) = true
  · rw [show p.parse host text options start w = (p.withCache p.cached).parse host text options start w from rfl,
      Parser.parse_eq p p.cached host text options start w hallowed]
    cases (p.matcher host options p.cached text.toList).parse (p.startRule start) 0 (State.initial w) with
    | error e s =>
      refine ⟨fun h => ?_, fun ⟨_, s', hs, hw⟩ => ?_⟩
      · cases h
        exact ⟨hallowed, s, rfl, rfl⟩
      · cases hs
        rw [← hw]
    | ok r s =>
      refine ⟨fun h => ?_, fun ⟨_, s', hs, _⟩ => by cases hs⟩
      cases r with
      | failed => cases h
      | matched stop v =>
        dsimp only at h
        split_ifs at h
        cases h
  · rw [show p.parse host text options start w = (p.withCache p.cached).parse host text options start w from rfl,
      Parser.parse_disallowed p p.cached host text options start w hallowed]
    exact ⟨nofun, fun h => absurd h.1 hallowed⟩

/-- What the runs of a parse come to. -/
theorem Parser.runs_ended (hallowed : p.allowed.contains (p.startRule start) = true) (host : Host σ) (text : String)
    (options : List (Value × Value)) (w : σ) :
    Ended (p.matcher host options p.cached text.toList) (p.runs host text options start w)
      (endState ((p.matcher host options p.cached text.toList).parse (p.startRule start) 0 (State.initial w))).world
      (answer ((p.matcher host options p.cached text.toList).parse (p.startRule start) 0 (State.initial w))) := by
  have h := (p.matcher host options p.cached text.toList).parse_ended (p.startRule start) 0 (State.initial w)
  unfold runs
  rwa [if_pos hallowed]

/-- Every run is that of an action. -/
theorem Parser.action_of_run (hc : c ∈ p.runs host text options start w) : ∃ a, p.actions[c.index]? = some a := by
  have hallowed : p.allowed.contains (p.startRule start) = true := by
    by_contra hn
    unfold runs at hc
    rw [if_neg hn] at hc
    cases hc
  obtain ⟨action, haction⟩ := (runs_ended hallowed host text options w).action_of_mem hc
  unfold Parser.matcher at haction
  rw [List.getElem?_map] at haction
  obtain ⟨a, ha, -⟩ := Option.map_eq_some_iff.mp haction
  exact ⟨a, ha⟩

/-- A run that raises an error is the last one, and the parse stops with that error. -/
theorem Parser.parse_of_raises {before after : List (ActionRun σ)}
    (hruns : p.runs host text options start w = before ++ c :: after)
    (hc : c.Raises (p.matcher host options p.cached text.toList) f w') :
    after = [] ∧ p.parse host text options start w = .error (.halted (.raised f)) w' := by
  have hallowed : p.allowed.contains (p.startRule start) = true := by
    by_contra hn
    unfold runs at hruns
    rw [if_neg hn] at hruns
    cases before <;> cases hruns
  have hended := runs_ended hallowed host text options w
  rw [hruns] at hended
  have hcontra : ¬∀ r ∈ before ++ c :: after, r.Returns (p.matcher host options p.cached text.toList) := fun h =>
    hc.not_returns (h c (List.mem_append_right _ List.mem_cons_self))
  cases hx : (p.matcher host options p.cached text.toList).parse (p.startRule start) 0 (State.initial w) with
  | ok r s =>
    rw [hx] at hended
    exact absurd hended hcontra
  | error e s =>
    rw [hx] at hended
    cases e with
    | raised f' =>
      obtain ⟨before', c', happend, hbefore, hc'⟩ := hended
      have hafter : after = [] := by
        by_contra hne
        obtain ⟨as, a, rfl⟩ := (List.eq_nil_or_concat after).resolve_left hne
        rw [List.concat_eq_append, ← List.cons_append, ← List.append_assoc] at happend
        obtain ⟨rfl, -⟩ := List.append_inj' happend rfl
        exact hc.not_returns (hbefore c (List.mem_append_right _ List.mem_cons_self))
      subst hafter
      obtain ⟨-, hcc⟩ := List.append_inj' happend rfl
      obtain rfl : c = c' := by simpa using hcc
      obtain ⟨rfl, rfl⟩ := hc.unique hc'
      exact ⟨rfl, parse_eq_raised_iff.mpr ⟨hallowed, s, hx, rfl⟩⟩
    | _ => exact absurd hended hcontra

theorem length_of_mapM_ok {ε α β : Type} {f : α → Except ε β} {as : List α} {bs : List β} (h : as.mapM f = .ok bs) :
    bs.length = as.length := by
  induction as generalizing bs with
  | nil =>
    cases h
    rfl
  | cons a as ih =>
    rw [List.mapM_cons] at h
    cases ha : f a with
    | error e =>
      rw [ha] at h
      cases h
    | ok b =>
      cases has : as.mapM f with
      | error e =>
        rw [ha, has] at h
        cases h
      | ok cs =>
        rw [ha, has] at h
        cases h
        rw [List.length_cons, List.length_cons, ih has]

/-- The block of an action in a compiled parser. -/
theorem Parser.block_of_action {source : String} {context : List (String × Value)} {allowed : List String}
    (hp : Parser.compile source context allowed cached = .ok p) {k : Nat} {a : BlockAction}
    (ha : p.actions[k]? = some a) : p.grammar.blocks[k]? = some a.block ∧ a.block.index = k := by
  cases hg : Grammar.read source with
  | error e =>
    unfold Parser.compile at hp
    rw [hg] at hp
    cases hp
  | ok g =>
    obtain ⟨rfl, -, hactions⟩ := Parser.compile_eq hg hp
    have hlt : k < p.grammar.blocks.length := by
      rw [← length_of_mapM_ok hactions]
      exact (List.getElem?_eq_some_iff.mp ha).1
    obtain ⟨a', ha', hk⟩ := getElem?_of_mapM hactions (List.getElem?_eq_getElem hlt)
    obtain rfl : a = a' := Option.some.inj (ha.symm.trans hk)
    obtain ⟨code, -, rfl⟩ := BlockAction.compile_eq.mp ha'
    have hindex : (p.grammar.blocks.map (·.index))[k]? = some k := by
      rw [(Grammar.read_formed hg).numbered, List.getElem?_range' hlt, Nat.zero_add, Nat.one_mul]
    rw [List.getElem?_map, List.getElem?_eq_getElem hlt] at hindex
    exact ⟨List.getElem?_eq_getElem hlt, Option.some.inj hindex⟩

/-- **The first exception that occurs while an action runs ends the parse.** No action runs after it, and the parse stops
with that exception in the world that it has left behind, whatever it is and wherever in the grammar the action stands:
neither the matching of the text nor the memo table nor the code around it turns it into something else. Only when a name
that the code itself looks up has no value, the exception says so, with that name and with the block, its index and its
labels. And if a parse stops with an exception, it is that of the last action that ran. -/
theorem Parser.parse_raised {source : String} {context : List (String × Value)} {allowed : List String}
    (hp : Parser.compile source context allowed cached = .ok p) (host : Host σ) (text : String)
    (options : List (Value × Value)) (start : Option String) (w : σ) :
    (∀ before c after, p.runs host text options start w = before ++ c :: after →
      ∃ a, p.actions[c.index]? = some a ∧ p.grammar.blocks[c.index]? = some a.block ∧ a.block.index = c.index ∧
        ∀ f w', a.Raises host p.globals (c.arguments text options) c.world f w' →
          after = [] ∧ p.parse host text options start w = .error (.halted (.raised f)) w') ∧
    (∀ f w', p.parse host text options start w = .error (.halted (.raised f)) w' →
      ∃ before c a, p.runs host text options start w = before ++ [c] ∧ p.actions[c.index]? = some a ∧
        a.Raises host p.globals (c.arguments text options) c.world f w') ∧
    ∀ b n, ((Interrupt.name n).reported b).kind = "RuntimeBindingError" ∧
      ((Interrupt.name n).reported b).name? = n.name? := by
  refine ⟨fun before c after hruns => ?_, fun f w' hparse => ?_, fun b n => ⟨rfl, rfl⟩⟩
  · obtain ⟨a, ha⟩ := Parser.action_of_run (hruns ▸ List.mem_append_right _ List.mem_cons_self)
    obtain ⟨hblock, hindex⟩ := Parser.block_of_action hp ha
    exact ⟨a, ha, hblock, hindex, fun f w' h =>
      Parser.parse_of_raises hruns (ActionRun.raises_iff.mpr ⟨a, ha, h⟩)⟩
  · obtain ⟨hallowed, s, hs, rfl⟩ := Parser.parse_eq_raised_iff.mp hparse
    have hended := Parser.runs_ended hallowed host text options w
    rw [hs] at hended
    obtain ⟨before, c, hruns, -, hc⟩ := hended
    obtain ⟨a, ha, hraises⟩ := ActionRun.raises_iff.mp hc
    exact ⟨before, c, a, hruns, ha, hraises⟩

end

end

/-- A host without the name that its action looks up. -/
def forgetful : Host Unit where
  run _ _ _ := throw (.foreign "NameError" "name 'q' is not defined")

/-- The action of a rule with a display name, inside of a lookahead, a choice and a repetition. -/
def lookaheadSource : String := "start = (!x 'b' / 'a')*\nx \"an x\" = 'a' { return f(text()) }\n"

/-- The error of a host that a parse stopped with. -/
def hostError? : EStateM.Result ParseFailure Unit Value → Option (String × String)
  | .error (.halted (.raised (.foreign kind message))) _ => some (kind, message)
  | _ => none

theorem eq_of_hostError? {x : EStateM.Result ParseFailure Unit Value} {kind message : String}
    (h : hostError? x = some (kind, message)) : x = .error (.halted (.raised (.foreign kind message))) () := by
  unfold hostError? at h
  split at h
  · cases h
    rfl
  · cases h

/-- The error of the host ends the parse as it is, though the rest of the grammar would match without the lookahead. -/
theorem lookahead_raised : ∃ p, Parser.compile lookaheadSource [("f", .callable 0 "f")] [] true = .ok p ∧
    p.parse forgetful "a" [] none () =
      .error (.halted (.raised (.foreign "NameError" "name 'q' is not defined"))) () ∧
    ∃ before c a, p.runs forgetful "a" [] none () = before ++ [c] ∧ p.actions[c.index]? = some a ∧
      a.Raises forgetful p.globals (c.arguments "a" []) c.world (.foreign "NameError" "name 'q' is not defined") () := by
  have hstopped : (Parser.compile lookaheadSource [("f", .callable 0 "f")] [] true).toOption.bind
      (fun p => hostError? (p.parse forgetful "a" [] none ())) = some ("NameError", "name 'q' is not defined") := by
    decide +kernel
  cases h : Parser.compile lookaheadSource [("f", .callable 0 "f")] [] true with
  | error e =>
    rw [h] at hstopped
    cases hstopped
  | ok p =>
    rw [h] at hstopped
    have hparse := eq_of_hostError? hstopped
    exact ⟨p, rfl, hparse, (Parser.parse_raised h forgetful "a" [] none ()).2.1 _ _ hparse⟩

end PegTemplate
