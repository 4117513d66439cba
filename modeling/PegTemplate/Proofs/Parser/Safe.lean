import PegTemplate.Proofs.Match.Bounds
import PegTemplate.Proofs.Match.Kept
import PegTemplate.Proofs.Parser.Cache
import PegTemplate.Proofs.Template.Called
import PegTemplate.Stock

/-!
# Compiled parsers do not go wrong

* `Parser.Linked`, `Parser.compile_linked` : nothing that a compiled parser refers to is missing;
* `Parser.Raises` : a fault comes from an action that was called on a value for each of its labels;
* `Parser.Ends`, `Parser.parse_ends` : **a parse has a value, or reports a mismatch, or passes on what an action raised;
  or it was asked to start from a rule that it may not start from, and then nothing has happened.**
-/

namespace PegTemplate

/-! ## Linked parsers -/

/-- Nothing that a parser refers to is missing: rules are defined, the number of a block is that of its action, and the
action has a parameter for each label of the sequence. -/
structure Parser.Linked (p : Parser) : Prop where
  closed : p.Closed
  starts : p.allowed ≠ []
  action : ∀ r ∈ p.grammar.rules, ∀ n b, Node.Part (.action n b) r.body →
    b.labels = n.itemLabels ∧ ∃ a, p.actions[b.index]? = some a ∧ a.block = b

theorem Parser.starts_of_compile {source : String} {context : List (String × Value)} {allowed : List String}
    {cached : Bool} {p : Parser} (h : Parser.compile source context allowed cached = .ok p) : p.allowed ≠ [] := by
  unfold Parser.compile at h
  cases hg : Grammar.read source with
  | error e =>
    rw [hg] at h
    cases h
  | ok g =>
    rw [hg] at h
    dsimp only [bind, Except.bind] at h
    split at h
    · cases h
    · split at h
      · cases h
      · cases h
        cases allowed with
        | nil => exact List.cons_ne_nil _ _
        | cons name names => exact List.cons_ne_nil name names

/-- **A compiled parser is linked.** -/
theorem Parser.compile_linked {source : String} {context : List (String × Value)} {allowed : List String}
    {cached : Bool} {p : Parser} (h : Parser.compile source context allowed cached = .ok p) : p.Linked := by
  cases hg : Grammar.read source with
  | error e =>
    unfold Parser.compile at h
    rw [hg] at h
    cases h
  | ok g =>
    obtain ⟨hgrammar, -, hactions⟩ := Parser.compile_eq hg h
    have hformed := Grammar.read_formed hg
    refine ⟨Parser.compile_closed h, Parser.starts_of_compile h, fun r hr n b hn => ?_⟩
    rw [hgrammar] at hr
    obtain ⟨hb, hlabels⟩ := hformed.block hr hn
    obtain ⟨a, ha, hindex⟩ := getElem?_of_mapM hactions (hformed.getElem?_blocks hb)
    obtain ⟨code, -, rfl⟩ := BlockAction.compile_eq.mp ha
    exact ⟨hlabels, _, hindex, rfl⟩

/-! ## Parsing -/

section
variable {σ : Type}

/-- An action of the parser, called on a value for each of its labels, raises the fault. -/
def Parser.Raises (p : Parser) (host : Host σ) (text : List Char) (options : List (Value × Value)) (f : Fault) : Prop :=
  ∃ a ∈ p.actions, ∃ start stop labels w w', labels.length = a.block.labels.length ∧
    (a.action host p.globals (.dict options)).run text start stop labels w = .error f w'

/-- What a parse that begins in the world `w` may come to. -/
inductive Parser.Ends (p : Parser) (host : Host σ) (text : String) (options : List (Value × Value))
    (start : Option String) (w : σ) : EStateM.Result ParseFailure σ Value → Prop
  | value (h : p.startRule start ∈ p.allowed) (v : Value) (w' : σ) : Ends p host text options start w (.ok v w')
  | mismatch (h : p.startRule start ∈ p.allowed) (e : InputError) (w' : σ) :
    Ends p host text options start w (.error (.mismatch e) w')
  | raised (h : p.startRule start ∈ p.allowed) (f : Fault) (hf : p.Raises host text.toList options f) (w' : σ) :
    Ends p host text options start w (.error (.halted (.raised f)) w')
  /-- The world is the one that the parse began in. -/
  | disallowed (name : String) (hs : start = some name) (h : name ∉ p.allowed) :
    Ends p host text options start w (.error (.disallowedStart name) w)

/-- Reasons to stop that the engine is not to blame for, or that a parse cannot reach. -/
def Parser.Excused (p : Parser) (host : Host σ) (text : List Char) (options : List (Value × Value))
    (e : Halt Fault) : Prop :=
  e = .exhausted ∨ ∃ f, e = .raised f ∧ p.Raises host text options f

namespace Parser.Linked
variable {p : Parser} (hp : p.Linked)
include hp

/-- An action that a rule reaches stops for what its code raises only. -/
theorem act_haltsBy (host : Host σ) (options : List (Value × Value)) (cached : Bool) (text : List Char) {r : Rule}
    (hr : r ∈ p.grammar.rules) {n : Node} {b : Block} (hn : Node.Part (.action n b) r.body) (i j : Nat)
    {ls : List Value} (hls : ls.length = n.itemLabels.length) :
    HaltsBy (p.Excused host text options) Value ((p.matcher host options cached text).act b i j ls) := by
  obtain ⟨hlabels, a, ha, rfl⟩ := hp.action r hr n b hn
  have hlen : ls.length = a.block.labels.length := by rw [hls, hlabels]
  intro s e t h
  rw [Parser.act_eq ha rfl host options cached text i j hlen] at h
  cases hrun : (a.action host p.globals (.dict options)).run text i j ls s.world with
  | ok v w =>
    rw [inWorld_ok hrun] at h
    cases h
  | error f w =>
    rw [inWorld_error hrun] at h
    cases h
    exact .inr ⟨f, rfl, a, List.mem_of_getElem? ha, i, j, ls, s.world, w, hlen, hrun⟩

theorem matcher_haltsBy (host : Host σ) (options : List (Value × Value)) (cached : Bool) (text : List Char)
    {name : String} (hname : name ∈ p.allowed) (pos : Nat) :
    HaltsBy (p.Excused host text options) Result ((p.matcher host options cached text).parse name pos) := by
  intro s e t h
  have hrule : (p.grammar.rule? name).isSome := by
    rw [Grammar.rule?_isSome]
    exact hp.closed.allowed name hname
  have hact : ∀ k r, p.grammar.rule? k = some r → ∀ n b, Node.Part (.action n b) r.body → ∀ i j ls,
      ls.length = n.itemLabels.length →
      HaltsBy (p.Excused host text options) Value ((p.matcher host options cached text).act b i j ls) :=
    fun k r hr n b hn i j ls => hp.act_haltsBy host options cached text (List.mem_of_find?_eq_some hr) hn i j
  exact Matcher.apply_haltsBy (m := p.matcher host options cached text) (.inl rfl)
    (fun k r hr _ hk => hp.closed.grammar.rule? hr hk) hact _ _ name hrule pos (s.restart pos) e t h

/-- If no rule is asked for, or the empty name, parsing starts from an allowed rule. -/
theorem start_of_notMem {start : Option String} (h : p.startRule start ∉ p.allowed) :
    start = some (p.startRule start) := by
  have hhead : p.allowed.headD "" ∈ p.allowed := by
    cases hallowed : p.allowed with
    | nil => exact absurd hallowed hp.starts
    | cons name names => exact List.mem_cons_self
  cases start with
  | none => exact absurd hhead h
  | some name =>
    unfold startRule at h ⊢
    dsimp only at h ⊢
    by_cases hempty : name.isEmpty = true
    · rw [if_pos hempty] at h
      exact absurd hhead h
    · rw [if_neg hempty]

theorem ends (host : Host σ) (text : String) (options : List (Value × Value)) (start : Option String) (w : σ) :
    p.Ends host text options start w (p.parse host text options start w) := by
  have hcache : p.parse host text options start w =
    (p.withCache p.cached).parse host text options start w := rfl
  by_cases hallowed : p.startRule start ∈ p.allowed
  · rw [hcache, Parser.parse_eq p p.cached host text options start w (List.contains_iff_mem.mpr hallowed)]
    cases hx : (p.matcher host options p.cached text.toList).parse (p.startRule start) 0 (State.initial w) with
    | ok r s =>
      cases r with
      | failed => exact .mismatch hallowed _ _
      | matched stop v =>
        dsimp only
        split_ifs
        · exact .value hallowed v _
        · exact .mismatch hallowed _ _
    | error e s =>
      have hne : e ≠ .exhausted := by
        rintro rfl
        exact (p.matcher host options p.cached text.toList).parse_ne_exhausted (p.startRule start) 0 (State.initial w)
          (by rw [hx]; rfl)
      obtain he | ⟨f, rfl, hf⟩ := hp.matcher_haltsBy host options p.cached text.toList hallowed 0 _ e s hx
      · exact absurd he hne
      · exact .raised hallowed f hf _
  · rw [hcache, Parser.parse_disallowed p p.cached host text options start w
      (fun h => hallowed (List.contains_iff_mem.mp h))]
    exact .disallowed _ (hp.start_of_notMem hallowed) hallowed

end Parser.Linked

/-- **A compiled parser does not go wrong.** A parse has a value, or reports a mismatch, or passes on what one of its
actions raised, called on a value for each of its labels; or it was asked to start from a rule that it may not start
from, and has left the world as it was. So no rule and no action is missing, and no action gets too many or too few
values. -/
theorem Parser.parse_ends {source : String} {context : List (String × Value)} {allowed : List String} {cached : Bool}
    {p : Parser} (h : Parser.compile source context allowed cached = .ok p) (host : Host σ) (text : String)
    (options : List (Value × Value)) (start : Option String) (w : σ) :
    p.Ends host text options start w (p.parse host text options start w) :=
  (Parser.compile_linked h).ends host text options start w

end

/-- Whatever is parsed and wherever parsing starts, a grammar with one action does not go wrong. -/
theorem echo_ends : ∃ p, Parser.compile "start = n:'x' { return n }\n" [] [] true = .ok p ∧
    ∀ text start, p.Ends (stockHost []) text [] start (Stock.initial 0)
      (p.parse (stockHost []) text [] start (Stock.initial 0)) := by
  have hok : (Parser.compile "start = n:'x' { return n }\n" [] [] true).isOk = true := by decide +kernel
  cases h : Parser.compile "start = n:'x' { return n }\n" [] [] true with
  | error e =>
    rw [h] at hok
    cases hok
  | ok p => exact ⟨p, rfl, fun text start => Parser.parse_ends h (stockHost []) text [] start (Stock.initial 0)⟩

end PegTemplate
