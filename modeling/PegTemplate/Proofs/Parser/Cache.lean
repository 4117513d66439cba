import PegTemplate.Parser
import PegTemplate.Proofs.Match.Transparency
import PegTemplate.Stock

/-!
# The cache of a parser

* `Parser.withCache` : a parser that remembers results, or does not;
* `SameOutcome` : two parses have the same value, or both report a mismatch, or stop for the same reason;
* `Parser.sameOutcome_of_not_stale` : **so do those with and without a cache, unless something stale is recalled**;
* `circular` : a grammar for which something stale is recalled, and the outcomes differ.
-/

namespace PegTemplate

section
variable {σ : Type}

/-- The parser with results remembered, or not. -/
def Parser.withCache (p : Parser) (cached : Bool) : Parser := { p with cached := cached }

/-- The same value, two reports of a mismatch, or the same reason to stop. -/
def SameOutcome : EStateM.Result ParseFailure σ Value → EStateM.Result ParseFailure σ Value → Prop
  | .ok v _, .ok v' _ => v = v'
  | .error (.mismatch _) _, .error (.mismatch _) _ => True
  | .error (.halted h) _, .error (.halted h') _ => h = h'
  | .error (.disallowedStart r) _, .error (.disallowedStart r') _ => r = r'
  | _, _ => False

/-- What a parse comes to, from what the matcher comes to. -/
theorem Parser.parse_eq (p : Parser) (cached : Bool) (host : Host σ) (text : String) (options : List (Value × Value))
    (start : Option String) (w : σ) (h : p.allowed.contains (p.startRule start) = true) :
    (p.withCache cached).parse host text options start w =
      match (p.matcher host options cached text.toList).parse (p.startRule start) 0 (State.initial w) with
      | .error e s => .error (.halted e) s.world
      | .ok .failed s => .error (.mismatch (inputErrorAt text.toList s.farthest s.expected)) s.world
      | .ok (.matched stop v) s =>
        if stop = text.toList.length then .ok v s.world
        else .error (.mismatch (inputErrorAt text.toList (s.note stop "end of input").farthest
          (s.note stop "end of input").expected)) (s.note stop "end of input").world := by
  have hmatcher : (p.withCache cached).matcher host options (p.withCache cached).cached text.toList =
      p.matcher host options cached text.toList := rfl
  have hstart : (p.withCache cached).startRule start = p.startRule start := rfl
  refine (if_pos h).trans ?_
  rw [hmatcher, hstart]
  unfold Matcher.parseAll
  cases (p.matcher host options cached text.toList).parse (p.startRule start) 0 (State.initial w) with
  | error e s => rfl
  | ok r s =>
    cases r with
    | failed => rfl
    | matched stop v =>
      have htext : (p.matcher host options cached text.toList).text = text.toList := rfl
      rw [htext]
      dsimp only
      split_ifs <;> rfl

theorem Parser.parse_disallowed (p : Parser) (cached : Bool) (host : Host σ) (text : String)
    (options : List (Value × Value)) (start : Option String) (w : σ)
    (h : ¬p.allowed.contains (p.startRule start) = true) :
    (p.withCache cached).parse host text options start w = .error (.disallowedStart (p.startRule start)) w :=
  if_neg h

/-- **With and without a cache a parse has the same outcome**, unless something stale is recalled. -/
theorem Parser.sameOutcome_of_not_stale {p : Parser} {host : Host σ} {text : String} {options : List (Value × Value)}
    {start : Option String} {w : σ} (hp : (p.matcher host options true text.toList).Pure)
    (h : ¬Stale ((p.matcher host options true text.toList).trace (p.startRule start) 0 (State.initial w))) :
    SameOutcome ((p.withCache true).parse host text options start w)
      ((p.withCache false).parse host text options start w) := by
  by_cases hallowed : p.allowed.contains (p.startRule start) = true
  · have ha : answer ((p.matcher host options true text.toList).parse (p.startRule start) 0 (State.initial w)) =
        answer ((p.matcher host options false text.toList).parse (p.startRule start) 0 (State.initial w)) :=
      Matcher.parse_withCache hp h (State.initial w)
    rw [parse_eq p true host text options start w hallowed, parse_eq p false host text options start w hallowed]
    cases hx : (p.matcher host options true text.toList).parse (p.startRule start) 0 (State.initial w) with
    | error e s =>
      cases hy : (p.matcher host options false text.toList).parse (p.startRule start) 0 (State.initial w) with
      | error e' s' =>
        rw [hx, hy] at ha
        exact Except.error.inj ha
      | ok r s' =>
        rw [hx, hy] at ha
        cases ha
    | ok r s =>
      cases hy : (p.matcher host options false text.toList).parse (p.startRule start) 0 (State.initial w) with
      | error e s' =>
        rw [hx, hy] at ha
        cases ha
      | ok r' s' =>
        rw [hx, hy] at ha
        obtain rfl : r = r' := Except.ok.inj ha
        cases r with
        | failed => trivial
        | matched stop v =>
          dsimp only
          split_ifs
          · rfl
          · trivial
  · rw [parse_disallowed p true host text options start w hallowed,
      parse_disallowed p false host text options start w hallowed]
    rfl

end

/-- Two rules that refer to each other: what one comes to in the middle of the other is remembered. -/
def circular : Parser where
  source := "start = &a b\na = b 'x' / 'q'\nb = a\n"
  grammar := ⟨[⟨"start", none, .sequence [.followedBy (.ref "a"), .ref "b"]⟩,
    ⟨"a", none, .choice [.sequence [.ref "b", .literal [0x78] false], .literal [0x71] false]⟩,
    ⟨"b", none, .ref "a"⟩], "start", []⟩
  actions := []
  context := []
  allowed := ["start"]
  cached := true

theorem circular_differs :
    (∃ e w, (circular.withCache true).parse (stockHost []) "q" [] none (Stock.initial 0) = .error (.mismatch e) w) ∧
      ∃ v w, (circular.withCache false).parse (stockHost []) "q" [] none (Stock.initial 0) = .ok v w :=
  ⟨⟨_, _, by rfl⟩, ⟨_, _, by rfl⟩⟩

/-- Where the text goes on, the two rules of `circular` do not differ. -/
theorem circular_agrees : SameOutcome ((circular.withCache true).parse (stockHost []) "x" [] none (Stock.initial 0))
    ((circular.withCache false).parse (stockHost []) "x" [] none (Stock.initial 0)) :=
  Parser.sameOutcome_of_not_stale nofun (by decide)

end PegTemplate
