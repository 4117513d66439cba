import PegTemplate.Grammar.Basic
import PegTemplate.Match.State
import PegTemplate.Unicode.Case

/-!
# Matching

* `Action` : what runs when the sequence before an action block has matched;
* `Matcher` : a grammar with its actions and the text to be matched;
* `Node.eval` : matches an expression at a position. How a rule is applied is a parameter, so the
  recursion is on the expression;
* `Matcher.apply` : applies a rule. A rule that is applied again at a position where it has begun fails;
* `Matcher.parse` : applies a rule from a fresh memo table.

Two bounds make these functions total, and neither is reached: the rules that have begun differ in name or
position, and each turn of a repetition but the last goes forward.
-/

namespace PegTemplate
open Unicode

/-- The characters from `start` up to `stop`. -/
def slice (text : List Char) (start stop : Nat) : List Char :=
  (text.drop start).take (stop - start)

/-- What runs when the sequence before an action block has matched. -/
structure Action (σ ε : Type) where
  /-- The number of labels. -/
  arity : Nat
  /-- The value for a match in `text` from `start` up to `stop`. -/
  run : (text : List Char) → (start stop : Nat) → (labels : List Value) → EStateM ε σ Value

/-- A grammar with its actions and the text to be matched. -/
structure Matcher (σ ε : Type) where
  grammar : Grammar
  actions : List (Action σ ε)
  /-- Results are remembered. -/
  cached : Bool
  text : List Char

/-! ## Characters -/

/-- A code point is one of the singles or in one of the ranges. -/
def CharClass.has (c : CharClass) (x : CodePoint) : Bool :=
  c.ranges.any (fun r => r.1 ≤ x && x ≤ r.2) || c.singles.contains x

/-- A class that ignores case has what has a lower or an upper form in it. -/
def CharClass.hasForm (c : CharClass) (x : CodePoint) : Bool :=
  c.has x || (c.ignoreCase && ((lowerOne x).any c.has || (upperOne x).any c.has))

/-- The class matches a character. -/
def CharClass.accepts (c : CharClass) (x : Char) : Bool := c.hasForm x.toNat != c.negated

/-- A class in a report. -/
def CharClass.description (c : CharClass) : String :=
  if c.spelling.isEmpty then "character class" else c.spelling

/-- A literal in a report. -/
def literalDescription (text : List CodePoint) (ignoreCase : Bool) : String :=
  String.ofList (quote text) ++ (if ignoreCase then "i" else "")

/-- The literal matches that much of the text. -/
def literalAccepts (text : List CodePoint) (ignoreCase : Bool) (chunk : List Char) : Bool :=
  if ignoreCase then lower (codes chunk) == lower text else codes chunk == text

/-! ## Bounds -/

mutual

/-- The length of the longest literal in an expression. -/
def Node.longestLiteral : Node → Nat
  | .literal t _ => t.length
  | .charClass _ | .any | .ref _ => 0
  | .followedBy n | .notFollowedBy n | .text n | .labeled _ n | .repeated _ n | .action n _ =>
    n.longestLiteral
  | .sequence ns | .choice ns => longestLiteralIn ns

/-- The length of the longest literal in a list of expressions. -/
def longestLiteralIn : List Node → Nat
  | [] => 0
  | n :: ns => max n.longestLiteral (longestLiteralIn ns)

end

/-- The length of the longest literal of a grammar. -/
def Grammar.longestLiteral (g : Grammar) : Nat := longestLiteralIn (g.rules.map (·.body))

section
variable {σ ε : Type}

/-- No match that starts at `start` ends after this. -/
def Matcher.limit (m : Matcher σ ε) (start : Nat) : Nat :=
  max m.text.length start + m.grammar.longestLiteral

/-! ## Expressions -/

/-- Runs the action of a block. -/
def Matcher.act (m : Matcher σ ε) (b : Block) (start stop : Nat) (labels : List Value) :
    Run σ ε Value :=
  match m.actions[b.index]? with
  | none => throw (.missingAction b.index)
  | some a =>
    if a.arity = labels.length then inWorld (a.run m.text start stop labels)
    else throw (.wrongArity b.index)

/-- Matches as often as it goes, from `pos` on. A match of nothing is the last one. The result is where the
last match ends, and the values. -/
def repeatFrom (step : Nat → Run σ ε Result) : (turns : Nat) → (pos : Nat) → Run σ ε (Nat × List Value)
  | 0, _ => throw .exhausted
  | turns + 1, pos => do
    match ← step pos with
    | .failed => return (pos, [])
    | .matched stop v =>
      if stop = pos then return (pos, [v])
      else
        let (last, vs) ← repeatFrom step turns stop
        return (last, v :: vs)

/-- The value of a repetition that begins at `pos`, from where it ends and the values in it. -/
def repetitionResult (kind : Repetition) (values : Nat × List Value) : Result :=
  match kind, values with
  | .plus, (_, []) => .failed
  | _, (stop, vs) => .matched stop (.list vs)

mutual

/-- Matches an expression at `pos`. `call` applies rules, and no match ends after `limit`. -/
def Node.eval (m : Matcher σ ε) (limit : Nat) (call : String → Nat → Run σ ε Result) :
    Node → (pos : Nat) → Run σ ε Result
  | .literal t i, pos =>
    let chunk := slice m.text pos (pos + t.length)
    if literalAccepts t i chunk then return .matched (pos + t.length) (.text (String.ofList chunk))
    else failAt pos (literalDescription t i)
  | .any, pos => match m.text[pos]? with
    | some c => return .matched (pos + 1) (.text (String.singleton c))
    | none => failAt pos "any character"
  | .charClass cc, pos => match m.text[pos]? with
    | some c =>
      if cc.accepts c then return .matched (pos + 1) (.text (String.singleton c))
      else failAt pos cc.description
    | none => failAt pos cc.description
  | .ref r, pos => call r pos
  | .labeled _ n, pos => n.eval m limit call pos
  | .text n, pos => do
    match ← n.eval m limit call pos with
    | .failed => return .failed
    | .matched stop _ => return .matched stop (.text (String.ofList (slice m.text pos stop)))
  | .followedBy n, pos => do
    match ← silently (n.eval m limit call pos) with
    | .failed => return .failed
    | .matched .. => return .matched pos .none
  | .notFollowedBy n, pos => do
    match ← silently (n.eval m limit call pos) with
    | .failed => return .matched pos .none
    | .matched .. => return .failed
  | .repeated .optional n, pos => do
    match ← n.eval m limit call pos with
    | .failed => return .matched pos .none
    | .matched stop v => return .matched stop v
  | .repeated kind n, pos => do
    return repetitionResult kind (← repeatFrom (fun p => n.eval m limit call p) (limit + 1 - pos) pos)
  | .sequence ns, pos => do
    match ← evalAll m limit call ns pos with
    | none => return .failed
    | some (stop, vs) => return .matched stop (.list vs)
  | .choice ns, pos => evalFirst m limit call ns pos
  | .action (.sequence ns) b, pos => do
    match ← evalLabels m limit call ns pos with
    | none => return .failed
    | some (stop, labels) => return .matched stop (← m.act b pos stop labels)
  | .action (.labeled _ n) b, pos => do
    match ← n.eval m limit call pos with
    | .failed => return .failed
    | .matched stop v => return .matched stop (← m.act b pos stop [v])
  | .action n b, pos => do
    match ← n.eval m limit call pos with
    | .failed => return .failed
    | .matched stop _ => return .matched stop (← m.act b pos stop [])

/-- Matches one expression after the other; where the last one ends, and all values. -/
def evalAll (m : Matcher σ ε) (limit : Nat) (call : String → Nat → Run σ ε Result) :
    List Node → (pos : Nat) → Run σ ε (Option (Nat × List Value))
  | [], pos => return some (pos, [])
  | n :: ns, pos => do
    match ← n.eval m limit call pos with
    | .failed => return none
    | .matched stop v =>
      match ← evalAll m limit call ns stop with
      | none => return none
      | some (last, vs) => return some (last, v :: vs)

/-- Matches one expression after the other; where the last one ends, and the values of those that have a
label. -/
def evalLabels (m : Matcher σ ε) (limit : Nat) (call : String → Nat → Run σ ε Result) :
    List Node → (pos : Nat) → Run σ ε (Option (Nat × List Value))
  | [], pos => return some (pos, [])
  | n :: ns, pos => do
    match ← n.eval m limit call pos with
    | .failed => return none
    | .matched stop v =>
      match ← evalLabels m limit call ns stop with
      | none => return none
      | some (last, vs) => return some (last, if n.label?.isSome then v :: vs else vs)

/-- The first expression that matches. -/
def evalFirst (m : Matcher σ ε) (limit : Nat) (call : String → Nat → Run σ ε Result) :
    List Node → (pos : Nat) → Run σ ε Result
  | [], _ => return .failed
  | n :: ns, pos => do
    match ← n.eval m limit call pos with
    | .failed => evalFirst m limit call ns pos
    | .matched stop v => return .matched stop v

end

/-! ## Rules -/

/-- Matches the body of a rule. The failures inside a rule with a display name are not noted, and its own
failure is, under that name. -/
def Rule.evalWith (r : Rule) (eval : Node → Nat → Run σ ε Result) (pos : Nat) : Run σ ε Result :=
  match r.display with
  | none => eval r.body pos
  | some description => do
    match ← silently (eval r.body pos) with
    | .failed => failAt pos description
    | .matched stop v => return .matched stop v

/-- Applies a rule at `pos`. -/
def Matcher.apply (m : Matcher σ ε) (limit : Nat) : (depth : Nat) → String → (pos : Nat) → Run σ ε Result
  | 0, _, _ => throw .exhausted
  | depth + 1, name, pos => do
    match (← get).memo.find? name pos with
    | some .begun => return .failed
    | some (.done r) => return r
    | none =>
      modify fun s => { s with memo := s.memo.enter name pos }
      match m.grammar.rule? name with
      | none => throw (.undefinedRule name)
      | some rule =>
        let r ← rule.evalWith (Node.eval m limit (m.apply limit depth)) pos
        modify fun s =>
          { s with memo := if m.cached then s.memo.insert name pos (.done r) else s.memo.erase name pos }
        return r

/-- More rules than that cannot have begun at positions up to `limit`. -/
def Matcher.depth (m : Matcher σ ε) (limit : Nat) : Nat := m.grammar.rules.length * (limit + 1) + 1

/-- Applies a rule at `pos` with nothing remembered. -/
def Matcher.parse (m : Matcher σ ε) (name : String) (pos : Nat) : Run σ ε Result := do
  modify (·.restart pos)
  m.apply (m.limit pos) (m.depth (m.limit pos)) name pos

end

end PegTemplate
