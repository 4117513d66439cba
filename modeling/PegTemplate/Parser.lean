import PegTemplate.Block.Diagnosis
import PegTemplate.Block.Eval
import PegTemplate.Block.Forward
import PegTemplate.Grammar.Reader
import PegTemplate.Match.Report

/-!
# Parsers

* `BlockAction` : the action that a block compiles to;
* `Parser` : a grammar with its actions, which `Parser.compile` makes from source;
* `Parser.parse` : the value of a text;
* `ParseFailure` : why there is none.

A block that would pass on a name that it does not bind compiles, but its action only reports that.
-/

namespace PegTemplate

/-! ## Actions -/

/-- What a block compiles to. -/
structure BlockAction where
  block : Block
  code : Code
  /-- The names that the block passes on without binding them. -/
  missing : List String
  deriving BEq, Inhabited

/-- The action of a block, in a context of named values. -/
def BlockAction.compile (context : List (String × Value)) (b : Block) : Except GrammarError BlockAction :=
  match b.code? with
  | none => .error (.invalidBlock b.index b.fault b.source)
  | some code => .ok ⟨b, code, forwarded (context.map (·.1)) b.labels code⟩

/-- What the action sees: how to get the matched text and its location, and the options. -/
def contextArguments (text : List Char) (start stop : Nat) (options : Value) : List Value :=
  [.matchedText (String.ofList (slice text start stop)), .matchedLocation (locationOf text start stop),
    options]

section
variable {σ : Type}

/-- Runs code. A name of its own without a value is reported as one that the block does not bind. -/
def reportingNames {α : Type} (b : Block) (x : Running σ α) : EStateM Fault σ α := fun s =>
  match x s with
  | .ok a s => .ok a s
  | .error (.raised e) s => .error e s
  | .error (.name n) s => .error (.unresolved b n) s

/-- The action as the matcher sees it. -/
def BlockAction.action (a : BlockAction) (host : Host σ) (globals : List (String × Value))
    (options : Value) : Action σ Fault where
  arity := a.block.labels.length
  run text start stop labels := match a.missing with
    | n :: _ => throw (.forwarded a.block n)
    | [] => reportingNames a.block
        (a.code.run host globals (contextArguments text start stop options ++ labels))

end

/-! ## Compilation -/

/-- A compiled grammar. -/
structure Parser where
  source : String
  grammar : Grammar
  actions : List BlockAction
  context : List (String × Value)
  /-- The rules that a parse may start from; the first one is where it does. -/
  allowed : List String
  cached : Bool
  deriving Inhabited

/-- The first of some rules that a grammar does not define. -/
def Grammar.missingRule? (g : Grammar) (names : List String) : Option String :=
  names.find? fun n => !g.hasRule n

/-- Compiles the source of a grammar. Parsing starts from the rules in `allowed`, or from the first rule if
there are none. -/
def Parser.compile (source : String) (context : List (String × Value)) (allowed : List String)
    (cached : Bool) : Except GrammarError Parser := do
  let g ← Grammar.read source
  let allowed := if allowed.isEmpty then [g.start] else allowed
  match g.missingRule? allowed with
  | some name => throw (.undefinedStart name)
  | none => return ⟨source, g, ← g.blocks.mapM (BlockAction.compile context), context, allowed, cached⟩

/-- The values that code looks up outside: those of the context that are not named like the function of a
block. -/
def Parser.globals (p : Parser) : List (String × Value) :=
  p.context.filter fun e => !(p.grammar.blocks.map fun b => actionName b.index).contains e.1

/-! ## Parsing -/

/-- Why a text has no value. -/
inductive ParseFailure where
  /-- Parsing may not start from that rule. -/
  | disallowedStart (rule : String)
  | mismatch (error : InputError)
  | halted (halt : Halt Fault)
  deriving Inhabited

namespace ParseFailure

/-- The class of a failure. -/
def kind : ParseFailure → String
  | disallowedStart _ => "ValueError"
  | mismatch _ => "InputSyntaxError"
  | halted (.raised f) => f.kind
  | halted (.undefinedRule _) => "GrammarSyntaxError"
  | halted (.missingAction _) => "IndexError"
  | halted (.wrongArity _) => "TypeError"
  | halted .exhausted => "RecursionError"

/-- The report of a failure. -/
def message : ParseFailure → String
  | disallowedStart r => "Can't start parsing from rule " ++ quoteString r
  | mismatch e => e.message
  | halted (.raised f) => f.message
  | halted (.undefinedRule r) => "PEG: undefined rule '" ++ r ++ "'"
  | halted (.missingAction i) => "there is no action #" ++ toString i
  | halted (.wrongArity i) => "action #" ++ toString i ++ " has another number of labels"
  | halted .exhausted => "too many rules are being applied"

end ParseFailure

/-- The rule that parsing starts from: the one that is asked for, or the first of those that it may start
from. -/
def Parser.startRule (p : Parser) (start : Option String) : String :=
  match start with
  | some r => if r.isEmpty then p.allowed.headD "" else r
  | none => p.allowed.headD ""

section
variable {σ : Type}

/-- The matcher for a text. -/
def Parser.matcher (p : Parser) (host : Host σ) (options : List (Value × Value)) (cached : Bool)
    (text : List Char) : Matcher σ Fault where
  grammar := p.grammar
  actions := p.actions.map fun a => a.action host p.globals (.dict options)
  cached := cached
  text := text

/-- The value of a whole text. -/
def Parser.parse (p : Parser) (host : Host σ) (text : String) (options : List (Value × Value))
    (start : Option String) : EStateM ParseFailure σ Value := fun w =>
  let rule := p.startRule start
  if p.allowed.contains rule then
    match (p.matcher host options p.cached text.toList).parseAll rule (State.initial w) with
    | .ok v s => .ok v s.world
    | .error (.mismatch e) s => .error (.mismatch e) s.world
    | .error (.halted h) s => .error (.halted h) s.world
  else .error (.disallowedStart rule) w

end

end PegTemplate
