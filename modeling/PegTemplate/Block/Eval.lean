import PegTemplate.Block.Reader
import PegTemplate.Value.Call

/-!
# Running code

* `Interrupt` : why code stops: a name of its own has no value, or something that it did went wrong;
* `Scope` : the values of names; `Scope.find` looks a name up in the function, in the context and among
  the builtins;
* `Expr.eval`, `Statement.run`, `Code.run` : what expressions, statements and functions do.
-/

namespace PegTemplate

/-- Why code stops. -/
inductive Interrupt where
  | name (fault : NameFault)
  | raised (fault : Fault)
  deriving BEq, Inhabited

/-- The values of names. -/
structure Scope where
  /-- The names that are never looked up outside. -/
  own : List String
  /-- The values that the function gave to names, the newest first. -/
  locals : List (String × Value)
  /-- The values of the context. -/
  globals : List (String × Value)
  deriving Inhabited

/-- The builtins that can be named anywhere. -/
def namedBuiltins : List Builtin :=
  [.int, .len, .sum, .str, .repr, .openFile, .function "abs", .function "ord", .function "isinstance",
   .function "divmod", .function "sorted", .function "print", .function "max", .function "min",
   .classOf "dict"]

/-- The values of the names that are known anywhere. -/
def builtins : List (String × Value) := namedBuiltins.map fun b => (b.name, .builtin b)

/-- The value of a name. -/
def Scope.find (s : Scope) (name : String) : Except NameFault Value :=
  if s.own.contains name then match s.locals.lookup name with
    | some v => .ok v
    | none => .error (.unassigned name)
  else match s.globals.lookup name, builtins.lookup name with
    | some v, _ | none, some v => .ok v
    | none, none => .error (.undefined name)

/-- Gives a name a value. -/
def Scope.set (s : Scope) (name : String) (v : Value) : Scope :=
  { s with locals := (name, v) :: s.locals }

section
variable {σ : Type}

/-- Code that runs on the state of the host. -/
abbrev Running (σ α : Type) := EStateM Interrupt σ α

/-- What goes wrong in `x` stops the code. -/
def raising {α : Type} (x : EStateM Fault σ α) : Running σ α := fun s =>
  match x s with
  | .ok a s => .ok a s
  | .error e s => .error (.raised e) s

/-- A computation without effects. -/
def ofExcept {α : Type} : Except Fault α → Running σ α
  | .ok a => pure a
  | .error e => throw (.raised e)

/-- The value of a name. -/
def lookUp (s : Scope) (name : String) : Running σ Value :=
  match s.find name with
  | .ok v => pure v
  | .error e => throw (.name e)

/-- The members of a collection, as arguments of `callee`. -/
def spreadValue (callee : Option String) (v : Value) : Running σ (List Value) :=
  match v.elements? with
  | some vs => pure vs
  | none => throw (.raised (.notSpreadable callee v.typeName))

/-- A table from keys and values, if all keys can be keys. -/
def dictOf (entries : List (Value × Value)) : Except Fault Value :=
  (entries.mapM fun e : Value × Value => e.1.asKey.map fun k => (k, e.2)).map fun es => .dict (tableOf es)

/-! ## Expressions -/

mutual

/-- The value of an expression. -/
def Expr.eval (host : Host σ) (s : Scope) : Expr → Running σ Value
  | .name n => lookUp s n
  | .none => return .none
  | .bool b => return .bool b
  | .int n => return .int n
  | .text t => return .text t
  | .list es => return .list (← evalArguments host s es)
  | .tuple es => return .tuple (← evalArguments host s es)
  | .dict es => do ofExcept (dictOf (← evalEntries host s es))
  | .call f [.spread e] kws => do
    let f ← f.eval host s
    let v ← e.eval host s
    let kws ← evalKeywords host s kws
    raising (f.call host (← spreadValue (some f.calleeText) v) kws)
  | .call f args kws => do
    let f ← f.eval host s
    let args ← evalArguments host s args
    let kws ← evalKeywords host s kws
    raising (f.call host args kws)
  | .spread e => return .list (← spreadValue Option.none (← e.eval host s))
  | .add l r => do
    let a ← l.eval host s
    let b ← r.eval host s
    ofExcept (a.add b)
  | .member e n => do ofExcept ((← e.eval host s).member n)

/-- The values of arguments, from left to right, where the members of a collection stand for it. -/
def evalArguments (host : Host σ) (s : Scope) : List Expr → Running σ (List Value)
  | [] => return []
  | .spread e :: es => do
    let vs ← spreadValue Option.none (← e.eval host s)
    return vs ++ (← evalArguments host s es)
  | e :: es => do
    let v ← e.eval host s
    return v :: (← evalArguments host s es)

/-- The values of keyword arguments. -/
def evalKeywords (host : Host σ) (s : Scope) : List (String × Expr) → Running σ (List (String × Value))
  | [] => return []
  | k :: ks => do
    let v ← evalKeyword host s k
    return v :: (← evalKeywords host s ks)

/-- The value of one keyword argument. -/
def evalKeyword (host : Host σ) (s : Scope) : String × Expr → Running σ (String × Value)
  | (k, e) => return (k, ← e.eval host s)

/-- The keys and values of entries. -/
def evalEntries (host : Host σ) (s : Scope) : List (Expr × Expr) → Running σ (List (Value × Value))
  | [] => return []
  | e :: es => do
    let v ← evalEntry host s e
    return v :: (← evalEntries host s es)

/-- The key and the value of an entry. -/
def evalEntry (host : Host σ) (s : Scope) : Expr × Expr → Running σ (Value × Value)
  | (k, v) => do
    let k ← k.eval host s
    return (k, ← v.eval host s)

end

/-! ## Statements -/

mutual

/-- Gives the names of a target their values. -/
def Target.assign (s : Scope) (v : Value) : Target → Except Fault Scope
  | .name n => .ok (s.set n v)
  | .many ts => match v.elements? with
    | none => .error (.notUnpackable v.typeName)
    | some vs =>
      if vs.length < ts.length then .error (.tooFewValues ts.length vs.length)
      else if ts.length < vs.length then .error (.tooManyValues ts.length)
      else assignEach s vs ts

/-- Gives each target the value at its place. -/
def assignEach (s : Scope) : List Value → List Target → Except Fault Scope
  | v :: vs, t :: ts => match t.assign s v with
    | .ok s => assignEach s vs ts
    | .error e => .error e
  | _, _ => .ok s

end

/-- Gives all targets of a statement its value, from left to right. -/
def assignAll (v : Value) : Scope → List Target → Except Fault Scope
  | s, [] => .ok s
  | s, t :: ts => match t.assign s v with
    | .ok s => assignAll v s ts
    | .error e => .error e

/-- Runs statements; the result, if one returns. -/
def runStatements (host : Host σ) : Scope → List Statement → Running σ Value
  | _, [] => return .none
  | s, .pass :: rest => runStatements host s rest
  | _, .result none :: _ => return .none
  | s, .result (some e) :: _ => e.eval host s
  | s, .expression e :: rest => do
    let _ ← e.eval host s
    runStatements host s rest
  | s, .assign ts e :: rest => do
    let v ← e.eval host s
    runStatements host (← ofExcept (assignAll v s ts)) rest

/-- Calls a function with a value for each of its parameters. -/
def Code.run (c : Code) (host : Host σ) (globals : List (String × Value)) (arguments : List Value) :
    Running σ Value :=
  runStatements host ⟨c.locals, (c.parameters.zip arguments).reverse, globals⟩ c.statements

end

end PegTemplate
