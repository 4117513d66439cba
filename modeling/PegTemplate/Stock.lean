import PegTemplate.Value.Call

/-!
# Ready-made actions

* `Deed` : what an action does with its arguments;
* `Stock` : how often each action was called, and the calls in order;
* `stockHost` : the host that runs the actions of a list, numbered from 0.

An action may get a context as its first argument. The other arguments are its rest.
-/

namespace PegTemplate

/-- What an action does with its arguments. -/
inductive Deed where
  | const (v : Value)
  /-- The rest, as a tuple or as a list. -/
  | tuple
  | list
  /-- All arguments, with the context. -/
  | all
  | first
  | none
  /-- The text, the location and the options of the context. -/
  | text
  | location
  | options
  | setOption
  | integer
  /-- All texts in the rest, one after the other. -/
  | join
  | cons
  | sum
  /-- A left-associative chain of operators. -/
  | fold
  | repr
  | shownContext
  /-- How often the action has been called. -/
  | count
  | keywords
  | fail
  | failName
  | failBinding
  deriving BEq, Inhabited

/-- The word for a deed. -/
def Deed.name : Deed → String
  | const _ => "const"
  | tuple => "tuple"
  | list => "list"
  | all => "all"
  | first => "first"
  | none => "none"
  | text => "text"
  | location => "loc"
  | options => "opts"
  | setOption => "set_option"
  | integer => "int"
  | join => "join"
  | cons => "cons"
  | sum => "sum"
  | fold => "fold"
  | repr => "repr"
  | shownContext => "ctx_repr"
  | count => "count"
  | keywords => "kw"
  | fail => "raise"
  | failName => "name_error"
  | failBinding => "binding"

/-- How an action is written. -/
def Deed.shown (d : Deed) : String := "<act " ++ d.name ++ ">"

/-- A call of an action. -/
structure StockCall where
  deed : Deed
  location : Option Value
  rest : List Value
  deriving BEq, Inhabited

/-- What the actions have done. -/
structure Stock where
  /-- How often each action was called. -/
  counts : List Nat
  /-- The calls, the newest first. -/
  calls : List StockCall
  deriving BEq, Inhabited

/-- The state before any call of `n` actions. -/
def Stock.initial (n : Nat) : Stock := ⟨List.replicate n 0, []⟩

/-! ## Deeds -/

/-- What a function of a context returns. -/
def Value.returned : Value → Value
  | matchedText s => text s
  | matchedLocation l => location l
  | _ => none

/-- The arguments without the context. -/
def restOf : List Value → List Value
  | .context .. :: vs => vs
  | vs => vs

mutual

/-- The texts in a value, in the order of lists and tuples. -/
def Value.textsIn : Value → String
  | .text s => s
  | .list vs | .tuple vs => Value.textsInAll vs
  | _ => ""

/-- The texts in the members of a list. -/
def Value.textsInAll : List Value → String
  | [] => ""
  | v :: vs => v.textsIn ++ textsInAll vs

end

/-- The argument number `n` of the rest. -/
def restItem (rest : List Value) (n : Nat) : Except Fault Value := (Value.tuple rest).item (some n)

/-- What an operator makes of two values. Any sign but three is a division. -/
def operate (sign a b : Value) : Except Fault Value :=
  match sign with
  | .text "+" => a.add b
  | .text "-" => a.subtract b
  | .text "*" => a.multiply b
  | _ => a.divide b

/-- Applies operators from left to right. Each member of `steps` holds an operator at place 1 and an operand
as its last. -/
def foldSteps : Value → List Value → Except Fault Value
  | acc, [] => .ok acc
  | acc, v :: vs => do
    let sign ← v.item (some 1)
    let operand ← v.item none
    foldSteps (← operate sign acc operand) vs

/-- The value of a deed, in the call number `times` of its action. -/
def Deed.value (d : Deed) (args : List Value) (named : List (String × Value)) (times : Nat) :
    Except Fault Value :=
  let rest := restOf args
  match d, args with
  | const v, _ => .ok v
  | tuple, _ => .ok (.tuple rest)
  | list, _ => .ok (.list rest)
  | all, _ => .ok (.tuple args)
  | first, _ => .ok (rest.headD .none)
  | text, .context t _ _ :: _ => .ok t.returned
  | location, .context _ l _ :: _ => .ok l.returned
  | options, .context _ _ o :: _ => .ok (.dict o)
  | setOption, .context .. :: _ => .error .readOnlyAssignment
  | shownContext, (.context t l o) :: _ => .ok (.text (Value.context t l o).shown)
  | shownContext, _ => .ok (.text "None")
  | none, _ | text, _ | location, _ | options, _ | setOption, _ => .ok .none
  | integer, _ => do return .int (← (← restItem rest 0).toInteger)
  | join, _ => .ok (.text (Value.textsInAll rest))
  | cons, _ => do (Value.list [← restItem rest 0]).add (← restItem rest 1)
  | sum, _ => do
    let head ← restItem rest 0
    head.add (← (← restItem rest 1).sum (.int 0))
  | fold, _ => do
    let head ← restItem rest 0
    foldSteps head (← (← restItem rest 1).elements)
  | repr, _ => .ok (.text (Value.tuple rest).shown)
  | count, _ => .ok (.int times)
  | keywords, _ => .ok (.dict (named.map fun k => (.text k.1, k.2)))
  | fail, _ => .error (.foreign "ValueError" "boom")
  | failName, _ => .error (.foreign "NameError" "name 'undefined_helper' is not defined")
  | failBinding, _ => .error (.binding "custom binding failure" (some "custom"))

/-- The location of the context among the arguments. -/
def contextLocation? : List Value → Option Value
  | .context _ l _ :: _ => some l.returned
  | _ => none

/-- The host that runs the actions of a list, numbered from 0. A call is noted before it is run. -/
def stockHost (deeds : List Deed) : Host Stock where
  run id args named s :=
    let d := deeds.getD id .none
    let n := s.counts.getD id 0 + 1
    let s : Stock := ⟨s.counts.set id n, ⟨d, contextLocation? args, restOf args⟩ :: s.calls⟩
    match d.value args named n with
    | .ok v => .ok v s
    | .error e => .error e s

end PegTemplate
