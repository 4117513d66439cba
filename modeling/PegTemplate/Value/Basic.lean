import PegTemplate.Text.Position

/-!
# Values

* `Builtin` : the functions and classes that every action block can name;
* `Value` : what expressions and actions compute;
* `Value.typeName` : the name of the type of a value, for error reports;
* `Value.isCallable` : whether a value can be called;
* `Value.sameKey`, `Value.unhashable?` : which values are one key of a table, and which are none.
-/

namespace PegTemplate

/-- What can be named without being defined. -/
inductive Builtin where
  | int
  | str
  | len
  | sum
  | repr
  /-- The function that opens a file. -/
  | openFile
  /-- The class of contexts, which is defined where a template is compiled. -/
  | context
  /-- A function that is passed around and never called. -/
  | function (name : String)
  /-- A class that is passed around and never called. -/
  | classOf (name : String)
  deriving DecidableEq, Inhabited

/-- It is a class and not a function. -/
def Builtin.isClass : Builtin → Bool
  | int | str | context | classOf _ => true
  | len | sum | repr | openFile | function _ => false

/-- The name that a block calls it by. -/
def Builtin.name : Builtin → String
  | int => "int"
  | str => "str"
  | len => "len"
  | sum => "sum"
  | repr => "repr"
  | openFile => "open"
  | context => "ActionContext"
  | function n | classOf n => n

/-- A value. -/
inductive Value where
  | none
  | bool (b : Bool)
  | int (n : Int)
  /-- The number `mantissa * 10 ^ exponent`, which is written with a decimal point. -/
  | decimal (mantissa exponent : Int)
  | text (s : String)
  | list (items : List Value)
  | tuple (items : List Value)
  | dict (entries : List (Value × Value))
  /-- A dictionary that can only be read. -/
  | view (entries : List (Value × Value))
  | position (p : Position)
  | location (l : Location)
  /-- What an action gets as its first argument. `text` and `location` are functions. -/
  | context (text location : Value) (options : List (Value × Value))
  /-- The function without parameters that returns the matched text. -/
  | matchedText (s : String)
  /-- The function without parameters that returns where the match is. -/
  | matchedLocation (l : Location)
  /-- An action of the host, which knows it by its number; `shown` is how it is written. -/
  | callable (id : Nat) (shown : String)
  | builtin (b : Builtin)
  /-- The look-up in a table of options. -/
  | getter (entries : List (Value × Value))
  deriving BEq, Inhabited

namespace Value

/-- The name of the type of a value. -/
def typeName : Value → String
  | none => "NoneType"
  | bool _ => "bool"
  | int _ => "int"
  | decimal .. => "float"
  | text _ => "str"
  | list _ => "list"
  | tuple _ => "tuple"
  | dict _ => "dict"
  | view _ => "mappingproxy"
  | position _ => "Position"
  | location _ => "SourceLocation"
  | context .. => "ActionContext"
  | matchedText _ | matchedLocation _ => "function"
  | callable .. => "Action"
  | builtin b => if b.isClass then "type" else "builtin_function_or_method"
  | getter _ => "builtin_function_or_method"

/-- It can be called. -/
def isCallable : Value → Bool
  | matchedText _ | matchedLocation _ | callable .. | builtin _ | getter _ => true
  | _ => false

/-- The number that a value counts as. -/
def number? : Value → Option Int
  | int n => some n
  | bool b => some (if b then 1 else 0)
  | _ => Option.none

mutual

/-- Two values are the same key. Truth values are the numbers 0 and 1. -/
def sameKey : Value → Value → Bool
  | tuple xs, tuple ys => sameKeys xs ys
  | text s, text t => s == t
  | none, none => true
  | position p, position q => p == q
  | location l, location m => l == m
  | callable i _, callable j _ => i == j
  | builtin b, builtin c => b == c
  | matchedText s, matchedText t => s == t
  | matchedLocation l, matchedLocation m => l == m
  | decimal m e, decimal n f => m == n && e == f
  | a, b => match a.number?, b.number? with
    | some m, some n => m == n
    | _, _ => false

/-- Two lists have the same keys. -/
def sameKeys : List Value → List Value → Bool
  | [], [] => true
  | x :: xs, y :: ys => sameKey x y && sameKeys xs ys
  | _, _ => false

end

mutual

/-- The type that keeps a value from being a key. -/
def unhashable? : Value → Option String
  | list _ => some "list"
  | dict _ => some "dict"
  | view _ => some "mappingproxy"
  | tuple vs => unhashableIn? vs
  | _ => Option.none

/-- The same for the first such member of a list. -/
def unhashableIn? : List Value → Option String
  | [] => Option.none
  | v :: vs => match unhashable? v with
    | some t => some t
    | Option.none => unhashableIn? vs

end

end Value

/-! ## Tables -/

/-- The value of a key. -/
def lookupEntry (entries : List (Value × Value)) (key : Value) : Option Value :=
  (entries.find? fun e => e.1.sameKey key).map (·.2)

/-- Gives a key a value; a key that is there keeps its place. -/
def setEntry (key value : Value) : List (Value × Value) → List (Value × Value)
  | [] => [(key, value)]
  | e :: es => if e.1.sameKey key then (e.1, value) :: es else e :: setEntry key value es

/-- A table of entries, the last one for each key. -/
def tableOf (entries : List (Value × Value)) : List (Value × Value) :=
  entries.foldl (fun t e => setEntry e.1 e.2 t) []

end PegTemplate
