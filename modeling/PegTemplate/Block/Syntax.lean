/-!
# The code of an action

* `keywords` : the words that are no names;
* `Expr`, `Target`, `Statement` : what code is made of;
* `Target.names`, `Statement.assigned` : the names that code gives values to;
* `Code` : a function: its parameters and its statements. `Code.locals` are the names that it does not
  look up outside.
-/

namespace PegTemplate

/-- The words that are no names. -/
def keywords : List String :=
  ["False", "None", "True", "and", "as", "assert", "async", "await", "break", "class", "continue", "def",
   "del", "elif", "else", "except", "finally", "for", "from", "global", "if", "import", "in", "is",
   "lambda", "nonlocal", "not", "or", "pass", "raise", "return", "try", "while", "with", "yield"]

/-- An expression. -/
inductive Expr where
  | name (n : String)
  | none
  | bool (b : Bool)
  | int (n : Nat)
  | text (s : String)
  | list (items : List Expr)
  | tuple (items : List Expr)
  | dict (entries : List (Expr × Expr))
  /-- A call. An argument that is a `spread` stands for the members of a collection. -/
  | call (function : Expr) (arguments : List Expr) (keywords : List (String × Expr))
  | spread (collection : Expr)
  | add (left right : Expr)
  | member (owner : Expr) (name : String)
  deriving BEq, Inhabited

/-- What a value is assigned to: a name, or one target for each member of a collection. -/
inductive Target where
  | name (n : String)
  | many (targets : List Target)
  deriving BEq, Inhabited

/-- A statement. -/
inductive Statement where
  | pass
  | result (value : Option Expr)
  | assign (targets : List Target) (value : Expr)
  | expression (e : Expr)
  deriving BEq, Inhabited

mutual

/-- The names in a target. -/
def Target.names : Target → List String
  | .name n => [n]
  | .many ts => namesIn ts

/-- The names in targets. -/
def namesIn : List Target → List String
  | [] => []
  | t :: ts => t.names ++ namesIn ts

end

/-- The names that a statement gives values to. -/
def Statement.assigned : Statement → List String
  | assign ts _ => namesIn ts
  | _ => []

/-- A function. -/
structure Code where
  parameters : List String
  statements : List Statement
  deriving BEq, Inhabited

/-- The names that statements give values to. -/
def Code.assigned (c : Code) : List String := c.statements.flatMap Statement.assigned

/-- The names that are never looked up outside. -/
def Code.locals (c : Code) : List String := c.parameters ++ c.assigned

end PegTemplate
