import PegTemplate.Block.Syntax

/-!
# Names that a block passes on

* `Expr.calls` : the calls of named functions in an expression, by how deep they stand;
* `Code.calls` : those of a function, the less deep ones first;
* `forwarded` : the names that calls of context functions get as arguments and that the block does not
  bind.
-/

namespace PegTemplate

/-- A call of a function by its name. -/
structure NamedCall where
  function : String
  arguments : List Expr
  deriving BEq, Inhabited

/-- What stands at each depth, from the outside in. -/
abbrev Levels := List (List NamedCall)

/-- What stands at each depth of two things side by side. -/
def mergeLevels : Levels → Levels → Levels
  | [], ys => ys
  | xs, [] => xs
  | x :: xs, y :: ys => (x ++ y) :: mergeLevels xs ys

/-- A call of a bare name. -/
def namedCall : Expr → List Expr → List NamedCall
  | .name f, args => [⟨f, args⟩]
  | _, _ => []

mutual

/-- The calls of named functions, by how deep they stand. -/
def Expr.calls : Expr → Levels
  | .name _ | .none | .bool _ | .int _ | .text _ => []
  | .list es | .tuple es => [] :: callsIn es
  | .dict es => [] :: mergeLevels (callsInKeys es) (callsInValues es)
  | .call f args kws => namedCall f args :: mergeLevels f.calls (mergeLevels (callsIn args) (callsInKeywords kws))
  | .spread e | .member e _ => [] :: e.calls
  | .add l r => [] :: mergeLevels l.calls r.calls

/-- The calls in expressions side by side. -/
def callsIn : List Expr → Levels
  | [] => []
  | e :: es => mergeLevels e.calls (callsIn es)

/-- The calls in the keys of entries. -/
def callsInKeys : List (Expr × Expr) → Levels
  | [] => []
  | e :: es => mergeLevels (callsInKey e) (callsInKeys es)

/-- The calls in the key of an entry. -/
def callsInKey : Expr × Expr → Levels
  | (k, _) => k.calls

/-- The calls in the values of entries. -/
def callsInValues : List (Expr × Expr) → Levels
  | [] => []
  | e :: es => mergeLevels (callsInValue e) (callsInValues es)

/-- The calls in the value of an entry. -/
def callsInValue : Expr × Expr → Levels
  | (_, v) => v.calls

/-- The calls in keyword arguments. A keyword stands around its value. -/
def callsInKeywords : List (String × Expr) → Levels
  | [] => []
  | k :: ks => mergeLevels ([] :: callsInKeyword k) (callsInKeywords ks)

/-- The calls in the value of a keyword. -/
def callsInKeyword : String × Expr → Levels
  | (_, e) => e.calls

end

/-- The calls in a statement. -/
def Statement.calls : Statement → Levels
  | .pass | .result none => []
  | .result (some e) | .assign _ e | .expression e => e.calls

/-- The calls in a function: the less deep ones first, and those of one depth in their order. -/
def Code.calls (c : Code) : List NamedCall :=
  (c.statements.foldr (fun s ls => mergeLevels s.calls ls) []).flatten

/-- Adds the bare names among arguments that are not bound and not there yet. -/
def addForwarded (bound : List String) : List String → List Expr → List String
  | acc, [] => acc
  | acc, .name n :: es =>
    addForwarded bound (if bound.contains n || acc.contains n then acc else acc ++ [n]) es
  | acc, _ :: es => addForwarded bound acc es

/-- The bare names that functions of the context get as arguments, and that are neither labels nor
assigned in the block. -/
def forwarded (context labels : List String) (c : Code) : List String :=
  (c.calls.filter fun call => context.contains call.function).foldl
    (fun acc call => addForwarded (labels ++ c.assigned) acc call.arguments) []

end PegTemplate
