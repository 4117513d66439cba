import PegTemplate.Text.Quoted

/-!
# Grammars

* `Node` : a parsing expression. Sequences and choices hold lists, so functions on nodes come in
  pairs, one for a node and one for a list of them;
* `Node.refs` : the rules that a node refers to, in order;
* `Node.blocks` : the action blocks inside a node, each after those that it encloses;
* `Rule`, `Grammar` : named expressions, the first of which is where parsing starts.
-/

namespace PegTemplate

/-- The members of a character class, with the spelling that the grammar gives them. -/
structure CharClass where
  negated : Bool
  /-- Pairs of a first and a last member. -/
  ranges : List (CodePoint × CodePoint)
  singles : List CodePoint
  ignoreCase : Bool
  spelling : String
  deriving DecidableEq, Inhabited

/-- How often the body of a repetition may match. -/
inductive Repetition where
  | optional
  | star
  | plus
  deriving DecidableEq, Inhabited

/-- An action block: its code, the labels that become its parameters, and its number in the grammar. -/
structure Block where
  code : String
  labels : List String
  index : Nat
  deriving DecidableEq, Inhabited

/-- A parsing expression. -/
inductive Node where
  | literal (text : List CodePoint) (ignoreCase : Bool)
  | charClass (members : CharClass)
  | any
  | ref (rule : String)
  /-- Succeeds where the body does, and takes nothing. -/
  | followedBy (body : Node)
  /-- Succeeds where the body does not, and takes nothing. -/
  | notFollowedBy (body : Node)
  /-- Its value is the text that the body matched. -/
  | text (body : Node)
  | labeled (label : String) (body : Node)
  | repeated (kind : Repetition) (body : Node)
  | sequence (items : List Node)
  | choice (alternatives : List Node)
  /-- A sequence that ends in an action block. -/
  | action (body : Node) (block : Block)
  deriving BEq, Inhabited

namespace Node

/-- The items of a sequence; any other node is its own one item. -/
def items : Node → List Node
  | sequence ns => ns
  | n => [n]

/-- The label of a labelled node. -/
def label? : Node → Option String
  | labeled l _ => some l
  | _ => none

/-- The labels of the items of a sequence, in order. -/
def itemLabels (n : Node) : List String := n.items.filterMap label?

mutual

/-- The rules referred to, in order and with repeats. -/
def refs : Node → List String
  | ref r => [r]
  | followedBy n | notFollowedBy n | text n | labeled _ n | repeated _ n | action n _ => n.refs
  | sequence ns | choice ns => refsAll ns
  | literal .. | charClass _ | any => []

/-- The rules that the members of a list refer to. -/
def refsAll : List Node → List String
  | [] => []
  | n :: ns => n.refs ++ refsAll ns

end

mutual

/-- The action blocks, each after the blocks inside its own sequence. -/
def blocks : Node → List Block
  | action n b => n.blocks ++ [b]
  | followedBy n | notFollowedBy n | text n | labeled _ n | repeated _ n => n.blocks
  | sequence ns | choice ns => blocksAll ns
  | literal .. | charClass _ | any | ref _ => []

/-- The action blocks inside the members of a list. -/
def blocksAll : List Node → List Block
  | [] => []
  | n :: ns => n.blocks ++ blocksAll ns

end

end Node

/-- A named expression. Its display name, if it has one, stands for the failures inside it. -/
structure Rule where
  name : String
  display : Option String
  body : Node
  deriving BEq, Inhabited

/-- Rules in the order of the source, the rule where parsing starts, and all action blocks. -/
structure Grammar where
  rules : List Rule
  start : String
  blocks : List Block
  deriving BEq, Inhabited

/-- The rule of a name. -/
def Grammar.rule? (g : Grammar) (name : String) : Option Rule :=
  g.rules.find? (·.name == name)

/-- There is a rule of that name. -/
def Grammar.hasRule (g : Grammar) (name : String) : Bool :=
  g.rules.any (·.name == name)

theorem Grammar.rule?_isSome (g : Grammar) (name : String) :
    (g.rule? name).isSome = g.hasRule name := by
  rw [Bool.eq_iff_iff, Grammar.rule?, Grammar.hasRule, List.find?_isSome, List.any_eq_true]

theorem Grammar.rule?_name {g : Grammar} {name : String} {r : Rule} (h : g.rule? name = some r) :
    r.name = name := by
  simpa using List.find?_some h

end PegTemplate
