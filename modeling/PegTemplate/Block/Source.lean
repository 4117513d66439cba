import PegTemplate.Grammar.Basic
import PegTemplate.Text.Lines

/-!
# The source of an action

* `normalCode` : the code of a block without the blank lines around it and the indentation that its
  lines share;
* `Block.source` : the function that a block stands for. Its parameters are the context parameters and
  the labels, and its body is the code.
-/

namespace PegTemplate

/-- The parameters that every action has before its labels. -/
def contextParameters : List String := ["text", "location", "options"]

/-- The code of a block, as far left as it goes. Code of blanks alone becomes `pass`. -/
def normalCode (code : List Char) : List Char :=
  match trimLines (splitLines code) with
  | [] => ['p', 'a', 's', 's']
  | ls => stripEnd (joinLines (dedent ls))

/-- The indentation of the body of a function. -/
def bodyMargin : List Char := [' ', ' ', ' ', ' ']

/-- The body of the function. -/
def Block.body (b : Block) : List Char :=
  joinLines (indent bodyMargin (splitLines (normalCode b.code.toList)))

/-- The name of the function that a block stands for. -/
def actionName (index : Nat) : String := "_peg_action_" ++ toString index

/-- The parameters of the function. -/
def Block.parameters (b : Block) : List String := contextParameters ++ b.labels

/-- The first line of the function. -/
def Block.header (b : Block) : String :=
  "def " ++ actionName b.index ++ "(" ++ ", ".intercalate b.parameters ++ "):"

/-- The text of the function. -/
def Block.source (b : Block) : String :=
  b.header ++ "\n" ++ String.ofList b.body ++ "\n"

end PegTemplate
