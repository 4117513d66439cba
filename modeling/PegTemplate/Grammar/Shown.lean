import PegTemplate.Grammar.Basic
import PegTemplate.Value.Shown

/-!
# How grammars are written in full

* `Node.shown` : an expression with the names of its kinds and parts.
-/

namespace PegTemplate

/-- A kind with its parts. -/
def shownRecord (kind : String) (parts : List (String × String)) : String :=
  kind ++ "(" ++ commaSeparated (parts.map fun p => p.1 ++ "=" ++ p.2) ++ ")"

/-- A truth value. -/
def shownBool (b : Bool) : String := (Value.bool b).shown

/-- Texts between brackets. -/
def shownList (ts : List String) : String := "[" ++ commaSeparated ts ++ "]"

/-- Code points between quotes. -/
def shownCodes (cs : List CodePoint) : String := String.ofList (quote cs)

/-- A character class with all its parts. -/
def CharClass.shown (c : CharClass) : String :=
  shownRecord "CharClass" [("negated", shownBool c.negated),
    ("ranges", shownList (c.ranges.map fun r => "(" ++ toString r.1 ++ ", " ++ toString r.2 ++ ")")),
    ("singles", shownList (c.singles.map fun x => shownCodes [x])),
    ("ignore_case", shownBool c.ignoreCase), ("raw", quoteString c.spelling)]

/-- The sign of a repetition. -/
def Repetition.sign : Repetition → String
  | optional => "?"
  | star => "*"
  | plus => "+"

mutual

/-- An expression with the names of its kinds and parts. -/
def Node.shown : Node → String
  | .literal t i => shownRecord "Literal" [("text", shownCodes t), ("ignore_case", shownBool i)]
  | .charClass c => c.shown
  | .any => shownRecord "Any" []
  | .ref r => shownRecord "Ref" [("name", quoteString r)]
  | .followedBy n => shownRecord "And" [("node", n.shown)]
  | .notFollowedBy n => shownRecord "Not" [("node", n.shown)]
  | .text n => shownRecord "Text" [("node", n.shown)]
  | .labeled l n => shownRecord "Labeled" [("label", quoteString l), ("node", n.shown)]
  | .repeated k n => shownRecord "Repeat" [("node", n.shown), ("kind", quoteString k.sign)]
  | .sequence ns => shownRecord "Seq" [("items", shownList (shownNodes ns))]
  | .choice ns => shownRecord "Choice" [("alts", shownList (shownNodes ns))]
  | .action n b => shownRecord "Action" [("node", n.shown), ("code", quoteString b.code),
      ("labels", "(" ++ tupleText (b.labels.map quoteString) ++ ")"), ("index", toString b.index)]

/-- The members of a list of expressions. -/
def shownNodes : List Node → List String
  | [] => []
  | n :: ns => n.shown :: shownNodes ns

end

end PegTemplate
