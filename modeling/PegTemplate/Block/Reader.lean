import PegTemplate.Block.Source
import PegTemplate.Block.Syntax
import PegTemplate.Block.Token

/-!
# From tokens to code

* `Piece` : a token, or what is between brackets, read in each way that it may be meant;
* `expression?`, `items?`, `arguments?` : expressions from pieces;
* `Pieces.put` : adds a token; a closing bracket makes one piece of what it closes;
* `statement?` : a statement from pieces;
* `Block.code?` : the function of a block, if its code makes one.

Brackets are closed before anything around them is read, so no reader has to look inside them.
-/

namespace PegTemplate
open Unicode

/-! ## Names -/

/-- Two spellings of a name are one name if they have the same compatibility form. -/
def normalName (n : String) : String :=
  if n.toList.all fun c => c.toNat < 128 then n else textOf (normalForm (codes n.toList))

/-- A name that is never assigned. -/
def constantName : String := "__debug__"

/-! ## Pieces -/

/-- The arguments of a call. -/
structure Arguments where
  positional : List Expr
  keywords : List (String × Expr)
  deriving BEq, Inhabited

/-- A token, or what is between brackets. -/
inductive Piece where
  | name (n : String)
  | number (n : Nat)
  | text (s : String)
  | mark (c : Char)
  /-- What is between parentheses, as an expression and as the arguments of a call. -/
  | round (value : Option Expr) (arguments : Option Arguments)
  /-- What is between other brackets. -/
  | bracketed (value : Option Expr)
  deriving BEq, Inhabited

/-- It is the mark `c`. -/
def Piece.isMark (c : Char) : Piece → Bool
  | mark d => d == c
  | _ => false

/-- Cuts at every mark `c`. -/
def splitAtMark (c : Char) : List Piece → List (List Piece)
  | [] => [[]]
  | p :: ps =>
    if p.isMark c then [] :: splitAtMark c ps
    else match splitAtMark c ps with
      | [] => [[p]]
      | g :: gs => (p :: g) :: gs

/-- The parts between marks `c`, none of which may be empty. The last mark may be followed by nothing. -/
def partsBetween? (c : Char) (ps : List Piece) : Option (List (List Piece)) :=
  let groups := splitAtMark c ps
  let groups := if groups.getLast?.any (·.isEmpty) then groups.dropLast else groups
  if groups.any (·.isEmpty) then none else some groups

/-! ## Expressions -/

/-- A name or one of the constants. Any other keyword is none. -/
def wordExpr? (n : String) : Option Expr :=
  if n = "None" then some .none
  else if n = "True" then some (.bool true)
  else if n = "False" then some (.bool false)
  else if keywords.contains n then none
  else some (.name (normalName n))

/-- An attribute's name. -/
def attributeName? (n : String) : Option String := if keywords.contains n then none else some (normalName n)

/-- Calls and attributes that follow an expression. -/
def suffixes? : Expr → List Piece → Option Expr
  | e, [] => some e
  | e, .round _ (some a) :: ps => suffixes? (.call e a.positional a.keywords) ps
  | e, .mark '.' :: .name n :: ps => match attributeName? n with
    | some n => suffixes? (.member e n) ps
    | none => none
  | _, _ => none

/-- Texts side by side are one text. -/
def joinTexts : (acc : String) → List Piece → String × List Piece
  | acc, .text s :: ps => joinTexts (acc ++ s) ps
  | acc, ps => (acc, ps)

/-- An expression without operators. -/
def operand? : List Piece → Option Expr
  | .name n :: ps => (wordExpr? n).bind (suffixes? · ps)
  | .number n :: ps => suffixes? (.int n) ps
  | .text s :: ps => suffixes? (.text (joinTexts s ps).1) (joinTexts s ps).2
  | .round (some e) _ :: ps => suffixes? e ps
  | .bracketed (some e) :: ps => suffixes? e ps
  | _ => none

/-- Operands with a plus sign between any two, from the left. -/
def expression? (ps : List Piece) : Option Expr := do
  match ← (splitAtMark '+' ps).mapM operand? with
  | [] => none
  | e :: es => return es.foldl .add e

/-- Expressions with commas between them. -/
def items? (ps : List Piece) : Option (List Expr) := do (← partsBetween? ',' ps).mapM expression?

/-- Expressions with commas between them are a tuple, unless it is one without a comma. -/
def expressions? (ps : List Piece) : Option Expr :=
  if ps.any (·.isMark ',') then (items? ps).map .tuple else expression? ps

/-- What parentheses mean when they are no call. -/
def parenthesized? (ps : List Piece) : Option Expr :=
  if ps.isEmpty then some (.tuple []) else expressions? ps

/-- A key, a colon and a value. -/
def keyedItem? (ps : List Piece) : Option (Expr × Expr) :=
  match splitAtMark ':' ps with
  | [k, v] => do return (← expression? k, ← expression? v)
  | _ => none

/-- Entries with commas between them. -/
def entries? (ps : List Piece) : Option Expr := do
  return .dict (← (← partsBetween? ',' ps).mapM keyedItem?)

/-- Adds an argument. A keyword is used once, and after a keyword comes no plain argument. -/
def Arguments.put? (a : Arguments) : List Piece → Option Arguments
  | .mark '*' :: ps => do return { a with positional := a.positional ++ [.spread (← expression? ps)] }
  | .name k :: .mark '=' :: ps => do
    let e ← expression? ps
    let k ← attributeName? k
    if k = constantName || a.keywords.any (·.1 == k) then none
    else return { a with keywords := a.keywords ++ [(k, e)] }
  | ps => do
    let e ← expression? ps
    if a.keywords.isEmpty then return { a with positional := a.positional ++ [e] } else none

/-- Arguments with commas between them. -/
def arguments? (ps : List Piece) : Option Arguments := do
  (← partsBetween? ',' ps).foldlM Arguments.put? ⟨[], []⟩

/-! ## Brackets -/

/-- What is between brackets, as one piece. -/
def closePiece (opening : Char) (ps : List Piece) : Piece :=
  if opening = '(' then .round (parenthesized? ps) (arguments? ps)
  else if opening = '[' then .bracketed ((items? ps).map .list)
  else .bracketed (entries? ps)

/-- The bracket that closes another one. -/
def closingOf (opening : Char) : Char :=
  if opening = '(' then ')' else if opening = '[' then ']' else '}'

/-- The pieces of a line so far, and those of the brackets that are still open around them, the innermost
first. Pieces are listed newest first. -/
structure Pieces where
  current : List Piece
  outer : List (Char × List Piece)
  deriving BEq, Inhabited

/-- Adds a token. -/
def Pieces.put? (s : Pieces) : Lexeme → Option Pieces
  | .line .. => none
  | .name cs => some { s with current := .name (String.ofList cs) :: s.current }
  | .number n => some { s with current := .number n :: s.current }
  | .text t => some { s with current := .text t :: s.current }
  | .mark c =>
    if isOpening c then some ⟨[], (c, s.current) :: s.outer⟩
    else if isClosing c then match s.outer with
      | (o, around) :: outer =>
        if closingOf o = c then some ⟨closePiece o s.current.reverse :: around, outer⟩ else none
      | [] => none
    else some { s with current := .mark c :: s.current }

/-- The pieces of a line, whose brackets must all be closed. -/
def pieces? (ls : List Lexeme) : Option (List Piece) := do
  let s ← ls.foldlM Pieces.put? ⟨[], []⟩
  if s.outer.isEmpty then return s.current.reverse else none

/-! ## Statements -/

mutual

/-- An expression that can be assigned to. -/
def target? : Expr → Option Target
  | .name n => if n = constantName then none else some (.name n)
  | .tuple es | .list es => (targets? es).map .many
  | _ => none

/-- Expressions that can be assigned to. -/
def targets? : List Expr → Option (List Target)
  | [] => some []
  | e :: es => match target? e, targets? es with
    | some t, some ts => some (t :: ts)
    | _, _ => none

end

/-- A statement: all but the last part between equals signs are targets. -/
def statement? : List Piece → Option Statement
  | [.name "pass"] => some .pass
  | .name "return" :: ps => if ps.isEmpty then some (.result none) else (expressions? ps).map (.result ·)
  | ps => do
    let es ← (splitAtMark '=' ps).mapM expressions?
    let e ← es.getLast?
    if es.length = 1 then return .expression e else return .assign (← targets? es.dropLast) e

/-- The statements of a line, which semicolons may separate. -/
def lineStatements? (ls : List Lexeme) : Option (List Statement) := do
  let ps ← pieces? ls
  if ps.isEmpty then none else (← partsBetween? ';' ps).mapM statement?

/-- A line of code: its indentation and its tokens. -/
structure CodeLine where
  column : Nat
  narrow : Nat
  lexemes : List Lexeme
  deriving DecidableEq, Inhabited

/-- The token starts a line. -/
def Lexeme.startsLine : Lexeme → Bool
  | line .. => true
  | _ => false

/-- The lines of code. -/
def codeLines : List Lexeme → List CodeLine
  | [] => []
  | .line c n :: ls => ⟨c, n, ls.takeWhile (!·.startsLine)⟩ :: codeLines ls
  | _ :: ls => codeLines ls

/-- All lines are indented alike, and at all. -/
def sameMargin : List CodeLine → Bool
  | [] => true
  | l :: ls => 0 < l.column && ls.all fun k => k.column == l.column && k.narrow == l.narrow

/-! ## Functions -/

/-- No name occurs twice. -/
def distinctNames : List String → Bool
  | [] => true
  | n :: ns => !ns.contains n && distinctNames ns

/-- The statements of the body of a function. There is at least one, and no character is NUL. -/
def body? (text : List Char) : Option (List Statement) := do
  let lines := codeLines (← lexemes? text)
  if lines.isEmpty || !sameMargin lines || text.contains '\x00' then none
  else return (← lines.mapM fun l => lineStatements? l.lexemes).flatten

/-- The function of a block. -/
def Block.code? (b : Block) : Option Code := do
  let parameters := b.parameters.map normalName
  if !distinctNames parameters || parameters.contains constantName then none
  else return ⟨parameters, ← body? (b.body ++ ['\n'])⟩

end PegTemplate
