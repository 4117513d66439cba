import PegTemplate.Block.Fault
import PegTemplate.Block.Reader

/-!
# What is wrong with a block

* `Survey` : the tokens of some code with the lines that they start in, and the brackets that are open;
  `Survey.run` reads on until it meets a fault;
* `bracketCause?`, `statementCause` : what is wrong between brackets, and with a statement;
* `Block.fault` : what is wrong with a block whose code makes no function.

A fault of a token is reported before one of a line, and then the first line with a fault counts.
-/

namespace PegTemplate
open Unicode

/-! ## Tokens and their lines -/

/-- What is known of some code while its tokens are read. -/
structure Survey where
  scan : Scan
  /-- The line that is being read. -/
  line : Nat
  /-- The lines that lines of code start in, newest first. -/
  starts : List Nat
  /-- The brackets that are open and their lines, innermost first. -/
  opened : List (Char × Nat)
  /-- The line that the latest text starts in. -/
  textLine : Nat

namespace Survey

/-- The scan is before the first token of a line. -/
def atMargin (s : Survey) : Bool :=
  match s.scan.mode with
  | .margin .. => true
  | _ => false

/-- The first character of `cs` that no name has at its place. -/
def badNameChar : List Char → Option Char
  | [] => none
  | c :: cs => if isNameStart c then cs.find? (!isNamePart ·) else some c

/-- Why no token goes on with `c`. -/
def cause (s : Survey) (c : Char) : CodeFault.Cause :=
  match s.scan.mode with
  | .name chars => ((badNameChar chars.reverse).map .badCharacter).getD .malformed
  | .number chars =>
    if chars.getLast? = some '0' && chars.any (fun d => d != '0' && d != '_') then .leadingZero
    else if c = '.' then .malformed else .badNumber
  | .backslash => .badContinuation
  | .opening _ | .short .. => if c = '\n' then .unterminatedText s.line else .malformed
  | .margin .. | .between => if isPrintable c.toNat then .malformed else .badCharacter c
  | _ => .malformed

/-- The line that a text is reported in, or else the one that is being read. -/
def faultLine (s : Survey) : Nat :=
  match s.scan.mode with
  | .opening _ | .short .. | .long .. => s.textLine
  | _ => s.line

/-- What is wrong with the bracket `c`. -/
def bracketCause? (s : Survey) (c : Char) : Option CodeFault.Cause :=
  if isClosing c then match s.opened with
    | [] => some (.unmatched c)
    | (o, n) :: _ =>
      if closingOf o = c then none else some (.mismatched c o (if n = s.line then none else some n))
  else none

/-- The brackets that are open after `c`. -/
def openedAfter (s : Survey) (c : Char) : List (Char × Nat) :=
  if isOpening c then (c, s.line) :: s.opened
  else if isClosing c then s.opened.tail
  else s.opened

/-- The latest character is a token or between tokens. -/
def isCode : Scan.Mode → Bool
  | .between => true
  | _ => false

/-- The survey after `c`, which `scan` has read. -/
def advance (s : Survey) (c : Char) (scan : Scan) : Survey where
  scan := scan
  line := if c = '\n' then s.line + 1 else s.line
  starts := if s.atMargin && s.scan.lexemes.length < scan.lexemes.length then s.line :: s.starts else s.starts
  opened := if isCode scan.mode then s.openedAfter c else s.opened
  textLine := match scan.mode with
    | .opening _ => s.line
    | _ => s.textLine

/-- Reads a character, or meets a fault. -/
def step (s : Survey) (c : Char) : Survey × Option CodeFault :=
  match s.scan.step c with
  | none => (s, some ⟨s.cause c, some s.faultLine⟩)
  | some scan =>
    (s.advance c scan, (if isCode scan.mode then s.bracketCause? c else none).map (⟨·, some s.line⟩))

/-- What is wrong if the code ends here. -/
def endFault? (s : Survey) : Option CodeFault :=
  match s.scan.mode, s.opened with
  | .long .., _ | .longEscape .., _ => some ⟨.unterminatedLongText (s.line - 1), some s.textLine⟩
  | .short .., _ | .shortEscape .., _ => some ⟨.unterminatedText (s.line - 1), some s.textLine⟩
  | _, (o, n) :: _ => some ⟨.unclosed o, some n⟩
  | .margin .., [] => none
  | _, [] => some ⟨.unfinished, some (s.line - 1)⟩

/-- Reads until the end or a fault. -/
def run : Survey → List Char → Survey × Option CodeFault
  | s, [] => (s, s.endFault?)
  | s, c :: cs => match s.step c with
    | (t, none) => t.run cs
    | (t, some fault) => (t, some fault)

/-- The survey at the start of the body of a function. -/
def start : Survey := ⟨Scan.start, 2, [], [], 2⟩

/-- The lines of code that have been read, and the lines that they start in. -/
def codeLines (s : Survey) : List (CodeLine × Nat) :=
  (PegTemplate.codeLines s.scan.lexemes.reverse).zip s.starts.reverse

/-- Of these, the lines that have been read to their ends. -/
def wholeLines (s : Survey) : List (CodeLine × Nat) :=
  if s.atMargin then s.codeLines else s.codeLines.dropLast

end Survey

/-! ## Indentation -/

/-- What is wrong with the indentation of a line, where `first` is the first one. -/
def marginCause? (first line : CodeLine) : Option CodeFault.Cause :=
  if line.column = first.column then if line.narrow = first.narrow then none else some .mixedIndent
  else if line.column < first.column then some .misindented
  else some .unexpectedIndent

/-! ## Expressions -/

/-- The words that are keywords in some places only. -/
def softKeywords : List String := ["_", "case", "match"]

/-- The pieces start with a word that may have another meaning if something follows. -/
def startsWithWord : List Piece → Bool
  | .name _ :: .text _ :: _ => true
  | .name n :: _ => softKeywords.contains n
  | _ => false

/-- The pieces start with two expressions side by side. -/
def sideBySide (ps : List Piece) : Bool :=
  !startsWithWord ps && (List.range ps.length).any fun k =>
    (expression? (ps.take k)).isSome
      && (List.range (ps.length - k + 1)).any fun j => (expression? ((ps.drop k).take j)).isSome

/-- What is wrong with pieces that make no expression. -/
def expressionCause? (ps : List Piece) : Option CodeFault.Cause :=
  if (expression? ps).isSome then none
  else if sideBySide ps then some .missingComma
  else some .malformed

/-- What an expression is called when it is assigned to. -/
def Expr.targetName : Expr → String
  | .none => "None"
  | .bool true => "True"
  | .bool false => "False"
  | .int _ | .text _ => "literal"
  | .call .. => "function call"
  | .add .. => "expression"
  | .dict _ => "dict literal"
  | .tuple _ => "tuple"
  | .list _ => "list"
  | .name n => n
  | .spread _ => "starred"
  | .member .. => "attribute"

/-- A comparison may be meant where such an expression stands before an equals sign. -/
def Expr.mayBeCompared : Expr → Bool
  | .int _ | .text _ | .call .. | .add .. | .dict _ => true
  | _ => false

mutual

/-- The first part of an expression that cannot be assigned to. -/
def culprit? : Expr → Option Expr
  | .name n => if n = constantName then some (.name n) else none
  | .tuple es | .list es => culpritIn? es
  | e => some e

/-- The first part of expressions that cannot be assigned to. -/
def culpritIn? : List Expr → Option Expr
  | [] => none
  | e :: es => (culprit? e).or (culpritIn? es)

end

/-- What is wrong with an equals sign right after `e`, where `culprit` cannot be assigned to. -/
def signCause (culprit : Option Expr) (e : Expr) : CodeFault.Cause :=
  if e.mayBeCompared then .notAssignable e.targetName true
  else match e with
    | .name n => if n = constantName then .notAssignable n false else .straySign
    | e => .notAssignable (culprit.getD e).targetName false

/-! ## Brackets -/

/-- What is wrong with an item between brackets, which may be an argument of a call. -/
def itemCause? (isCall : Bool) (ps : List Piece) : Option CodeFault.Cause :=
  match splitAtMark '=' ps with
  | [[.name k], value] =>
    if ["None", "True", "False", constantName].contains k then some (.notAssignable k false)
    else if keywords.contains k then some .malformed
    else (expressionCause? value).or (if isCall then none else some .straySign)
  | [item, value] =>
    ((expressionCause? item).or (expressionCause? value)).or <|
      if isCall then some .badKeyword else (expression? item).map (signCause none)
  | _ => match ps with
    | .mark '*' :: rest => expressionCause? (if isCall then rest else ps)
    | _ => expressionCause? ps

/-- What is wrong with an entry of a table. -/
def entryCause? (ps : List Piece) : Option CodeFault.Cause :=
  if (keyedItem? ps).isSome then none
  else if (splitAtMark ':' ps).any sideBySide then some .missingComma
  else some .malformed

/-- The pieces are an argument with a name. -/
def isKeywordGroup : List Piece → Bool
  | .name _ :: .mark '=' :: _ => true
  | _ => false

/-- The pieces are an argument without a name. -/
def isPlainGroup : List Piece → Bool
  | .mark '*' :: _ => false
  | ps => !isKeywordGroup ps

/-- The first name that two arguments have. -/
def repeatedKeyword? (seen : List String) : List (List Piece) → Option String
  | [] => none
  | (.name k :: .mark '=' :: _) :: gs =>
    if seen.contains (normalName k) then some (normalName k) else repeatedKeyword? (normalName k :: seen) gs
  | _ :: gs => repeatedKeyword? seen gs

/-- What is wrong with the arguments of a call. -/
def callCause (groups : List (List Piece)) : CodeFault.Cause :=
  if (groups.dropWhile (!isKeywordGroup ·)).any isPlainGroup then .misplacedArgument
  else ((groups.findSome? (itemCause? true)).or
    ((repeatedKeyword? [] groups).map .repeatedKeyword)).getD .malformed

/-- A call may follow this piece. -/
def Piece.isCallee : Piece → Bool
  | name n => !keywords.contains n
  | text _ | round .. | bracketed _ => true
  | _ => false

/-- What is wrong between brackets that have just been closed; `around` is what stands before them, newest
first. -/
def bracketCause? (opening : Char) (around ps : List Piece) : Option CodeFault.Cause :=
  let groups := splitAtMark ',' ps
  let groups := if groups.getLast?.any (·.isEmpty) then groups.dropLast else groups
  match closePiece opening ps with
  | .round value arguments =>
    if around.head?.any (·.isCallee) then if arguments.isSome then none else some (callCause groups)
    else if value.isSome then none else some ((groups.findSome? (itemCause? false)).getD .malformed)
  | .bracketed none =>
    some ((groups.findSome? (if opening = '[' then itemCause? false else entryCause?)).getD .malformed)
  | _ => none

/-- The first fault in the brackets of a line. -/
def bracketsCause? : Pieces → List Lexeme → Option CodeFault.Cause
  | _, [] => none
  | s, l :: ls =>
    let found := match l, s.outer with
      | .mark c, (o, around) :: _ => if isClosing c then bracketCause? o around s.current.reverse else none
      | _, _ => none
    match found, s.put? l with
    | some cause, _ => some cause
    | none, some s => bracketsCause? s ls
    | none, none => none

/-! ## Lines -/

/-- What is wrong with a statement, apart from what its brackets hold. -/
def statementCause (ps : List Piece) : CodeFault.Cause :=
  let parts := splitAtMark '=' ps
  match parts.mapM expressions? with
  | none => .malformed
  | some es => match es.dropLast.findSome? culprit?, parts with
    | none, _ => .malformed
    | some bad, [left, _] => match (splitAtMark ',' left).getLast?.bind expression? with
      | some e => signCause (some bad) e
      | none => .notAssignable bad.targetName false
    | some bad, _ => .notAssignable bad.targetName false

/-- What is wrong with a line. -/
def lineCause? (l : CodeLine) : Option CodeFault.Cause :=
  if (lineStatements? l.lexemes).isSome then none
  else (bracketsCause? ⟨[], []⟩ l.lexemes).or <| match pieces? l.lexemes with
    | none => some .malformed
    | some ps => match (splitAtMark ';' ps).find? fun g => (statement? g).isNone with
      | none => some .malformed
      | some g => some (statementCause g)

namespace CodeFault.Cause

/-- It is a fault of the indentation. -/
def isMargin : CodeFault.Cause → Bool
  | misindented | unexpectedIndent | mixedIndent => true
  | _ => false

/-- It is a fault of a token that comes before all faults of lines. -/
def isToken : CodeFault.Cause → Bool
  | unclosed _ | unfinished | badContinuation | malformed => false
  | _ => true

/-- It is a fault that is found once all lines are read. -/
def isLate : CodeFault.Cause → Bool
  | repeatedKeyword _ => true
  | notAssignable t _ => t = constantName
  | _ => false

end CodeFault.Cause

/-! ## Blocks -/

/-- The faults in lines of code, at most one for each. -/
def linesFaults (first : CodeLine) (whole : List Nat) (lines : List (CodeLine × Nat)) : List CodeFault :=
  lines.filterMap fun l =>
    ((marginCause? first l.1).or (if whole.contains l.2 then lineCause? l.1 else none)).map (⟨·, some l.2⟩)

/-- Of the faults in lines, and the one that reading tokens stopped at, the one that is reported. -/
def firstFault? (faults : List CodeFault) (stop : Option CodeFault) : Option CodeFault :=
  match faults.find? (!·.cause.isLate) with
  | some fault =>
    if fault.cause.isMargin then some fault
    else some ((stop.filter (·.cause.isToken)).getD fault)
  | none => stop.or faults.head?

/-- The first name that occurs twice. -/
def repeatedName? : List String → Option String
  | [] => none
  | n :: ns => if ns.contains n then some n else repeatedName? ns

/-- What is wrong with the parameters of a block. -/
def Block.parametersCause (b : Block) : CodeFault.Cause :=
  match repeatedName? (b.parameters.map normalName) with
  | some n => .duplicateParameter n
  | none => .notAssignable constantName false

/-- What is wrong with a block whose code makes no function. -/
def Block.fault (b : Block) : CodeFault :=
  if b.body.contains '\x00' then ⟨.nullCharacter, none⟩
  else match Survey.start.run (b.body ++ ['\n']) with
  | (s, stop) => match s.codeLines with
    | [] => stop.getD ⟨.emptyBody, some (s.line - 1)⟩
    | l :: ls => (firstFault? (linesFaults l.1 (s.wholeLines.map (·.2)) (l :: ls)) stop).getD
      ⟨b.parametersCause, some 1⟩

end PegTemplate
