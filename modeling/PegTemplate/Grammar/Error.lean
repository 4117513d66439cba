import PegTemplate.Block.Fault
import PegTemplate.Text.Position
import PegTemplate.Text.Quoted

/-!
# Why a grammar is refused

* `ReadError` : what is wrong with the text of a grammar, and at which offset;
* `GrammarError` : the same, or a fault that is found once the text has been read;
* `GrammarError.message` : the report, with line and column where an offset is known;
  `GrammarError.headline` : the part of it before the code of a block.
-/

namespace PegTemplate

/-- What is wrong with the text of a grammar. -/
inductive ReadError.Cause where
  | unclosedComment
  | expectedName
  | expected (mark : String)
  /-- A character at which no expression starts; `none` is the end of the text. -/
  | unexpected (found : Option Char)
  | unterminatedString
  | unterminatedEscape
  | invalidHexDigit
  | unterminatedClass
  | invalidRange (first last : CodePoint)
  | unterminatedTripleQuote
  | unterminatedBlock
  | duplicateLabel (label : String)
  | reservedLabel (label : String)
  | duplicateRule (name : String)
  | emptyGrammar
  deriving DecidableEq

/-- A cause and the offset that it is reported at. -/
structure ReadError where
  cause : ReadError.Cause
  offset : Nat
  deriving DecidableEq

/-- The wording of a cause. -/
def ReadError.Cause.message : ReadError.Cause → String
  | unclosedComment => "unclosed block comment"
  | expectedName => "expected IDENT"
  | expected mark => "expected " ++ quoteString mark
  | unexpected (some c) => "unexpected " ++ quoteString (String.singleton c)
  | unexpected none => "unexpected None"
  | unterminatedString => "unterminated string"
  | unterminatedEscape => "unterminated escape"
  | invalidHexDigit => "invalid hex digit"
  | unterminatedClass => "unterminated char class"
  | invalidRange a b =>
    "invalid character range " ++ String.ofList (quote [a]) ++ "-" ++ String.ofList (quote [b])
  | unterminatedTripleQuote => "unterminated triple-quoted string in code block"
  | unterminatedBlock => "unterminated code block"
  | duplicateLabel l => "label '" ++ l ++ "' is already defined"
  | reservedLabel l => "label can't be a reserved name '" ++ l ++ "'"
  | duplicateRule n => "duplicate rule '" ++ n ++ "'"
  | emptyGrammar => "empty PEG grammar"

/-- Why a grammar is refused. -/
inductive GrammarError where
  | unreadable (position : Position) (cause : ReadError.Cause)
  /-- Rule `referrer` refers to a rule that there is none of. -/
  | undefinedReference (rule referrer : String)
  | undefinedStart (rule : String)
  /-- The code of a block makes no function; `source` is the text of that function. -/
  | invalidBlock (index : Nat) (fault : CodeFault) (source : String)
  deriving DecidableEq

/-- The first part of the report of a refusal, which leaves out what the code of a block is. -/
def GrammarError.headline : GrammarError → String
  | unreadable p cause =>
    "PEG parse error at " ++ toString p.line ++ ":" ++ toString p.column ++ ": " ++ cause.message
  | undefinedReference r referrer =>
    "PEG: rule '" ++ r ++ "' is not defined (referenced from '" ++ referrer ++ "')"
  | undefinedStart r => "PEG: allowed start rule '" ++ r ++ "' is not defined"
  | invalidBlock i .. => "invalid Python code in action block #" ++ toString i

/-- The report of a refusal. -/
def GrammarError.message (e : GrammarError) : String :=
  match e with
  | invalidBlock _ fault source => e.headline ++ ": " ++ fault.message ++ "\n" ++ source
  | _ => e.headline

/-- A read error as the reason of a refusal of `src`. -/
def ReadError.inText (src : List Char) (e : ReadError) : GrammarError :=
  .unreadable (positionAt src e.offset) e.cause

end PegTemplate
