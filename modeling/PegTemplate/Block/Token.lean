import PegTemplate.Grammar.Token
import PegTemplate.Text.Quoted
import PegTemplate.Unicode.Compatibility
import PegTemplate.Value.Operator

/-!
# Tokens of code

* `unescape` : what the escapes between quotes stand for;
* `Lexeme` : a token, or the start of a line with its indentation;
* `Scan` : what has been read of some code; `Scan.step` reads one character more;
* `lexemes?` : all tokens of some code, if it is made of tokens.

A line goes on inside brackets and after a backslash. Only the marks that `isCodeMark` lists occur.
-/

namespace PegTemplate
open Unicode

/-! ## Escapes -/

/-- The value of hexadecimal digits, if all of them are. -/
def hexNumber? (cs : List Char) : Option Nat :=
  cs.foldl (fun acc c => acc.bind fun n => (hexValue? c).map (n * 16 + ·)) (some 0)

/-- The value of an octal digit. -/
def octalValue? (c : Char) : Option Nat :=
  if '0' ≤ c && c ≤ '7' then some (c.toNat - 48) else none

/-- The code point of an escape that is one letter. -/
def simpleEscape? (c : Char) : Option CodePoint :=
  if c = '\\' || c = '\'' || c = '"' then some c.toNat
  else if c = 'n' then some 10
  else if c = 'r' then some 13
  else if c = 't' then some 9
  else if c = 'a' then some 7
  else if c = 'b' then some 8
  else if c = 'f' then some 12
  else if c = 'v' then some 11
  else none

/-- What the text between quotes stands for. A backslash before a line feed is left out with it, and one
that makes no escape stands for itself. Names of characters are not known. -/
def unescape : List Char → Option (List CodePoint)
  | [] => some []
  | '\\' :: '\n' :: cs => unescape cs
  | '\\' :: 'N' :: _ => none
  | '\\' :: 'x' :: a :: b :: cs => do return (← hexNumber? [a, b]) :: (← unescape cs)
  | '\\' :: 'x' :: _ => none
  | '\\' :: 'u' :: a :: b :: c :: d :: cs => do return (← hexNumber? [a, b, c, d]) :: (← unescape cs)
  | '\\' :: 'u' :: _ => none
  | '\\' :: 'U' :: a :: b :: c :: d :: e :: f :: g :: h :: cs => do
    let n ← hexNumber? [a, b, c, d, e, f, g, h]
    if n ≤ 0x10FFFF then return n :: (← unescape cs) else none
  | '\\' :: 'U' :: _ => none
  | '\\' :: a :: cs =>
    match octalValue? a, cs with
    | none, cs => match simpleEscape? a with
      | some n => (unescape cs).map (n :: ·)
      | none => (unescape cs).map fun r => 92 :: a.toNat :: r
    | some x, [] => some [x]
    | some x, b :: cs => match octalValue? b, cs with
      | none, cs => (unescape (b :: cs)).map (x :: ·)
      | some y, [] => some [x * 8 + y]
      | some y, c :: cs => match octalValue? c with
        | none => (unescape (c :: cs)).map ((x * 8 + y) :: ·)
        | some z => (unescape cs).map ((x * 64 + y * 8 + z) :: ·)
  | c :: cs => (unescape cs).map (c.toNat :: ·)

/-! ## Tokens -/

/-- A token of code. -/
inductive Lexeme where
  /-- A line starts that is indented as far as this, counting a tab to the next multiple of eight, and
  counting it as one. -/
  | line (column narrow : Nat)
  | name (chars : List Char)
  | number (n : Nat)
  | text (s : String)
  | mark (c : Char)
  deriving DecidableEq, Inhabited

/-- Where a scan stands. The characters of an unfinished token are listed newest first. -/
inductive Scan.Mode where
  /-- Before the first token of a line. -/
  | margin (column narrow : Nat)
  | between
  | name (chars : List Char)
  | number (chars : List Char)
  | comment
  /-- After a backslash outside of texts. -/
  | backslash
  /-- After the first quote. -/
  | opening (quote : Char)
  /-- After two quotes: an empty text, or the start of a threefold quote. -/
  | opening2 (quote : Char)
  | short (quote : Char) (chars : List Char)
  | shortEscape (quote : Char) (chars : List Char)
  /-- Between threefold quotes, after `quotes` single ones. -/
  | long (quote : Char) (quotes : Nat) (chars : List Char)
  | longEscape (quote : Char) (chars : List Char)
  deriving DecidableEq, Inhabited

/-- What has been read of some code. -/
structure Scan where
  mode : Scan.Mode
  /-- How many brackets are open. -/
  depth : Nat
  /-- The tokens, newest first. -/
  lexemes : List Lexeme
  deriving DecidableEq, Inhabited

/-- The characters that names are made of, and some that no name can hold. -/
def isNameChar (c : Char) : Bool := c.isAlphanum || c == '_' || 128 ≤ c.toNat

/-- The marks that occur, brackets apart. -/
def isCodeMark (c : Char) : Bool :=
  c == ',' || c == ':' || c == '.' || c == '+' || c == '=' || c == '*' || c == ';'

/-- An opening bracket. -/
def isOpening (c : Char) : Bool := c == '(' || c == '[' || c == '{'

/-- A closing bracket. -/
def isClosing (c : Char) : Bool := c == ')' || c == ']' || c == '}'

/-- The number that digits stand for. Only zero starts with a zero. -/
def numeral? (cs : List Char) : Option Nat :=
  if cs.head? = some '0' && cs.any (fun c => c != '0' && c != '_') then none else digitsValue? 0 false cs

namespace Scan

/-- Adds a token. -/
def put (s : Scan) (l : Lexeme) : Scan := { s with mode := .between, lexemes := l :: s.lexemes }

/-- Adds a text. -/
def putText (s : Scan) (chars : List Char) : Option Scan :=
  (unescape chars.reverse).map fun cs => s.put (.text (textOf cs))

/-- Ends the name or the number that is being read. -/
def endWord (s : Scan) : Option Scan :=
  match s.mode with
  | .name chars => if isName chars.reverse then some (s.put (.name chars.reverse)) else none
  | .number chars => (numeral? chars.reverse).map fun n => s.put (.number n)
  | _ => some s

/-- Reads a character between tokens. -/
def enter (s : Scan) (c : Char) : Option Scan :=
  if c = ' ' || c = '\t' then some { s with mode := .between }
  else if c = '\n' then some { s with mode := if s.depth = 0 then .margin 0 0 else .between }
  else if c = '#' then some { s with mode := .comment }
  else if c = '\\' then some { s with mode := .backslash }
  else if isQuote c then some { s with mode := .opening c }
  else if c.isDigit then some { s with mode := .number [c] }
  else if isNameChar c then some { s with mode := .name [c] }
  else if isOpening c then some { s.put (.mark c) with depth := s.depth + 1 }
  else if isClosing c then some { s.put (.mark c) with depth := s.depth - 1 }
  else if isCodeMark c then some (s.put (.mark c))
  else none

/-- Reads a character. -/
def step (s : Scan) (c : Char) : Option Scan :=
  match s.mode with
  | .margin column narrow =>
    if c = ' ' then some { s with mode := .margin (column + 1) (narrow + 1) }
    else if c = '\t' then some { s with mode := .margin ((column / 8 + 1) * 8) (narrow + 1) }
    else if c = '\n' then some { s with mode := .margin 0 0 }
    else if c = '#' then some { s with mode := .comment }
    else (s.put (.line column narrow)).enter c
  | .between => s.enter c
  | .name chars =>
    if isNameChar c then some { s with mode := .name (c :: chars) }
    else s.endWord.bind (·.enter c)
  | .number chars =>
    if c.isDigit || c = '_' then some { s with mode := .number (c :: chars) }
    else if isNameChar c || c = '.' then none
    else s.endWord.bind (·.enter c)
  | .comment => if c = '\n' then s.enter c else some s
  | .backslash => if c = '\n' then some { s with mode := .between } else none
  | .opening q =>
    if c = q then some { s with mode := .opening2 q }
    else if c = '\\' then some { s with mode := .shortEscape q [c] }
    else if c = '\n' then none
    else some { s with mode := .short q [c] }
  | .opening2 q =>
    if c = q then some { s with mode := .long q 0 [] } else (s.putText []).bind (·.enter c)
  | .short q chars =>
    if c = q then s.putText chars
    else if c = '\\' then some { s with mode := .shortEscape q (c :: chars) }
    else if c = '\n' then none
    else some { s with mode := .short q (c :: chars) }
  | .shortEscape q chars => some { s with mode := .short q (c :: chars) }
  | .long q quotes chars =>
    if c = q then
      if quotes = 2 then s.putText (chars.drop 2) else some { s with mode := .long q (quotes + 1) (c :: chars) }
    else if c = '\\' then some { s with mode := .longEscape q (c :: chars) }
    else some { s with mode := .long q 0 (c :: chars) }
  | .longEscape q chars => some { s with mode := .long q 0 (c :: chars) }

/-- Reads characters one after the other. -/
def steps (s : Scan) (cs : List Char) : Option Scan := cs.foldlM step s

/-- The scan at the start of some code. -/
def start : Scan := ⟨.margin 0 0, 0, []⟩

/-- The tokens, if the code may end here: at the start of a line. -/
def finish? (s : Scan) : Option (List Lexeme) :=
  match s.mode with
  | .margin _ _ => if s.depth = 0 then some s.lexemes.reverse else none
  | _ => none

/-- Reading goes on where it stopped. -/
theorem steps_append (s : Scan) (as bs : List Char) :
    s.steps (as ++ bs) = (s.steps as).bind (·.steps bs) := by
  simp only [steps, List.foldlM_append]
  rfl

end Scan

/-- The tokens of some code, each line of which ends with a line feed. -/
def lexemes? (code : List Char) : Option (List Lexeme) :=
  (Scan.start.steps code).bind (·.finish?)

end PegTemplate
