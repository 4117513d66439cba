import PegTemplate.Text.Quoted

/-!
# Why code makes no function

* `CodeFault.Cause` : what is wrong with some code;
* `CodeFault` : a cause and the line that it is found in;
* `CodeFault.message` : the report.
-/

namespace PegTemplate
open Unicode

/-- What is wrong with some code. -/
inductive CodeFault.Cause where
  /-- A line is indented less than the first one, but not as far left as the function. -/
  | misindented
  | unexpectedIndent
  /-- Tabs and spaces are mixed so that lines cannot be compared. -/
  | mixedIndent
  /-- No line has a statement. -/
  | emptyBody
  | unclosed (opening : Char)
  | unmatched (closing : Char)
  /-- A bracket closes one of another kind, which stands in `line` if that is another line. -/
  | mismatched (closing opening : Char) (line : Option Nat)
  /-- A text does not end in its line, which is line `last` if it was continued. -/
  | unterminatedText (last : Nat)
  | unterminatedLongText (last : Nat)
  /-- A backslash is the last character. -/
  | unfinished
  | badContinuation
  | badCharacter (c : Char)
  | badNumber
  | leadingZero
  | nullCharacter
  /-- Two expressions stand side by side between brackets. -/
  | missingComma
  | misplacedArgument
  | repeatedKeyword (name : String)
  /-- An argument is named by an expression. -/
  | badKeyword
  /-- An equals sign after a name that gets no value there. -/
  | straySign
  /-- Something that cannot be assigned to. `isComparison` if a comparison may have been meant. -/
  | notAssignable (target : String) (isComparison : Bool)
  | duplicateParameter (name : String)
  | malformed
  deriving DecidableEq

/-- A cause and the line that it is found in. The first line of the function is line 1. -/
structure CodeFault where
  cause : CodeFault.Cause
  line : Option Nat
  deriving DecidableEq

namespace CodeFault

/-- A character by its number, in four or more hexadecimal digits. -/
def codeName (c : Char) : String :=
  let width := if c.toNat < 0x10000 then 4 else if c.toNat < 0x100000 then 5 else 6
  "U+" ++ String.ofList ((hexDigits width c.toNat).map Char.toUpper)

/-- The wording of a cause. -/
def Cause.message : Cause → String
  | misindented => "unindent does not match any outer indentation level"
  | unexpectedIndent => "unexpected indent"
  | mixedIndent => "inconsistent use of tabs and spaces in indentation"
  | emptyBody => "expected an indented block after function definition on line 1"
  | unclosed c => "'" ++ String.singleton c ++ "' was never closed"
  | unmatched c => "unmatched '" ++ String.singleton c ++ "'"
  | mismatched c o line =>
    "closing parenthesis '" ++ String.singleton c ++ "' does not match opening parenthesis '"
      ++ String.singleton o ++ "'"
      ++ match line with
        | some n => " on line " ++ toString n
        | none => ""
  | unterminatedText n => "unterminated string literal (detected at line " ++ toString n ++ ")"
  | unterminatedLongText n =>
    "unterminated triple-quoted string literal (detected at line " ++ toString n ++ ")"
  | unfinished => "unexpected EOF while parsing"
  | badContinuation => "unexpected character after line continuation character"
  | badCharacter c =>
    if isPrintable c.toNat then "invalid character '" ++ String.singleton c ++ "' (" ++ codeName c ++ ")"
    else "invalid non-printable character " ++ codeName c
  | badNumber => "invalid decimal literal"
  | leadingZero =>
    "leading zeros in decimal integer literals are not permitted; use an 0o prefix for octal integers"
  | nullCharacter => "source code string cannot contain null bytes"
  | missingComma => "invalid syntax. Perhaps you forgot a comma?"
  | misplacedArgument => "positional argument follows keyword argument"
  | repeatedKeyword n => "keyword argument repeated: " ++ n
  | badKeyword => "expression cannot contain assignment, perhaps you meant \"==\"?"
  | straySign => "invalid syntax. Maybe you meant '==' or ':=' instead of '='?"
  | notAssignable t false => "cannot assign to " ++ t
  | notAssignable t true => "cannot assign to " ++ t ++ " here. Maybe you meant '==' instead of '='?"
  | duplicateParameter n => "duplicate argument '" ++ n ++ "' in function definition"
  | malformed => "invalid syntax"

/-- The report of a fault. -/
def message (f : CodeFault) : String :=
  f.cause.message ++ " (line " ++ (f.line.map toString).getD "None" ++ ")"

end CodeFault

end PegTemplate
