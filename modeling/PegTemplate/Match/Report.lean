import PegTemplate.Match.Eval
import PegTemplate.Text.Position
import PegTemplate.Value.Shown

/-!
# Whole texts

* `InputError` : a text does not match: where the farthest failures are, what was expected there, and what
  was found;
* `InputError.message` : the report, with the line and a caret under the place;
* `Matcher.parseAll` : matches a whole text.
-/

namespace PegTemplate

/-- A text does not match. -/
structure InputError where
  /-- The character that was found, or the end of the text. -/
  location : Location
  /-- What was expected, in the order of code points. -/
  expected : List String
  /-- The character that was found; `none` is the end of the text. -/
  found : Option Char
  /-- The line of the place, and a caret under the place. -/
  snippet : String
  deriving DecidableEq, Inhabited

/-- Alternatives in a report. -/
def joinAlternatives : List String → String
  | [] => "nothing"
  | [a] => a
  | [a, b] => a ++ " or " ++ b
  | as => commaSeparated as.dropLast ++ ", or " ++ as.getLastD ""

/-- What was found, in a report. -/
def foundText : Option Char → String
  | some c => quoteString (String.singleton c)
  | none => "end of input"

/-- The report of a text that does not match. -/
def InputError.message (e : InputError) : String :=
  "Expected " ++ joinAlternatives e.expected ++ " but " ++ foundText e.found ++ " found (line "
    ++ toString e.location.start.line ++ ", column " ++ toString e.location.start.column ++ ")\n" ++ e.snippet

/-- The error that the record of failures makes. -/
def inputErrorAt (text : List Char) (position : Nat) (expected : List String) : InputError where
  location := locationOf text position (position + if position < text.length then 1 else 0)
  expected := expected.mergeSort
  found := text[position]?
  snippet := String.ofList (snippetAt text position)

/-- Why a text has no value. -/
inductive ParseError (ε : Type) where
  | mismatch (error : InputError)
  | halted (halt : Halt ε)
  deriving Inhabited

section
variable {σ ε : Type}

/-- Matches the whole text with a rule; the value, or the report of the farthest failures. The end of the
text is expected where a match ends too early. -/
def Matcher.parseAll (m : Matcher σ ε) (name : String) : EStateM (ParseError ε) (State σ) Value := fun s =>
  match m.parse name 0 s with
  | .error e s => .error (.halted e) s
  | .ok .failed s => .error (.mismatch (inputErrorAt m.text s.farthest s.expected)) s
  | .ok (.matched stop v) s =>
    if stop = m.text.length then .ok v s
    else
      let s := s.note stop "end of input"
      .error (.mismatch (inputErrorAt m.text s.farthest s.expected)) s

end

end PegTemplate
