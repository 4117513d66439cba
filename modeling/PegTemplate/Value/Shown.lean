import PegTemplate.Text.Quoted
import PegTemplate.Value.Basic

/-!
# How values are written

* `decimalText` : a number with a decimal point;
* `Value.shown` : any value, as a report or a result shows it.
-/

namespace PegTemplate

/-! ## Decimal numbers -/

/-- A number without trailing zeros: its digits, and the power of ten that they count. -/
def trimDecimal (digits : List Char) (exponent : Int) : List Char × Int :=
  let kept := (digits.reverse.dropWhile (· == '0')).reverse
  (kept, exponent + (digits.length - kept.length : Nat))

/-- Digits with a point after the first `place` of them, and zeros where there are none. -/
def placePoint (digits : List Char) (place : Int) : List Char :=
  if place ≤ 0 then '0' :: '.' :: List.replicate place.natAbs '0' ++ digits
  else
    let n := place.toNat
    let whole := digits.take n ++ List.replicate (n - digits.length) '0'
    whole ++ '.' :: (if digits.drop n = [] then ['0'] else digits.drop n)

/-- A power of ten with its sign and at least two digits. -/
def exponentText (e : Int) : List Char :=
  let digits := Nat.toDigits 10 e.natAbs
  'e' :: (if e < 0 then '-' else '+') :: List.replicate (2 - digits.length) '0' ++ digits

/-- The number `mantissa * 10 ^ exponent`: with its point in place if its size is between `1e-4` and
`1e16`, and otherwise with one digit before the point and a power of ten. -/
def decimalText (mantissa exponent : Int) : List Char :=
  let sign := if mantissa < 0 then ['-'] else []
  let (digits, e) := trimDecimal (Nat.toDigits 10 mantissa.natAbs) exponent
  if digits = [] then ['0', '.', '0']
  else
    let place := e + digits.length
    if -4 < place ∧ place ≤ 16 then sign ++ placePoint digits place
    else
      let fraction := if digits.length ≤ 1 then [] else '.' :: digits.drop 1
      sign ++ digits.take 1 ++ fraction ++ exponentText (place - 1)

/-! ## Values -/

/-- Texts with a comma and a space between any two. -/
def commaSeparated (ts : List String) : String := ", ".intercalate ts

/-- A position with the names of its parts. -/
def Position.shown (p : Position) : String :=
  "Position(offset=" ++ toString p.offset ++ ", line=" ++ toString p.line ++ ", column="
    ++ toString p.column ++ ")"

/-- A location with the names of its parts. -/
def Location.shown (l : Location) : String :=
  "SourceLocation(start=" ++ l.start.shown ++ ", end=" ++ l.stop.shown ++ ")"

/-- A builtin between angle brackets. -/
def Builtin.shown (b : Builtin) : String :=
  if b.isClass then "<class '" ++ b.name ++ "'>" else "<built-in function " ++ b.name ++ ">"

/-- What stands between the brackets of a tuple: a single item has a comma after it. -/
def tupleText : List String → String
  | [t] => t ++ ","
  | ts => commaSeparated ts

/-- Text between braces. -/
def braced (s : String) : String := "\x7b" ++ s ++ "\x7d"

namespace Value

mutual

/-- How a value is written. -/
def shown : Value → String
  | none => "None"
  | bool b => if b then "True" else "False"
  | int n => toString n
  | decimal m e => String.ofList (decimalText m e)
  | text s => quoteString s
  | list vs => "[" ++ commaSeparated (shownAll vs) ++ "]"
  | tuple vs => "(" ++ tupleText (shownAll vs) ++ ")"
  | dict es => braced (commaSeparated (shownEntries es))
  | view es => "mappingproxy(" ++ braced (commaSeparated (shownEntries es)) ++ ")"
  | position p => p.shown
  | location l => l.shown
  | context t _ _ => match t with
    | matchedText s => "ActionContext(text=" ++ quoteString s ++ ")"
    | _ => "ActionContext"
  | matchedText _ | matchedLocation _ => "<function>"
  | callable _ s => s
  | builtin b => b.shown
  | getter _ => "<built-in method get>"

/-- How the members of a list are written. -/
def shownAll : List Value → List String
  | [] => []
  | v :: vs => shown v :: shownAll vs

/-- How the entries of a table are written. -/
def shownEntries : List (Value × Value) → List String
  | [] => []
  | e :: es => shownEntry e :: shownEntries es

/-- How one entry is written. -/
def shownEntry : Value × Value → String
  | (k, v) => shown k ++ ": " ++ shown v

end

end Value

end PegTemplate
