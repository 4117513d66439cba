import PegTemplate.Unicode.Digit

/-!
# Lines and indentation

* `splitLines` : cuts a text at every kind of line end, which it drops;
* `joinLines` : puts line feeds between lines;
* `dedent` : takes from all lines the longest indentation that they share;
* `indent` : puts a margin before every line that is not blank;
* `stripEnd`, `strip` : take blanks away.
-/

namespace PegTemplate
open Unicode

/-! ## Cutting and joining -/

/-- The characters that end a line. -/
def isLineEnd (c : Char) : Bool :=
  c == '\n' || c == '\r' || c == '\x0b' || c == '\x0c' || c == '\x1c' || c == '\x1d' || c == '\x1e'
    || c == '\x85' || c == '\u2028' || c == '\u2029'

/-- Puts a character before the first line. -/
def consLine (c : Char) : List (List Char) → List (List Char)
  | [] => [[c]]
  | l :: ls => (c :: l) :: ls

/-- The lines of a text. A carriage return and a line feed after it are one line end, and nothing
follows the last line end. -/
def splitLines : List Char → List (List Char)
  | [] => []
  | '\r' :: '\n' :: cs => [] :: splitLines cs
  | c :: cs => if isLineEnd c then [] :: splitLines cs else consLine c (splitLines cs)

/-- The lines with a line feed between any two. -/
def joinLines : List (List Char) → List Char
  | [] => []
  | [l] => l
  | l :: ls => l ++ '\n' :: joinLines ls

/-! ## Blanks -/

/-- A line of blanks, or none at all. -/
def isBlankLine (l : List Char) : Bool := l.all isBlank

/-- Takes the blanks at the end away. -/
def stripEnd (s : List Char) : List Char := (s.reverse.dropWhile isBlank).reverse

/-- Takes the blanks at both ends away. -/
def strip (s : List Char) : List Char := stripEnd (s.dropWhile isBlank)

/-- Takes the blank lines at both ends away. -/
def trimLines (ls : List (List Char)) : List (List Char) :=
  ((ls.dropWhile isBlankLine).reverse.dropWhile isBlankLine).reverse

/-! ## Indentation -/

/-- Only spaces and tabs indent. -/
def isIndent (c : Char) : Bool := c == ' ' || c == '\t'

/-- The indentation of a line, if the line holds more than that. -/
def margin? (l : List Char) : Option (List Char) :=
  if l.all isIndent then none else some (l.takeWhile isIndent)

/-- The longest common beginning of two lists. -/
def commonStart : List Char → List Char → List Char
  | a :: as, b :: bs => if a = b then a :: commonStart as bs else []
  | _, _ => []

/-- The longest indentation that all lines share which hold more than that. -/
def sharedMargin (ls : List (List Char)) : List Char :=
  match ls.filterMap margin? with
  | [] => []
  | m :: ms => ms.foldl commonStart m

/-- Takes the shared indentation away; lines of indentation alone become empty. -/
def dedent (ls : List (List Char)) : List (List Char) :=
  let n := (sharedMargin ls).length
  ls.map fun l => if l.all isIndent then [] else l.drop n

/-- Puts `margin` before every line that is not blank. -/
def indent (margin : List Char) (ls : List (List Char)) : List (List Char) :=
  ls.map fun l => if isBlankLine l then l else margin ++ l

/-! ## Facts -/

theorem consLine_ne_nil (c : Char) (ls : List (List Char)) : consLine c ls ≠ [] := by
  cases ls <;> simp [consLine]

theorem commonStart_self (l : List Char) : commonStart l l = l := by
  induction l with
  | nil => rfl
  | cons c cs ih => simp [commonStart, ih]

end PegTemplate
