/-!
# Positions in a text

* `Position`, `Location` : an offset with its line and column, and a stretch between two of them;
* `positionAt`, `locationOf` : computed from a text and offsets, which may lie past its end;
* `snippetAt` : the line that holds an offset, with a caret under it.

Offsets start at 0, lines and columns at 1, and only a line feed ends a line.
-/

namespace PegTemplate

/-- A place in a text. -/
structure Position where
  offset : Nat
  line : Nat
  column : Nat
  deriving DecidableEq, Inhabited

/-- The stretch of a text from `start` up to `stop`. -/
structure Location where
  start : Position
  stop : Position
  deriving DecidableEq, Inhabited

/-- The offset at which the line that holds `offset` starts. -/
def lineStart (src : List Char) (offset : Nat) : Nat :=
  let before := src.take offset
  before.length - (before.reverse.takeWhile (· != '\n')).length

/-- The position of `offset`: its line is one more than the line feeds before it. -/
def positionAt (src : List Char) (offset : Nat) : Position where
  offset := offset
  line := (src.take offset).count '\n' + 1
  column := offset - lineStart src offset + 1

/-- The location between two offsets. -/
def locationOf (src : List Char) (start stop : Nat) : Location where
  start := positionAt src start
  stop := positionAt src stop

/-- The text of the line that holds `offset`. -/
def lineAt (src : List Char) (offset : Nat) : List Char :=
  (src.drop (lineStart src offset)).takeWhile (· != '\n')

/-- The line that holds `offset`, and below it a caret under that offset. -/
def snippetAt (src : List Char) (offset : Nat) : List Char :=
  lineAt src offset ++ '\n' :: List.replicate (offset - lineStart src offset) ' ' ++ ['^']

theorem lineStart_le (src : List Char) (offset : Nat) : lineStart src offset ≤ offset := by
  have h := List.length_take_le offset src
  simp only [lineStart]
  omega

/-- The offset is where its line starts, and then as many characters as its column says. -/
theorem offset_eq_lineStart_add (src : List Char) (offset : Nat) :
    offset + 1 = lineStart src offset + (positionAt src offset).column := by
  have h := lineStart_le src offset
  simp only [positionAt]
  omega

end PegTemplate
