import PegTemplate.Unicode.Printable

/-!
# Quoted text

* `quote` : a text between quotes, in which whatever could not be read is escaped;
* `quoteString` : the same for a `String`;
* `codes`, `textOf` : from characters to code points and back.

The quote is the single one, unless the text holds single quotes and no double ones.
-/

namespace PegTemplate
open Unicode

/-- The digit of `n < 16`. -/
def hexDigit (n : Nat) : Char :=
  if n < 10 then Char.ofNat (48 + n) else Char.ofNat (87 + n)

/-- The last `width` hexadecimal digits of `n`. -/
def hexDigits : (width n : Nat) → List Char
  | 0, _ => []
  | w + 1, n => hexDigits w (n / 16) ++ [hexDigit (n % 16)]

/-- The quote that a text is put between. -/
def quoteMark (s : List CodePoint) : Char :=
  if s.contains 39 && !s.contains 34 then '"' else '\''

/-- How one code point stands between quotes `q`. -/
def escape (q : Char) (c : CodePoint) : List Char :=
  if c = q.toNat then ['\\', q]
  else if c = 92 then ['\\', '\\']
  else if c = 10 then ['\\', 'n']
  else if c = 13 then ['\\', 'r']
  else if c = 9 then ['\\', 't']
  else if isPrintable c then [Char.ofNat c]
  else if c < 0x100 then '\\' :: 'x' :: hexDigits 2 c
  else if c < 0x10000 then '\\' :: 'u' :: hexDigits 4 c
  else '\\' :: 'U' :: hexDigits 8 c

/-- The text between quotes. -/
def quote (s : List CodePoint) : List Char :=
  let q := quoteMark s
  q :: s.flatMap (escape q) ++ [q]

/-- The code points of a text. -/
def codes (s : List Char) : List CodePoint := s.map Char.toNat

/-- A text from code points; one that is no character becomes the replacement character. -/
def textOf (cs : List CodePoint) : String :=
  String.ofList (cs.map fun c => if c.isValidChar then Char.ofNat c else '\uFFFD')

/-- A string between quotes. -/
def quoteString (s : String) : String := String.ofList (quote (codes s.toList))

theorem length_hexDigits (w n : Nat) : (hexDigits w n).length = w := by
  induction w generalizing n with
  | zero => rfl
  | succ w ih => simp [hexDigits, ih]

end PegTemplate
