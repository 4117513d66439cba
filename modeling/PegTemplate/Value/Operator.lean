import PegTemplate.Unicode.Digit
import PegTemplate.Value.Fault

/-!
# Operations on values

* `Value.elements` : the members of a collection, in order;
* `Value.add`, `Value.subtract`, `Value.multiply`, `Value.divide` : arithmetic, and what addition and
  multiplication do to collections;
* `Value.sum` : addition over a collection;
* `integerOf?`, `Value.toInteger` : whole numbers from their decimal digits;
* `Value.item` : a member of a collection by its number.
-/

namespace PegTemplate
open Unicode

/-! ## Decimal digits -/

/-- The blanks that may stand around a number: all but the four separators of ASCII. -/
def isNumberBlank (c : Char) : Bool := isBlank c && !('\x1c' ≤ c && c ≤ '\x1f')

/-- The number that digits stand for, after those of value `acc`. A single underscore may stand between
two digits; `digit` says that the character before was one. -/
def digitsValue? : (acc : Nat) → (digit : Bool) → List Char → Option Nat
  | acc, digit, [] => if digit then some acc else none
  | acc, digit, c :: cs =>
    if c = '_' then if digit then digitsValue? acc false cs else none
    else match digitValue? c.toNat with
      | some d => digitsValue? (acc * 10 + d) true cs
      | none => none

/-- Takes what satisfies `p` away at both ends. -/
def trimBy (p : Char → Bool) (s : List Char) : List Char :=
  ((s.dropWhile p).reverse.dropWhile p).reverse

/-- The whole number that a text is, perhaps with a sign, and blanks around it. -/
def integerOf? (s : List Char) : Option Int :=
  match trimBy isNumberBlank s with
  | '-' :: cs => (digitsValue? 0 false cs).map fun n => -(n : Int)
  | '+' :: cs => (digitsValue? 0 false cs).map fun n => (n : Int)
  | cs => (digitsValue? 0 false cs).map fun n => (n : Int)

namespace Value

/-! ## Collections -/

/-- The members of a text are its characters, and those of a dictionary its keys. -/
def elements? : Value → Option (List Value)
  | text s => some (s.toList.map fun c => text (String.singleton c))
  | list vs | tuple vs => some vs
  | dict es | view es => some (es.map (·.1))
  | _ => Option.none

/-- The members of a collection. -/
def elements (v : Value) : Except Fault (List Value) :=
  match v.elements? with
  | some vs => .ok vs
  | Option.none => .error (.notIterable v.typeName)

/-- The number of members. -/
def length (v : Value) : Except Fault Nat :=
  match v.elements? with
  | some vs => .ok vs.length
  | Option.none => .error (.noLength v.typeName)

/-- The member number `n`, or the last one. -/
def item (v : Value) (n : Option Nat) : Except Fault Value :=
  let pick (vs : List Value) (type : String) : Except Fault Value :=
    match (match n with | some n => vs[n]? | Option.none => vs.getLast?) with
    | some v => .ok v
    | Option.none => .error (.outOfRange type)
  match v with
  | list vs => pick vs "list"
  | tuple vs => pick vs "tuple"
  | text s => pick (s.toList.map fun c => text (String.singleton c)) "string"
  | v => .error (.notSubscriptable v.typeName)

/-- A key, which must not be one of the collections that can change. -/
def asKey (v : Value) : Except Fault Value :=
  match v.unhashable? with
  | some t => .error (.unhashable t)
  | Option.none => .ok v

/-! ## Arithmetic -/

/-- The sum of two numbers, or one collection after another of its type. -/
def add (a b : Value) : Except Fault Value :=
  match a, b with
  | text s, text t => .ok (text (s ++ t))
  | list xs, list ys => .ok (list (xs ++ ys))
  | tuple xs, tuple ys => .ok (tuple (xs ++ ys))
  | text _, _ | list _, _ | tuple _, _ => .error (.badConcatenation a.typeName b.typeName)
  | _, _ => match a.number?, b.number? with
    | some m, some n => .ok (int (m + n))
    | _, _ => .error (.badOperands "+" a.typeName b.typeName)

/-- The difference of two numbers. -/
def subtract (a b : Value) : Except Fault Value :=
  match a.number?, b.number? with
  | some m, some n => .ok (int (m - n))
  | _, _ => .error (.badOperands "-" a.typeName b.typeName)

/-- A collection as often as a number says. -/
def repeated? (v : Value) (n : Int) : Option Value :=
  match v with
  | text s => some (text (String.join (List.replicate n.toNat s)))
  | list vs => some (list (List.replicate n.toNat vs).flatten)
  | tuple vs => some (tuple (List.replicate n.toNat vs).flatten)
  | _ => Option.none

/-- It is a text, a list or a tuple. -/
def isSequence : Value → Bool
  | text _ | list _ | tuple _ => true
  | _ => false

/-- The product of two numbers, or of a collection and a number. -/
def multiply (a b : Value) : Except Fault Value :=
  match a.number?, b.number? with
  | some m, some n => .ok (int (m * n))
  | Option.none, some n => match a.repeated? n with
    | some v => .ok v
    | Option.none => .error (.badOperands "*" a.typeName b.typeName)
  | some m, Option.none => match b.repeated? m with
    | some v => .ok v
    | Option.none => .error (.badOperands "*" a.typeName b.typeName)
  | Option.none, Option.none =>
    if a.isSequence then .error (.badRepetition b.typeName)
    else if b.isSequence then .error (.badRepetition a.typeName)
    else .error (.badOperands "*" a.typeName b.typeName)

/-- The quotient of two numbers, rounded down. -/
def divide (a b : Value) : Except Fault Value :=
  match a.number?, b.number? with
  | some m, some n => if n = 0 then .error .divisionByZero else .ok (int (Int.fdiv m n))
  | _, _ => .error (.badOperands "//" a.typeName b.typeName)

/-- Adds members to `acc`, from left to right. -/
def addAll : Value → List Value → Except Fault Value
  | acc, [] => .ok acc
  | acc, v :: vs => match acc.add v with
    | .ok s => addAll s vs
    | .error e => .error e

/-- The sum of the members of a collection and `start`, which must not be a text. -/
def sum (v start : Value) : Except Fault Value :=
  match v.elements, start with
  | .error e, _ => .error e
  | .ok _, text _ => .error .sumOfTexts
  | .ok vs, start => addAll start vs

/-- The whole number that a value is or stands for. Decimals lose what follows the point. -/
def toInteger : Value → Except Fault Int
  | int n => .ok n
  | bool b => .ok (if b then 1 else 0)
  | decimal m e => .ok (if 0 ≤ e then m * Int.pow 10 e.toNat else Int.tdiv m (Int.pow 10 (-e).toNat))
  | text s => match integerOf? s.toList with
    | some n => .ok n
    | Option.none => .error (.invalidInteger s)
  | v => .error (.notNumeric v.typeName)

end Value

end PegTemplate
