/-!
# Tables of code points

* `CodePoint` : the number of a character, or of a surrogate, which is no character;
* `Ranges` : a set of code points, written as a list of intervals; `Ranges.has` is membership;
* `Runs` : a partial map of code points, written as stretches that are shifted by one amount;
  `Runs.target?` is look-up.
-/

namespace PegTemplate

/-- The number of a character, or of a surrogate, which is no character. -/
abbrev CodePoint := Nat

namespace Unicode

/-- A set of code points: closed intervals in rising order. -/
abbrev Ranges := List (CodePoint × CodePoint)

/-- `c` lies in one of the intervals. -/
def Ranges.has (rs : Ranges) (c : CodePoint) : Bool :=
  rs.any fun r => r.1 ≤ c && c ≤ r.2

theorem Ranges.has_iff {rs : Ranges} {c : CodePoint} :
    rs.has c = true ↔ ∃ r ∈ rs, r.1 ≤ c ∧ c ≤ r.2 := by
  simp [Ranges.has]

/-- Every `step`-th code point from `first` to `last` is moved by `shift`. -/
structure Run where
  first : CodePoint
  last : CodePoint
  step : Nat
  shift : Int
  deriving DecidableEq

/-- The run says where `c` goes. -/
def Run.covers (r : Run) (c : CodePoint) : Bool :=
  r.first ≤ c && c ≤ r.last && (c - r.first) % r.step == 0

/-- A partial map of code points. -/
abbrev Runs := List Run

/-- Where `c` goes, if some run covers it. -/
def Runs.target? (rs : Runs) (c : CodePoint) : Option CodePoint :=
  (List.find? (·.covers c) rs).map fun r => ((c : Int) + r.shift).toNat

theorem Runs.target?_eq_none_iff {rs : Runs} {c : CodePoint} :
    rs.target? c = none ↔ ∀ r ∈ rs, r.covers c = false := by
  simp [Runs.target?]

end Unicode

end PegTemplate
